import FilterClause.Proofs.Junction

/-!
Expressions in place of fields. An equality filter looks its key up as it is written, a special filter
without the white space at its ends, so the two agree on the keys that are looked up alike either way.
An expression is raw text in every condition but those that compare its column with another field:
there it takes the place of the value, and is quoted or bound as one.
-/
namespace FilterClause

open Checked

theorem Text.trim_ne_empty {s : String} (h : isBlank s = false) : trim s ≠ "" := by
  rw [ne_eq, trim_eq_empty_iff, h]
  exact Bool.false_ne_true

/-! ### Looking a key up -/

/-- An equality filter is resolved under every key that is not blank. -/
theorem Comparison.resolve_of_ink {key : String} (hkey : Text.isBlank key = false) (filter : Equality)
    (columns : Columns) :
    ∃ comparison, resolve key filter columns = .ok comparison ∧
      comparison.substituted = (columns.find? key).isSome ∧
      comparison.field = writtenField key filter columns := by
  unfold resolve writtenField
  rw [hkey]
  cases columns.find? key <;> exact ⟨_, rfl, rfl, rfl⟩

theorem Comparison.isSubstituted_of_ink {key : String} (hkey : Text.isBlank key = false)
    (columns : Columns) :
    isSubstituted key columns = .ok (columns.find? (Text.trim key)).isSome := by
  rw [isSubstituted, if_neg (Text.trim_ne_empty hkey)]

theorem Special.substitute_of_ink {key : String} (hkey : Text.isBlank key = false)
    (columns : Columns) : substitute key columns = .ok (writtenField key columns) := by
  have hink := Text.trim_ne_empty hkey
  have hagain : Text.isBlank (Text.trim key) = false := by
    rw [Bool.eq_false_iff, ne_eq, ← Text.trim_eq_empty_iff, Text.trim_trim]
    exact hink
  unfold substitute writtenField
  dsimp only
  rw [if_neg hink, Comparison.isSubstituted_of_ink hagain, wrap_ok, Text.trim_trim]
  cases columns.find? (Text.trim key) <;> rfl

/-- Equality filters and special filters agree on a key, both on whether an expression stands for it and
on which one, just when the key is looked up alike with and without the white space at its ends. -/
theorem Comparison.substitution_agrees_iff {key : String} (hkey : Text.isBlank key = false)
    (filter : Equality) (columns : Columns) :
    ∃ comparison substituted field,
      resolve key filter columns = .ok comparison ∧
      isSubstituted key columns = .ok substituted ∧
      Special.substitute key columns = .ok field ∧
      ((comparison.substituted = substituted ∧ (substituted = true → comparison.field = field)) ↔
        columns.find? key = columns.find? (Text.trim key)) := by
  obtain ⟨comparison, hresolve, hsubstituted, hfield⟩ := resolve_of_ink hkey filter columns
  refine ⟨comparison, _, _, hresolve, isSubstituted_of_ink hkey columns,
    Special.substitute_of_ink hkey columns, ?_⟩
  rw [hsubstituted, hfield, writtenField, Special.writtenField]
  cases columns.find? key <;> cases columns.find? (Text.trim key) <;> simp

/-- White space around a key does not matter where both spellings are columns. -/
theorem Comparison.substitution_agrees_of_two_spellings :
    ∃ comparison substituted field,
      resolve " total\t" { value := .integer 1, field := some "t.a" }
        [("total", "(SELECT 1)"), (" total\t", "(SELECT 1)")] = .ok comparison ∧
      isSubstituted " total\t" [("total", "(SELECT 1)"), (" total\t", "(SELECT 1)")] =
        .ok substituted ∧
      Special.substitute " total\t" [("total", "(SELECT 1)"), (" total\t", "(SELECT 1)")] = .ok field ∧
      comparison.substituted = substituted ∧ (substituted = true → comparison.field = field) := by
  obtain ⟨comparison, substituted, field, hresolve, hsubstituted, hfield, hiff⟩ :=
    substitution_agrees_iff (by decide : Text.isBlank " total\t" = false)
      { value := .integer 1, field := some "t.a" }
      [("total", "(SELECT 1)"), (" total\t", "(SELECT 1)")]
  exact ⟨comparison, substituted, field, hresolve, hsubstituted, hfield, hiff.mpr (by decide +kernel)⟩

/-- A column with white space around it is found by a special filter alone. -/
theorem Comparison.substitution_disagrees :
    Text.isBlank " total " = false ∧
      resolve " total " { value := .integer 1 } [("total", "(SELECT 1)")] =
        .ok { field := " total ", value := "1", typed := .integer 1, substituted := false } ∧
      isSubstituted " total " [("total", "(SELECT 1)")] = .ok true ∧
      Special.substitute " total " [("total", "(SELECT 1)")] = .ok "(SELECT 1)" := by
  refine ⟨by decide, ?_, ?_, ?_⟩ <;> rfl

/-! ### Expressions in conditions -/

/-- In a chain the condition of an element is the first one, or stands behind the word of the element. -/
theorem Joins.chain_around {α : Type} {link : Bool → α → Checked Link} {admits : α → Prop}
    {word : α → String} (h : Joins link admits word) {front back : List α} {a : α} {o : Outline}
    (ho : Outline.chain <$> links link true (front ++ a :: back) = .ok o) :
    ∃ l before after, link true a = .ok l ∧ o = before ++ (l.2 ++ after) ∧
      (before = [] ∨ ∃ written, before = written ++ .ofText (" " ++ word a ++ " ")) := by
  have hfirst : ∀ {o}, Outline.chain <$> links link true (a :: back) = .ok o →
      ∃ l after, link true a = .ok l ∧ o = l.2 ++ after := by
    intro o ho
    obtain ⟨ls, hls, rfl⟩ := map_eq_ok_iff.mp ho
    obtain ⟨l, more, hl, _, rfl⟩ := links_cons_eq_ok_iff.mp hls
    exact ⟨l, _, hl, Outline.chain_cons (h.ne_nil true a l hl) more⟩
  cases front with
  | nil =>
    obtain ⟨l, after, hl, hchain⟩ := hfirst ho
    exact ⟨l, [], after, hl, hchain, .inl rfl⟩
  | cons x front =>
    obtain ⟨written, rest, _, hrest, _, hchain⟩ := h.chain_eq_ok_iff.mp ho
    obtain ⟨l, after, hl, rfl⟩ := hfirst hrest
    refine ⟨l, written ++ .ofText (" " ++ word a ++ " "), after, hl, ?_, .inr ⟨written, rfl⟩⟩
    rw [hchain, List.append_assoc]

/-- Holds of a fragment with a condition in it, the first one there or one behind a connective. -/
def Compiler.Shows (c : Compiler) (offset : Nat) (fragment : Fragment) (t : Template) : Prop :=
  ∃ before after : Outline, fragment = c.fragment offset (before ++ (.ofTemplate t ++ after)) ∧
    (before = [] ∨ ∃ written word, before = written ++ .ofText (" " ++ word ++ " "))

theorem Joins.shows {α : Type} {link : Bool → α → Checked Link} {admits : α → Prop}
    {word : α → String} (h : Joins link admits word) {render : List α → Writing String}
    (hw : ∀ as, Writes (render as) (Outline.chain <$> links link true as)) {c : Compiler}
    {offset : Nat} {front back : List α} {a : α} {fragment : Fragment}
    (hrun : c.run offset (render (front ++ a :: back)) = .ok fragment) :
    ∃ l, link true a = .ok l ∧ ∀ t, l.2 = .ofTemplate t → c.Shows offset fragment t := by
  obtain ⟨o, ho, rfl⟩ := (c.run_eq_ok_iff offset (hw _)).mp hrun
  obtain ⟨l, before, after, hl, rfl, hbefore⟩ := h.chain_around ho
  refine ⟨l, hl, fun t ht => ⟨before, after, by rw [ht], ?_⟩⟩
  exact hbefore.imp_right fun ⟨written, hwritten⟩ => ⟨written, _, hwritten⟩

/-- Holds of a condition in which a field is raw text in front of an operator, and only the value that
it is compared with is in a hole. -/
def Template.Verbatim (field : String) (t : Template) : Prop :=
  ∃ operator value, t = Conjunction.term field operator value

/-- A field that is compared with another one is itself the value of the hole. -/
theorem Special.form_verbatim_iff (field operator : String) (value : Scalar) (bound : Bound) :
    (form field operator value bound).Verbatim field ↔ bound = .literal := by
  cases bound with
  | literal => exact ⟨fun _ => rfl, fun _ => ⟨operator, value, rfl⟩⟩
  | field =>
    constructor
    · rintro ⟨_, _, hform⟩
      exact nomatch hform
    · exact nofun

/-- The expression that stands for a key is written as it is in the condition of an equality filter, and
in that of a special filter just when its value is a literal. -/
theorem Compiler.expression_verbatim_iff (c : Compiler) (offset : Nat) (columns : Columns)
    (expression : String) :
    (∀ (filterType : FilterType) (front back : Entries Equality) (key : String) (filter : Equality)
        (fragment : Fragment), columns.find? key = some expression →
      c.run offset (Conjunction.render filterType columns (front ++ (key, filter) :: back)) =
        .ok fragment →
      c.Shows offset fragment (Conjunction.term expression
        (Conjunction.operator filter (Conjunction.usualOperator filterType))
        (Conjunction.boundValue filterType filter))) ∧
    (∀ (front back : List (Group Special)) (group : Group Special) (fragment : Fragment),
      columns.find? (Text.trim group.field) = some expression →
      c.run offset (Special.render columns (front ++ group :: back)) = .ok fragment →
      ∃ operator value t, group.filter.operator = some operator ∧ group.filter.value = some value ∧
        t = Special.form expression operator value group.filter.bound ∧
        c.Shows offset fragment t ∧ (t.Verbatim expression ↔ group.filter.bound = .literal)) := by
  constructor
  · intro filterType front back key filter fragment hcolumn hrun
    obtain ⟨l, hl, hshows⟩ := (Conjunction.joins filterType columns).shows
      (Conjunction.render_writes filterType columns) hrun
    obtain ⟨⟨connective, t⟩, hcondition, rfl⟩ := map_eq_ok_iff.mp hl
    obtain ⟨_, _, _, rfl⟩ := Conjunction.of_condition hcondition
    have hfield : Comparison.writtenField key filter columns = expression := by
      rw [Comparison.writtenField, hcolumn]
    exact hshows _ (by rw [hfield])
  · intro front back group fragment hcolumn hrun
    obtain ⟨l, hl, hshows⟩ := (Special.joins columns).shows (Special.render_writes columns) hrun
    obtain ⟨key, t, hcondition, htemplate, _⟩ := Special.of_link hl
    obtain ⟨_, _, _, operator, value, hoperator, hvalue, _, _, _, rfl⟩ :=
      Special.of_condition hcondition
    have hfield : Special.writtenField group.field columns = expression := by
      rw [Special.writtenField, hcolumn, Option.getD_some]
    rw [hfield] at htemplate
    exact ⟨operator, value, _, hoperator, hvalue, rfl, hshows _ htemplate,
      Special.form_verbatim_iff expression operator value group.filter.bound⟩

/-- An expression with quotes in it. -/
def Columns.quoting : Columns :=
  [("total", "(SELECT 'x')")]

/-- Neither the field that is given in place of the key nor the white space around it matters. -/
theorem Compiler.expression_verbatim_of_quotes :
    (∃ fragment, ({ options := { mode := .placeholder } } : Compiler).run 2
        (Conjunction.render .texts .quoting
          ([("t.a", { value := .integer 1 })] ++
            [("total", { value := .text " y ", field := some "t.b" })])) = .ok fragment ∧
      ({ options := { mode := .placeholder } } : Compiler).Shows 2 fragment
        (Conjunction.term "(SELECT 'x')" "LIKE" (.text "%y%"))) ∧
    (∃ fragment operator value t, ({} : Compiler).run 0
        (Special.render .quoting
          ([] ++ [⟨" total ", { operator := some ">", value := some (.integer 5) }⟩])) = .ok fragment ∧
      t = Special.form "(SELECT 'x')" operator value .literal ∧ ({} : Compiler).Shows 0 fragment t ∧
      t.Verbatim "(SELECT 'x')") := by
  constructor
  · obtain ⟨fragment, hrun⟩ := exists_eq_ok
      (by decide +kernel : (({ options := { mode := .placeholder } } : Compiler).run 2
        (Conjunction.render .texts .quoting
          ([("t.a", { value := .integer 1 })] ++
            [("total", { value := .text " y ", field := some "t.b" })]))).toBool = true)
    have hshows := (expression_verbatim_iff _ 2 .quoting "(SELECT 'x')").1 .texts _ [] _ _ fragment
      (by decide) hrun
    exact ⟨fragment, hrun, hshows⟩
  · obtain ⟨fragment, hrun⟩ := exists_eq_ok
      (by decide +kernel : (({} : Compiler).run 0 (Special.render .quoting
        ([] ++ [⟨" total ", { operator := some ">", value := some (.integer 5) }⟩]))).toBool = true)
    obtain ⟨operator, value, t, _, _, hform, hshows, hverbatim⟩ :=
      (expression_verbatim_iff {} 0 .quoting "(SELECT 'x')").2 [] [] _ fragment (by decide +kernel) hrun
    exact ⟨fragment, operator, value, t, hrun, hform, hshows, hverbatim.mpr rfl⟩

/-- The expression of a column that is compared with another field is escaped as a literal, or bound. -/
theorem Compiler.expression_not_verbatim :
    (∃ fragment, ({} : Compiler).run 0 (Special.render .quoting
        [⟨"total", { operator := some ">", value := some (.text "t.b"), bound := .field }⟩]) =
          .ok fragment ∧
      fragment.sql = "'(SELECT \\'x\\')'>t.b" ∧
      ¬ "(SELECT 'x')".toList <:+: fragment.sql.toList) ∧
    (∃ fragment, ({ options := { mode := .placeholder } } : Compiler).run 0 (Special.render .quoting
        [⟨"total", { operator := some ">", value := some (.text "t.b"), bound := .field }⟩]) =
          .ok fragment ∧
      fragment = ⟨"$1>t.b", [.text "(SELECT 'x')"]⟩) := by
  refine ⟨⟨_, rfl, ?_, ?_⟩, ⟨_, rfl, ?_⟩⟩ <;> decide +kernel

end FilterClause
