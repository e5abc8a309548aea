import FilterClause.Proofs.Joining
import FilterClause.Proofs.PlainText

/-!
Extra filters as special filters. The two loops check the attributes of a group in different orders, and one
of them escapes the field where the other one looks for an expression. Without expressions they accept the
same groups, but for the connective of the first one, and write the same where escaping changes nothing.
-/
namespace FilterClause

open Checked

theorem Literal.escape_of_plain {s : String} (h : Text.Plain s) : escape s = s := by
  have hchar : ∀ c ∈ s.toList, escapeChar c = [c] := by
    intro c hc
    obtain ⟨hquote, hdouble, hbackslash, hnul⟩ := h c hc
    unfold escapeChar
    split <;> simp_all
  have hall : escapeChars s.toList = s.toList := by
    rw [escapeChars, List.flatMap_congr hchar, List.flatMap_singleton']
  rw [escape, hall, String.ofList_toList]

/-! ### Groups that can be compared -/

/-- Holds of a group that may be compared with its value by its operator. -/
structure Extra.Comparable (group : Group Extra) (operator : String) (value : Scalar) : Prop where
  ink : Text.trim group.field ≠ ""
  notNumeric : isNumericKey (Text.trim group.field) = false
  operator_eq : group.filter.operator = some operator
  operatorInk : Text.isBlank operator = false
  value_eq : group.filter.value = some value
  valuePresent : value.isNull = false
  valueInk : value.isBlank = false

namespace Extra

variable {group : Group Extra}

theorem Comparable.readField {operator : String} {value : Scalar}
    (h : Comparable group operator value) :
    Group.readField group.field = .ok (Text.trim group.field) := by
  simp [Group.readField, h.ink, h.notNumeric]

theorem Comparable.readOperator {operator : String} {value : Scalar}
    (h : Comparable group operator value) (field : String) :
    Group.readOperator group.filter.operator field = .ok operator := by
  simp [Group.readOperator, h.operator_eq, h.operatorInk]

theorem Comparable.readValue {operator : String} {value : Scalar}
    (h : Comparable group operator value) (field : String) :
    Group.readValue group.filter.value field = .ok value := by
  simp [Group.readValue, h.value_eq, h.valuePresent, h.valueInk]

theorem condition_eq_ok_iff {connective : Connective} {t : Template} :
    condition group = .ok (connective, t) ↔
      Group.readConnective group.filter.connective (Text.trim group.field) = .ok connective ∧
        ∃ operator value, Comparable group operator value ∧
          t = [.raw (Literal.escape (Text.trim group.field) ++ " " ++ operator ++ " "),
            .hole value] := by
  constructor
  · intro h
    obtain ⟨hink, hnumeric, hread, operator, value, hoperator, hvalue, hblank, hnull, hvalueInk, ht⟩ :=
      of_condition h
    exact ⟨hread, operator, value, ⟨hink, hnumeric, hoperator, hblank, hvalue, hnull, hvalueInk⟩, ht⟩
  · rintro ⟨hread, operator, value, h, rfl⟩
    rw [condition, h.readField, wrap_ok, ok_bind, h.readValue, ok_bind, h.readOperator, ok_bind, hread]
    rfl

/-- The same group as a special filter that compares with a literal. -/
def asSpecial (group : Group Extra) : Group Special where
  field := group.field
  filter :=
    { operator := group.filter.operator
      value := group.filter.value
      bound := .literal
      connective := group.filter.connective }

theorem condition_asSpecial_eq_ok_iff {key : String} {t : Template} :
    Special.condition [] (asSpecial group) = .ok (key, t) ↔
      key = Text.trim group.field ∧ ∃ operator value, Comparable group operator value ∧
        t = [.raw (Text.trim group.field ++ " " ++ operator ++ " "), .hole value] := by
  constructor
  · intro h
    obtain ⟨rfl, hink, hnumeric, operator, value, hoperator, hvalue, hblank, hnull, hvalueInk, ht⟩ :=
      Special.of_condition h
    exact ⟨rfl, operator, value, ⟨hink, hnumeric, hoperator, hblank, hvalue, hnull, hvalueInk⟩, ht⟩
  · rintro ⟨rfl, operator, value, h, rfl⟩
    have hfield : Group.readField (asSpecial group).field = .ok (Text.trim group.field) := h.readField
    have hwritten : Special.substitute (Text.trim group.field) [] = .ok (Text.trim group.field) := by
      simp [Special.substitute, Comparison.isSubstituted, Text.trim_trim, h.ink, Entries.find?,
        wrap_ok]
    have hcompare : Special.compare (Text.trim group.field) (asSpecial group).filter =
        .ok [.raw (Text.trim group.field ++ " " ++ operator ++ " "), .hole value] := by
      have hoperator := h.readOperator (Text.trim group.field)
      have hvalue := h.readValue (Text.trim group.field)
      simp only [Special.compare, asSpecial, hoperator, hvalue, ok_bind]
      rfl
    rw [Special.condition, hfield, wrap_ok, ok_bind, hwritten, ok_bind, hcompare, wrap_ok, ok_bind]
    rfl

/-! ### Links -/

theorem exists_link_iff {first : Bool} :
    (∃ l, link first group = .ok l) ↔
      Connective.Given group.filter.connective ∧
        ∃ operator value, Comparable group operator value := by
  constructor
  · rintro ⟨l, hl⟩
    obtain ⟨⟨connective, t⟩, hcondition, _⟩ := map_eq_ok_iff.mp hl
    obtain ⟨hread, operator, value, hcomparable, _⟩ := condition_eq_ok_iff.mp hcondition
    exact ⟨(Group.readConnective_eq_ok_iff.mp hread).1, operator, value, hcomparable⟩
  · rintro ⟨hgiven, operator, value, hcomparable⟩
    obtain ⟨connective, hread⟩ := Group.readConnective_of_given (Text.trim group.field) hgiven
    have hcondition := condition_eq_ok_iff.mpr ⟨hread, operator, value, hcomparable, rfl⟩
    exact ⟨_, map_eq_ok_iff.mpr ⟨_, hcondition, rfl⟩⟩

theorem exists_link_asSpecial_iff {first : Bool} :
    (∃ l, Special.link [] first (asSpecial group) = .ok l) ↔
      (first = false → Connective.Given group.filter.connective) ∧
        ∃ operator value, Comparable group operator value := by
  constructor
  · rintro ⟨l, hl⟩
    obtain ⟨key, t, hcondition, _, hword⟩ := Special.of_link hl
    obtain ⟨_, operator, value, hcomparable, _⟩ := condition_asSpecial_eq_ok_iff.mp hcondition
    refine ⟨fun hbehind => ?_, operator, value, hcomparable⟩
    rcases hword with ⟨hfirst, _⟩ | ⟨_, connective, hread, _⟩
    · simp [hbehind] at hfirst
    · exact (Group.readConnective_eq_ok_iff.mp hread).1
  · rintro ⟨hgiven, operator, value, hcomparable⟩
    have hcondition := condition_asSpecial_eq_ok_iff.mpr ⟨rfl, operator, value, hcomparable, rfl⟩
    rw [Special.link, hcondition, ok_bind]
    cases first with
    | true => exact ⟨_, rfl⟩
    | false =>
      obtain ⟨connective, hread⟩ :=
        Group.readConnective_of_given (Text.trim group.field) (hgiven rfl)
      exact ⟨(connective.separator, _), bind_eq_ok_iff.mpr ⟨connective, hread, rfl⟩⟩

/-- In front the two links differ at most in their separators, which nothing comes before. -/
theorem link_agrees {first : Bool} {extra special : Link} (hplain : Text.Plain (Text.trim group.field))
    (hextra : link first group = .ok extra)
    (hspecial : Special.link [] first (asSpecial group) = .ok special) :
    extra.2 = special.2 ∧ (first = false → extra = special) := by
  obtain ⟨⟨connective, t⟩, hcondition, rfl⟩ := map_eq_ok_iff.mp hextra
  obtain ⟨hread, operator, value, hcomparable, rfl⟩ := condition_eq_ok_iff.mp hcondition
  obtain ⟨key, t', hcondition', hsecond, hword⟩ := Special.of_link hspecial
  obtain ⟨rfl, operator', value', hcomparable', rfl⟩ := condition_asSpecial_eq_ok_iff.mp hcondition'
  have hoperator : operator' = operator := by
    have hsame := hcomparable.operator_eq.symm.trans hcomparable'.operator_eq
    exact (Option.some.inj hsame).symm
  have hvalue : value' = value := by
    have hsame := hcomparable.value_eq.symm.trans hcomparable'.value_eq
    exact (Option.some.inj hsame).symm
  subst hoperator hvalue
  rw [Literal.escape_of_plain hplain]
  refine ⟨hsecond.symm, fun hbehind => Prod.ext ?_ hsecond.symm⟩
  rcases hword with ⟨hfirst, _⟩ | ⟨_, other, hother, hseparator⟩
  · simp [hbehind] at hfirst
  · have hsame : connective = other := Except.ok.inj (hread.symm.trans hother)
    rw [hseparator, hsame]

/-! ### Lists of groups -/

theorem exists_links_iff (first : Bool) (groups : List (Group Extra)) :
    (∃ ls, links link first groups = .ok ls) ↔
      (∃ ls, links (Special.link []) first (groups.map asSpecial) = .ok ls) ∧
        (first = true → ∀ group ∈ groups.head?, Connective.Given group.filter.connective) := by
  induction groups generalizing first with
  | nil =>
    constructor
    · intro _
      exact ⟨⟨[], rfl⟩, fun _ group hgroup => nomatch hgroup⟩
    · intro _
      exact ⟨[], rfl⟩
  | cons group groups ih =>
    -- Behind the first group both loops look at the connective.
    have hrest : (∃ ls, links link false groups = .ok ls) ↔
        ∃ ls, links (Special.link []) false (groups.map asSpecial) = .ok ls := by
      simpa using ih false
    rw [List.map_cons, exists_links_cons_iff, exists_links_cons_iff, exists_link_iff,
      exists_link_asSpecial_iff, hrest]
    cases first with
    | true =>
      constructor
      · rintro ⟨⟨hgiven, hcomparable⟩, hmore⟩
        exact ⟨⟨⟨nofun, hcomparable⟩, hmore⟩, fun _ _ hhead => Option.some.inj hhead ▸ hgiven⟩
      · rintro ⟨⟨⟨_, hcomparable⟩, hmore⟩, hgiven⟩
        exact ⟨⟨hgiven rfl group rfl, hcomparable⟩, hmore⟩
    | false =>
      constructor
      · rintro ⟨⟨hgiven, hcomparable⟩, hmore⟩
        exact ⟨⟨⟨fun _ => hgiven, hcomparable⟩, hmore⟩, nofun⟩
      · rintro ⟨⟨⟨hgiven, hcomparable⟩, hmore⟩, _⟩
        exact ⟨⟨hgiven rfl, hcomparable⟩, hmore⟩

theorem links_agree {groups : List (Group Extra)} {extra special : List Link}
    (hplain : ∀ group ∈ groups, Text.Plain (Text.trim group.field))
    (hextra : links link false groups = .ok extra)
    (hspecial : links (Special.link []) false (groups.map asSpecial) = .ok special) :
    extra = special := by
  induction groups generalizing extra special with
  | nil =>
    cases hextra
    cases hspecial
    rfl
  | cons group groups ih =>
    obtain ⟨hgroup, hgroups⟩ := List.forall_mem_cons.mp hplain
    obtain ⟨l, more, hl, hmore, rfl⟩ := links_cons_eq_ok_iff.mp hextra
    obtain ⟨l', more', hl', hmore', rfl⟩ := links_cons_eq_ok_iff.mp hspecial
    rw [(link_agrees hgroup hl hl').2 rfl, ih hgroups hmore hmore']

theorem outline_agrees {groups : List (Group Extra)} {extra special : Outline}
    (hplain : ∀ group ∈ groups, Text.Plain (Text.trim group.field))
    (hextra : outline groups = .ok extra)
    (hspecial : Special.outline [] (groups.map asSpecial) = .ok special) : extra = special := by
  obtain ⟨ls, hls, rfl⟩ := map_eq_ok_iff.mp hextra
  obtain ⟨ls', hls', rfl⟩ := map_eq_ok_iff.mp hspecial
  cases groups with
  | nil =>
    cases hls
    cases hls'
    rfl
  | cons group groups =>
    obtain ⟨hgroup, hgroups⟩ := List.forall_mem_cons.mp hplain
    obtain ⟨l, more, hl, hmore, rfl⟩ := links_cons_eq_ok_iff.mp hls
    obtain ⟨l', more', hl', hmore', rfl⟩ := links_cons_eq_ok_iff.mp hls'
    rw [Outline.chain_cons (hasHole_of_link hl).ne_nil,
      Outline.chain_cons (Special.hasHole_of_link hl').ne_nil, (link_agrees hgroup hl hl').1,
      links_agree hgroups hmore hmore']

end Extra

/-- Extra filters are accepted just where special filters are and the first connective is given. What is
written is the same wherever no field is escaped. -/
theorem Compiler.extra_agrees_with_special (c : Compiler) (offset : Nat)
    (groups : List (Group Extra)) :
    ((∃ f, c.run offset (Extra.render groups) = .ok f) ↔
      (∃ f, c.run offset (Special.render [] (groups.map Extra.asSpecial)) = .ok f) ∧
        ∀ group ∈ groups.head?, Connective.Given group.filter.connective) ∧
    ∀ extra special, c.run offset (Extra.render groups) = .ok extra →
      c.run offset (Special.render [] (groups.map Extra.asSpecial)) = .ok special →
      (∀ group ∈ groups, Text.Plain (Text.trim group.field)) → extra = special := by
  have hextra : c.run offset (Extra.render groups) = c.fragment offset <$> Extra.outline groups :=
    c.run_eq offset (Extra.render_writes groups)
  have hspecial : c.run offset (Special.render [] (groups.map Extra.asSpecial)) =
      c.fragment offset <$> Special.outline [] (groups.map Extra.asSpecial) :=
    c.run_eq offset (Special.render_writes [] _)
  rw [hextra, hspecial]
  constructor
  · simpa only [exists_map_eq_ok_iff, Extra.outline, Special.outline, forall_const] using
      Extra.exists_links_iff true groups
  · intro extra special hf hs hplain
    obtain ⟨o, ho, rfl⟩ := map_eq_ok_iff.mp hf
    obtain ⟨o', ho', rfl⟩ := map_eq_ok_iff.mp hs
    rw [Extra.outline_agrees hplain ho ho']

/-- Two filters that are written alike as extra and as special filters. -/
def twoExtras : List (Group Extra) :=
  [⟨"t.a", { operator := some ">", value := some (.integer 1), connective := some "AND" }⟩,
    ⟨"t.b", { operator := some "<>", value := some (.text " x "), connective := some "OR" }⟩]

example :
    let c : Compiler := { options := { mode := .placeholder } }
    c.run 3 (Extra.render twoExtras) =
      .ok ⟨"t.a > $4 OR t.b <> $5", [.integer 1, .text " x "]⟩ ∧
    c.run 3 (Special.render [] (twoExtras.map Extra.asSpecial)) =
      .ok ⟨"t.a > $4 OR t.b <> $5", [.integer 1, .text " x "]⟩ := by
  decide +kernel

end FilterClause
