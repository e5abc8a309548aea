import FilterClause.Proofs.Joining
import FilterClause.Proofs.RawText

/-!
Chains of ranges. A list of ranges is written just where each of its entries can be, in any order. At each
step the whole chain and the new condition are trimmed, but a condition starts with its field and ends with
its upper bound, so nothing is ever lost but the white space behind an upper bound that is a field. In
particular no condition is empty, and the step that would refuse one always succeeds.
-/
namespace FilterClause

open Checked

/-! ### White space at the end of a condition -/

theorem Text.dropWhile_reverse_ne_nil {s : String} (h : isBlank s = false) :
    s.toList.reverse.dropWhile isBlankChar ≠ [] := by
  intro hnil
  have hall : ∀ c ∈ s.toList, isBlankChar c = true := by
    intro c hc
    exact List.dropWhile_eq_nil_iff.mp hnil c (List.mem_reverse.mpr hc)
  rw [isBlank, List.all_eq_true.mpr hall] at h
  cases h

theorem Text.trimEnd_eq (s : String) :
    trimEnd s = String.ofList (s.toList.reverse.dropWhile isBlankChar).reverse := by
  rw [trimEnd, stripEnd_eq_rdropWhile, List.rdropWhile]

theorem Text.isBlank_trimEnd {s : String} (h : isBlank s = false) : isBlank (trimEnd s) = false := by
  have hleft := dropWhile_reverse_ne_nil h
  have hhead := List.head_dropWhile_not isBlankChar (l := s.toList.reverse) hleft
  rw [isBlank, trimEnd_eq, String.toList_ofList, List.all_reverse, List.all_eq_false]
  exact ⟨_, List.head_mem hleft, by simp [hhead]⟩

/-- Trimming the end of a text does not reach what stands before it, unless nothing is left of it. -/
theorem Outline.rdropWhile_append_ofText (o : Outline) {s : String} (h : Text.isBlank s = false) :
    (o ++ ofText s).rdropWhile isBlankMark = o ++ ofText (Text.trimEnd s) := by
  have hchar : isBlankMark ∘ Mark.char = Text.isBlankChar := rfl
  have hleft := Text.dropWhile_reverse_ne_nil h
  rw [List.rdropWhile, List.reverse_append, List.dropWhile_append, Text.trimEnd_eq, ofText, ofText,
    ← List.map_reverse, List.dropWhile_map, hchar, String.toList_ofList]
  simp [hleft]

namespace Range

/-! ### Entries that can be written -/

/-- Holds of an entry whose condition can be written: its key may name a column, and both bounds are there
and not blank. -/
structure Admissible (entry : String × Range) : Prop where
  ink : Text.trim entry.1 ≠ ""
  notNumeric : isNumericKey (Text.trim entry.1) = false
  lowerPresent : entry.2.lower.isNull = false
  lowerInk : entry.2.lower.isBlank = false
  upperPresent : entry.2.upper.isNull = false
  upperInk : entry.2.upper.isBlank = false

/-- What may be wrong with an entry, each with the failure that says so, in the order in which it is looked
for. -/
def faults (entry : String × Range) : List (Bool × Failure) :=
  let field := Text.trim entry.1
  let described (f : Failure) := f.wrap "failed to build range condition"
  [ (isNumericKey field, .numericKey field),
    (field = "", described (.emptyField field)),
    (entry.2.lower.isNull, described ((Failure.missing "valor1" field).withField field)),
    (entry.2.lower.isBlank, described ((Failure.emptyValue "valor1" field).withField field)),
    (entry.2.upper.isNull, described ((Failure.missing "valor2" field).withField field)),
    (entry.2.upper.isBlank, described ((Failure.emptyValue "valor2" field).withField field)) ]

/-- The failure for what is found to be wrong with an entry, if anything is. -/
def fault (entry : String × Range) : Option Failure :=
  ((faults entry).find? Prod.fst).map Prod.snd

theorem fault_eq_none_iff {entry : String × Range} : fault entry = none ↔ Admissible entry := by
  rw [fault, Option.map_eq_none_iff, List.find?_eq_none]
  constructor
  · intro h
    simp only [faults, List.forall_mem_cons] at h
    obtain ⟨hnumeric, hink, hlower, hlowerInk, hupper, hupperInk, _⟩ := h
    exact ⟨by simpa using hink, by simpa using hnumeric, by simpa using hlower,
      by simpa using hlowerInk, by simpa using hupper, by simpa using hupperInk⟩
  · rintro ⟨hink, hnumeric, hlower, hlowerInk, hupper, hupperInk⟩
    simp [faults, hink, hnumeric, hlower, hlowerInk, hupper, hupperInk]

/-- The condition of an entry is its form, unless something is wrong with it. -/
theorem keyed_eq (entry : String × Range) :
    keyed entry.1 entry.2 =
      match fault entry with
      | some failure => .error failure
      | none => .ok (form (Text.trim entry.1) entry.2) := by
  obtain ⟨key, range⟩ := entry
  simp only [keyed, condition, readBound, Text.trim_trim, fault, faults]
  by_cases hnumeric : isNumericKey (Text.trim key) = true
  · simp [hnumeric, throw_eq, error_bind]
  by_cases hink : Text.trim key = ""
  · rw [hink] at hnumeric
    simp [hink, hnumeric, throw_eq, error_bind, wrap_error]
  by_cases hlower : range.lower.isNull = true
  · simp [hnumeric, hink, hlower, error_bind, wrap_error]
  by_cases hlowerInk : range.lower.isBlank = true
  · simp [hnumeric, hink, hlower, hlowerInk, error_bind, wrap_error]
  by_cases hupper : range.upper.isNull = true
  · simp [hnumeric, hink, hlower, hlowerInk, hupper, error_bind, wrap_error, ok_bind]
  by_cases hupperInk : range.upper.isBlank = true
  · simp [hnumeric, hink, hlower, hlowerInk, hupper, hupperInk, error_bind, wrap_error, ok_bind]
  simp only [hnumeric, hink, hlower, hlowerInk, hupper, hupperInk, form]
  cases range.bound <;> rfl

theorem fault_message {entry : String × Range} {failure : Failure} (h : fault entry = some failure) :
    ∀ layer ∈ failure.layers, layer.message ≠ "condition is empty" := by
  obtain ⟨found, hfound, rfl⟩ := Option.map_eq_some_iff.mp h
  have hmem := List.mem_of_find?_eq_some hfound
  simp only [faults, List.mem_cons, List.not_mem_nil, or_false] at hmem
  rcases hmem with rfl | rfl | rfl | rfl | rfl | rfl <;>
    simp [Failure.layers, Failure.wrap, Failure.numericKey, Failure.report, Failure.emptyField,
      Failure.missing, Failure.withHelp, Failure.withContext, Failure.withField, Failure.emptyValue]

theorem keyed_eq_of_admissible {entry : String × Range} (h : Admissible entry) :
    keyed entry.1 entry.2 = .ok (form (Text.trim entry.1) entry.2) := by
  rw [keyed_eq, fault_eq_none_iff.mpr h]

theorem keyed_eq_error_iff {entry : String × Range} {failure : Failure} :
    keyed entry.1 entry.2 = .error failure ↔ fault entry = some failure := by
  rw [keyed_eq]
  cases fault entry <;> simp

/-- What is written for a range on its own. -/
def single (entry : String × Range) : Writing String := do
  Writer.write (← condition entry.1 entry.2)

theorem Admissible.condition_eq {entry : String × Range} (h : Admissible entry) :
    condition entry.1 entry.2 = .ok (form (Text.trim entry.1) entry.2) := by
  have hkeyed := keyed_eq_of_admissible h
  simpa [keyed, condition, h.notNumeric, Text.trim_trim, ok_bind, wrap_eq_ok_iff] using hkeyed

theorem Admissible.single_writes {entry : String × Range} (h : Admissible entry) :
    Writes (single entry) (.ok (.ofTemplate (form (Text.trim entry.1) entry.2))) := by
  intro w
  rw [single, Writing.run_bind, Writing.run_check, h.condition_eq, map_ok, ok_bind, Writer.write_run]
  rfl

/-! ### Trimmed conditions -/

/-- The range without white space at the end of an upper bound that is a field. -/
def tidied (range : Range) : Range :=
  match range.bound with
  | .literal => range
  | .field => { range with upper := .text (Text.trimEnd range.upper.asText) }

theorem Admissible.tidied {entry : String × Range} (h : Admissible entry) :
    Admissible (entry.1, entry.2.tidied) := by
  unfold Range.tidied
  cases entry.2.bound with
  | literal => exact h
  | field => exact { h with upperPresent := rfl, upperInk := Text.isBlank_trimEnd h.upperInk }

/-- A condition starts with its field, so nothing is trimmed there. -/
theorem dropWhile_form {field : String} (h : Text.StartsFirm field.toList) (range : Range) :
    (Outline.ofTemplate (form field range)).dropWhile Outline.isBlankMark =
      Outline.ofTemplate (form field range) := by
  obtain ⟨c, rest, hfield, hc⟩ := h
  unfold form
  cases range.bound with
  | literal =>
    simp only [Outline.ofTemplate, Outline.ofText, String.toList_append, hfield, List.cons_append,
      List.map_cons]
    exact List.dropWhile_cons_of_neg (by simp [Outline.isBlankMark, hc])
  | field => exact List.dropWhile_cons_of_neg (by simp [Outline.isBlankMark])

/-- What is trimmed at the end of a condition is the white space behind an upper bound that is a field. -/
theorem strip_form {entry : String × Range} (h : Admissible entry) :
    (Outline.ofTemplate (form (Text.trim entry.1) entry.2)).strip =
      Outline.ofTemplate (form (Text.trim entry.1) entry.2.tidied) := by
  obtain ⟨key, lower, upper, bound⟩ := entry
  have hfield : Text.StartsFirm (Text.trim key).toList := by
    rw [Text.trim, String.toList_ofList]
    refine ((Text.strip_eq_nil_or_firm key.toList).resolve_left fun hnil => h.ink ?_).1
    rw [Text.trim, hnil]
  rw [Outline.strip, dropWhile_form hfield]
  cases bound with
  | literal =>
    -- The last mark is the hole of the upper bound, and a hole is not white space.
    have hsplit : Outline.ofTemplate (form (Text.trim key) { lower, upper, bound := .literal }) =
        Outline.ofText (Text.trim key ++ " BETWEEN ") ++ [Mark.hole lower] ++
          Outline.ofText " AND " ++ [Mark.hole upper] := by
      simp [form, Outline.ofTemplate]
    rw [tidied, hsplit, List.rdropWhile_concat_neg _ _ _ (by simp [Outline.isBlankMark])]
  | field =>
    have hsplit : ∀ last : Scalar,
        Outline.ofTemplate (form (Text.trim key) { lower, upper := last, bound := .field }) =
          Mark.hole (.text (Text.trim key)) ::
            Outline.ofText (" BETWEEN " ++ lower.asText ++ " AND ") ++ Outline.ofText last.asText := by
      intro last
      simp [form, Outline.ofTemplate]
    rw [tidied, hsplit, hsplit, Outline.rdropWhile_append_ofText _ h.upperInk]
    rfl

/-- The condition of an entry as it stands in a chain. -/
def chained (entry : String × Range) : Checked Outline :=
  (fun t => (Outline.ofTemplate t).strip) <$> keyed entry.1 entry.2

theorem chained_eq_of_admissible {entry : String × Range} (h : Admissible entry) :
    chained entry = .ok (.ofTemplate (form (Text.trim entry.1) entry.2.tidied)) := by
  rw [chained, keyed_eq_of_admissible h, map_ok, strip_form h]

theorem exists_chained_iff {entry : String × Range} :
    (∃ o, chained entry = .ok o) ↔ Admissible entry := by
  constructor
  · rintro ⟨o, ho⟩
    obtain ⟨t, ht, _⟩ := map_eq_ok_iff.mp ho
    rw [← fault_eq_none_iff]
    cases hfault : fault entry with
    | none => rfl
    | some failure =>
      rw [keyed_eq_error_iff.mpr hfault] at ht
      exact nomatch ht
  · intro h
    exact ⟨_, chained_eq_of_admissible h⟩

theorem alike : Alike link " AND " chained :=
  .of_map (fun _ _ => rfl) fun _ _ hl => (of_link hl).1.ne_nil

end Range

/-- A chain of ranges is the conditions of its entries, and it is refused for what is wrong with the first
entry that cannot be written. -/
theorem Compiler.ranges_conjoined (c : Compiler) (offset : Nat) (ranges : Entries Range) :
    ((∃ f, c.run offset (Range.render ranges) = .ok f) ↔ ∀ entry ∈ ranges, Range.Admissible entry) ∧
    (∀ f, c.run offset (Range.render ranges) = .ok f →
      ∃ parts, c.fragments offset
          (ranges.map fun (key, range) => Range.single (key, range.tidied)) = .ok parts ∧
        f = Fragment.conjoined parts) ∧
    ∀ failure, c.run offset (Range.render ranges) = .error failure →
      (∃ front entry back, ranges = front ++ entry :: back ∧
        (∀ other ∈ front, Range.Admissible other) ∧ Range.fault entry = some failure) ∧
      ∀ layer ∈ failure.layers, layer.message ≠ "condition is empty" := by
  have hrun : c.run offset (Range.render ranges) =
      c.fragment offset <$> (Outline.ofText " AND ").intercalate <$> ranges.mapM Range.chained := by
    rw [← Range.alike.chain_eq]
    exact c.run_eq offset (Range.render_writes ranges)
  have haccepted : (∃ f, c.run offset (Range.render ranges) = .ok f) ↔
      ∀ entry ∈ ranges, Range.Admissible entry := by
    simp only [hrun, exists_map_eq_ok_iff, exists_mapM_eq_ok_iff, Range.exists_chained_iff]
  refine ⟨haccepted, fun f hf => ?_, fun failure hfailure => ?_⟩
  · have hall := haccepted.mp ⟨f, hf⟩
    have hwrites : ∀ entry ∈ ranges, Writes (Range.single (entry.1, entry.2.tidied))
        (.ok (.ofTemplate (Range.form (Text.trim entry.1) entry.2.tidied))) :=
      fun entry hentry => (hall entry hentry).tidied.single_writes
    obtain ⟨parts, hparts, hjoined⟩ := c.fragments_conjoined offset hwrites
    refine ⟨parts, hparts, ?_⟩
    rw [hrun, mapM_eq_ok_of_forall fun entry hentry => Range.chained_eq_of_admissible (hall entry hentry),
      map_ok, map_ok] at hf
    rw [hjoined]
    exact (Except.ok.inj hf).symm
  · rw [hrun, map_eq_error_iff, map_eq_error_iff] at hfailure
    obtain ⟨front, entry, back, hsplit, hfront, hentry⟩ := mapM_eq_error_iff.mp hfailure
    have hfault : Range.fault entry = some failure :=
      Range.keyed_eq_error_iff.mp (map_eq_error_iff.mp hentry)
    refine ⟨⟨front, entry, back, hsplit, ?_, hfault⟩, Range.fault_message hfault⟩
    exact fun other hother => Range.exists_chained_iff.mp (hfront other hother)

example : ({} : Compiler).run 0 (Range.render
    [("t.a", { lower := .text "t.b", upper := .text "t.c  ", bound := .field }),
      (" t.d ", { lower := .integer 1, upper := .text "z " })]) =
    .ok ⟨"'t.a' BETWEEN t.b AND t.c AND t.d BETWEEN '1' AND 'z '", []⟩ := by
  decide +kernel

end FilterClause
