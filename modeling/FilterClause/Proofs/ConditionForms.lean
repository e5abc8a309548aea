import FilterClause.Condition.Conjunction
import FilterClause.Condition.Groups
import FilterClause.Condition.NotEqual
import FilterClause.Condition.Period
import FilterClause.Condition.Range
import FilterClause.Proofs.Checked
import FilterClause.Proofs.Trimming

/-!
The forms of single conditions. A condition that is not refused is one of a few templates, made of the
texts of its filter and of the values in its holes; each statement below says which, and what the
checks before it have found.
-/
namespace FilterClause

open Checked

/-! ### Comparisons -/

/-- The field as a comparison writes it. -/
def Comparison.writtenField (key : String) (filter : Equality) (columns : Columns) : String :=
  match columns.find? key with
  | some expression => expression
  | none => Literal.escape (filter.field.getD key)

theorem Comparison.of_resolve {key : String} {filter : Equality} {columns : Columns}
    {comparison : Comparison} (h : resolve key filter columns = .ok comparison) :
    Text.isBlank key = false ∧ comparison.field = writtenField key filter columns ∧
      comparison.typed = filter.value.trimmed ∧
      comparison.value = Text.trim filter.value.trimmed.asText := by
  unfold resolve at h
  split at h
  · exact nomatch h
  · rename_i hkey
    refine ⟨by simpa using hkey, ?_⟩
    unfold writtenField
    cases hcolumn : columns.find? key <;> rw [hcolumn] at h <;> cases h <;> exact ⟨rfl, rfl, rfl⟩

namespace Conjunction

/-- The operator of a filter without one. -/
def usualOperator : FilterType → String
  | .numbers => "="
  | .texts => "LIKE"

/-- Whether a filter looks for its value anywhere in the field. -/
def looksInside (filterType : FilterType) (filter : Equality) : Bool :=
  filterType = .texts && filter.connective.getD "" = ""

/-- The value in the hole of a condition. -/
def boundValue (filterType : FilterType) (filter : Equality) : Scalar :=
  if looksInside filterType filter then
    .text ("%" ++ Text.trim filter.value.trimmed.asText ++ "%")
  else filter.value.trimmed

/-- The connective of a condition. -/
def readConnective (filterType : FilterType) (filter : Equality) : Checked Connective :=
  if looksInside filterType filter then .ok .and
  else
    match filterType with
    | .numbers => Connective.readOptional filter.connective
    | .texts => Connective.read (filter.connective.getD "")

theorem of_condition {filterType : FilterType} {columns : Columns} {key : String}
    {filter : Equality} {connective : Connective} {t : Template}
    (h : condition filterType columns key filter = .ok (connective, t)) :
    isNumericKey key = false ∧ Text.isBlank key = false ∧
      readConnective filterType filter = .ok connective ∧
      t = term (Comparison.writtenField key filter columns)
        (operator filter (usualOperator filterType)) (boundValue filterType filter) := by
  unfold condition at h
  by_cases hkey : isNumericKey key = true
  · simp only [hkey, if_true] at h
    exact nomatch h
  · simp only [hkey] at h
    obtain ⟨comparison, hresolve, h⟩ := bind_eq_ok_iff.mp h
    obtain ⟨hblank, hfield, htyped, hvalue⟩ :=
      Comparison.of_resolve (wrap_eq_ok_iff.mp hresolve)
    refine ⟨by simpa using hkey, hblank, ?_⟩
    cases filterType with
    | numbers =>
      obtain ⟨given, hread, h⟩ := bind_eq_ok_iff.mp h
      cases h
      simp [readConnective, boundValue, looksInside, usualOperator, hread, hfield, htyped]
    | texts =>
      by_cases hgiven : filter.connective.getD "" = ""
      · simp only [hgiven, if_true] at h
        cases h
        simp [readConnective, boundValue, looksInside, usualOperator, hgiven, hfield, hvalue]
      · simp only [hgiven, if_false] at h
        obtain ⟨given, hread, h⟩ := bind_eq_ok_iff.mp h
        cases h
        simp [readConnective, boundValue, looksInside, usualOperator, hgiven, hread, hfield, htyped]

end Conjunction

/-! ### Groups -/

namespace Group

theorem of_readField {key field : String} (h : readField key = .ok field) :
    field = Text.trim key ∧ field ≠ "" ∧ isNumericKey field = false := by
  unfold readField at h
  dsimp only at h
  split at h
  · exact nomatch h
  · split at h
    · exact nomatch h
    · rename_i hempty hnumeric
      cases h
      exact ⟨rfl, hempty, by simpa using hnumeric⟩

theorem of_readOperator {given : Option String} {field operator : String}
    (h : readOperator given field = .ok operator) :
    given = some operator ∧ Text.isBlank operator = false := by
  unfold readOperator at h
  cases given with
  | none => exact nomatch h
  | some text =>
    dsimp only at h
    split at h
    · exact nomatch h
    · rename_i hblank
      cases h
      exact ⟨rfl, by simpa using hblank⟩

theorem of_readValue {given : Option Scalar} {field : String} {value : Scalar}
    (h : readValue given field = .ok value) :
    given = some value ∧ value.isNull = false ∧ value.isBlank = false := by
  unfold readValue at h
  cases given with
  | none => exact nomatch h
  | some v =>
    dsimp only at h
    split at h
    · exact nomatch h
    · split at h
      · exact nomatch h
      · rename_i hnull hblank
        cases h
        exact ⟨rfl, by simpa using hnull, by simpa using hblank⟩

end Group

namespace Special

/-- The field as a special filter writes it. -/
def writtenField (field : String) (columns : Columns) : String :=
  (columns.find? (Text.trim field)).getD (Text.trim field)

theorem of_substitute {field written : String} {columns : Columns}
    (h : substitute field columns = .ok written) : written = writtenField field columns := by
  unfold substitute at h
  dsimp only at h
  split at h
  · exact nomatch h
  · obtain ⟨substituted, hsub, h⟩ := bind_eq_ok_iff.mp h
    have hsub := wrap_eq_ok_iff.mp hsub
    unfold Comparison.isSubstituted at hsub
    dsimp only at hsub
    split at hsub
    · exact nomatch hsub
    · cases hsub
      cases h
      rw [Text.trim_trim]
      unfold writtenField
      cases columns.find? (Text.trim field) <;> rfl

/-- The template of a special filter: a literal behind its field, or a field behind a literal one. -/
def form (field operator : String) (value : Scalar) : Bound → Template
  | .literal => [.raw (field ++ " " ++ operator ++ " "), .hole value]
  | .field => [.hole (.text field), .raw (operator ++ value.asText)]

theorem of_condition {columns : Columns} {group : Group Special} {key : String} {t : Template}
    (h : condition columns group = .ok (key, t)) :
    key = Text.trim group.field ∧ key ≠ "" ∧ isNumericKey key = false ∧
      ∃ operator value, group.filter.operator = some operator ∧ group.filter.value = some value ∧
        Text.isBlank operator = false ∧ value.isNull = false ∧ value.isBlank = false ∧
        t = form (writtenField group.field columns) operator value group.filter.bound := by
  unfold condition at h
  obtain ⟨field, hfield, h⟩ := bind_eq_ok_iff.mp h
  obtain ⟨written, hwritten, h⟩ := bind_eq_ok_iff.mp h
  obtain ⟨t', ht, h⟩ := bind_eq_ok_iff.mp h
  cases h
  obtain ⟨hkey, hne, hnumeric⟩ := Group.of_readField (wrap_eq_ok_iff.mp hfield)
  have hcompare := wrap_eq_ok_iff.mp ht
  unfold compare at hcompare
  obtain ⟨operator, hoperator, hcompare⟩ := bind_eq_ok_iff.mp hcompare
  obtain ⟨value, hvalue, hcompare⟩ := bind_eq_ok_iff.mp hcompare
  obtain ⟨hgiven, hblank⟩ := Group.of_readOperator hoperator
  obtain ⟨hpresent, hnull, hink⟩ := Group.of_readValue hvalue
  refine ⟨hkey, hne, hnumeric, operator, value, hgiven, hpresent, hblank, hnull, hink, ?_⟩
  have hname : writtenField group.field columns = written := by
    rw [of_substitute hwritten, hkey, writtenField, writtenField, Text.trim_trim]
  rw [hname]
  cases hbound : group.filter.bound <;> rw [hbound] at hcompare <;> cases hcompare <;> rfl

end Special

namespace Extra

theorem of_condition {group : Group Extra} {connective : Connective} {t : Template}
    (h : condition group = .ok (connective, t)) :
    Text.trim group.field ≠ "" ∧ isNumericKey (Text.trim group.field) = false ∧
      Group.readConnective group.filter.connective (Text.trim group.field) = .ok connective ∧
      ∃ operator value, group.filter.operator = some operator ∧ group.filter.value = some value ∧
        Text.isBlank operator = false ∧ value.isNull = false ∧ value.isBlank = false ∧
        t = [.raw (Literal.escape (Text.trim group.field) ++ " " ++ operator ++ " "), .hole value] := by
  unfold condition at h
  obtain ⟨field, hfield, h⟩ := bind_eq_ok_iff.mp h
  obtain ⟨value, hvalue, h⟩ := bind_eq_ok_iff.mp h
  obtain ⟨operator, hoperator, h⟩ := bind_eq_ok_iff.mp h
  obtain ⟨given, hconnective, h⟩ := bind_eq_ok_iff.mp h
  cases h
  obtain ⟨hkey, hne, hnumeric⟩ := Group.of_readField (wrap_eq_ok_iff.mp hfield)
  obtain ⟨hgiven, hblank⟩ := Group.of_readOperator hoperator
  obtain ⟨hpresent, hnull, hink⟩ := Group.of_readValue hvalue
  subst hkey
  exact ⟨hne, hnumeric, hconnective, operator, value, hgiven, hpresent, hblank, hnull, hink, rfl⟩

end Extra

/-! ### Ranges, differences and periods -/

namespace Range

theorem of_readBound {value : Scalar} {name field text : String}
    (h : readBound value name field = .ok text) :
    text = value.asText ∧ value.isNull = false ∧ value.isBlank = false := by
  unfold readBound at h
  split at h
  · exact nomatch h
  · split at h
    · exact nomatch h
    · rename_i hnull hblank
      cases h
      exact ⟨rfl, by simpa using hnull, by simpa using hblank⟩

/-- The template of a range: a field between two literals, or a literal field between two others. -/
def form (field : String) (range : Range) : Template :=
  match range.bound with
  | .literal =>
    [.raw (field ++ " BETWEEN "), .hole range.lower, .raw " AND ", .hole range.upper]
  | .field =>
    [.hole (.text field), .raw (" BETWEEN " ++ range.lower.asText ++ " AND " ++ range.upper.asText)]

theorem of_keyed {key : String} {range : Range} {t : Template} (h : keyed key range = .ok t) :
    Text.trim key ≠ "" ∧ isNumericKey (Text.trim key) = false ∧
      range.lower.isNull = false ∧ range.lower.isBlank = false ∧
      range.upper.isNull = false ∧ range.upper.isBlank = false ∧
      t = form (Text.trim key) range := by
  unfold keyed at h
  dsimp only at h
  split at h
  · exact nomatch h
  · rename_i hnumeric
    have hcondition := wrap_eq_ok_iff.mp h
    unfold condition at hcondition
    dsimp only at hcondition
    rw [Text.trim_trim] at hcondition
    split at hcondition
    · exact nomatch hcondition
    · rename_i hempty
      obtain ⟨lower, hlower, hcondition⟩ := bind_eq_ok_iff.mp hcondition
      obtain ⟨upper, hupper, hcondition⟩ := bind_eq_ok_iff.mp hcondition
      obtain ⟨hlowerText, hlowerNull, hlowerBlank⟩ := of_readBound hlower
      obtain ⟨hupperText, hupperNull, hupperBlank⟩ := of_readBound hupper
      refine ⟨hempty, by simpa using hnumeric, hlowerNull, hlowerBlank, hupperNull, hupperBlank, ?_⟩
      unfold form
      cases hbound : range.bound with
      | literal =>
        rw [hbound] at hcondition
        cases hcondition
        rfl
      | field =>
        rw [hbound] at hcondition
        cases hcondition
        rw [hlowerText, hupperText]

end Range

namespace NotEqual

theorem of_condition {key : String} {value : Scalar} {t : Template}
    (h : condition key value = .ok t) :
    Text.trim key ≠ "" ∧ isNumericKey (Text.trim key) = false ∧
      t = [.raw (Literal.escape (Text.trim key) ++ " <> "), .hole value.trimmed] := by
  unfold condition at h
  dsimp only at h
  split at h
  · exact nomatch h
  · split at h
    · exact nomatch h
    · rename_i hempty hnumeric
      cases h
      exact ⟨hempty, by simpa using hnumeric, rfl⟩

end NotEqual

namespace Period

theorem of_readText {given name text : String} (h : readText given name = .ok text) :
    text = Text.trim given ∧ text ≠ "" := by
  unfold readText at h
  dsimp only at h
  split at h
  · exact nomatch h
  · rename_i hempty
    cases h
    exact ⟨rfl, hempty⟩

theorem of_condition {period : Period} {t : Template} (h : condition period = .ok t) :
    (∃ date, readDate (Text.trim period.date) = .ok date) ∧
      Text.trim period.start ≠ "" ∧ Text.trim period.finish ≠ "" ∧
      t = [.hole (.text (Text.trim period.date)),
        .raw (" >= " ++ Text.trim period.start ++ " AND "),
        .hole (.text (Text.trim period.date)), .raw (" <= " ++ Text.trim period.finish)] := by
  unfold condition at h
  obtain ⟨start, hstart, h⟩ := bind_eq_ok_iff.mp h
  obtain ⟨finish, hfinish, h⟩ := bind_eq_ok_iff.mp h
  obtain ⟨text, htext, h⟩ := bind_eq_ok_iff.mp h
  obtain ⟨date, hdate, h⟩ := bind_eq_ok_iff.mp h
  cases h
  obtain ⟨rfl, hstartNe⟩ := of_readText hstart
  obtain ⟨rfl, hfinishNe⟩ := of_readText hfinish
  obtain ⟨rfl, _⟩ := of_readText htext
  exact ⟨⟨date, hdate⟩, hstartNe, hfinishNe, rfl⟩

end Period

end FilterClause
