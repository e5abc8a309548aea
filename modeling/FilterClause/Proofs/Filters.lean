import FilterClause.Proofs.RequestOutline

/-!
The filters of a whole request, read from its JSON. What a caller writes in them ends up either as raw
text in a condition or as the value of a hole; the raw texts are listed here, and masking takes away
the values of the holes and leaves everything else.
-/
namespace FilterClause

open Checked

structure Filters where
  filterType : FilterType
  equality : Entries Equality
  special : List (Group Special)
  range : Entries Range
  extra : List (Group Extra)
  within : Option Membership
  without : Option Membership
  notEqual : Entries Scalar
  period : List Period
  rawSql : String
  columns : Columns
deriving DecidableEq, Repr

/-- Reads every category of a request. -/
def Request.filters (r : Request) (usual : FilterType) : Checked Filters := do
  let filterType ← r.chosenFilterType usual
  let equality ← Intake.equalities r.equality
  let special ← Intake.specials r.special
  let range ← Intake.ranges r.range
  let extra ← Intake.extras r.extra
  let within ← Intake.membership r.within
  let without ← Intake.membership r.without
  let notEqual ← Intake.notEquals r.notEqual
  let period ← Intake.periods r.period
  let rawSql := r.rawSql.getD ""
  return { filterType, equality, special, range, extra, within, without, notEqual, period, rawSql,
           columns := r.columns }

/-- The outlines that the filters of a request have. -/
structure Filters.Outlined (f : Filters) (b : Bundle Outline) : Prop where
  equality : Conjunction.outline f.filterType f.columns f.equality = .ok b.equality
  special : Special.outline f.columns f.special = .ok b.special
  range : Range.outline f.range = .ok b.range
  extra : Extra.outline f.extra = .ok b.extra
  within : Membership.optionalOutline false f.within = .ok b.within
  without : Membership.optionalOutline true f.without = .ok b.without
  notEqual : NotEqual.outline f.notEqual = .ok b.notEqual
  period : Period.outline f.period = .ok b.period
  rawSql : b.rawSql = .ofText f.rawSql

theorem Request.staged_eq_ok_iff {α : Type} {category : String} {filters : Checked α}
    {outline : α → Checked Outline} {o : Outline} :
    staged category filters outline = .ok o ↔ ∃ a, filters = .ok a ∧ outline a = .ok o := by
  rw [staged, withOperation_eq_ok_iff, wrap_eq_ok_iff, bind_eq_ok_iff]

/-- The outlines of a request are those of its filters. -/
theorem Request.filters_of_outlines {r : Request} {usual : FilterType} {b : Bundle Outline}
    (h : r.outlines usual = .ok b) : ∃ f, r.filters usual = .ok f ∧ f.Outlined b := by
  unfold outlines at h
  obtain ⟨filterType, htype, h⟩ := bind_eq_ok_iff.mp h
  obtain ⟨_, hequality, h⟩ := bind_eq_ok_iff.mp h
  obtain ⟨_, hspecial, h⟩ := bind_eq_ok_iff.mp h
  obtain ⟨_, hrange, h⟩ := bind_eq_ok_iff.mp h
  obtain ⟨_, hextra, h⟩ := bind_eq_ok_iff.mp h
  obtain ⟨_, hwithin, h⟩ := bind_eq_ok_iff.mp h
  obtain ⟨_, hwithout, h⟩ := bind_eq_ok_iff.mp h
  obtain ⟨_, hnotEqual, h⟩ := bind_eq_ok_iff.mp h
  obtain ⟨_, hperiod, h⟩ := bind_eq_ok_iff.mp h
  cases h
  obtain ⟨equality, hequalityRead, hequality⟩ := staged_eq_ok_iff.mp hequality
  obtain ⟨special, hspecialRead, hspecial⟩ := staged_eq_ok_iff.mp hspecial
  obtain ⟨range, hrangeRead, hrange⟩ := staged_eq_ok_iff.mp hrange
  obtain ⟨extra, hextraRead, hextra⟩ := staged_eq_ok_iff.mp hextra
  obtain ⟨within, hwithinRead, hwithin⟩ := staged_eq_ok_iff.mp hwithin
  obtain ⟨without, hwithoutRead, hwithout⟩ := staged_eq_ok_iff.mp hwithout
  obtain ⟨notEqual, hnotEqualRead, hnotEqual⟩ := staged_eq_ok_iff.mp hnotEqual
  obtain ⟨period, hperiodRead, hperiod⟩ := staged_eq_ok_iff.mp hperiod
  refine ⟨⟨filterType, equality, special, range, extra, within, without, notEqual, period,
    r.rawSql.getD "", r.columns⟩, ?_, ?_⟩
  · rw [filters, htype, hequalityRead, hspecialRead, hrangeRead, hextraRead, hwithinRead, hwithoutRead,
      hnotEqualRead, hperiodRead]
    rfl
  · exact ⟨hequality, hspecial, hrange, hextra, hwithin, hwithout, hnotEqual, hperiod, rfl⟩

/-! ### Raw texts -/

/-- Of the key, the field that is given in its place and the expression of a column one is written. -/
def Equality.rawTexts (columns : Columns) (key : String) (filter : Equality) : List String :=
  (columns.find? key).getD (filter.field.getD key) :: filter.comparison.toList

/-- A key that is compared with another field is written as a literal, and so is its expression. -/
def Special.rawTexts (columns : Columns) (group : Group Special) : List String :=
  match group.filter.bound with
  | .literal =>
    (columns.find? (Text.trim group.field)).getD group.field :: group.filter.operator.toList
  | .field => group.filter.operator.toList ++ (group.filter.value.map Scalar.asText).toList

def Range.rawTexts (key : String) (range : Range) : List String :=
  match range.bound with
  | .literal => [key]
  | .field => [range.lower.asText, range.upper.asText]

def Extra.rawTexts (group : Group Extra) : List String :=
  group.field :: group.filter.operator.toList

/-- Without values there is no condition to write the field in. -/
def Membership.rawTexts (filter : Membership) : List String :=
  match filter.values with
  | [] => []
  | _ :: _ => [filter.field]

def Period.rawTexts (period : Period) : List String :=
  [period.start, period.finish]

/-- The texts of the caller that are written outside of literals. Expressions of columns are among them
where a filter uses them. -/
def Filters.rawTexts (f : Filters) : List String :=
  f.equality.flatMap (fun (key, filter) => filter.rawTexts f.columns key) ++
    f.special.flatMap (Special.rawTexts f.columns) ++
    f.range.flatMap (fun (key, range) => range.rawTexts key) ++
    f.extra.flatMap Extra.rawTexts ++
    f.within.toList.flatMap Membership.rawTexts ++
    f.without.toList.flatMap Membership.rawTexts ++
    f.notEqual.map Prod.fst ++
    f.period.flatMap Period.rawTexts ++
    [f.rawSql]

/-! ### Masking -/

def Equality.masked (filter : Equality) : Equality :=
  { filter with value := .null }

/-- The value of a special filter is masked where it is a literal. -/
def Special.masked (filter : Special) : Special :=
  match filter.bound with
  | .literal => { filter with value := filter.value.map fun _ => .null }
  | .field => filter

/-- The bounds of a range are masked where they are literals. -/
def Range.masked (range : Range) : Range :=
  match range.bound with
  | .literal => { range with lower := .null, upper := .null }
  | .field => range

def Extra.masked (filter : Extra) : Extra :=
  { filter with value := filter.value.map fun _ => .null }

/-- Only the number of the values is left. -/
def Membership.masked (filter : Membership) : Membership :=
  { filter with values := filter.values.map fun _ => .null }

def Period.masked (period : Period) : Period :=
  { period with date := "" }

def Group.masked {α : Type} (mask : α → α) (group : Group α) : Group α :=
  { group with filter := mask group.filter }

/-- The filters without the values that are written in literals. -/
def Filters.masked (f : Filters) : Filters :=
  { f with
    equality := f.equality.map fun (key, filter) => (key, filter.masked)
    special := f.special.map (Group.masked Special.masked)
    range := f.range.map fun (key, range) => (key, range.masked)
    extra := f.extra.map (Group.masked Extra.masked)
    within := f.within.map Membership.masked
    without := f.without.map Membership.masked
    notEqual := f.notEqual.map fun (key, _) => (key, .null)
    period := f.period.map Period.masked }

end FilterClause
