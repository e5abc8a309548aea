import FilterClause.Condition.Comparison

/-!
Equality and text filters, each joined to the ones before it by its own connective.
-/
namespace FilterClause.Conjunction

/-- The operator of a comparison, or the usual one when none is given. -/
def operator (filter : Equality) (usual : String) : String :=
  let given := Text.trim (filter.comparison.getD "")
  if given = "" then usual else given

/-- A field, an operator and a value. -/
def term (field operator : String) (value : Scalar) : Template :=
  [.raw (field ++ " " ++ operator ++ " "), .hole value]

/-- The connective and the condition of one filter. Among texts, a filter without a connective looks
for its value anywhere in the field. -/
def condition (filterType : FilterType) (columns : Columns) (key : String) (filter : Equality) :
    Checked (Connective × Template) := do
  if isNumericKey key then
    throw ((Failure.numericKey key).withHelp "keys must reference table.column")
  let comparison ← (Comparison.resolve key filter columns).wrap "failed to resolve comparison"
  match filterType with
  | .numbers =>
    let connective ← Connective.readOptional filter.connective
    return (connective, term comparison.field (operator filter "=") comparison.typed)
  | .texts =>
    let given := filter.connective.getD ""
    if given = "" then
      let pattern := "%" ++ comparison.value ++ "%"
      return (.and, term comparison.field (operator filter "LIKE") (.text pattern))
    else
      let connective ← Connective.read given
      return (connective, term comparison.field (operator filter "LIKE") comparison.typed)

/-- Puts the condition of one filter after the ones that are there already. -/
def step (filterType : FilterType) (columns : Columns) (acc : String) (entry : String × Equality) :
    Writing String := do
  let (connective, term) ← condition filterType columns entry.1 entry.2
  return attach acc connective.keyword (← Writer.write term)

/-- Writes the condition of all filters together. -/
def render (filterType : FilterType) (columns : Columns) (filters : Entries Equality) :
    Writing String :=
  filters.foldlM (step filterType columns) ""

end FilterClause.Conjunction
