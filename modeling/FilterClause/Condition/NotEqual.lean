import FilterClause.Filter
import FilterClause.Writer

/-!
Fields that differ from a value.
-/
namespace FilterClause.NotEqual

/-- The condition of the value under a key. -/
def condition (key : String) (value : Scalar) : Checked Template := do
  let field := Text.trim key
  if field = "" then
    throw (.emptyField key)
  if isNumericKey field then
    throw (.numericKey field)
  return [.raw (Literal.escape field ++ " <> "), .hole value.trimmed]

/-- Puts the condition of one filter after the ones that are there already. -/
def step (acc : String) (entry : String × Scalar) : Writing String := do
  let text ← Writer.write (← condition entry.1 entry.2)
  return acc ++ separator acc ++ text

/-- Writes the condition of all filters together. -/
def render (filters : Entries Scalar) : Writing String :=
  filters.foldlM step ""

end FilterClause.NotEqual
