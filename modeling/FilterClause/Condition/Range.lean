import FilterClause.Filter
import FilterClause.Writer

/-!
Ranges: a field between two literals, or a literal field between two others.
-/
namespace FilterClause.Range

/-- The text of a bound, which is neither absent nor blank. -/
def readBound (value : Scalar) (name field : String) : Checked String :=
  if value.isNull then .error ((Failure.missing name field).withField field)
  else if value.isBlank then .error ((Failure.emptyValue name field).withField field)
  else .ok value.asText

/-- The condition of one range. Bounds that are fields are written as they are. -/
def condition (field : String) (range : Range) : Checked Template := do
  let field := Text.trim field
  if field = "" then
    throw (.emptyField field)
  let lower ← readBound range.lower "valor1" field
  let upper ← readBound range.upper "valor2" field
  match range.bound with
  | .literal =>
    return [.raw (field ++ " BETWEEN "), .hole range.lower, .raw " AND ", .hole range.upper]
  | .field =>
    return [.hole (.text field), .raw (" BETWEEN " ++ lower ++ " AND " ++ upper)]

/-- Puts a condition after a text, both without white space at their ends. Nothing empty can be put
after something. -/
def extend (acc condition : String) : Checked String :=
  let acc := Text.trim acc
  let condition := Text.trim condition
  if acc != "" && condition = "" then
    .error ((Failure.emptyValue "condition" acc).withHelp
      "a non-empty range filter cannot be extended with an empty condition")
  else .ok (acc ++ separator acc ++ condition)

/-- The condition of the range under a key, which may not be numeric. -/
def keyed (key : String) (range : Range) : Checked Template := do
  let field := Text.trim key
  if isNumericKey field then
    throw (.numericKey field)
  (condition field range).wrap "failed to build range condition"

/-- Puts the condition of one range after the ones that are there already. -/
def step (acc : String) (entry : String × Range) : Writing String := do
  let text ← Writer.write (← keyed entry.1 entry.2)
  extend acc text

/-- Writes the condition of all ranges together. -/
def render (ranges : Entries Range) : Writing String :=
  ranges.foldlM step ""

end FilterClause.Range
