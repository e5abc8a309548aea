import FilterClause.Filter
import FilterClause.Writer

/-!
Dates within a period. The two ends are expressions and are written as they are.
-/
namespace FilterClause.Period

/-- An attribute without white space at its ends, which leaves something of it. -/
def readText (value name : String) : Checked String :=
  let value := Text.trim value
  if value = "" then .error (.emptyValue name value) else .ok value

/-- The condition of one period: the date is neither before its start nor after its end. -/
def condition (period : Period) : Checked Template := do
  let start ← readText period.start "campo_1"
  let finish ← readText period.finish "campo_2"
  let date ← readText period.date "fecha"
  let _ ← readDate date
  return [.hole (.text date), .raw (" >= " ++ start ++ " AND "), .hole (.text date),
    .raw (" <= " ++ finish)]

/-- Puts the condition of one period after the ones that are there already. -/
def step (acc : String) (period : Period) : Writing String := do
  let condition ← (condition period).wrap "failed to build date condition"
  let text ← Writer.write condition
  return acc ++ separator acc ++ text

/-- Writes the condition of all periods together, in parentheses unless there are none. -/
def render (periods : List Period) : Writing String := do
  let conditions ← periods.foldlM step ""
  return if conditions = "" then "" else "(" ++ conditions ++ ")"

end FilterClause.Period
