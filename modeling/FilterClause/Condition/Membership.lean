import FilterClause.Filter
import FilterClause.Writer

/-!
Membership in a list of values. The values are put together here; a `Form` checks the list and writes
the condition around it.
-/
namespace FilterClause.Membership

/-- Refuses a blank field and a blank list. -/
def checkShape (field list : String) : Checked Unit :=
  if Text.isBlank field then .error (.emptyField field)
  else if Text.isBlank list then
    .error ((Failure.emptyValue "IN value list" list).withField field)
  else .ok ()

/-- How a database writes that a field is, or is not, one of a list of values. -/
structure Form where
  build : (field : String) → (list : String) → (negated : Bool) → String
  check : (field : String) → (list : String) → Checked Unit := checkShape

/-- The form `field IN (values)`. -/
def Form.standard : Form where
  build field list negated :=
    Text.trim field ++ (if negated then " NOT IN (" else " IN (") ++ list ++ ")"

/-- Puts a value after the ones that are there already. No value may be blank, and a refusal shows
all of them. -/
def stepList (values : List Scalar) (acc : String) (value : Scalar) : Writing String := do
  if value.isBlank then
    throw (.emptyValue "IN value" (Scalar.displayAll values))
  let text ← Writer.value value.trimmed
  return if acc = "" then text else acc ++ "," ++ text

/-- Writes the values with a comma between each two. -/
def renderList (values : List Scalar) : Writing String :=
  values.foldlM (stepList values) ""

/-- Writes the condition that a field is, or is not, one of the values. Without any values there is
nothing to exclude, but nothing can be chosen either. -/
def render (form : Form) (negated : Bool) (field : String) (values : List Scalar) :
    Writing String := do
  if negated && values.isEmpty then
    return ""
  let field := Text.trim field
  if field = "" then
    throw (.emptyField field)
  let list ← (renderList values).wrap "failed to build value list"
  (form.check field list).wrap "invalid IN clause"
  return form.build field list negated

end FilterClause.Membership
