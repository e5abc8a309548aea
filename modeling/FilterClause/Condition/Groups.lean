import FilterClause.Condition.Comparison

/-!
Filters in groups of one field each. Special filters may put an expression in place of the field or
compare two fields. Extra filters have to give every attribute, also the first one its connective,
and always compare with a literal.
-/
namespace FilterClause

/-! ### Attributes that both kinds check -/

namespace Group

/-- The key of a group without white space at its ends. It is neither empty nor numeric. -/
def readField (key : String) : Checked String :=
  let field := Text.trim key
  if field = "" then .error (.emptyKey key)
  else if isNumericKey field then .error (.numericKey field)
  else .ok field

def readOperator (operator : Option String) (field : String) : Checked String :=
  match operator with
  | none => .error ((Failure.missing "operador" field).withField field)
  | some operator =>
    if Text.isBlank operator then .error ((Failure.emptyValue "operador" field).withField field)
    else .ok operator

def readValue (value : Option Scalar) (field : String) : Checked Scalar :=
  match value with
  | none => .error ((Failure.missing "valor" field).withField field)
  | some value =>
    if value.isNull then .error ((Failure.missing "valor" field).withField field)
    else if value.isBlank then .error ((Failure.emptyValue "valor" field).withField field)
    else .ok value

def readConnective (connective : Option String) (field : String) : Checked Connective :=
  match connective with
  | none => .error ((Failure.missing "comparacion" field).withField field)
  | some connective => (Connective.read connective).withField field

end Group

/-! ### Special filters -/

namespace Special

/-- What is written for a field: the expression of the column, or the field itself. -/
def substitute (field : String) (columns : Columns) : Checked String := do
  let field := Text.trim field
  if field = "" then
    throw (.emptyField field)
  let substituted ← (Comparison.isSubstituted field columns).wrap "failed to check subquery column"
  return if substituted then (columns.find? field).getD field else field

/-- A field compared with a literal, or a literal field compared with another field. -/
def compare (field : String) (filter : Special) : Checked Template := do
  let operator ← Group.readOperator filter.operator field
  let value ← Group.readValue filter.value field
  match filter.bound with
  | .literal => return [.raw (field ++ " " ++ operator ++ " "), .hole value]
  | .field => return [.hole (.text field), .raw (operator ++ value.asText)]

/-- The field and the condition of one group. -/
def condition (columns : Columns) (group : Group Special) : Checked (String × Template) := do
  let key ← (Group.readField group.field).wrap "invalid special filter key"
  let field ← substitute key columns
  let condition ← (compare field group.filter).wrap "failed to build special condition"
  return (key, condition)

/-- Puts the condition of a group after the ones that are there already. The connective of a group
with nothing before it is not looked at. -/
def step (columns : Columns) (acc : String) (group : Group Special) : Writing String := do
  let (key, condition) ← condition columns group
  let text ← Writer.write condition
  if acc = "" then
    return text
  let connective ← Group.readConnective group.filter.connective key
  return attach acc connective.keyword text

/-- Writes the condition of all groups together. -/
def render (columns : Columns) (groups : List (Group Special)) : Writing String :=
  groups.foldlM (step columns) ""

end Special

/-! ### Extra filters -/

namespace Extra

/-- The connective and the condition of one group. -/
def condition (group : Group Extra) : Checked (Connective × Template) := do
  let field ← (Group.readField group.field).wrap "invalid extra filter key"
  let value ← Group.readValue group.filter.value field
  let operator ← Group.readOperator group.filter.operator field
  let connective ← Group.readConnective group.filter.connective field
  return (connective, [.raw (Literal.escape field ++ " " ++ operator ++ " "), .hole value])

/-- Puts the condition of a group after the ones that are there already. -/
def step (acc : String) (group : Group Extra) : Writing String := do
  let (connective, condition) ← condition group
  return attach acc connective.keyword (← Writer.write condition)

/-- Writes the condition of all groups together. -/
def render (groups : List (Group Extra)) : Writing String :=
  groups.foldlM step ""

end Extra

end FilterClause
