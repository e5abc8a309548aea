import FilterClause.Filter
import FilterClause.Writer

/-!
What an equality filter compares: the field, which may be an expression that stands for a logical
column, and the value without white space at its ends.
-/
namespace FilterClause

structure Comparison where
  /-- The field as it is written: escaped, or the expression of a column as it is. -/
  field : String
  value : String
  /-- The value with its type. -/
  typed : Scalar
  /-- Whether the field is the expression of a column. -/
  substituted : Bool
deriving DecidableEq, Repr

namespace Comparison

/-- Whether an expression stands for a field. -/
def isSubstituted (field : String) (columns : Columns) : Checked Bool :=
  let field := Text.trim field
  if field = "" then .error (.emptyField field) else .ok (columns.find? field).isSome

/-- The comparison of a filter under its key. Only a key that is a column just as it is written is
replaced by the expression. -/
def resolve (key : String) (filter : Equality) (columns : Columns) : Checked Comparison :=
  if Text.isBlank key then .error (.emptyKey key)
  else
    let typed := filter.value.trimmed
    let value := Text.trim typed.asText
    match columns.find? key with
    | some expression => .ok { field := expression, value, typed, substituted := true }
    | none =>
      .ok { field := Literal.escape (filter.field.getD key), value, typed, substituted := false }

end Comparison

end FilterClause
