import FilterClause.Text.Quoted

/-!
What can be wrong with a well-formed value that is read as a record, a name or a scalar of a given
kind, and how each case is described.
-/
namespace FilterClause

/-- What stands where something else was expected. -/
inductive Found
  | null
  | boolean (b : Bool)
  | integer (i : Int)
  /-- A number that is not whole, in the layout of the format it was read from. -/
  | float (shown : String)
  | text (s : String)
  | sequence
  | map
deriving DecidableEq, Repr

def Found.describe : Found → String
  | .null => "null"
  | .boolean true => "boolean `true`"
  | .boolean false => "boolean `false`"
  | .integer i => "integer `" ++ toString i ++ "`"
  | .float shown => "floating point `" ++ shown ++ "`"
  | .text s => "string " ++ Text.quoted s
  | .sequence => "sequence"
  | .map => "map"

inductive Mismatch
  | wrongType (found : Found) (expected : String)
  | wrongValue (found : Found) (expected : String)
  | wrongLength (length : Nat) (expected : String)
  | unknownField (name : String) (known : List String)
  | unknownVariant (name : String) (known : List String)
  | duplicateField (name : String)
  /-- A value that cannot stand for one of several names. -/
  | notAVariant (description : String)
deriving DecidableEq, Repr

namespace Mismatch

def tick (name : String) : String :=
  "`" ++ name ++ "`"

/-- The names that would have been accepted. -/
def oneOf : List String → String
  | [] => "nothing"
  | [a] => tick a
  | [a, b] => tick a ++ " or " ++ tick b
  | names => "one of " ++ ", ".intercalate (names.map tick)

def message : Mismatch → String
  | wrongType found expected => "invalid type: " ++ found.describe ++ ", expected " ++ expected
  | wrongValue found expected => "invalid value: " ++ found.describe ++ ", expected " ++ expected
  | wrongLength length expected =>
    "invalid length " ++ toString length ++ ", expected " ++ expected
  | unknownField name known => "unknown field " ++ tick name ++ ", expected " ++ oneOf known
  | unknownVariant name known => "unknown variant " ++ tick name ++ ", expected " ++ oneOf known
  | duplicateField name => "duplicate field " ++ tick name
  | notAVariant description => description

end Mismatch

end FilterClause
