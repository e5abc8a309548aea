import FilterClause.Json.Printer
import FilterClause.Text.Blank

/-!
The values that a filter compares with. A scalar has a type of its own and a text, which is what a
condition shows when its values are written into it.
-/
namespace FilterClause

inductive Scalar
  | null
  | boolean (b : Bool)
  /-- A whole number from `-2 ^ 63` to `2 ^ 63 - 1`. -/
  | integer (i : Int)
  /-- A finite number, as JSON has no others. Infinities and NaN are left out. -/
  | float (x : Decimal.Binary64)
  | text (s : String)
deriving DecidableEq, Repr, Inhabited

namespace Scalar

def isNull : Scalar → Bool
  | null => true
  | _ => false

/-- The text of a scalar. Neither null nor false has any. -/
def asText : Scalar → String
  | null => ""
  | boolean true => "1"
  | boolean false => ""
  | integer i => toString i
  | float x => Decimal.write .plain x
  | text s => s

def isBlank (v : Scalar) : Bool :=
  Text.isBlank v.asText

/-- The scalar without white space at the ends of a text. -/
def trimmed : Scalar → Scalar
  | text s => text (Text.trim s)
  | v => v

/-- Whole numbers beyond 64 signed bits become binary64 ones. Arrays and objects are no scalars. -/
def ofJson? : Json → Option Scalar
  | .null => some null
  | .boolean b => some (boolean b)
  | .number (.integer i) =>
    if -0x8000000000000000 ≤ i ∧ i ≤ 0x7FFFFFFFFFFFFFFF then some (integer i) else (Decimal.ofInt i).map float
  | .number (.float x) => some (float x)
  | .text s => some (text s)
  | .array _ => none
  | .object _ => none

def toJson : Scalar → Json
  | null => .null
  | boolean b => .boolean b
  | integer i => .integer i
  | float x => .number (.float x)
  | text s => .text s

/-- Numbers in displayed scalars have an exponent below 1e-4 and from 1e16. -/
def displayLayout : Decimal.Layout where
  positional exponent := -4 ≤ exponent && exponent ≤ 15
  keepsPoint := true
  plus := ""
  tie := .up

/-- A scalar as shown in messages, with its type. -/
def display : Scalar → String
  | null => "Null"
  | boolean b => "Bool(" ++ (if b then "true" else "false") ++ ")"
  | integer i => "Int(" ++ toString i ++ ")"
  | float x => "Float(" ++ Decimal.write displayLayout x ++ ")"
  | text s => "String(" ++ Text.quoted s ++ ")"

def displayAll (values : List Scalar) : String :=
  "[" ++ ", ".intercalate (values.map display) ++ "]"

end Scalar

end FilterClause
