import FilterClause.Decimal.Layout
import FilterClause.Decoding.Node

/-!
JSON values. The members of an object keep the order in which their names were first written.
-/
namespace FilterClause

/-- A number is whole when it was written without fraction and exponent and lies between `-2 ^ 63`
and `2 ^ 64 - 1`; any other number is the nearest binary64 one. -/
inductive Json.Number
  | integer (i : Int)
  | float (x : Decimal.Binary64)
deriving DecidableEq, Repr, Inhabited

inductive Json
  | null
  | boolean (b : Bool)
  | number (n : Json.Number)
  | text (s : String)
  | array (items : List Json)
  | object (members : List (String × Json))
deriving Repr, Inhabited

namespace Json

/-- Numbers with an exponent below -5 or above 15 are written with it. -/
def layout : Decimal.Layout where
  positional exponent := -5 ≤ exponent && exponent ≤ 15
  keepsPoint := true
  plus := "+"
  tie := .toEven

def Number.text : Number → String
  | .integer i => toString i
  | .float x => Decimal.write layout x

def integer (i : Int) : Json :=
  number (.integer i)

def isNull : Json → Bool
  | null => true
  | _ => false

/-- Whether a value counts as set when it stands for a flag. -/
def isTruthy : Json → Bool
  | null => false
  | boolean b => b
  | number (.integer i) => i != 0
  | number (.float x) => !x.isZero
  | text s => s != "" && s != "0"
  | array items => !items.isEmpty
  | object members => !members.isEmpty

mutual

def node : Json → Node
  | null => .null
  | boolean b => .boolean b
  | number (.integer i) => .integer i
  | number (.float x) => .float (Decimal.write layout x)
  | text s => .text s
  | array items => .sequence (nodes items)
  | object members => .record (memberNodes members)

def nodes : List Json → List Node
  | [] => []
  | item :: items => node item :: nodes items

def memberNodes : List (String × Json) → List (String × Node)
  | [] => []
  | (name, value) :: members => (name, node value) :: memberNodes members

end

def found (value : Json) : Found :=
  match value with
  | null => .null
  | boolean b => .boolean b
  | number (.integer i) => .integer i
  | number (.float x) => .float (Decimal.write layout x)
  | text s => .text s
  | array _ => .sequence
  | object _ => .map

/-- A name is chosen by a text, or by an object whose only member has that name and is null. A
sequence may not hold more elements than a record has fields. -/
def conventions : Node.Conventions where
  variant node :=
    match node with
    | .text name => .ok (name, .ok ())
    | .record [(name, .null)] => .ok (name, .ok ())
    | .record [(name, value)] => .ok (name, .error (.wrongType value.found "unit"))
    | .record _ => .error (.wrongValue .map "map with a single key")
    | node => .error (.wrongType node.found "string or map")
  surplus := false

end Json

end FilterClause
