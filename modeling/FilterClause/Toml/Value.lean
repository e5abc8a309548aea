import FilterClause.Decimal.Layout
import FilterClause.Decoding.Node

/-!
TOML values. A table remembers how it came to be, since that decides how it may still be extended.
-/
namespace FilterClause

namespace Toml

inductive Real
  | finite (x : Decimal.Binary64)
  | infinite (negative : Bool)
  | undefined
deriving DecidableEq, Repr, Inhabited

/-- Where a table comes from. -/
inductive Origin
  /-- Written between braces. -/
  | inline
  /-- Under a header of its own. -/
  | header
  /-- Above a table with a header. -/
  | implied
  /-- Through a dotted key. -/
  | dotted
deriving DecidableEq, Repr, Inhabited

end Toml

inductive Toml
  | text (s : String)
  /-- A whole number from `-2 ^ 63` to `2 ^ 63 - 1`. -/
  | integer (i : Int)
  | real (x : Toml.Real)
  | boolean (b : Bool)
  /-- A date, a time or both, in the one form that all its spellings have in common. -/
  | moment (shown : String)
  | array (items : List Toml)
  | table (origin : Toml.Origin) (fields : List (String × Toml))
  /-- The tables that share one header, in order. -/
  | tables (rows : List (List (String × Toml)))
deriving Repr, Inhabited

namespace Toml

/-- Numbers are written positionally and always with a point. -/
def layout : Decimal.Layout where
  positional _ := true
  keepsPoint := true
  plus := ""
  tie := .up

def Real.text : Real → String
  | finite x => Decimal.write layout x
  | infinite negative => if negative then "-inf" else "inf"
  | undefined => "NaN"

mutual

def node : Toml → Node
  | text s => .text s
  | integer i => .integer i
  | real x => .float x.text
  | boolean b => .boolean b
  | moment shown => .moment shown
  | array items => .sequence (nodes items)
  | table _ fields => .record (fieldNodes fields)
  | tables rows => .sequence (rowNodes rows)

def nodes : List Toml → List Node
  | [] => []
  | item :: items => node item :: nodes items

def fieldNodes : List (String × Toml) → List (String × Node)
  | [] => []
  | (name, value) :: fields => (name, node value) :: fieldNodes fields

def rowNodes : List (List (String × Toml)) → List Node
  | [] => []
  | row :: rows => .record (fieldNodes row) :: rowNodes rows

end

/-- Holds the place of a value where only a name is looked for. -/
def payload : Node → Node.Decoded Unit
  | .record [] => .ok ()
  | .sequence [] => .ok ()
  | .record _ => .error (.notAVariant "expected empty table")
  | .sequence _ => .error (.notAVariant "expected empty table")
  | _ => .error (.notAVariant "expected table")

/-- A name is chosen by a text, or by a table whose only field has that name and is empty. A sequence
may hold more elements than a record has fields. -/
def conventions : Node.Conventions where
  variant node :=
    match node with
    | .text name => .ok (name, .ok ())
    | .record [(name, value)] => .ok (name, payload value)
    | .record [] => .error (.notAVariant "wanted exactly 1 element, found 0 elements")
    | .record _ => .error (.notAVariant "wanted exactly 1 element, more than 1 element")
    | _ => .error (.notAVariant "wanted string or table")
  surplus := true

end Toml

end FilterClause
