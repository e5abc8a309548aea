import FilterClause.Literal
import FilterClause.Scalar

/-!
Conditions with holes. A template is a list of pieces, each raw text or a value still to be filled in.
There are two ways to fill the holes: with quoted literals, or with placeholders that are numbered
through and leave the values to be bound beside the text.
-/
namespace FilterClause

/-- The databases, by the form of their placeholders. -/
inductive Dialect
  | postgresql
  | mysql
  | sqlite
deriving DecidableEq, Repr

namespace Dialect

def name : Dialect → String
  | postgresql => "postgresql"
  | mysql => "mysql"
  | sqlite => "sqlite"

def placeholder (dialect : Dialect) (index : Nat) : String :=
  match dialect with
  | postgresql => "$" ++ toString index
  | mysql => "?"
  | sqlite => "?"

end Dialect

inductive Mode
  | literal
  | placeholder
deriving DecidableEq, Repr

def Mode.name : Mode → String
  | literal => "literal"
  | placeholder => "placeholder"

inductive Piece
  | raw (s : String)
  | hole (v : Scalar)
deriving DecidableEq, Repr

abbrev Template := List Piece

end FilterClause
