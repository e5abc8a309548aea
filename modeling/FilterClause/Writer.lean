import FilterClause.Failure
import FilterClause.Template

/-!
Writing conditions. A writer puts each value where a template has a hole: as a quoted literal, or as a
placeholder with a number of its own, and then it keeps the value to be bound. The numbers go on from
one template to the next and have no upper limit: an offset is taken to leave room in a machine word for
the values behind it.
-/
namespace FilterClause

/-- A compiled condition with the values that its placeholders stand for. -/
structure Fragment where
  sql : String
  params : List Scalar
deriving DecidableEq, Repr

structure Writer where
  mode : Mode := .literal
  dialect : Dialect := .postgresql
  /-- The number of values bound before the first one of this writer. -/
  offset : Nat := 0
  /-- The values to be bound, in the order of their placeholders. -/
  params : List Scalar := []
deriving DecidableEq, Repr

/-- A step that writes, and that may be refused. -/
abbrev Writing (α : Type) := StateT Writer (Except Failure) α

namespace Writer

/-- Writes a value. -/
def value (v : Scalar) : Writing String := fun w =>
  match w.mode with
  | .literal => .ok (Literal.ofText v.asText, w)
  | .placeholder =>
    let params := w.params ++ [v]
    .ok (w.dialect.placeholder (w.offset + params.length), { w with params })

/-- Writes a template, piece by piece. -/
def write : Template → Writing String
  | [] => return ""
  | .raw s :: rest => return s ++ (← write rest)
  | .hole v :: rest => do
    let text ← value v
    return text ++ (← write rest)

end Writer

namespace Writing

variable {α : Type}

def wrap (message : String) (writing : Writing α) : Writing α := fun w =>
  (writing w).mapError (·.wrap message)

/-- What is written when all values are literals. -/
def text (writing : Writing String) : Checked String :=
  (writing {}).map Prod.fst

end Writing

/-! ### One text after another -/

/-- What stands between a text and the condition that is put after it. -/
def separator (acc : String) : String :=
  if acc = "" then "" else " AND "

/-- A condition after a text, with a connective between them unless the text is empty. -/
def attach (acc connective condition : String) : String :=
  if acc = "" then condition else acc ++ " " ++ connective ++ " " ++ condition

end FilterClause
