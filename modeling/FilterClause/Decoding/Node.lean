import FilterClause.Decoding.Mismatch
import FilterClause.Entries

/-!
Values as the decoders of records see them, whatever format they were written in, and the decoders
of scalars, names and records. What the formats do differently is held in `Conventions`.
-/
namespace FilterClause

inductive Node
  | null
  | boolean (b : Bool)
  | integer (i : Int)
  | float (shown : String)
  | text (s : String)
  /-- A date, a time or both, in a format that has them. -/
  | moment (shown : String)
  | sequence (items : List Node)
  | record (fields : List (String × Node))
deriving Repr, Inhabited

namespace Node

def found : Node → Found
  | null => .null
  | boolean b => .boolean b
  | integer i => .integer i
  | float shown => .float shown
  | text s => .text s
  | moment _ => .map
  | sequence _ => .sequence
  | record _ => .map

/-- The fields of a record. A moment counts as a record with one field. -/
def entries? : Node → Option (List (String × Node))
  | record fields => some fields
  | moment shown => some [("$__toml_private_datetime", .text shown)]
  | _ => none

abbrev Decoded (α : Type) := Except Mismatch α

/-- How a format writes the choice of one of several names, and whether a sequence may hold more
elements than the record read from it has fields. -/
structure Conventions where
  /-- The name chosen, and what is left to check about its value once the name is known. -/
  variant : Node → Decoded (String × Decoded Unit)
  surplus : Bool

def asText : Node → Decoded String
  | text s => .ok s
  | node => .error (.wrongType node.found "a string")

def asBoolean : Node → Decoded Bool
  | boolean b => .ok b
  | node => .error (.wrongType node.found "a boolean")

/-- A whole number that is not negative. -/
def asSize : Node → Decoded Nat
  | integer i => if i < 0 then .error (.wrongValue (.integer i) "usize") else .ok i.toNat
  | node => .error (.wrongType node.found "usize")

/-- One of the listed names, each with the value that it stands for. -/
def asVariant {α : Type} (conventions : Conventions) (choices : List (String × α)) (node : Node) :
    Decoded α := do
  let (name, check) ← conventions.variant node
  match choices.lookup name with
  | none => .error (.unknownVariant name (choices.map Prod.fst))
  | some value =>
    check
    .ok value

/-- Reads the elements of a sequence into the fields of a record, in the order of the fields. -/
def inOrder {σ : Type} (conventions : Conventions) (setters : List (σ → Node → Decoded σ))
    (state : σ) (items : List Node) : Decoded σ := do
  let state ← (setters.zip items).foldlM (fun state (set, item) => set state item) state
  if conventions.surplus || items.length ≤ setters.length then .ok state
  else .error (.wrongLength items.length "fewer elements in array")

/-- Reads a record in either of its two forms: fields under their names, or a sequence of the fields'
values in order. `closed` tells whether names that are not fields are refused, `complete` whether a
sequence has to have an element for every field. -/
def asRecord {σ : Type} (conventions : Conventions) (title : String) (closed complete : Bool)
    (fields : List (String × (σ → Node → Decoded σ))) (start : σ) (node : Node) : Decoded σ :=
  match node.entries?, node with
  | some entries, _ =>
    entries.foldlM (fun state (name, value) =>
      match fields.lookup name with
      | some set => set state value
      | none => if closed then .error (.unknownField name (fields.map Prod.fst)) else .ok state) start
  | none, sequence items => do
    let state ← inOrder conventions (fields.map Prod.snd) start items
    if complete && items.length < fields.length then
      .error (.wrongLength items.length ("struct " ++ title ++ " with " ++ toString fields.length ++
        (if fields.length = 1 then " element" else " elements")))
    else .ok state
  | none, node => .error (.wrongType node.found ("struct " ++ title))

/-- The entries of a map with names of any kind. -/
def asEntries {α : Type} (value : Node → Decoded α) (node : Node) : Decoded (Entries α) :=
  match node.entries? with
  | some entries => entries.foldlM (fun read (name, entry) => do
      return Entries.put read name (← value entry)) []
  | none => .error (.wrongType node.found "a map")

end Node

end FilterClause
