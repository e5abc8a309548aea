import FilterClause.Entries
import FilterClause.Toml.Value

/-!
Putting the tables of a TOML text together. Every name is defined once: a table with a header may not
be extended by dotted keys, a table that came through dotted keys may not get a header, and a table
in braces may not be extended at all.
-/
namespace FilterClause.Toml

abbrev Fields := Entries Toml

/-- Applies a change to the last row of a list. -/
def onLast {α : Type} (change : α → Option α) : List α → Option (List α)
  | [] => none
  | [row] => do return [← change row]
  | row :: rows => do return row :: (← onLast change rows)

/-- Adds a value under a key whose parts but the last name tables. Tables that are not there yet come
to be. The innermost one, if it was there, came through a dotted key. -/
def insertAt (fields : Fields) (path : List String) (key : String) (value : Toml) : Option Fields :=
  match path with
  | [] => if (fields.find? key).isSome then none else some (fields.put key value)
  | name :: path =>
    match fields.find? name with
    | none => do return fields.put name (.table .dotted (← insertAt [] path key value))
    | some (.table .dotted inner) => do
      return fields.put name (.table .dotted (← insertAt inner path key value))
    | some (.table .implied inner) =>
      if path.isEmpty then none
      else do return fields.put name (.table .implied (← insertAt inner path key value))
    | some (.tables rows) =>
      if path.isEmpty then none
      else do
        return fields.put name (.tables (← onLast (insertAt · path key value) rows))
    | some _ => none

/-- A key and the value under it. The parts of the key before the last one are its path. -/
structure Assignment where
  path : List String
  key : String
  value : Toml

def insertAll (fields : Fields) (assignments : List Assignment) : Option Fields :=
  assignments.foldlM (fun fields a => insertAt fields a.path a.key a.value) fields

/-- Applies a change to the table that a path leads to. Of tables under one header the last one
counts, and tables that are not there yet come to be. -/
def changeAt (fields : Fields) (path : List String) (change : Fields → Option Fields) :
    Option Fields :=
  match path with
  | [] => change fields
  | name :: path =>
    match fields.find? name with
    | none => do return fields.put name (.table .implied (← changeAt [] path change))
    | some (.table .inline _) => none
    | some (.table origin inner) => do
      return fields.put name (.table origin (← changeAt inner path change))
    | some (.tables rows) => do
      return fields.put name (.tables (← onLast (changeAt · path change) rows))
    | some _ => none

/-- A header, by the brackets that it stands in. -/
inductive Header
  /-- Of a table of its own. -/
  | table (path : List String) (key : String)
  /-- Of one more table of several. -/
  | row (path : List String) (key : String)

/-- Adds the table under a header with its values. A table that was implied so far keeps what it
holds and moves to the end. -/
def addSection (root : Fields) (header : Header) (assignments : List Assignment) : Option Fields :=
  match header with
  | .table path key =>
    changeAt root path fun parent =>
      match parent.find? key with
      | none => do return parent.put key (.table .header (← insertAll [] assignments))
      | some (.table .implied inner) => do
        return (parent.erase key).put key (.table .header (← insertAll inner assignments))
      | some _ => none
  | .row path key =>
    changeAt root path fun parent =>
      match parent.find? key with
      | none => do return parent.put key (.tables [← insertAll [] assignments])
      | some (.tables rows) => do
        return parent.put key (.tables (rows ++ [← insertAll [] assignments]))
      | some _ => none

end FilterClause.Toml
