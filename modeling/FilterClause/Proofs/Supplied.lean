import FilterClause.Bundle
import FilterClause.Proofs.ConditionForms
import FilterClause.Request

/-!
What the caller of a request supplies, read off its JSON alone. No reader of a category comes into it
and nothing is checked: an entry supplies the values that it has, or nothing if it lacks one of them.
-/
namespace FilterClause

/-- Where a value that is bound comes from. -/
inductive Origin
  /-- A scalar of the caller. -/
  | scalar (v : Scalar)
  /-- A text that is made for the condition: a pattern, the name of a field or a date. -/
  | text (s : String)
deriving DecidableEq, Repr

def Origin.value : Origin → Scalar
  | scalar v => v
  | text s => .text s

namespace Supplied

/-- The entries of a category under their keys. -/
def entries : Option Json → List (String × Json)
  | some (.object members) => members
  | _ => []

/-- The elements of a category. Of an object these are the values. -/
def elements : Option Json → List Json
  | some (.array items) => items
  | some (.object members) => members.map Prod.snd
  | _ => []

/-- What stands under a name in an object. -/
def given (entry : Json) (name : String) : Option Json :=
  match entry with
  | .object members => members.lookup name
  | _ => none

def scalar (entry : Json) (name : String) : Option Scalar :=
  (given entry name).bind Scalar.ofJson?

/-- The text of the scalar under a name. Null has none. -/
def text (entry : Json) (name : String) : Option String :=
  match given entry name with
  | some .null => none
  | found => (found.bind Scalar.ofJson?).map Scalar.asText

def isSet (entry : Json) (name : String) : Bool :=
  (given entry name).any Json.isTruthy

/-- The key and the entry of a group. -/
def group? : Json → Option (String × Json)
  | .object [(key, entry)] => some (key, entry)
  | _ => none

/-! ### The values of single entries -/

/-- The value of an equality filter, which is the entry itself unless the entry is an object. -/
def equalityValue (entry : Json) : Option Scalar :=
  match entry with
  | .object _ => scalar entry "value"
  | _ => Scalar.ofJson? entry

/-- A pattern is looked for among texts, unless the filter gives a connective. -/
def isPattern (filterType : FilterType) (entry : Json) : Bool :=
  filterType = .texts && (text entry "operador").getD "" = ""

def equality (filterType : FilterType) (entry : Json) : Option (List Origin) := do
  let v ← equalityValue entry
  return if isPattern filterType entry then [.text ("%" ++ Text.trim v.asText ++ "%")]
    else [.scalar v]

/-- A field takes the place of the value when it is compared with another one. -/
def special (columns : Columns) (group : Json) : Option (List Origin) := do
  let (key, entry) ← group? group
  if isSet entry "valor_es_campo" then
    return [.text (Special.writtenField key columns)]
  return [.scalar (← scalar entry "valor")]

/-- A field takes the place of both bounds when it lies between two others. -/
def range (key : String) (entry : Json) : Option (List Origin) := do
  if isSet entry "valor_campo" then
    return [.text (Text.trim key)]
  return [.scalar (← scalar entry "valor1"), .scalar (← scalar entry "valor2")]

def extra (group : Json) : Option (List Origin) := do
  let (_, entry) ← group? group
  return [.scalar (← scalar entry "valor")]

def single (entry : Json) : Option (List Origin) := do
  return [.scalar (← Scalar.ofJson? entry)]

/-- A date is compared with both ends of its period. -/
def period (entry : Json) : Option (List Origin) :=
  match given entry "fecha" with
  | some (.text date) => some [.text (Text.trim date), .text (Text.trim date)]
  | _ => none

/-- The field of a membership filter, if there is one. -/
def membershipField (filter : Option Json) : Option String :=
  filter.bind (text · "llave")

/-- The values of a membership filter, if there is one. -/
def members (filter : Option Json) : List Json :=
  match filter.bind (given · "values") with
  | some (.array items) => items
  | _ => []

end Supplied

namespace Request

open Supplied

/-- Where all values of a request come from, by category and in the order of the entries. -/
def origins? (r : Request) (filterType : FilterType) : Option (Bundle (List Origin)) := do
  let equality ← (entries r.equality).mapM fun (_, entry) => Supplied.equality filterType entry
  let special ← (elements r.special).mapM (Supplied.special r.columns)
  let range ← (entries r.range).mapM fun (key, entry) => Supplied.range key entry
  let extra ← (elements r.extra).mapM Supplied.extra
  let within ← (members r.within).mapM single
  let without ← (members r.without).mapM single
  let notEqual ← (entries r.notEqual).mapM fun (_, entry) => single entry
  let period ← (elements r.period).mapM Supplied.period
  return {
    equality := equality.flatten
    special := special.flatten
    range := range.flatten
    extra := extra.flatten
    within := within.flatten
    without := without.flatten
    notEqual := notEqual.flatten
    period := period.flatten
    rawSql := [] }

/-- How many values the entries of a request call for. A range calls for two, or for one field. -/
def valueCount (r : Request) : Nat :=
  (entries r.equality).length + (elements r.special).length +
    ((entries r.range).length +
      (entries r.range).countP fun (_, entry) => !isSet entry "valor_campo") +
    (elements r.extra).length + (members r.within).length + (members r.without).length +
    (entries r.notEqual).length + 2 * (elements r.period).length

end Request

end FilterClause
