import FilterClause.Filter
import FilterClause.Json.Skip

/-!
A request holds every category of one query as it was sent. It is written as a JSON object, or as an
array of its fields in order, and read from a text or from a value.
-/
namespace FilterClause

structure Request where
  equality : Option Json := none
  /-- How the equality filters compare, if the request says so. -/
  filterType : Option String := none
  special : Option Json := none
  range : Option Json := none
  extra : Option Json := none
  within : Option Json := none
  without : Option Json := none
  notEqual : Option Json := none
  period : Option Json := none
  /-- A condition that is passed on as it is. -/
  rawSql : Option String := none
  columns : Columns := []
deriving Inhabited

namespace Request

/-- What is read under the name of a field. -/
inductive Shape
  | category (set : Request → Option Json → Request)
  | text (set : Request → Option String → Request)
  | columns

/-- The fields of a request, in order. -/
def fields : List (String × Shape) :=
  [ ("filtro", .category fun r v => { r with equality := v }),
    ("tipo_filtro", .text fun r v => { r with filterType := v }),
    ("filtro_especial", .category fun r v => { r with special := v }),
    ("filtro_rango", .category fun r v => { r with range := v }),
    ("filtro_extra", .category fun r v => { r with extra := v }),
    ("in", .category fun r v => { r with within := v }),
    ("not_in", .category fun r v => { r with without := v }),
    ("diferente_de", .category fun r v => { r with notEqual := v }),
    ("filtro_fecha", .category fun r v => { r with period := v }),
    ("sql_extra", .text fun r v => { r with rawSql := v }),
    ("columnas_extra", .columns) ]

/-- Null stands for an absent category. -/
def present (value : Json) : Option Json :=
  if value.isNull then none else some value

def isDefault (r : Request) : Bool :=
  r.equality.isNone && r.filterType.isNone && r.special.isNone && r.range.isNone &&
    r.extra.isNone && r.within.isNone && r.without.isNone && r.notEqual.isNone &&
    r.period.isNone && r.rawSql.isNone && r.columns.isEmpty

/-! ### From a value -/

def textOfJson (value : Json) : Except Mismatch String :=
  match value with
  | .text s => .ok s
  | value => .error (.wrongType value.found "a string")

def columnsOfJson (value : Json) : Except Mismatch Columns :=
  match value with
  | .object members => members.foldlM (fun columns (name, expression) => do
      return Entries.put columns name (← textOfJson expression)) []
  | value => .error (.wrongType value.found "a map")

def setOfJson (shape : Shape) (r : Request) (value : Json) : Except Mismatch Request :=
  match shape with
  | .category set => .ok (set r (present value))
  | .text set => if value.isNull then .ok (set r none) else do return set r (some (← textOfJson value))
  | .columns => do return { r with columns := ← columnsOfJson value }

def decode (value : Json) : Except Mismatch Request :=
  match value with
  | .object members => members.foldlM (fun r (name, value) =>
      match fields.lookup name with
      | some shape => setOfJson shape r value
      | none => .ok r) {}
  | .array items => do
    let r ← (fields.zip items).foldlM (fun r ((_, shape), item) => setOfJson shape r item) {}
    if items.length ≤ fields.length then .ok r
    else .error (.wrongLength items.length "fewer elements in array")
  | value => .error (.wrongType value.found "struct FilterRequest")

/-! ### From a text -/

def readText (cs : List Char) : Except Json.Fault (Json.Cut String) :=
  match Json.skipSpace cs with
  | '"' :: rest => Json.string? rest
  | rest => Json.unexpected "a string" rest

def readOptionalText (cs : List Char) : Except Json.Fault (Json.Cut (Option String)) :=
  match Json.skipSpace cs with
  | 'n' :: rest => do return (none, ← Json.expect ['u', 'l', 'l'] rest)
  | rest => do
    let (s, rest) ← readText rest
    return (some s, rest)

def readColumns (cs : List Char) : Except Json.Fault (Json.Cut Columns) :=
  match Json.skipSpace cs with
  | '\x7b' :: rest =>
    Json.members (fun columns name cs => do
      let (expression, rest) ← readText (← Json.colon cs)
      return (Entries.put columns name expression, rest)) [] rest
  | rest => Json.unexpected "a map" rest

/-- Reads a field of a request, itself inside one array or object. -/
def readField (shape : Shape) (r : Request) (cs : List Char) :
    Except Json.Fault (Json.Cut Request) :=
  match shape with
  | .category set => do
    let (value, rest) ← Json.value (Json.depthLimit - 1) cs
    return (set r (present value), rest)
  | .text set => do
    let (value, rest) ← readOptionalText cs
    return (set r value, rest)
  | .columns => do
    let (columns, rest) ← readColumns cs
    return ({ r with columns }, rest)

/-- Reads what follows a name in the object form. A field may be given once, and a second time is
noticed at its name; other names are passed over. -/
def readMember (state : List String × Request) (name : String) (cs : List Char) :
    Except Json.Fault (Json.Cut (List String × Request)) :=
  let (seen, r) := state
  match fields.lookup name with
  | none => do return (state, ← Json.skip (← Json.colon cs))
  | some shape =>
    if seen.contains name then .error (.mismatch (.duplicateField name))
    else do
      let (r, rest) ← readField shape r (← Json.colon cs)
      return ((name :: seen, r), rest)

def read (cs : List Char) : Except Json.Fault (Json.Cut Request) :=
  match Json.skipSpace cs with
  | '\x7b' :: rest => do
    let ((_, r), rest) ← Json.members readMember ([], {}) rest
    return (r, rest)
  | '[' :: rest => Json.fields (fields.map fun (_, shape) => readField shape) {} rest
  | rest => Json.unexpected "struct FilterRequest" rest

/-! ### Both with failures -/

def refuse (fault : Json.Fault) (data : String) : Failure :=
  (Failure.invalidShape ("invalid filter request: " ++ fault.message) data).withCause (.json fault)

/-- The request that a text is. -/
def ofText (text : String) : Checked Request :=
  (Json.finish (read text.toList)).mapError fun fault => refuse fault text

/-- The request that a value is. -/
def ofJson (value : Json) : Checked Request :=
  (decode value).mapError fun m => refuse (.mismatch m) value.compact

/-! ### Written form -/

def categoryMember (name : String) (value : Option Json) : List (String × Json) :=
  match value with
  | none => []
  | some value => [(name, value)]

/-- The object form, without the fields that are absent. -/
def toJson (r : Request) : Json :=
  .object
    (categoryMember "filtro" r.equality ++
      categoryMember "tipo_filtro" (r.filterType.map .text) ++
      categoryMember "filtro_especial" r.special ++
      categoryMember "filtro_rango" r.range ++
      categoryMember "filtro_extra" r.extra ++
      categoryMember "in" r.within ++
      categoryMember "not_in" r.without ++
      categoryMember "diferente_de" r.notEqual ++
      categoryMember "filtro_fecha" r.period ++
      categoryMember "sql_extra" (r.rawSql.map .text) ++
      (if r.columns.isEmpty then []
        else [("columnas_extra", .object (r.columns.map fun (name, s) => (name, .text s)))]))

end Request

end FilterClause
