import FilterClause.Filter

/-!
From the loose JSON of a category to its filters. A category that is absent or null has none. No
condition is written here; what is refused is refused for its shape.
-/
namespace FilterClause.Intake

abbrev Members := List (String × Json)

/-- The entries of a category whose keys are fields. An empty array stands for no entries, and the
elements of any other array have numbers for keys. -/
def keyed (value : Json) (category : String) : Checked Members :=
  match value with
  | .object members => .ok members
  | .array [] => .ok []
  | .array _ =>
    .error ((Failure.numericKey value.compact).withHelp
      ("`" ++ category ++ "` must be an object keyed by table.column"))
  | _ => .error (.invalidShape ("`" ++ category ++ "` must be an object") value.compact)

/-- The entries of a category that is a list. Of an object the values are taken in order. -/
def listed (value : Json) (category : String) : Checked (List Json) :=
  match value with
  | .array items => .ok items
  | .object members => .ok (members.map Prod.snd)
  | _ => .error (.invalidShape ("`" ++ category ++ "` must be an array") value.compact)

def record (value : Json) (what : String) : Checked Members :=
  match value with
  | .object members => .ok members
  | _ => .error (.invalidShape (what ++ " must be an object") value.compact)

def scalar (value : Json) (what : String) : Checked Scalar :=
  match Scalar.ofJson? value with
  | some v => .ok v
  | none => .error (.invalidShape (what ++ " must be a scalar") value.compact)

def text (value : Json) (what : String) : Checked String := do
  return (← scalar value what).asText

/-- The text under a name. Null counts as absent. -/
def optionalText (members : Members) (name : String) : Checked (Option String) :=
  match Entries.find? members name with
  | none => .ok none
  | some .null => .ok none
  | some value => do return some (← text value name)

/-- The scalar under a name. Null is a scalar. -/
def optionalScalar (members : Members) (name : String) : Checked (Option Scalar) :=
  match Entries.find? members name with
  | none => .ok none
  | some value => do return some (← scalar value name)

/-- The value under a name that has to be there and not to be null. -/
def required (members : Members) (name : String) : Checked Json :=
  match Entries.find? members name with
  | none => .error (.missing name (Json.object members).compact)
  | some .null => .error (.missing name (Json.object members).compact)
  | some value => .ok value

/-- Refuses a record that lacks one of the names, or has null under it. -/
def requireAll (members : Members) (names : List String) : Checked Unit :=
  names.forM fun name => do let _ ← required members name

def flag (members : Members) (name : String) : Bool :=
  ((Entries.find? members name).map Json.isTruthy).getD false

/-- The field and the entry of a group, which has exactly one. -/
def singleEntry (group : Json) (category : String) : Checked (String × Json) := do
  match ← record group ("each `" ++ category ++ "` group") with
  | [(field, entry)] => return (field, entry)
  | _ =>
    throw (.invalidShape ("each `" ++ category ++ "` group must have exactly one field")
      group.compact)

/-- Reads a category that may be absent. -/
def category {α : Type} (value : Option Json) (absent : α) (read : Json → Checked α) : Checked α :=
  match value with
  | none => .ok absent
  | some .null => .ok absent
  | some value => read value

/-! ### The categories -/

/-- One equality filter: a scalar, or an object with a value and up to three more attributes. -/
def equality (key : String) (entry : Json) : Checked Equality :=
  match entry with
  | .object [] => .error ((Failure.emptyValue "filter entry" entry.compact).withField key)
  | .object attributes => do
    let given ← (required attributes "value").withField key
    let value ← scalar given "value"
    let field ← optionalText attributes "campo"
    let comparison ← optionalText attributes "comparacion"
    let connective ← optionalText attributes "operador"
    return { value, field, comparison, connective }
  | .array _ =>
    .error ((Failure.invalidShape "filter entry must be a scalar or an object" entry.compact).withField
      key)
  | _ => do return { value := ← scalar entry "value" }

def equalities (value : Option Json) : Checked (Entries Equality) :=
  category value [] fun value => do
    (← keyed value "filtro").mapM fun (key, entry) => do return (key, ← equality key entry)

def range (key : String) (entry : Json) : Checked Range := do
  let attributes ← record entry "a range filter"
  (requireAll attributes ["valor1", "valor2"]).withField key
  let lower ← scalar (← required attributes "valor1") "valor1"
  let upper ← scalar (← required attributes "valor2") "valor2"
  return { lower, upper, bound := .ofFlag (flag attributes "valor_campo") }

def ranges (value : Option Json) : Checked (Entries Range) :=
  category value [] fun value => do
    (← keyed value "filtro_rango").mapM fun (key, entry) => do return (key, ← range key entry)

/-- An object or an array without entries is no filter. -/
def membership (value : Option Json) : Checked (Option Membership) :=
  category value none fun value =>
    match value with
    | .object [] => .ok none
    | .array [] => .ok none
    | value => do
      let attributes ← record value "an IN filter"
      requireAll attributes ["llave", "values"]
      let field ← text (← required attributes "llave") "llave"
      match ← required attributes "values" with
      | .array items =>
        let values ← items.mapM fun item => scalar item "an IN value"
        return some { field, values }
      | other =>
        throw ((Failure.invalidShape "`values` must be an array" other.compact).withField field)

def period (entry : Json) : Checked Period := do
  let attributes ← record entry "a date filter"
  requireAll attributes ["campo_1", "campo_2", "fecha"]
  let start ← text (← required attributes "campo_1") "campo_1"
  let finish ← text (← required attributes "campo_2") "campo_2"
  let date ← text (← required attributes "fecha") "fecha"
  return { start, finish, date }

def periods (value : Option Json) : Checked (List Period) :=
  category value [] fun value => do (← listed value "filtro_fecha").mapM period

def special (group : Json) : Checked (Group Special) := do
  let (field, entry) ← singleEntry group "filtro_especial"
  let attributes ← record entry "a special filter"
  let operator ← optionalText attributes "operador"
  let value ← optionalScalar attributes "valor"
  let bound := Bound.ofFlag (flag attributes "valor_es_campo")
  let connective ← optionalText attributes "comparacion"
  return { field, filter := { operator, value, bound, connective } }

def specials (value : Option Json) : Checked (List (Group Special)) :=
  category value [] fun value => do (← listed value "filtro_especial").mapM special

def extra (group : Json) : Checked (Group Extra) := do
  let (field, entry) ← singleEntry group "filtro_extra"
  let attributes ← record entry "an extra filter"
  let operator ← optionalText attributes "operador"
  let value ← optionalScalar attributes "valor"
  let connective ← optionalText attributes "comparacion"
  return { field, filter := { operator, value, connective } }

def extras (value : Option Json) : Checked (List (Group Extra)) :=
  category value [] fun value => do (← listed value "filtro_extra").mapM extra

def notEqual (key : String) (entry : Json) : Checked Scalar :=
  if isNumericKey key then .error (.numericKey key) else scalar entry "a not-equal value"

def notEquals (value : Option Json) : Checked (Entries Scalar) :=
  category value [] fun value => do
    (← keyed value "diferente_de").mapM fun (key, entry) => do return (key, ← notEqual key entry)

end FilterClause.Intake
