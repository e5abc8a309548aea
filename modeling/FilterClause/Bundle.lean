import FilterClause.Writer

/-!
The conditions of one query by category, and the one condition that they make together.
-/
namespace FilterClause

/-- Something for each category, in the order in which the categories are compiled. -/
structure Bundle (α : Type) where
  equality : α
  special : α
  range : α
  extra : α
  within : α
  without : α
  notEqual : α
  period : α
  rawSql : α
deriving DecidableEq, Repr

/-- Conditions ready for use, and the values that their placeholders stand for. -/
structure Compiled where
  bundle : Bundle String
  params : List Scalar
deriving DecidableEq, Repr

namespace Bundle

variable {α β : Type}

def replicate (a : α) : Bundle α :=
  ⟨a, a, a, a, a, a, a, a, a⟩

/-- The names under which the conditions are known. -/
def names : Bundle String :=
  { equality := "sentencia"
    special := "filtro_especial"
    range := "filtro_rango"
    extra := "filtro_extra"
    within := "in"
    without := "not_in"
    notEqual := "diferente_de"
    period := "filtro_fecha"
    rawSql := "sql_extra" }

def toList (b : Bundle α) : List α :=
  [b.equality, b.special, b.range, b.extra, b.within, b.without, b.notEqual, b.period, b.rawSql]

/-- Each part under its name, in order. -/
def entries (b : Bundle α) : List (String × α) :=
  names.toList.zip b.toList

def isEmpty (b : Bundle String) : Bool :=
  b.toList.all (· = "")

/-- The names of the conditions that there are. -/
def populated (b : Bundle String) : List String :=
  (b.entries.filter fun (_, sql) => sql != "").map Prod.fst

/-- The conditions that are not blank, without white space at their ends. -/
def parts (b : Bundle String) : List (String × String) :=
  (b.entries.map fun (name, sql) => (name, Text.trim sql)).filter fun (_, sql) => sql != ""

/-- One of several conditions, in parentheses so that no connective in it reaches its neighbours.
Periods have their parentheses already. -/
def enclosed (name sql : String) : String :=
  if name = names.period then sql else "(" ++ sql ++ ")"

/-- The one condition of the whole query. -/
def whereClause (b : Bundle String) : String :=
  match b.parts with
  | [(_, only)] => only
  | parts => " AND ".intercalate (parts.map fun (name, sql) => enclosed name sql)

/-! ### JSON -/

def toJson (b : Bundle String) : Json :=
  .object (b.entries.map fun (name, sql) => (name, .text sql))

/-- The fields of the written form, each read as a text. -/
def fields : List (String × (Bundle String → Node → Node.Decoded (Bundle String))) :=
  let set (put : Bundle String → String → Bundle String) (b : Bundle String) (node : Node) := do
    Except.ok (put b (← node.asText))
  names.toList.zip
    [ set fun b s => { b with equality := s },
      set fun b s => { b with special := s },
      set fun b s => { b with range := s },
      set fun b s => { b with extra := s },
      set fun b s => { b with within := s },
      set fun b s => { b with without := s },
      set fun b s => { b with notEqual := s },
      set fun b s => { b with period := s },
      set fun b s => { b with rawSql := s } ]

/-- Reads a bundle back. Conditions that are not there are empty. -/
def ofJson (value : Json) : Node.Decoded (Bundle String) :=
  Node.asRecord Json.conventions "CompiledFilterBundle" false false fields (replicate "") value.node

end Bundle

def Compiled.toJson (c : Compiled) : Json :=
  .object [("bundle", c.bundle.toJson), ("params", .array (c.params.map Scalar.toJson))]

end FilterClause
