import FilterClause.Compiler

/-!
The options of a compiler as they are written in settings: the names that may be chosen, and the
record that holds them.
-/
namespace FilterClause

open Node (Conventions Decoded asRecord asSize asVariant)

def Mode.choices : List (String × Mode) :=
  [("literal", .literal), ("placeholder", .placeholder)]

def Dialect.choices : List (String × Dialect) :=
  [("postgres", .postgresql), ("postgresql", .postgresql), ("mysql", .mysql), ("sqlite", .sqlite),
    ("sqlite3", .sqlite)]

def FilterType.choices : List (String × FilterType) :=
  [("numeros", .numbers), ("textos", .texts)]

def Mode.decode (conventions : Conventions) : Node → Decoded Mode :=
  asVariant conventions Mode.choices

def Dialect.decode (conventions : Conventions) : Node → Decoded Dialect :=
  asVariant conventions Dialect.choices

def FilterType.decode (conventions : Conventions) : Node → Decoded FilterType :=
  asVariant conventions FilterType.choices

namespace Options

def fields (conventions : Conventions) : List (String × (Options → Node → Decoded Options)) :=
  [ ("render", fun o node => do return { o with mode := ← Mode.decode conventions node }),
    ("dialect", fun o node => do return { o with dialect := ← Dialect.decode conventions node }),
    ("param_offset", fun o node => do return { o with offset := ← asSize node }),
    ("default_filter_type", fun o node => do
      return { o with filterType := ← FilterType.decode conventions node }) ]

/-- Options that are not given keep their usual values; names that are no options are refused. -/
def decode (conventions : Conventions) (node : Node) : Decoded Options :=
  asRecord conventions "CompilerOptions" true false (fields conventions) {} node

def toJson (o : Options) : Json :=
  .object
    [ ("render", .text o.mode.name), ("dialect", .text o.dialect.name),
      ("param_offset", .integer o.offset), ("default_filter_type", .text o.filterType.name) ]

end Options

end FilterClause
