import FilterClause.Settings.Options

/-!
What is different in an environment. Whatever it does not mention stays as it is elsewhere.
-/
namespace FilterClause

open Node (Conventions Decoded asBoolean asRecord asSize)

/-- Options that are different in an environment. -/
structure OptionsOverride where
  mode : Option Mode := none
  dialect : Option Dialect := none
  offset : Option Nat := none
  filterType : Option FilterType := none
deriving DecidableEq, Repr

namespace OptionsOverride

def fields (conventions : Conventions) :
    List (String × (OptionsOverride → Node → Decoded OptionsOverride)) :=
  [ ("render", fun o node => do return { o with mode := some (← Mode.decode conventions node) }),
    ("dialect", fun o node => do
      return { o with dialect := some (← Dialect.decode conventions node) }),
    ("param_offset", fun o node => do return { o with offset := some (← asSize node) }),
    ("default_filter_type", fun o node => do
      return { o with filterType := some (← FilterType.decode conventions node) }) ]

def decode (conventions : Conventions) (node : Node) : Decoded OptionsOverride :=
  asRecord conventions "CompilerOverride" true true (fields conventions) {} node

def apply (o : OptionsOverride) (options : Options) : Options :=
  { mode := o.mode.getD options.mode
    dialect := o.dialect.getD options.dialect
    offset := o.offset.getD options.offset
    filterType := o.filterType.getD options.filterType }

end OptionsOverride

structure LogOverride where
  logSql : Option Bool := none
deriving DecidableEq, Repr

namespace LogOverride

def fields : List (String × (LogOverride → Node → Decoded LogOverride)) :=
  [("log_sql", fun o node => do return { o with logSql := some (← asBoolean node) })]

def decode (conventions : Conventions) (node : Node) : Decoded LogOverride :=
  asRecord conventions "DebugOverride" true true fields {} node

end LogOverride

/-- What is different in an environment. -/
structure Environment where
  options : Option OptionsOverride := none
  log : Option LogOverride := none
deriving DecidableEq, Repr

namespace Environment

def fields (conventions : Conventions) :
    List (String × (Environment → Node → Decoded Environment)) :=
  [ ("compiler", fun e node => do
      return { e with options := some (← OptionsOverride.decode conventions node) }),
    ("debug", fun e node => do return { e with log := some (← LogOverride.decode conventions node) }) ]

def decode (conventions : Conventions) (node : Node) : Decoded Environment :=
  asRecord conventions "EnvironmentOverride" true true (fields conventions) {} node

end Environment

end FilterClause
