import FilterClause.Settings.Environment
import FilterClause.Settings.Variables
import FilterClause.Toml.Reader

/-!
Settings: the options of the compiler, whether queries are logged, and what is different in each of
several environments. An environment is applied at most once.
-/
namespace FilterClause

open Node (Conventions Decoded asBoolean asEntries asRecord)

structure Settings where
  options : Options := {}
  /-- Whether the condition of each query is logged. -/
  logSql : Bool := false
  environments : Entries Environment := []
deriving Repr

namespace Settings

def logFields : List (String × (Bool → Node → Decoded Bool)) :=
  [("log_sql", fun _ node => asBoolean node)]

def fields (conventions : Conventions) : List (String × (Settings → Node → Decoded Settings)) :=
  [ ("compiler", fun s node => do return { s with options := ← Options.decode conventions node }),
    ("debug", fun s node => do
      return { s with logSql := ← asRecord conventions "DebugConfig" true false logFields false node }),
    ("environments", fun s node => do
      return { s with environments := ← asEntries (Environment.decode conventions) node }) ]

def decode (conventions : Conventions) (node : Node) : Decoded Settings :=
  asRecord conventions "CribaConfig" true false (fields conventions) {} node

/-- The failure of a text that is no TOML, or that holds a value of the wrong kind. -/
def refuse (mismatch : Option Mismatch) : Failure :=
  let problem := (mismatch.map Mismatch.message).getD "the text is not valid TOML"
  (Failure.configuration ("invalid configuration: " ++ problem)).withCause (.toml mismatch)

/-- The settings that a text holds once the values of variables are put in. -/
def ofText (vars : String → Option String) (text : String) : Checked Settings :=
  match Toml.read? (expand vars text) with
  | none => .error (refuse none)
  | some fields =>
    (decode Toml.conventions (Toml.table .header fields).node).mapError fun m => refuse (some m)

/-- Applies an environment and takes it away. A name that is none changes nothing. -/
def withEnvironment (s : Settings) (name : String) : Settings :=
  match s.environments.find? name with
  | none => s
  | some environment =>
    { options := (environment.options.map (·.apply s.options)).getD s.options
      logSql := (environment.log.bind LogOverride.logSql).getD s.logSql
      environments := s.environments.erase name }

end Settings

end FilterClause
