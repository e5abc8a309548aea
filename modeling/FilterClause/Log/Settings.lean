/-!
Which events are logged and how they are written, as three variables ask for it: a flag for
debugging, a level and a format.
-/
namespace FilterClause.Log

inductive Level
  | trace
  | debug
  | info
  | warn
  | error
deriving DecidableEq, Repr

namespace Level

def all : List Level :=
  [trace, debug, info, warn, error]

def name : Level → String
  | trace => "trace"
  | debug => "debug"
  | info => "info"
  | warn => "warn"
  | error => "error"

/-- The level with a name, in capitals or not. -/
def read? (s : String) : Option Level :=
  all.find? fun level => level.name = s.toLower

/-- How much an event of the level matters. -/
def weight : Level → Nat
  | trace => 0
  | debug => 1
  | info => 2
  | warn => 3
  | error => 4

/-- Whether events of the second level are logged where the first one is asked for. -/
def admits (least level : Level) : Bool :=
  least.weight ≤ level.weight

end Level

inductive Format
  /-- One JSON object for each event. -/
  | json
  /-- Several lines for each event. -/
  | pretty
  /-- One line for each event. -/
  | compact
deriving DecidableEq, Repr

namespace Format

def name : Format → String
  | json => "json"
  | pretty => "pretty"
  | compact => "compact"

/-- The format with a name, in capitals or not. Any other name stands for JSON. -/
def read (s : String) : Format :=
  ([pretty, compact].find? fun format => format.name = s.toLower).getD json

end Format

/-- Holds of the words that switch a flag on. -/
def isOn (flag : String) : Bool :=
  ["true", "1", "yes"].contains flag.toLower

structure Settings where
  debug : Bool
  level : Level
  format : Format
  /-- Whether there is to be a log at all. -/
  requested : Bool
deriving DecidableEq, Repr

namespace Settings

/-- The settings that the values of the three variables ask for. A level that is no level still asks
for a log, with the level that there is without one. -/
def resolve (debug level format : Option String) : Settings :=
  let debug := debug.any isOn
  let usual := if debug then Level.debug else .warn
  { debug
    level := (level.bind Level.read?).getD usual
    format := (format.map Format.read).getD .json
    requested := debug || level.isSome }

/-- The settings that the variables of a process ask for. -/
def ofVariables (vars : String → Option String) : Settings :=
  resolve (vars "CRIBA_DEBUG") (vars "CRIBA_LOG_LEVEL") (vars "CRIBA_LOG_FORMAT")

/-- The level, for each of the parts that log. -/
def directive (settings : Settings) : String :=
  ",".intercalate (["criba", "criba_query", "criba_cli"].map fun part =>
    part ++ "=" ++ settings.level.name)

def admits (settings : Settings) (level : Level) : Bool :=
  settings.requested && settings.level.admits level

end Settings

end FilterClause.Log
