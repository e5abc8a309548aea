import FilterClause.Json.Printer
import FilterClause.Log.Settings

/-!
Events of a log. An event has a level, the part of the program that it comes from, a message, and
named values.
-/
namespace FilterClause.Log

structure Event where
  level : Level
  /-- The part of the program that the event comes from. -/
  target : String
  message : String
  values : List (String × Json) := []
deriving Repr

namespace Event

def toJson (e : Event) : Json :=
  .object
    [ ("level", .text e.level.name.toUpper),
      ("fields", .object (("message", .text e.message) :: e.values)),
      ("target", .text e.target) ]

/-- An event for a reader: its level, where it comes from, its message and its values. -/
def describe (separator : String) (e : Event) : String :=
  separator.intercalate
    ((e.level.name.toUpper ++ " " ++ e.target ++ ": " ++ e.message) ::
      e.values.map fun (name, value) => name ++ "=" ++ value.compact)

/-- An event as it is logged in a format. -/
def write (format : Format) (e : Event) : String :=
  match format with
  | .json => e.toJson.compact ++ "\n"
  | .compact => e.describe " " ++ "\n"
  | .pretty => e.describe "\n    " ++ "\n\n"

/-- The event of a log that has just been set up. -/
def start (settings : Settings) : Event :=
  { level := .info
    target := "criba_query::logging"
    message := "Criba logging initialized"
    values := [("level", .text settings.level.name), ("format", .text settings.format.name)] }

end Event

/-- The events that are logged with the given settings. -/
def Settings.keep (settings : Settings) (events : List Event) : List Event :=
  events.filter fun event => settings.admits event.level

end FilterClause.Log
