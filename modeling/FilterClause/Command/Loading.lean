import FilterClause.Command.Arguments
import FilterClause.Command.Error
import FilterClause.Settings

/-!
From a command line to a compiled request. A command sees its surroundings as a value, so that what
it does is a function of them.
-/
namespace FilterClause.Command

/-- What a command can see: variables, its directory, files by path, and the standard input. -/
structure Surroundings where
  vars : String → Option String
  directory : String
  file : String → Except Obstacle String
  input : String

namespace Surroundings

/-- Whether there is anything at a path. -/
def has (s : Surroundings) (path : String) : Bool :=
  match s.file path with
  | .error .missing => false
  | .error .notDirectory => false
  | .error .nameTooLong => false
  | _ => true

/-- The path of the settings that need not be asked for. -/
def usualConfig (s : Surroundings) : String :=
  (if s.directory.endsWith "/" then s.directory else s.directory ++ "/") ++ "criba.toml"

end Surroundings

/-- The path of the settings, if there are any. Those that are asked for have to be there. -/
def configPath (s : Surroundings) (source : Source) : Except Error (Option String) :=
  match source.config with
  | some path => if s.has path then .ok (some path) else .error (.configurationNotFound path)
  | none => .ok (if s.has s.usualConfig then some s.usualConfig else none)

def readSettings (s : Surroundings) (path : String) : Except Error Settings :=
  match s.file path with
  | .error _ => .error (.refused (.configuration ("failed to read " ++ path)))
  | .ok text => ((Settings.ofText s.vars text).withOperation path).mapError .refused

/-- The settings of a command, with the environment it asks for. -/
def loadSettings (s : Surroundings) (source : Source) : Except Error Settings := do
  let settings ← match ← configPath s source with
    | none => .ok {}
    | some path => readSettings s path
  return match source.environment with
    | none => settings
    | some name => settings.withEnvironment name

/-- The text of the request. -/
def loadText (s : Surroundings) (source : Source) : Except Error String :=
  if source.input = "-" then .ok s.input else (s.file source.input).mapError .unreadable

/-- The settings and the request of a command. The settings come first. -/
def load (s : Surroundings) (source : Source) : Except Error (Settings × Request) := do
  let settings ← loadSettings s source
  let text ← loadText s source
  let request ← (Request.ofText text).mapError .refused
  return (settings, request)

/-- The name under which the source of a request is shown. -/
def Source.shown (source : Source) : String :=
  if source.input = "-" then "<stdin>" else source.input

/-- The options of the settings, with what the command line says otherwise. -/
def Rendering.options (rendering : Rendering) (options : Options) : Options :=
  { options with
    mode := if rendering.placeholders then .placeholder else options.mode
    dialect := rendering.dialect.getD options.dialect }

/-- Compiles the request of a source, with the options that the settings come to. -/
def compileSource (s : Surroundings) (source : Source) (adjust : Options → Options) :
    Except Error (Options × Compiled) := do
  let (settings, request) ← load s source
  let options := adjust settings.options
  let compiled ← (({ options } : Compiler).compile request).mapError .refused
  return (options, compiled)

end FilterClause.Command
