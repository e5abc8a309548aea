import FilterClause.Command.Run

/-!
The program: it gathers what a command can see, runs the command, and prints what comes of it.
-/
namespace FilterClause.Program

open Command

def obstacleOf (error : IO.Error) : Obstacle :=
  match error with
  | .noFileOrDirectory .. => .missing
  | .inappropriateType _ 21 _ => .isDirectory
  | .inappropriateType .. => .notDirectory
  | .invalidArgument _ 36 _ => .nameTooLong
  | .userError _ => .other "stream did not contain valid UTF-8"
  | error => .other (toString error)

def readPath (path : String) : IO (String × Except Obstacle String) := do
  try
    return (path, .ok (← IO.FS.readFile path))
  catch error =>
    return (path, .error (obstacleOf error))

partial def readAll (stream : IO.FS.Stream) (before : String) : IO String := do
  let line ← stream.getLine
  if line.isEmpty then return before else readAll stream (before ++ line)

def readVariables (names : List String) : IO (Entries String) := do
  let values ← names.mapM fun name => do return (name, ← IO.getEnv name)
  return values.filterMap fun (name, value) => value.map fun value => (name, value)

/-- The variables with a meaning of their own. -/
def ownVariables : List String :=
  ["CRIBA_CONFIG", "CRIBA_ENV", "CRIBA_DEBUG", "CRIBA_LOG_LEVEL", "CRIBA_LOG_FORMAT"]

def sourceOf (vars : Entries String) (args : List String) : Option Source :=
  match Invocation.read vars.find? args with
  | some (.compile source _) => some source
  | some (.check source) => some source
  | _ => none

/-- What a command can see, with no more files and variables than it looks at. -/
def gather (args : List String) : IO Surroundings := do
  let own ← readVariables ownVariables
  let directory := (← IO.currentDir).toString
  let nothing : Surroundings :=
    { vars := own.find?, directory, file := fun _ => .error .missing, input := "" }
  match sourceOf own args with
  | none => return nothing
  | some source =>
    let config ← readPath (source.config.getD nothing.usualConfig)
    let named :=
      match config with
      | (_, .ok text) => Settings.names none text.toList
      | _ => []
    let vars ← readVariables (named.map String.ofList)
    let files ← if source.input = "-" then pure [] else do pure [← readPath source.input]
    let input ← if source.input = "-" then readAll (← IO.getStdin) "" else pure ""
    return { vars := Entries.find? (own ++ vars)
             directory
             file := fun path => ((config :: files).lookup path).getD (.error .missing)
             input }

end FilterClause.Program

def main (args : List String) : IO UInt32 := do
  let outcome := FilterClause.Command.run (← FilterClause.Program.gather args) args
  IO.print outcome.output
  for event in outcome.log.events do
    IO.eprint (event.write outcome.log.format)
  IO.eprint outcome.errors
  return outcome.status.toUInt32
