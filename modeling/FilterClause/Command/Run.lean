import FilterClause.Command.Report
import FilterClause.Log.Trace

/-!
What comes of a command line: the exit status, the texts that are printed, and the log.
-/
namespace FilterClause.Command

/-! ### What is logged -/

/-- Queries are logged even where no log is asked for. -/
def logSettings (vars : String → Option String) (settings : Settings) : Log.Settings :=
  let asked := Log.Settings.ofVariables vars
  if settings.logSql && !asked.requested then .resolve none (some "info") none else asked

/-- The event of a compiled query, where queries are to be logged. -/
def queryEvents (source : Source) (settings : Settings) (compiled : Compiled) : List Log.Event :=
  if settings.logSql then
    [ { level := .info
        target := "criba_cli::commands::compile"
        message := "compiled: " ++ compiled.bundle.whereClause
        values := [("source", .text source.shown), ("params", .integer compiled.params.length)] } ]
  else []

/-- The events of a command, from when its settings are known. Once the request is compiled, `after`
tells what else there is to log. -/
def events (s : Surroundings) (source : Source) (adjust : Options → Options)
    (after : Settings → Compiled → List Log.Event) (settings : Settings) : List Log.Event :=
  match loadText s source with
  | .error _ => []
  | .ok text =>
    match Request.ofText text with
    | .error failure => [Log.Trace.failure failure]
    | .ok request =>
      let compiler : Compiler := { options := adjust settings.options }
      Log.Trace.compilation compiler request ++
        match compiler.compile request with
        | .ok compiled => after settings compiled
        | .error _ => []

/-- A log: how it is written, and the events in it. -/
structure Logged where
  format : Log.Format := .json
  events : List Log.Event := []

/-- The log of a command. There is none before the settings are known. -/
def log (s : Surroundings) (source : Source) (adjust : Options → Options)
    (after : Settings → Compiled → List Log.Event) : Logged :=
  match loadSettings s source with
  | .error _ => {}
  | .ok settings =>
    let wanted := logSettings s.vars settings
    { format := wanted.format
      events := wanted.keep (.start wanted :: events s source adjust after settings) }

/-! ### Outcomes -/

structure Outcome where
  status : Nat
  output : String := ""
  log : Logged := {}
  error : Option Error := none

/-- The outcome of a command that prints a text first, whatever comes of it. -/
def outcome {α : Type} (before : String) (log : Logged) (result : Except Error α)
    (shown : α → String) : Outcome :=
  match result with
  | .ok a => { status := 0, output := before ++ shown a, log }
  | .error error => { status := 1, output := before, log, error := some error }

def runCompile (s : Surroundings) (source : Source) (rendering : Rendering) : Outcome :=
  outcome "" (log s source rendering.options (queryEvents source))
    (compileSource s source rendering.options)
    fun (options, compiled) => shownCompiled rendering.output options compiled

def runCheck (s : Surroundings) (source : Source) : Outcome :=
  outcome (checkHeader source) (log s source id fun _ _ => []) (compileSource s source id)
    fun (_, compiled) => checkReport source compiled

/-- The outcome of a command line. One that is refused has the status 2. -/
def run (s : Surroundings) (args : List String) : Outcome :=
  match Invocation.read s.vars args with
  | none => { status := 2 }
  | some .showHelp => { status := 0, output := usage }
  | some (.showVersion command) => { status := 0, output := command ++ " " ++ versionNumber ++ "\n" }
  | some .version => { status := 0, output := versionReport s.vars }
  | some (.check source) => runCheck s source
  | some (.compile source rendering) => runCompile s source rendering

/-- What is printed as an error. -/
def Outcome.errors (o : Outcome) : String :=
  match o.error with
  | some error => error.shown
  | none => if o.status = 2 then usage else ""

end FilterClause.Command
