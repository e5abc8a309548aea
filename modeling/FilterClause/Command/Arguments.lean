import FilterClause.Template

/-!
The words of a command line and what they ask for. A command has switches, some of which take a
value, and at most one operand. Words are read from left to right, and a switch that asks for help or
for the version ends the reading.
-/
namespace FilterClause.Command

/-! ### Invocations -/

/-- Where a request and its settings come from. -/
structure Source where
  /-- The path of the request, or `-` for the standard input. -/
  input : String := "-"
  config : Option String := none
  environment : Option String := none
deriving DecidableEq, Repr

inductive Output
  /-- Every condition under its name, with the values to bind. -/
  | json
  /-- The one condition of the whole query. -/
  | sql
deriving DecidableEq, Repr

def Output.choices : List (String × Output) :=
  [("json", .json), ("sql", .sql)]

/-- How a request is compiled and shown. -/
structure Rendering where
  output : Output := .json
  /-- Whether there are to be placeholders, whatever the settings say. -/
  placeholders : Bool := false
  dialect : Option Dialect := none
deriving DecidableEq, Repr

inductive Invocation
  | compile (source : Source) (rendering : Rendering)
  | check (source : Source)
  | version
  | showVersion (command : String)
  | showHelp
deriving DecidableEq, Repr

/-! ### Switches -/

inductive Switch
  | config
  | environment
  | format
  | dialect
  | placeholders
  | help
  | version
deriving DecidableEq, Repr

namespace Switch

def letter : Switch → Char
  | config => 'c'
  | environment => 'e'
  | format => 'f'
  | dialect => 'd'
  | placeholders => 'p'
  | help => 'h'
  | version => 'V'

def word : Switch → String
  | config => "config"
  | environment => "env"
  | format => "format"
  | dialect => "dialect"
  | placeholders => "placeholders"
  | help => "help"
  | version => "version"

def takesValue : Switch → Bool
  | config => true
  | environment => true
  | format => true
  | dialect => true
  | _ => false

end Switch

/-- The names of the dialects on a command line. -/
def dialects : List (String × Dialect) :=
  [Dialect.postgresql, .mysql, .sqlite].map fun dialect => (dialect.name, dialect)

/-- What the words so far have given. -/
structure Given where
  input : Option String := none
  config : Option String := none
  environment : Option String := none
  output : Option Output := none
  dialect : Option Dialect := none
  placeholders : Bool := false

/-- Why the reading of words ends early. -/
inductive Stop
  | refused
  | help
  | version
deriving DecidableEq, Repr

namespace Given

/-- Keeps a value that may be given once, and is not refused. -/
def once {α : Type} (old new : Option α) : Except Stop (Option α) :=
  match old, new with
  | none, some a => .ok (some a)
  | _, _ => .error .refused

/-- A path, which is not empty. -/
def path? (value : String) : Option String :=
  if value = "" then none else some value

/-- Gives a switch its value. -/
def set (given : Given) (switch : Switch) (value : String) : Except Stop Given :=
  match switch with
  | .config => do return { given with config := ← once given.config (path? value) }
  | .environment => do return { given with environment := ← once given.environment (some value) }
  | .format => do return { given with output := ← once given.output (Output.choices.lookup value) }
  | .dialect => do return { given with dialect := ← once given.dialect (dialects.lookup value) }
  | _ => .error .refused

/-- Sets a switch that takes no value. -/
def raise (given : Given) (switch : Switch) : Except Stop Given :=
  match switch with
  | .placeholders =>
    if given.placeholders then .error .refused else .ok { given with placeholders := true }
  | .help => .error .help
  | .version => .error .version
  | _ => .error .refused

def operand (given : Given) (value : String) : Except Stop Given := do
  return { given with input := ← once given.input (path? value) }

end Given

/-! ### Words -/

inductive Word
  | operand (s : String)
  | long (name : String) (value : Option String)
  | short (letters : List Char)
  /-- The mark after which every word is an operand. -/
  | mark
deriving DecidableEq, Repr

/-- A lone hyphen is an operand. -/
def Word.ofText (s : String) : Word :=
  match s.toList with
  | ['-', '-'] => .mark
  | '-' :: '-' :: cs =>
    .long (String.ofList (cs.takeWhile (· != '=')))
      (match cs.dropWhile (· != '=') with
      | [] => none
      | _ :: value => some (String.ofList value))
  | '-' :: c :: cs => .short (c :: cs)
  | _ => .operand s

/-- What may stand after the name of a command. -/
structure Grammar where
  switches : List Switch
  takesOperand : Bool

namespace Grammar

def operand (g : Grammar) (given : Given) (value : String) : Except Stop Given :=
  if g.takesOperand then given.operand value else .error .refused

/-- Reads switches by their letters. The value of a switch is what is left of the word, or the next
word when nothing is left; then the switch is handed back. -/
def letters (g : Grammar) (given : Given) : List Char → Except Stop (Given × Option Switch)
  | [] => .ok (given, none)
  | c :: cs =>
    match g.switches.find? (·.letter = c) with
    | none => .error .refused
    | some switch =>
      if switch.takesValue then
        match cs with
        | [] => .ok (given, some switch)
        | '=' :: value => do return (← given.set switch (String.ofList value), none)
        | value => do return (← given.set switch (String.ofList value), none)
      else do letters g (← given.raise switch) cs

/-- Reads a switch by its word, with the value that is attached to it. -/
def long (g : Grammar) (given : Given) (name : String) (value : Option String) :
    Except Stop (Given × Option Switch) :=
  match g.switches.find? (·.word = name), value with
  | none, _ => .error .refused
  | some switch, some value => do return (← given.set switch value, none)
  | some switch, none =>
    if switch.takesValue then .ok (given, some switch)
    else do return (← given.raise switch, none)

/-- Reads all words. A switch that is open still needs its value. -/
def read (g : Grammar) (given : Given) : Option Switch → List String → Except Stop Given
  | none, [] => .ok given
  | some _, [] => .error .refused
  | opened, arg :: args =>
    match opened, Word.ofText arg with
    | some switch, .operand s => do read g (← given.set switch s) none args
    | some _, _ => .error .refused
    | none, .operand s => do read g (← g.operand given s) none args
    | none, .mark => args.foldlM g.operand given
    | none, .long name value => do
      let (given, opened) ← g.long given name value
      read g given opened args
    | none, .short cs => do
      let (given, opened) ← g.letters given cs
      read g given opened args

end Grammar

/-! ### Commands -/

inductive Task
  | compile
  | check
  | version
deriving DecidableEq, Repr

namespace Task

def name : Task → String
  | compile => "compile"
  | check => "check"
  | version => "version"

def all : List Task :=
  [compile, check, version]

def ofName? (s : String) : Option Task :=
  all.find? fun task => task.name = s

def grammar : Task → Grammar
  | compile => ⟨[.config, .environment, .format, .placeholders, .dialect, .help, .version], true⟩
  | check => ⟨[.config, .environment, .help, .version], true⟩
  | version => ⟨[.help, .version], false⟩

/-- The source of a request. A variable stands for a switch that is not given. -/
def source (vars : String → Option String) (given : Given) : Option Source := do
  let config ← match given.config.or (vars "CRIBA_CONFIG") with
    | none => some none
    | some path => (Given.path? path).map some
  return { input := given.input.getD "-"
           config
           environment := given.environment.or (vars "CRIBA_ENV") }

def invocation (task : Task) (vars : String → Option String) (given : Given) :
    Option Invocation :=
  match task with
  | compile => do
    let rendering : Rendering :=
      { output := given.output.getD .json
        placeholders := given.placeholders
        dialect := given.dialect }
    return .compile (← source vars given) rendering
  | check => do return .check (← source vars given)
  | version => some .version

end Task

/-- What comes of words that have been read, or of a stop among them. -/
def conclude (command : String) (invocation : Given → Option Invocation)
    (read : Except Stop Given) : Option Invocation :=
  match read with
  | .ok given => invocation given
  | .error .refused => none
  | .error .help => some .showHelp
  | .error .version => some (.showVersion command)

/-- The help of one command at most may be asked for. -/
def help (args : List String) : Option Invocation :=
  match args with
  | [] => some .showHelp
  | [name] => if name = "help" || (Task.ofName? name).isSome then some .showHelp else none
  | _ => none

/-- What a command line asks for, or nothing when it is refused. -/
def Invocation.read (vars : String → Option String) (args : List String) : Option Invocation :=
  match args with
  | [] => none
  | first :: rest =>
    match Task.ofName? first with
    | some task =>
      conclude ("criba-" ++ task.name) (task.invocation vars) (task.grammar.read {} none rest)
    | none =>
      if first = "help" then help rest
      else
        conclude "criba" (fun _ => none) ((Grammar.mk [.help, .version] false).read {} none args)

end FilterClause.Command
