import FilterClause.Json.Reader

/-!
Why a request or a configuration is refused. A failure has a stable code and a message, and each
layer it passes on its way out may describe it anew without losing the description below.
-/
namespace FilterClause

inductive Code
  | emptyKey
  | emptyField
  | emptyValue
  | missingAttribute
  | invalidShape
  | invalidConnective
  | invalidDate
  | invalidFilterType
  | numericKey
  | invalidConfiguration
  | internal
deriving DecidableEq, Repr

namespace Code

def number : Code → Nat
  | emptyKey => 1101
  | emptyField => 1102
  | emptyValue => 1103
  | missingAttribute => 1104
  | invalidShape => 1105
  | invalidConnective => 1106
  | invalidDate => 1107
  | invalidFilterType => 1108
  | numericKey => 1109
  | invalidConfiguration => 7001
  | internal => 9001

def label (code : Code) : String :=
  "P" ++ toString code.number

def description : Code → String
  | emptyKey => "Empty filter key"
  | emptyField => "Empty field name"
  | emptyValue => "Empty value"
  | missingAttribute => "Missing required attribute"
  | invalidShape => "Invalid filter shape"
  | invalidConnective => "Invalid logical operator"
  | invalidDate => "Invalid date"
  | invalidFilterType => "Invalid filter type"
  | numericKey => "Numeric field key"
  | invalidConfiguration => "Invalid configuration"
  | internal => "Internal error"

/-- Codes from 1100 to 1199 are about the filters of a request. -/
def isValidation (code : Code) : Bool :=
  1100 ≤ code.number && code.number < 1200

end Code

structure Context where
  /-- The category that was being compiled. -/
  operation : Option String := none
  field : Option String := none
  /-- The offending input. -/
  data : Option String := none
  help : Option String := none
deriving DecidableEq, Repr

structure Layer where
  code : Code
  message : String
  context : Context
deriving DecidableEq, Repr

/-- What a reader of a format found, where a failure started there. -/
inductive Cause
  | json (fault : Json.Fault)
  /-- The value of the wrong kind, if the text was TOML at all. -/
  | toml (mismatch : Option Mismatch)
deriving DecidableEq, Repr

/-- The outermost layer, and the layers below it down to the one where the failure started. -/
structure Failure where
  outer : Layer
  inner : List Layer := []
  cause : Option Cause := none
deriving DecidableEq, Repr

namespace Failure

def make (code : Code) (message : String) : Failure :=
  { outer := { code, message, context := {} } }

/-- A failure at the place where it was found, with the offending input. -/
def report (code : Code) (message data : String) : Failure :=
  { outer := { code, message, context := { data := some data } } }

/-- Describes the failure anew. The code, the operation and the field stay with the new layer, the
data and the help with the old one. -/
def wrap (failure : Failure) (message : String) : Failure :=
  { failure with
    outer :=
      { code := failure.outer.code
        message
        context :=
          { operation := failure.outer.context.operation, field := failure.outer.context.field } }
    inner := failure.outer :: failure.inner }

def withContext (failure : Failure) (context : Context) : Failure :=
  { failure with outer := { failure.outer with context } }

def withOperation (failure : Failure) (operation : String) : Failure :=
  failure.withContext { failure.outer.context with operation := some operation }

def withField (failure : Failure) (field : String) : Failure :=
  failure.withContext { failure.outer.context with field := some field }

def withHelp (failure : Failure) (help : String) : Failure :=
  failure.withContext { failure.outer.context with help := some help }

/-- Puts another failure below the outermost layer, in place of what was there. -/
def withSource (failure source : Failure) : Failure :=
  { outer := failure.outer, inner := source.outer :: source.inner, cause := source.cause }

def withCause (failure : Failure) (cause : Cause) : Failure :=
  { failure with cause := some cause }

/-! ### Kinds of failures -/

def emptyKey (data : String) : Failure :=
  report .emptyKey "filter key is empty" data

def emptyField (data : String) : Failure :=
  report .emptyField "field is empty" data

def emptyValue (what data : String) : Failure :=
  report .emptyValue (what ++ " is empty") data

def missing (name data : String) : Failure :=
  (report .missingAttribute ("required attribute `" ++ name ++ "` is missing") data).withHelp
    ("add `" ++ name ++ "` to the filter entry")

def invalidShape (message data : String) : Failure :=
  report .invalidShape message data

def invalidConnective (data : String) : Failure :=
  report .invalidConnective "logical operator must be AND or OR" data

def invalidDate (data : String) : Failure :=
  (report .invalidDate "value is not a valid date" data).withHelp "dates use the YYYY-MM-DD format"

def invalidFilterType (data : String) : Failure :=
  report .invalidFilterType "filter type must be `numeros` or `textos`" data

def numericKey (data : String) : Failure :=
  report .numericKey "keys must be field references like table.column" data

def configuration (message : String) : Failure :=
  make .invalidConfiguration message

def internal (message : String) : Failure :=
  make .internal ("Internal error: " ++ message)

/-! ### Views -/

def layers (failure : Failure) : List Layer :=
  failure.outer :: failure.inner

/-- The layer where the failure started. -/
def root (failure : Failure) : Layer :=
  failure.inner.getLast?.getD failure.outer

/-- The messages from the outermost layer to the root. -/
def chain (failure : Failure) : List String :=
  failure.layers.map Layer.message

/-- The outermost message with its code. -/
def summary (failure : Failure) : String :=
  "[" ++ failure.outer.code.label ++ "] " ++ failure.outer.message

/-- The first 200 characters of a text, with a mark when there are more. -/
def excerpt (text : String) : String :=
  if 200 < text.length then String.ofList (text.toList.take 200) ++ "..." else text

def numbered (first : Nat) : List String → String
  | [] => ""
  | message :: messages =>
    "  " ++ toString first ++ ". " ++ message ++ "\n" ++ numbered (first + 1) messages

def line (before : String) (text : Option String) : String :=
  match text with
  | none => ""
  | some text => before ++ text ++ "\n"

/-- The whole failure over several lines: the outermost layer, the messages below it, and the data and
help of the root. -/
def full (failure : Failure) : String :=
  let context := failure.outer.context
  let causes := if failure.inner.isEmpty then ""
    else "\nCaused by:\n" ++ numbered 1 (failure.inner.map Layer.message)
  "Error [" ++ failure.outer.code.label ++ "]: " ++ failure.outer.message ++ "\n" ++
    line "  → While: " context.operation ++ line "  → Field: " context.field ++ causes ++
    line "\nData: " (failure.root.context.data.map excerpt) ++
    line "\nHelp: " failure.root.context.help

end Failure

/-- The outcome of a step that may be refused. -/
abbrev Checked (α : Type) := Except Failure α

namespace Checked

variable {α : Type}

def wrap (message : String) (checked : Checked α) : Checked α :=
  checked.mapError (·.wrap message)

def withField (field : String) (checked : Checked α) : Checked α :=
  checked.mapError (·.withField field)

def withOperation (operation : String) (checked : Checked α) : Checked α :=
  checked.mapError (·.withOperation operation)

end Checked

end FilterClause
