import FilterClause.Calendar
import FilterClause.Failure
import FilterClause.Scalar

/-!
The filters of a request by kind, and the words and names they are made of.
-/
namespace FilterClause

/-- The word that joins a condition to the ones before it. -/
inductive Connective
  | and
  | or
deriving DecidableEq, Repr

namespace Connective

def keyword : Connective → String
  | and => "AND"
  | or => "OR"

/-- Reads a connective in capitals, with or without white space at its ends. -/
def read (s : String) : Checked Connective :=
  if Text.trim s = "AND" then .ok and
  else if Text.trim s = "OR" then .ok or
  else .error (.invalidConnective s)

/-- Reads a connective that may be left out. -/
def readOptional (s : Option String) : Checked Connective :=
  match s with
  | none => .ok and
  | some s => read s

end Connective

/-- How the equality filters of a request compare: as numbers by `=`, as texts by `LIKE`. -/
inductive FilterType
  | numbers
  | texts
deriving DecidableEq, Repr

namespace FilterType

def name : FilterType → String
  | numbers => "numeros"
  | texts => "textos"

def read (s : String) : Checked FilterType :=
  if s = "numeros" then .ok numbers
  else if s = "textos" then .ok texts
  else .error (.invalidFilterType s)

end FilterType

/-- Whether a value is written as a literal or names another field. -/
inductive Bound
  | literal
  | field
deriving DecidableEq, Repr

def Bound.ofFlag (isField : Bool) : Bound :=
  if isField then field else literal

/-- Logical names of columns, each with the expression that stands for it. -/
abbrev Columns := Entries String

/-- Holds of keys that look like numbers, as the keys of a list do, and so name no column. A column may
well have the name of a special value. -/
def isNumericKey (key : String) : Bool :=
  let cs := Text.strip key.toList
  !cs.isEmpty && cs.any Char.isDigit && cs.all Decimal.isNumeralChar && Decimal.isFloat cs

structure Equality where
  value : Scalar
  /-- The field, when it is not the key of the filter. -/
  field : Option String := none
  comparison : Option String := none
  connective : Option String := none
deriving DecidableEq, Repr

/-- Both bounds belong to the range. Null counts as absent. -/
structure Range where
  lower : Scalar
  upper : Scalar
  bound : Bound := .literal
deriving DecidableEq, Repr

structure Membership where
  field : String
  values : List Scalar
deriving DecidableEq, Repr

/-- A date that lies between two expressions. -/
structure Period where
  start : String
  finish : String
  date : String
deriving DecidableEq, Repr

structure Special where
  operator : Option String := none
  value : Option Scalar := none
  bound : Bound := .literal
  connective : Option String := none
deriving DecidableEq, Repr

/-- A filter that has to give each of its attributes. -/
structure Extra where
  operator : Option String := none
  value : Option Scalar := none
  connective : Option String := none
deriving DecidableEq, Repr

/-- A filter under the field that it is about, in a list where a field may come more than once. -/
structure Group (α : Type) where
  field : String
  filter : α
deriving DecidableEq, Repr

/-- Reads a calendar date with or without white space at its ends. -/
def readDate (s : String) : Checked Date :=
  match Date.read? (Text.strip s.toList) with
  | some date => .ok date
  | none => .error (.invalidDate s)

end FilterClause
