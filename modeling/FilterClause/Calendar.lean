import FilterClause.Decimal.Numeral
import FilterClause.Text.Blank

/-!
Days of the Gregorian calendar, extended to all years that are kept, and the texts that denote one.
-/
namespace FilterClause

structure Date where
  year : Int
  month : Nat
  day : Nat
deriving DecidableEq, Repr

namespace Date

def isLeap (year : Int) : Bool :=
  year % 4 == 0 && (year % 100 != 0 || year % 400 == 0)

def daysIn (year : Int) (month : Nat) : Nat :=
  match month with
  | 2 => if isLeap year then 29 else 28
  | 4 | 6 | 9 | 11 => 30
  | _ => 31

/-- The years that are kept. -/
def firstYear : Int := -262143

def lastYear : Int := 262142

/-- Holds when the three numbers name a day that exists. -/
def Exists (d : Date) : Prop :=
  firstYear ≤ d.year ∧ d.year ≤ lastYear ∧ 1 ≤ d.month ∧ d.month ≤ 12 ∧
    1 ≤ d.day ∧ d.day ≤ daysIn d.year d.month

instance (d : Date) : Decidable d.Exists := by
  unfold Exists
  infer_instance

/-- Reads a run of digits, at most `width` of them when a width is given. -/
def readNumber (width : Option Nat) (cs : List Char) : Option (Nat × List Char) :=
  let run := cs.takeWhile Char.isDigit
  let digits := match width with
    | some w => run.take w
    | none => run
  if digits.isEmpty then none
  else some (Decimal.valueOf digits, cs.drop digits.length)

/-- Reads a year. Four digits are the most without a sign; after one there may be any number. -/
def readYear (cs : List Char) : Option (Int × List Char) :=
  match Text.stripStart cs with
  | '-' :: rest => (readNumber none rest).map fun (n, rest) => (-(n : Int), rest)
  | '+' :: rest => (readNumber none rest).map fun (n, rest) => ((n : Int), rest)
  | rest => (readNumber (some 4) rest).map fun (n, rest) => ((n : Int), rest)

def readHyphen : List Char → Option (List Char)
  | '-' :: rest => some rest
  | _ => none

/-- Reads year, month and day with a hyphen between them. White space may stand before each number
and leading zeros may be left out. -/
def read? (cs : List Char) : Option Date := do
  let (year, rest) ← readYear cs
  let rest ← readHyphen rest
  let (month, rest) ← readNumber (some 2) (Text.stripStart rest)
  let rest ← readHyphen rest
  let (day, rest) ← readNumber (some 2) (Text.stripStart rest)
  let date : Date := ⟨year, month, day⟩
  if rest.isEmpty && decide date.Exists then some date else none

/-- The digits of `n`, with zeros before them up to the given width. -/
def padded (width n : Nat) : String :=
  let digits := Nat.toDigits 10 n
  String.ofList (List.replicate (width - digits.length) '0' ++ digits)

/-- The written form of a day, with a sign before a year outside 0 to 9999. -/
def text (d : Date) : String :=
  let sign := if d.year < 0 then "-" else if 9999 < d.year then "+" else ""
  sign ++ padded 4 d.year.natAbs ++ "-" ++ padded 2 d.month ++ "-" ++ padded 2 d.day

end Date

end FilterClause
