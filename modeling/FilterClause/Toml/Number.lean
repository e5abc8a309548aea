import FilterClause.Decimal.Numeral
import FilterClause.Toml.Text
import FilterClause.Toml.Value

/-!
Numbers in TOML: whole ones in four bases, and binary64 ones. Single underscores may stand between
two digits.
-/
namespace FilterClause.Toml

/-- The sign before a number, and the characters after it. -/
inductive Sign
  | none
  | plus
  | minus
deriving DecidableEq

def sign : List Char → Cut Sign
  | '+' :: rest => (.plus, rest)
  | '-' :: rest => (.minus, rest)
  | cs => (.none, cs)

/-- Reads the digits that go on after one, without the underscores between them. -/
def moreDigits (isDigit : Char → Bool) : List Char → Option (Cut (List Char))
  | [] => some ([], [])
  | '_' :: c :: rest => if isDigit c then prepend [c] (moreDigits isDigit rest) else none
  | c :: rest =>
    if isDigit c then prepend [c] (moreDigits isDigit rest)
    else if c = '_' then none
    else some ([], c :: rest)

/-- Reads a run of one digit or more. -/
def digits? (isDigit : Char → Bool) : List Char → Option (Cut (List Char))
  | [] => none
  | c :: rest => if isDigit c then prepend [c] (moreDigits isDigit rest) else none

/-- A whole number, which has to be in range. -/
def integer? (negative : Bool) (n : Nat) (rest : List Char) : Option (Cut Toml) :=
  let i : Int := if negative then -n else n
  if -0x8000000000000000 ≤ i ∧ i ≤ 0x7FFFFFFFFFFFFFFF then some (.integer i, rest) else none

/-- Reads a whole number in another base than ten, its mark already read. -/
def based? (base : Nat) (cs : List Char) : Option (Cut Toml) := do
  let isDigit (c : Char) : Bool := (Json.hexValue c).any (· < base)
  let (digits, rest) ← digits? isDigit cs
  integer? false (digits.foldl (fun n c => base * n + (Json.hexValue c).getD 0) 0) rest

/-- The binary64 number nearest to a decimal. One that is too large counts as infinite below zero and
is refused above. -/
def float? (negative : Bool) (digits : List Char) (scale : Int) (rest : List Char) :
    Option (Cut Toml) :=
  match Decimal.ofDecimal negative (Decimal.valueOf digits) scale with
  | some x => some (.real (.finite x), rest)
  | none => if negative then some (.real (.infinite true), rest) else none

/-- Reads an exponent, its mark already read. -/
def exponent? (cs : List Char) : Option (Cut Int) := do
  let (sign, cs) := sign cs
  let (digits, rest) ← digits? Char.isDigit cs
  let n : Int := Decimal.valueOf digits
  return (if sign = .minus then -n else n, rest)

/-- Reads the exponent that a number may end with. -/
def scaled? (negative : Bool) (digits : List Char) (scale : Int) (cs : List Char) :
    Option (Cut Toml) :=
  let marked (cs : List Char) : Option (Cut Toml) := do
    let (e, rest) ← exponent? cs
    float? negative digits (scale + e) rest
  match cs with
  | 'e' :: rest => marked rest
  | 'E' :: rest => marked rest
  | rest => float? negative digits scale rest

/-- Reads what follows the whole part of a number. -/
def afterWhole? (negative : Bool) (whole : List Char) (cs : List Char) : Option (Cut Toml) :=
  match cs with
  | '.' :: rest => do
    let (fraction, rest) ← digits? Char.isDigit rest
    scaled? negative (whole ++ fraction) (-fraction.length) rest
  | 'e' :: _ => scaled? negative whole 0 cs
  | 'E' :: _ => scaled? negative whole 0 cs
  | cs => integer? negative (Decimal.valueOf whole) cs

/-- Reads a number of any kind. In base ten a zero is never followed by another digit. -/
def number? (cs : List Char) : Option (Cut Toml) :=
  match cs with
  | '0' :: 'x' :: rest => based? 16 rest
  | '0' :: 'o' :: rest => based? 8 rest
  | '0' :: 'b' :: rest => based? 2 rest
  | cs =>
    let (sign, cs) := sign cs
    let negative := sign = .minus
    match cs with
    | 'i' :: rest => (expect? ['n', 'f'] rest).map fun rest => (.real (.infinite negative), rest)
    | 'n' :: rest => (expect? ['a', 'n'] rest).map fun rest => (.real .undefined, rest)
    | '0' :: rest => afterWhole? negative ['0'] rest
    | cs => do
      let (whole, rest) ← digits? Char.isDigit cs
      afterWhole? negative whole rest

end FilterClause.Toml
