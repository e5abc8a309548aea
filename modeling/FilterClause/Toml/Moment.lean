import FilterClause.Calendar
import FilterClause.Toml.Text

/-!
Dates and times in TOML, read to the one text that all spellings of a moment have in common.
-/
namespace FilterClause.Toml

/-- Reads a number of exactly as many digits as given, within two bounds. -/
def fixed? (width least greatest : Nat) (cs : List Char) : Option (Cut Nat) :=
  let digits := cs.take width
  let n := Decimal.valueOf digits
  if digits.length = width ∧ digits.all Char.isDigit ∧ least ≤ n ∧ n ≤ greatest then
    some (n, cs.drop width)
  else none

/-- Reads a day that exists. -/
def day? (cs : List Char) : Option (Cut String) := do
  let (year, rest) ← fixed? 4 0 9999 cs
  let (month, rest) ← fixed? 2 1 12 (← expect? ['-'] rest)
  let (day, rest) ← fixed? 2 1 (Date.daysIn year month) (← expect? ['-'] rest)
  return (Date.text ⟨year, month, day⟩, rest)

/-- The digits of a fraction of a second, nine of them at most and no zeros at the end. -/
def fraction (digits : List Char) : String :=
  let kept := ((digits.take 9).reverse.dropWhile (· == '0')).reverse
  if kept.isEmpty then "" else "." ++ String.ofList kept

/-- Reads the fraction that a second may have. -/
def fraction? (cs : List Char) : Cut String :=
  match cs with
  | '.' :: rest =>
    let digits := rest.takeWhile Char.isDigit
    if digits.isEmpty then ("", cs) else (fraction digits, rest.dropWhile Char.isDigit)
  | cs => ("", cs)

/-- Reads a time of the day. A minute may have a leap second. -/
def time? (cs : List Char) : Option (Cut String) := do
  let (hour, rest) ← fixed? 2 0 23 cs
  let (minute, rest) ← fixed? 2 0 59 (← expect? [':'] rest)
  let (second, rest) ← fixed? 2 0 60 (← expect? [':'] rest)
  let (fraction, rest) := fraction? rest
  return (Date.padded 2 hour ++ ":" ++ Date.padded 2 minute ++ ":" ++ Date.padded 2 second ++ fraction,
    rest)

/-- Reads how far a time is from the common one, its sign already read. There is no distance below
zero that is none. -/
def distance? (sign : String) (cs : List Char) : Option (Cut String) := do
  let (hours, rest) ← fixed? 2 0 23 cs
  let (minutes, rest) ← fixed? 2 0 59 (← expect? [':'] rest)
  let sign := if hours = 0 ∧ minutes = 0 then "+" else sign
  return (sign ++ Date.padded 2 hours ++ ":" ++ Date.padded 2 minutes, rest)

/-- Reads the offset that a time of a day may have. -/
def offset? (cs : List Char) : Option (Cut String) :=
  match cs with
  | 'Z' :: rest => some ("Z", rest)
  | 'z' :: rest => some ("Z", rest)
  | '+' :: rest => distance? "+" rest
  | '-' :: rest => distance? "-" rest
  | cs => some ("", cs)

/-- Reads the time and the offset after a day, if a time follows the character between them. -/
def afterDay? (day : String) (cs : List Char) : Option (Cut String) :=
  match cs with
  | c :: rest =>
    if c = 'T' ∨ c = 't' ∨ c = ' ' then
      match time? rest with
      | some (time, rest) => do
        let (offset, rest) ← offset? rest
        return (day ++ "T" ++ time ++ offset, rest)
      | none => some (day, cs)
    else some (day, cs)
  | [] => some (day, [])

/-- Reads a day, a time, or both. -/
def moment? (cs : List Char) : Option (Cut String) :=
  match day? cs with
  | some (day, rest) => afterDay? day rest
  | none => time? cs

end FilterClause.Toml
