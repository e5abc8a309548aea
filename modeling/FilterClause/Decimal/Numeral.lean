/-!
Decimal numerals: an optional sign, digits with at most one point among them, and an optional
exponent. A text of this form looks like a number and is no name of a column. Where a number in
floating point is expected, the names of its special values are read too.
-/
namespace FilterClause.Decimal

/-- The number that a run of digits stands for. -/
def valueOf (digits : List Char) : Nat :=
  digits.foldl (fun n c => 10 * n + (c.toNat - '0'.toNat)) 0

def dropSign : List Char → List Char
  | '+' :: cs => cs
  | '-' :: cs => cs
  | cs => cs

/-- Holds of a run of one digit or more. -/
def isDigits (cs : List Char) : Bool :=
  !cs.isEmpty && cs.all Char.isDigit

/-- Holds of nothing at all, and of a mark followed by a signed or unsigned run of digits. -/
def isExponent : List Char → Bool
  | [] => true
  | c :: cs => (c == 'e' || c == 'E') && isDigits (dropSign cs)

/-- Holds of the decimal numerals. Digits may be missing on one side of the point only. -/
def isNumeral (cs : List Char) : Bool :=
  let unsigned := dropSign cs
  let whole := unsigned.takeWhile Char.isDigit
  match unsigned.dropWhile Char.isDigit with
  | '.' :: rest =>
    let fraction := rest.takeWhile Char.isDigit
    (!whole.isEmpty || !fraction.isEmpty) && isExponent (rest.dropWhile Char.isDigit)
  | rest => !whole.isEmpty && isExponent rest

/-- Holds of the characters that numerals are made of. -/
def isNumeralChar (c : Char) : Bool :=
  c.isDigit || ['+', '-', '.', 'e', 'E'].contains c

/-- The names of the values in floating point that have no numeral. -/
def specialNames : List String :=
  ["inf", "infinity", "nan"]

/-- Holds of the texts that are read as a number in floating point: the numerals, whatever their size,
and the special names in letters of either case, with or without a sign. -/
def isFloat (cs : List Char) : Bool :=
  isNumeral cs || specialNames.contains (String.ofList ((dropSign cs).map Char.toLower))

end FilterClause.Decimal
