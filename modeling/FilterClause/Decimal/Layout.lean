import FilterClause.Decimal.Shortest

/-!
How the digits of a number are set out: positionally or with an exponent, with or without a point
that nothing follows. A format is one value of `Layout`.
-/
namespace FilterClause.Decimal

structure Layout where
  /-- Whether a number whose first digit stands at this power of ten is written positionally. -/
  positional : Int → Bool
  /-- Whether a whole number keeps a point and one zero. -/
  keepsPoint : Bool
  /-- What stands before an exponent that is not negative. -/
  plus : String
  tie : Tie

/-- Every number is written positionally, and a whole one without a point. -/
def Layout.plain : Layout :=
  { positional := fun _ => true, keepsPoint := false, plus := "", tie := .up }

def zeros (n : Nat) : String :=
  String.ofList (List.replicate n '0')

def writePositional (keepsPoint : Bool) (digits : List Char) (scale : Int) : String :=
  let order := scale + digits.length
  if 0 ≤ scale then
    String.ofList digits ++ zeros scale.toNat ++ (if keepsPoint then ".0" else "")
  else if 0 < order then
    String.ofList (digits.take order.toNat) ++ "." ++ String.ofList (digits.drop order.toNat)
  else
    "0." ++ zeros (-order).toNat ++ String.ofList digits

def writeScientific (plus : String) (digits : List Char) (scale : Int) : String :=
  let exponent := scale + digits.length - 1
  String.ofList (digits.take 1) ++
    (if digits.length ≤ 1 then "" else "." ++ String.ofList (digits.drop 1)) ++
    "e" ++ (if 0 ≤ exponent then plus else "") ++ toString exponent

/-- The text of a number in a layout. -/
def write (layout : Layout) (x : Binary64) : String :=
  let sign := if x.negative then "-" else ""
  if x.isZero then sign ++ (if layout.keepsPoint then "0.0" else "0")
  else
    let d := shortest layout.tie x
    let digits := Nat.toDigits 10 d.digits
    if layout.positional (d.scale + digits.length - 1) then
      sign ++ writePositional layout.keepsPoint digits d.scale
    else
      sign ++ writeScientific layout.plus digits d.scale

end FilterClause.Decimal
