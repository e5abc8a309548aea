import FilterClause.Decimal.Binary64
import FilterClause.Decimal.Numeral

/-!
Numerals held in 64 bits. A numeral keeps its leading digits, as many as stay below `2 ^ 64`, and the
power of ten that they are scaled by. Its binary64 number is found in steps that are rounded one by
one, so it may lie next to the nearest one.
-/
namespace FilterClause.Decimal

namespace Binary64

/-- The product, rounded. There is none when it is too large. -/
def mul? (x y : Binary64) : Option Binary64 :=
  let e := x.exponent + y.exponent
  ofRatio (x.negative != y.negative) (x.significand * y.significand * Nat.pow 2 e.toNat)
    (Nat.pow 2 (-e).toNat)

/-- The quotient by a number other than zero, rounded. There is none when it is too large. -/
def div? (x y : Binary64) : Option Binary64 :=
  let e := x.exponent - y.exponent
  ofRatio (x.negative != y.negative) (x.significand * Nat.pow 2 e.toNat)
    (y.significand * Nat.pow 2 (-e).toNat)

end Binary64

/-- The greatest power of ten that binary64 numbers are multiplied or divided by. -/
def greatestPower : Nat := 308

/-- The binary64 number nearest to `10 ^ n`. -/
def powerOfTen? (n : Nat) : Option Binary64 :=
  ofRatio false (Nat.pow 10 n) 1

/-- Divides by `10 ^ rest` after as many divisions by the greatest power as `steps` says. -/
def scaleDown (rest : Nat) : Nat → Binary64 → Option Binary64
  | 0, x => do x.div? (← powerOfTen? rest)
  | steps + 1, x =>
    if x.isZero then some x
    else do scaleDown rest steps (← x.div? (← powerOfTen? greatestPower))

/-- Scales by a power of ten. Upward this takes one step, downward as many as are needed. -/
def scale (x : Binary64) (n : Int) : Option Binary64 :=
  if x.isZero then some x
  else if 0 ≤ n then
    if n ≤ greatestPower then do x.mul? (← powerOfTen? n.toNat) else none
  else
    let steps := ((-n).toNat - 1) / greatestPower
    scaleDown ((-n).toNat - greatestPower * steps) steps x

/-- The leading digits of a numeral, and the power of ten that they are scaled by. -/
structure Leading where
  digits : Nat
  scale : Int
deriving DecidableEq, Repr, Inhabited

namespace Leading

/-- Puts as many of the given digits after `n` as fit below `2 ^ 64`, and counts those left over. -/
def keep (n : Nat) : List Char → Nat × Nat
  | [] => (n, 0)
  | c :: cs =>
    let longer := 10 * n + (c.toNat - '0'.toNat)
    if longer < Nat.pow 2 64 then keep longer cs else (n, (c :: cs).length)

/-- The numeral with the given digits before and after its point. Digits of the fraction are kept even
when some before the point are not. -/
def ofDigits (whole fraction : List Char) : Leading :=
  let (n, beyond) := keep 0 whole
  let (n, unread) := keep n fraction
  ⟨n, (beyond : Int) + unread - fraction.length⟩

/-- The same digits, scaled by another power of ten. -/
def shift (l : Leading) (n : Int) : Leading :=
  { l with scale := l.scale + n }

/-- The digits as the nearest binary64 number, then scaled. There is none when it is too large. -/
def toBinary64? (negative : Bool) (l : Leading) : Option Binary64 := do
  Decimal.scale (← ofRatio negative l.digits 1) l.scale

end Leading

end FilterClause.Decimal
