/-!
Finite binary64 numbers held exactly, and the one nearest to a decimal. All arithmetic is on natural
numbers, so nothing is rounded but the result.
-/
namespace FilterClause.Decimal

/-- The number `significand * 2 ^ exponent` with a sign. The significand is below `2 ^ 53` and, unless
the exponent is the least one, not below `2 ^ 52`. -/
structure Binary64 where
  negative : Bool
  significand : Nat
  exponent : Int
deriving DecidableEq, Repr, Inhabited

namespace Binary64

def leastExponent : Int := -1074

def greatestExponent : Int := 971

def zero (negative : Bool) : Binary64 :=
  ⟨negative, 0, leastExponent⟩

def isZero (x : Binary64) : Bool :=
  x.significand == 0

end Binary64

/-- The number of decimal digits of `n`, with no digit for zero. -/
def digitCount (n : Nat) : Nat :=
  if n = 0 then 0 else (Nat.toDigits 10 n).length

/-- The integer nearest to `num / den`; of two equally near, the even one. -/
def nearest (num den : Nat) : Nat :=
  let q := num / den
  let r := num % den
  if 2 * r < den then q
  else if den < 2 * r then q + 1
  else if q % 2 = 0 then q else q + 1

/-- The exponent of the greatest power of two that is not above `num / den`. -/
def binaryOrder (num den : Nat) : Int :=
  let guess := (num.log2 : Int) - den.log2
  if num * Nat.pow 2 (-guess).toNat < den * Nat.pow 2 guess.toNat then guess - 1 else guess

/-- The binary64 number nearest to `num / den`, a tie going to the even significand. There is none
when the quotient is too large. -/
def ofRatio (negative : Bool) (num den : Nat) : Option Binary64 :=
  if num = 0 then some (Binary64.zero negative)
  else
    let e := max (binaryOrder num den - 52) Binary64.leastExponent
    let m := nearest (num * Nat.pow 2 (-e).toNat) (den * Nat.pow 2 e.toNat)
    let (m, e) := if m = Nat.pow 2 53 then (Nat.pow 2 52, e + 1) else (m, e)
    if Binary64.greatestExponent < e then none else some ⟨negative, m, e⟩

/-- The binary64 number nearest to `digits * 10 ^ scale`. Decimals far outside the range are settled
by their size alone. -/
def ofDecimal (negative : Bool) (digits : Nat) (scale : Int) : Option Binary64 :=
  let size := (digitCount digits : Int) + scale
  if digits = 0 || size < -330 then some (Binary64.zero negative)
  else if 310 < size then none
  else ofRatio negative (digits * Nat.pow 10 scale.toNat) (Nat.pow 10 (-scale).toNat)

def ofInt (i : Int) : Option Binary64 :=
  ofDecimal (decide (i < 0)) i.natAbs 0

end FilterClause.Decimal
