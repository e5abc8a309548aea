import FilterClause.Decimal.Binary64

/-!
The decimal with the fewest digits that reads back as a given binary64 number. Of two such decimals
the nearer one is taken, and a tie goes the way the caller asks for.
-/
namespace FilterClause.Decimal

/-- Which of two equally near decimals is taken. -/
inductive Tie
  | up
  | toEven
deriving DecidableEq, Repr

/-- The decimal `digits * 10 ^ scale`. -/
structure Digits where
  digits : Nat
  scale : Int
deriving DecidableEq, Repr

/-- Compares `c * 10 ^ k` with `t * 2 ^ q`. -/
def compareScaled (c : Nat) (k : Int) (t : Nat) (q : Int) : Ordering :=
  compare (c * Nat.pow 10 k.toNat * Nat.pow 2 (-q).toNat)
    (t * Nat.pow 2 q.toNat * Nat.pow 10 (-k).toNat)

/-- The decimals that read back as `x` lie between two bounds, both counted in quarters of the last
binary place. The lower one is nearer where the numbers below lie closer together. -/
def lowerBound (x : Binary64) : Nat :=
  4 * x.significand -
    (if x.significand = Nat.pow 2 52 ∧ Binary64.leastExponent < x.exponent then 1 else 2)

def upperBound (x : Binary64) : Nat :=
  4 * x.significand + 2

/-- Holds when `c * 10 ^ k` reads back as `x`. The bounds themselves do so exactly when the
significand is even. -/
def readsBack (x : Binary64) (c : Nat) (k : Int) : Bool :=
  let q := x.exponent - 2
  match compareScaled c k (lowerBound x) q, compareScaled c k (upperBound x) q with
  | .gt, .lt => true
  | .eq, _ | _, .eq => x.significand % 2 == 0
  | _, _ => false

/-- The least `p` with `x` below `10 ^ p`, for `x` not zero. -/
def decimalOrder (x : Binary64) : Int :=
  let num := x.significand * Nat.pow 2 x.exponent.toNat
  let den := Nat.pow 2 (-x.exponent).toNat
  if den ≤ num then (digitCount (num / den) : Int)
  else 1 - (digitCount ((den + num - 1) / num - 1) : Int)

/-- Of the two neighbours of `x` on the grid of step `10 ^ k`, the one to write, if one reads back. -/
def onGrid (tie : Tie) (x : Binary64) (k : Int) : Option Digits :=
  let num := x.significand * Nat.pow 2 x.exponent.toNat * Nat.pow 10 (-k).toNat
  let den := Nat.pow 2 (-x.exponent).toNat * Nat.pow 10 k.toNat
  let below := num / den
  match readsBack x below k, readsBack x (below + 1) k with
  | true, false => some ⟨below, k⟩
  | false, true => some ⟨below + 1, k⟩
  | false, false => none
  | true, true =>
    match compareScaled (2 * below + 1) k (2 * x.significand) x.exponent with
    | .gt => some ⟨below, k⟩
    | .lt => some ⟨below + 1, k⟩
    | .eq =>
      match tie with
      | .up => some ⟨below + 1, k⟩
      | .toEven => some ⟨if below % 2 = 0 then below else below + 1, k⟩

/-- Moves the zeros at the end of the digits into the scale. -/
def dropZeros (fuel : Nat) (d : Digits) : Digits :=
  match fuel with
  | 0 => d
  | fuel + 1 => if d.digits % 10 = 0 then dropZeros fuel ⟨d.digits / 10, d.scale + 1⟩ else d

/-- The shortest decimal that reads back as `x`, for `x` not zero. Seventeen digits always do. -/
def shortest (tie : Tie) (x : Binary64) : Digits :=
  let order := decimalOrder x
  let found := (List.range 17).findSome? fun (n : Nat) => onGrid tie x (order - 1 - n)
  dropZeros 17 (found.getD ⟨0, 0⟩)

end FilterClause.Decimal
