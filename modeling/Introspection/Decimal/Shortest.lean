import Introspection.Decimal.Binary64

/-!
# Shortest decimals

The decimal with the fewest digits that reads back as a given binary64 number, and among those the
one nearest to it.  The reals that read back as the number form an interval, from halfway to the
neighbour below to halfway to the neighbour above, whose ends belong to it exactly when the
significand is even.  `shortest` tries the grids of one digit, two digits and so on: on each grid it
tests the two points on either side of the number, in exact integer arithmetic.
-/

namespace Introspection

/-- The number `digits * 10 ^ exponent`. -/
structure Decimal where
  /-- The digits, read as a natural number. -/
  digits : Nat
  /-- The power of ten. -/
  exponent : Int
deriving DecidableEq

namespace Decimal

/-- Compares `a * 10 ^ i` with `n * 2 ^ j`. -/
def compareScaled (a : Nat) (i : Int) (n : Nat) (j : Int) : Ordering :=
  compare (a * Nat.pow 10 i.toNat * Nat.pow 2 (-j).toNat)
    (n * Nat.pow 2 j.toNat * Nat.pow 10 (-i).toNat)

/-- Whether a decimal lies among the reals that round to the number `x`, to nearest with ties to
even. -/
def readsBack (x : Binary64) (d : Decimal) : Bool :=
  let low := if x.narrowBelow then 4 * x.significand - 1 else 4 * x.significand - 2
  let high := 4 * x.significand + 2
  let closed := x.significand % 2 == 0
  let atLow := compareScaled d.digits d.exponent low (x.exponent - 2)
  let atHigh := compareScaled d.digits d.exponent high (x.exponent - 2)
  (atLow == .gt || (closed && atLow == .eq)) && (atHigh == .lt || (closed && atHigh == .eq))

/-- How many decimal digits a natural number has. -/
def digitCount (n : Nat) : Nat :=
  (Nat.toDigits 10 n).length

/-- The least `k` with `num / den < 10 ^ k`, for a positive fraction. -/
def scale (num den : Nat) : Int :=
  if den ≤ num then digitCount (num / den) else 1 - (digitCount ((den - 1) / num) : Int)

/-- The decimal that a grid with `n` digits offers for the fraction `num / den`: of the two points
on either side those that read back as `x`, the nearer of two, and the upper one on a tie. -/
def onGrid? (x : Binary64) (num den : Nat) (k : Int) (n : Nat) : Option Decimal :=
  let grid := k - n
  let scaledNum := num * Nat.pow 10 (-grid).toNat
  let scaledDen := den * Nat.pow 10 grid.toNat
  let floor := scaledNum / scaledDen
  let below : Decimal := ⟨floor, grid⟩
  let above : Decimal := ⟨floor + 1, grid⟩
  match readsBack x below, readsBack x above with
  | true, true => if 2 * (scaledNum % scaledDen) < scaledDen then some below else some above
  | true, false => some below
  | false, true => some above
  | false, false => none

/-- Moves trailing zeros from the digits to the exponent, `fuel` of them at most. -/
def stripZeros : Nat → Decimal → Decimal
  | 0, d => d
  | fuel + 1, d =>
    if d.digits != 0 && d.digits % 10 == 0 then stripZeros fuel ⟨d.digits / 10, d.exponent + 1⟩
    else d

/-- The shortest decimal for the absolute value of a finite number other than zero.  Seventeen
digits always suffice; the exact value stands behind them. -/
def shortest (x : Binary64) : Decimal :=
  let num := x.significand * Nat.pow 2 x.exponent.toNat
  let den := Nat.pow 2 (-x.exponent).toNat
  let k := scale num den
  let exact : Decimal := ⟨num * Nat.pow 5 (-x.exponent).toNat, min x.exponent 0⟩
  let chosen := ((List.range 17).findSome? fun n => onGrid? x num den k (n + 1)).getD exact
  stripZeros (digitCount chosen.digits) chosen

end Decimal

end Introspection
