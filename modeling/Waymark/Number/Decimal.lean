import Waymark.Number.Binary

/-!
# Decimals and the numbers they round to

A decimal is `digits * 10 ^ exponent`. `Decimal.rank` reads it as a number of a
binary format, and `Decimal.shortest` is the inverse: on the coarsest decimal grid
that has a point reading back as the given number, the point nearest to it.
-/

namespace Waymark

structure Decimal where
  digits : Nat
  exponent : Int
  deriving DecidableEq, Repr

inductive TieRule where
  | upward
  | toEven
  deriving DecidableEq, Repr

/-- The count of decimal digits, one for zero. -/
def decimalLength (n : Nat) : Nat :=
  if n < 10 then 1 else decimalLength (n / 10) + 1

namespace Decimal

def num (decimal : Decimal) : Nat := decimal.digits * Nat.pow 10 decimal.exponent.toNat

def den (decimal : Decimal) : Nat := Nat.pow 10 (-decimal.exponent).toNat

/-- The rank of the number that a decimal rounds to. The power of ten is built
only where it can matter: a decimal of more than `2 ^ (exponentBits - 1)` digits
before its point is past every finite number, and one that has its first digit
more than `scale` places behind the point is below half the smallest unit. -/
def rank (format : FloatFormat) (decimal : Decimal) : Nat :=
  let first := decimalLength decimal.digits + decimal.exponent
  if decimal.digits = 0 ∨ first < -(format.scale : Int) then
    0
  else if Nat.pow 2 (format.exponentBits - 1) < first then
    format.infinity
  else
    format.nearest decimal.num decimal.den

theorem rank_le_infinity (format : FloatFormat) (decimal : Decimal) :
    decimal.rank format ≤ format.infinity := by
  simp only [rank]
  split
  · exact Nat.zero_le _
  · split
    · exact Nat.le_refl _
    · exact format.nearest_le_infinity _ _

def toBinary (format : FloatFormat) (negative : Bool) (decimal : Decimal) : Binary format :=
  .ofRank negative (decimal.rank format) (decimal.rank_le_infinity format)

def readsAs (format : FloatFormat) (rank : Nat) (decimal : Decimal) : Bool :=
  format.reaches decimal.num decimal.den rank &&
    !format.reaches decimal.num decimal.den (rank + 1)

/-- The point of the grid of multiples of `10 ^ exponent` that reads as the given
number and is nearest to it. Only the two neighbours of the number can be it. -/
def onGrid? (format : FloatFormat) (tie : TieRule) (rank : Nat) (exponent : Int) :
    Option Decimal :=
  let num := format.units rank * Nat.pow 10 (-exponent).toNat
  let den := Nat.pow 2 format.scale * Nat.pow 10 exponent.toNat
  let lower : Decimal := ⟨num / den, exponent⟩
  let upper : Decimal := ⟨num / den + 1, exponent⟩
  match lower.readsAs format rank, upper.readsAs format rank with
  | false, false => none
  | true, false => some lower
  | false, true => some upper
  | true, true =>
    match compare (2 * (num % den)) den, tie with
    | .lt, _ => some lower
    | .gt, _ => some upper
    | .eq, .upward => some upper
    | .eq, .toEven => some (if lower.digits % 2 = 0 then lower else upper)

/-- The first hit on the grids from `10 ^ (fuel - scale)` down to
`10 ^ (1 - scale)`; the number itself, written out on the grid below, if none hits. -/
def search (format : FloatFormat) (tie : TieRule) (rank : Nat) : Nat → Decimal
  | 0 => ⟨format.units rank * Nat.pow 5 format.scale, -(format.scale : Int)⟩
  | fuel + 1 =>
    match onGrid? format tie rank ((fuel + 1 : Nat) - (format.scale : Int)) with
    | some decimal => decimal
    | none => search format tie rank fuel

/-- The decimal of fewest digits that reads as the finite number of this rank,
nearest to it among those. -/
def shortest (format : FloatFormat) (tie : TieRule) (rank : Nat) : Decimal :=
  search format tie rank
    (decimalLength (format.units (rank + 1) / Nat.pow 2 format.scale) + format.scale)

end Decimal

end Waymark
