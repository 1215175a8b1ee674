/-!
# Binary floating-point numbers

A format with `fractionBits` and `exponentBits` lists its nonnegative numbers in
increasing order: zero has rank 0, the least positive number rank 1, and so on up
to infinity. A number is a sign and a rank, or the one value that is not a number.
Every finite number is a whole count of the format's smallest unit, so rounding and
comparison are arithmetic on natural numbers.
-/

namespace Waymark

/-- The widths of a binary interchange format; one more bit holds the sign. -/
structure FloatFormat where
  fractionBits : Nat
  exponentBits : Nat
  deriving DecidableEq, Repr

namespace FloatFormat

def single : FloatFormat := ⟨23, 8⟩

def double : FloatFormat := ⟨52, 11⟩

/-- The rank of infinity, one above the largest finite number. -/
def infinity (format : FloatFormat) : Nat :=
  (Nat.pow 2 format.exponentBits - 1) * Nat.pow 2 format.fractionBits

/-- Finite numbers are whole multiples of `2 ^ (-scale)`. -/
def scale (format : FloatFormat) : Nat :=
  Nat.pow 2 (format.exponentBits - 1) - 2 + format.fractionBits

/-- The number of a rank, as a count of the smallest unit. Numbers of exponent
field zero have no hidden leading bit. The formula goes on at infinity, where it
gives the number that the next exponent would start with. -/
def units (format : FloatFormat) (rank : Nat) : Nat :=
  let binade := Nat.pow 2 format.fractionBits
  let fraction := rank % binade
  match rank / binade with
  | 0 => fraction
  | exponent + 1 => (binade + fraction) * Nat.pow 2 exponent

/-- Whether `num / den` rounds to the given rank or a higher one: it lies above
the middle between that number and the one before, or on it if the rank is even. -/
def reaches (format : FloatFormat) (num den : Nat) : Nat → Bool
  | 0 => true
  | below + 1 =>
    let middle := (format.units below + format.units (below + 1)) * den
    let twice := num * Nat.pow 2 (format.scale + 1)
    if (below + 1) % 2 = 0 then middle ≤ twice else middle < twice

/-- Raises a rank by the powers of two below `2 ^ bits` that keep it reached. -/
def climb (format : FloatFormat) (num den : Nat) : Nat → Nat → Nat
  | 0, rank => rank
  | bits + 1, rank =>
    let next := rank + Nat.pow 2 bits
    if next ≤ format.infinity ∧ format.reaches num den next then
      climb format num den bits next
    else
      climb format num den bits rank

/-- The rank of the number nearest to `num / den`, of two equally near ones the
even rank: the highest rank that `num / den` reaches. -/
def nearest (format : FloatFormat) (num den : Nat) : Nat :=
  format.climb num den (format.fractionBits + format.exponentBits) 0

theorem climb_le_infinity
    (format : FloatFormat) (num den bits rank : Nat)
    (bounded : rank ≤ format.infinity) :
    format.climb num den bits rank ≤ format.infinity := by
  induction bits generalizing rank with
  | zero => exact bounded
  | succ bits inductionHypothesis =>
    simp only [climb]
    split
    · next taken => exact inductionHypothesis _ taken.1
    · exact inductionHypothesis _ bounded

theorem nearest_le_infinity (format : FloatFormat) (num den : Nat) :
    format.nearest num den ≤ format.infinity :=
  climb_le_infinity format num den _ 0 (Nat.zero_le _)

end FloatFormat

inductive Binary (format : FloatFormat) where
  | nan
  | ofRank (negative : Bool) (rank : Nat) (bounded : rank ≤ format.infinity)
  deriving DecidableEq

namespace Binary

variable {format : FloatFormat}

def zero : Binary format := .ofRank false 0 (Nat.zero_le _)

instance : Inhabited (Binary format) := ⟨zero⟩

/-- The number nearest to `num / den` with the given sign, ties to even. -/
def round (format : FloatFormat) (negative : Bool) (num den : Nat) : Binary format :=
  .ofRank negative (format.nearest num den) (format.nearest_le_infinity num den)

def infinite (negative : Bool) : Binary format :=
  .ofRank negative format.infinity (Nat.le_refl _)

/-- A number from its stored bits: the sign bit in front of the rank. -/
def ofBits (format : FloatFormat) (bits : Nat) : Binary format :=
  let width := format.fractionBits + format.exponentBits
  let rank := bits % Nat.pow 2 width
  if bounded : rank ≤ format.infinity then
    .ofRank (bits.testBit width) rank bounded
  else
    .nan

def toBits? : Binary format → Option Nat
  | .nan => none
  | .ofRank negative rank _ =>
    let signBit := Nat.pow 2 (format.fractionBits + format.exponentBits)
    some (if negative then rank + signBit else rank)

def isFinite : Binary format → Bool
  | .nan => false
  | .ofRank _ rank _ => rank < format.infinity

/-- Numeric equality: nothing equals what is not a number, and the zeros of both
signs are equal. -/
def same : Binary format → Binary format → Bool
  | .ofRank negative rank _, .ofRank negative' rank' _ =>
    rank = rank' ∧ (rank = 0 ∨ negative = negative')
  | _, _ => false

def convert (target : FloatFormat) : Binary format → Binary target
  | .nan => .nan
  | .ofRank negative rank _ =>
    if rank = format.infinity then
      infinite negative
    else
      round target negative (format.units rank) (Nat.pow 2 format.scale)

/-- The rounded product. Zero times infinity is not a number. -/
def mul : Binary format → Binary format → Binary format
  | .ofRank negative rank _, .ofRank negative' rank' _ =>
    let sign := negative != negative'
    if rank = format.infinity ∨ rank' = format.infinity then
      if rank = 0 ∨ rank' = 0 then .nan else infinite sign
    else
      round format sign (format.units rank * format.units rank') (Nat.pow 2 (2 * format.scale))
  | _, _ => .nan

end Binary

end Waymark
