import Mathlib.Data.Nat.Basic
import Mathlib.Order.Monotone.Basic
import Mathlib.Tactic.Ring
import Waymark.Number.Binary

/-!
# Rounding finds the highest rank that is reached

The numbers of a format grow with their ranks, so a fraction that reaches a rank reaches
all lower ones, and the climb over the bits of a rank ends at the highest rank reached.
Which rank that is depends on the value of the fraction alone.
-/

namespace Waymark.FloatFormat

variable {format : FloatFormat}

/-! ## The numbers of a format in order -/

theorem units_of_lt {fraction : Nat} (small : fraction < 2 ^ format.fractionBits) :
    format.units fraction = fraction := by
  simp only [units, Nat.pow_eq, Nat.div_eq_of_lt small, Nat.mod_eq_of_lt small]

theorem units_add_mul {fraction : Nat} (small : fraction < 2 ^ format.fractionBits)
    (exponent : Nat) :
    format.units (fraction + 2 ^ format.fractionBits * (exponent + 1)) =
      (2 ^ format.fractionBits + fraction) * 2 ^ exponent := by
  have split := (Nat.div_mod_unique (d := exponent + 1)
    (Nat.two_pow_pos format.fractionBits)).2 ⟨rfl, small⟩
  simp only [units, Nat.pow_eq, split]

theorem units_lt_units_succ (format : FloatFormat) (rank : Nat) :
    format.units rank < format.units (rank + 1) := by
  have positive := Nat.two_pow_pos format.fractionBits
  have small : rank % 2 ^ format.fractionBits < 2 ^ format.fractionBits :=
    Nat.mod_lt rank positive
  rw [← Nat.mod_add_div rank (2 ^ format.fractionBits)]
  generalize rank % 2 ^ format.fractionBits = fraction at small ⊢
  generalize rank / 2 ^ format.fractionBits = exponent
  -- The next rank is in the same binade, or it is the first of the next one.
  by_cases inside : fraction + 1 < 2 ^ format.fractionBits
  case pos =>
    rw [Nat.add_right_comm]
    cases exponent with
    | zero =>
      rw [Nat.mul_zero, Nat.add_zero, Nat.add_zero, units_of_lt small, units_of_lt inside]
      exact Nat.lt_succ_self fraction
    | succ exponent =>
      rw [units_add_mul small, units_add_mul inside]
      exact Nat.mul_lt_mul_of_pos_right (Nat.lt_succ_self _) (Nat.two_pow_pos exponent)
  case neg =>
    have last : fraction + 1 = 2 ^ format.fractionBits := by omega
    have next : fraction + 2 ^ format.fractionBits * exponent + 1 =
        0 + 2 ^ format.fractionBits * (exponent + 1) := by
      rw [Nat.mul_succ]
      omega
    rw [next, units_add_mul positive]
    cases exponent with
    | zero =>
      rw [Nat.mul_zero, Nat.add_zero, units_of_lt small]
      simpa using small
    | succ exponent =>
      rw [units_add_mul small, Nat.pow_succ, Nat.add_zero, Nat.mul_comm (2 ^ exponent) 2,
        ← Nat.mul_assoc]
      exact Nat.mul_lt_mul_of_pos_right (by omega) (Nat.two_pow_pos exponent)

theorem units_strictMono (format : FloatFormat) : StrictMono format.units :=
  strictMono_nat_of_lt_succ format.units_lt_units_succ

/-- The first power of two past the finite numbers, as a count of the smallest unit. -/
theorem units_infinity (ample : 2 ≤ format.exponentBits) :
    format.units format.infinity =
      2 ^ 2 ^ (format.exponentBits - 1) * 2 ^ format.scale := by
  have atLeast : 2 ^ 2 ≤ 2 ^ format.exponentBits := Nat.pow_le_pow_right (by decide) ample
  have atLeast' : 2 ^ 1 ≤ 2 ^ (format.exponentBits - 1) :=
    Nat.pow_le_pow_right (by decide) (by omega)
  have double : 2 ^ format.exponentBits = 2 * 2 ^ (format.exponentBits - 1) := by
    rw [← Nat.pow_succ', Nat.succ_eq_add_one, Nat.sub_add_cancel (by omega)]
  have rank : format.infinity =
      0 + 2 ^ format.fractionBits * (2 ^ format.exponentBits - 2 + 1) := by
    rw [infinity, Nat.pow_eq, Nat.pow_eq, Nat.mul_comm, Nat.zero_add]
    congr 1
    omega
  rw [rank, units_add_mul (Nat.two_pow_pos _), scale, Nat.pow_eq, Nat.add_zero, ← Nat.pow_add,
    ← Nat.pow_add]
  congr 1
  omega

/-! ## Reaching a rank -/

theorem reaches_succ_of_lt {num den below : Nat}
    (middle : (format.units below + format.units (below + 1)) * den <
      num * 2 ^ (format.scale + 1)) :
    format.reaches num den (below + 1) = true := by
  simp only [reaches, Nat.pow_eq]
  split
  · exact decide_eq_true middle.le
  · exact decide_eq_true middle

theorem le_of_reaches_succ {num den below : Nat}
    (reached : format.reaches num den (below + 1) = true) :
    (format.units below + format.units (below + 1)) * den ≤ num * 2 ^ (format.scale + 1) := by
  simp only [reaches, Nat.pow_eq] at reached
  split at reached
  · exact of_decide_eq_true reached
  · exact (of_decide_eq_true reached).le

/-- A fraction that is at least the number of a rank reaches it. -/
theorem reaches_of_le {num den rank : Nat} (positive : 0 < den)
    (atLeast : format.units rank * den ≤ num * 2 ^ format.scale) :
    format.reaches num den rank = true := by
  cases rank with
  | zero => rfl
  | succ below =>
    have lower : format.units below * den < format.units (below + 1) * den :=
      Nat.mul_lt_mul_of_pos_right (format.units_lt_units_succ below) positive
    apply reaches_succ_of_lt
    rw [Nat.add_mul, Nat.pow_succ, ← Nat.mul_assoc]
    omega

/-- A fraction that is at most the number of a rank does not reach the next one. -/
theorem not_reaches_succ_of_le {num den rank : Nat} (positive : 0 < den)
    (atMost : num * 2 ^ format.scale ≤ format.units rank * den) :
    format.reaches num den (rank + 1) = false := by
  have upper : format.units rank * den < format.units (rank + 1) * den :=
    Nat.mul_lt_mul_of_pos_right (format.units_lt_units_succ rank) positive
  apply Bool.eq_false_iff.2
  intro reached
  have middle := le_of_reaches_succ reached
  rw [Nat.add_mul, Nat.pow_succ, ← Nat.mul_assoc] at middle
  omega

theorem reaches_of_reaches_succ {num den rank : Nat} (positive : 0 < den)
    (reached : format.reaches num den (rank + 1) = true) :
    format.reaches num den rank = true := by
  cases rank with
  | zero => rfl
  | succ below =>
    have lower : format.units below < format.units (below + 2) :=
      format.units_strictMono (by omega)
    have middle : (format.units below + format.units (below + 1)) * den <
        (format.units (below + 1) + format.units (below + 2)) * den :=
      Nat.mul_lt_mul_of_pos_right (by omega) positive
    exact reaches_succ_of_lt (middle.trans_le (le_of_reaches_succ reached))

theorem reaches_of_rank_le {num den rank higher : Nat} (positive : 0 < den) (le : rank ≤ higher)
    (reached : format.reaches num den higher = true) :
    format.reaches num den rank = true := by
  induction le with
  | refl => exact reached
  | step _ inductionHypothesis =>
    exact inductionHypothesis (reaches_of_reaches_succ positive reached)

/-- Fractions of one value reach the same ranks. -/
theorem reaches_congr {num den num' den' : Nat} (positive : 0 < den) (positive' : 0 < den')
    (value : num * den' = num' * den) (rank : Nat) :
    format.reaches num den rank = format.reaches num' den' rank := by
  cases rank with
  | zero => rfl
  | succ below =>
    -- Both comparisons are the one of the products with both denominators.
    have left (middle : Nat) : middle * den * den' = middle * den' * den :=
      Nat.mul_right_comm _ _ _
    have right (unit : Nat) : num * unit * den' = num' * unit * den := by
      rw [Nat.mul_right_comm, value, Nat.mul_right_comm]
    have le (middle unit : Nat) : middle * den ≤ num * unit ↔ middle * den' ≤ num' * unit := by
      rw [← Nat.mul_le_mul_right_iff positive', left, right, Nat.mul_le_mul_right_iff positive]
    have lt (middle unit : Nat) : middle * den < num * unit ↔ middle * den' < num' * unit := by
      rw [← Nat.mul_lt_mul_right positive', left, right, Nat.mul_lt_mul_right positive]
    simp only [reaches, le, lt]

/-! ## The climb -/

theorem climb_eq_of_reaches {num den target : Nat} (positive : 0 < den)
    (bounded : target ≤ format.infinity)
    (reached : format.reaches num den target = true)
    (highest : format.reaches num den (target + 1) = false)
    {bits rank : Nat} (below : rank ≤ target) (above : target < rank + 2 ^ bits) :
    format.climb num den bits rank = target := by
  induction bits generalizing rank with
  | zero =>
    rw [climb]
    omega
  | succ bits inductionHypothesis =>
    rw [Nat.pow_succ] at above
    simp only [climb, Nat.pow_eq]
    by_cases up : rank + 2 ^ bits ≤ target
    case pos =>
      have taken := reaches_of_rank_le positive up reached
      rw [if_pos ⟨up.trans bounded, taken⟩]
      exact inductionHypothesis up (by omega)
    case neg =>
      have refused : ¬ format.reaches num den (rank + 2 ^ bits) = true := by
        intro taken
        have higher : target + 1 ≤ rank + 2 ^ bits := Nat.lt_of_not_le up
        have contradicted := reaches_of_rank_le positive higher taken
        rw [highest] at contradicted
        cases contradicted
      rw [if_neg fun taken => refused taken.2]
      exact inductionHypothesis below (by omega)

theorem infinity_lt (format : FloatFormat) :
    format.infinity < 2 ^ (format.fractionBits + format.exponentBits) := by
  rw [infinity, Nat.pow_eq, Nat.pow_eq, Nat.pow_add, Nat.mul_comm]
  exact Nat.mul_lt_mul_of_pos_left (Nat.sub_lt (Nat.two_pow_pos _) Nat.one_pos)
    (Nat.two_pow_pos _)

/-- A fraction rounds to the rank that it reaches without reaching the next one. -/
theorem nearest_eq_of_reaches {num den rank : Nat} (positive : 0 < den)
    (bounded : rank ≤ format.infinity)
    (reached : format.reaches num den rank = true)
    (highest : format.reaches num den (rank + 1) = false) :
    format.nearest num den = rank := by
  have inReach : rank < 0 + 2 ^ (format.fractionBits + format.exponentBits) := by
    rw [Nat.zero_add]
    exact bounded.trans_lt format.infinity_lt
  exact climb_eq_of_reaches positive bounded reached highest (Nat.zero_le rank) inReach

end Waymark.FloatFormat
