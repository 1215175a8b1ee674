import Waymark.Number.Decimal
import Waymark.Proofs.Rounding

/-!
# Shortest decimals read back

A decimal that lies between the middles around a number rounds to it, whatever its digits
are and wherever it has its point. The search for the shortest decimal ends only with one
that does, so every way to write it down reads as the number it was found for.
-/

namespace Waymark

theorem lt_pow_decimalLength (n : Nat) : n < 10 ^ decimalLength n := by
  fun_induction decimalLength n with
  | case1 n small => simpa using small
  | case2 n large inductionHypothesis =>
    rw [Nat.pow_succ]
    omega

theorem pow_decimalLength_le {n : Nat} (positive : 0 < n) : 10 ^ (decimalLength n - 1) ≤ n := by
  fun_induction decimalLength n with
  | case1 n small => exact positive
  | case2 n large inductionHypothesis =>
    have front : 10 ^ (decimalLength (n / 10) - 1) ≤ n / 10 := inductionHypothesis (by omega)
    have longer : 0 < decimalLength (n / 10) := by
      rw [decimalLength]
      split
      · exact Nat.one_pos
      · exact Nat.succ_pos _
    calc 10 ^ (decimalLength (n / 10) + 1 - 1)
        = 10 ^ (decimalLength (n / 10) - 1) * 10 := by
          rw [← Nat.pow_succ]
          congr 1
          omega
      _ ≤ n / 10 * 10 := Nat.mul_le_mul_right 10 front
      _ ≤ n := Nat.div_mul_le_self n 10

namespace Decimal

variable {format : FloatFormat}

theorem den_pos (decimal : Decimal) : 0 < decimal.den := by
  rw [den, Nat.pow_eq]
  exact Nat.pow_pos (by decide)

/-! ## The power of ten of the first digit -/

/-- A decimal lies below the power of ten before its first digit. -/
theorem num_mul_pow_lt (decimal : Decimal) (low high : Nat)
    (first : decimalLength decimal.digits + decimal.exponent + low ≤ (high : Int)) :
    decimal.num * 10 ^ low < 10 ^ high * decimal.den := by
  rw [num, den, Nat.pow_eq, Nat.pow_eq]
  calc decimal.digits * 10 ^ decimal.exponent.toNat * 10 ^ low
      = decimal.digits * 10 ^ (decimal.exponent.toNat + low) := by
        rw [Nat.mul_assoc, ← Nat.pow_add]
    _ < 10 ^ decimalLength decimal.digits * 10 ^ (decimal.exponent.toNat + low) :=
        Nat.mul_lt_mul_of_pos_right (lt_pow_decimalLength _) (Nat.pow_pos (by decide))
    _ ≤ 10 ^ high * 10 ^ (-decimal.exponent).toNat := by
        rw [← Nat.pow_add, ← Nat.pow_add]
        exact Nat.pow_le_pow_right (by decide) (by omega)

/-- A decimal other than zero is at least the power of ten of its first digit. -/
theorem pow_mul_den_le {decimal : Decimal} (positive : 0 < decimal.digits) {power : Nat}
    (first : (power : Int) < decimalLength decimal.digits + decimal.exponent) :
    10 ^ power * decimal.den ≤ decimal.num := by
  rw [num, den, Nat.pow_eq, Nat.pow_eq]
  calc 10 ^ power * 10 ^ (-decimal.exponent).toNat
      ≤ 10 ^ (decimalLength decimal.digits - 1) * 10 ^ decimal.exponent.toNat := by
        rw [← Nat.pow_add, ← Nat.pow_add]
        exact Nat.pow_le_pow_right (by decide) (by omega)
    _ ≤ decimal.digits * 10 ^ decimal.exponent.toNat :=
        Nat.mul_le_mul_right _ (pow_decimalLength_le positive)

/-! ## Decimals that read as a number -/

/-- Two decimals of one value, whatever their digits and points. -/
def SameValue (left right : Decimal) : Prop :=
  left.num * right.den = right.num * left.den

theorem readsAs_iff {decimal : Decimal} {rank : Nat} :
    decimal.readsAs format rank = true ↔
      format.reaches decimal.num decimal.den rank = true ∧
        format.reaches decimal.num decimal.den (rank + 1) = false := by
  simp [readsAs]

theorem SameValue.of_eq {left right : Decimal} (equality : left = right) :
    left.SameValue right := by
  rw [equality, SameValue]

theorem SameValue.readsAs_eq {left right : Decimal} (value : left.SameValue right)
    (rank : Nat) : left.readsAs format rank = right.readsAs format rank := by
  rw [readsAs, readsAs, FloatFormat.reaches_congr left.den_pos right.den_pos value,
    FloatFormat.reaches_congr left.den_pos right.den_pos value]

/-- What reaches the least positive number is above half the smallest unit. -/
theorem den_le_of_reaches {decimal : Decimal}
    (above : format.reaches decimal.num decimal.den 1 = true) :
    decimal.den ≤ decimal.num * 2 ^ (format.scale + 1) := by
  have least : 0 < format.units 0 + format.units (0 + 1) :=
    Nat.add_pos_right _ (Nat.zero_lt_of_lt (format.units_lt_units_succ 0))
  exact (Nat.le_mul_of_pos_left _ least).trans (FloatFormat.le_of_reaches_succ above)

theorem digits_pos_of_reaches {decimal : Decimal}
    (above : format.reaches decimal.num decimal.den 1 = true) : 0 < decimal.digits := by
  have den_le := den_le_of_reaches above
  apply Nat.pos_of_ne_zero
  intro none
  rw [num, none, Nat.zero_mul, Nat.zero_mul] at den_le
  exact absurd decimal.den_pos (Nat.not_lt.2 den_le)

/-- The shortcuts for very small and very large decimals are taken only where rounding
gives the same. -/
theorem rank_eq_nearest (ample : 2 ≤ format.exponentBits) {decimal : Decimal}
    (above : format.reaches decimal.num decimal.den 1 = true)
    (below : format.reaches decimal.num decimal.den format.infinity = false) :
    decimal.rank format = format.nearest decimal.num decimal.den := by
  have positive := digits_pos_of_reaches above
  have notTiny : ¬ ((decimalLength decimal.digits : Int) + decimal.exponent <
      -(format.scale : Int)) := by
    intro tiny
    have small := decimal.num_mul_pow_lt (format.scale + 1) 0 (by omega)
    rw [Nat.pow_zero, Nat.one_mul] at small
    have powers : 2 ^ (format.scale + 1) ≤ 10 ^ (format.scale + 1) :=
      Nat.pow_le_pow_left (by decide) _
    have large := (den_le_of_reaches above).trans (Nat.mul_le_mul_left _ powers)
    exact absurd large (Nat.not_le.2 small)
  have notHuge : ¬ ((2 ^ (format.exponentBits - 1) : Nat) <
      (decimalLength decimal.digits : Int) + decimal.exponent) := by
    intro huge
    have powers : 2 ^ 2 ^ (format.exponentBits - 1) ≤ 10 ^ 2 ^ (format.exponentBits - 1) :=
      Nat.pow_le_pow_left (by decide) _
    have large := (Nat.mul_le_mul_right _ powers).trans (pow_mul_den_le positive huge)
    have reached : format.reaches decimal.num decimal.den format.infinity = true := by
      apply FloatFormat.reaches_of_le decimal.den_pos
      rw [FloatFormat.units_infinity ample, Nat.mul_right_comm]
      exact Nat.mul_le_mul_right _ large
    rw [below] at reached
    cases reached
  simp only [rank, Nat.pow_eq, positive.ne', notTiny, notHuge, false_or, if_false]

/-- A decimal that reads as a finite number other than zero rounds to it. -/
theorem rank_of_readsAs (ample : 2 ≤ format.exponentBits) {decimal : Decimal} {rank : Nat}
    (positive : 0 < rank) (finite : rank < format.infinity)
    (reads : decimal.readsAs format rank = true) :
    decimal.rank format = rank := by
  obtain ⟨reached, highest⟩ := readsAs_iff.1 reads
  have above := FloatFormat.reaches_of_rank_le decimal.den_pos positive reached
  have below : format.reaches decimal.num decimal.den format.infinity = false := by
    apply Bool.eq_false_iff.2
    intro infinite
    have contradicted := FloatFormat.reaches_of_rank_le decimal.den_pos finite infinite
    rw [highest] at contradicted
    cases contradicted
  rw [rank_eq_nearest ample above below]
  exact FloatFormat.nearest_eq_of_reaches decimal.den_pos finite.le reached highest

/-! ## The search -/

theorem readsAs_of_onGrid? {tie : TieRule} {rank : Nat} {exponent : Int} {decimal : Decimal}
    (hit : onGrid? format tie rank exponent = some decimal) :
    decimal.readsAs format rank = true := by
  simp only [onGrid?] at hit
  split at hit
  case h_1 => cases hit
  case h_2 lower _ =>
    cases hit
    exact lower
  case h_3 _ upper =>
    cases hit
    exact upper
  case h_4 lower upper =>
    split at hit
    case h_4 =>
      cases hit
      split
      · exact lower
      · exact upper
    all_goals
      cases hit
      assumption

/-- The number itself, written out, reads back. -/
theorem readsAs_written (format : FloatFormat) (rank : Nat) :
    readsAs format rank ⟨format.units rank * Nat.pow 5 format.scale, -(format.scale : Int)⟩ =
      true := by
  have value : format.units rank * 5 ^ format.scale * 2 ^ format.scale =
      format.units rank * 10 ^ format.scale := by
    rw [Nat.mul_assoc, ← Nat.mul_pow]
  have positive : 0 < 10 ^ format.scale := Nat.pow_pos (by decide)
  have noPower : (-(format.scale : Int)).toNat = 0 := by omega
  have power : (- -(format.scale : Int)).toNat = format.scale := by omega
  rw [readsAs_iff, num, den, Nat.pow_eq, Nat.pow_eq, Nat.pow_eq, noPower, power, Nat.pow_zero,
    Nat.mul_one]
  exact ⟨FloatFormat.reaches_of_le positive value.ge,
    FloatFormat.not_reaches_succ_of_le positive value.le⟩

theorem readsAs_search (format : FloatFormat) (tie : TieRule) (rank fuel : Nat) :
    (search format tie rank fuel).readsAs format rank = true := by
  induction fuel with
  | zero => exact readsAs_written format rank
  | succ fuel inductionHypothesis =>
    rw [search]
    split
    · next hit => exact readsAs_of_onGrid? hit
    · exact inductionHypothesis

theorem readsAs_shortest (format : FloatFormat) (tie : TieRule) (rank : Nat) :
    (shortest format tie rank).readsAs format rank = true :=
  readsAs_search format tie rank _

/-- Every decimal with the value of the shortest one of a number rounds to this number. -/
theorem rank_of_sameValue_shortest (ample : 2 ≤ format.exponentBits) {tie : TieRule}
    {rank : Nat} (positive : 0 < rank) (finite : rank < format.infinity) {decimal : Decimal}
    (value : decimal.SameValue (shortest format tie rank)) :
    decimal.rank format = rank := by
  have reads := readsAs_shortest format tie rank
  rw [← value.readsAs_eq] at reads
  exact rank_of_readsAs ample positive finite reads

theorem digits_shortest_pos (tie : TieRule) {rank : Nat} (positive : 0 < rank) :
    0 < (shortest format tie rank).digits := by
  obtain ⟨reached, -⟩ := readsAs_iff.1 (readsAs_shortest format tie rank)
  exact digits_pos_of_reaches (FloatFormat.reaches_of_rank_le (den_pos _) positive reached)

end Decimal

end Waymark
