import Conveyor.Proofs.Magnitude
import Conveyor.Workflow

namespace Conveyor.RetryPolicy
open Doubles

variable {retry : Nat} {done base : Float}

theorem wrap_of_lt {n : Nat} (h : n < 2 ^ 31) : wrap n = n := by
  show (n : Int).bmod 4294967296 = n
  exact Int.bmod_eq_of_le (by omega) (by omega)

theorem wrap_of_le {n : Nat} (h : 2 ^ 31 ≤ n) (hlt : n < 2 ^ 32) : wrap n = n - 2 ^ 32 := by
  show (n : Int).bmod 4294967296 = n - (4294967296 : Nat)
  rw [← Int.sub_bmod_right]
  exact Int.bmod_eq_of_le (by omega) (by omega)

theorem exponent_of_le (first : 1 ≤ retry) (h : retry ≤ 2 ^ 31) : exponent retry = retry - 1 := by
  rw [exponent, wrap_of_lt (by omega)]
  omega

theorem exponent_of_lt (h : 2 ^ 31 < retry) (last : retry < 2 ^ 32) :
    exponent retry = retry - 1 - 2 ^ 32 := by
  rw [exponent, wrap_of_le (by omega) (by omega)]
  omega

theorem atLeastOne_odd {odd : Prop} [Decidable odd] (hdone : AtLeastOne done.toModel.unpack)
    (hbase : AtLeastOne base.toModel.unpack) :
    AtLeastOne (if odd then done * base else done).toModel.unpack := by
  split
  · exact atLeastOne_mul hdone hbase
  · exact hdone

/-- Squaring and multiplying lose nothing of what is one or more. -/
theorem atLeastOne_power (hdone : AtLeastOne done.toModel.unpack)
    (hbase : AtLeastOne base.toModel.unpack) (n : Nat) :
    AtLeastOne (power done base n).toModel.unpack := by
  induction done, base, n using power.induct with
  | case1 done base n hlast =>
    rw [power, if_pos hlast]
    exact atLeastOne_odd hdone hbase
  | case2 done base n _ hmore ih =>
    rw [power, if_neg hmore]
    exact ih (atLeastOne_odd hdone hbase) (atLeastOne_mul hbase hbase)

theorem atLeastOne_multiplier (policy : RetryPolicy) :
    AtLeastOne policy.multiplier.toModel.unpack := by
  unfold multiplier
  split
  next h => exact atLeastOne_of_one_lt h
  · exact atLeastOne_one

theorem one_le_factor {n : Int} (policy : RetryPolicy) (h : 0 ≤ n) :
    1.0 ≤ factor policy.multiplier n := by
  rw [factor, if_neg (Int.not_lt.mpr h)]
  exact one_le_of_atLeastOne (atLeastOne_power atLeastOne_one policy.atLeastOne_multiplier _)

theorem factor_le_one {n : Int} (policy : RetryPolicy) (h : n < 0) :
    factor policy.multiplier n ≤ 1.0 := by
  rw [factor, if_pos h]
  exact le_one_of_atMostOne
    (atMostOne_one_div (atLeastOne_power atLeastOne_one policy.atLeastOne_multiplier _))

/-- Up to the retry 2^31 the exponent is one less than the retry, and the factor is one or more.
From there on the exponent starts over at the least number of 32 bits, below all those before, and
the factor is one or less. -/
theorem exponent_starts_over (policy : RetryPolicy) (first : 1 ≤ retry) (last : retry < 2 ^ 32) :
    (retry ≤ 2 ^ 31 →
      exponent retry = retry - 1 ∧ 0 ≤ exponent retry ∧
      (∀ earlier, 1 ≤ earlier → earlier ≤ retry → exponent earlier ≤ exponent retry) ∧
      1.0 ≤ factor policy.multiplier (exponent retry)) ∧
    (2 ^ 31 < retry →
      exponent retry = retry - 1 - 2 ^ 32 ∧ exponent retry < 0 ∧
      (∀ earlier, 1 ≤ earlier → earlier ≤ 2 ^ 31 → exponent retry < exponent earlier) ∧
      factor policy.multiplier (exponent retry) ≤ 1.0) := by
  constructor
  · intro hle
    have hexponent := exponent_of_le first hle
    have hsign : 0 ≤ exponent retry := by omega
    refine ⟨hexponent, hsign, ?_, one_le_factor policy hsign⟩
    intro earlier hfirst hearlier
    rw [hexponent, exponent_of_le hfirst (Nat.le_trans hearlier hle)]
    omega
  · intro hlt
    have hexponent := exponent_of_lt hlt last
    have hsign : exponent retry < 0 := by omega
    refine ⟨hexponent, hsign, ?_, factor_le_one policy hsign⟩
    intro earlier hfirst hearlier
    rw [hexponent, exponent_of_le hfirst hearlier]
    omega

/-- As often as it can be tried, with twice the delay each time. -/
def doubling : RetryPolicy :=
  { maxAttempts := 4294967295, delayMillis := 1000, backoffMultiplier := 2.0 }

theorem exponent_starts_over_doubling :
    (1 ≤ 2147483649 ∧ 2147483649 < 2 ^ 32) ∧ exponent 2147483649 < 0 ∧
      factor doubling.multiplier (exponent 2147483649) ≤ 1.0 := by
  have hrange : 1 ≤ 2147483649 ∧ 2147483649 < 2 ^ 32 := by omega
  have h := (exponent_starts_over doubling hrange.1 hrange.2).2 (by omega)
  exact ⟨hrange, h.2.1, h.2.2.2⟩

/-- The longest delay is followed by none. -/
theorem doubling_delay_lost :
    (1.0 ≤ doubling.backoffMultiplier ∧ doubling.backoffMultiplier.isFinite = true) ∧
      2147483649 < doubling.maxAttempts ∧
      exponent 2147483648 = 2147483647 ∧ exponent 2147483649 = -2147483648 ∧
      factor doubling.multiplier (exponent 2147483649) < 1.0 ∧
      doubling.delayFor 2147483648 = 18446744073709551615 ∧ doubling.delayFor 2147483649 = 0 := by
  decide +kernel

end Conveyor.RetryPolicy
