import Conveyor.Json.Numeral
import Mathlib

namespace Conveyor

namespace Doubles
open Float.Model Float.Model.UnpackedFloat

section Packing

variable {bits : BitVec Format.binary64.numBits} {f : UnpackedFloat} {s : Sign} {m : Nat} {e : Int}

/-- Only the largest exponent field is left to the infinities and NaN. -/
theorem isFinite_of_field (h : unpackExponent bits ≠ (-1#_)) :
    (UnpackedFloat.unpack Format.binary64 bits).isFinite = true := by
  unfold UnpackedFloat.unpack
  simp only [h, if_false]
  split
  · split <;> rfl
  · rfl

theorem isNaN_of_isFinite (h : f.isFinite = true) : f.isNaN = false := by
  cases f <;> first | rfl | cases h

theorem unpack_packedInfinity :
    UnpackedFloat.unpack Format.binary64 (packedInfinity Format.binary64 s) = .infinity s := by
  simp [UnpackedFloat.unpack, packedInfinity]

theorem isFinite_pack_zero : (Float.Model.pack (.zero s)).isFinite = true := by
  show (UnpackedFloat.unpack Format.binary64 (packedZero Format.binary64 s)).isFinite = true
  rw [unpack_packedZero]
  rfl

theorem overflows_iff :
    2 ^ 11 ≤ (e + Format.binary64.exponentBias + (52 : Nat)).toNat + 1 ↔ 971 < e := by
  simp only [Format.exponentBias]
  omega

theorem pack_overflow {h : 0 < m} (he : 971 < e) :
    UnpackedFloat.pack Format.binary64 (.finite s m e h) = packedInfinity Format.binary64 s := by
  simp only [UnpackedFloat.pack]
  rw [if_pos (overflows_iff.mpr he)]

/-- A double whose exponent is in range fits its format. -/
theorem field_pack {h : 0 < m} (he : e ≤ 971) :
    unpackExponent (UnpackedFloat.pack Format.binary64 (.finite s m e h)) ≠ (-1#_) := by
  simp only [UnpackedFloat.pack]
  rw [if_neg (mt overflows_iff.mp (Int.not_lt.mpr he))]
  split
  · rw [unpackExponent_packComponents]
    intro hfield
    have := congrArg BitVec.toNat hfield
    simp [Format.exponentBias] at this
    omega
  · rw [unpackExponent_packComponents]
    decide

theorem isFinite_pack {h : 0 < m} (he : e ≤ 971) :
    (Float.Model.pack (.finite s m e h)).isFinite = true :=
  isFinite_of_field (field_pack (h := h) he)

/-- Nothing but NaN is packed as NaN. -/
theorem isNaN_pack (h : f.isNaN = false) : (Float.Model.pack f).isNaN = false := by
  cases f with
  | notANumber => cases h
  | infinity s =>
    show (UnpackedFloat.unpack Format.binary64 (packedInfinity _ s)).isNaN = false
    rw [unpack_packedInfinity]
    rfl
  | zero s => exact isNaN_of_isFinite isFinite_pack_zero
  | finite s m e hm =>
    by_cases he : e ≤ 971
    · exact isNaN_of_isFinite (isFinite_pack he)
    · show (UnpackedFloat.unpack Format.binary64 (UnpackedFloat.pack _ _)).isNaN = false
      rw [pack_overflow (Int.not_le.mp he), unpack_packedInfinity]
      rfl

/-- What a finite double looks like when it is unpacked. -/
theorem bounds_of_unpack {h : 0 < m}
    (hu : UnpackedFloat.unpack Format.binary64 bits = .finite s m e h) : m < 2 ^ 53 ∧ e ≤ 971 := by
  unfold UnpackedFloat.unpack at hu
  simp only at hu
  split at hu
  · split at hu <;> cases hu
  next hfield =>
    have hexponent : (unpackExponent bits).toNat ≤ 2046 := by
      have hlt : (unpackExponent bits).toNat < 2 ^ 11 := (unpackExponent bits).isLt
      have hne : (unpackExponent bits).toNat ≠ 2047 := fun h =>
        hfield (BitVec.eq_of_toNat_eq (by simpa using h))
      omega
    have hmantissa : (unpackMantissa bits).toNat < 2 ^ 52 := (unpackMantissa bits).isLt
    split at hu
    next hzero =>
      split at hu
      · cases hu
      · cases hu
        rw [hzero]
        simp [Format.exponentBias]
        omega
    · cases hu
      constructor
      · exact BitVec.isLt _
      · simp only [Format.exponentBias]
        omega

theorem log2_append {width : Nat} (v : BitVec width) : (1#1 ++ v).toNat.log2 = width := by
  have hlt : (1#1 ++ v).toNat < 2 ^ (width + 1) := Nat.add_comm 1 width ▸ (1#1 ++ v).isLt
  have hle : 2 ^ width ≤ (1#1 ++ v).toNat := by
    rw [BitVec.toNat_append, Nat.shiftLeft_eq]
    exact Nat.le_trans (by simp) Nat.left_le_or
  exact (Nat.log2_eq_iff (Nat.ne_of_gt (Nat.lt_of_lt_of_le (Nat.two_pow_pos _) hle))).mpr ⟨hle, hlt⟩

/-- An exponent field that is neither the smallest nor the largest is that of a number with all of
its bits. -/
theorem unpack_packComponents {spec : Format} (s : Sign) {exponent : BitVec spec.exponentBits}
    (mantissa : BitVec spec.mantissaBitsWithoutImplicit) (hinfinite : exponent ≠ (-1#_))
    (hzero : exponent ≠ 0#_) :
    ∃ h, UnpackedFloat.unpack spec (packComponents spec s exponent mantissa) =
      .finite s (1#1 ++ mantissa).toNat
        (exponent.toNat - (spec.exponentBias + spec.mantissaBitsWithoutImplicit)) h := by
  simp only [UnpackedFloat.unpack, unpackExponent_packComponents, unpackMantissa_packComponents,
    unpackSign_packComponents, Sign.ofBitVec_toBitVec, if_neg hinfinite, if_neg hzero]
  exact ⟨by simp, trivial⟩

/-- The leading bit is put back. -/
theorem toNat_append_ofNat {width : Nat} (hlog : m.log2 = width) (h : 0 < m) :
    (1#1 ++ BitVec.ofNat width m).toNat = m := by
  obtain ⟨hlow, hhigh⟩ := (Nat.log2_eq_iff (Nat.ne_of_gt h)).mp hlog
  have hmod : m % 2 ^ width = m - 2 ^ width := by
    rw [Nat.mod_eq_sub_mod hlow, Nat.mod_eq_of_lt (by rw [Nat.pow_succ] at hhigh; omega)]
  rw [BitVec.toNat_append, ← Nat.shiftLeft_add_eq_or_of_lt (BitVec.isLt _), BitVec.toNat_ofNat,
    BitVec.toNat_ofNat, hmod, Nat.shiftLeft_eq, Nat.one_mul]
  omega

theorem toNat_field (hlow : -1074 ≤ e) (he : e ≤ 971) :
    (BitVec.ofNat Format.binary64.exponentBits
      (e + Format.binary64.exponentBias + (52 : Nat)).toNat).toNat = (e + 1075).toNat := by
  rw [BitVec.toNat_ofNat]
  simp only [Format.exponentBias]
  omega

/-- A number of a double's length is packed as it is. -/
theorem unpack_pack (s : Sign) (h : 0 < m) (hlog : m.log2 = 52) (hlow : -1074 ≤ e) (he : e ≤ 971) :
    UnpackedFloat.unpack Format.binary64
      (UnpackedFloat.pack Format.binary64 (.finite s m e h)) = .finite s m e h := by
  have hfield := toNat_field hlow he
  have hinfinite : BitVec.ofNat Format.binary64.exponentBits
      (e + Format.binary64.exponentBias + (52 : Nat)).toNat ≠ (-1#_) := fun h => by
    rw [h] at hfield
    simp at hfield
    omega
  have hzero : BitVec.ofNat Format.binary64.exponentBits
      (e + Format.binary64.exponentBias + (52 : Nat)).toNat ≠ 0#_ := fun h => by
    rw [h] at hfield
    simp at hfield
    omega
  obtain ⟨h', hu⟩ := unpack_packComponents s (BitVec.ofNat _ m) hinfinite hzero
  simp only [UnpackedFloat.pack]
  rw [if_neg (mt overflows_iff.mp (Int.not_lt.mpr he)), if_pos (by rw [hlog]; rfl)]
  have hexponent : ((e + 1075).toNat : Int) -
      (Format.binary64.exponentBias + Format.binary64.mantissaBitsWithoutImplicit) = e := by
    simp only [Format.exponentBias]
    omega
  rw [hu]
  congr 1
  · exact toNat_append_ofNat hlog h
  · rw [hfield, hexponent]

end Packing

section Rounding

variable {s : Sign} {m : Nat} {e : Int} {accuracy : Accuracy} {em : ExtendedMantissa}

theorem mantissa_shiftRight (count : Nat) : (em >>> count).mantissa = em.mantissa / 2 ^ count := by
  induction count with
  | zero => simp [HShiftRight.hShiftRight, Nat.repeat]
  | succ count ih =>
    show (em >>> count).mantissa / 2 = _
    rw [ih, Nat.div_div_eq_div_mul, Nat.pow_succ]

theorem roundedMantissa_le : em.roundedMantissa ≤ em.mantissa + 1 := by
  obtain ⟨m, r, s⟩ := em
  cases r <;> cases s <;>
    simp [ExtendedMantissa.roundedMantissa, ExtendedMantissa.accuracy, Accuracy.roundToNearestEven]
  omega

theorem le_roundedMantissa {em : ExtendedMantissa} : em.mantissa ≤ em.roundedMantissa := by
  obtain ⟨m, r, s⟩ := em
  cases r <;> cases s <;>
    simp [ExtendedMantissa.roundedMantissa, ExtendedMantissa.accuracy, Accuracy.roundToNearestEven]

theorem targetExponent_eq : Format.binary64.targetExponent (totalExponent m e) =
    max (m.log2 + e - 52) (-1074) := by
  simp [Format.targetExponent, totalExponent, Format.mantissaBits, Format.minExponent]
  omega

theorem shiftToTargetExponent_exponent (m : Nat) (e : Int) (accuracy : Accuracy) :
    (shiftToTargetExponent Format.binary64 m e accuracy).2 =
      max e (max (m.log2 + e - 52) (-1074)) := by
  simp only [shiftToTargetExponent, shiftToExponent, targetExponent_eq]
  omega

theorem shiftToTargetExponent_mantissa (m : Nat) (e : Int) (accuracy : Accuracy) :
    (shiftToTargetExponent Format.binary64 m e accuracy).1.mantissa =
      m / 2 ^ (max (m.log2 + e - 52) (-1074) - e).toNat := by
  have hstart : (ExtendedMantissa.ofMantissaAndAccuracy m accuracy).mantissa = m := by
    cases accuracy with
    | exact => rfl
    | inexact half => cases half <;> rfl
  simp only [shiftToTargetExponent, shiftToExponent, targetExponent_eq, mantissa_shiftRight, hstart]

theorem shiftToTargetExponent_mantissa_lt (m : Nat) (e : Int) (accuracy : Accuracy) :
    (shiftToTargetExponent Format.binary64 m e accuracy).1.mantissa < 2 ^ 53 := by
  rw [shiftToTargetExponent_mantissa]
  generalize hcount : (max (m.log2 + e - 52) (-1074) - e).toNat = count
  have hlog : m.log2 + 1 ≤ 53 + count := by omega
  rw [Nat.div_lt_iff_lt_mul (Nat.two_pow_pos count), ← Nat.pow_add]
  calc m < 2 ^ (m.log2 + 1) := Nat.lt_log2_self
    _ ≤ 2 ^ (53 + count) := Nat.pow_le_pow_right (by decide) hlog

theorem log2_div_two_pow {count : Nat} (hm : m ≠ 0) (hcount : count ≤ m.log2) :
    (m / 2 ^ count).log2 = m.log2 - count := by
  have hpos : 0 < 2 ^ count := Nat.two_pow_pos count
  have hle : 2 ^ (m.log2 - count) ≤ m / 2 ^ count := by
    rw [Nat.le_div_iff_mul_le hpos, ← Nat.pow_add, Nat.sub_add_cancel hcount]
    exact Nat.log2_self_le hm
  have hne : m / 2 ^ count ≠ 0 := Nat.ne_of_gt (Nat.lt_of_lt_of_le (Nat.two_pow_pos _) hle)
  refine (Nat.log2_eq_iff hne).mpr ⟨hle, ?_⟩
  rw [Nat.div_lt_iff_lt_mul hpos, ← Nat.pow_add]
  have hadd : m.log2 - count + 1 + count = m.log2 + 1 := by omega
  rw [hadd]
  exact Nat.lt_log2_self

/-- What has at least as many bits as a double is shifted to exactly as many, if it is not too
small. -/
theorem shiftToTargetExponent_normal (hlog : 52 ≤ m.log2) (hlow : -1022 ≤ m.log2 + e)
    (accuracy : Accuracy) :
    (shiftToTargetExponent Format.binary64 m e accuracy).1.mantissa.log2 = 52 ∧
      (shiftToTargetExponent Format.binary64 m e accuracy).2 = m.log2 + e - 52 := by
  have hm : m ≠ 0 := by
    rintro rfl
    simp at hlog
  have hcount : (max (m.log2 + e - 52) (-1074) - e).toNat = m.log2 - 52 := by omega
  rw [shiftToTargetExponent_mantissa, shiftToTargetExponent_exponent, hcount,
    log2_div_two_pow hm (Nat.sub_le _ _)]
  omega

theorem log2_lt_of_lt {count : Nat} (hcount : 0 < count) (h : m < 2 ^ count) : m.log2 < count := by
  rcases Nat.eq_zero_or_pos m with hzero | hpos
  · simpa [hzero] using hcount
  · exact (Nat.log2_lt (Nat.ne_of_gt hpos)).mpr h

theorem log2_shift_mul {n : Nat} (count : Nat) (hn : n ≠ 0) :
    (1 <<< count * n).log2 = count + n.log2 := by
  rw [Nat.shiftLeft_eq, Nat.one_mul]
  induction count with
  | zero => simp
  | succ count ih =>
    have hne : 2 ^ count * n ≠ 0 := Nat.mul_ne_zero (Nat.ne_of_gt (Nat.two_pow_pos count)) hn
    rw [Nat.pow_succ, Nat.mul_comm (2 ^ count), Nat.mul_assoc, Nat.log2_two_mul hne, ih]
    omega

theorem shiftLeft_lt (count : Nat) : m <<< count < 2 ^ (m.log2 + 1 + count) := by
  rw [Nat.shiftLeft_eq, Nat.pow_add]
  exact Nat.mul_lt_mul_of_pos_right Nat.lt_log2_self (Nat.two_pow_pos count)

/-- Rounding leaves a number of a double's length, and makes it no smaller than its leading bit. -/
theorem round_normal (s : Sign) (accuracy : Accuracy) (hlog : 52 ≤ m.log2)
    (hlow : -1022 ≤ m.log2 + e) :
    ∃ m' e', ∃ h : 0 < m', roundWithAccuracy Format.binary64 s m e accuracy = .finite s m' e' h ∧
      m'.log2 = 52 ∧ m.log2 + e ≤ 52 + e' ∧ e' ≤ m.log2 + e - 51 := by
  obtain ⟨hfirst, hexponent⟩ := shiftToTargetExponent_normal hlog hlow accuracy
  unfold roundWithAccuracy
  generalize shiftToTargetExponent Format.binary64 m e accuracy = shifted at *
  obtain ⟨first, e₁⟩ := shifted
  dsimp only at hfirst hexponent
  have hne : first.mantissa ≠ 0 := fun h => by simp [h] at hfirst
  have hupper : first.mantissa < 2 ^ (first.mantissa.log2 + 1) := Nat.lt_log2_self
  rw [hfirst] at hupper
  have hmore : first.mantissa ≤ first.roundedMantissa := le_roundedMantissa
  have hle : first.mantissa.log2 ≤ first.roundedMantissa.log2 :=
    (Nat.le_log2 (by omega)).mpr (Nat.le_trans (Nat.log2_self_le hne) hmore)
  have hlt : first.roundedMantissa.log2 < 54 := by
    have hone : first.roundedMantissa ≤ first.mantissa + 1 := roundedMantissa_le
    exact log2_lt_of_lt (by decide) (by omega)
  have hsmall : -1022 ≤ first.roundedMantissa.log2 + e₁ := by omega
  obtain ⟨hlast, hfinal⟩ := shiftToTargetExponent_normal (by omega) hsmall .exact
  have hpos : (shiftToTargetExponent Format.binary64 first.roundedMantissa e₁ .exact).1.mantissa ≠ 0 :=
    fun h => by simp [h] at hlast
  dsimp only
  rw [dif_neg hpos]
  exact ⟨_, _, _, rfl, hlast, by omega, by omega⟩

/-- What is rounded to a double stays within the range of doubles, short of its last power of
two: rounding up may take one more. -/
theorem isFinite_round (he : e ≤ 970) (htotal : totalExponent m e ≤ 1023) :
    (Float.Model.pack (roundWithAccuracy Format.binary64 s m e accuracy)).isFinite = true := by
  have hmantissa := shiftToTargetExponent_mantissa_lt m e accuracy
  have hexponent := shiftToTargetExponent_exponent m e accuracy
  unfold roundWithAccuracy
  generalize shiftToTargetExponent Format.binary64 m e accuracy = shifted at *
  obtain ⟨first, e₁⟩ := shifted
  have hlog : first.roundedMantissa.log2 < 54 := by
    refine log2_lt_of_lt (by decide) ?_
    have hle : first.roundedMantissa ≤ first.mantissa + 1 := roundedMantissa_le
    simp only at hmantissa
    omega
  have hlast := shiftToTargetExponent_exponent first.roundedMantissa e₁ .exact
  simp only [totalExponent] at *
  split
  · exact isFinite_pack_zero
  · refine isFinite_pack ?_
    omega

theorem isFinite_round_nat (hm : m.log2 < 64) :
    (Float.Model.pack (UnpackedFloat.round Format.binary64 s m 0)).isFinite = true := by
  simp only [UnpackedFloat.round, decreaseExponent, targetExponent_eq]
  generalize (0 - max ((m.log2 : Int) + 0 - 52) (-1074)).toNat = count
  have hlog : (m <<< count).log2 < m.log2 + 1 + count := log2_lt_of_lt (by omega) (shiftLeft_lt count)
  refine isFinite_round (by omega) ?_
  simp only [totalExponent]
  omega

/-- A quotient is taken of a dividend that is shifted until the exponent is low enough. -/
theorem divCore_eq (m₁ : Nat) (e₁ : Int) (m₂ : Nat) (e₂ : Int) :
    ∃ (e : Int) (count : Nat), divCore Format.binary64 m₁ e₁ m₂ e₂ =
        (m₁ <<< count / m₂, e, accuracyOfFraction (m₁ <<< count % m₂) m₂) ∧
      e₁ - e₂ = e + count ∧ e ≤ max (totalExponent m₁ e₁ - totalExponent m₂ e₂ - 53) (-1074) := by
  refine ⟨_, _, rfl, ?_, Int.min_le_right _ _⟩
  omega

/-- Doubles divided by two or more stay within range. -/
theorem isFinite_div_finite {s₁ s₂ : Sign} {m₁ m₂ : Nat} {e₁ e₂ : Int} {h₁ : 0 < m₁} {h₂ : 0 < m₂}
    (hx : totalExponent m₁ e₁ ≤ 1024) (hy : 2 ≤ totalExponent m₂ e₂) :
    (Float.Model.pack (UnpackedFloat.div Format.binary64 (.finite s₁ m₁ e₁ h₁)
      (.finite s₂ m₂ e₂ h₂))).isFinite = true := by
  obtain ⟨e, count, hcore, hshift, htarget⟩ := divCore_eq m₁ e₁ m₂ e₂
  simp only [UnpackedFloat.div, hcore]
  have hquotient : ((m₁ <<< count) / m₂).log2 ≤ m₁.log2 + count - m₂.log2 := by
    refine Nat.le_of_lt_succ (log2_lt_of_lt (Nat.succ_pos _) ?_)
    rw [Nat.div_lt_iff_lt_mul h₂]
    calc m₁ <<< count < 2 ^ (m₁.log2 + 1 + count) := shiftLeft_lt count
      _ ≤ 2 ^ ((m₁.log2 + count - m₂.log2).succ + m₂.log2) :=
        Nat.pow_le_pow_right (by decide) (by omega)
      _ ≤ 2 ^ (m₁.log2 + count - m₂.log2).succ * m₂ := by
        rw [Nat.pow_add]
        exact Nat.mul_le_mul_left _ (Nat.log2_self_le (Nat.ne_of_gt h₂))
  refine isFinite_round (by omega) ?_
  simp only [totalExponent] at *
  omega

end Rounding

section Operations

variable {x y : Float} {n : UInt64}

theorem isFinite_neg (h : x.isFinite = true) : (-x).isFinite = true := by
  show (Float.Model.pack x.toModel.unpack.neg).isFinite = true
  have h : x.toModel.unpack.isFinite = true := h
  cases hu : x.toModel.unpack with
  | notANumber | infinity => rw [hu] at h; cases h
  | zero s => exact isFinite_pack_zero
  | finite s m e hm => exact isFinite_pack (bounds_of_unpack hu).2

theorem isFinite_toFloat : n.toFloat.isFinite = true := by
  show (Float.Model.pack (normalize Format.binary64 n.toNat 0 .positive)).isFinite = true
  unfold UnpackedFloat.normalize
  split
  next hlt =>
    rw [Int.compare_eq_lt] at hlt
    omega
  · exact isFinite_pack_zero
  · exact isFinite_round_nat (log2_lt_of_lt (by decide) n.toNat_lt)

theorem isFinite_mul (hx : x.isFinite = true) (hy : y.isFinite = true)
    (h : (x * y).isInf = false) : (x * y).isFinite = true := by
  have hproduct :
      (UnpackedFloat.mul Format.binary64 x.toModel.unpack y.toModel.unpack).isNaN = false := by
    have hx : x.toModel.unpack.isFinite = true := hx
    have hy : y.toModel.unpack.isFinite = true := hy
    generalize x.toModel.unpack = f at hx
    generalize y.toModel.unpack = g at hy
    cases f with
    | notANumber | infinity => cases hx
    | zero | finite =>
      cases g with
      | notANumber | infinity => cases hy
      | zero => rfl
      | finite =>
        simp only [UnpackedFloat.mul, roundWithAccuracy]
        first | rfl | (split <;> rfl)
  have hnumber : (x * y).toModel.unpack.isNaN = false := isNaN_pack hproduct
  have h : (x * y).toModel.unpack.isInf = false := h
  show (x * y).toModel.unpack.isFinite = true
  cases hu : (x * y).toModel.unpack with
  | notANumber => rw [hu] at hnumber; cases hnumber
  | infinity => rw [hu] at h; cases h
  | zero | finite => rfl

/-- Finite, and at least two whatever its sign. -/
def large (x : Float) : Bool :=
  match x.toModel.unpack with
  | .finite _ m e _ => 2 ≤ totalExponent m e
  | _ => false

/-- What is rounded to a double is large if it is so before, and not too large. -/
theorem large_of_round {s : Sign} {m : Nat} {e : Int} {accuracy : Accuracy} (hlog : 52 ≤ m.log2)
    (hlow : 1 ≤ m.log2 + e) (hhigh : m.log2 + e ≤ 1022)
    (hx : x.toModel = Float.Model.pack (roundWithAccuracy Format.binary64 s m e accuracy)) :
    large x = true := by
  have hsmall : -1022 ≤ m.log2 + e := by omega
  obtain ⟨m₁, e₁, h₁, hround, hlog₁, hle, hlt⟩ := round_normal s accuracy hlog hsmall
  have hleast : -1074 ≤ e₁ := by omega
  have hmost : e₁ ≤ 971 := by omega
  have hu : x.toModel.unpack = .finite s m₁ e₁ h₁ := by
    rw [hx, hround]
    exact unpack_pack s h₁ hlog₁ hleast hmost
  unfold large
  rw [hu]
  simp only [totalExponent, hlog₁, decide_eq_true_eq]
  omega

theorem isFinite_of_large (h : large x = true) : x.isFinite = true := by
  show x.toModel.unpack.isFinite = true
  unfold large at h
  split at h
  next hu =>
    rw [hu]
    rfl
  · cases h

theorem isFinite_div (hx : x.isFinite = true) (hy : large y = true) : (x / y).isFinite = true := by
  show (Float.Model.pack (UnpackedFloat.div _ x.toModel.unpack y.toModel.unpack)).isFinite = true
  have hx : x.toModel.unpack.isFinite = true := hx
  unfold large at hy
  split at hy
  next hu =>
    rw [hu]
    cases hf : x.toModel.unpack with
    | notANumber | infinity => rw [hf] at hx; cases hx
    | zero => exact isFinite_pack_zero
    | finite s₁ m₁ e₁ h₁ =>
      obtain ⟨hm, he⟩ := bounds_of_unpack hf
      have hlog : m₁.log2 < 53 := log2_lt_of_lt (by decide) hm
      refine isFinite_div_finite ?_ (by simpa using hy)
      simp only [totalExponent]
      omega
  · cases hy

end Operations

end Doubles

namespace Numeral
open Float.Model Float.Model.UnpackedFloat

theorem toModel_powerOfTen {places : Nat} (h : 22 < places) (hle : places ≤ maxPower) :
    (powerOfTen places).toModel = Float.Model.pack (roundWithAccuracy Format.binary64 .positive
      (1 <<< 53 * 10 ^ places) (-53) .exact) := by
  unfold powerOfTen Float.ofScientific
  rw [dif_neg (by omega)]
  have hup : ¬ (Int.ofNat places) > 2 ^ Format.binary64.exponentBits := by
    simp only [maxPower] at hle
    show ¬ (places : Int) > 2048
    omega
  have hdown : ¬ (Int.ofNat places) < -((2 ^ Format.binary64.exponentBits : Int) + (1 : Nat).log2) := by
    show ¬ (places : Int) < -(2048 + 0)
    omega
  show Float.Model.ofScientific 1 (Int.ofNat places) = _
  unfold Float.Model.ofScientific UnpackedFloat.ofScientific
  rw [dif_neg (by decide), if_neg hup, if_neg hdown, if_pos (by exact Int.natCast_nonneg _)]
  rfl

theorem log2_ten_pow_le (places : Nat) : (10 ^ places).log2 ≤ 10 * ((places + 2) / 3) := by
  generalize hcount : (places + 2) / 3 = count
  have hpow : 10 ^ (3 * count) ≤ 2 ^ (10 * count) := by
    rw [Nat.pow_mul, Nat.pow_mul]
    exact Nat.pow_le_pow_left (by decide) count
  refine Nat.le_of_lt_succ ((Nat.log2_lt (Nat.ne_of_gt (Nat.pow_pos (by decide)))).mpr ?_)
  calc 10 ^ places ≤ 10 ^ (3 * count) := Nat.pow_le_pow_right (by decide) (by omega)
    _ ≤ 2 ^ (10 * count) := hpow
    _ < 2 ^ (10 * count + 1) := Nat.pow_lt_pow_succ (by decide)

theorem large_powerOfTen {places : Nat} (hpos : 0 < places) (hle : places ≤ maxPower) :
    Doubles.large (powerOfTen places) = true := by
  -- A power is exact, or it is far from the limits of the format, or else it is one of the last.
  by_cases hexact : places ≤ 22
  · have every : ∀ places < 22, Doubles.large (powerOfTen (places + 1)) = true := by decide
    have := every (places - 1) (by omega)
    rwa [Nat.sub_add_cancel hpos] at this
  by_cases hlast : 306 < places
  · obtain rfl | rfl : places = 307 ∨ places = 308 := by
      simp only [maxPower] at hle
      omega
    · decide +kernel
    · decide +kernel
  have hne : 10 ^ places ≠ 0 := Nat.ne_of_gt (Nat.pow_pos (by decide))
  have hleast : 1 ≤ (10 ^ places).log2 :=
    (Nat.le_log2 hne).mpr (Nat.le_trans (by decide) (Nat.pow_le_pow_right (by decide) hpos))
  have hmost := log2_ten_pow_le places
  have hlog : (1 <<< 53 * 10 ^ places).log2 = 53 + (10 ^ places).log2 :=
    Doubles.log2_shift_mul 53 hne
  exact Doubles.large_of_round (by omega) (by omega) (by omega)
    (toModel_powerOfTen (by omega) hle)

theorem isFinite_powerOfTen {places : Nat} (hle : places ≤ maxPower) :
    (powerOfTen places).isFinite = true := by
  rcases Nat.eq_zero_or_pos places with rfl | hpos
  · rfl
  · exact Doubles.isFinite_of_large (large_powerOfTen hpos hle)

theorem isFinite_shrink {x : Float} {places : Nat} (hx : x.isFinite = true) (hpos : 0 < places) :
    (shrink x places).isFinite = true := by
  induction x, places using shrink.induct with
  | case1 x places hle =>
    rw [shrink, if_pos hle]
    exact Doubles.isFinite_div hx (large_powerOfTen hpos hle)
  | case2 x places hle hzero =>
    rw [shrink, if_neg hle, if_pos hzero]
    exact hx
  | case3 x places hle hzero ih =>
    rw [shrink, if_neg hle, if_neg hzero]
    exact ih (Doubles.isFinite_div hx (large_powerOfTen (by decide) (Nat.le_refl _))) (by omega)

theorem isFinite_scale {significand : Nat} {exponent : Int} {x : Float}
    (h : scale significand exponent = some x) : x.isFinite = true := by
  simp only [scale] at h
  have hx : significand.toUInt64.toFloat.isFinite = true := Doubles.isFinite_toFloat
  split at h
  · cases h
    exact isFinite_shrink hx (by omega)
  split at h
  · split at h
    · cases h
    next hinf =>
      cases h
      exact Doubles.isFinite_mul hx (isFinite_powerOfTen (by omega)) (by simpa using hinf)
  split at h
  · cases h
    exact hx
  · cases h

theorem isFinite_signed {negative : Bool} {x : Float} (hx : x.isFinite = true) :
    (signed negative x).isFinite = true := by
  cases negative with
  | false => exact hx
  | true => exact Doubles.isFinite_neg hx

end Numeral

theorem Number.isFinite_int (n : Int) : (Number.int n).toFloat.isFinite = true := by
  cases n with
  | ofNat n => exact Doubles.isFinite_toFloat
  | negSucc n => exact Doubles.isFinite_neg Doubles.isFinite_toFloat

/-- Whatever is spelled, if it has a value the value is finite. -/
theorem Numeral.isFinite_of_value {numeral : Numeral} {n : Number} (h : numeral.value? = some n) :
    n.toFloat.isFinite = true := by
  unfold value? at h
  split at h
  split at h
  · split at h
    · cases h
      exact Number.isFinite_int _
    split at h
    · cases h
      exact Doubles.isFinite_neg Doubles.isFinite_toFloat
    · cases h
      exact Number.isFinite_int _
  · obtain ⟨x, hx, rfl⟩ := Option.map_eq_some_iff.mp h
    exact isFinite_signed (isFinite_scale hx)

end Conveyor
