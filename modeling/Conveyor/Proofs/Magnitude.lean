import Conveyor.Proofs.Finite

namespace Conveyor.Doubles
open Float.Model Float.Model.UnpackedFloat

/-- One or more, if need be without end. -/
inductive AtLeastOne : UnpackedFloat → Prop
  | infinity : AtLeastOne (.infinity .positive)
  | finite {m : Nat} {e : Int} (h : 0 < m) (length : m.log2 = 52) (low : -52 ≤ e) :
    AtLeastOne (.finite .positive m e h)

/-- Between zero and one. -/
inductive AtMostOne : UnpackedFloat → Prop
  | zero (s : Sign) : AtMostOne (.zero s)
  | below {m : Nat} {e : Int} (h : 0 < m) (high : e < -52) : AtMostOne (.finite .positive m e h)
  | one (h : 0 < 2 ^ 52) : AtMostOne (.finite .positive (2 ^ 52) (-52) h)

section Comparing

variable {bits : BitVec Format.binary64.numBits} {s : Sign} {m : Nat} {e : Int} {x : Float}

/-- Only the least exponent is left to numbers that are shorter than the others. -/
theorem log2_of_unpack {h : 0 < m} (hu : UnpackedFloat.unpack Format.binary64 bits = .finite s m e h)
    (he : -1074 < e) : m.log2 = 52 := by
  unfold UnpackedFloat.unpack at hu
  simp only at hu
  split at hu
  · split at hu <;> cases hu
  split at hu
  next hzero =>
    split at hu
    · cases hu
    · cases hu
      simp [hzero, Format.exponentBias] at he
  · cases hu
    exact log2_append _

theorem unpack_one : (1.0 : Float).toModel.unpack = .finite .positive (2 ^ 52) (-52) (by decide) := by
  rfl

/-- Of the exponents, and where they agree of the digits. -/
theorem isLE_then {m₁ m₂ : Nat} {e₁ e₂ : Int} :
    ((compare e₁ e₂).then (compare m₁ m₂)).isLE = true ↔ e₁ < e₂ ∨ e₁ = e₂ ∧ m₁ ≤ m₂ := by
  rw [Ordering.isLE_then_iff_or, Int.compare_eq_lt, Int.compare_eq_eq, Nat.isLE_compare]

theorem one_le_of_atLeastOne (h : AtLeastOne x.toModel.unpack) : 1.0 ≤ x := by
  show decide (((1.0 : Float).toModel.unpack.compare x.toModel.unpack).any (·.isLE) = true) = true
  rw [unpack_one]
  generalize x.toModel.unpack = f at h
  cases h with
  | infinity => rfl
  | @finite m e hm length low =>
    have hle : 2 ^ 52 ≤ m := length ▸ Nat.log2_self_le (Nat.ne_of_gt hm)
    refine decide_eq_true (isLE_then.mpr ?_)
    omega

theorem le_one_of_atMostOne (h : AtMostOne x.toModel.unpack) : x ≤ 1.0 := by
  show decide ((x.toModel.unpack.compare (1.0 : Float).toModel.unpack).any (·.isLE) = true) = true
  rw [unpack_one]
  generalize x.toModel.unpack = f at h
  cases h with
  | zero s => rfl
  | below hm high => exact decide_eq_true (isLE_then.mpr (.inl high))
  | one hm => rfl

theorem atLeastOne_one : AtLeastOne (1.0 : Float).toModel.unpack := by
  rw [unpack_one]
  exact .finite _ Nat.log2_two_pow (Int.le_refl _)

theorem atLeastOne_of_one_lt (h : 1.0 < x) : AtLeastOne x.toModel.unpack := by
  have h := of_decide_eq_true (show decide
    (((1.0 : Float).toModel.unpack.compare x.toModel.unpack == some .lt) = true) = true from h)
  rw [unpack_one] at h
  cases hu : x.toModel.unpack with
  | notANumber => rw [hu] at h; cases h
  | zero s => rw [hu] at h; cases h
  | infinity s =>
    rw [hu] at h
    cases s with
    | positive => exact .infinity
    | negative => cases h
  | finite s m e hm =>
    rw [hu] at h
    cases s with
    | negative => cases h
    | positive =>
      have hlt : (compare (-52) e).then (compare (2 ^ 52) m) = .lt := Option.some.inj (eq_of_beq h)
      have hle := isLE_then.mp (Ordering.isLE_of_eq_lt hlt)
      exact .finite hm (log2_of_unpack hu (by omega)) (by omega)

end Comparing

section Packing

variable {f : UnpackedFloat}

/-- What is one or more stays so when it is stored. -/
theorem atLeastOne_pack (h : AtLeastOne f) : AtLeastOne (Float.Model.pack f).unpack := by
  show AtLeastOne (UnpackedFloat.unpack Format.binary64 (UnpackedFloat.pack Format.binary64 f))
  cases h with
  | infinity =>
    show AtLeastOne (UnpackedFloat.unpack _ (packedInfinity Format.binary64 .positive))
    rw [unpack_packedInfinity]
    exact .infinity
  | @finite m e hm length low =>
    by_cases he : e ≤ 971
    · rw [unpack_pack .positive hm length (by omega) he]
      exact .finite hm length low
    · rw [pack_overflow (Int.not_le.mp he), unpack_packedInfinity]
      exact .infinity

/-- An exponent field below that of the number one. -/
theorem atMostOne_unpack (exponent : BitVec Format.binary64.exponentBits)
    (mantissa : BitVec Format.binary64.mantissaBitsWithoutImplicit) (h : exponent.toNat < 1023) :
    AtMostOne (UnpackedFloat.unpack Format.binary64
      (packComponents Format.binary64 .positive exponent mantissa)) := by
  have hfinite : exponent ≠ (-1#_) := by
    intro hlast
    simp [hlast] at h
  simp only [UnpackedFloat.unpack, unpackExponent_packComponents, unpackMantissa_packComponents,
    unpackSign_packComponents, Sign.ofBitVec_toBitVec, if_neg hfinite]
  split
  next hzero =>
    split
    · exact .zero _
    · refine .below _ ?_
      simp [hzero, Format.exponentBias]
  · refine .below _ ?_
    simp only [Format.exponentBias]
    omega

/-- What is one or less stays so when it is stored. -/
theorem atMostOne_pack (h : AtMostOne f) : AtMostOne (Float.Model.pack f).unpack := by
  show AtMostOne (UnpackedFloat.unpack Format.binary64 (UnpackedFloat.pack Format.binary64 f))
  cases h with
  | zero s =>
    show AtMostOne (UnpackedFloat.unpack Format.binary64 (packedZero Format.binary64 s))
    rw [unpack_packedZero]
    exact .zero s
  | one hm =>
    rw [unpack_pack .positive hm (Nat.log2_two_pow) (by decide) (by decide)]
    exact .one hm
  | @below m e hm high =>
    simp only [UnpackedFloat.pack]
    rw [if_neg (mt overflows_iff.mp (by omega))]
    split
    · refine atMostOne_unpack _ _ ?_
      rw [BitVec.toNat_ofNat]
      simp only [Format.exponentBias]
      omega
    · exact atMostOne_unpack _ _ (by decide)

end Packing

section Rounding

variable {m m₁ m₂ : Nat} {e e₁ e₂ : Int} {accuracy : Accuracy} {x y : Float}

theorem atLeastOne_round (hlog : 52 ≤ m.log2) (hlow : 0 ≤ m.log2 + e) :
    AtLeastOne (roundWithAccuracy Format.binary64 .positive m e accuracy) := by
  have hsmall : -1022 ≤ m.log2 + e := by omega
  obtain ⟨m', e', h, hround, hlog', hle, -⟩ := round_normal .positive accuracy hlog hsmall
  rw [hround]
  exact .finite h hlog' (by omega)

theorem log2_mul_le {n : Nat} (hm : m ≠ 0) (hn : n ≠ 0) : m.log2 + n.log2 ≤ (m * n).log2 := by
  rw [Nat.le_log2 (Nat.mul_ne_zero hm hn), Nat.pow_add]
  exact Nat.mul_le_mul (Nat.log2_self_le hm) (Nat.log2_self_le hn)

theorem atLeastOne_mul (hx : AtLeastOne x.toModel.unpack) (hy : AtLeastOne y.toModel.unpack) :
    AtLeastOne (x * y).toModel.unpack := by
  show AtLeastOne (Float.Model.pack
    (UnpackedFloat.mul Format.binary64 x.toModel.unpack y.toModel.unpack)).unpack
  refine atLeastOne_pack ?_
  generalize x.toModel.unpack = f at hx
  generalize y.toModel.unpack = g at hy
  cases hx with
  | infinity =>
    cases hy with
    | infinity | finite => exact .infinity
  | @finite m₁ e₁ h₁ length₁ low₁ =>
    cases hy with
    | infinity => exact .infinity
    | @finite m₂ e₂ h₂ length₂ low₂ =>
      have hlog := log2_mul_le (Nat.ne_of_gt h₁) (Nat.ne_of_gt h₂)
      exact atLeastOne_round (by omega) (by omega)

/-- The last shift of rounding: only a power of two is brought up to one. -/
theorem atMostOne_shift (hm : m ≤ 2 ^ 53) (he : e ≤ -53)
    (h : 0 < (shiftToTargetExponent Format.binary64 m e .exact).1.mantissa) :
    AtMostOne (.finite .positive (shiftToTargetExponent Format.binary64 m e .exact).1.mantissa
      (shiftToTargetExponent Format.binary64 m e .exact).2 h) := by
  have hexponent := shiftToTargetExponent_exponent m e .exact
  have hmantissa := shiftToTargetExponent_mantissa m e .exact
  generalize shiftToTargetExponent Format.binary64 m e .exact = shifted at *
  obtain ⟨⟨mantissa, _, _⟩, e'⟩ := shifted
  dsimp only at hexponent hmantissa h ⊢
  rcases Nat.lt_or_eq_of_le hm with hlt | rfl
  · have hlog : m.log2 < 53 := log2_lt_of_lt (by decide) hlt
    exact .below h (by omega)
  · rw [Nat.log2_two_pow] at hexponent hmantissa
    by_cases heq : e = -53
    · subst heq
      obtain rfl : e' = -52 := by omega
      obtain rfl : mantissa = 2 ^ 52 := hmantissa
      exact .one h
    · exact .below h (by omega)

/-- What is below one is not rounded to more than one. -/
theorem atMostOne_round (he : e ≤ -53) (hlog : m.log2 + e ≤ -1) :
    AtMostOne (roundWithAccuracy Format.binary64 .positive m e accuracy) := by
  have hmantissa := shiftToTargetExponent_mantissa_lt m e accuracy
  have hexponent := shiftToTargetExponent_exponent m e accuracy
  unfold roundWithAccuracy
  generalize shiftToTargetExponent Format.binary64 m e accuracy = shifted at *
  obtain ⟨first, e₁⟩ := shifted
  dsimp only at hmantissa hexponent ⊢
  split
  · exact .zero _
  · have hle : first.roundedMantissa ≤ 2 ^ 53 := Nat.le_trans roundedMantissa_le hmantissa
    exact atMostOne_shift hle (by omega) _

theorem div_shiftLeft_lt (h : m₁ < m₂) (count : Nat) : m₁ <<< count / m₂ < 2 ^ count := by
  rw [Nat.div_lt_iff_lt_mul (Nat.zero_lt_of_lt h), Nat.shiftLeft_eq, Nat.mul_comm]
  exact Nat.mul_lt_mul_of_pos_left h (Nat.two_pow_pos count)

theorem div_shiftLeft_lt_succ (h : m₁ ≤ m₂) (count : Nat) :
    m₁ <<< count / m₂ < 2 ^ (count + 1) := by
  refine Nat.lt_of_le_of_lt (Nat.div_le_of_le_mul ?_) (Nat.pow_lt_pow_succ (by decide) : 2 ^ count < _)
  rw [Nat.shiftLeft_eq]
  exact Nat.mul_le_mul_right _ h

/-- The reciprocal of one or more. -/
theorem atMostOne_one_div (hx : AtLeastOne x.toModel.unpack) :
    AtMostOne (1.0 / x).toModel.unpack := by
  show AtMostOne (Float.Model.pack
    (UnpackedFloat.div Format.binary64 (1.0 : Float).toModel.unpack x.toModel.unpack)).unpack
  refine atMostOne_pack ?_
  rw [unpack_one]
  generalize x.toModel.unpack = f at hx
  cases hx with
  | infinity => exact .zero _
  | @finite m e h length low =>
    by_cases hone : m = 2 ^ 52 ∧ e = -52
    · obtain ⟨rfl, rfl⟩ := hone
      exact .one _
    have hm : 2 ^ 52 ≤ m := length ▸ Nat.log2_self_le (Nat.ne_of_gt h)
    obtain ⟨e', count, hcore, hshift, htarget⟩ := divCore_eq (2 ^ 52) (-52) m e
    simp only [UnpackedFloat.div, hcore]
    simp only [totalExponent, length, Nat.log2_two_pow] at htarget
    refine atMostOne_round (by omega) ?_
    -- A greater exponent is enough, and of two with the same exponent the digits are compared.
    rcases Int.lt_or_eq_of_le low with hlt | rfl
    · have hquotient := log2_lt_of_lt (Nat.succ_pos count) (div_shiftLeft_lt_succ hm count)
      omega
    · have hpos : 0 < count := by omega
      have hquotient := log2_lt_of_lt hpos (div_shiftLeft_lt (by omega : 2 ^ 52 < m) count)
      omega

end Rounding

end Conveyor.Doubles
