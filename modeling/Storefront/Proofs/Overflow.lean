import Storefront.Proofs.Magnitude

/-! # Doubles that are infinite

A whole number with more bits than a double has is rounded to its leading bits, and it is too large
if the exponent that this leaves is above the largest.  Rounding keeps the order of numbers, carries
included, so there is one least number that is too large: what is below a number that a double can
hold is not too large either.

* `weight_shiftRight_mono`, `roundedMantissa_mono` : rounding keeps the order
* `isInf_round` : when a rounded number is packed as infinite
* `ofInt?_ne_none_of_le` : what is below a number that is not too large
* `truncate_eq_infinite_iff`, `truncate_of_beq_zero` : cutting off what is infinite or zero -/

namespace Storefront.Decimal

open Float.Model Float.Model.UnpackedFloat

/-! ### Rounding keeps the order -/

/-- A mantissa and the two bits by which it is rounded, as one number. -/
def weight (em : ExtendedMantissa) : Nat :=
  4 * em.mantissa + 2 * em.roundBit.toNat + em.stickyBit.toNat

/-- A shift by one halves the weight's number, and what is lost is kept as a sign that something was
lost. -/
theorem weight_shiftRightOne (em : ExtendedMantissa) :
    weight em.shiftRightOne = 2 * (weight em / 4) + min 1 (weight em % 4) := by
  obtain ⟨m, r, s⟩ := em
  -- The bit that is shifted out is the last of the mantissa.
  have last : (m % 2 != 0).toNat = m % 2 := by
    rcases Nat.mod_two_eq_zero_or_one m with h | h <;> rw [h] <;> rfl
  cases r <;> cases s <;> simp only [weight, ExtendedMantissa.shiftRightOne, last, Bool.or_self,
    Bool.or_true, Bool.or_false, Bool.toNat_false, Bool.toNat_true] <;> omega

/-- Shifting keeps the order of the weights. -/
theorem weight_shiftRight_mono {em em' : ExtendedMantissa} (h : weight em ≤ weight em') (n : Nat) :
    weight (em >>> n) ≤ weight (em' >>> n) := by
  induction n with
  | zero => exact h
  | succ n ih =>
    show weight (em >>> n).shiftRightOne ≤ weight (em' >>> n).shiftRightOne
    rw [weight_shiftRightOne, weight_shiftRightOne]
    omega

/-- Rounding to the nearest keeps the order. -/
theorem roundedMantissa_mono {em em' : ExtendedMantissa} (h : weight em ≤ weight em') :
    em.roundedMantissa ≤ em'.roundedMantissa := by
  obtain ⟨m, r, s⟩ := em
  obtain ⟨m', r', s'⟩ := em'
  cases r <;> cases s <;> cases r' <;> cases s' <;>
    simp [weight, ExtendedMantissa.roundedMantissa, ExtendedMantissa.accuracy,
      Accuracy.roundToNearestEven] at h ⊢ <;> omega

/-- Rounding never goes below the mantissa. -/
theorem le_roundedMantissa (em : ExtendedMantissa) : em.mantissa ≤ em.roundedMantissa := by
  obtain ⟨m, r, s⟩ := em
  cases r <;> cases s <;>
    simp [ExtendedMantissa.roundedMantissa, ExtendedMantissa.accuracy, Accuracy.roundToNearestEven]

/-! ### When a number is packed as infinite -/

/-- Only bits with the largest exponent are those of an infinite double. -/
theorem isInf_unpack_of_ne {b : BitVec 64} (h : @unpackExponent .binary64 b ≠ -1#11) :
    (UnpackedFloat.unpack .binary64 b).isInf = false := by
  unfold UnpackedFloat.unpack
  -- With a lower exponent the bits are zero, subnormal or normal.
  dsimp only
  rw [if_neg h]
  by_cases low : @unpackExponent .binary64 b = 0#11
  · rw [if_pos low]
    by_cases none : @unpackMantissa .binary64 b = 0#52
    · rw [dif_pos none]
      rfl
    · rw [dif_neg none]
      rfl
  · rw [if_neg low]
    rfl

/-- Packed with a biased exponent below the top one, a float is finite. -/
theorem isInf_unpack_packComponents (s : Sign) {biased : Nat} (hb : biased < 2047)
    (mantissa : BitVec 52) : (UnpackedFloat.unpack .binary64
      (packComponents .binary64 s (BitVec.ofNat 11 biased) mantissa)).isInf = false := by
  refine isInf_unpack_of_ne ?_
  rw [unpackExponent_packComponents]
  intro h
  have := congrArg BitVec.toNat h
  simp at this
  omega

/-- A number is packed as infinite if its exponent is above the largest. -/
theorem isInf_unpack_pack (s : Sign) {m : Nat} (e : Int) (hm : 0 < m) :
    (Float.Model.pack (.finite s m e hm)).unpack.isInf = decide (972 ≤ e) := by
  show (UnpackedFloat.unpack .binary64 (UnpackedFloat.pack .binary64 _)).isInf = _
  -- The biased exponent that is compared with the top one.
  have bias : e + (Format.binary64.exponentBias : Nat) +
      (Format.binary64.mantissaBitsWithoutImplicit : Nat) = e + 1075 := by
    rw [add_assoc]
    rfl
  have top : 2 ^ Format.binary64.exponentBits = 2048 := rfl
  unfold UnpackedFloat.pack
  dsimp only
  rw [bias, top]
  -- an exponent at the top or above is packed as infinity, any other below it
  split
  · rw [decide_eq_true (by omega)]
    cases s <;> rfl
  · rw [decide_eq_false (by omega)]
    split
    · exact isInf_unpack_packComponents s (by omega) _
    · exact isInf_unpack_packComponents s (by decide : 0 < 2047) _

/-! ### Whole numbers -/

/-- What is left of a mantissa of many bits when it is rounded to those of a double. -/
def leading (m : Nat) : Nat :=
  (ExtendedMantissa.ofMantissaAndAccuracy m .exact >>> (m.log2 - 52)).roundedMantissa

variable {m m' : Nat}

/-- A mantissa with twice the bits of a double, and then some, loses all but the leading ones. -/
theorem shiftToTargetExponent_large (h : 106 ≤ m.log2) :
    shiftToTargetExponent .binary64 m (-53) .exact =
      (ExtendedMantissa.ofMantissaAndAccuracy m .exact >>> (m.log2 - 52),
        (m.log2 : Int) - 105) := by
  have target : Format.targetExponent .binary64 (totalExponent m (-53)) = (m.log2 : Int) - 105 := by
    show max ((m.log2 : Int) + 1 + (-53) - 53) (-1074) = _
    omega
  have amount : ((m.log2 : Int) - 105 - (-53)).toNat = m.log2 - 52 := by omega
  have moved : (-53 : Int) + (m.log2 - 52 : Nat) = (m.log2 : Int) - 105 := by omega
  rw [shiftToTargetExponent, target, shiftToExponent, amount, moved]

/-- Shifted to 53 bits and rounded, a number has its leading bits between these two bounds. -/
theorem leading_bounds (h : 52 ≤ m.log2) : 2 ^ 52 ≤ leading m ∧ leading m ≤ 2 ^ 53 := by
  have pos : m ≠ 0 := by
    rintro rfl
    exact absurd h (by decide)
  -- Shifting out the low bits is dividing by their power.
  have mantissa : (ExtendedMantissa.ofMantissaAndAccuracy m .exact >>> (m.log2 - 52)).mantissa =
      m / 2 ^ (m.log2 - 52) := by
    rw [mantissa_shiftRight, mantissa_ofMantissaAndAccuracy]
  have low : 2 ^ 52 ≤ m / 2 ^ (m.log2 - 52) := by
    rw [Nat.le_div_iff_mul_le (Nat.two_pow_pos _), ← Nat.pow_add, Nat.add_sub_cancel' h]
    exact Nat.log2_self_le pos
  have high : m / 2 ^ (m.log2 - 52) < 2 ^ 53 := by
    rw [Nat.div_lt_iff_lt_mul (Nat.two_pow_pos _), ← Nat.pow_add,
      show 53 + (m.log2 - 52) = m.log2 + 1 by omega]
    exact Nat.lt_log2_self
  rw [← mantissa] at low high
  exact ⟨low.trans (le_roundedMantissa _), (roundedMantissa_le _).trans high⟩

/-- What is left by rounding has the bits of a double, or one more if the last bit was
carried over. -/
theorem shiftToTargetExponent_rounded {r : Nat} {e : Int} (low : 2 ^ 52 ≤ r) (high : r ≤ 2 ^ 53)
    (he : 0 ≤ e) : 0 < (shiftToTargetExponent .binary64 r e .exact).1.mantissa ∧
      (shiftToTargetExponent .binary64 r e .exact).2 = e + if r = 2 ^ 53 then 1 else 0 := by
  have pos : r ≠ 0 := by omega
  -- Only rounding up to the power itself adds a bit.
  have log : r.log2 = if r = 2 ^ 53 then 53 else 52 := by
    split
    · rename_i top
      rw [top, Nat.log2_two_pow]
    · exact (Nat.log2_eq_iff pos).2 ⟨low, by omega⟩
  -- The exponent it is packed under is the higher by that bit.
  have target : Format.targetExponent .binary64 (totalExponent r e) =
      e + if r = 2 ^ 53 then 1 else 0 := by
    show max ((r.log2 : Int) + 1 + e - 53) (-1074) = _
    rw [log]
    split <;> omega
  rw [shiftToTargetExponent, target, shiftToExponent]
  constructor
  · dsimp only
    rw [mantissa_shiftRight, mantissa_ofMantissaAndAccuracy]
    refine Nat.div_pos (Nat.le_trans ?_ low) (Nat.two_pow_pos _)
    exact Nat.pow_le_pow_right (by decide) (by split <;> omega)
  · dsimp only
    split <;> omega

/-- A rounded number is packed as infinite if it has too many bits, carry included. -/
theorem isInf_round (s : Sign) (h : 106 ≤ m.log2) :
    (Float.Model.pack (roundWithAccuracy .binary64 s m (-53) .exact)).unpack.isInf =
      decide (1077 ≤ m.log2 + if leading m = 2 ^ 53 then 1 else 0) := by
  obtain ⟨low, high⟩ := leading_bounds (m := m) (by omega)
  obtain ⟨pos, exponent⟩ :=
    shiftToTargetExponent_rounded (e := (m.log2 : Int) - 105) low high (by omega)
  rw [roundWithAccuracy, shiftToTargetExponent_large h]
  dsimp only
  rw [← leading, dif_neg pos.ne', isInf_unpack_pack, exponent]
  congr 1
  rw [eq_iff_iff]
  split <;> omega

/-- The leading bits of a number are no less than those of a smaller one of the same length. -/
theorem leading_mono (h : m ≤ m') (hlog : m.log2 = m'.log2) : leading m ≤ leading m' := by
  rw [leading, leading, hlog]
  apply roundedMantissa_mono
  apply weight_shiftRight_mono
  simp only [weight, ExtendedMantissa.ofMantissaAndAccuracy, Bool.toNat_false]
  omega

/-- When a number is packed as infinity, so is every larger one. -/
theorem isInf_round_mono (s : Sign) (h : m ≤ m') (hm : 106 ≤ m.log2)
    (hinf : (Float.Model.pack (roundWithAccuracy .binary64 s m (-53) .exact)).unpack.isInf = true) :
    (Float.Model.pack (roundWithAccuracy .binary64 s m' (-53) .exact)).unpack.isInf = true := by
  have pos : m ≠ 0 := by
    rintro rfl
    exact absurd hm (by decide)
  have log : m.log2 ≤ m'.log2 :=
    (Nat.le_log2 (by omega)).2 ((Nat.log2_self_le pos).trans h)
  rw [isInf_round s hm, decide_eq_true_iff] at hinf
  rw [isInf_round s (hm.trans log), decide_eq_true_iff]
  -- of the same length: the leading bits grow with the number
  by_cases same : m.log2 = m'.log2
  · have := leading_mono h same
    have := leading_bounds (m := m') (by omega)
    split at hinf <;> split <;> omega
  · -- of a greater length: the exponent alone is larger
    split at hinf <;> split <;> omega

/-- A whole number that has more bits than a double is rounded to these. -/
theorem toModel_ofInt {n : Nat} (h : 2 ^ 53 ≤ n) : (Float.ofInt n).toModel =
    Float.Model.pack (roundWithAccuracy .binary64 .positive (n * 2 ^ 53) (-53) .exact) := by
  have wide : ¬ (n < 2 ^ 53 ∧ 0 ≤ 22) := by omega
  have pos : n ≠ 0 := by omega
  have small : ¬ (0 : Int) > 2 ^ Format.binary64.exponentBits := by decide
  have large : ¬ (0 : Int) < -(2 ^ Format.binary64.exponentBits + (n.log2 : Int)) := by
    show ¬ (0 : Int) < -(2048 + (n.log2 : Int))
    omega
  show (Float.ofScientific n false 0).toModel = _
  rw [Float.ofScientific, dif_neg wide]
  show Float.Model.pack (UnpackedFloat.ofScientific .binary64 n 0) = _
  rw [UnpackedFloat.ofScientific, dif_neg pos, if_neg small, if_neg large, if_pos (le_refl 0),
    ← Nat.shiftLeft_eq]
  -- The power of ten that the number is multiplied by is one.
  have product : ∀ h₁ h₂, UnpackedFloat.mul .binary64 (.finite .positive (n <<< 53) (-53) h₁)
      (.finite .positive (10 ^ (0 : Int).toNat) 0 h₂) =
        roundWithAccuracy .binary64 .positive (n <<< 53) (-53) .exact := by
    intro h₁ h₂
    show roundWithAccuracy .binary64 .positive (n <<< 53 * 1) (-53 + 0) .exact = _
    rw [Nat.mul_one, add_zero]
  exact congrArg Float.Model.pack (product _ _)

/-- A whole number with no more bits than a double has is not too large. -/
theorem ofInt?_ne_none {n : Nat} (h : n < 2 ^ 53) : ofInt? n ≠ none := by
  have finite := (under_ofInt h).isFinite
  have : (Float.ofInt n).isInf = false := by
    show (Float.ofInt n).toModel.unpack.isInf = false
    cases hu : (Float.ofInt n).toModel.unpack with
    | infinity s =>
      rw [hu] at finite
      cases finite
    | _ => rfl
  simp [ofInt?, this]

/-- The integers that overflow are those from some bound on. -/
theorem isInf_ofInt_mono {n n' : Nat} (hn : 2 ^ 53 ≤ n) (h : n ≤ n')
    (hinf : (Float.ofInt n).isInf = true) : (Float.ofInt n').isInf = true := by
  have many : 106 ≤ (n * 2 ^ 53).log2 := by
    rw [Nat.le_log2 (Nat.mul_ne_zero (by omega) (Nat.two_pow_pos 53).ne')]
    exact (Nat.pow_add 2 53 53).le.trans (Nat.mul_le_mul_right (2 ^ 53) hn)
  show (Float.ofInt n').toModel.unpack.isInf = true
  have first : (Float.ofInt n).toModel.unpack.isInf = true := hinf
  rw [toModel_ofInt hn] at first
  rw [toModel_ofInt (hn.trans h)]
  exact isInf_round_mono .positive (Nat.mul_le_mul_right (2 ^ 53) h) many first

/-- What is no more than a whole number that a double can hold is not too large for one either. -/
theorem ofInt?_ne_none_of_le {a b : Int} (h0 : 0 ≤ a) (h : a ≤ b) (hb : ofInt? b ≠ none) :
    ofInt? a ≠ none := by
  obtain ⟨n, rfl⟩ := Int.eq_ofNat_of_zero_le h0
  obtain ⟨n', rfl⟩ := Int.eq_ofNat_of_zero_le (h0.trans h)
  by_cases small : n < 2 ^ 53
  · exact ofInt?_ne_none small
  · intro ha
    have inf : (Float.ofInt n).isInf = true := by
      by_contra hfin
      simp [ofInt?, hfin] at ha
    have inf' := isInf_ofInt_mono (Nat.not_lt.1 small) (Int.ofNat_le.1 h) inf
    exact hb (by simp [ofInt?, inf'])

/-! ### Infinite doubles and zeros, by their bits -/

/-- The exponent of a float, as the code reads it off the bits. -/
theorem toNat_unpackExponent (b : BitVec 64) :
    (@unpackExponent .binary64 b).toNat = b.toNat / twoTo 52 % twoTo 11 := by
  rw [unpackExponent, BitVec.toNat_cast, BitVec.extractLsb_toNat, Nat.shiftRight_eq_div_pow]
  rfl

/-- Its mantissa, likewise. -/
theorem toNat_unpackMantissa (b : BitVec 64) :
    (@unpackMantissa .binary64 b).toNat = b.toNat % twoTo 52 := by
  rw [unpackMantissa, BitVec.toNat_cast, BitVec.extractLsb_toNat, Nat.shiftRight_zero]
  rfl

/-- The bits of an infinite double: the largest exponent, and no fraction. -/
theorem isInf_unpack (b : BitVec 64) : (UnpackedFloat.unpack .binary64 b).isInf = true ↔
    b.toNat / twoTo 52 % twoTo 11 = 2047 ∧ b.toNat % twoTo 52 = 0 := by
  rw [← toNat_unpackExponent, ← toNat_unpackMantissa]
  -- Only the top exponent stands for infinity, and only with an empty mantissa.
  by_cases top : (@unpackExponent .binary64 b).toNat = 2047
  · unfold UnpackedFloat.unpack
    dsimp only
    rw [if_pos (BitVec.eq_of_toNat_eq top)]
    by_cases none : (@unpackMantissa .binary64 b).toNat = 0
    · rw [if_pos (BitVec.eq_of_toNat_eq none)]
      exact iff_of_true rfl ⟨top, none⟩
    · rw [if_neg fun h => none (by rw [h]; rfl)]
      exact iff_of_false Bool.false_ne_true fun h => none h.2
  · refine iff_of_false ?_ fun h => top h.1
    rw [isInf_unpack_of_ne fun h => top (by rw [h]; rfl)]
    exact Bool.false_ne_true

/-- A double is infinite exactly if cutting it off after the point says so. -/
theorem truncate_eq_infinite_iff (x : Float) : truncate x = .infinite ↔ x.isInf = true := by
  -- Infinity in the bits is infinity of the float.
  have bits : x.isInf = true ↔ x.toBits.toNat / twoTo 52 % twoTo 11 = 2047 ∧
      x.toBits.toNat % twoTo 52 = 0 := isInf_unpack x.toModel.toBits.toBitVec
  rw [bits, truncate, Exact.ofFloat]
  dsimp only
  -- the top exponent, the zero one and the others are the branches of the code
  by_cases top : x.toBits.toNat / twoTo 52 % twoTo 11 = 2047
  · by_cases none : x.toBits.toNat % twoTo 52 = 0 <;> simp [top, none]
  · rw [if_neg top]
    refine iff_of_false ?_ fun h => top h.1
    by_cases low : x.toBits.toNat / twoTo 52 % twoTo 11 = 0
    · rw [if_pos low]
      exact Truncated.noConfusion
    · rw [if_neg low]
      exact Truncated.noConfusion

/-- The bits of a zero: the least exponent, and no fraction. -/
theorem unpack_eq_zero {b : BitVec 64} {s : Sign} (h : UnpackedFloat.unpack .binary64 b = .zero s) :
    b.toNat / twoTo 52 % twoTo 11 = 0 ∧ b.toNat % twoTo 52 = 0 := by
  rw [← toNat_unpackExponent, ← toNat_unpackMantissa]
  -- Every class but zero has another form, so the exponent and the mantissa are both zero.
  unfold UnpackedFloat.unpack at h
  dsimp only at h
  by_cases top : @unpackExponent .binary64 b = -1#11
  · rw [if_pos top] at h
    by_cases none : @unpackMantissa .binary64 b = 0#52
    · rw [if_pos none] at h
      cases h
    · rw [if_neg none] at h
      cases h
  · rw [if_neg top] at h
    by_cases low : @unpackExponent .binary64 b = 0#11
    · rw [if_pos low] at h
      by_cases none : @unpackMantissa .binary64 b = 0#52
      · exact ⟨by rw [low]; rfl, by rw [none]; rfl⟩
      · rw [dif_neg none] at h
        cases h
    · rw [if_neg low] at h
      cases h

/-- What is equal to zero is a zero, of either sign. -/
theorem unpack_of_beq_zero {x : Float} (h : (x == 0) = true) :
    ∃ s, x.toModel.unpack = .zero s := by
  have zero : (0 : Float).toModel.unpack = .zero .positive := rfl
  have same : (x.toModel.unpack.compare (0 : Float).toModel.unpack == some .eq) = true := h
  rw [zero] at same
  cases hu : x.toModel.unpack with
  | zero s => exact ⟨s, rfl⟩
  | infinity s => rw [hu] at same; cases s <;> cases same
  | finite s m e hm => rw [hu] at same; cases s <;> cases same
  | notANumber => rw [hu] at same; cases same

/-- What equals zero is read as zero, whatever its sign. -/
theorem truncate_of_beq_zero {x : Float} (h : (x == 0) = true) : truncate x = .whole 0 := by
  obtain ⟨s, hs⟩ := unpack_of_beq_zero h
  obtain ⟨low, none⟩ := unpack_eq_zero hs
  have low : x.toBits.toNat / twoTo 52 % twoTo 11 = 0 := low
  have none : x.toBits.toNat % twoTo 52 = 0 := none
  simp [truncate, Exact.ofFloat, low, none]

/-- An infinite double is not zero. -/
theorem beq_zero_of_isInf {x : Float} (h : x.isInf = true) : (x == 0) = false := by
  by_contra equal
  have cut := (truncate_eq_infinite_iff x).2 h
  rw [truncate_of_beq_zero (by simpa using equal)] at cut
  cases cut

end Storefront.Decimal
