import Mathlib.Data.Int.Order.Basic
import Mathlib.Tactic.NormNum
import Storefront.Decimal.Exact

/-! # Doubles that stay finite

A double is kept as a packed word; each operation takes it apart, works on mantissa and exponent,
rounds, and packs the outcome again.  `Under t` says of what is unpacked that it is below `2 ^ t` in
magnitude, and each lemma says by how much one operation raises `t`.  As long as `t` stays small
enough for packing, the outcome is finite.

* `under_mul`, `under_div`, `under_toFloat`, `under_ofInt` : the operations
* `under_unpack_pack` : packing loses nothing
* `isFinite_cents` : an amount of cents is a finite number of whole units -/

namespace Storefront.Decimal

open Float.Model Float.Model.UnpackedFloat

/-- A mantissa and an exponent that stand for less than a power of two. -/
def Fits (m : Nat) (e t : Int) : Prop := ∃ k : Nat, m < 2 ^ k ∧ e + k ≤ t

/-- A number that is finite and below a power of two in magnitude. -/
def Under (t : Int) : UnpackedFloat → Prop
  | .zero _ => True
  | .finite _ m e _ => Fits m e t
  | .infinity _ | .notANumber => False

/-- A looser bound holds too. -/
theorem Fits.mono {m : Nat} {e t t' : Int} (h : Fits m e t) (ht : t ≤ t') : Fits m e t' :=
  h.imp fun _ hk => ⟨hk.1, hk.2.trans ht⟩

/-- And so it does of an unpacked float. -/
theorem Under.mono {t t' : Int} {u : UnpackedFloat} (h : Under t u) (ht : t ≤ t') :
    Under t' u := by
  cases u with
  | finite s m e hm => exact Fits.mono h ht
  | zero s => trivial
  | infinity s => exact h
  | notANumber => exact h

/-- What is below a bound is neither infinite nor no number. -/
theorem Under.isFinite {t : Int} {u : UnpackedFloat} (h : Under t u) : u.isFinite = true := by
  cases u with
  | finite s m e hm => rfl
  | zero s => rfl
  | infinity s => exact h.elim
  | notANumber => exact h.elim

/-! ### Rounding -/

/-- Shifting divides the mantissa by the power of two. -/
theorem mantissa_shiftRight (em : ExtendedMantissa) (n : Nat) :
    (em >>> n).mantissa = em.mantissa / 2 ^ n := by
  induction n with
  | zero => exact (Nat.div_one _).symm
  | succ n ih =>
    show (em >>> n).mantissa / 2 = _
    rw [ih, Nat.div_div_eq_div_mul, Nat.pow_succ]

/-- The mantissa of an extended one is the one that it was made of. -/
theorem mantissa_ofMantissaAndAccuracy (m : Nat) (a : Accuracy) :
    (ExtendedMantissa.ofMantissaAndAccuracy m a).mantissa = m := by
  rcases a with _ | o
  · rfl
  · cases o <;> rfl

/-- Rounding adds at most one to a mantissa. -/
theorem roundedMantissa_le (em : ExtendedMantissa) : em.roundedMantissa ≤ em.mantissa + 1 := by
  unfold ExtendedMantissa.roundedMantissa
  rcases em.accuracy with _ | o
  · exact Nat.le_succ _
  · cases o
    · exact Nat.le_succ _
    · show em.mantissa + em.mantissa % 2 ≤ _
      omega
    · exact Nat.le_refl _

/-- Moving to the exponent at which a double is kept leaves a number below its bound, which must not
be among the very least. -/
theorem fits_shiftToTargetExponent {m : Nat} {e t : Int} (h : Fits m e t) (ht : 0 ≤ t)
    (a : Accuracy) :
    Fits (shiftToTargetExponent .binary64 m e a).1.mantissa
      (shiftToTargetExponent .binary64 m e a).2 t := by
  obtain ⟨k, hm, hk⟩ := h
  have log : m.log2 < k ∨ m = 0 := by
    by_cases h0 : m = 0
    · exact .inr h0
    · exact .inl ((Nat.log2_lt h0).2 hm)
  rw [shiftToTargetExponent, shiftToExponent]
  have target : Format.targetExponent .binary64 (totalExponent m e) =
      max ((m.log2 : Int) + 1 + e - 53) (-1074) := rfl
  rw [target]
  set n := (max ((m.log2 : Int) + 1 + e - 53) (-1074) - e).toNat with hn
  rw [mantissa_shiftRight, mantissa_ofMantissaAndAccuracy]
  -- Nothing is left of the mantissa if it is moved by more than its bits.
  refine ⟨k - n, ?_, ?_⟩
  · rw [Nat.div_lt_iff_lt_mul (Nat.two_pow_pos n), ← Nat.pow_add]
    exact Nat.lt_of_lt_of_le hm (Nat.pow_le_pow_right (by decide) (by omega))
  · have none : m = 0 → m.log2 = 0 := by rintro rfl; rfl
    omega

/-- Rounding raises a bound by no more than one. -/
theorem under_roundWithAccuracy {m : Nat} {e t : Int} (h : Fits m e t) (ht : 0 ≤ t) (s : Sign)
    (a : Accuracy) : Under (t + 1) (roundWithAccuracy .binary64 s m e a) := by
  have first := fits_shiftToTargetExponent h ht a
  rw [roundWithAccuracy]
  -- What is shifted first fits; rounding may then carry into one bit more.
  generalize shiftToTargetExponent .binary64 m e a = moved at first
  obtain ⟨em, e₁⟩ := moved
  dsimp only at first
  have rounded : Fits em.roundedMantissa e₁ (t + 1) := by
    obtain ⟨k, hm, hk⟩ := first
    have := roundedMantissa_le em
    refine ⟨k + 1, ?_, ?_⟩
    · rw [Nat.pow_succ]
      omega
    · push_cast
      omega
  -- The second shift is exact, after which the float is zero or still fits.
  have last := fits_shiftToTargetExponent rounded (by omega) .exact
  dsimp only at last ⊢
  by_cases none :
      (shiftToTargetExponent .binary64 em.roundedMantissa e₁ .exact).1.mantissa = 0
  · rw [dif_pos none]
    trivial
  · rw [dif_neg none]
    exact last

/-! ### Packing -/

/-- Components whose exponent is small are unpacked to a number below a bound. -/
theorem under_unpack_packComponents {t : Int} (ht : 0 ≤ t) (s : Sign) (biased : Nat)
    (hb : biased < 2047) (hn : 1 ≤ biased → (biased : Int) - 1022 ≤ t) (mantissa : BitVec 52) :
    Under t (UnpackedFloat.unpack .binary64
      (packComponents .binary64 s (BitVec.ofNat 11 biased) mantissa)) := by
  have hexp : (BitVec.ofNat 11 biased).toNat = biased := by
    rw [BitVec.toNat_ofNat]
    omega
  have finite : BitVec.ofNat 11 biased ≠ -1#11 := by
    intro h
    have := congrArg BitVec.toNat h
    rw [hexp] at this
    simp at this
    omega
  have bias : ((Format.binary64.exponentBias : Nat) : Int) +
      (Format.binary64.mantissaBitsWithoutImplicit : Nat) = 1075 := rfl
  unfold UnpackedFloat.unpack
  dsimp only
  rw [unpackExponent_packComponents, if_neg finite]
  generalize packComponents .binary64 s (BitVec.ofNat 11 biased) mantissa = packed
  by_cases hzero : BitVec.ofNat 11 biased = 0#11
  · rw [if_pos hzero]
    by_cases none : unpackMantissa packed = 0#52
    · rw [dif_pos none]
      trivial
    · -- A number near zero has the least exponent and no more bits than are kept.
      rw [dif_neg none]
      refine ⟨52, BitVec.isLt _, ?_⟩
      rw [hzero, bias]
      norm_num
      omega
  · rw [if_neg hzero]
    have pos : 1 ≤ biased := by
      rcases Nat.eq_zero_or_pos biased with rfl | h
      · exact absurd rfl hzero
      · exact h
    refine ⟨53, BitVec.isLt (1#1 ++ unpackMantissa packed), ?_⟩
    have := hn pos
    rw [hexp, bias]
    norm_num
    omega

/-- A number below a bound that packing can hold stays below it. -/
theorem under_unpack_pack {t : Int} {u : UnpackedFloat} (h : Under t u) (h0 : 0 ≤ t)
    (ht : t ≤ 971) : Under t (Float.Model.pack u).unpack := by
  show Under t (UnpackedFloat.unpack .binary64 (UnpackedFloat.pack .binary64 u))
  cases u with
  | infinity s => exact h.elim
  | notANumber => exact h.elim
  | zero s =>
    exact under_unpack_packComponents h0 s 0 (by decide) (by omega) 0
  | finite s m e hm =>
    obtain ⟨k, hk, hek⟩ := h
    have bias : e + (Format.binary64.exponentBias : Nat) +
        (Format.binary64.mantissaBitsWithoutImplicit : Nat) = e + 1075 := by
      rw [add_assoc]
      rfl
    have bits : Format.binary64.mantissaBits = 53 := rfl
    have top : 2 ^ Format.binary64.exponentBits = 2048 := rfl
    have log : m.log2 < k := (Nat.log2_lt (by omega)).2 hk
    unfold UnpackedFloat.pack
    dsimp only
    rw [bias, bits, top]
    rw [if_neg (by omega)]
    split
    · -- All bits are there, so that the bound is one for the exponent.
      exact under_unpack_packComponents h0 s _ (by omega) (by omega) _
    · exact under_unpack_packComponents h0 s 0 (by decide) (by omega) _

/-! ### Operations -/

/-- A product is below the product of the bounds, but for rounding. -/
theorem under_mul {t t' : Int} {u v : UnpackedFloat} (hu : Under t u) (hv : Under t' v)
    (h : 0 ≤ t + t') : Under (t + t' + 1) (UnpackedFloat.mul .binary64 u v) := by
  cases u <;> cases v <;> first | exact hu.elim | exact hv.elim | trivial | skip
  obtain ⟨k, hm, hk⟩ := hu
  obtain ⟨k', hm', hk'⟩ := hv
  refine under_roundWithAccuracy ⟨k + k', ?_, by push_cast; omega⟩ h _ _
  rw [Nat.pow_add]
  exact Nat.mul_lt_mul_of_lt_of_le hm hm'.le (Nat.two_pow_pos _)

/-- A quotient is below the bound of the dividend, moved by the exponent of the divisor. -/
theorem under_div {t : Int} {u : UnpackedFloat} (hu : Under t u) {s : Sign} {m : Nat} {e : Int}
    (hm : 0 < m) (h : 0 ≤ t - e) :
    Under (t - e + 1) (UnpackedFloat.div .binary64 u (.finite s m e hm)) := by
  cases u with
  | infinity s => exact hu.elim
  | notANumber => exact hu.elim
  | zero s => trivial
  | finite s₁ m₁ e₁ hm₁ =>
    obtain ⟨k, hk, hek⟩ := hu
    unfold UnpackedFloat.div divCore
    dsimp only
    generalize Format.targetExponent .binary64 _ = wanted
    refine under_roundWithAccuracy ?_ h _ _
    -- The dividend is moved up to the exponent of the quotient before it is divided.
    refine ⟨k + (e₁ - e - min (e₁ - e) wanted).toNat, ?_, by omega⟩
    rw [Nat.shiftLeft_eq, Nat.pow_add]
    exact Nat.lt_of_le_of_lt (Nat.div_le_self _ _)
      (Nat.mul_lt_mul_of_pos_right hk (Nat.two_pow_pos _))

/-- A whole number as a double. -/
theorem under_toFloat {n k : Nat} (h : n < 2 ^ k) (hk : k < 64) :
    Under (k + 1) n.toUInt64.toFloat.toModel.unpack := by
  refine under_unpack_pack ?_ (by omega) (by omega)
  -- A number below 2 ^ 64 is itself as a machine integer.
  have value : n.toUInt64.toNat = n := by
    rw [Nat.toUInt64, UInt64.toNat_ofNat']
    exact Nat.mod_eq_of_lt (h.trans (Nat.pow_lt_pow_right (by decide) hk))
  rw [UnpackedFloat.ofUInt64, value, UnpackedFloat.ofNat, UnpackedFloat.ofInt,
    UnpackedFloat.normalize]
  -- It is not negative; zero is under any bound, and another number is rounded.
  split
  · rename_i hneg
    rw [Int.compare_eq_lt] at hneg
    omega
  · trivial
  · rw [UnpackedFloat.round, decreaseExponent]
    generalize Format.targetExponent .binary64 _ = wanted
    refine under_roundWithAccuracy ⟨k + (0 - wanted).toNat, ?_, by omega⟩ (by omega) _ _
    rw [Int.toNat_natCast, Nat.shiftLeft_eq, Nat.pow_add]
    exact Nat.mul_lt_mul_of_pos_right h (Nat.two_pow_pos _)

/-- A whole number with no more bits than a double has is one exactly. -/
theorem under_ofInt {n : Nat} (small : n < 2 ^ 53) : Under 56 (Float.ofInt n).toModel.unpack := by
  have whole : Float.ofInt n = n.toUInt64.toFloat * Float.exactlyRepresentablePowersOfTen[0] := by
    show Float.ofScientific n false 0 = _
    rw [Float.ofScientific, dif_pos ⟨small, by decide⟩]
    rfl
  have one : Under 1 Float.exactlyRepresentablePowersOfTen[0].toModel.unpack :=
    ⟨53, by decide, by decide⟩
  rw [whole]
  exact under_unpack_pack (under_mul (under_toFloat small (by decide)) one (by decide))
    (by decide) (by decide)

/-- A number of cents is a finite number of whole units. -/
theorem isFinite_cents {cents : Int} (h0 : 0 ≤ cents) (h : cents < 2 ^ 53) :
    (Float.ofInt cents / 100).isFinite = true := by
  obtain ⟨n, rfl⟩ := Int.eq_ofNat_of_zero_le h0
  have dividend := under_ofInt (n := n) (by exact_mod_cast h)
  have hundred : (100 : Float).toModel.unpack =
      .finite .positive (100 * 2 ^ 46) (-46) (by decide) := rfl
  have quotient : Under 103 (Float.ofInt n / 100).toModel.unpack := by
    refine under_unpack_pack ?_ (by decide) (by decide)
    rw [hundred]
    exact under_div dividend (by decide) (by decide)
  exact quotient.isFinite

end Storefront.Decimal
