/-! # Halves of surrogate pairs

JSON can name one half of a surrogate pair by its code unit, and such a half is no character.  A
text that is to hold it anyway holds a stand-in: each of the 2048 halves has a private-use character
of its own.  A stand-in is only ever written as the code unit it stands for, and a text that holds
one cannot be sent.

* `halfUnit?_standIn` : a stand-in stands for the half that it was made for -/

namespace Storefront.Text

/-- The first code unit of a half. -/
def firstHalf : Nat := 0xd800

/-- The number of halves. -/
def halfCount : Nat := 0x800

/-- The code point of the first stand-in. -/
def firstStandIn : Nat := 0x10a000

/-- Whether a code unit is a half. -/
def isHalf (n : Nat) : Bool := firstHalf ≤ n && n < firstHalf + halfCount

/-- The stand-in of a half. -/
def standIn (n : Nat) : Char := Char.ofNat (firstStandIn + (n - firstHalf))

/-- The half that a character stands for. -/
def halfUnit? (c : Char) : Option Nat :=
  if firstStandIn ≤ c.toNat ∧ c.toNat < firstStandIn + halfCount then
    some (firstHalf + (c.toNat - firstStandIn))
  else none

/-- A code unit, or any other code point, as a character. -/
def unitChar (n : Nat) : Char := if isHalf n then standIn n else Char.ofNat n

theorem toNat_ofNat {n : Nat} (h : n.isValidChar) : (Char.ofNat n).toNat = n := by
  rw [Char.ofNat, dif_pos h]
  rfl

/-- A stand-in stands for the half that it was made for. -/
theorem halfUnit?_standIn {n : Nat} (h : isHalf n = true) : halfUnit? (standIn n) = some n := by
  obtain ⟨lo, hi⟩ : firstHalf ≤ n ∧ n < firstHalf + halfCount := by
    simpa only [isHalf, Bool.and_eq_true, decide_eq_true_eq] using h
  have point : (standIn n).toNat = firstStandIn + (n - firstHalf) := by
    refine toNat_ofNat (Or.inr ⟨?_, ?_⟩) <;> unfold firstStandIn halfCount firstHalf at * <;> omega
  have : firstStandIn ≤ (standIn n).toNat ∧ (standIn n).toNat < firstStandIn + halfCount := by
    omega
  rw [halfUnit?, if_pos this, point, Nat.add_sub_cancel_left, Nat.add_sub_cancel' lo]

end Storefront.Text
