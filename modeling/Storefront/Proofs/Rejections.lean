import Storefront.Proofs.Outcomes
import Storefront.Proofs.Requests

/-! # Rejected requests

A request for a cart that is rejected is answered with none, and it changes nothing: not the cart,
not the catalogue, not the tokens that were handed out, nor the supply.  Whatever has effects comes
after the last check, and what comes after the first effect never rejects: a cart that was just kept
is found again. -/

namespace Storefront

open Shop

variable {α : Type}

/-- If the action answers with none, then it changed nothing. -/
def Act.NoneUnchanged {σ : Type} (x : Act σ (Option α)) : Prop :=
  ∀ s s', Act.on x s = (.ok none, s') → s' = s

/-- An action that never changes anything changes nothing when it answers with none. -/
theorem Act.Within.noneUnchanged {σ : Type} {x : Act σ (Option α)} (h : Act.Within Eq x) :
    Act.NoneUnchanged x :=
  fun _ _ hx => (h.of_on hx).symm

namespace Shop

open Act (NoneUnchanged)

/-- Repricing a cart answers no only when there is none. -/
theorem repriceCart_noneUnchanged (id : String) (country : Value) :
    NoneUnchanged (repriceCart id country) := by
  intro s s' h
  obtain ⟨-, rfl⟩ | ⟨k, kc, key, kc', s₁, -, -, -, -, hsome, -⟩ := repriceCart_eq_ok h
  · rfl
  · cases hsome

/-- And so does moving it to a country. -/
theorem setCountry_noneUnchanged (id country : Value) : NoneUnchanged (setCountry id country) := by
  intro s s' h
  obtain ⟨-, rfl⟩ | ⟨raw, -, h⟩ := setCountry_eq_ok h
  · rfl
  · exact repriceCart_noneUnchanged raw country s s' h

/-- An edit that is rejected is rejected by its change, or finds no cart. -/
theorem editCart_noneUnchanged {id country : Value} {listed : Except Fault (List Value)}
    {change : List Value → KeptCart → Act Shop (Option KeptCart)}
    (hchange : ∀ l kc, NoneUnchanged (change l kc)) :
    NoneUnchanged (editCart id country listed change) := by
  intro s s' h
  obtain ⟨-, rfl⟩ | ⟨_, kc, l, -, -, -, hc, -⟩ | ⟨k, kc, l, kc', s₁, hid, -, -, -, h⟩ :=
    editCart_eq_ok h
  · rfl
  · exact hchange l kc s s' hc
  · exact absurd h (commit_ne_none hid.raw s')

/-- Additions are turned down before anything is drawn for them. -/
theorem withAdditions_noneUnchanged (country : Value) (lines : List Value) (kc : KeptCart) :
    NoneUnchanged (withAdditions country lines kc) := by
  intro s s' h
  obtain ⟨requests, s₀, hr, h⟩ := Act.on_bind_eq_ok.1 h
  obtain ⟨-, rfl⟩ := Prod.mk.inj hr
  split at h
  · obtain ⟨-, rfl⟩ := Prod.mk.inj h
    rfl
  · -- Once the requests are in order, there is no way back.
    simp only [Act.on_bind_eq_ok, Act.on_pure, Prod.mk.injEq] at h
    obtain ⟨_, _, -, _, _, -, hsome, -⟩ := h
    cases hsome

/-- A cart is turned down before its identifier is drawn. -/
theorem createCart_noneUnchanged (country id : Value) : NoneUnchanged (createCart country id) := by
  intro s s' h
  obtain ⟨-, rfl⟩ | ⟨key, k, s₁, -, -, -, -, hsome, -⟩ := createCart_eq_ok h
  · rfl
  · cases hsome

end Shop

/-- A change that is turned down left the shop as it was. -/
theorem CartEdit.change_noneUnchanged (country : Value) (e : CartEdit) (l : List Value)
    (kc : KeptCart) : Act.NoneUnchanged (e.change country l kc) := by
  cases e with
  | addLines lines => exact withAdditions_noneUnchanged country l kc
  | setNote note => exact (Act.Within.map _ (.lift _)).noneUnchanged
  | _ => exact (Act.Within.lift _).noneUnchanged

/-- A request for a cart that is answered with none changes nothing, in whatever shop it is made. -/
theorem CartRequest.unchanged_of_none (r : CartRequest) {s s' : Shop}
    (h : Act.on r.run s = (.ok none, s')) : s' = s := by
  -- The answer of a creation is a cart or nothing, so it is looked at apart.
  cases r with
  | create country id =>
    rw [CartRequest.run, Act.on_map] at h
    rcases hc : Act.on (createCart country id) s with ⟨e | _ | cart, s₁⟩ <;> rw [hc] at h
    · cases h
    · obtain ⟨-, rfl⟩ := Prod.mk.inj h
      exact createCart_noneUnchanged country id s s₁ hc
    · cases h
  | get id country => exact setCountry_noneUnchanged id country s s' h
  | setCountry id country => exact setCountry_noneUnchanged id country s s' h
  | edit id country e =>
    rw [CartRequest.run, e.run_eq] at h
    exact editCart_noneUnchanged (e.change_noneUnchanged country) s s' h

/-- A batch whose last line is not in order is rejected, and nothing is made up for its first. -/
theorem CartRequest.unchanged_of_none_batch :
    let r := sampleAddition [lineFor "2" 1, lineFor "3" 0]
    ∃ s', Act.on r.run sample = (.ok none, s') ∧ s' = sample := by
  intro r
  have h := Act.eq_ok_none (p := Act.on r.run sample) (by decide +kernel)
  exact ⟨_, h, CartRequest.unchanged_of_none r h⟩

end Storefront
