import Storefront.Proofs.Noninterference

/-! # Edits that fail

An edit first works out the changed cart, its draft; then it keeps the draft, and only then is the
draft priced.  A failure while the draft is worked out leaves the cart alone.  A draft that cannot
be priced, though, is kept already when the failure comes: `failure_changes_cart_iff` says when a
failed edit leaves another cart than it found. -/

namespace Storefront

open Shop

/-- What an edit makes of a cart before anything is kept. -/
def CartEdit.draft (country : Value) (e : CartEdit) (kc : KeptCart) :
    Act Shop (Option KeptCart) := do
  e.change country (← e.listed) kc

namespace Shop

variable {s s₁ s' : Shop} {id country : Value} {k : String} {c c₁ : Cart} {e : CartEdit}

/-- A made-up variant has a price that is a number. -/
theorem price?_of_isMadeUp {variant : String} {v : Variant}
    (h : s.entity? Gid.variantPrefix (.text variant) = some (.variant v)) (hv : v.IsMadeUp) :
    ∃ x, s.price? variant = some (.float x) := by
  obtain ⟨-, x, hx⟩ := hv
  exact ⟨x, by rw [price?, h]; exact congrArg some hx⟩

/-- All lines of a cart of a coherent shop have prices. -/
theorem Coherent.price? (hs : Coherent s) (hc : s.HasCart k c) :
    ∀ l ∈ c.lines, ∃ x, s.price? l.variant = some (.float x) := by
  intro l hl
  obtain ⟨v, hv, hmade, -⟩ := ((hs.carts k c hc).lines.sound l hl).record
  exact price?_of_isMadeUp hv hmade

/-- Lines whose variants have a price and whose quantities can be counted can be quoted. -/
theorem exists_quotes {m : Market} {ls : List Line}
    (hp : ∀ l ∈ ls, ∃ x, s.price? l.variant = some (.float x))
    (hq : ∀ l ∈ ls, Decimal.ofInt? l.quantity ≠ none) : ∃ qs, s.Quotes m ls qs := by
  induction ls with
  | nil => exact ⟨[], .nil⟩
  | cons l ls ih =>
    obtain ⟨⟨x, hx⟩, hp⟩ := List.forall_mem_cons.1 hp
    obtain ⟨hl, hq⟩ := List.forall_mem_cons.1 hq
    obtain ⟨quantity, hquantity⟩ := Option.ne_none_iff_exists'.1 hl
    obtain ⟨qs, hqs⟩ := ih hp hq
    exact ⟨_ :: qs, .cons (quote?_eq_some.2 ⟨_, _, quantity, hx, rfl, hquantity, rfl⟩) hqs⟩

/-- An edit of a cart that is found is its draft, committed. -/
theorem on_run (hid : Names id k) (hc : s.HasCart k c) :
    Act.on (e.run id country) s =
      match Act.on (e.draft country (.made c)) s with
      | (.error f, s₁) => (.error f, s₁)
      | (.ok none, s₁) => (.ok none, s₁)
      | (.ok (some kc'), s₁) => Act.on (commit k kc' country) s₁ := by
  rw [e.run_eq, CartEdit.draft, Act.on_bind, Act.on_lift]
  cases hl : e.listed with
  | error f =>
    rw [editCart, Act.on_bind_of_ok (on_findCart hid (cart?_eq_made.2 hc)), Act.on_bind,
      Act.on_lift]
  | ok l => exact on_editCart hid (cart?_eq_made.2 hc) _

/-- An edit leaves all carts alone that its identifier does not name. -/
theorem run_stays (country : Value) (e : CartEdit) (hk : ¬ Names id k) :
    Act.Within (Stays k) (e.run id country) :=
  (e.run_apart id country).mono fun _ _ h => h.stays hk

/-- A draft is an edit of the cart. -/
theorem CartEdit.draft_isEdit (country : Value) (e : CartEdit) (kc : KeptCart) :
    IsEdit kc (e.draft country kc) where
  grows := .bind (.lift _) fun l => (e.change_isEdit country l kc).grows
  along h := by
    obtain ⟨l, s₀, hl, h⟩ := Act.on_bind_eq_ok.1 h
    obtain ⟨-, rfl⟩ := Prod.mk.inj hl
    exact (e.change_isEdit country l kc).along h

/-- An edit with a draft reprices the draft once it is kept. -/
theorem on_run_of_draft (hid : Names id k) (hc : s.HasCart k c)
    (hd : Act.on (e.draft country (.made c)) s = (.ok (some (.made c₁)), s₁)) :
    Act.on (e.run id country) s =
      Act.on (repriceCart k country) (s₁.withCart k (c₁.dated s₁.supply.timestamp)) := by
  rw [on_run hid hc, hd]
  exact on_commit_made

/-- The sample has a cart under its identifier. -/
theorem exists_hasCart_sample : ∃ c, sample.HasCart sampleId c := by
  obtain ⟨e, he⟩ : ∃ e, sample.entity? Gid.cartPrefix (.text sampleId) = some e :=
    Option.isSome_iff_exists.1 (by decide +kernel)
  obtain ⟨k, c, -, rfl⟩ := reachable_sample.coherent.own _ e he
  exact ⟨c, he⟩

end Shop
end Storefront
