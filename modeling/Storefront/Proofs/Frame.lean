import Storefront.Proofs.SideSteps

/-! # What a shop keeps

Whatever is done aside from carts leaves all carts as they are, and whatever is known of a variant
stays as it is: `Keeps` says so of two shops, and `Knows` says it of the variants alone, so that it
also holds when a cart is kept. -/

namespace Storefront.Shop

open Relation (ReflTransGen)

/-! ### Growth -/

/-- While a shop grows, all but its variants stay as they are. -/
theorem Grows.entity?_eq {s s' : Shop} (h : Grows s s') {kind : String}
    (hk : kind ≠ Gid.variantPrefix) (id : Key) : s'.entity? kind id = s.entity? kind id := by
  induction h with
  | refl => rfl
  | tail _ step ih =>
    rw [← ih]
    cases step with
    | draw h => exact Draws.entity?_eq (.single h) ..
    | variant _ drawn _ _ _ => rw [entity?_withEntity_of_ne _ (.inl hk), drawn.entity?_eq]

/-- What is known of a variant stays so while the shop grows. -/
theorem Grows.variant_eq {s s' : Shop} (h : Grows s s') {id : String} {e : Entity}
    (he : s.entity? Gid.variantPrefix (.text id) = some e) :
    s'.entity? Gid.variantPrefix (.text id) = some e := by
  induction h with
  | refl => exact he
  | tail _ step ih =>
    cases step with
    | draw h => rw [Draws.entity?_eq (.single h), ih]
    | variant hnew drawn _ _ _ =>
      -- The one that is made up was not known, so it is another one.
      rw [entity?_withEntity_of_ne _ (.inr ?_), drawn.entity?_eq, ih]
      rw [Bool.eq_false_iff, ne_eq, Key.text_beq_iff]
      rintro rfl
      rw [ih] at hnew
      cases hnew

/-! ### Knowing and keeping -/

/-- A shop knows the tokens and the variants of another, and any variant that it knows besides was
made up. -/
structure Knows (s s' : Shop) : Prop where
  seen : ∀ t ∈ s.seen, t ∈ s'.seen
  variant : ∀ id e, s.entity? Gid.variantPrefix (.text id) = some e →
    s'.entity? Gid.variantPrefix (.text id) = some e
  madeUp : ∀ id e, s'.entity? Gid.variantPrefix id = some e →
    s.entity? Gid.variantPrefix id = some e ∨ ∃ v, e = .variant v ∧ v.IsMadeUp

/-- A shop keeps the carts of another, and knows what that does. -/
structure Keeps (s s' : Shop) : Prop extends Knows s s' where
  cart : ∀ id, s'.entity? Gid.cartPrefix id = s.entity? Gid.cartPrefix id

/-- To keep an entity that is no variant forgets nothing. -/
theorem Knows.withEntity (s : Shop) {kind : String} (hv : Gid.variantPrefix ≠ kind) (id : Key)
    (e : Entity) : Knows s (s.withEntity kind id e) where
  seen _ ht := ht
  variant _ _ he := by rwa [entity?_withEntity_of_ne s (.inl hv)]
  madeUp _ _ he := by rw [entity?_withEntity_of_ne s (.inl hv)] at he; exact .inl he

namespace Keeps

/-- A shop keeps its own carts. -/
theorem refl (s : Shop) : Keeps s s :=
  ⟨⟨fun _ h => h, fun _ _ h => h, fun _ _ h => .inl h⟩, fun _ => rfl⟩

/-- What is kept in two steps is kept. -/
theorem trans {s₁ s₂ s₃ : Shop} (h : Keeps s₁ s₂) (h' : Keeps s₂ s₃) : Keeps s₁ s₃ where
  seen t ht := h'.seen t (h.seen t ht)
  variant id e he := h'.variant id e (h.variant id e he)
  madeUp id e he := (h'.madeUp id e he).elim (h.madeUp id e) .inr
  cart id := (h'.cart id).trans (h.cart id)

/-- To keep an entity that is neither a cart nor a variant keeps the carts. -/
theorem withEntity (s : Shop) {kind : String} (hc : Gid.cartPrefix ≠ kind)
    (hv : Gid.variantPrefix ≠ kind) (id : Key) (e : Entity) : Keeps s (s.withEntity kind id e) where
  toKnows := .withEntity s hv id e
  cart _ := entity?_withEntity_of_ne s (.inl hc) e

/-- To erase one keeps the carts, too. -/
theorem withoutEntity (s : Shop) {kind : String} (hc : Gid.cartPrefix ≠ kind)
    (hv : Gid.variantPrefix ≠ kind) (id : Key) : Keeps s (s.withoutEntity kind id) where
  seen _ ht := ht
  variant _ _ he := by rwa [entity?_withoutEntity_of_ne s hv]
  madeUp _ _ he := by rw [entity?_withoutEntity_of_ne s hv] at he; exact .inl he
  cart _ := entity?_withoutEntity_of_ne s hc ..

end Keeps

/-- Draws keep the carts. -/
theorem Draws.keeps {s s' : Shop} (h : Draws s s') : Keeps s s' where
  seen _ ht := h.seen_subset ht
  variant _ _ he := by rwa [h.entity?_eq]
  madeUp _ _ he := .inl (by rwa [h.entity?_eq] at he)
  cart id := h.entity?_eq Gid.cartPrefix id

/-- Growth keeps the carts. -/
theorem Growth.keeps {s s' : Shop} (h : Growth s s') : Keeps s s' := by
  have grown : Grows s s' := .single h
  refine ⟨⟨?_, fun id e => grown.variant_eq, ?_⟩, fun id => grown.entity?_eq (by decide) id⟩
  · -- Tokens are handed out and none is taken back.
    cases h with
    | draw h => exact fun _ ht => Draws.seen_subset (.single h) ht
    | variant _ drawn _ _ _ => exact fun _ ht => drawn.seen_subset ht
  · -- A variant that is found was known, unless it is the new one.
    cases h with
    | draw h => exact fun id e he => .inl (by rwa [Draws.entity?_eq (.single h)] at he)
    | @variant _ id₀ v _ drawn hv _ _ =>
      intro id e he
      by_cases hid : (id == id₀) = true
      · -- It is the one that was made up.
        rw [entity?_congr _ _ hid, entity?_withEntity_self] at he
        exact .inr ⟨v, (Option.some.inj he).symm, hv⟩
      · rw [entity?_withEntity_of_ne _ (.inr (by simpa using hid)), drawn.entity?_eq] at he
        exact .inl he

/-- What is done aside from carts leaves the carts alone. -/
theorem SideStep.keeps {s s' : Shop} (h : SideStep s s') : Keeps s s' := by
  cases h with
  | growth h => exact h.keeps
  -- The product is kept after the draws that made it up.
  | product _ drawn _ =>
    exact drawn.keeps.trans (.withEntity _ (by decide) (by decide) _ _)
  | plan id e => exact .withEntity s (by decide) (by decide) _ _
  | planErased id => exact .withoutEntity s (by decide) (by decide) _
  | group g => exact .withEntity s (by decide) (by decide) _ _
  | groupErased id => exact .withoutEntity s (by decide) (by decide) _
  | links owner relation members =>
    exact .withEntity s (mark_append_ne _ _).symm (mark_append_ne _ _).symm _ _

/-- Any number of steps aside from carts leaves them alone. -/
theorem SideSteps.keeps {s s' : Shop} (h : SideSteps s s') : Keeps s s' := by
  induction h with
  | refl => exact .refl s
  | tail _ step ih => exact ih.trans step.keeps

/-- Any amount of growth leaves the carts alone. -/
theorem Grows.keeps {s s' : Shop} (h : Grows s s') : Keeps s s' := h.sideSteps.keeps

/-! ### Carts that are kept -/

/-- The carts that are kept are the same. -/
theorem Keeps.hasCart_iff {s s' : Shop} (h : Keeps s s') (k : String) (c : Cart) :
    s'.HasCart k c ↔ s.HasCart k c := by
  rw [HasCart, h.cart, HasCart]

/-- So are those that came from outside. -/
theorem Keeps.hasGiven_iff {s s' : Shop} (h : Keeps s s') (k : String) :
    s'.HasGiven k ↔ s.HasGiven k := by
  rw [HasGiven, h.cart, HasGiven]

/-- A cart that is kept is found under its identifier. -/
theorem hasCart_withCart_self (s : Shop) (k : String) (c : Cart) : (s.withCart k c).HasCart k c :=
  entity?_withEntity_self ..

/-- After a cart is kept, that one is found, and all others as before. -/
theorem hasCart_withCart {s : Shop} {k k' : String} {c c' : Cart} :
    (s.withCart k c).HasCart k' c' ↔ k' = k ∧ c' = c ∨ k' ≠ k ∧ s.HasCart k' c' := by
  rw [HasCart, withCart]
  by_cases hk : k' = k
  · simp [hk, eq_comm]
  · rw [entity?_withEntity_of_ne s (.inr (by simpa using hk))]
    simp [hk, HasCart]

end Storefront.Shop
