import Storefront.Proofs.Coherent

/-! # The identifiers of the catalogue

The catalogue of a shop changes when a variant or a product is made up, and not otherwise.  Every
product and every variant has the identifier that it is kept under, so that what is asked for by an
identifier shows that identifier.

* `OfCatalogue` : what is only said of the catalogue of a shop, and stays true when it is added to
* `OfCatalogue.reachable` : this holds of every shop that is ever reached, if it holds of new ones
* `NamesCatalogue` : products and variants have the identifiers that they are kept under -/

namespace Storefront.Shop

variable {s s' : Shop}

/-! ### Properties of the catalogue -/

/-- The second shop has the catalogue of the first, and what the first handed out was handed out. -/
structure SameCatalogue (s s' : Shop) : Prop where
  seen : s.seen ⊆ s'.seen
  variants : ∀ id, s'.entity? Gid.variantPrefix id = s.entity? Gid.variantPrefix id
  products : ∀ id, s'.entity? Gid.productPrefix id = s.entity? Gid.productPrefix id

namespace SameCatalogue

/-- Drawing an identifier leaves the catalogue. -/
theorem of_draws (h : Draws s s') : SameCatalogue s s' :=
  ⟨h.seen_subset, fun _ => h.entity?_eq .., fun _ => h.entity?_eq ..⟩

/-- An entity of another kind is kept. -/
theorem withEntity (s : Shop) {kind : String} (hv : Gid.variantPrefix ≠ kind)
    (hp : Gid.productPrefix ≠ kind) (id : Key) (e : Entity) :
    SameCatalogue s (s.withEntity kind id e) :=
  ⟨List.Subset.refl _, fun _ => entity?_withEntity_of_ne s (.inl hv) e,
    fun _ => entity?_withEntity_of_ne s (.inl hp) e⟩

/-- So does removing an entry that is of neither kind. -/
theorem withoutEntity (s : Shop) {kind : String} (hv : Gid.variantPrefix ≠ kind)
    (hp : Gid.productPrefix ≠ kind) (id : Key) : SameCatalogue s (s.withoutEntity kind id) :=
  ⟨List.Subset.refl _, entity?_withoutEntity_of_ne s hv id, entity?_withoutEntity_of_ne s hp id⟩

end SameCatalogue

/-- What is said only of the catalogue of a shop, and stays true when a variant or a product is made
up. -/
structure OfCatalogue (P : Shop → Prop) : Prop where
  same : ∀ {s s'}, SameCatalogue s s' → P s → P s'
  variant : ∀ {s s₁ : Shop} {id : Key} {v : Variant}, P s →
    s.entity? Gid.variantPrefix id = none → Draws s s₁ → v.IsMadeUp →
    (id.toValue.truthy = true → v.id = id.toValue) → v.IsPictured s s₁ →
    P (s₁.withEntity Gid.variantPrefix id (.variant v))
  product : ∀ {s s₁ : Shop} {id : Key} {p : Product}, P s →
    s.entity? Gid.productPrefix id = none → Draws s s₁ → p.IsMadeUp id s s₁ →
    P (s₁.withEntity Gid.productPrefix id (.product p))

namespace OfCatalogue

variable {P : Shop → Prop} (hP : OfCatalogue P)

include hP

/-- A property of the catalogue survives whatever makes it grow. -/
theorem grows (h : Grows s s') (hs : P s) : P s' := by
  induction h with
  | refl => exact hs
  | tail _ step ih =>
    cases step with
    | draw h => exact hP.same (.of_draws (.single h)) ih
    | variant hnew drawn made named pictured => exact hP.variant ih hnew drawn made named pictured

/-- And it survives each step, of which only growth touches the catalogue. -/
theorem step (h : Step s s') (hs : P s) : P s' := by
  -- A cart is kept after growth, under a kind of its own.
  have kept : ∀ {s₁ : Shop}, Grows s s₁ → ∀ k e, P (s₁.withEntity Gid.cartPrefix (.text k) e) :=
    fun h k e => hP.same (.withEntity _ (by decide) (by decide) _ e) (hP.grows h hs)
  cases h with
  | side h =>
    cases h with
    | growth h => exact hP.grows (.single h) hs
    | product hnew drawn made => exact hP.product hs hnew drawn made
    | plan id e => exact hP.same (.withEntity s (by decide) (by decide) _ _) hs
    | planErased id => exact hP.same (.withoutEntity s (by decide) (by decide) _) hs
    | group g => exact hP.same (.withEntity s (by decide) (by decide) _ _) hs
    | groupErased id => exact hP.same (.withoutEntity s (by decide) (by decide) _) hs
    | links owner relation members =>
      exact hP.same (.withEntity s (mark_append_ne _ _).symm (mark_append_ne _ _).symm _ _) hs
  | made _ _ _ _ _ => exact kept .refl _ _
  | edited _ h _ => exact kept h.grows _ _
  | priced _ h _ => exact kept h _ _
  | given _ v => exact kept .refl _ _

/-- So it holds of every shop that is reached, if it holds of the new ones. -/
theorem reachable (new : ∀ context supply, P (Shop.new context supply)) (h : Reachable s) : P s :=
  h.invariant new fun _ _ hs step => hP.step step hs

end OfCatalogue

/-! ### Identifiers -/

/-- Products and variants that are kept under texts have these as identifiers; none is needed for a
variant that is kept under the empty text. -/
structure NamesCatalogue (s : Shop) : Prop where
  variants : ∀ id v, id ≠ "" → s.entity? Gid.variantPrefix (.text id) = some (.variant v) →
    v.id = .text id
  products : ∀ id p, s.entity? Gid.productPrefix (.text id) = some (.product p) → p.id = .text id

/-- What is kept of a kind is what was kept last, or what was kept already. -/
theorem entity?_withEntity_cases {kind id : String} {key : Key} {e e' : Entity}
    (h : (s.withEntity kind key e).entity? kind (.text id) = some e') :
    key = .text id ∧ e = e' ∨ s.entity? kind (.text id) = some e' := by
  by_cases same : (Key.text id == key) = true
  · obtain rfl := Key.text_beq_iff.1 same
    rw [entity?_withEntity_self] at h
    exact .inl ⟨rfl, Option.some.inj h⟩
  · rw [entity?_withEntity_of_ne _ (.inr (by simpa using same))] at h
    exact .inr h

/-- Naming the catalogue is a property of the catalogue. -/
theorem ofCatalogue_namesCatalogue : OfCatalogue NamesCatalogue where
  same h hs := ⟨fun id v hid he => hs.variants id v hid (h.variants _ ▸ he),
    fun id p he => hs.products id p (h.products _ ▸ he)⟩
  -- a variant that was made is named by the identifier it is kept under
  variant {s s₁ key v₀} hs _ drawn _ named _ := by
    refine ⟨fun id v hid he => ?_, fun id p he => ?_⟩
    · obtain ⟨rfl, ⟨⟩⟩ | he := entity?_withEntity_cases he
      · exact named (decide_eq_true hid)
      · exact hs.variants id v hid (drawn.entity?_eq .. ▸ he)
    · rw [entity?_withEntity_of_ne _ (.inl (by decide)), drawn.entity?_eq] at he
      exact hs.products id p he
  -- and so is a product
  product {s s₁ key p₀} hs _ drawn made := by
    refine ⟨fun id v hid he => ?_, fun id p he => ?_⟩
    · rw [entity?_withEntity_of_ne _ (.inl (by decide)), drawn.entity?_eq] at he
      exact hs.variants id v hid he
    · obtain ⟨rfl, ⟨⟩⟩ | he := entity?_withEntity_cases he
      · exact made.id
      · exact hs.products id p (drawn.entity?_eq .. ▸ he)

/-- A new shop has an empty catalogue. -/
theorem namesCatalogue_new (context : Context) (supply : Supply) :
    (Shop.new context supply).NamesCatalogue where
  variants _ _ _ he := by cases he
  products _ _ he := by cases he

/-- Every shop that is reached names its catalogue. -/
theorem Reachable.namesCatalogue (h : Reachable s) : s.NamesCatalogue :=
  ofCatalogue_namesCatalogue.reachable namesCatalogue_new h

end Storefront.Shop
