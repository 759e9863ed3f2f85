import Storefront.Proofs.CartReads
import Storefront.Proofs.Commuting

/-! # What leaves the attributes of a cart alone

Most of what is asked of a shop changes no attributes: other edits of the cart, requests for other
carts, requests aside from carts, and all documents but those that set attributes.  Only making
the cart anew takes its attributes away, which needs its identifier to be given or to be handed
out once more.

* `LeavesAttributes` : the attributes of a cart before and after something
* `CartEdit.run_leavesAttributes` : edits, if their drafts do
* `ShopRequest.run_leavesAttributes` : any request that does not set attributes of the cart -/

namespace Storefront

open Act (Within)
open Relation (ReflTransGen)

namespace Shop

variable {anew : Prop} {s s₁ s' : Shop} {id country : Value} {k : String}

/-- A step hands out tokens and takes none back. -/
theorem Step.seen_subset (h : Step s s') : s.seen ⊆ s'.seen := by
  cases h with
  | side h => exact h.keeps.seen
  | made => exact List.Subset.refl _
  | edited _ h _ => exact h.grows.keeps.seen
  | priced _ h _ => exact h.keeps.seen
  | given => exact List.Subset.refl _

/-- So does any number of steps. -/
theorem Steps.seen_subset (h : Steps s s') : s.seen ⊆ s'.seen := by
  induction h with
  | refl => exact List.Subset.refl _
  | tail _ step ih => exact List.Subset.trans ih step.seen_subset

/-- The identifier of a cart was handed out between two shops. -/
def HandsOutCart (s s' : Shop) (k : String) : Prop :=
  ∃ t, s.HandsOut s' t ∧ k = Gid.cartPrefix ++ t

/-- What is handed out early is handed out in the end. -/
theorem HandsOutCart.before (h : HandsOutCart s s₁ k) (later : s₁.seen ⊆ s'.seen) :
    HandsOutCart s s' k := by
  obtain ⟨t, ht, rfl⟩ := h
  exact ⟨t, ⟨ht.1, later ht.2⟩, rfl⟩

/-- What is handed out late is handed out from the start. -/
theorem HandsOutCart.after (h : HandsOutCart s₁ s' k) (earlier : s.seen ⊆ s₁.seen) :
    HandsOutCart s s' k := by
  obtain ⟨t, ht, rfl⟩ := h
  exact ⟨t, ⟨fun known => ht.1 (earlier known), ht.2⟩, rfl⟩

/-- The cart under an identifier has the attributes that it had.  Where carts may be made anew, that
is if the identifier was not handed out for one. -/
structure LeavesAttributes (anew : Prop) (k : String) (s s' : Shop) : Prop where
  seen : s.seen ⊆ s'.seen
  attributes : (anew → ¬ HandsOutCart s s' k) → ∀ c, s.HasCart k c →
    ∃ c', s'.HasCart k c' ∧ c'.attributes = c.attributes

namespace LeavesAttributes

/-- To do nothing leaves the attributes. -/
theorem refl (anew : Prop) (k : String) (s : Shop) : LeavesAttributes anew k s s :=
  ⟨List.Subset.refl _, fun _ c hc => ⟨c, hc, rfl⟩⟩

/-- One after the other, two things that leave the attributes leave them. -/
theorem trans (h : LeavesAttributes anew k s s₁) (h' : LeavesAttributes anew k s₁ s') :
    LeavesAttributes anew k s s' := by
  refine ⟨List.Subset.trans h.seen h'.seen, fun fresh c hc => ?_⟩
  -- If the identifier was handed out in one half, it was handed out on the whole.
  obtain ⟨c₁, hc₁, same⟩ := h.attributes (fun ha out => fresh ha (out.before h'.seen)) c hc
  obtain ⟨c', hc', same'⟩ := h'.attributes (fun ha out => fresh ha (out.after h.seen)) c₁ hc₁
  exact ⟨c', hc', same'.trans same⟩

end LeavesAttributes

/-- To do nothing leaves the attributes, for an action that ends early. -/
instance (anew : Prop) (k : String) : Std.Refl (LeavesAttributes anew k) := ⟨.refl anew k⟩

/-- For actions that are made of several. -/
instance (anew : Prop) (k : String) : IsTrans Shop (LeavesAttributes anew k) :=
  ⟨fun _ _ _ => .trans⟩

/-- What keeps the carts leaves the attributes. -/
theorem Keeps.leavesAttributes (h : Keeps s s') : LeavesAttributes anew k s s' :=
  ⟨h.seen, fun _ c hc => ⟨c, (h.hasCart_iff k c).2 hc, rfl⟩⟩

/-- A draw leaves the attributes. -/
theorem Draws.leavesAttributes (h : Draws s s') : LeavesAttributes anew k s s' :=
  h.keeps.leavesAttributes

/-- Under the identifier of the cart, a cart may be kept that has its attributes. -/
theorem leavesAttributes_withEntity {k' : String} {e : Entity}
    (h : ∀ c, k' = k → s.HasCart k c → ∃ c', e = .cart c' ∧ c'.attributes = c.attributes) :
    LeavesAttributes anew k s (s.withEntity Gid.cartPrefix (.text k') e) := by
  refine ⟨List.Subset.refl _, fun _ c hc => ?_⟩
  by_cases same : k' = k
  · obtain ⟨c', rfl, hattr⟩ := h c same hc
    subst same
    exact ⟨c', hasCart_withCart_self _ _ _, hattr⟩
  · exact ⟨c, by
      rw [HasCart, entity?_withEntity_of_ne s (.inr (by simpa using Ne.symm same))]
      exact hc, rfl⟩

/-! ### In the engine -/

/-- Repricing a cart leaves the attributes of all carts. -/
theorem repriceCart_leavesAttributes (id : String) (country : Value) :
    Within (LeavesAttributes anew k) (repriceCart id country) := by
  refine .bind_of_on (.of_eq (findCart_reads _)) fun found _ s h => ?_
  split
  · exact .refl _ k s
  · rename_i k' kc
    obtain ⟨-, -, hkc, rfl⟩ := findCart_eq_some.1 h
    rw [Act.on_bind, Act.on_lift]
    cases kc.countryFor country with
    | error e => exact .refl _ k _
    | ok key =>
      refine Act.on_bind_snd (fun _ _ h => ((priced_grows _ _).of_on h).keeps.leavesAttributes)
        fun kc' s₁ h => ?_
      have grown := ((priced_grows _ _).of_on h).keeps
      -- The cart that is kept at the end is looked at under the identifier of the pricing.
      refine grown.leavesAttributes.trans (leavesAttributes_withEntity fun c same hc => ?_)
      -- Only a cart of the shop's own is found under the identifier, and pricing it leaves one.
      subst same
      obtain rfl : kc = .made c := Option.some.inj
        (hkc.symm.trans (cart?_eq_made.2 ((grown.hasCart_iff _ c).1 hc)))
      have along := priced_along h
      cases kc' with
      | given v => exact along.elim
      | made c' =>
        obtain ⟨⟩ : c.Repriced c' := along
        exact ⟨_, rfl, rfl⟩

/-- Moving a cart to a market leaves the attributes of all carts. -/
theorem setCountry_leavesAttributes (id country : Value) :
    Within (LeavesAttributes anew k) (setCountry id country) := by
  refine .bind (.of_eq (hasCart_reads _)) fun known => ?_
  split
  · exact .pure _
  · exact .bind (.lift _) fun _ => .bind (.lift _) fun _ => repriceCart_leavesAttributes _ _

/-- A cart is made under an identifier that does not name this cart, or that is handed
out for it. -/
theorem createCart_leavesAttributes (ha : anew) {given : Value}
    (h : Names given k → ∀ c, ¬ s.HasCart k c) (country : Value) :
    LeavesAttributes anew k s (Act.on (createCart country given) s).2 := by
  rcases hr : Act.on (createCart country given) s with ⟨f | a, s'⟩
  · exact (createCart_failed hr).leavesAttributes
  · -- No cart is made without a market; else the identifier was given, or it is a fresh one.
    obtain ⟨-, rfl⟩ | ⟨key, k', s₁, -, -, -, hdrawn, -, rfl⟩ := createCart_eq_ok hr
    · exact .refl _ k _
    · obtain ⟨named, rfl⟩ | fresh := hdrawn
      · refine leavesAttributes_withEntity fun c same hc => ?_
        subst same
        exact absurd hc (h named c)
      · have drawn : Draws s s₁ := (freshId_draws _).of_on fresh
        -- A fresh identifier was handed out just now, which is shut out for this cart.
        obtain ⟨t, handed, rfl⟩ := freshId_handsOut (by decide) fresh
        refine ⟨drawn.seen_subset, fun unhanded c hc => ?_⟩
        have other : k ≠ Gid.cartPrefix ++ t := fun same => unhanded ha ⟨t, handed, same⟩
        exact ⟨c, hasCart_withCart.2 (.inr ⟨other, (drawn.keeps.hasCart_iff k c).2 hc⟩), rfl⟩

end Shop

open Shop

/-- Whatever cart an edit is made of, its draft has the same attributes. -/
def CartEdit.LeavesAttributes (e : CartEdit) : Prop :=
  ∀ country c s d s₁, Act.on (e.draft country (.made c)) s = (.ok (some (.made d)), s₁) →
    d.attributes = c.attributes

/-- Setting an attribute without a key or a value makes no draft. -/
theorem CartEdit.leavesAttributes {e : CartEdit}
    (h : ∀ key value, e = .setAttribute key value → ¬ (key.truthy = true ∧ value.truthy = true)) :
    e.LeavesAttributes := by
  -- A draft that differs in its lines alone has the attributes of its cart.
  have relined : ∀ {s s₁ : Shop} {c d : Cart}, (KeptCart.made c).Along (Relined s s₁) (.made d) →
      d.attributes = c.attributes := by
    rintro s s₁ c d ⟨ls, -, rfl⟩
    rfl
  intro country c s d s₁ hd
  obtain ⟨l, s₀, hl, hd⟩ := Act.on_bind_eq_ok.1 hd
  -- Setting an attribute is the one edit that touches them, and here it is rejected.
  cases e with
  | addLines lines => exact relined (withAdditions_along hd)
  | updateLines lines =>
    obtain ⟨hw, rfl⟩ : withUpdates l (.made c) = .ok (some (.made d)) ∧ s₀ = s₁ := by
      simpa [CartEdit.change] using hd
    exact relined (withUpdates_along hw s₀)
  | removeLines lineIds =>
    obtain ⟨hw, rfl⟩ : withRemovals l (.made c) = .ok (some (.made d)) ∧ s₀ = s₁ := by
      simpa [CartEdit.change] using hd
    exact relined (withRemovals_along hw s₀)
  | setNote note =>
    obtain ⟨⟨⟩, -⟩ := Prod.mk.inj hd
    rfl
  | setAttribute key value =>
    have rejected : withAttribute key value (.made c) = .ok none := by
      have falsy := h key value rfl
      rw [withAttribute, if_pos (by simpa [or_iff_not_imp_left] using falsy)]
      rfl
    simp [CartEdit.change, rejected] at hd
  | setDiscount codes =>
    cases l with
    | nil => simp [CartEdit.change, withDiscount] at hd
    | cons code codes =>
      obtain ⟨⟨⟩, -⟩ := Prod.mk.inj hd
      rfl

/-- An edit leaves the attributes of a cart, unless it is an edit of this cart that changes them. -/
theorem CartEdit.run_leavesAttributes {anew : Prop} {e : CartEdit} {k : String} {id : Value}
    (h : Names id k → e.LeavesAttributes) (country : Value) :
    Within (Shop.LeavesAttributes anew k) (e.run id country) := by
  intro s
  refine ⟨Steps.seen_subset (e.run_steps id country s), fun fresh c hc => ?_⟩
  -- An edit of another cart does not touch this one at all.
  by_cases hid : Names id k
  · suffices leaves : Shop.LeavesAttributes anew k s (Act.on (e.run id country) s).2 from
      leaves.attributes fresh c hc
    have edit := CartEdit.draft_isEdit country e (.made c)
    -- An edit that fails or is rejected has only drawn; a draft is kept and then repriced.
    rcases hd : Act.on (e.draft country (.made c)) s with ⟨f | _ | kc, s₁⟩
    · rw [on_run hid hc, hd]
      exact (edit.grows.of_on hd).keeps.leavesAttributes
    · rw [on_run hid hc, hd]
      exact (edit.grows.of_on hd).keeps.leavesAttributes
    · cases kc with
      | given v => exact (edit.along hd).elim
      | made d =>
        have grown := (edit.grows.of_on hd).keeps
        rw [on_run_of_draft hid hc hd]
        refine grown.leavesAttributes.trans (.trans (leavesAttributes_withEntity fun c' _ hc' => ?_)
          (repriceCart_leavesAttributes k country _))
        -- The cart that the draft replaces is the one that the edit was made of.
        obtain rfl : c' = c := Entity.cart.inj
          (Option.some.inj (((grown.hasCart_iff k c').1 hc').symm.trans hc))
        exact ⟨_, rfl, (d.attributes_dated _).trans (h hid country c' s d s₁ hd)⟩
  · exact ⟨c, (run_stays country e hid s).hasCart hc, rfl⟩

/-- Emptying a cart leaves the attributes: it reprices the cart and removes its lines. -/
theorem Shop.emptyCart_leavesAttributes {anew : Prop} {k : String} (id country : Value) :
    Within (LeavesAttributes anew k) (emptyCart id country) := by
  refine .bind (setCountry_leavesAttributes _ _) fun cart => ?_
  split
  · exact .pure _
  · refine .bind (.lift _) fun lineIds => ?_
    split
    · exact .pure _
    · exact .bind (CartEdit.run_leavesAttributes (e := .removeLines (.list lineIds))
        (fun _ => CartEdit.leavesAttributes nofun) _) fun _ => .pure _

/-! ### Documents -/

namespace Answer

variable {anew : Prop} {k : String}

/-- The variables name the cart, and attributes that all have a key and a value. -/
def SetsAttributes (k : String) (vars : Value) : Prop :=
  ∃ id rows, cartIdOf vars = .ok id ∧ Names id k ∧ attributeRows vars = .ok rows ∧ rows ≠ [] ∧
    allComplete rows = .ok true

/-- A reply that draws a request identifier leaves the attributes. -/
theorem redrawn_leavesAttributes (s s' : Shop) (h : Redrawn s s') : LeavesAttributes anew k s s' :=
  h.draws.leavesAttributes

/-- Setting rows of attributes on another cart leaves the attributes of this one. -/
theorem setRows_leavesAttributes {id : Value} (h : ¬ Names id k) (country : Value)
    (rows : List Value) (cart : Option KeptCart) :
    Within (LeavesAttributes anew k) (setRows id country rows cart) := by
  -- The rows are set one after the other, and each is an edit of the other cart.
  induction rows generalizing cart with
  | nil => exact .pure _
  | cons row rows ih =>
    exact .bind (.lift _) fun key => .bind (.lift _) fun value =>
      .bind (CartEdit.run_leavesAttributes (e := .setAttribute key value)
        (fun hid => absurd hid h) _) ih

/-- A document that does not set attributes of this cart leaves them. -/
theorem cartAttributesUpdate_leavesAttributes {vars : Value} (h : ¬ SetsAttributes k vars)
    (document : String) :
    Within (LeavesAttributes anew k) (cartAttributesUpdate document vars) := by
  refine forKnownCart_within redrawn_leavesAttributes _ _ _ fun id country hid =>
    .bind_lift fun rows hrows => .bind_lift fun complete hcomplete => ?_
  split
  · exact rejectedCart_within redrawn_leavesAttributes _ _ _
  · -- The rows are all complete, so the document names another cart.
    rename_i accepted
    obtain ⟨nonempty, rfl⟩ : rows ≠ [] ∧ complete = true := by simpa using accepted
    have other : ¬ Names id k := fun names =>
      h ⟨id, rows, hid, names, hrows, nonempty, hcomplete⟩
    exact .bind (setRows_leavesAttributes other _ _ _) fun _ => .pure _

end Answer

/-- The operation makes a cart, for a new buyer or for one whose cart is not known. -/
def Operation.MakesCart (o : Operation) : Prop :=
  o = .cartCreate ∨ o = .cartBuyerIdentityUpdate

namespace Router

variable {anew : Prop} {k : String}

/-- Every handler leaves the attributes, if no cart is made again and none are set on this cart. -/
theorem ownHandler_leavesAttributes (hasFactory : Bool) {o : Operation} {vars : Value}
    (ha : o.MakesCart → anew) (h : o = .cartAttributesUpdate → ¬ Answer.SetsAttributes k vars)
    (document : String) :
    Within (LeavesAttributes anew k) (ownHandler (factoryOf hasFactory) o document vars) := by
  have redraws : ∀ s s', Redrawn s s' → LeavesAttributes anew k s s' :=
    Answer.redrawn_leavesAttributes
  have edit {e : CartEdit} (he : e.LeavesAttributes) (id country : Value) :
      Within (LeavesAttributes anew k) (e.run id country) := e.run_leavesAttributes (fun _ => he) _
  -- Two operations make a cart; those that edit one run an edit that leaves the attributes; those
  -- on groups touch no cart.
  cases o with
  | cartGet => exact Answer.cartGet_within setCountry_leavesAttributes document vars
  | cartCreate =>
    -- A new cart has no identifier given for it.
    have unnamed : ¬ Names .null k := fun hid => by cases hid.decoded
    exact Answer.cartCreate_within redraws (fun country s =>
      createCart_leavesAttributes (ha (.inl rfl)) (fun hid => absurd hid unnamed) country) vars
  | cartBuyerIdentityUpdate =>
    refine Answer.cartBuyerIdentityUpdate_within redraws (hook_within hasFactory
      fun country id s unknown => ?_) setCountry_leavesAttributes vars
    -- The hook makes a cart that is not known, so this one is not made again.
    exact createCart_leavesAttributes (ha (.inr rfl))
      (fun hid _ hc => nomatch (on_hasCart hid hc).symm.trans unknown) country
  | cartLinesAdd =>
    exact Answer.cartLinesAdd_within redraws
      (fun id country lines => edit (e := .addLines lines)
        (CartEdit.leavesAttributes nofun) id country)
      document vars
  | cartLinesUpdate =>
    exact Answer.cartLinesUpdate_within redraws
      (fun id country lines => edit (e := .updateLines lines)
        (CartEdit.leavesAttributes nofun) id country)
      document vars
  | cartLinesRemove =>
    exact Answer.cartLinesRemove_within redraws
      (fun id country ids => edit (e := .removeLines ids)
        (CartEdit.leavesAttributes nofun) id country)
      document vars
  | cartNoteUpdate =>
    exact Answer.cartNoteUpdate_within redraws
      (fun id country note => edit (e := .setNote note)
        (CartEdit.leavesAttributes nofun) id country)
      document vars
  | cartAttributesUpdate => exact Answer.cartAttributesUpdate_leavesAttributes (h rfl) document
  | cartDiscountCodesUpdate =>
    exact Answer.cartDiscountCodesUpdate_within redraws
      (fun id country codes => edit (e := .setDiscount codes)
        (CartEdit.leavesAttributes nofun) id country)
      document vars
  | groupGet | groupsList | groupCreate | groupAddProducts | groupAddProductVariants
      | groupDelete =>
    exact groupHandler_within redraws rfl
      (fun r _ => r.run_sideSteps.mono fun _ _ h => h.keeps.leavesAttributes) document

end Router

/-! ### Requests -/

namespace ShopRequest

variable {k : String} {s : Shop} {c : Cart}

/-- The request sets attributes of the cart under an identifier. -/
def SetsAttributes (k : String) : ShopRequest → Prop
  | cart (.edit id _ (.setAttribute key value)) =>
    Names id k ∧ key.truthy = true ∧ value.truthy = true
  | dispatch _ document vars => Operation.ofDocument? document = some .cartAttributesUpdate ∧
    Answer.SetsAttributes k (vars.orElse (.record []))
  | _ => False

/-- The request makes the cart under an identifier, again if there was one: it is answered with it,
or the identifier is handed out for it. -/
def Makes (k : String) (s : Shop) : ShopRequest → Prop
  | cart (.create country given) =>
    ∃ c s', Act.on (createCart country given) s = (.ok (some c), s') ∧ c.id = k
  | dispatch hasFactory document vars =>
    (∃ o, Operation.ofDocument? document = some o ∧ o.MakesCart) ∧
      HandsOutCart s (Act.on (dispatch hasFactory document vars).run s).2 k
  | _ => False

/-- A request that neither sets attributes of a cart nor makes it again leaves it the attributes
that it has. -/
theorem exists_sameAttributes {r : ShopRequest} (hset : ¬ r.SetsAttributes k)
    (hmake : ¬ r.Makes k s) (hc : s.HasCart k c) :
    ∃ c', (Act.on r.run s).2.HasCart k c' ∧ c'.attributes = c.attributes := by
  -- Only a document can make a cart anew without saying which, so all other requests leave the
  -- attributes whatever is handed out.
  have leaves (anew : Prop) (h : LeavesAttributes anew k s (Act.on r.run s).2)
      (fresh : anew → ¬ HandsOutCart s (Act.on r.run s).2 k) :
      ∃ c', (Act.on r.run s).2.HasCart k c' ∧ c'.attributes = c.attributes :=
    h.attributes fresh c hc
  cases r with
  | cart r =>
    rw [ShopRequest.run, Act.on_discard_snd] at leaves ⊢
    cases r with
    | create country given =>
      -- A cart that is made is this one only if it was asked for, which is shut out.
      show ∃ c',
        (Act.on (Option.map KeptCart.made <$> createCart country given) s).2.HasCart k c' ∧ _
      rw [Act.on_map]
      rcases hr : Act.on (createCart country given) s with ⟨f | a, s'⟩
      · exact ⟨c, ((createCart_failed hr).keeps.hasCart_iff k c).2 hc, rfl⟩
      · obtain ⟨-, rfl⟩ | ⟨key, k', s₁, -, -, -, hdrawn, rfl, rfl⟩ := createCart_eq_ok hr
        · exact ⟨c, hc, rfl⟩
        · have other : k ≠ k' := fun same => hmake ⟨_, _, hr, same.symm⟩
          have kept : s₁.HasCart k c := by
            obtain ⟨-, rfl⟩ | fresh := hdrawn
            · exact hc
            · exact (((freshId_draws _).of_on fresh).keeps.hasCart_iff k c).2 hc
          exact ⟨c, hasCart_withCart.2 (.inr ⟨other, kept⟩), rfl⟩
    | get id country => exact leaves False (setCountry_leavesAttributes id country s) False.elim
    | setCountry id country =>
      exact leaves False (setCountry_leavesAttributes id country s) False.elim
    | edit id country e =>
      refine leaves False (e.run_leavesAttributes (fun hid => ?_) country s) False.elim
      exact CartEdit.leavesAttributes fun key value he both => hset (he ▸ ⟨hid, both⟩)
  | hasCart id =>
    rw [ShopRequest.run, Act.on_discard_snd, (hasCart_reads id s).symm]
    exact ⟨c, hc, rfl⟩
  | emptyCart id country =>
    rw [ShopRequest.run, Act.on_discard_snd] at leaves ⊢
    exact leaves False (emptyCart_leavesAttributes id country s) False.elim
  | side r => exact leaves False (SideSteps.keeps (r.run_sideSteps s)).leavesAttributes False.elim
  -- A document goes to the handler of its operation.
  | dispatch hasFactory document vars =>
    refine leaves (∃ o, Operation.ofDocument? document = some o ∧ o.MakesCart) ?_
      fun ha out => hmake ⟨ha, out⟩
    rw [ShopRequest.run, Act.on_discard_snd]
    refine Router.dispatch_within_of_operation Answer.redrawn_leavesAttributes
      (fun o asked => ?_) s
    exact Router.ownHandler_leavesAttributes hasFactory (fun hm => ⟨o, asked, hm⟩)
      (fun same sets => hset ⟨same ▸ asked, sets⟩) _

end ShopRequest

end Storefront
