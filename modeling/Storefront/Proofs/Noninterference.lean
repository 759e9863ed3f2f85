import Storefront.Proofs.Coherent
import Storefront.Proofs.Outcomes

/-! # What requests leave alone

All entities share one store, and reading may make some of them up.  Still a request for a cart
changes no other cart and adds nothing but variants, and a request about plans, groups or products
changes no cart; whatever is known of a variant or a product stays so.  None of this asks whether
the request succeeds.

* `Apart` : nothing is changed but some carts, and nothing else is added but variants
* `CartRequest.run_apart` : a request for a cart is apart from all carts but its own
* `Spares` : the carts and the known variants and products are left alone
* `noninterference` : all of it, for every request and every run of requests -/

namespace Storefront

open Act (Within)

namespace Shop

variable {s s₁ s' : Shop} {named : String → Prop} {k : String} {id country : Value}

/-! ### Kinds of entities -/

/-- What is kept of a kind is the same, down to its order. -/
def SameKind (kind : Key) (s s' : Shop) : Prop :=
  Assoc.get? s'.store.kinds kind = Assoc.get? s.store.kinds kind

/-- The known entities of a kind are as they were; there may be more. -/
def StillHas (kind : String) (s s' : Shop) : Prop :=
  ∀ id e, s.entity? kind id = some e → s'.entity? kind id = some e

/-- What is known of a kind that is the same is the same. -/
theorem SameKind.entity?_eq {kind : String} (h : SameKind (.text kind) s s') (id : Key) :
    s'.entity? kind id = s.entity? kind id := by
  have same : s'.store.slots (.text kind) = s.store.slots (.text kind) := by
    rw [Store.slots, h, Store.slots]
  rw [entity?, Store.get?, same, ← Store.get?, ← entity?]

/-- A kind that is the same has lost nothing. -/
theorem SameKind.stillHas {kind : String} (h : SameKind (.text kind) s s') :
    StillHas kind s s' := by
  intro id e he
  rw [h.entity?_eq, he]

/-- To keep an entity leaves every other kind as it was. -/
theorem sameKind_withEntity {kind : Key} {kind' : String} (h : kind ≠ .text kind') (id : Key)
    (e : Entity) : SameKind kind s (s.withEntity kind' id e) := by
  apply Assoc.get?_put_of_ne
  rw [Bool.eq_false_iff, ne_eq, BEq.comm, Key.text_beq_iff]
  exact h

/-- To erase an entity leaves every other kind as it was. -/
theorem sameKind_withoutEntity {kind : Key} {kind' : String} (h : kind ≠ .text kind') (id : Key) :
    SameKind kind s (s.withoutEntity kind' id) := by
  rw [SameKind, withoutEntity, Store.delete]
  dsimp only
  split
  · apply Assoc.get?_put_of_ne
    rw [Bool.eq_false_iff, ne_eq, BEq.comm, Key.text_beq_iff]
    exact h
  · rfl

/-- What is made up where nothing was known hides nothing that is known. -/
theorem stillHas_withEntity {kind : String} {id : Key} (h : s.entity? kind id = none) (e : Entity) :
    StillHas kind s (s.withEntity kind id e) := by
  intro id' e' he'
  by_cases hid : (id' == id) = true
  · -- The identifier is the new one, under which nothing was known.
    rw [entity?_congr s kind hid, h] at he'
    cases he'
  · rw [entity?_withEntity_of_ne s (.inr (by simpa using hid)), he']

/-- What is kept as the cart under an identifier stays as it is. -/
def Stays (k : String) (s s' : Shop) : Prop :=
  s'.entity? Gid.cartPrefix (.text k) = s.entity? Gid.cartPrefix (.text k)

/-- A cart that stays is still there. -/
theorem Stays.hasCart {c : Cart} (h : Stays k s s') (hc : s.HasCart k c) : s'.HasCart k c := by
  rwa [HasCart, h]

/-! ### Apart from some carts -/

/-- Nothing is changed but carts with certain keys, and nothing is added besides but tokens and
variants that are made up. -/
structure Apart (named : String → Prop) (s s' : Shop) : Prop where
  context : s'.context = s.context
  tokens : s.seen <+: s'.seen
  kinds : ∀ kind, kind ≠ .text Gid.cartPrefix → kind ≠ .text Gid.variantPrefix → SameKind kind s s'
  carts : ∀ id, (∀ k, named k → id ≠ .text k) →
    s'.entity? Gid.cartPrefix id = s.entity? Gid.cartPrefix id
  variants : StillHas Gid.variantPrefix s s'
  madeUp : ∀ id e, s'.entity? Gid.variantPrefix id = some e →
    s.entity? Gid.variantPrefix id = some e ∨ ∃ v, e = .variant v ∧ v.IsMadeUp

namespace Apart

/-- Doing nothing leaves everything alone. -/
theorem refl (named : String → Prop) (s : Shop) : Apart named s s where
  context := rfl
  tokens := List.prefix_rfl
  kinds _ _ _ := rfl
  carts _ _ := rfl
  variants _ _ he := he
  madeUp _ _ he := .inl he

/-- What two steps leave alone, each of them leaves alone. -/
theorem trans (h : Apart named s s₁) (h' : Apart named s₁ s') : Apart named s s' where
  context := h'.context.trans h.context
  tokens := h.tokens.trans h'.tokens
  kinds kind hc hv := (h'.kinds kind hc hv).trans (h.kinds kind hc hv)
  carts id hid := (h'.carts id hid).trans (h.carts id hid)
  variants id e he := h'.variants id e (h.variants id e he)
  madeUp id e he := (h'.madeUp id e he).elim (h.madeUp id e) .inr

/-- To allow for more carts asks for less. -/
theorem mono {named' : String → Prop} (h : Apart named s s') (hnamed : ∀ k, named k → named' k) :
    Apart named' s s' where
  context := h.context
  tokens := h.tokens
  kinds := h.kinds
  carts id hid := h.carts id fun k hk => hid k (hnamed k hk)
  variants := h.variants
  madeUp := h.madeUp

/-- A cart that is not among the named ones stays as it is. -/
theorem stays (h : Apart named s s') (hk : ¬ named k) : Stays k s s' := by
  apply h.carts
  rintro k' hk' heq
  cases heq
  exact hk hk'

end Apart

/-- `Apart` can be used with the rules of `Within`. -/
instance (named : String → Prop) : Std.Refl (Apart named) := ⟨.refl named⟩

/-- `Apart` can be used with the rules of `Within`. -/
instance (named : String → Prop) : IsTrans Shop (Apart named) := ⟨fun _ _ _ => .trans⟩

/-- What is drawn touches no entity, and tokens are only added. -/
theorem Draws.apart (h : Draws s s') : Apart named s s' := by
  induction h with
  | refl => exact .refl named s
  | tail _ step ih =>
    refine ih.trans ?_
    cases step with
    -- Time and chance are no part of the store, nor of the tokens.
    | supply p => exact ⟨rfl, List.prefix_rfl, fun _ _ _ => rfl, fun _ _ => rfl, fun _ _ he => he,
        fun _ _ he => .inl he⟩
    | token _ => exact ⟨rfl, List.prefix_append _ _, fun _ _ _ => rfl, fun _ _ => rfl,
        fun _ _ he => he, fun _ _ he => .inl he⟩

/-- What is made up on the way is a variant that was not there. -/
theorem Growth.apart (h : Growth s s') : Apart named s s' := by
  have known : Keeps s s' := h.keeps
  cases h with
  | draw h => exact Draws.apart (.single h)
  -- Only the kind of variants is written to, and only where nothing was known.
  | variant hnew drawn _ _ _ =>
    have apart : Apart named s _ := drawn.apart
    refine ⟨apart.context, apart.tokens, fun kind hc hv => ?_, fun _ _ => known.cart _, ?_,
      known.madeUp⟩
    · exact (sameKind_withEntity hv _ _).trans (apart.kinds kind hc hv)
    · exact fun id e he => stillHas_withEntity (by rw [drawn.entity?_eq, hnew]) _ id e
        (apart.variants id e he)

/-- What a request looks up leaves all carts alone, and the known variants. -/
theorem Grows.apart (h : Grows s s') : Apart named s s' := by
  induction h with
  | refl => exact .refl named s
  | tail _ step ih => exact ih.trans step.apart

/-- To keep a cart under a named key touches that cart alone. -/
theorem apart_withCart (hk : named k) (s : Shop) (e : Entity) :
    Apart named s (s.withEntity Gid.cartPrefix (.text k) e) where
  context := rfl
  tokens := List.prefix_rfl
  kinds _ hc _ := sameKind_withEntity hc _ _
  -- Another key of the same kind is looked up as before.
  carts id hid := by
    refine entity?_withEntity_of_ne s (.inr ?_) e
    rw [Bool.eq_false_iff, ne_eq, BEq.comm, Key.text_beq_iff]
    exact hid k hk
  variants := (sameKind_withEntity (by decide) _ _).stillHas
  madeUp id e' he' := by
    rw [entity?_withEntity_of_ne s (.inl (by decide))] at he'
    exact .inl he'

/-! ### Requests for carts -/

/-- A cart is kept under its own key. -/
theorem keepCart_apart (hk : named k) (kc : KeptCart) : Within (Apart named) (keepCart k kc) :=
  fun s => apart_withCart hk s _

/-- To price a cart again is to draw, to make up variants, and to keep that one cart. -/
theorem repriceCart_apart {raw : String} (hnamed : ∀ k, Names (.text raw) k → named k) :
    Within (Apart named) (repriceCart raw country) := by
  refine .bind_of_on (.of_eq (findCart_reads _)) fun found _ s h => ?_
  cases found with
  | none => exact Apart.refl named s
  | some found =>
    obtain ⟨k, kc⟩ := found
    -- The key that was found is the one that the identifier decodes to.
    obtain ⟨hdecoded, hne, -, -⟩ := findCart_eq_some.1 h
    exact Within.bind (.lift _)
      (fun key => .bind ((priced_grows key kc).mono fun _ _ => Grows.apart)
      fun kc' => .bind (keepCart_apart (hnamed k ⟨hdecoded, hne⟩) kc') fun _ => .pure _) s

/-- To put an edit in effect keeps that one cart, and prices it again. -/
theorem commit_apart (hid : Names (.text k) k) (hk : named k) (kc : KeptCart) :
    Within (Apart named) (commit k kc country) := by
  refine .bind (fun s => Apart.refl named s) fun now => .bind (.lift _) fun kc' =>
    .bind (keepCart_apart hk kc') fun _ => repriceCart_apart fun k' hid' => ?_
  rwa [hid'.eq hid]

/-- An edit changes no cart but the one that its identifier names. -/
theorem editCart_apart {listed : Except Fault (List Value)}
    {change : List Value → KeptCart → Act Shop (Option KeptCart)}
    (hchange : ∀ l kc, Within Grows (change l kc)) :
    Within (Apart (Names id)) (editCart id country listed change) := by
  refine .bind_of_on (.of_eq (findCart_reads _)) fun found _ s h => ?_
  refine Within.bind (.lift _) (fun l => ?_) s
  -- With no cart under the identifier nothing is done.
  cases found with
  | none => exact .pure _
  | some found =>
    obtain ⟨k, kc⟩ := found
    obtain ⟨hdecoded, hne, -, -⟩ := findCart_eq_some.1 h
    -- The cart that is changed is the one that the identifier names.
    have hid : Names id k := ⟨hdecoded, hne⟩
    refine .bind ((hchange l kc).mono fun _ _ => Grows.apart) fun changed => ?_
    cases changed with
    | none => exact .pure _
    | some kc' => exact commit_apart hid.raw hid kc'

/-- To look for a cart changes nothing at all. -/
theorem hasCart_apart (id : Value) : Within (Apart named) (hasCart id) := .of_eq (hasCart_reads id)

/-- To move a cart to a country changes no cart but that one. -/
theorem setCountry_apart (id country : Value) :
    Within (Apart (Names id)) (setCountry id country) := by
  refine .bind (hasCart_apart id) fun known => ?_
  split
  · exact .pure _
  · refine .bind_lift fun v hv => .bind_lift fun raw hraw => repriceCart_apart fun k hid => ?_
    -- The raw form names the same cart.
    have decoded := asText_decodeValue hv hraw
    have raw_eq : raw = k := by
      have := hid.decoded
      rw [Gid.decodeValue_text, Gid.decode_of_decodeValue decoded] at this
      exact Value.text.inj (Except.ok.inj this)
    exact ⟨raw_eq ▸ decoded, hid.ne_empty⟩

/-- To empty a cart changes no cart but that one: it is moved, and its lines are removed. -/
theorem emptyCart_apart (id country : Value) : Within (Apart (Names id))
    (emptyCart id country) := by
  refine .bind (setCountry_apart id country) fun cart => ?_
  split
  · exact .pure _
  · refine .bind (.lift _) fun lineIds => ?_
    split
    · exact .pure _
    · exact .bind (editCart_apart fun l kc => (withRemovals_isEdit l kc).grows) fun _ => .pure _

/-- A cart that cannot be created leaves no trace but what was drawn for it. -/
theorem createCart_failed {given : Value} {f : Fault}
    (h : Act.on (createCart country given) s = (.error f, s')) : Draws s s' := by
  unfold createCart at h
  rcases Act.on_lift_bind_eq_error.1 h with ⟨-, rfl⟩ | ⟨key, -, h⟩
  · exact .refl
  · split at h
    · cases h
    · rcases Act.on_lift_bind_eq_error.1 h with ⟨-, rfl⟩ | ⟨decoded, -, h⟩
      · exact .refl
      · extract_lets currency make at h
        -- Nothing fails any more once the identifier is found to be encodable.
        have hmake : ∀ k s₁, Act.on (make k) s₁ = (.error f, s') → s' = s₁ := by
          intro k s₁ h
          rcases Act.on_bind_eq_error.1 h with h | ⟨_, s₂, -, h⟩
          · have moved := Act.on_discard_snd (x := (liftM (Gid.encodeText k) : Act Shop String))
              (s := s₁)
            rw [h] at moved
            exact moved
          · cases h
        -- The identifier was given.
        split at h
        · rcases Act.on_bind_eq_error.1 h with h | ⟨k, s₁, hk, h⟩
          · obtain ⟨-, rfl⟩ := Prod.mk.inj h
            exact .refl
          · obtain ⟨-, rfl⟩ := Prod.mk.inj hk
            rw [hmake k s h]
        · -- The identifier is fresh: what was drawn for it stays drawn.
          rcases Act.on_bind_eq_error.1 h with h | ⟨k, s₁, hk, h⟩
          · exact (freshId_draws _).of_on h
          · rw [hmake k s₁ h]
            exact (freshId_draws _).of_on hk

/-- To create a cart changes no cart but the new one, and none if it fails. -/
theorem createCart_apart (country given : Value) (s : Shop) :
    Apart (fun k => ∃ c, (Act.on (createCart country given) s).1 = .ok (some c) ∧ c.id = k) s
      (Act.on (createCart country given) s).2 := by
  rcases h : Act.on (createCart country given) s with ⟨f | a, s'⟩
  · exact (createCart_failed h).grows.apart
  · -- Either the country has no market and nothing happened, or a cart was made under `k`.
    obtain ⟨-, rfl⟩ | ⟨key, k, s₁, -, -, -, hdrawn, ha, hs'⟩ := createCart_eq_ok h
    · exact .refl _ s'
    · subst ha hs'
      have drawn : Draws s s₁ := by
        obtain ⟨-, rfl⟩ | hdrawn := hdrawn
        · exact .refl
        · exact (freshId_draws _).of_on hdrawn
      exact drawn.grows.apart.trans (apart_withCart ⟨_, rfl, rfl⟩ s₁ _)

end Shop

open Shop

/-- The key of the cart that a request is for: the one that it makes, or the one that it names. -/
def CartRequest.Touches (r : CartRequest) (s : Shop) (k : String) : Prop :=
  match r with
  | create _ _ => ∃ c, (Act.on r.run s).1 = .ok (some (.made c)) ∧ c.id = k
  | get id _ | setCountry id _ | edit id _ _ => Names id k

/-- A change of a cart changes no cart but the one that it names. -/
theorem CartEdit.run_apart (id country : Value) (e : CartEdit) :
    Within (Apart (Names id)) (e.run id country) := by
  rw [e.run_eq]
  exact editCart_apart fun l kc => (e.change_isEdit country l kc).grows

/-- A request for a cart changes no cart but the one it is for. -/
theorem CartRequest.run_apart (r : CartRequest) (s : Shop) :
    Apart (r.Touches s) s (Act.on r.run s).2 := by
  cases r with
  | create country id =>
    rw [CartRequest.run, Act.on_map]
    refine (createCart_apart country id s).mono ?_
    rintro k ⟨c, hc, hid⟩
    exact ⟨c, by rw [CartRequest.run, Act.on_map, hc]; rfl, hid⟩
  | get id country => exact setCountry_apart id country s
  | setCountry id country => exact setCountry_apart id country s
  | edit id country e => exact CartEdit.run_apart id country e s

namespace Shop

variable {s s₁ s' : Shop}

/-! ### Requests aside from carts -/

/-- The carts are the same, and so are the variants and products that were known. -/
structure Spares (s s' : Shop) : Prop where
  carts : SameKind (.text Gid.cartPrefix) s s'
  variants : StillHas Gid.variantPrefix s s'
  products : StillHas Gid.productPrefix s s'

namespace Spares

/-- Doing nothing spares everything. -/
theorem refl (s : Shop) : Spares s s := ⟨rfl, fun _ _ he => he, fun _ _ he => he⟩

/-- What two steps spare, each of them spares. -/
theorem trans (h : Spares s s₁) (h' : Spares s₁ s') : Spares s s' where
  carts := h'.carts.trans h.carts
  variants id e he := h'.variants id e (h.variants id e he)
  products id e he := h'.products id e (h.products id e he)

/-- What is kept of another kind is none of its business. -/
theorem withEntity (s : Shop) {kind : String} (hc : Gid.cartPrefix ≠ kind)
    (hv : Gid.variantPrefix ≠ kind) (hp : Gid.productPrefix ≠ kind) (id : Key) (e : Entity) :
    Spares s (s.withEntity kind id e) where
  carts := sameKind_withEntity (by simpa using hc) id e
  variants := (sameKind_withEntity (by simpa using hv) id e).stillHas
  products := (sameKind_withEntity (by simpa using hp) id e).stillHas

/-- To erase what is of another kind spares carts, variants and products. -/
theorem withoutEntity (s : Shop) {kind : String} (hc : Gid.cartPrefix ≠ kind)
    (hv : Gid.variantPrefix ≠ kind) (hp : Gid.productPrefix ≠ kind) (id : Key) :
    Spares s (s.withoutEntity kind id) where
  carts := sameKind_withoutEntity (by simpa using hc) id
  variants := (sameKind_withoutEntity (by simpa using hv) id).stillHas
  products := (sameKind_withoutEntity (by simpa using hp) id).stillHas

end Spares

/-- What is drawn is no part of the store. -/
theorem Draws.spares (h : Draws s s') : Spares s s' := by
  have same : ∀ kind, StillHas kind s s' := fun kind id e he => by rwa [h.entity?_eq]
  exact ⟨by rw [SameKind, h.store_eq], same _, same _⟩

/-- A variant that is made up hides none that is known. -/
theorem Growth.spares (h : Growth s s') : Spares s s' := by
  cases h with
  | draw h => exact Draws.spares (.single h)
  | variant hnew drawn _ _ _ =>
    exact drawn.spares.trans ⟨sameKind_withEntity (by decide) _ _,
      stillHas_withEntity (by rw [drawn.entity?_eq, hnew]) _,
      (sameKind_withEntity (by decide) _ _).stillHas⟩

/-- Every step aside from carts spares them: it writes to another kind, or makes up what was not
known. -/
theorem SideStep.spares (h : SideStep s s') : Spares s s' := by
  cases h with
  | growth h => exact h.spares
  -- A product that is made up hides none that is known.
  | product hnew drawn _ =>
    exact drawn.spares.trans ⟨sameKind_withEntity (by decide) _ _,
      (sameKind_withEntity (by decide) _ _).stillHas,
      stillHas_withEntity (by rw [drawn.entity?_eq, hnew]) _⟩
  | plan id e => exact .withEntity s (by decide) (by decide) (by decide) id e
  | planErased id => exact .withoutEntity s (by decide) (by decide) (by decide) id
  | group g => exact .withEntity s (by decide) (by decide) (by decide) _ _
  | groupErased id => exact .withoutEntity s (by decide) (by decide) (by decide) id
  -- Links are kept under a kind with a mark in it, which none of the three has.
  | links owner relation members =>
    exact .withEntity s (mark_append_ne _ _).symm (mark_append_ne _ _).symm
      (mark_append_ne _ _).symm _ _

/-- The induction over the steps of a request. -/
theorem SideSteps.spares (h : SideSteps s s') : Spares s s' := by
  induction h with
  | refl => exact .refl s
  | tail _ step ih => exact ih.trans step.spares

/-! ### Runs of requests -/

/-- The second shop remembers the variants and products of the first. -/
structure Remembers (s s' : Shop) : Prop where
  variants : StillHas Gid.variantPrefix s s'
  products : StillHas Gid.productPrefix s s'

/-- To remember is transitive. -/
theorem Remembers.trans (h : Remembers s s₁) (h' : Remembers s₁ s') : Remembers s s' where
  variants id e he := h'.variants id e (h.variants id e he)
  products id e he := h'.products id e (h.products id e he)

/-- What is spared is remembered. -/
theorem Spares.remembers (h : Spares s s') : Remembers s s' := ⟨h.variants, h.products⟩

/-- To keep a cart forgets no variant and no product. -/
theorem remembers_withCart (s : Shop) (k : String) (e : Entity) :
    Remembers s (s.withEntity Gid.cartPrefix (.text k) e) :=
  ⟨(sameKind_withEntity (by decide) _ _).stillHas, (sameKind_withEntity (by decide) _ _).stillHas⟩

/-- Whatever happens to a shop, it remembers its catalogue. -/
theorem Step.remembers (h : Step s s') : Remembers s s' := by
  cases h with
  | side h => exact h.spares.remembers
  -- A new cart is all that is kept.
  | made _ _ _ _ _ => exact remembers_withCart s _ _
  -- The edit may have made up variants, and then its cart is kept.
  | edited _ h now => exact h.grows.sideSteps.spares.remembers.trans (remembers_withCart _ _ _)
  | priced _ h _ => exact h.sideSteps.spares.remembers.trans (remembers_withCart _ _ _)
  | given _ v => exact remembers_withCart s _ _

/-- The induction over the steps of a run. -/
theorem Steps.remembers (h : Steps s s') : Remembers s s' := by
  induction h with
  | refl => exact (Spares.refl s).remembers
  | tail _ step ih => exact ih.trans step.remembers

/-- The second shop is reached from the first by requests, without a reset, while time passes. -/
inductive Later (s : Shop) : Shop → Prop
  | refl : Later s s
  | request {s₁ : Shop} (h : Later s s₁) (r : ShopRequest) : Later s (Act.on r.run s₁).2
  | passage {s₁ : Shop} (h : Later s s₁) (supply : Supply) : Later s { s₁ with supply }

/-- The induction over a run of requests, from what one request does. -/
theorem Later.remembers (h : Later s s') : Remembers s s' := by
  induction h with
  | refl => exact (Spares.refl s).remembers
  | request _ r ih => exact ih.trans (Steps.remembers (r.run_steps _))
  -- Time and chance are no part of what is known.
  | passage _ supply ih => exact ⟨ih.variants, ih.products⟩

/-- In any shop, and whether or not they succeed: a request for a cart is apart from all but that
cart, to look for a cart changes nothing, a request aside from carts spares all carts and the known
part of the catalogue, and the catalogue is remembered by any run of requests. -/
theorem noninterference (s : Shop) :
    (∀ r : CartRequest, Apart (r.Touches s) s (Act.on r.run s).2) ∧
    (∀ id, (Act.on (hasCart id) s).2 = s) ∧
    (∀ id country, Apart (Names id) s (Act.on (emptyCart id country) s).2) ∧
    (∀ r : SideRequest, Spares s (Act.on r.run s).2) ∧
    ∀ s', Later s s' → Remembers s s' :=
  ⟨fun r => r.run_apart s, fun id => (hasCart_reads id s).symm, fun id country =>
    emptyCart_apart id country s, fun r => SideSteps.spares (r.run_sideSteps s),
    fun _ later => later.remembers⟩

/-- The variant of the sample is remembered when its cart is read elsewhere. -/
theorem noninterference_sample : ∃ e,
    let known := fun s : Shop => s.entity? Gid.variantPrefix (.text (Gid.variantPrefix ++ "1"))
    known sample = some e ∧
      known (Act.on (ShopRequest.cart (.get sampleId "FR")).run sample).2 = some e := by
  obtain ⟨e, he⟩ : ∃ e, sample.entity? Gid.variantPrefix (.text (Gid.variantPrefix ++ "1")) =
      some e := Option.isSome_iff_exists.1 (by decide +kernel)
  have remembered := (noninterference sample).2.2.2.2 _
    (.request .refl (.cart (.get sampleId "FR")))
  exact ⟨e, he, remembered.variants _ e he⟩

end Shop
end Storefront
