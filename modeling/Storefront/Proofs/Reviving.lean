import Storefront.Proofs.CartReads

/-! # Moving a cart that may have to be made

Moving a cart to the market of its buyer makes the cart first, if it is not known.  That works for
a cart that is named.  Without an identifier, though, a cart is made under a fresh one, which is
then not looked up: `Shop.Reachable.move_acts_on_named` says that this is the only way in which the
request acts on another cart than the named one.

* `Shop.Revived` : all that the engine may do
* `Shop.Reachable.revived` : it does one of these -/

namespace Storefront

open Shop

/-- The country that is named, or that of the home market. -/
def Market.orHome : Option String → String
  | some country => if country = "" then home else country
  | none => home

/-! ### The engine -/

/-- Moves a cart to the market of a country; a cart that is not known is made first. -/
def Shop.reviveCart (id country : Value) : Act Shop (Option KeptCart) := do
  if !(← hasCart id) then
    discard <| Factory.makeCart [id, country]
  setCountry id country

namespace Shop

variable {s s₁ : Shop} {id : Value} {k country : String} {c : Cart}

/-- The empty cart that is made in a shop under an identifier. -/
def openedCart (s : Shop) (country k : String) : Cart :=
  .opened (.text country) k s.supply.timestamp s.context.shopBaseUrl.display

/-- What is found under no identifier, and may be made under a fresh one: no cart is named, but the
country has a market, and an identifier is found. -/
structure Misses (s : Shop) (id : Value) (country k : String) : Prop where
  unnamed : ∀ k', ¬ Names id k'
  market : Market.hasKey (.text country) = true
  found : ∃ s₁, Act.on (freshId Gid.cartPrefix) s = (.ok k, s₁)
  encodable : ∃ sent, Gid.encodeText k = .ok sent

/-- What becomes of a cart that is to be moved to the market of a country. -/
inductive Revived (id : Value) (country : String) (s : Shop) :
    Except Fault (Option KeptCart) × Shop → Prop
  /-- The cart is known, and it is repriced. -/
  | moved {k : String} {c : Cart} (hid : Names id k) (hc : s.HasCart k c) (qs : List Quote)
      (hqs : s.Quotes (Market.ofKey (.text country)) c.lines qs) :
      Revived id country s (.ok (some (.made (c.quoted (.text country) qs))),
        s.withCart k (c.quoted (.text country) qs))
  /-- The cart is made, and it is repriced. -/
  | made {k : String} (hid : Names id k) (hnew : ∀ c, ¬ s.HasCart k c) (qs : List Quote) :
      Revived id country s (.ok (some (.made ((s.openedCart country k).quoted (.text country) qs))),
        (s.withCart k (s.openedCart country k)).withCart k
          ((s.openedCart country k).quoted (.text country) qs))
  /-- Nothing is done. -/
  | rejected (h : ∀ k, ¬ s.Misses id country k) : Revived id country s (.ok none, s)
  /-- Nothing but draws is done before a failure. -/
  | failed {fault : Fault} {s₁ : Shop} (h : ∀ k, ¬ s.Misses id country k) (hs : Draws s s₁) :
      Revived id country s (.error fault, s₁)
  /-- Another cart is made, and none is found. -/
  | astray {k : String} {s₁ : Shop} (h : s.Misses id country k)
      (hk : Act.on (freshId Gid.cartPrefix) s = (.ok k, s₁)) :
      Revived id country s (.ok none, s₁.withCart k (s₁.openedCart country k))

/-- A cart that is known is moved, and the hook is not called. -/
theorem on_reviveCart_of_known {country : Value} (h : Act.on (hasCart id) s = (.ok true, s)) :
    Act.on (reviveCart id country) s = Act.on (setCountry id country) s := by
  rw [reviveCart, Act.on_bind_of_ok h]
  rfl

/-- A cart that is not known is made first, unless making it fails. -/
theorem on_reviveCart_of_unknown {country : Value} (h : Act.on (hasCart id) s = (.ok false, s)) :
    Act.on (reviveCart id country) s =
      match Act.on (createCart country id) s with
      | (.ok _, s₁) => Act.on (setCountry id country) s₁
      | (.error fault, s₁) => (.error fault, s₁) := by
  -- The hook asks again whether the cart is known, with the same answer.
  have made : Act.on (Factory.makeCart [id, country]) s =
      Act.on ((fun c => Value.ofOption (c.map Cart.toValue)) <$> createCart country id) s := by
    rw [Factory.makeCart, Act.on_bind_of_ok h, map_eq_pure_bind]
    rfl
  have same : Act.on (reviveCart id country) s =
      Act.on (discard (Factory.makeCart [id, country]) >>= fun _ => setCountry id country) s := by
    rw [reviveCart, Act.on_bind_of_ok h]
    rfl
  -- What was made is discarded; only the shop that is left counts.
  rw [same, Act.on_bind, show discard (Factory.makeCart [id, country]) =
    (fun _ => ()) <$> Factory.makeCart [id, country] from rfl, Act.on_map, made, Act.on_map]
  rcases Act.on (createCart country id) s with ⟨fault | made, s₁⟩
  · rfl
  · rfl

/-- No cart is made for a country without a market. -/
theorem on_createCart_of_not_hasKey (h : Market.hasKey (.text country) = false) :
    Act.on (createCart (.text country) id) s = (.ok none, s) := by
  have key : (Value.text country).asKey = .ok (.text country) := rfl
  rw [createCart, key, Act.on_bind_of_ok (Act.on_lift _ s), h]
  rfl

/-- A cart is made under the identifier that is given or drawn, if that can be sent. -/
theorem on_createCart (h : Market.hasKey (.text country) = true) {raw : Value}
    (hraw : Gid.decodeValue id = .ok raw) :
    Act.on (createCart (.text country) id) s =
      match Act.on (if raw.truthy then liftM raw.asText else freshId Gid.cartPrefix) s with
      | (.error fault, s₁) => (.error fault, s₁)
      | (.ok k, s₁) =>
        match Gid.encodeText k with
        | .ok _ => (.ok (some (s₁.openedCart country k)), s₁.withCart k (s₁.openedCart country k))
        | .error fault => (.error fault, s₁) := by
  have key : (Value.text country).asKey = .ok (.text country) := rfl
  rw [createCart, key, Act.on_bind_of_ok (Act.on_lift _ s), h]
  rw [Bool.not_true, if_neg Bool.false_ne_true, hraw, Act.on_bind_of_ok (Act.on_lift _ s)]
  -- A cart is made in the same way under an identifier that is given and under one that is drawn.
  extract_lets currency make
  have hmake : ∀ k s₁, Act.on (make k) s₁ = match Gid.encodeText k with
      | .ok _ => (.ok (some (s₁.openedCart country k)), s₁.withCart k (s₁.openedCart country k))
      | .error fault => (.error fault, s₁) := by
    intro k s₁
    cases he : Gid.encodeText k with
    | error fault =>
      simp only [make, he]
      rfl
    | ok sent =>
      simp only [make, he]
      rfl
  -- A failure to draw is passed on; what is drawn is made.
  have hdraw : ∀ draw : Act Shop String, Act.on (draw >>= make) s = match Act.on draw s with
      | (.error fault, s₁) => (.error fault, s₁)
      | (.ok k, s₁) =>
        match Gid.encodeText k with
        | .ok _ => (.ok (some (s₁.openedCart country k)), s₁.withCart k (s₁.openedCart country k))
        | .error fault => (.error fault, s₁) := by
    intro draw
    rw [Act.on_bind]
    rcases Act.on draw s with ⟨fault | k, s₁⟩
    · rfl
    · exact hmake k s₁
  split
  · exact hdraw (liftM raw.asText)
  · exact hdraw (freshId Gid.cartPrefix)

/-- A country that is named is the country that a cart is priced in. -/
theorem countryFor_text (hcountry : country ≠ "") (kc : KeptCart) :
    kc.countryFor (.text country) = .ok (.text country) := by
  have named : (Value.text country).truthy = true := by simpa using hcountry
  cases kc <;> exact if_pos named

/-- What is named does not miss. -/
theorem Names.not_misses (hid : Names id k) (k' : String) : ¬ s.Misses id country k' :=
  fun misses => misses.unnamed k hid

/-- A cart that is known is repriced, unless it has more pieces than can be counted. -/
theorem revived_of_known (hs : Coherent s) (hcountry : country ≠ "") (hid : Names id k)
    (hc : s.HasCart k c) :
    Revived id country s (Act.on (reviveCart (.text k) (.text country)) s) := by
  have hkey := countryFor_text hcountry (.made c)
  -- Only the number of pieces can fail: every line has a price in any market.
  rw [on_reviveCart_of_known (on_hasCart hid.raw hc), on_setCountry hid.raw hc]
  by_cases hcount : c.Countable
  · obtain ⟨qs, hqs, priced⟩ := on_repriceCart_countable hs hid.raw hc hkey hcount
    rw [priced]
    exact .moved hid hc qs hqs
  · -- Too many pieces to count are found out before anything is kept.
    rw [on_repriceCart_tooLarge hs hid.raw hc hkey hcount]
    exact .failed hid.not_misses .refl

/-- A cart that is named and not known is made and repriced, if it can be. -/
theorem revived_of_unknown (hs : Coherent s) (hcountry : country ≠ "") (hid : Names id k)
    (hnew : Act.on (hasCart (.text k)) s = (.ok false, s)) :
    Revived id country s (Act.on (reviveCart (.text k) (.text country)) s) := by
  have absent : ∀ c, ¬ s.HasCart k c := by
    intro c hc
    cases (on_hasCart hid.raw hc).symm.trans hnew
  rw [on_reviveCart_of_unknown hnew]
  -- The hook makes no cart for a country without a market, and then there is none to move.
  cases hm : Market.hasKey (.text country) with
  | false =>
    rw [on_createCart_of_not_hasKey hm]
    dsimp only
    rw [on_setCountry_of_unknown hnew]
    exact .rejected hid.not_misses
  | true =>
    have named : (Value.text k).truthy = true := by simpa using hid.ne_empty
    have text : (Value.text k).asText = .ok k := rfl
    rw [on_createCart hm hid.raw.decoded, if_pos named, text, Act.on_lift]
    dsimp only
    -- An identifier that cannot be sent fails before the cart is kept.
    cases Gid.encodeText k with
    | error fault => exact .failed hid.not_misses .refl
    | ok sent =>
      -- The cart that was just made is found, has no lines, and is repriced for nothing.
      have coherent : Coherent (s.withCart k (s.openedCart country k)) :=
        (Step.made s (Gid.decode_of_decodeValue hid.decoded) rfl rfl rfl rfl).coherent hs
      have kept := hasCart_withCart_self s k (s.openedCart country k)
      obtain ⟨qs, -, priced⟩ := on_repriceCart_countable coherent hid.raw kept
        (countryFor_text hcountry _) (fun l hl => absurd hl List.not_mem_nil)
      dsimp only
      rw [on_setCountry hid.raw kept, priced]
      exact .made hid absent qs

/-- Without an identifier, a cart may be made under a fresh one; it is not found. -/
theorem revived_of_unnamed (hid : ∀ k, ¬ Names id k) {raw : Value}
    (hraw : Gid.decodeValue raw = .ok raw) (hfalsy : raw.truthy = false) :
    Revived id country s (Act.on (reviveCart raw (.text country)) s) := by
  have unknown : ∀ s : Shop, Act.on (hasCart raw) s = (.ok false, s) := by
    intro s
    rw [hasCart, hraw, Act.on_bind_of_ok (Act.on_lift _ s), hfalsy]
    rfl
  -- Null and the empty text name no cart in any shop, also not in the one where a cart was made.
  rw [on_reviveCart_of_unknown (unknown s)]
  cases hm : Market.hasKey (.text country) with
  | false =>
    rw [on_createCart_of_not_hasKey hm]
    dsimp only
    rw [on_setCountry_of_unknown (unknown s)]
    refine .rejected fun k misses => ?_
    cases hm.symm.trans misses.market
  | true =>
    rw [on_createCart hm hraw, hfalsy, if_neg Bool.false_ne_true]
    rcases hk : Act.on (freshId Gid.cartPrefix) s with ⟨fault | k, s₁⟩
    · -- No identifier was found, so the request does not miss.
      refine .failed (fun k misses => ?_) ((freshId_draws _).of_on hk)
      obtain ⟨s₂, hk'⟩ := misses.found
      cases hk.symm.trans hk'
    · dsimp only
      cases he : Gid.encodeText k with
      | error fault =>
        refine .failed (fun k' misses => ?_) ((freshId_draws _).of_on hk)
        obtain ⟨s₂, hk'⟩ := misses.found
        obtain ⟨sent, hsent⟩ := misses.encodable
        obtain rfl := Except.ok.inj (Prod.mk.inj (hk.symm.trans hk')).1
        cases he.symm.trans hsent
      | ok sent =>
        dsimp only
        -- The cart is kept under the fresh identifier, and then looked for under none.
        rw [on_setCountry_of_unknown (unknown _)]
        exact .astray ⟨hid, hm, ⟨s₁, hk⟩, sent, he⟩ hk

/-- Whatever a text or null names, moving it does one of the above. -/
theorem Reachable.revived (h : Reachable s) (hcountry : country ≠ "") (id : Option String)
    {raw : Value} (hraw : Gid.decodeValue (.ofText? id) = .ok raw) :
    Revived (.ofText? id) country s (Act.on (reviveCart raw (.text country)) s) := by
  have twice := Gid.decodeValue_decodeValue hraw
  -- A text names a cart unless it decodes to nothing.
  by_cases hid : ∃ k, Names (.ofText? id) k
  · obtain ⟨k, hid⟩ := hid
    obtain rfl : raw = .text k := Except.ok.inj (hraw.symm.trans hid.decoded)
    -- The shop either knows the cart or it does not.
    rcases h.hasCart_cases k with unknown | ⟨k', c, hid', hc⟩
    · exact revived_of_unknown h.coherent hcountry hid unknown
    · obtain rfl := hid'.eq hid.raw
      exact revived_of_known h.coherent hcountry hid hc
  · refine revived_of_unnamed (not_exists.1 hid) twice ?_
    cases id with
    | none =>
      obtain rfl := Except.ok.inj hraw
      rfl
    | some t =>
      obtain rfl := Except.ok.inj hraw
      have empty : Gid.decode t = "" := by
        by_contra hne
        exact hid ⟨Gid.decode t, rfl, hne⟩
      rw [empty]
      rfl

end Shop

/-! ### The answer of the router -/

/-- The variables ask for a cart to be moved: they may name the cart and the country. -/
structure Value.AsksMove (vars : Value) (id country : Option String) : Prop where
  isRecord : vars.isRecord = true
  cart : vars.member "cartId" = .ok (.ofText? id)
  country : (vars.member "buyerIdentity" >>= fun buyer =>
    (buyer.orElse (.record [])).member "countryCode") = .ok (.ofText? country)

/-- The handler answers with what the engine does. -/
theorem Answer.cartBuyerIdentityUpdate_follows {vars raw : Value} {id country : Option String}
    (hv : vars.AsksMove id country) (hraw : Gid.decodeValue (.ofText? id) = .ok raw) (s : Shop) :
    Follows .cartBuyerIdentityUpdate
      (Act.on (cartBuyerIdentityUpdate (some .standard) vars) s)
      (Act.on (reviveCart raw (.text (Market.orHome country))) s) := by
  have hid : cartIdOf vars = .ok raw := by
    rw [cartIdOf, hv.cart]
    exact hraw
  obtain ⟨buyer, hbuyer, hcountry⟩ := Act.except_bind_eq_ok.1 hv.country
  -- A country that is missing or empty stands for the home market.
  have home : (Value.ofText? country).orElse Market.home = .text (Market.orHome country) := by
    cases country with
    | none => rfl
    | some c =>
      by_cases hc : c = ""
      · subst hc
        rfl
      · have named : (Value.text c).truthy = true := by simpa using hc
        have kept : Market.orHome (some c) = c := if_neg hc
        rw [kept]
        exact if_pos named
  -- The handler asks whether the cart is known, makes it if it is not, and moves it in either case.
  have same : Act.on (cartBuyerIdentityUpdate (some .standard) vars) s =
      Act.on (reviveCart raw (.text (Market.orHome country)) >>= fun cart =>
        mutated .cartBuyerIdentityUpdate cart "cartId" noCart) s := by
    rw [cartBuyerIdentityUpdate, hid, hbuyer, Act.on_bind_of_ok (Act.on_lift _ s),
      Act.on_bind_of_ok (Act.on_lift _ s)]
    dsimp only
    rw [hcountry, Act.on_bind_of_ok (Act.on_lift _ s), home, reviveCart, bind_assoc, Act.on_bind,
      Act.on_bind]
    rcases Act.on (hasCart raw) s with ⟨fault | known, s₁⟩
    · rfl
    · cases known with
      | true => rfl
      | false =>
        exact congrArg (Act.on · s₁) (bind_assoc (discard (Factory.makeCart
          [raw, .text (Market.orHome country)])) (fun _ => setCountry raw _) _).symm
  rw [same]
  exact mutated_follows _ _ _ _ s

/-- The answer carries a cart. -/
def CarriesCart (outcome : Except Fault (Option Value)) (cart : Value) : Prop :=
  ∃ root payload, outcome = .ok (some (.ofFields [(root, payload)])) ∧
    payload.member "cart" = .ok cart ∧ cart.isNull = false

/-- The router's answer carries the cart that the engine answers with; if there is none, the answer
carries none, and no more is done than the engine did. -/
def Answer.Carries (answer : Except Fault (Option Value) × Shop) :
    Except Fault (Option KeptCart) × Shop → Prop
  | (.ok (some kc), s') => answer.2 = s' ∧
      ∀ cart, CarriesCart answer.1 cart ↔ cart = kc.toValue ∧ cart.isNull = false
  | (.ok none, s') | (.error _, s') => (∀ cart, ¬ CarriesCart answer.1 cart) ∧ Draws s' answer.2

/-- A payload carries a cart exactly if there was one. -/
theorem carriesCart_payload {o : Operation} {kc : Option KeptCart} {errors : List Value}
    {cart : Value} : CarriesCart (.ok (some (Answer.cartPayload o kc errors))) cart ↔
      cart = .ofOption (kc.map (·.toValue)) ∧ cart.isNull = false := by
  constructor
  · rintro ⟨root, payload, same, member, present⟩
    refine ⟨?_, present⟩
    simp only [Answer.cartPayload, Value.ofFields, List.map_cons, List.map_nil, Except.ok.injEq,
      Option.some.injEq, Value.record.injEq, List.cons.injEq, Prod.mk.injEq, and_true] at same
    obtain ⟨-, rfl⟩ := same
    simpa [Assoc.get?, eq_comm] using member
  · rintro ⟨rfl, present⟩
    exact ⟨o.root, _, rfl, by simp [Value.ofFields, Assoc.get?], present⟩

/-- A refusal carries no cart. -/
theorem not_carriesCart_refusal {root : String} {errors : List Value} (cart : Value) :
    ¬ CarriesCart (.ok (some (Router.refusal root errors))) cart := by
  rintro ⟨root, payload, same, member, present⟩
  simp only [Router.refusal, Value.ofFields, List.map_cons, List.map_nil, Except.ok.injEq,
    Option.some.injEq, Value.record.injEq, List.cons.injEq, Prod.mk.injEq, and_true] at same
  obtain ⟨-, rfl⟩ := same
  obtain rfl : Value.null = cart := Except.ok.inj member
  cases present

/-- The router answers the document of a move with what the engine does. -/
theorem Router.dispatch_carries {document : Option String} {vars raw : Value}
    {id country : Option String} {p : Document.Parsed} (hp : Document.parse document vars = .ok p)
    (hs : Document.signature? document = some Operation.cartBuyerIdentityUpdate.signature)
    (hv : vars.AsksMove id country) (hraw : Gid.decodeValue (.ofText? id) = .ok raw) (s : Shop) :
    Answer.Carries (Act.on ((standard (factoryOf true)).dispatch document vars) s)
      (Act.on (reviveCart raw (.text (Market.orHome country))) s) := by
  have given : vars.orElse (.record []) = vars := by
    obtain ⟨fields, rfl⟩ : ∃ fields, vars = .record fields := by
      have record := hv.isRecord
      cases vars with
      | record fields => exact ⟨fields, rfl⟩
      | _ => cases record
    exact Value.orElse_record fields
  have handled := Answer.cartBuyerIdentityUpdate_follows hv hraw s
  rw [← parse_orElse] at hp
  -- The document goes to the handler of the operation, and is answered by it.
  rw [on_dispatch hp hs
    (handler?_of_ofSignature? Operation.cartBuyerIdentityUpdate.ofSignature?_signature), given]
  have own : ownHandler (factoryOf true) .cartBuyerIdentityUpdate (document.getD "") vars =
      Answer.cartBuyerIdentityUpdate (some .standard) vars := rfl
  rw [own]
  generalize Act.on (Answer.cartBuyerIdentityUpdate (some .standard) vars) s = answer at handled ⊢
  generalize Act.on (reviveCart raw (.text (Market.orHome country))) s = engine at handled ⊢
  rcases engine with ⟨fault | _ | kc, s'⟩
  · -- A failure is reported, which draws, or passed on; neither carries a cart.
    obtain rfl : answer = (.error fault, s') := handled
    dsimp only
    split
    · refine ⟨?_, .refl⟩
      rintro cart ⟨_, _, same, -⟩
      cases same
    · obtain ⟨errors, s₂, reported⟩ := Answer.faultErrors_succeeds fault s'
      rw [reported]
      exact ⟨not_carriesCart_refusal, (Answer.faultErrors_draws fault).of_on reported⟩
  · -- The handler answers with an error, and the cart beside it is null.
    obtain ⟨error, supply, rfl⟩ := handled
    refine ⟨fun cart carried => ?_, .single (.supply s' supply)⟩
    obtain ⟨rfl, present⟩ := carriesCart_payload.1 carried
    cases present
  · obtain rfl : answer = (.ok (Answer.cartPayload .cartBuyerIdentityUpdate (some kc) []), s') :=
      handled
    exact ⟨rfl, fun cart => carriesCart_payload⟩

/-! ### What is done to the named cart -/

/-- The second cart has the same lines but for their costs, and the same note, attributes and
discount code. -/
structure Cart.HoldsSame (c c' : Cart) : Prop where
  lines : c'.lines.map (fun l => (l.id, l.quantity, l.attributes)) =
    c.lines.map fun l => (l.id, l.quantity, l.attributes)
  note : c'.note = c.note
  attributes : c'.attributes = c.attributes
  discount : c'.discount = c.discount

/-- Repricing changes nothing but costs. -/
theorem Cart.holdsSame_quoted {s : Shop} {m : Market} {c : Cart} {qs : List Quote}
    (h : s.Quotes m c.lines qs) (country : Key) : c.HoldsSame (c.quoted country qs) where
  lines := by
    have bare : (c.quoted country qs).lines.map Line.bare = c.lines.map Line.bare :=
      Line.map_bare_quoted _ h.length_eq
    have same := congrArg (List.map fun l : Line => (l.id, l.quantity, l.attributes)) bare
    rwa [List.map_map, List.map_map] at same
  note := rfl
  attributes := rfl
  discount := rfl

/-- A cart is kept in a country under an identifier; if there was one, it holds the same.  Nothing
else has changed. -/
structure Shop.MovesCart (k country : String) (s s' : Shop) (c : Cart) : Prop where
  id : c.id = k
  country : c.country = .text country
  kept : s'.HasCart k c
  same : ∀ c₀, s.HasCart k c₀ → c₀.HoldsSame c
  others : ∀ kind key, kind ≠ Gid.cartPrefix ∨ key ≠ .text k →
    s'.entity? kind key = s.entity? kind key

namespace Shop

variable {s s' : Shop} {id : Value} {k country : String} {c : Cart}

/-- Keeping a cart under an identifier leaves all else that is kept. -/
theorem entity?_withCart_of_ne (s : Shop) (c : Cart) {kind : String} {key : Key}
    (h : kind ≠ Gid.cartPrefix ∨ key ≠ .text k) :
    (s.withCart k c).entity? kind key = s.entity? kind key := by
  refine entity?_withEntity_of_ne s (h.imp_right fun hne => ?_) (.cart c)
  by_contra hsame
  exact hne (Key.text_beq_iff.1 (BEq.symm (by simpa using hsame)))

/-- A known cart that is repriced is moved. -/
theorem movesCart_quoted (hs : Coherent s) (hc : s.HasCart k c) {qs : List Quote}
    (hqs : s.Quotes (Market.ofKey (.text country)) c.lines qs) :
    MovesCart k country s (s.withCart k (c.quoted (.text country) qs))
      (c.quoted (.text country) qs) where
  id := (hs.carts k c hc).id
  country := rfl
  kept := hasCart_withCart_self s k _
  same c₀ hc₀ := by
    obtain rfl := Entity.cart.inj (Option.some.inj (hc.symm.trans hc₀))
    exact Cart.holdsSame_quoted hqs _
  others _ _ h := entity?_withCart_of_ne s _ h

/-- A cart that is made and then repriced is moved, though it was kept twice. -/
theorem movesCart_opened (hnew : ∀ c, ¬ s.HasCart k c) (qs : List Quote) :
    let made := (s.openedCart country k).quoted (.text country) qs
    MovesCart k country s ((s.withCart k (s.openedCart country k)).withCart k made) made where
  id := rfl
  country := rfl
  kept := hasCart_withCart_self _ k _
  same c₀ hc₀ := absurd hc₀ (hnew c₀)
  others _ _ h := (entity?_withCart_of_ne _ _ h).trans (entity?_withCart_of_ne s _ h)

end Shop

/-- The answer carries the named cart, in the country, and that is all that has changed; or it
carries none, and nothing has. -/
structure ActsOnNamed (id : Value) (country : String) (s : Shop)
    (result : Except Fault (Option Value) × Shop) : Prop where
  named : ∀ cart, CarriesCart result.1 cart →
    (cart.member "id" >>= Gid.decodeValue) = Gid.decodeValue id ∧
    (cart.member "buyerIdentity" >>= fun buyer => buyer.member "countryCode") =
      .ok (.text country) ∧
    ∃ k c, Names id k ∧ cart = c.toValue ∧ s.MovesCart k country result.2 c
  unchanged : (∀ cart, ¬ CarriesCart result.1 cart) → result.2.store = s.store

namespace ActsOnNamed

variable {s s' : Shop} {id : Value} {k country : String} {c : Cart}
  {result : Except Fault (Option Value) × Shop}

/-- An answer that carries the cart that was moved acts on the named one. -/
theorem of_moved (hid : Names id k) (h : s.MovesCart k country s' c)
    (hr : Answer.Carries result (.ok (some (.made c)), s')) :
    ActsOnNamed id country s result := by
  obtain ⟨rfl, carries⟩ := hr
  have shown : CarriesCart result.1 c.toValue := (carries _).2 ⟨rfl, rfl⟩
  refine ⟨fun cart carried => ?_, fun none => absurd shown (none _)⟩
  obtain ⟨rfl, -⟩ := (carries cart).1 carried
  have member : (KeptCart.made c).toValue.member "id" = .ok (.text (Gid.encode c.id)) := rfl
  -- The cart is sent under the code of its identifier, and decoding that gives it back.
  have raw : Gid.decode k = k := Gid.decode_of_decodeValue hid.decoded
  refine ⟨?_, ?_, k, c, hid, rfl, h⟩
  · rw [member, hid.decoded, h.id]
    show Gid.decodeValue (.text (Gid.encode k)) = _
    rw [Gid.decodeValue_text, Gid.decode_encode, raw]
  · show Except.ok c.country.toValue = _
    rw [h.country]
    rfl

/-- An answer without a cart acts on the named one if nothing was stored. -/
theorem of_unchanged (hr : ∀ cart, ¬ CarriesCart result.1 cart) (hs : result.2.store = s.store) :
    ActsOnNamed id country s result where
  named cart carried := absurd carried (hr cart)
  unchanged _ := hs

end ActsOnNamed

/-- The home market has a country. -/
theorem Market.orHome_ne_empty (country : Option String) : orHome country ≠ "" := by
  cases country with
  | none => decide
  | some country =>
    rw [orHome]
    split
    · decide
    · assumption

/-- A text and null can be decoded. -/
theorem Gid.exists_decodeValue (id : Option String) :
    ∃ raw, decodeValue (.ofText? id) = .ok raw := by
  cases id <;> exact ⟨_, rfl⟩

namespace Shop.Reachable

section

variable {s : Shop} (h : Reachable s) {vars : Value} {id country : Option String}
  (hv : vars.AsksMove id country) {document : Option String}
  (hs : Document.signature? document = some Operation.cartBuyerIdentityUpdate.signature)

include h hv hs

/-- A request that does not miss acts on the named cart. -/
theorem move_of_hits (hits : ∀ k, ¬ s.Misses (.ofText? id) (Market.orHome country) k) :
    ActsOnNamed (.ofText? id) (Market.orHome country) s
      (Act.on ((Router.standard (factoryOf true)).dispatch document vars) s) := by
  obtain ⟨raw, hraw⟩ := Gid.exists_decodeValue id
  have revived := h.revived (Market.orHome_ne_empty country) id hraw
  cases hp : Document.parse document vars with
  -- A document that cannot be read is answered before any handler.
  | error fault =>
    rw [← parse_orElse] at hp
    rw [Router.on_dispatch_of_error hp s]
    exact .of_unchanged (fun cart ⟨_, _, same, _⟩ => nomatch same) rfl
  | ok p =>
    have carries := Router.dispatch_carries hp hs hv hraw s
    generalize Act.on (reviveCart raw (.text (Market.orHome country))) s = engine
      at revived carries
    -- What the engine may have done decides; the only way to go astray is to miss.
    cases revived with
    | moved hid hc qs hqs => exact .of_moved hid (movesCart_quoted h.coherent hc hqs) carries
    | made hid hnew qs => exact .of_moved hid (movesCart_opened hnew qs) carries
    | rejected => exact .of_unchanged carries.1 carries.2.store_eq
    | failed _ drawn => exact .of_unchanged carries.1 (carries.2.store_eq.trans drawn.store_eq)
    | astray misses => exact absurd misses (hits _)

/-- A request that misses makes a cart under a fresh identifier and answers without one. -/
theorem move_of_misses {k : String} (misses : s.Misses (.ofText? id) (Market.orHome country) k)
    {p : Document.Parsed} (hp : Document.parse document vars = .ok p) :
    let result := Act.on ((Router.standard (factoryOf true)).dispatch document vars) s
    (∀ cart, ¬ CarriesCart result.1 cart) ∧
      ∃ c, c.id = k ∧ c.lines = [] ∧ result.2.store = (s.withCart k c).store := by
  intro result
  obtain ⟨raw, hraw⟩ := Gid.exists_decodeValue id
  have revived := h.revived (Market.orHome_ne_empty country) id hraw
  have carries := Router.dispatch_carries hp hs hv hraw s
  generalize Act.on (reviveCart raw (.text (Market.orHome country))) s = engine at revived carries
  -- Nothing but going astray is left.
  cases revived with
  | moved hid => exact absurd misses (hid.not_misses k)
  | made hid => exact absurd misses (hid.not_misses k)
  | rejected hits => exact absurd misses (hits k)
  | failed hits => exact absurd misses (hits k)
  | @astray k' s₁ _ hk =>
    -- The identifier that was found is the one that the engine drew.
    obtain ⟨s₂, hk'⟩ := misses.found
    obtain rfl := Except.ok.inj (Prod.mk.inj (hk.symm.trans hk')).1
    refine ⟨carries.1, s₁.openedCart (Market.orHome country) k', rfl, rfl,
      carries.2.store_eq.trans ?_⟩
    have drawn : s₁.store = s.store := ((freshId_draws _).of_on hk).store_eq
    show s₁.store.set _ _ _ = s.store.set _ _ _
    rw [drawn]

end

/-- The router with the standard factory is asked to move a cart to a market.  Unless it misses, it
answers with the named cart in that market, or without a cart and nothing changes.  It misses if it
is not told which cart, but the market is known and an identifier is found: then it keeps a new cart
under that, which nobody asked for, and answers without a cart. -/
theorem move_acts_on_named {s : Shop} (h : Reachable s) {vars : Value} {id country : Option String}
    (hv : vars.AsksMove id country) {document : Option String}
    (hs : Document.signature? document = some Operation.cartBuyerIdentityUpdate.signature) :
    let result := Act.on ((Router.standard (factoryOf true)).dispatch document vars) s
    let market := Market.orHome country
    ((∀ k, ¬ s.Misses (.ofText? id) market k) → ActsOnNamed (.ofText? id) market s result) ∧
    ∀ k p, s.Misses (.ofText? id) market k → Document.parse document vars = .ok p →
      (∀ cart, ¬ CarriesCart result.1 cart) ∧
      ∃ c, c.id = k ∧ c.lines = [] ∧ result.2.store = (s.withCart k c).store :=
  ⟨h.move_of_hits hv hs, fun _ _ misses hp => h.move_of_misses hv hs misses hp⟩

end Shop.Reachable

/-! ### No cart is named -/

/-- Variables that name a country and no cart. -/
def sampleMove : Value :=
  .ofFields [("cartId", .null), ("buyerIdentity", .ofFields [("countryCode", "FR")])]

/-- The variables of the sample name no cart and one country. -/
theorem sampleMove_asks : sampleMove.AsksMove none (some "FR") := ⟨rfl, rfl, rfl⟩

/-- A shop with nothing in it finds the first identifier for a cart. -/
theorem misses_sampleMove :
    Shop.Misses (.new default (.fresh 0 0 [])) (.ofText? none) (Market.orHome (some "FR"))
      "gid://shopify/Cart/Cart-1" where
  unnamed _ hid := by cases hid.decoded
  market := by decide +kernel
  found := ⟨_, rfl⟩
  encodable := ⟨_, Gid.encodeText_of_encodable (by decide +kernel)⟩

/-- The document of the sample can be read. -/
theorem sampleMove_parse : ∃ p, Document.parse
    (some (Operation.cartBuyerIdentityUpdate.document "")) sampleMove = .ok p := by
  obtain ⟨fields, hfields⟩ := orElse_of_vars (.inr (rfl : sampleMove.isRecord = true))
  obtain ⟨p, hp, -⟩ := (Operation.cartBuyerIdentityUpdate.isFor_document "").parse hfields
  exact ⟨p, hp⟩

/-- The request of the sample makes a cart under that identifier, and is answered without a cart. -/
theorem Shop.Reachable.move_acts_on_named_sample :
    let s : Shop := .new default (.fresh 0 0 [])
    let document := some (Operation.cartBuyerIdentityUpdate.document "")
    let result := Act.on ((Router.standard (factoryOf true)).dispatch document sampleMove) s
    Shop.Reachable s ∧ sampleMove.AsksMove none (some "FR") ∧
      Document.signature? document = some Operation.cartBuyerIdentityUpdate.signature ∧
      (∀ cart, ¬ CarriesCart result.1 cart) ∧
      ∃ c, c.id = "gid://shopify/Cart/Cart-1" ∧ c.lines = [] ∧
        result.2.store = (s.withCart "gid://shopify/Cart/Cart-1" c).store := by
  have reachable : Shop.Reachable (.new default (.fresh 0 0 [])) := .new default _
  have signed := (Operation.cartBuyerIdentityUpdate.isFor_document "").signature
  obtain ⟨p, hp⟩ := sampleMove_parse
  exact ⟨reachable, sampleMove_asks, signed,
    (reachable.move_acts_on_named sampleMove_asks signed).2 _ p misses_sampleMove hp⟩

/-- An answer without a cart does not mean that nothing has changed. -/
theorem move_without_cart_makes_one : ¬ ∀ (s : Shop) (vars : Value) (id country : Option String)
    (document : Option String), Shop.Reachable s → vars.AsksMove id country →
    Document.signature? document = some Operation.cartBuyerIdentityUpdate.signature →
    ActsOnNamed (.ofText? id) (Market.orHome country) s
      (Act.on ((Router.standard (factoryOf true)).dispatch document vars) s) := by
  intro acts
  have reachable : Shop.Reachable (.new default (.fresh 0 0 [])) := .new default _
  have signed := (Operation.cartBuyerIdentityUpdate.isFor_document "").signature
  obtain ⟨p, hp⟩ := sampleMove_parse
  obtain ⟨carries, c, -, -, made⟩ :=
    reachable.move_of_misses sampleMove_asks signed misses_sampleMove hp
  -- The answer carries no cart, so the store would be as it was, but a cart is kept in it.
  have unchanged := (acts _ _ _ _ _ reachable sampleMove_asks signed).unchanged carries
  have kept : (Shop.withCart (.new default (.fresh 0 0 [])) "gid://shopify/Cart/Cart-1" c).HasCart
    "gid://shopify/Cart/Cart-1" c := hasCart_withCart_self ..
  rw [HasCart, entity?, ← made, unchanged] at kept
  cases kept

end Storefront
