import Storefront.Proofs.CartReads

/-! # Services over a shop

A service that asks the router of a shop that is ever reached goes on to do so, whatever is asked
and whether or not it is answered.  Its errors say why it was not: a mutation of a cart that answers
with nothing has collected an error, and so has a cart that is not read.

* `Network.InShop` : the network leads to the router of a shop that is ever reached
* `Service.mutate_carries`, `Service.cart_carries` : services go on to ask that router
* `Service.Complains` : calls that collect an error whenever they answer with nothing
* `Service.cart_cases` : what is read in place of a cart -/

namespace Storefront

open Act (Within Carries)
open Shop

/-- The network leads to the router of a shop that is ever reached. -/
structure Network.InShop (hasFactory : Bool) (n : Network) : Prop where
  route : n.route = .inProcess
  router : n.router = .standard (factoryOf hasFactory)
  reached : Reachable n.shop

namespace Client

variable {c c' : Client} {hasFactory : Bool}

/-- A client that is left with a shop that is reached still leads there. -/
theorem Moved.inShop {shop : Shop} (h : c.Moved c' shop) (hc : c.network.InShop hasFactory)
    (reached : Reachable shop) : c'.network.InShop hasFactory where
  route := h.route.trans hc.route
  router := h.router.trans hc.router
  reached := h.shop ▸ reached

/-- The client is left with the shop that it had. -/
def Stays (c c' : Client) : Prop := c.Moved c' c.network.shop

/-- To do nothing leaves the shop. -/
instance : Std.Refl Stays := ⟨fun _ => ⟨rfl, rfl, rfl, rfl⟩⟩

/-- To leave the shop twice leaves it. -/
instance : IsTrans Client Stays := ⟨fun _ _ _ h h' => h.trans (h.shop ▸ h')⟩

/-- To note details of a request leaves the shop. -/
theorem recordDetail_stays (message : String) (details : List (String × Value)) :
    Within Stays (inNetwork (Network.recordDetail message details)) := by
  intro c
  obtain ⟨c', h, moved, -⟩ := moved_recordDetail message details c
  rw [h]
  exact moved

/-- To give up with a failure leaves the shop. -/
theorem fail_stays (source : String) (f : Failure) : Within Stays (fail source f) := by
  intro c
  obtain ⟨c', h, moved, -⟩ := moved_fail source f c
  rw [h]
  exact moved

/-- To look at what arrived leaves the shop. -/
theorem conclude_stays (source : String) (response : Value) (answer : Value → Except Fault Value) :
    Within Stays (conclude source response answer) := by
  refine .bind (recordDetail_stays _ _) fun _ => .bind (.lift _) fun failure => ?_
  cases failure with
  | none => exact .lift _
  | some f => exact fail_stays source f

/-- Whatever the router makes of a document, its shop is one that is reached. -/
theorem askRouter_inShop {document : String} (hne : document ≠ "") (vars : Value)
    (h : c.network.InShop hasFactory) :
    (Act.on (askRouter (.text document) vars) c).2.network.InShop hasFactory := by
  rcases hd : Act.on (c.network.router.dispatch (some document) vars) c.network.shop with
    ⟨outcome, shop⟩
  -- A document that is dispatched is a request to the shop.
  have reached : Reachable shop := by
    have := h.reached.request (.dispatch hasFactory (some document) vars)
    rwa [ShopRequest.run, Act.on_discard_snd, ← factoryOf, ← h.router, hd] at this
  obtain ⟨c₁, moved, -, asked⟩ := on_askRouter hne hd
  have there := moved.inShop h reached
  rw [asked]
  cases outcome with
  | ok response => exact (conclude_stays _ _ _ c₁).inShop there there.reached
  | error fault =>
    dsimp only
    -- A fault that is reported is remembered; any other is passed on.
    split
    · exact (fail_stays _ _ c₁).inShop there there.reached
    · exact there

end Client

namespace Service

variable {hasFactory : Bool} {v v' : Service}

/-- A question that is asked ends at the same router. -/
theorem ask_carries {document : String} (hne : document ≠ "") (vars : Value) :
    Within (Carries fun v : Service => v.client.network.InShop hasFactory) (ask document vars) := by
  intro v h
  rw [on_ask, Client.on_ask_inProcess h.route]
  exact Client.askRouter_inShop hne _ ⟨h.route, h.router, h.reached⟩

/-- To collect an error leaves the router. -/
theorem collectError_carries (o : Operation) (error : Value) :
    Within (Carries fun v : Service => v.client.network.InShop hasFactory)
      (collectError o error) := by
  intro v h
  obtain ⟨v', called, moved, -⟩ := on_collectError o error v
  rw [called]
  exact moved.inShop h h.reached

/-- A mutation goes on to ask the router. -/
theorem mutate_carries (o : Operation) {document : String} (hne : document ≠ "") (vars : Value) :
    Within (Carries fun v : Service => v.client.network.InShop hasFactory)
      (mutate o document vars) :=
  -- Only the question and the error that may be collected reach the client.
  .bind (ask_carries hne vars) fun _ => .bind (.lift _) fun _ => .bind (.lift _) fun _ =>
    .bind (collectError_carries _ _) fun _ => .bind (.lift _) fun _ => .bind (.lift _) fun _ =>
    .lift _

/-- Reading a cart goes on to ask the router. -/
theorem cart_carries (id country withAllocation : Value) :
    Within (Carries fun v : Service => v.client.network.InShop hasFactory)
      (cart id country withAllocation) := by
  refine .bind (.lift _) fun sent => .bind (ask_carries ?_ _) fun data =>
    .bind (.lift _) fun w => ?_
  · -- The document for a cart is not empty, so it is sent.
    exact (Operation.cartGet.isFor_document _).ne_empty
  · split
    · exact .bind (collectError_carries _ _) fun _ => .pure _
    · exact .pure _

/-! ### Mutations of carts -/

/-- Identifiers are sent in a form that decodes alike. -/
theorem decodeValue_of_encodeValue {id sent : Value} (h : Gid.encodeValue id = .ok sent) :
    Gid.decodeValue sent = Gid.decodeValue id := by
  -- Only a text is encoded; anything else is sent as it is.
  cases id with
  | text s =>
    simp only [Gid.encodeValue, Gid.onText, Gid.encodeText] at h
    split at h
    · cases h
    · obtain rfl := Except.ok.inj h
      simp
  | _ =>
    simp only [Gid.encodeValue, Gid.onText] at h
    split at h
    · cases h
    · obtain rfl := Except.ok.inj h
      rfl

/-- What an identifier that is sent decodes to. -/
theorem exists_decodeValue_of_encodeValue {id sent : Value} (h : Gid.encodeValue id = .ok sent) :
    (∃ s, sent = .text (Gid.encode s) ∧ id = .text s) ∨
      Gid.decodeValue sent = .ok sent ∧ sent.truthy = false ∧ id = sent := by
  -- A text is encoded, and of anything else only what is falsy passes, as it is.
  cases id with
  | text s =>
    simp only [Gid.encodeValue, Gid.onText, Gid.encodeText] at h
    split at h
    · cases h
    · exact .inl ⟨s, (Except.ok.inj h).symm, rfl⟩
  | _ =>
    simp only [Gid.encodeValue, Gid.onText] at h
    split at h
    · cases h
    · rename_i falsy
      obtain rfl := Except.ok.inj h
      refine .inr ⟨?_, by simp_all, rfl⟩
      simp_all [Gid.decodeValue, Gid.onText]

/-- What was encoded can be decoded. -/
theorem exists_raw_of_encodeValue {id sent : Value} (h : Gid.encodeValue id = .ok sent) :
    ∃ raw, Gid.decodeValue sent = .ok raw := by
  obtain ⟨s, rfl, -⟩ | ⟨hraw, -⟩ := exists_decodeValue_of_encodeValue h
  · exact ⟨_, Gid.decodeValue_encoded s⟩
  · exact ⟨_, hraw⟩

end Service

/-- No identifier names no cart. -/
theorem Shop.on_hasCart_of_falsy {s : Shop} {raw : Value} (hraw : Gid.decodeValue raw = .ok raw)
    (falsy : raw.truthy = false) : Act.on (hasCart raw) s = (.ok false, s) := by
  rw [hasCart, hraw, Act.on_bind_of_ok (Act.on_lift _ s), falsy]
  rfl

namespace Answer

variable {document : String} {vars raw : Value} {p : Document.Parsed}

section

variable (hp : Document.parse (some document) vars = .ok p) (hid : cartIdOf vars = .ok raw)
  (falsy : raw.truthy = false) (s : Shop)

include hp hid falsy

/-- The handlers of edits turn down a request that names no cart. -/
theorem on_forKnownCart_unnamed (o : Operation)
    (mutate : (cartId country : Value) → Act Shop Value) : ∃ error supply,
    Act.on (forKnownCart o document vars mutate) s =
      (.ok (cartPayload o none [error]), { s with supply }) := by
  -- The identifier has been decoded once, and is decoded again in the shop.
  have hraw : Gid.decodeValue raw = .ok raw := by
    obtain ⟨given, -, decoded⟩ := Act.except_bind_eq_ok.1 hid
    exact Gid.decodeValue_decodeValue decoded
  rw [forKnownCart, hp, Act.on_bind_of_ok (Act.on_lift _ s), hid,
    Act.on_bind_of_ok (Act.on_lift _ s), Act.on_bind_of_ok (on_hasCart_of_falsy hraw falsy)]
  exact on_rejectedCart o ["cartId"] noCart s

/-- The handler of an edit rejects one of no cart. -/
theorem ownHandler_unnamed (factory : Option Factory) {e : CartEdit} {sent : Value}
    (hvars : vars = .ofFields [("cartId", sent), e.argument]) : ∃ error supply,
    Act.on (Router.ownHandler factory e.operation document vars) s =
      (.ok (cartPayload e.operation none [error]), { s with supply }) := by
  cases e with
  -- A note is the one edit that is not asked for by way of `forKnownCart`.
  | setNote note =>
    have hraw : Gid.decodeValue raw = .ok raw := by
      obtain ⟨given, -, decoded⟩ := Act.except_bind_eq_ok.1 hid
      exact Gid.decodeValue_decodeValue decoded
    have member : vars.member "note" = .ok note := by
      rw [hvars]
      simp [CartEdit.argument, Value.ofFields, Assoc.get?]
    have notFound : Act.on (findCart raw) s = (.ok none, s) := by
      rw [findCart, hraw, Act.on_bind_of_ok (Act.on_lift _ s), falsy]
      rfl
    have unnoted : Act.on (setNote raw (countryOf p) (note.orElse "")) s = (.ok none, s) := by
      rw [setNote, editCart, Act.on_bind_of_ok notFound, Act.on_bind_of_ok (Act.on_lift _ s)]
      rfl
    show ∃ error supply, Act.on (cartNoteUpdate document vars) s = _
    rw [cartNoteUpdate, hp, Act.on_bind_of_ok (Act.on_lift _ s), hid,
      Act.on_bind_of_ok (Act.on_lift _ s), member, Act.on_bind_of_ok (Act.on_lift _ s),
      Act.on_bind_of_ok unnoted]
    exact on_rejectedCart _ _ _ s
  | addLines lines =>
    show ∃ error supply, Act.on (cartLinesAdd document vars) s = _
    exact on_forKnownCart_unnamed hp hid falsy s .cartLinesAdd _
  | updateLines lines =>
    show ∃ error supply, Act.on (cartLinesUpdate document vars) s = _
    exact on_forKnownCart_unnamed hp hid falsy s .cartLinesUpdate _
  | removeLines lineIds =>
    show ∃ error supply, Act.on (cartLinesRemove document vars) s = _
    exact on_forKnownCart_unnamed hp hid falsy s .cartLinesRemove _
  | setAttribute key value =>
    show ∃ error supply, Act.on (cartAttributesUpdate document vars) s = _
    exact on_forKnownCart_unnamed hp hid falsy s .cartAttributesUpdate _
  | setDiscount codes =>
    show ∃ error supply, Act.on (cartDiscountCodesUpdate document vars) s = _
    exact on_forKnownCart_unnamed hp hid falsy s .cartDiscountCodesUpdate _

end

end Answer

/-- The router refuses to edit no cart. -/
theorem Router.dispatch_unnamed (factory : Option Factory) (e : CartEdit) {sent raw : Value}
    (hraw : Gid.decodeValue sent = .ok raw) (falsy : raw.truthy = false) (s : Shop) :
    ∃ w s', Act.on ((standard factory).dispatch (some (e.operation.document ""))
      (.ofFields [("cartId", sent), e.argument])) s = (.ok (some w), s') ∧
        w.IsRefusal e.operation := by
  have isFor := e.operation.isFor_document ""
  have given : (Value.ofFields [("cartId", sent), e.argument]).orElse (.record []) =
    .record _ := rfl
  obtain ⟨p, hp, -, -⟩ := isFor.parse given
  have hid : Answer.cartIdOf (.ofFields [("cartId", sent), e.argument]) = .ok raw := by
    have member : (Value.ofFields [("cartId", sent), e.argument]).member "cartId" = .ok sent := by
      simp [Value.ofFields, Assoc.get?]
    rw [Answer.cartIdOf, member]
    exact hraw
  -- The handler rejects the edit, and the router passes its answer on.
  obtain ⟨error, supply, handled⟩ := Answer.ownHandler_unnamed hp hid falsy s factory rfl
  rw [on_dispatch_isFor factory isFor given, Service.orElse_fields, handled]
  exact ⟨_, _, rfl, Answer.isRefusal_cartPayload _ _⟩

namespace Service

variable {hasFactory : Bool} {v v' : Service}

/-- The call collects an error whenever it answers with nothing. -/
def Complains (hasFactory : Bool) (x : Act Service Value) : Prop :=
  ∀ v r v', v.client.network.InShop hasFactory → Act.on x v = (.ok r, v') → r.truthy = false →
    v'.errors ≠ []

namespace Complains

variable {α : Type} {f : α → Act Service Value}

/-- What is read from the arguments can only fail. -/
theorem bind_lift {e : Except Fault α} (h : ∀ a, e = .ok a → Complains hasFactory (f a)) :
    Complains hasFactory (liftM e >>= f) := by
  intro v r v' hv hr
  obtain ⟨a, ha, hr⟩ := Act.on_lift_bind_eq_ok.1 hr
  exact h a ha v r v' hv hr

/-- What is worked out first changes nothing. -/
theorem still_bind {x : Act Service α} (hx : Within Eq x) (h : ∀ a, Complains hasFactory (f a)) :
    Complains hasFactory (x >>= f) := by
  intro v r v' hv hr
  obtain ⟨a, v₁, ha, hr⟩ := Act.on_bind_eq_ok.1 hr
  obtain rfl := hx.of_on ha
  exact h a v r v' hv hr

end Complains

/-- A mutation that edits a cart answers with its identifier, or it collects an error. -/
theorem edit_complains {e : CartEdit} {l : List Value} (hl : e.listed = .ok l) {id sent : Value}
    (henc : Gid.encodeValue id = .ok sent) : Complains hasFactory (mutate e.operation
      (e.operation.document "") (.ofFields [("cartId", sent), e.argument])) := by
  intro v r v' hv hr falsy
  have isFor := e.operation.isFor_document ""
  have field : e.operation.field = e.operation.root := by cases e <;> rfl
  -- To refuse adds an error to those that were collected.
  have refused : ∀ {w v₁ error}, Act.on (mutate e.operation (e.operation.document "")
      (.ofFields [("cartId", sent), e.argument])) v = (.ok w, v₁) →
      v₁.errors = v.errors ++ [error] → v'.errors ≠ [] := by
    intro w v₁ error called herr
    obtain ⟨-, rfl⟩ := Prod.mk.inj (called.symm.trans hr)
    simp [herr]
  obtain ⟨raw, hraw⟩ := exists_raw_of_encodeValue henc
  -- The identifier names a cart or is falsy, and a falsy one is sent as it is.
  by_cases named : raw.truthy = true
  · obtain ⟨s, rfl, -⟩ | ⟨hraw', unsent, -⟩ := exists_decodeValue_of_encodeValue henc
    · -- The service does what the engine does: it has the cart, or an error.
      have follows := mutate_follows (Gid.encode s) (factoryOf_cases hasFactory) hv.reached hv.route
        hv.router hl
      by_cases answered : ∃ kc, (Act.on (e.run (.text (Gid.encode s)) .null)
          v.client.network.shop).1 = .ok (some kc)
      · -- The identifier that is answered is the one that is named.
        obtain rfl := Except.ok.inj (hraw.symm.trans (Gid.decodeValue_text _))
        have same := (follows.answered answered).1.symm.trans (congrArg Prod.fst hr)
        obtain rfl := Except.ok.inj same
        cases named.symm.trans falsy
      · obtain ⟨hnull, -, error, herr⟩ := follows.refused fun kc hkc => answered ⟨kc, hkc⟩
        exact refused (Prod.ext hnull rfl) herr
    · obtain rfl := Except.ok.inj (hraw.symm.trans hraw')
      cases named.symm.trans unsent
  · -- Without an identifier, the request is turned down by the router.
    obtain ⟨w, s, dispatched, refusal⟩ := Router.dispatch_unnamed (factoryOf hasFactory) e hraw
      (by simpa using named) v.client.network.shop
    rw [← hv.router, ← orElse_fields] at dispatched
    obtain ⟨v₁, error, called, -, herr⟩ := mutate_refused hv.route isFor.ne_empty
      (field ▸ e.operation.field_ne) dispatched (.inr ⟨w, rfl, refusal⟩)
    exact refused called herr

end Service

/-! ### Making carts -/

/-- The answer shows a cart that has an identifier, or none and an error. -/
def Answer.ShowsCart (o : Operation) (answer : Value) : Prop :=
  (∃ c, answer = cartPayload o (some (.made c)) [] ∧ Gid.decode c.id ≠ "") ∨
    ∃ error, answer = cartPayload o none [error]

/-- A cart that is made gets an identifier. -/
theorem Answer.cartCreate_showsCart {vars answer : Value} {s s' : Shop}
    (h : Act.on (cartCreate vars) s = (.ok answer, s')) : ShowsCart .cartCreate answer := by
  unfold cartCreate at h
  obtain ⟨input, -, h⟩ := Act.on_lift_bind_eq_ok.1 h
  obtain ⟨buyer, -, h⟩ := Act.on_lift_bind_eq_ok.1 h
  extract_lets make at h
  -- The country is read from what the buyer is given as, or from nothing.
  have made : ∀ buyer, Act.on (make buyer) s = (.ok answer, s') →
      ShowsCart .cartCreate answer := by
    intro buyer h
    obtain ⟨country, -, h⟩ := Act.on_lift_bind_eq_ok.1 h
    obtain ⟨cart, s₁, hcart, h⟩ := Act.on_bind_eq_ok.1 h
    rcases createCart_eq_ok hcart with
      ⟨rfl, -⟩ | ⟨key, k, s₂, -, -, hdecode, ⟨given, -⟩ | fresh, rfl, -⟩
    · obtain ⟨text, -, h⟩ := Act.on_lift_bind_eq_ok.1 h
      obtain ⟨error, supply, rejected⟩ := on_rejectedCart .cartCreate
        ["input", "buyerIdentity", "countryCode"]
        ("Country code " ++ text ++ " is not a valid market.") s₁
      exact .inr ⟨error, Except.ok.inj ((congrArg Prod.fst h).symm.trans
        (congrArg Prod.fst rejected))⟩
    · -- No identifier is given, so the cart was not named.
      cases given.decoded
    · -- A fresh identifier starts with the prefix of carts, so it is not empty.
      obtain ⟨s₃, t, -, -, -, rfl⟩ := freshId_ok (by decide) fresh
      refine .inl ⟨_, (Except.ok.inj (congrArg Prod.fst h)).symm, fun empty => ?_⟩
      have raw : Gid.decode (Gid.cartPrefix ++ t) = "" := empty
      rw [hdecode] at raw
      simpa [Gid.cartPrefix, Gid.kindPrefix] using congrArg String.length raw
  split at h
  · exact made buyer h
  · obtain ⟨other, -, h⟩ := Act.on_lift_bind_eq_ok.1 h
    exact made other h

/-- What is sent to make a cart. -/
def newCartVars (country : Value) : Value :=
  .ofFields [("input", .ofFields [("buyerIdentity", .ofFields [("countryCode", country)])])]

/-- Variables that are given are those that are sent. -/
theorem newCartVars_orElse (country : Value) :
    (newCartVars country).orElse (.record []) = newCartVars country := rfl

/-- The router answers the document that makes a cart with one that has an identifier,
or refuses. -/
theorem Router.dispatch_cartCreate (hasFactory : Bool) (country : Value) {s : Shop}
    (hs : Reachable s) :
    let answer := (Act.on ((standard (factoryOf hasFactory)).dispatch (some Document.cartCreate)
      (newCartVars country)) s).1
    (∃ c, answer = .ok (some (Answer.cartPayload .cartCreate (some (.made c)) [])) ∧
      Gid.decode c.id ≠ "") ∨
    (answer = .error .exhausted ∨ ∃ w, answer = .ok (some w) ∧ w.IsRefusal .cartCreate) := by
  have isFor := Operation.cartCreate.isFor_document ""
  have given := newCartVars_orElse country
  intro answer
  rcases hr : Act.on (ownHandler (factoryOf hasFactory) .cartCreate
    (Operation.cartCreate.document "") (newCartVars country)) s with ⟨fault | w, s'⟩
  · -- Lack of identifiers is the only fault of the handler.
    exact .inr (dispatch_fault (factoryOf_cases hasFactory) rfl isFor given hs.kept hr).1
  · have shown : answer = _ := congrArg Prod.fst (on_dispatch_isFor _ isFor given s)
    rw [given, hr] at shown
    rcases Answer.cartCreate_showsCart hr with ⟨c, rfl, named⟩ | ⟨error, rfl⟩
    · exact .inl ⟨c, shown, named⟩
    · exact .inr (.inr ⟨_, shown, Answer.isRefusal_cartPayload _ _⟩)

namespace Service

variable {hasFactory : Bool} {v v' : Service}

/-- Making a cart answers with its identifier, or it collects an error. -/
theorem newCart_complains (country : Value) : Complains hasFactory (newCart country) := by
  intro v r v' hv hr falsy
  have isFor := Operation.cartCreate.isFor_document ""
  have hroot : Operation.cartCreate.root ≠ "errors" ∧ Operation.cartCreate.root ≠ "userErrors" :=
    Operation.cartCreate.field_ne
  rcases hd : Act.on (v.client.network.router.dispatch (some Document.cartCreate)
    ((newCartVars country).orElse (.record []))) v.client.network.shop with ⟨answer, s⟩
  have dispatched := Router.dispatch_cartCreate hasFactory country hv.reached
  rw [← hv.router, ← newCartVars_orElse, hd] at dispatched
  -- The identifier of the cart is not empty, so the answer is not nothing.
  rcases dispatched with ⟨c, rfl, named⟩ | refused
  · obtain ⟨v₁, called, -⟩ := mutate_answered hv.route isFor.ne_empty hroot hd
    obtain ⟨hr', -⟩ := Prod.mk.inj (called.symm.trans hr)
    obtain rfl := Except.ok.inj hr'
    simp [named] at falsy
  · obtain ⟨v₁, error, called, -, herr⟩ := mutate_refused hv.route isFor.ne_empty hroot hd refused
    obtain ⟨-, rfl⟩ := Prod.mk.inj (called.symm.trans hr)
    simp [herr]

/-! ### Reading carts -/

/-- What is collected is what the client remembers, or else the error. -/
theorem collected_ne_nil {error : Value} (lastError : Value) (h : error.truthy = true) :
    collected lastError error ≠ [] := by
  have truthy : (lastError.orElse error).truthy = true := by
    by_cases hl : lastError.truthy = true
    · have same : lastError.orElse error = lastError := if_pos hl
      rw [same, hl]
    · have same : lastError.orElse error = error := if_neg hl
      rw [same, h]
  simp [collected, truthy]

/-- A cart that is not read has collected an error. -/
theorem cart_complains (id country withAllocation : Value) :
    Complains hasFactory (cart id country withAllocation) := by
  intro v r v' hv hr falsy
  unfold cart at hr
  obtain ⟨sent, -, hr⟩ := Act.on_lift_bind_eq_ok.1 hr
  obtain ⟨data, v₁, -, hr⟩ := Act.on_bind_eq_ok.1 hr
  obtain ⟨w, -, hr⟩ := Act.on_lift_bind_eq_ok.1 hr
  -- What is read is falsy, so the error has been collected.
  split at hr
  · obtain ⟨_, v₂, collects, hr⟩ := Act.on_bind_eq_ok.1 hr
    obtain ⟨-, rfl⟩ := Prod.mk.inj hr
    obtain ⟨v₃, collects', -, -, herr⟩ :=
      on_collectError .cartGet (.text ("Cart " ++ id.display ++ " not found")) v₁
    obtain ⟨-, rfl⟩ := Prod.mk.inj (collects.symm.trans collects')
    rw [herr]
    exact List.append_ne_nil_of_right_ne_nil _ (collected_ne_nil _ (by simp))
  · -- Otherwise it is handed on, and it is not falsy.
    rename_i truthy
    obtain ⟨hw, rfl⟩ := Prod.mk.inj hr
    obtain rfl := Except.ok.inj hw
    simp [falsy] at truthy

end Service

/-- The cart can be priced in a country: that is one, and the pieces of all lines can be counted. -/
def Cart.ReadIn (c : Cart) (country : Value) : Prop :=
  (∃ key, (KeptCart.made c).countryFor country = .ok key) ∧ c.Countable

namespace Shop

variable {s : Shop} {k : String} {c : Cart} {country : Value}

/-- The only thing that can be wrong with a country is what it is. -/
theorem eq_shape_of_countryFor {fault : Fault}
    (h : (KeptCart.made c).countryFor country = .error fault) : fault = .shape := by
  rw [KeptCart.countryFor] at h
  split at h
  · rw [Value.asKey] at h
    split at h
    · cases h
    · exact (Except.error.inj h).symm
  · cases h

/-- A cart that is known is read with its costs, or that fails in a way that is reported by a single
error. -/
theorem getCart_cases (hs : Coherent s) (named : Names (.text k) k) (hc : s.HasCart k c) :
    (∃ key qs, qs.length = c.lines.length ∧
      (Act.on (getCart (.text k) country) s).1 = .ok (some (.made (c.quoted key qs)))) ∨
    ¬ c.ReadIn country ∧ ∃ fault, Router.isHard fault = false ∧ fault.isRejection = false ∧
      Act.on (getCart (.text k) country) s = (.error fault, s) := by
  rw [getCart, on_setCountry named hc]
  cases hkey : (KeptCart.made c).countryFor country with
  -- The country is not one, and that is found out before anything is priced.
  | error fault =>
    obtain rfl := eq_shape_of_countryFor hkey
    refine .inr ⟨?_, .shape, rfl, rfl, ?_⟩
    · rintro ⟨⟨key, hkey'⟩, -⟩
      simp [hkey] at hkey'
    · rw [on_repriceCart named (cart?_eq_made.2 hc), hkey]
  | ok key =>
    -- All pieces can be counted, and every line can be priced.
    by_cases hcount : c.Countable
    · obtain ⟨qs, hqs, priced⟩ := on_repriceCart_countable hs named hc hkey hcount
      exact .inl ⟨key, qs, hqs.length_eq.symm, congrArg Prod.fst priced⟩
    · exact .inr ⟨fun h => hcount h.2, .tooLarge, rfl, rfl,
        on_repriceCart_tooLarge hs named hc hkey hcount⟩

end Shop

/-- What the router answers in place of a cart that is known. -/
theorem Router.dispatch_known (factory : Option Factory) {s : Shop} {sent : Value} {k : String}
    {c : Cart} (hs : Coherent s) (hraw : Gid.decodeValue sent = .ok (.text k))
    (named : Names (.text k) k) (hc : s.HasCart k c) (country : Value) : ∃ w s',
    (∀ allocation, Act.on ((standard factory).dispatch (some (Document.cartGet allocation))
      (readVars sent country)) s = (.ok (some (.ofFields [("cart", w)])), s')) ∧
      ((∃ key qs, qs.length = c.lines.length ∧ w = (c.quoted key qs).toValue) ∨
        ¬ c.ReadIn country ∧ ∃ error, w = .ofFields [("userErrors", .list [error])]) := by
  -- The cart with its costs is answered, or the fault is reported in its place.
  rcases getCart_cases hs named hc with
    ⟨key, qs, hl, read⟩ | ⟨unread, fault, soft, single, failed⟩
  · obtain ⟨s', hr⟩ : ∃ s', Act.on (getCart (.text k) country) s =
        (.ok (some (.made (c.quoted key qs))), s') := ⟨_, Prod.ext read rfl⟩
    refine ⟨_, s', fun allocation => ?_, .inl ⟨key, qs, hl, rfl⟩⟩
    rw [on_dispatch_cartGet factory allocation hraw country s, hr]
    rfl
  · obtain ⟨error, s', reported⟩ := Answer.on_faultErrors_single single s
    refine ⟨_, s', fun allocation => ?_, .inr ⟨unread, error, rfl⟩⟩
    rw [on_dispatch_cartGet factory allocation hraw country s, failed]
    dsimp only
    rw [soft, if_neg Bool.false_ne_true, reported]
    rfl

/-- What the router answers in place of a cart that is not known. -/
theorem Router.dispatch_unknown (factory : Option Factory) {s : Shop} {sent raw : Value}
    (hs : Reachable s) (hraw : Gid.decodeValue sent = .ok raw)
    (unknown : ∀ k c, Names raw k → ¬ s.HasCart k c) (country : Value) (allocation : String) :
    Act.on ((standard factory).dispatch (some (Document.cartGet allocation))
      (readVars sent country)) s = (.ok (some (.ofFields [("cart", .null)])), s) := by
  have idem := Gid.decodeValue_decodeValue hraw
  have absent : Act.on (hasCart raw) s = (.ok false, s) := by
    -- An identifier that is falsy names nothing; any other is a text, and names no cart here.
    by_cases falsy : raw.truthy = false
    · exact on_hasCart_of_falsy idem falsy
    · cases raw with
      | text id =>
        rcases hs.hasCart_cases id with absent | ⟨k, c, named, hc⟩
        · exact absent
        · exact absurd hc (unknown k c named)
      | _ => simp_all [Gid.decodeValue, Gid.onText]
  rw [on_dispatch_cartGet factory allocation hraw country s, getCart,
    on_setCountry_of_unknown absent]
  rfl

namespace Service

variable {hasFactory : Bool} {v v' : Service}

/-- What is read in place of a cart, and what is collected meanwhile: null and an error if the
identifier names no cart; else the cart with its costs, or a report of errors, and no error. -/
theorem cart_cases (hv : v.client.network.InShop hasFactory) {id sent : Value}
    (henc : Gid.encodeValue id = .ok sent) (country withAllocation : Value) : ∃ w v',
    Act.on (cart id country withAllocation) v = (.ok w, v') ∧
      (w = .null ∧ (∀ k c, Names id k → ¬ v.client.network.shop.HasCart k c) ∨
        v'.errors = v.errors ∧ ∃ k c, Names id k ∧ v.client.network.shop.HasCart k c ∧
          ((∃ key qs, qs.length = c.lines.length ∧ w = (c.quoted key qs).toValue) ∨
            ¬ c.ReadIn country ∧ ∃ error, w = .ofFields [("userErrors", .list [error])])) := by
  by_cases known : ∃ k c, Names id k ∧ v.client.network.shop.HasCart k c
  · obtain ⟨k, c, named, hc⟩ := known
    -- The cart is known by the identifier as it is sent.
    have hraw := (decodeValue_of_encodeValue henc).trans named.decoded
    obtain ⟨w, s', dispatched, shown⟩ := Router.dispatch_known (factoryOf hasFactory)
      hv.reached.coherent hraw named.raw hc country
    rw [← hv.router] at dispatched
    obtain ⟨v', called, -, ⟨-, same⟩ | ⟨falsy, -⟩⟩ :=
      on_cart hv.route henc country withAllocation dispatched
    · exact ⟨w, v', called, .inr ⟨same, k, c, named, hc, shown⟩⟩
    · -- Neither a cart nor a report is empty.
      obtain ⟨key, qs, -, rfl⟩ | ⟨-, error, rfl⟩ := shown <;> cases falsy
  · obtain ⟨raw, hraw⟩ := exists_raw_of_encodeValue henc
    -- No cart is known, so null is answered in its place.
    have unknown : ∀ k c, Names id k → ¬ v.client.network.shop.HasCart k c :=
      fun k c named hc => known ⟨k, c, named, hc⟩
    have dispatched := Router.dispatch_unknown (factoryOf hasFactory) hv.reached hraw
      (fun k c named => unknown k c ⟨(decodeValue_of_encodeValue henc).symm.trans
        (hraw.trans ((Gid.decodeValue_decodeValue hraw).symm.trans named.decoded)),
        named.ne_empty⟩) country
    rw [← hv.router] at dispatched
    obtain ⟨v', called, -⟩ := on_cart hv.route henc country withAllocation dispatched
    exact ⟨.null, v', called, .inl ⟨rfl, unknown⟩⟩

end Service
end Storefront
