import Storefront.Proofs.Asking
import Storefront.Proofs.Dispatch
import Storefront.Proofs.Encoded
import Storefront.Proofs.Outcomes
import Storefront.Service.Carts

/-! # The document of an edit

A document that edits a cart is read by the router, answered by a handler, and the answer is read by
the service that sent it.  Where the router is asked itself, all of this comes to the edit that the
engine of carts makes: the handler hands on what the engine did, so does the router, and so does the
service.

* `Answer.ownHandler_follows` : the handler of an edit
* `Router.dispatch_follows` : the router, given the document of an edit
* `Service.mutate_follows` : the service that sends the document -/

namespace Storefront

open Shop

/-! ### Edits as they are sent -/

namespace CartEdit

/-- The operation that asks for an edit. -/
def operation : CartEdit → Operation
  | addLines _ => .cartLinesAdd
  | updateLines _ => .cartLinesUpdate
  | removeLines _ => .cartLinesRemove
  | setNote _ => .cartNoteUpdate
  | setAttribute _ _ => .cartAttributesUpdate
  | setDiscount _ => .cartDiscountCodesUpdate

/-- What is sent to ask for an edit, besides the identifier of the cart. -/
def argument : CartEdit → String × Value
  | addLines lines => ("lines", lines)
  | updateLines lines => ("lines", lines)
  | removeLines lineIds => ("lineIds", lineIds)
  | setNote note => ("note", note)
  | setAttribute key value =>
    ("attributes", .list [.ofFields [("key", key), ("value", value)]])
  | setDiscount codes => ("discountCodes", codes)

/-- The variables that ask for an edit of a cart. -/
def vars (id : String) (e : CartEdit) : Value := .ofFields [("cartId", .text id), e.argument]

variable {s s' : Shop} {id : String} {e : CartEdit}

/-- No edit sends what it changes under the name of the cart's id. -/
theorem argument_ne (e : CartEdit) : e.argument.1 ≠ "cartId" := by
  cases e <;> exact of_decide_eq_true rfl

/-- The cart's id is the first of the variables an edit is sent with. -/
theorem member_cartId : (e.vars id).member "cartId" = .ok (.text id) := by
  simp [vars, Value.ofFields, Value.member, Assoc.get?]

/-- What an edit changes is its other variable. -/
theorem member_argument : (e.vars id).member e.argument.1 = .ok e.argument.2 := by
  have other : "cartId" ≠ e.argument.1 := e.argument_ne.symm
  simp [vars, Value.ofFields, Value.member, Assoc.get?, other]

/-- An edit always sends variables, so nothing stands in for them. -/
theorem vars_orElse : (e.vars id).orElse (.record []) = e.vars id := rfl

/-- An edit that succeeds answers with the cart of the identifier. -/
theorem run_answer {country : Value} {kc : KeptCart} (h : Reachable s)
    (hr : Act.on (e.run (.text id) country) s = (.ok (some kc), s')) :
    ∃ c, kc = .made c ∧ c.id = Gid.decode id := by
  have reached : Reachable s' := by
    have := h.cart (.edit (.text id) country e)
    rwa [CartRequest.run, hr] at this
  rw [e.run_eq] at hr
  rcases editCart_eq_ok hr with ⟨none, -⟩ | ⟨_, _, _, _, _, _, _, none⟩ |
    ⟨k, _, _, kc', s₁, hid, _, _, _, hcommit⟩
  · cases none
  · cases none
  · obtain ⟨_, ha, kept⟩ := commit_eq_ok hid.raw hcommit
    obtain rfl := Option.some.inj ha
    -- What is kept under the identifier is a cart of the shop's own, with that identifier.
    obtain ⟨k', c, hk, hc⟩ := reached.coherent.own _ _ kept
    obtain rfl := Key.text.inj hk
    have sound := reached.coherent.carts k c (kept.trans (congrArg some hc))
    have decoded : Gid.decode id = k := by simpa using hid.decoded
    cases kc with
    | made c' =>
      obtain rfl : c' = c := by simpa [KeptCart.toEntity] using hc
      exact ⟨c', rfl, sound.id.trans decoded.symm⟩
    | given v => simp [KeptCart.toEntity] at hc

end CartEdit

/-! ### Handlers of edits -/

/-- Whether there is a cart that an identifier names. -/
theorem Shop.hasCart_cases {s : Shop} (hs : Kept False s) (id : String) :
    Act.on (hasCart (.text id)) s = (.ok false, s) ∧
      Act.on (findCart (.text id)) s = (.ok none, s) ∨
    Act.on (hasCart (.text id)) s = (.ok true, s) ∧
      ∃ k kc, Names (.text id) k ∧ s.cart? k = some kc := by
  unfold hasCart findCart
  simp only [Gid.decodeValue_text, Act.on_bind_of_ok (Act.on_lift _ s), Value.truthy_text]
  by_cases hne : Gid.decode id = ""
  · simp [hne]
  · simp only [ne_eq, hne, not_false_eq_true, decide_true, Bool.not_true, Bool.false_eq_true,
      if_false, Value.asKey, Value.toKey?, Value.asText, Act.on_bind_of_ok (Act.on_lift _ s),
      on_has, Act.on_bind_of_ok (on_find? s _ _), Act.on_pure]
    cases he : s.entity? Gid.cartPrefix (.text (Gid.decode id)) with
    | none => exact .inl ⟨rfl, rfl⟩
    | some e =>
      -- Only carts of the shop's own are kept as carts, and these are found.
      obtain ⟨c, rfl, -⟩ := (hs.fit he).exists_cart
      exact .inr ⟨rfl, _, .made c, ⟨Gid.decodeValue_text id, hne⟩, cart?_eq_made.2 he⟩

/-- The answer of a handler follows what the engine did: the cart that it answers with is shown, a
rejection is answered with a single error, whose code is drawn, and a fault is left as it is. -/
def Answer.Follows (o : Operation) (answer : Except Fault Value × Shop) :
    Except Fault (Option KeptCart) × Shop → Prop
  | (.ok (some kc), s') => answer = (.ok (cartPayload o (some kc) []), s')
  | (.ok none, s') =>
    ∃ error supply, answer = (.ok (cartPayload o none [error]), { s' with supply })
  | (.error fault, s') => answer = (.error fault, s')

namespace Answer

variable {s : Shop} {id : String} {e : CartEdit} {l : List Value}

/-- A handler that rejects an edit answers the error without a cart, and only draws. -/
theorem on_rejectedCart (o : Operation) (field : List String) (message : String) (s : Shop) :
    ∃ error supply, Act.on (rejectedCart o field message) s =
      (.ok (cartPayload o none [error]), { s with supply }) := ⟨_, _, rfl⟩

/-- A cart that is answered with, or an error. -/
theorem mutated_follows (o : Operation) (x : Act Shop (Option KeptCart)) (field message : String)
    (s : Shop) : Follows o (Act.on (x >>= fun cart => mutated o cart field message) s)
      (Act.on x s) := by
  rw [Act.on_bind]
  rcases Act.on x s with ⟨f | _ | kc, s'⟩
  · exact rfl
  · exact on_rejectedCart o [field] message s'
  · exact rfl

/-- An edit of no cart is rejected by the engine, once it has read what the request lists. -/
theorem on_run_of_not_found (hl : e.listed = .ok l) {country : Value}
    (h : Act.on (findCart (.text id)) s = (.ok none, s)) :
    Act.on (e.run (.text id) country) s = (.ok none, s) := by
  rw [e.run_eq, editCart, Act.on_bind_of_ok h, hl, Act.on_bind_of_ok (Act.on_lift _ s)]
  rfl

/-- The handler of an edit asks for a cart that has to exist. -/
theorem forKnownCart_follows {document : String} {p : Document.Parsed} {o : Operation}
    {mutate : (cartId country : Value) → Act Shop Value} (hs : Kept False s)
    (hp : Document.parse (some document) (e.vars id) = .ok p) (hcontext : p.context = [])
    (hl : e.listed = .ok l)
    (h : ∀ k kc, Names (.text id) k → s.cart? k = some kc →
      Follows o (Act.on (mutate (.text (Gid.decode id)) .null) s)
        (Act.on (e.run (.text id) .null) s)) :
    Follows o (Act.on (forKnownCart o document (e.vars id) mutate) s)
      (Act.on (e.run (.text id) .null) s) := by
  have hid : cartIdOf (e.vars id) = .ok (.text (Gid.decode id)) := by
    rw [cartIdOf, CartEdit.member_cartId]
    rfl
  have hcountry : countryOf p = .null := by
    rw [countryOf, Document.Parsed.contextValue, hcontext]; rfl
  -- The cart is looked up under its raw identifier.
  have raw : Act.on (hasCart (.text (Gid.decode id))) s = Act.on (hasCart (.text id)) s := by
    simp only [hasCart, Gid.decodeValue_text, Gid.decode_decode]
  unfold forKnownCart
  rw [hp, hid, Act.on_bind_of_ok (Act.on_lift _ s), Act.on_bind_of_ok (Act.on_lift _ s), hcountry]
  rcases hasCart_cases hs id with ⟨unknown, notFound⟩ | ⟨known, k, kc, hname, hkc⟩
  · rw [Act.on_bind_of_ok (raw.trans unknown), on_run_of_not_found hl notFound]
    exact on_rejectedCart o ["cartId"] noCart s
  · rw [Act.on_bind_of_ok (raw.trans known)]
    exact h k kc hname hkc

/-- The identifier of a cart may as well be decoded already. -/
theorem run_decode (hl : e.listed = .ok l) (s : Shop) :
    Act.on (e.run (.text (Gid.decode id)) .null) s = Act.on (e.run (.text id) .null) s :=
  CartEdit.run_congr (by simp) hl hl (fun _ => rfl) s

/-- Setting the note does not look for the cart first, and neither does the engine. -/
theorem cartNoteUpdate_follows {document : String} {p : Document.Parsed} (note : Value)
    (hp : Document.parse (some document) ((CartEdit.setNote note).vars id) = .ok p)
    (hcontext : p.context = []) (s : Shop) :
    Follows .cartNoteUpdate (Act.on (cartNoteUpdate document ((CartEdit.setNote note).vars id)) s)
      (Act.on (Shop.setNote (.text id) .null note) s) := by
  have hid : cartIdOf ((CartEdit.setNote note).vars id) = .ok (.text (Gid.decode id)) := by
    rw [cartIdOf, CartEdit.member_cartId]
    rfl
  have hnote : ((CartEdit.setNote note).vars id).member "note" = .ok note :=
    CartEdit.member_argument (e := .setNote note)
  have hcountry : countryOf p = .null := by
    rw [countryOf, Document.Parsed.contextValue, hcontext]; rfl
  -- An absent note becomes the empty one here and once more in the engine.
  have twice : (note.orElse "").orElse "" = note.orElse "" := by
    unfold Value.orElse
    split <;> simp [*]
  have same : Act.on (Shop.setNote (.text (Gid.decode id)) .null (note.orElse "")) s =
      Act.on (Shop.setNote (.text id) .null note) s :=
    CartEdit.run_congr (e := .setNote (note.orElse "")) (f := .setNote note) (by simp) rfl rfl
      (fun kc => by simp only [CartEdit.change, twice]) s
  -- The handler's steps up to the engine call all succeed.
  unfold cartNoteUpdate
  rw [hp, hid, hnote, Act.on_bind_of_ok (Act.on_lift _ s), Act.on_bind_of_ok (Act.on_lift _ s),
    Act.on_bind_of_ok (Act.on_lift _ s), hcountry, ← same]
  exact mutated_follows _ (Shop.setNote _ _ _) _ _ s

/-- The edit sends its attribute as the only row. -/
theorem attributeRows_vars (key value : Value) (id : String) :
    attributeRows ((CartEdit.setAttribute key value).vars id) =
      .ok [.ofFields [("key", key), ("value", value)]] := by
  have member : ((CartEdit.setAttribute key value).vars id).member "attributes" =
      .ok (.list [.ofFields [("key", key), ("value", value)]]) :=
    CartEdit.member_argument (e := .setAttribute key value)
  rw [attributeRows, member]
  rfl

/-- One row is complete when neither its key nor its value is falsy. -/
theorem allComplete_single (key value : Value) :
    allComplete [.ofFields [("key", key), ("value", value)]] =
      .ok (key.truthy && value.truthy) := by
  have hkey : (Value.ofFields [("key", key), ("value", value)]).member "key" = .ok key := by
    simp [Value.ofFields, Assoc.get?]
  have hvalue : (Value.ofFields [("key", key), ("value", value)]).member "value" = .ok value := by
    simp [Value.ofFields, Assoc.get?]
  simp only [allComplete, hkey, hvalue, bind, Except.bind]
  cases key.truthy <;> cases value.truthy <;> rfl

/-- One row is set as the engine sets an attribute. -/
theorem on_setRows_single (id : String) (key value : Value) (s : Shop) :
    Act.on (setRows (.text (Gid.decode id)) .null [.ofFields [("key", key), ("value", value)]]
        none) s =
      Act.on (Shop.setAttribute (.text id) .null key value) s := by
  have item : (Value.ofFields [("key", key), ("value", value)]).item "key" = .ok key ∧
      (Value.ofFields [("key", key), ("value", value)]).item "value" = .ok value := by
    simp [Value.ofFields, Value.item, Assoc.get?]
  -- The handler hands the engine the decoded id.
  have raw : Act.on (Shop.setAttribute (.text (Gid.decode id)) .null key value) s =
      Act.on (Shop.setAttribute (.text id) .null key value) s :=
    run_decode (e := .setAttribute key value) rfl s
  rw [setRows, item.1, item.2, Act.on_bind_of_ok (Act.on_lift _ s),
    Act.on_bind_of_ok (Act.on_lift _ s), Act.on_bind, raw]
  rcases Act.on (Shop.setAttribute (.text id) .null key value) s with ⟨f | kc', s'⟩ <;> rfl

/-- Setting an attribute of a cart that exists: what lacks its key or its value is rejected before
the engine is asked, which would reject it as well. -/
theorem setAttribute_follows {key value : Value} {k : String} {kc : KeptCart}
    (hid : Names (.text id) k) (hkc : s.cart? k = some kc) :
    Follows .cartAttributesUpdate
      (Act.on (do
        let rows ← attributeRows ((CartEdit.setAttribute key value).vars id)
        if rows.isEmpty || !(← allComplete rows) then
          rejectedCart .cartAttributesUpdate ["attributes"]
            "Attributes need a non-empty key and value."
        else
          return cartPayload .cartAttributesUpdate
            (← setRows (.text (Gid.decode id)) .null rows none) []) s)
      (Act.on (Shop.setAttribute (.text id) .null key value) s) := by
  -- The cart is known, so the engine runs the change and nothing else.
  have engine : Act.on (Shop.setAttribute (.text id) .null key value) s = _ :=
    on_editCart hid hkc fun _ kc => liftM (withAttribute key value kc)
  rw [attributeRows_vars, Act.on_bind_of_ok (Act.on_lift _ s)]
  dsimp only [List.isEmpty_cons, Bool.false_or]
  rw [allComplete_single, Act.on_bind_of_ok (Act.on_lift _ s)]
  cases hboth : key.truthy && value.truthy with
  -- the guard refuses here, and the engine's own guard would have refused too
  | false =>
    have rejected : withAttribute key value kc = .ok none := by
      rw [withAttribute, if_pos (by rw [← Bool.not_and, hboth]; rfl)]
      rfl
    rw [engine, rejected]
    exact on_rejectedCart _ _ _ s
  | true =>
    -- both are given, so the engine can fail but not reject
    have answered : ∀ s', Act.on (Shop.setAttribute (.text id) .null key value) s ≠
        (.ok none, s') := by
      intro s' rejected
      obtain ⟨hkey, hvalue⟩ := Bool.and_eq_true_iff.1 hboth
      obtain ⟨kc', none, -⟩ := setAttribute_eq_ok hid hkc hkey hvalue rejected
      cases none
    rw [if_neg (by decide), Act.on_bind, on_setRows_single]
    rcases hr : Act.on (Shop.setAttribute (.text id) .null key value) s with ⟨f | _ | kc', s'⟩
    · exact rfl
    · exact absurd hr (answered s')
    · exact rfl

/-- The handlers of most edits hand on what was sent to the engine. -/
theorem handedOn_follows {document : String} {p : Document.Parsed} (o : Operation)
    {edit : (id country argument : Value) → Act Shop (Option KeptCart)} {name : String}
    {arg : Value}
    (hrun : ∀ id, e.run id .null = edit id .null arg) (harg : e.argument = (name, arg))
    (field message : String) (hs : Kept False s)
    (hp : Document.parse (some document) (e.vars id) = .ok p) (hcontext : p.context = [])
    (hl : e.listed = .ok l) :
    Follows o (Act.on (forKnownCart o document (e.vars id) fun cartId country => do
        mutated o (← edit cartId country (← (e.vars id).member name)) field message) s)
      (Act.on (e.run (.text id) .null) s) := by
  refine forKnownCart_follows hs hp hcontext hl fun k kc _ _ => ?_
  -- What the engine gets is the variable the edit was sent with.
  have member : (e.vars id).member name = .ok arg := by
    have sent : (e.vars id).member e.argument.1 = .ok e.argument.2 := CartEdit.member_argument
    simpa only [harg] using sent
  rw [member, Act.on_bind_of_ok (Act.on_lift _ s), ← run_decode hl, hrun]
  exact mutated_follows o _ field message s

/-- The handler of an edit does what the engine does for the same cart and in its own market. -/
theorem ownHandler_follows (factory : Option Factory) {document : String} {p : Document.Parsed}
    (hs : Kept False s) (hp : Document.parse (some document) (e.vars id) = .ok p)
    (hcontext : p.context = []) (hl : e.listed = .ok l) :
    Follows e.operation (Act.on (Router.ownHandler factory e.operation document (e.vars id)) s)
      (Act.on (e.run (.text id) .null) s) := by
  cases e with
  | addLines lines =>
    exact handedOn_follows .cartLinesAdd (fun _ => rfl) rfl _ _ hs hp hcontext hl
  | updateLines lines =>
    exact handedOn_follows .cartLinesUpdate (fun _ => rfl) rfl _ _ hs hp hcontext hl
  | removeLines lineIds =>
    exact handedOn_follows .cartLinesRemove (fun _ => rfl) rfl _ _ hs hp hcontext hl
  | setDiscount codes =>
    exact handedOn_follows .cartDiscountCodesUpdate (fun _ => rfl) rfl _ _ hs hp hcontext hl
  | setNote note => exact cartNoteUpdate_follows note hp hcontext s
  -- the one edit whose handler reads a list of rows
  | setAttribute key value =>
    change Follows _ (Act.on (cartAttributesUpdate document _) s) _
    refine forKnownCart_follows hs hp hcontext hl fun k kc hid hkc => ?_
    exact setAttribute_follows hid hkc

end Answer

/-! ### The document of an edit -/

/-- An answer without a cart, but with errors. -/
def Value.IsRefusal (o : Operation) (v : Value) : Prop :=
  ∃ fields errors, v = .ofFields [(o.root, .ofFields fields)] ∧ errors ≠ [] ∧
    (Value.ofFields fields).member "userErrors" = .ok (.list errors) ∧
    (Value.ofFields fields).member "cart" = .ok .null

/-- What the router answers follows what the engine did: a rejection or a fault is answered with
errors, unless no identifier is left to be drawn. -/
def Router.Follows (o : Operation) (answer : Except Fault (Option Value) × Shop) :
    Except Fault (Option KeptCart) × Shop → Prop
  | (.ok (some kc), s') => answer = (.ok (some (Answer.cartPayload o (some kc) [])), s')
  | (_, s') => (answer.1 = .error .exhausted ∨ ∃ v, answer.1 = .ok (some v) ∧ v.IsRefusal o) ∧
      Redrawn s' answer.2

/-- Where no cart was returned, the router answers with errors or has no identifier left. -/
theorem Router.Follows.of_not_answered {o : Operation} {answer : Except Fault (Option Value) × Shop}
    {done : Except Fault (Option KeptCart) × Shop} (h : Router.Follows o answer done)
    (hnone : ∀ kc, done.1 ≠ .ok (some kc)) :
    (answer.1 = .error .exhausted ∨ ∃ v, answer.1 = .ok (some v) ∧ v.IsRefusal o) ∧
      Redrawn done.2 answer.2 := by
  obtain ⟨fault | _ | kc, s'⟩ := done
  · exact h
  · exact h
  · exact absurd rfl (hnone kc)

namespace Answer

/-- A cart payload that reports an error is a refusal. -/
theorem isRefusal_cartPayload (o : Operation) (error : Value) :
    (cartPayload o none [error]).IsRefusal o :=
  ⟨_, [error], rfl, List.cons_ne_nil _ _, by simp [Value.ofFields, Assoc.get?],
    by simp [Value.ofFields, Assoc.get?, Value.ofOption]⟩

/-- So is the payload of a fault that was reported. -/
theorem isRefusal_refusal {o : Operation} {errors : List Value} (h : errors ≠ []) :
    (Router.refusal o.root errors).IsRefusal o :=
  ⟨_, errors, rfl, h, by simp [Value.ofFields, Assoc.get?], by simp [Value.ofFields, Assoc.get?]⟩

end Answer

/-- A fault of a handler is answered with errors, unless no identifier is left to be drawn. -/
theorem Router.dispatch_fault {factory : Option Factory}
    (hf : factory = none ∨ factory = some Factory.standard) {o : Operation}
    (field : o.field = o.root)
    {document : String} (hd : o.IsFor document) {vars : Value} {fields : List (Key × Value)}
    (given : vars.orElse (.record []) = .record fields) {s s' : Shop} (hs : Kept False s)
    {fault : Fault}
    (h : Act.on (ownHandler factory o document (vars.orElse (.record []))) s = (.error fault, s')) :
    let answer := Act.on ((standard factory).dispatch (some document) vars) s
    (answer.1 = .error .exhausted ∨ ∃ v, answer.1 = .ok (some v) ∧ v.IsRefusal o) ∧
      Redrawn s' answer.2 := by
  obtain ⟨p, hp, -, -⟩ := hd.parse given
  rw [← parse_orElse] at hp
  -- The handler's state and fault are tame: no name is spent and no reply is left over.
  have tame := ownHandler_gives hf o (Answer.reads_of_parse (fit_false _) hp)
    (fit_false _) (fun h => h.elim) s hs
  rw [Option.getD_some, h] at tame
  obtain ⟨kept, tame⟩ : Kept False s' ∧ fault.Tame False := tame
  rw [on_dispatch_isFor factory hd given, h]
  dsimp only
  split
  · -- the one fault the router lets through
    rename_i hard
    obtain rfl := eq_exhausted_of_isHard tame hard
    exact ⟨.inl rfl, Std.Refl.refl s'⟩
  · -- any other fault is reported, which only draws
    obtain ⟨errors, s'', reported⟩ := Answer.faultErrors_succeeds fault s'
    have redrawn : Redrawn s' s'' := (Answer.faultErrors_redraws fault).of_on reported
    have gives := Answer.faultErrors_gives tame s' kept
    rw [reported] at gives ⊢
    rw [field]
    exact ⟨.inr ⟨_, rfl, Answer.isRefusal_refusal gives.2.1⟩, redrawn⟩

/-- The router answers the document of an edit as the engine does. -/
theorem Router.dispatch_follows {factory : Option Factory}
    (hf : factory = none ∨ factory = some Factory.standard) {e : CartEdit} {document : String}
    (hd : e.operation.IsFor document) (id : String) {l : List Value}
    (hl : e.listed = .ok l) {s : Shop}
    (hs : Kept False s) :
    Router.Follows e.operation
      (Act.on ((standard factory).dispatch (some document) (e.vars id)) s)
      (Act.on (e.run (.text id) .null) s) := by
  obtain ⟨p, hp, -, hcontext⟩ := hd.parse e.vars_orElse
  -- Every edit is a mutation whose field is its root, so the document gives no market of its own.
  have mutation : e.operation.isMutation = true := by cases e <;> rfl
  have field : e.operation.field = e.operation.root := by cases e <;> rfl
  have handled := Answer.ownHandler_follows factory hs hp (hcontext mutation) hl
  have dispatched : Act.on ((standard factory).dispatch (some document) (e.vars id)) s = _ :=
    on_dispatch_isFor factory hd e.vars_orElse s
  rw [e.vars_orElse] at dispatched
  -- The engine failed, rejected or returned a cart; the handler did the same.
  rcases hr : Act.on (e.run (.text id) .null) s with ⟨fault | _ | kc, s'⟩ <;> rw [hr] at handled
  · exact dispatch_fault hf field hd e.vars_orElse hs handled
  · obtain ⟨error, supply, handler⟩ := handled
    rw [handler] at dispatched
    rw [dispatched]
    exact ⟨.inr ⟨_, rfl, Answer.isRefusal_cartPayload _ _⟩, supply, rfl⟩
  · have handler : Act.on (ownHandler factory e.operation document (e.vars id)) s =
        (.ok (Answer.cartPayload e.operation (some kc) []), s') := handled
    rw [handler] at dispatched
    rw [dispatched]
    rfl

namespace Service

variable {v v₁ : Service} {o : Operation} {document : String} {vars : Value}

/-- What becomes of the answer to a mutation. -/
theorem on_mutate {data payload errors cart id r : Value}
    (asked : Act.on (ask document vars) v = (.ok data, v₁))
    (hpayload : (data.orElse (.record [])).member o.root = .ok payload)
    (herrors : (payload.orElse (.record [])).member "userErrors" = .ok errors)
    (hcart : (payload.orElse (.record [])).member "cart" = .ok cart)
    (hid : (cart.orElse (.record [])).member "id" = .ok id) (hr : Gid.decodeValue id = .ok r) :
    ∃ v', Act.on (mutate o document vars) v = (.ok r, v') ∧
      v₁.client.Moved v'.client v₁.client.network.shop ∧
      v'.errors = v₁.errors ++ collected v₁.client.lastError errors := by
  obtain ⟨v', collects, moved, -, herr⟩ := on_collectError o errors v₁
  refine ⟨v', ?_, moved, herr⟩
  unfold mutate
  -- Run the call step by step: ask, read the payload, collect its errors, read the cart's id.
  rw [Act.on_bind_of_ok asked]
  dsimp only
  rw [hpayload, Act.on_bind_of_ok (Act.on_lift _ v₁), herrors, Act.on_bind_of_ok (Act.on_lift _ v₁),
    Act.on_bind_of_ok collects, hcart, Act.on_bind_of_ok (Act.on_lift _ v'), hid,
    Act.on_bind_of_ok (Act.on_lift _ v'), hr]
  rfl

/-- A call of the service follows what the engine did.  It answers with the raw identifier of the
cart that the engine answers with; if the engine rejects or fails, it answers with null and collects
one error.  The shop is as the engine left it, but for what is drawn for the error. -/
structure Follows (v : Service) (id : String) (called : Except Fault Value × Service)
    (done : Except Fault (Option KeptCart) × Shop) : Prop where
  answered : (∃ kc, done.1 = .ok (some kc)) → called.1 = .ok (.text (Gid.decode id)) ∧
    called.2.client.network.shop = done.2 ∧ called.2.errors = v.errors
  refused : (∀ kc, done.1 ≠ .ok (some kc)) → called.1 = .ok .null ∧
    (∃ supply, called.2.client.network.shop = { done.2 with supply }) ∧
    ∃ error, called.2.errors = v.errors ++ [error]

/-- An object is never falsy, so no default takes its place. -/
theorem orElse_fields (fields : List (String × Value)) :
    (Value.ofFields fields).orElse (.record []) = .ofFields fields :=
  Value.orElse_record _

/-- The only member of a payload is found by its name. -/
theorem member_single (name : String) (payload : Value) :
    (Value.ofFields [(name, payload)]).member name = .ok payload := by
  simp [Value.ofFields, Assoc.get?]

/-- A refusal, or the fault that no identifier is left, is collected as an error. -/
theorem mutate_refused {answer : Except Fault (Option Value)} {s : Shop}
    (hroute : v.client.network.route = .inProcess) (hne : document ≠ "")
    (hroot : o.root ≠ "errors" ∧ o.root ≠ "userErrors")
    (hd : Act.on (v.client.network.router.dispatch (some document) (vars.orElse (.record [])))
      v.client.network.shop = (answer, s))
    (refused : answer = .error .exhausted ∨ ∃ w, answer = .ok (some w) ∧ w.IsRefusal o) :
    ∃ v' error, Act.on (mutate o document vars) v = (.ok .null, v') ∧
      v'.client.network.shop = s ∧ v'.errors = v.errors ++ [error] := by
  rcases refused with rfl | ⟨_, rfl, fields, errors, rfl, hne', herrors, hcart⟩
  · -- The client remembers the fault, and the service gets nothing.
    obtain ⟨v₁, asked, moved, hlast⟩ := ask_inProcess_failed hroute hne hd rfl
    obtain ⟨v', called, moved', herr⟩ := on_mutate (o := o) asked rfl rfl rfl rfl rfl
    have truthy : (Value.text Fault.exhausted.message).truthy = true := by decide +kernel
    rw [hlast, collected_of_truthy truthy, moved.errors] at herr
    exact ⟨v', _, called, moved'.shop.trans moved.shop, herr⟩
  · obtain ⟨v₁, asked, moved, hlast⟩ := ask_inProcess hroute hne hd
      (Client.failureOf?_single hroot.1 hroot.2 _)
    rw [← orElse_fields] at herrors hcart
    obtain ⟨v', called, moved', herr⟩ := on_mutate asked
      (by rw [orElse_fields, member_single]) herrors hcart rfl rfl
    have truthy : (Value.list errors).truthy = true := by simpa using hne'
    rw [hlast, collected_null_of_truthy truthy, moved.errors] at herr
    exact ⟨v', _, called, moved'.shop.trans moved.shop, herr⟩

/-- A cart that is answered with is answered by its raw identifier. -/
theorem mutate_answered {c : Cart} {s : Shop} (hroute : v.client.network.route = .inProcess)
    (hne : document ≠ "") (hroot : o.root ≠ "errors" ∧ o.root ≠ "userErrors")
    (hd : Act.on (v.client.network.router.dispatch (some document) (vars.orElse (.record [])))
      v.client.network.shop = (.ok (some (Answer.cartPayload o (some (.made c)) [])), s)) :
    ∃ v', Act.on (mutate o document vars) v = (.ok (.text (Gid.decode c.id)), v') ∧
      v'.client.network.shop = s ∧ v'.errors = v.errors := by
  -- The question is answered, and the answer has no failure to note.
  obtain ⟨v₁, asked, moved, hlast⟩ := ask_inProcess hroute hne hd
    (Client.failureOf?_single hroot.1 hroot.2 _)
  -- The payload shows the cart under its encoded id.
  have hid : (c.toValue.orElse (.record [])).member "id" = .ok (.text (Gid.encode c.id)) := by
    rw [Cart.toValue, orElse_fields]
    simp [Value.ofFields, Assoc.get?]
  have payload := member_single o.root (.ofFields [("cart", c.toValue), ("userErrors", .list [])])
  rw [← orElse_fields] at payload
  obtain ⟨v', called, moved', herr⟩ := on_mutate asked payload rfl rfl hid (Gid.decodeValue_text _)
  -- There is nothing to collect: no error of the payload and none of the client.
  rw [hlast, collected_null_of_falsy rfl, moved.errors, List.append_nil] at herr
  rw [Gid.decode_encode] at called
  exact ⟨v', called, moved'.shop.trans moved.shop, herr⟩

/-- The service that sends the document of an edit does what the engine does. -/
theorem mutate_follows {e : CartEdit} {l : List Value} (id : String) {factory : Option Factory}
    (hf : factory = none ∨ factory = some Factory.standard)
    (h : Reachable v.client.network.shop) (hroute : v.client.network.route = .inProcess)
    (hrouter : v.client.network.router = .standard factory) (hl : e.listed = .ok l) :
    v.Follows id (Act.on (mutate e.operation (e.operation.document "") (e.vars id)) v)
      (Act.on (e.run (.text id) .null) v.client.network.shop) := by
  have isFor := e.operation.isFor_document ""
  have field : e.operation.field = e.operation.root := by cases e <;> rfl
  have hroot := field ▸ e.operation.field_ne
  -- What the router does with the document is what the engine does.
  have dispatched := Router.dispatch_follows hf isFor id hl h.kept
  rw [← hrouter, ← e.vars_orElse] at dispatched
  rcases hd : Act.on (v.client.network.router.dispatch (some (e.operation.document ""))
    ((e.vars id).orElse (.record []))) v.client.network.shop with ⟨answer, s⟩
  rw [hd] at dispatched
  constructor
  · -- the engine returns a cart: the call answers its id
    rintro ⟨kc, hkc⟩
    obtain ⟨s', hr⟩ : ∃ s', Act.on (e.run (.text id) .null) v.client.network.shop =
        (.ok (some kc), s') := ⟨_, Prod.ext hkc rfl⟩
    rw [hr] at dispatched ⊢
    obtain ⟨c, rfl, hid⟩ := CartEdit.run_answer h hr
    obtain ⟨v', called, hshop, herr⟩ :=
      mutate_answered hroute isFor.ne_empty hroot (hd.trans dispatched)
    rw [called, hid, Gid.decode_decode]
    exact ⟨rfl, hshop, herr⟩
  · -- it does not: the call notes the refusal
    intro hnone
    obtain ⟨refused, redrawn⟩ := dispatched.of_not_answered hnone
    obtain ⟨v', error, called, hshop, herr⟩ := mutate_refused hroute isFor.ne_empty hroot hd refused
    rw [called]
    exact ⟨rfl, hshop ▸ redrawn, error, herr⟩

end Service
end Storefront
