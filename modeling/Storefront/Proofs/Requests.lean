import Storefront.Proofs.CartSteps
import Storefront.Router

/-! # The shops that are ever reached

A shop is reached from one without entities by requests to its engines, by dispatching documents and
by resetting it, while time passes and chance does what it will.  Whatever is requested, and whether
or not it succeeds, is made of steps; `Reachable.invariant` is the induction that this allows.  What
is kept and erased only by requests, and never by a caller's own hand, is what the steps list. -/

namespace Storefront

open Shop

/-- A change of a cart that exists. -/
inductive CartEdit where
  | addLines (lines : Value)
  | updateLines (lines : Value)
  | removeLines (lineIds : Value)
  | setNote (note : Value)
  | setAttribute (key value : Value)
  | setDiscount (codes : Value)

/-- Changes a cart, priced for the market of a country or for its own. -/
def CartEdit.run (id country : Value) : CartEdit → Act Shop (Option KeptCart)
  | addLines lines => Shop.addLines id country lines
  | updateLines lines => Shop.updateLines id country lines
  | removeLines lineIds => Shop.removeLines id country lineIds
  | setNote note => Shop.setNote id country note
  | setAttribute key value => Shop.setAttribute id country key value
  | setDiscount codes => Shop.setDiscount id country codes

/-- What the request for a change lists. -/
def CartEdit.listed : CartEdit → Except Fault (List Value)
  | addLines lines => lines.elementsOrNone
  | updateLines lines => lines.elementsOrNone
  | removeLines lineIds => lineIds.elementsOrNone
  | setDiscount codes => codes.elementsOrNone
  | setNote _ | setAttribute _ _ => .ok []

/-- The change itself, for what the request lists. -/
def CartEdit.change (country : Value) :
    CartEdit → List Value → KeptCart → Act Shop (Option KeptCart)
  | addLines _, lines, cart => withAdditions country lines cart
  | updateLines _, lines, cart => withUpdates lines cart
  | removeLines _, lineIds, cart => withRemovals lineIds cart
  | setNote note, _, cart => some <$> liftM (cart.withNote (note.orElse ""))
  | setAttribute key value, _, cart => withAttribute key value cart
  | setDiscount _, codes, cart => withDiscount codes cart

/-- Every change of a cart is an edit, with a list and a change of its own. -/
theorem CartEdit.run_eq (id country : Value) (e : CartEdit) :
    e.run id country = editCart id country e.listed (e.change country) := by
  cases e <;> rfl

/-- A request that is answered with a cart, or with none. -/
inductive CartRequest where
  | create (country id : Value)
  | get (id country : Value)
  | setCountry (id country : Value)
  | edit (id country : Value) (e : CartEdit)

/-- Answers a request for a cart. -/
def CartRequest.run : CartRequest → Act Shop (Option KeptCart)
  | create country id => Option.map .made <$> createCart country id
  | get id country => getCart id country
  | setCountry id country => Shop.setCountry id country
  | edit id country e => e.run id country

/-- A request about products, selling plans, groups, links or identifiers. -/
inductive SideRequest where
  | variant (id : Key) (make : Bool)
  | product (id : Key) (make : Bool)
  | createPlan (options id : Value)
  | getPlan (id : Value)
  | updatePlan (id options : Value)
  | deletePlan (id : Value)
  | createGroup (options id : Value)
  | getGroup (id : Value)
  | relate (relation : Key) (id ids : Value)
  | deleteGroup (id : Value)
  | listGroups (start limit : Value)
  | connect (owner : String) (id relation : Key)
  | disconnect (owner : String) (id relation : Key)
  | connections (owner : String) (relation : Key)
  | freshId (start : String)

/-- Answers a request aside from carts. -/
def SideRequest.run : SideRequest → Act Shop Unit
  | variant id make => discard <| Shop.variant id make
  | product id make => discard <| Shop.product id make
  | createPlan options id => discard <| Shop.createPlan options id
  | getPlan id => discard <| plan? id
  | updatePlan id options => discard <| Shop.updatePlan id options
  | deletePlan id => discard <| Shop.deletePlan id
  | createGroup options id => discard <| Shop.createGroup options id
  | getGroup id => discard <| group id
  | relate relation id ids => discard <| Shop.relate relation id ids
  | deleteGroup id => discard <| Shop.deleteGroup id
  | listGroups start limit => discard <| groups start limit
  | connect owner id relation => discard <| Shop.connect owner id relation
  | disconnect owner id relation => discard <| Shop.disconnect owner id relation
  | connections owner relation => discard <| Shop.connections owner relation
  | freshId start => discard <| Shop.freshId start

/-- Anything that is asked of a shop's engines or of its router, which may have the standard
factory. -/
inductive ShopRequest where
  | cart (r : CartRequest)
  | hasCart (id : Value)
  | emptyCart (id country : Value)
  | side (r : SideRequest)
  | dispatch (hasFactory : Bool) (document : Option String) (vars : Value)

/-- The operation is about groups. -/
def Operation.isOnGroups : Operation → Bool
  | groupGet | groupsList | groupCreate | groupAddProducts | groupAddProductVariants
  | groupDelete => true
  | _ => false

/-- The operation asks for this with its variables. -/
def Operation.AsksFor (o : Operation) (vars : Value) : SideRequest → Prop
  | .getGroup _ => o = groupGet
  | .listGroups _ _ => o = groupsList
  | .createGroup _ id => o = groupCreate ∧ id = .null
  | .relate relation id _ => (o = groupAddProducts ∧ relation = productRelation ∨
      o = groupAddProductVariants ∧ relation = variantRelation) ∧
    ∃ given, vars.member "id" = .ok given ∧ Gid.decodeValue given = .ok id
  | .deleteGroup _ => o = groupDelete
  | _ => False

/-- Answers a request. -/
def ShopRequest.run : ShopRequest → Act Shop Unit
  | cart r => discard r.run
  | hasCart id => discard <| Shop.hasCart id
  | emptyCart id country => discard <| Shop.emptyCart id country
  | side r => r.run
  | dispatch hasFactory document vars =>
    let factory := if hasFactory then some Factory.standard else none
    discard <| (Router.standard factory).dispatch document vars

/-! ### Requests are made of steps -/

open Act (Within)

/-- What is made of steps aside from carts is made of steps. -/
theorem sideSteps_steps {α : Type} {x : Act Shop α} (h : Within SideSteps x) : Within Steps x :=
  h.mono fun _ _ => SideSteps.steps

/-- Each of the changes is an edit: it moves no cart to another key, and draws or makes up what it
needs. -/
theorem CartEdit.change_isEdit (country : Value) (e : CartEdit) (l : List Value) (kc : KeptCart) :
    IsEdit kc (e.change country l kc) := by
  cases e with
  | addLines lines => exact withAdditions_isEdit country l kc
  | updateLines lines => exact withUpdates_isEdit l kc
  | removeLines lineIds => exact withRemovals_isEdit l kc
  | setNote note => exact withNote_isEdit _ kc
  | setAttribute key value => exact withAttribute_isEdit key value kc
  | setDiscount codes => exact withDiscount_isEdit l kc

/-- A change of a cart is made of steps. -/
theorem CartEdit.run_steps (id country : Value) (e : CartEdit) :
    Within Steps (e.run id country) := by
  rw [e.run_eq]
  exact editCart_steps (e.change_isEdit country)

/-- A request for a cart is made of steps. -/
theorem CartRequest.run_steps (r : CartRequest) : Within Steps r.run := by
  cases r with
  | create country id => exact .map _ (createCart_steps country id)
  | get id country => exact getCart_steps id country
  | setCountry id country => exact setCountry_steps id country
  | edit id country e => exact CartEdit.run_steps id country e

/-- A request aside from carts is made of steps aside from carts. -/
theorem SideRequest.run_sideSteps (r : SideRequest) : Within SideSteps r.run := by
  -- Each request does what its operation does and forgets the answer.
  cases r with
  | variant id make => exact .map _ ((variant_grows id make).mono fun _ _ => Grows.sideSteps)
  | product id make => exact .map _ (product_sideSteps id make)
  | createPlan options id => exact .map _ (createPlan_sideSteps options id)
  | getPlan id => exact .map _ (plan?_sideSteps id)
  | updatePlan id options => exact .map _ (updatePlan_sideSteps id options)
  | deletePlan id => exact .map _ (deletePlan_sideSteps id)
  | createGroup options id => exact .map _ (createGroup_sideSteps options id)
  | getGroup id => exact .map _ (group_sideSteps id)
  | relate relation id ids => exact .map _ (relate_sideSteps relation id ids)
  | deleteGroup id => exact .map _ (deleteGroup_sideSteps id)
  | listGroups start limit => exact .map _ (groups_sideSteps start limit)
  | connect owner id relation => exact .map _ (connect_sideSteps owner id relation)
  | disconnect owner id relation => exact .map _ (disconnect_sideSteps owner id relation)
  | connections owner relation => exact .map _ (connections_sideSteps owner relation)
  | freshId start => exact .map _ ((freshId_draws start).mono fun _ _ h => h.grows.sideSteps)

/-! ### Dispatching documents -/

namespace Shop

/-- The second shop is the first after something was taken from its supply. -/
def Redrawn (s s' : Shop) : Prop := ∃ supply, s' = { s with supply }

/-- `Redrawn` can be used with the rules of `Within`. -/
instance : Std.Refl Redrawn := ⟨fun s => ⟨s.supply, rfl⟩⟩

/-- Of two supplies, the last one counts. -/
instance : IsTrans Shop Redrawn :=
  ⟨by rintro s _ _ ⟨supply, rfl⟩ ⟨supply', rfl⟩; exact ⟨supply', rfl⟩⟩

/-- To draw from the supply is to draw. -/
theorem Redrawn.draws {s s' : Shop} (h : Redrawn s s') : Draws s s' := by
  obtain ⟨supply, rfl⟩ := h
  exact .single (.supply s supply)

end Shop

namespace Answer

/-- An error without a code of its own draws one. -/
theorem userError_redraws (field message code : Value) :
    Within Redrawn (userError field message code) := by
  unfold userError
  extract_lets answer
  have hanswer : ∀ v, Within Redrawn (answer v) := fun _ => .pure _
  split
  · exact .bind (.map _ fun s => ⟨_, rfl⟩) hanswer
  · exact .bind (.pure _) hanswer

/-- Each failure of a list becomes one error. -/
theorem failureError_redraws (failure : Value) : Within Redrawn (failureError failure) := by
  unfold failureError
  split
  · exact .bind (.lift _) fun _ => .bind (.lift _) fun _ => userError_redraws _ _ _
  · exact userError_redraws _ _ _

/-- All that reporting a fault takes is codes for its errors. -/
theorem faultErrors_redraws (fault : Fault) : Within Redrawn (faultErrors fault) := by
  unfold faultErrors
  split
  · exact .mapM failureError_redraws _
  · exact .bind (userError_redraws _ _ _) fun _ => .pure _

/-- To report a fault is to draw. -/
theorem faultErrors_draws (fault : Fault) : Within Draws (faultErrors fault) :=
  (faultErrors_redraws fault).mono fun _ _ => Redrawn.draws

section

variable {R : Shop → Shop → Prop} [Std.Refl R] [IsTrans Shop R]

/-- To answer a document that reads a cart stays within what reading carts stays within. -/
theorem cartGet_within (read : ∀ id country, Within R (getCart id country)) (document : String)
    (vars : Value) : Within R (cartGet document vars) :=
  .bind (.lift _) fun _ => .bind (.lift _) fun _ => .bind (read _ _) fun _ => .pure _

/-- To set attributes row by row stays within what setting one stays within, by induction over the
rows. -/
theorem setRows_within (edit : ∀ id country key value, Within R (setAttribute id country key value))
    (cartId country : Value) (rows : List Value) (cart : Option KeptCart) :
    Within R (setRows cartId country rows cart) := by
  induction rows generalizing cart with
  | nil => exact .pure _
  | cons row rows ih =>
    exact .bind (.lift _) fun _ => .bind (.lift _) fun _ => .bind (edit _ _ _ _) ih

variable (redraws : ∀ s s', Redrawn s s' → R s s')

include redraws

/-- To reject a cart draws the code of one error. -/
theorem rejectedCart_within (o : Operation) (field : List String) (message : String) :
    Within R (rejectedCart o field message) :=
  .bind ((userError_redraws _ _ _).mono redraws) fun _ => .pure _

/-- An answer with a cart draws nothing; without one it is a rejection. -/
theorem mutated_within (o : Operation) (cart : Option KeptCart) (field message : String) :
    Within R (mutated o cart field message) := by
  unfold mutated
  split
  · exact .pure _
  · exact rejectedCart_within redraws _ _ _

/-- What is done for a known cart may use where its identifier comes from. -/
theorem forKnownCart_within (o : Operation) (document : String) (vars : Value)
    {mutate : (cartId country : Value) → Act Shop Value}
    (h : ∀ cartId country, cartIdOf vars = .ok cartId → Within R (mutate cartId country)) :
    Within R (forKnownCart o document vars mutate) := by
  refine .bind (.lift _) fun _ => .bind_lift fun _ hid => .bind (.of_eq (hasCart_reads _))
    fun known => ?_
  split
  · exact h _ _ hid
  · exact rejectedCart_within redraws _ _ _

/-- To answer a document that creates a cart. -/
theorem cartCreate_within (make : ∀ country, Within R (createCart country .null)) (vars : Value) :
    Within R (cartCreate vars) := by
  unfold cartCreate
  refine .bind (.lift _) fun input => .bind (.lift _) fun buyer => ?_
  extract_lets answer
  have hanswer : ∀ buyer, Within R (answer buyer) := by
    refine fun _ => .bind (.lift _) fun country => .bind (make _) fun cart => ?_
    -- `answer` is what follows once the buyer is known.
    split
    · exact .pure _
    -- The country that is rejected is named, which fails for a number that is too long.
    · exact .bind (.lift _) fun _ => rejectedCart_within redraws _ _ _
  split
  · exact .bind (.pure _) hanswer
  · exact .bind (.lift _) hanswer

/-- The factory is only asked for a cart that is not there. -/
theorem cartBuyerIdentityUpdate_within {factory : Option Factory}
    (hook : ∀ f ∈ factory, ∀ params, Within R (f.call (.text Factory.cartHook) params))
    (move : ∀ id country, Within R (setCountry id country)) (vars : Value) :
    Within R (cartBuyerIdentityUpdate factory vars) := by
  unfold cartBuyerIdentityUpdate
  -- The hook runs only for a cart that is not known and when there is a factory; then the cart is
  -- moved.
  refine .bind (.lift _) fun cartId => .bind (.lift _) fun _ => .bind (.lift _) fun _ =>
    .bind (.of_eq (hasCart_reads _)) fun known => ?_
  extract_lets moved
  have hmoved : ∀ u, Within R (moved u) := fun _ =>
    .bind (move _ _) fun _ => mutated_within redraws _ _ _ _
  split
  · cases factory with
    | none => exact hmoved ()
    | some f => exact .bind (.map _ (hook f rfl _)) hmoved
  · exact hmoved ()

/-- To answer a document that adds lines. -/
theorem cartLinesAdd_within (edit : ∀ id country lines, Within R (addLines id country lines))
    (document : String) (vars : Value) : Within R (cartLinesAdd document vars) :=
  forKnownCart_within redraws _ _ _ fun _ _ _ => .bind (.lift _) fun _ =>
    .bind (edit _ _ _) fun _ =>
    mutated_within redraws _ _ _ _

/-- To answer a document that updates lines. -/
theorem cartLinesUpdate_within (edit : ∀ id country lines, Within R (updateLines id country lines))
    (document : String) (vars : Value) : Within R (cartLinesUpdate document vars) :=
  forKnownCart_within redraws _ _ _ fun _ _ _ => .bind (.lift _) fun _ =>
    .bind (edit _ _ _) fun _ =>
    mutated_within redraws _ _ _ _

/-- To answer a document that removes lines. -/
theorem cartLinesRemove_within
    (edit : ∀ id country lineIds, Within R (removeLines id country lineIds)) (document : String)
    (vars : Value) : Within R (cartLinesRemove document vars) :=
  forKnownCart_within redraws _ _ _ fun _ _ _ => .bind (.lift _) fun _ =>
    .bind (edit _ _ _) fun _ =>
    mutated_within redraws _ _ _ _

/-- To answer a document that sets the note; it does not look whether the cart is known. -/
theorem cartNoteUpdate_within (edit : ∀ id country note, Within R (setNote id country note))
    (document : String) (vars : Value) : Within R (cartNoteUpdate document vars) :=
  .bind (.lift _) fun _ => .bind (.lift _) fun _ => .bind (.lift _) fun _ =>
    .bind (edit _ _ _) fun _ => mutated_within redraws _ _ _ _

/-- To answer a document that sets attributes: incomplete rows are rejected before any is set. -/
theorem cartAttributesUpdate_within
    (edit : ∀ id country key value, Within R (setAttribute id country key value))
    (document : String) (vars : Value) : Within R (cartAttributesUpdate document vars) := by
  refine forKnownCart_within redraws _ _ _ fun _ _ _ => .bind (.lift _) fun rows =>
    .bind (.lift _) fun complete => ?_
  split
  · exact rejectedCart_within redraws _ _ _
  · exact .bind (setRows_within edit _ _ _ _) fun _ => .pure _

/-- To answer a document that sets discount codes. -/
theorem cartDiscountCodesUpdate_within
    (edit : ∀ id country codes, Within R (setDiscount id country codes)) (document : String)
    (vars : Value) : Within R (cartDiscountCodesUpdate document vars) :=
  forKnownCart_within redraws _ _ _ fun _ _ _ => .bind (.lift _) fun _ =>
    .bind (edit _ _ _) fun _ =>
    mutated_within redraws _ _ _ _

end

/-- The standard hook makes a cart only where there is none. -/
theorem call_within {R : Shop → Shop → Prop} [Std.Refl R] [IsTrans Shop R]
    (make : ∀ country id s, Act.on (hasCart id) s = (.ok false, s) →
      R s (Act.on (createCart country id) s).2) (params : List Value) :
    Within R (Factory.standard.call (.text Factory.cartHook) params) := by
  have call : Factory.standard.call (.text Factory.cartHook) params = Factory.makeCart params := by
    simp [Factory.call, Factory.standard, Assoc.get?]
  rw [call]
  unfold Factory.makeCart
  split
  · rename_i id country
    refine .bind_of_on (.of_eq (hasCart_reads _)) fun known s₀ s h => ?_
    obtain rfl : s₀ = s := (hasCart_reads id).of_on h
    cases known with
    -- The hook looks first, and looking changes nothing.
    | true => exact Std.Refl.refl s₀
    | false =>
      have made := make country id s₀ h
      rw [if_neg Bool.false_ne_true, Act.on_bind]
      rcases hr : Act.on (createCart country id) s₀ with ⟨f | cart, s₁⟩ <;> rwa [hr] at made
  · exact .throw _

/-- The standard hook does nothing but steps. -/
theorem call_steps (params : List Value) :
    Within Steps (Factory.standard.call (.text Factory.cartHook) params) :=
  call_within (fun country id s _ => createCart_steps country id s) params

section

variable {R : Shop → Shop → Prop} [Std.Refl R] [IsTrans Shop R]
  (redraws : ∀ s s', Redrawn s s' → R s s')

include redraws

/-- What is caught is reported, and reporting draws codes. -/
theorem orErrors_within {act : Act Shop Value} (h : Within R act) : Within R (orErrors act) := by
  refine .tryCatch (.map _ h) fun fault => ?_
  split
  · exact .map _ ((faultErrors_redraws _).mono redraws)
  · exact .throw _

/-- To answer a document that reads a group. -/
theorem groupGet_within (read : ∀ id, Within R (group id)) (vars : Value) :
    Within R (groupGet vars) := by
  refine .bind (.lift _) fun _ => .bind (.lift _) fun _ =>
    .bind (orErrors_within redraws (read _)) fun outcome => ?_
  split
  · exact .pure _
  · exact .pure _

/-- To answer a document that lists groups; the cursor of an empty page is drawn. -/
theorem groupsList_within (list : ∀ start limit, Within R (groups start limit)) (document : String)
    (vars : Value) : Within R (groupsList document vars) := by
  refine .bind (.lift _) fun _ => .bind (.lift _) fun _ => .bind (.lift _) fun _ =>
    .bind (.lift _) fun _ => .bind (list _ _) fun page => ?_
  split
  · exact .pure _
  · exact .bind (fun s => redraws _ _ ⟨_, rfl⟩) fun _ => .pure _

/-- To answer a document that deletes a group. -/
theorem groupDelete_within (delete : ∀ id, Within R (deleteGroup id)) (vars : Value) :
    Within R (groupDelete vars) := by
  refine .bind (.lift _) fun given => .bind (.lift _) fun id =>
    .bind (orErrors_within redraws (.bind (delete _) fun erased => ?_)) fun _ => .pure _
  split
  · exact .pure _
  · exact .throw _

end

end Answer

namespace Router

/-- What was registered in addition to the shop's own handlers, and the hook that these may call,
move the shop along a relation. -/
structure Moves (R : Shop → Shop → Prop) (r : Router) : Prop where
  handlers : ∀ p ∈ r.registered, ∀ document vars, Within R (p.2 document vars)
  hook : ∀ f ∈ r.factory, ∀ params, Within R (f.call (.text Factory.cartHook) params)

section

variable {R : Shop → Shop → Prop} [Std.Refl R] [IsTrans Shop R]

/-- Besides what the handler of a document does, only codes for errors are drawn. -/
theorem dispatch_within_of_handler (redraws : ∀ s s', Redrawn s s' → R s s') {r : Router}
    {document : Option String} {vars : Value}
    (h : ∀ signature handler, Document.signature? document = some signature →
      r.handler? signature = some handler →
      Within R (handler (document.getD "") (vars.orElse (.record [])))) :
    Within R (r.dispatch document vars) := by
  refine .bind (.lift _) fun parsed => ?_
  split
  · exact .pure _
  · rename_i signature hsignature
    split
    · exact .pure _
    · rename_i handler found
      refine .tryCatch (.map _ (h signature handler hsignature found)) fun fault => ?_
      -- `answer` is what follows a fault that is reported.
      extract_lets root answer
      have hanswer : ∀ u, Within R (answer u) := fun _ =>
        .bind ((Answer.faultErrors_redraws _).mono redraws) fun _ => .pure _
      split
      · exact .bind (.throw _) hanswer
      · exact hanswer ()

section

variable (redraws : ∀ s s', Redrawn s s' → R s s') {factory : Option Factory} {o : Operation}
  {vars : Value}

include redraws

/-- The handler of an operation on carts asks the engines for carts, and its hook. -/
theorem cartHandler_within (ho : o.isOnGroups = false)
    (hook : ∀ f ∈ factory, ∀ params, Within R (f.call (.text Factory.cartHook) params))
    (carts : ∀ r : CartRequest, Within R r.run) (document : String) :
    Within R (ownHandler factory o document vars) := by
  -- Every handler edits the cart by one of the requests.
  have edit (e : CartEdit) (id country : Value) : Within R (e.run id country) :=
    carts (.edit id country e)
  cases o with
  | cartGet => exact Answer.cartGet_within (fun id country => carts (.get id country)) document vars
  | cartCreate =>
    exact Answer.cartCreate_within redraws
      (fun country => Within.map_iff.1 (carts (.create country .null))) vars
  | cartBuyerIdentityUpdate =>
    exact Answer.cartBuyerIdentityUpdate_within redraws hook
      (fun id country => carts (.setCountry id country)) vars
  | cartLinesAdd =>
    exact Answer.cartLinesAdd_within redraws (fun _ _ lines => edit (.addLines lines) _ _)
      document vars
  | cartLinesUpdate =>
    exact Answer.cartLinesUpdate_within redraws (fun _ _ lines => edit (.updateLines lines) _ _)
      document vars
  | cartLinesRemove =>
    exact Answer.cartLinesRemove_within redraws (fun _ _ lineIds => edit (.removeLines lineIds) _ _)
      document vars
  | cartNoteUpdate =>
    exact Answer.cartNoteUpdate_within redraws (fun _ _ note => edit (.setNote note) _ _)
      document vars
  | cartAttributesUpdate =>
    exact Answer.cartAttributesUpdate_within redraws
      (fun _ _ key value => edit (.setAttribute key value) _ _) document vars
  | cartDiscountCodesUpdate =>
    exact Answer.cartDiscountCodesUpdate_within redraws
      (fun _ _ codes => edit (.setDiscount codes) _ _)
      document vars
  | _ => cases ho

/-- The handler of an operation on groups asks the engines for what the operation asks for. -/
theorem groupHandler_within (ho : o.isOnGroups = true)
    (sides : ∀ r : SideRequest, o.AsksFor vars r → Within R r.run) (document : String) :
    Within R (ownHandler factory o document vars) := by
  -- A handler that asks for a request does nothing but that and drawing.
  have ask {α : Type} {x : Act Shop α} (r : SideRequest) (hr : r.run = discard x)
      (asks : o.AsksFor vars r) : Within R x := Within.discard_iff.1 (hr ▸ sides r asks)
  cases o with
  | groupGet => exact Answer.groupGet_within redraws (fun id => ask (.getGroup id) rfl rfl) vars
  | groupsList =>
    exact Answer.groupsList_within redraws
      (fun start limit => ask (.listGroups start limit) rfl rfl)
      document vars
  | groupCreate =>
    exact .bind (.lift _) fun _ => .bind (Answer.orErrors_within redraws
      (ask (.createGroup _ .null) rfl ⟨rfl, rfl⟩)) fun _ => .pure _
  | groupAddProducts =>
    exact .bind_lift fun given hgiven => .bind_lift fun id hid => .bind (.lift _) fun _ =>
      .bind (Answer.orErrors_within redraws (ask (.relate productRelation id _) rfl
        ⟨.inl ⟨rfl, rfl⟩, given, hgiven, hid⟩)) fun _ => .pure _
  | groupAddProductVariants =>
    exact .bind_lift fun given hgiven => .bind_lift fun id hid => .bind (.lift _) fun _ =>
      .bind (Answer.orErrors_within redraws (ask (.relate variantRelation id _) rfl
        ⟨.inr ⟨rfl, rfl⟩, given, hgiven, hid⟩)) fun _ => .pure _
  | groupDelete =>
    exact Answer.groupDelete_within redraws (fun id => ask (.deleteGroup id) rfl rfl) vars
  | _ => cases ho

end

variable (hsteps : ∀ s s', Steps s s' → R s s')

include hsteps

/-- The shop's own handlers do nothing but steps. -/
theorem ownHandler_within {factory : Option Factory}
    (hook : ∀ f ∈ factory, ∀ params, Within R (f.call (.text Factory.cartHook) params))
    (o : Operation) (document : String) (vars : Value) :
    Within R (ownHandler factory o document vars) := by
  have redraws : ∀ s s', Redrawn s s' → R s s' := fun _ _ h =>
    hsteps _ _ h.draws.grows.sideSteps.steps
  cases ho : o.isOnGroups with
  -- The two kinds of handlers ask different engines.
  | false => exact cartHandler_within redraws ho hook (fun r => r.run_steps.mono hsteps) document
  | true =>
    exact groupHandler_within redraws ho
      (fun r _ => (sideSteps_steps r.run_sideSteps).mono hsteps) document

/-- A handler is either registered or the shop's own. -/
theorem handler_within {r : Router} (h : r.Moves R) {signature : String} {handler : Handler}
    (found : r.handler? signature = some handler) (document : String) (vars : Value) :
    Within R (handler document vars) := by
  unfold handler? at found
  -- A handler that was registered hides the shop's own.
  split at found
  · rename_i registered hregistered
    obtain rfl := Option.some.inj found
    obtain ⟨key, -, hmem⟩ := Assoc.mem_of_get? hregistered
    exact h.handlers _ hmem document vars
  · obtain ⟨o, -, rfl⟩ := Option.map_eq_some_iff.1 found
    exact ownHandler_within hsteps h.hook o document vars

/-- To dispatch a document does nothing but steps. -/
theorem dispatch_within {r : Router} (h : r.Moves R) (document : Option String) (vars : Value) :
    Within R (r.dispatch document vars) :=
  dispatch_within_of_handler (fun _ _ h => hsteps _ _ h.draws.grows.sideSteps.steps)
    fun _ _ _ found => handler_within hsteps h found _ _

end

/-- A router with the shop's own handlers does nothing but steps. -/
theorem dispatch_steps {factory : Option Factory}
    (hf : factory = none ∨ factory = some Factory.standard) (document : Option String)
    (vars : Value) : Within Steps ((standard factory).dispatch document vars) := by
  apply dispatch_within fun _ _ h => h
  constructor
  case handlers => exact fun _ h => nomatch h
  case hook =>
    rintro f rfl params
    obtain none | same := hf
    · cases none
    · obtain rfl := Option.some.inj same
      exact Answer.call_steps params

end Router

/-- Whatever is requested, and whether or not it succeeds, is made of steps. -/
theorem ShopRequest.run_steps (r : ShopRequest) : Within Steps r.run := by
  cases r with
  | cart r => exact .map _ r.run_steps
  | hasCart id => exact .map _ (hasCart_steps id)
  | emptyCart id country => exact .map _ (emptyCart_steps id country)
  | side r => exact sideSteps_steps r.run_sideSteps
  | dispatch hasFactory document vars =>
    refine .map _ (Router.dispatch_steps ?_ document vars)
    cases hasFactory
    · exact .inl rfl
    · exact .inr rfl

namespace Shop

/-- The shops that are ever reached. -/
inductive Reachable : Shop → Prop
  | new (context : Context) (supply : Supply) : Reachable (Shop.new context supply)
  | request {s : Shop} (h : Reachable s) (r : ShopRequest) : Reachable (Act.on r.run s).2
  | reset {s : Shop} (h : Reachable s) : Reachable s.reset
  /-- Time passes, and chance does what it will. -/
  | passage {s : Shop} (h : Reachable s) (supply : Supply) : Reachable { s with supply }

/-- What holds of a shop without entities, and is kept by each step, holds of every shop that is
ever reached. -/
theorem Reachable.invariant {P : Shop → Prop}
    (start : ∀ context supply, P (Shop.new context supply))
    (step : ∀ s s', P s → Step s s' → P s') {s : Shop} (h : Reachable s) : P s := by
  induction h with
  | new context supply => exact start context supply
  | @request s _ r ih =>
    -- Whether or not the request succeeds, it is made of steps.
    have steps : Steps s (Act.on r.run s).2 := r.run_steps s
    exact Relation.ReflTransGen.rec ih (fun _ h ih => step _ _ ih h) steps
  -- To reset a shop gives one without entities again.
  | @reset s _ _ => exact start s.context s.supply
  | passage _ supply ih =>
    -- A supply that has changed is as good as drawn from.
    exact step _ _ ih (.side (.growth (.draw (.supply _ supply))))

/-- What a request for a cart leaves is reached. -/
theorem Reachable.cart {s : Shop} (h : Reachable s) (r : CartRequest) :
    Reachable (Act.on r.run s).2 := by
  have reached := h.request (.cart r)
  rwa [ShopRequest.run, Act.on_discard_snd] at reached

/-! ### A shop with a cart -/

/-- The identifier of the cart of `sample`. -/
def sampleId : String := "gid://shopify/Cart/1"

/-- A line that asks for a number of pieces of a variant. -/
def lineFor (token : String) (quantity : Int) : Value :=
  .ofFields [("merchandiseId", Gid.variantPrefix ++ token), ("quantity", .int quantity)]

/-- The request to make the cart of `sample`. -/
def sampleCreation : CartRequest := .create Market.home sampleId

/-- A request to add lines to the cart of `sample`. -/
def sampleAddition (lines : List Value) : CartRequest :=
  .edit sampleId .null (.addLines (.list lines))

/-- A shop in which a cart was just made. -/
def sampleCreated : Shop := (Act.on sampleCreation.run (.new default (.fresh 0 0 []))).2

/-- A shop with a cart that holds two pieces of a variant. -/
def sample : Shop := (Act.on (sampleAddition [lineFor "1" 2]).run sampleCreated).2

/-- The cart of `sample` is made by a request. -/
theorem reachable_sampleCreated : Reachable sampleCreated := by
  rw [sampleCreated]
  exact (Reachable.new default _).cart sampleCreation

/-- The lines of `sample` are added by a request. -/
theorem reachable_sample : Reachable sample := by
  rw [sample]
  exact reachable_sampleCreated.cart _

end Shop
end Storefront
