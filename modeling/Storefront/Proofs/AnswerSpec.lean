import Storefront.Proofs.CartOperationSpec
import Storefront.Proofs.Documents
import Storefront.Proofs.Outcomes

/-! # What the router answers

Each operation answers with a record of one member, `Operation.field`, whatever its variables hold;
it only fails with tame faults, for which the router answers with a record of one member as well.
If values are asked to be clean and the variables are, so is the answer.  A mutation answers with
what it did or with errors, and never with both or with neither.

* `Value.Settled` : a payload with a result or errors
* `Answer.mutated_gives`, `Answer.orErrors_gives` : how the answers to carts and groups come about
* `Router.ownHandler_gives` : all operations -/

namespace Storefront

open Text (Sendable)
open Act (Gives GivesFrom)
open Shop

variable {strict : Prop}

/-- The field of an operation can name a member. -/
theorem Operation.isMemberName_field (o : Operation) : IsMemberName o.field := by
  cases o <;> decide

/-- The root of an operation can name a member. -/
theorem Operation.isMemberName_root (o : Operation) : IsMemberName o.root := by
  cases o <;> decide

/-- The member of the payload of a mutation that shows its result; what a query reads is shown
otherwise. -/
def Operation.result? : Operation → Option String
  | cartGet | groupGet | groupsList => none
  | groupCreate | groupAddProducts | groupAddProductVariants => some "sellingPlanGroup"
  | groupDelete => some "deletedSellingPlanGroupId"
  | _ => some "cart"

/-- A mutation answers under the field that its payload is read from. -/
theorem Operation.field_of_result? {o : Operation} {result : String}
    (ho : o.result? = some result) : o.field = o.root := by
  cases o <;> first | rfl | cases ho

/-- The payload lists errors, and it shows a result exactly if there are none.  A result that is
missing counts as null. -/
def Value.Settled (result : String) (payload : Value) : Prop :=
  ∃ errors, payload.get? "userErrors" = some (.list errors) ∧
    (((payload.get? result).getD .null).isNull = false ↔ errors = [])

/-- A value with a single member, the field of the operation, that fits; for a mutation, the member
is a payload with a result or errors. -/
structure Operation.IsAnswer (strict : Prop) (o : Operation) (v : Value) : Prop where
  single : ∃ payload, v = .ofFields [(o.field, payload)] ∧
    ∀ result, o.result? = some result → payload.Settled result
  fit : v.Fit strict

/-- The identifiers among the variables of an operation that a shop keeps in their raw form can be
sent in that form, and no plans are to be changed in passing. -/
def Operation.Plain (vars : Value) : Operation → Prop
  | .cartLinesAdd => ∃ lines, vars.get? "lines" = some (.list lines) ∧ ∀ line ∈ lines,
      ∀ s, line.get? "merchandiseId" = some (.text s) → Sendable (Gid.decode s).toList
  | .groupCreate => ∃ input, vars.get? "input" = some input ∧
      input.get? "sellingPlansToUpdate" = none
  | .groupAddProducts => ∃ ids, vars.get? "productIds" = some (.list ids) ∧
      ∀ v ∈ ids, ∀ s, v = .text s → Sendable (Gid.decode s).toList
  | .groupAddProductVariants => ∃ ids, vars.get? "productVariantIds" = some (.list ids) ∧
      ∀ v ∈ ids, ∀ s, v = .text s → Sendable (Gid.decode s).toList
  | _ => True

/-- A member that there is is what is read. -/
theorem Value.member_of_get? {v w : Value} {name : String} (h : v.get? name = some w) :
    v.member name = .ok w := by
  cases v with
  | record fields => exact congrArg (fun o => Except.ok (Option.getD o Value.null)) h
  | _ => cases h

/-- A member that is required and found is what is read. -/
theorem Value.member_of_item {v w : Value} {name : String} (h : v.item name = .ok w) :
    v.member name = .ok w := by
  cases v with
  | record fields =>
    simp only [Value.item] at h
    split at h
    · rename_i found
      exact Value.member_of_get? (found.trans (congrArg some (Except.ok.inj h)))
    · cases h
  | _ => cases h

namespace Answer

/-! ### User errors -/

/-- A user error holds what it is about, a message, and a code that is drawn unless it is given. -/
theorem userError_gives {field message code : Value} (hf : field.Fit strict)
    (hm : message.Fit strict) (hc : code.Fit strict) :
    Gives (Kept strict) strict (userError field message code) (Value.Fit strict) := by
  unfold userError
  extract_lets answer
  -- Once there is a code, the error is a record of three members.
  have hanswer : ∀ v : Value, v.Fit strict → Gives (Kept strict) strict (answer v)
    (Value.Fit strict) :=
    fun v hv => .pure (Value.fit_ofFields ["code", "field", "message"] rfl (by decide) (by decide)
      ⟨hv, hf, hm⟩)
  split
  · exact ((draw_gives (by decide)).map fun n _ => Value.fit_int n).bind hanswer
  · exact Gives.bind (.pure hc) hanswer

/-- A failure is a record with a field and a message of its own, or else the name of a missing
member. -/
theorem failureError_gives {failure : Value} (h : failure.Fit strict) :
    Gives (Kept strict) strict (failureError failure) (Value.Fit strict) := by
  unfold failureError
  split
  · exact (Gives.lift (h.memberOr "field" (Value.fit_const (by decide)))).bind fun field hf =>
      (Gives.lift (h.memberOr "message" (Value.fit_const (by decide)))).bind fun message hm =>
      userError_gives hf hm Value.fit_null
  · refine userError_gives h (Value.fit_text fun hs => ?_) Value.fit_null
    exact .append_text (.append_text (by decide) (h hs).sendable_display) (by decide)

/-- A tame fault is reported with at least one user error. -/
theorem faultErrors_gives {fault : Fault} (h : fault.Tame strict) :
    Gives (Kept strict) strict (faultErrors fault) fun errors =>
      errors ≠ [] ∧ ∀ e ∈ errors, e.Fit strict := by
  unfold faultErrors
  split
  · rename_i hr
    -- The reasons of a rejection become its user errors; there is at least one.
    have fit : ∀ f ∈ fault.failures, Value.Fit strict f := fun f hf hs => h.failures hs f hf
    obtain ⟨f, fs, hf⟩ := List.exists_cons_of_ne_nil (h.listed hr)
    rw [hf] at fit ⊢
    obtain ⟨hf, hfs⟩ := List.forall_mem_cons.1 fit
    rw [List.mapM_cons]
    exact (failureError_gives hf).bind fun e he =>
      (Gives.mapM fun f hf => failureError_gives (hfs f hf)).bind fun es hes =>
        .pure ⟨List.cons_ne_nil _ _, List.forall_mem_cons.2 ⟨he, hes⟩⟩
  · -- Any other fault becomes a single error, about no field.
    exact (userError_gives (Value.fit_const (by decide)) (Value.fit_text h.message)
      Value.fit_null).bind fun e he => .pure ⟨List.cons_ne_nil _ _, List.forall_mem_singleton.2 he⟩

/-! ### Documents -/

/-- The document can be read under the variables, and names a country that fits. -/
structure Reads (strict : Prop) (document : String) (vars : Value) : Prop where
  parsed : ∃ p, Document.parse (some document) vars = .ok p ∧ (countryOf p).Fit strict

/-- What is resolved in the line of a directive are members of the variables. -/
theorem fit_readContext {line : List Char} {vars : Value} {context : List (String × Value)}
    (hv : vars.Fit strict) (h : Document.readContext line vars = .ok context) :
    ∀ p ∈ context, p.2.Fit strict := by
  have yields : Yields strict (Document.readContext line vars) fun context =>
      ∀ p ∈ context, p.2.Fit strict := by
    -- Entry by entry, a value that is put in is looked up among the variables.
    refine Yields.foldlM (fun p hp => absurd hp List.not_mem_nil) fun entry _ context hc => ?_
    refine (hv.member entry.2).bind fun v hv p hp => ?_
    rcases Assoc.mem_put hp with hp | ⟨hp, -⟩
    · exact hc p hp
    · exact hp ▸ hv
  rwa [h] at yields

/-- What a document is read to holds nothing but values of the variables. -/
theorem reads_of_parse {document : Option String} {vars : Value} {p : Document.Parsed}
    (hv : vars.Fit strict) (h : Document.parse document vars = .ok p) :
    Reads strict (document.getD "") vars := by
  refine ⟨p, h, ?_⟩
  have vars : (vars.orElse (.record [])).Fit strict := hv.orElse Value.fit_emptyRecord
  have context : ∀ q ∈ p.context, q.2.Fit strict := by
    -- The rest of the document does not touch what the directive resolved.
    have body : ∀ {type context vars lines},
        Document.readBody type context vars lines = .ok p → p.context = context := by
      intro type context vars lines h
      cases lines with
      | nil => cases h
      | cons root lines =>
        obtain rfl := Except.ok.inj h
        rfl
    rw [Document.parse] at h
    dsimp only at h
    split at h
    · obtain rfl := Except.ok.inj h
      exact fun q hq => absurd hq List.not_mem_nil
    · split at h
      · cases h
      · split at h
        · obtain ⟨context, hc, h⟩ := Act.except_bind_eq_ok.1 h
          rw [body h]
          exact fit_readContext vars hc
        · rw [body h]
          exact fun q hq => absurd hq List.not_mem_nil
  rw [countryOf, Document.Parsed.contextValue]
  -- Either a country is resolved, or none is, and null is fit.
  cases hc : Assoc.get? p.context "country" with
  | none => exact Value.fit_null
  | some v =>
    obtain ⟨k, -, hm⟩ := Assoc.mem_of_get? hc
    exact context _ hm

/-- A document that is read gives the country that is named in it. -/
theorem Reads.gives {document : String} {vars : Value} (h : Reads strict document vars) :
    Gives (Kept strict) strict (liftM (Document.parse (some document) vars)) fun p =>
      (countryOf p).Fit strict := by
  obtain ⟨p, hp, hc⟩ := h.parsed
  rw [hp]
  exact .lift hc

/-! ### Carts -/

/-- A payload with a cart and errors is an answer if it has a cart exactly where it has no errors.
-/
theorem isAnswer_cartPayload {o : Operation} (ho : o.result? = some "cart")
    {cart : Option KeptCart} {errors : List Value} (hc : ∀ kc, cart = some kc → kc.Fit strict)
    (he : ∀ e ∈ errors, e.Fit strict) (h : cart.isSome = true ↔ errors = []) :
    o.IsAnswer strict (cartPayload o cart errors) where
  single := by
    rw [o.field_of_result? ho]
    refine ⟨_, rfl, fun result hresult => ?_⟩
    obtain rfl := Option.some.inj (hresult.symm.trans ho)
    refine ⟨errors, rfl, Iff.trans ?_ h⟩
    show (Value.ofOption (cart.map (·.toValue))).isNull = false ↔ _
    -- A cart that is shown is a record, so it is not null.
    cases cart with
    | none => simp [Value.ofOption, Value.isNull]
    | some kc => exact iff_of_true (hc kc rfl).not_null rfl
  fit hs := by
    refine Value.clean_single o.isMemberName_root (Value.clean_ofFields ["cart", "userErrors"] rfl
      (by decide) (by decide) ⟨Value.clean_ofOption fun v hv => ?_, .list fun e h => he e h hs⟩)
    obtain ⟨kc, hkc, rfl⟩ := Option.map_eq_some_iff.1 hv
    exact (hc kc hkc).toValue hs

/-- The answer that shows a cart. -/
theorem isAnswer_shownCart {o : Operation} (ho : o.result? = some "cart") {kc : KeptCart}
    (h : kc.Fit strict) : o.IsAnswer strict (cartPayload o (some kc) []) :=
  isAnswer_cartPayload ho (fun _ hkc => Option.some.inj hkc ▸ h)
    (fun _ h => absurd h List.not_mem_nil)
    (iff_of_true rfl rfl)

/-- A rejection shows no cart and one error. -/
theorem rejectedCart_gives {o : Operation} (ho : o.result? = some "cart") {field : List String}
    {message : String} (hf : ∀ f ∈ field, Sendable f.toList)
    (hm : strict → Sendable message.toList) :
    Gives (Kept strict) strict (rejectedCart o field message) (o.IsAnswer strict) :=
  (userError_gives (fun _ => Value.clean_texts hf) (Value.fit_text hm) Value.fit_null).bind
    fun _ he => .pure (isAnswer_cartPayload ho (fun _ h => by cases h)
      (List.forall_mem_singleton.2 he) (iff_of_false nofun nofun))

/-- A mutation shows the cart that it ends with, or is rejected if there is none. -/
theorem mutated_gives {o : Operation} (ho : o.result? = some "cart") {cart : Option KeptCart}
    (hc : ∀ kc, cart = some kc → kc.Fit strict) {field message : String}
    (hf : Sendable field.toList) (hm : Sendable message.toList) :
    Gives (Kept strict) strict (mutated o cart field message) (o.IsAnswer strict) := by
  cases cart with
  | some kc => exact .pure (isAnswer_shownCart ho (hc kc rfl))
  | none => exact rejectedCart_gives ho (List.forall_mem_singleton.2 hf) fun _ => hm

/-- The raw identifier of a cart can be sent unless it is raw. -/
theorem yields_cartIdOf {vars : Value} (hv : vars.Fit strict) :
    Yields strict (cartIdOf vars) fun id =>
      strict → ∀ s, id = .text s → Gid.isRaw s = false → Sendable s.toList := by
  -- The identifier is decoded: what comes out is the decoded text, or a falsy value as it was.
  refine (hv.member "cartId").bind fun v hv => (Gid.yields_decodeValue v).mono fun id hid => ?_
  rintro hs s rfl hr
  rcases hid with ⟨t, rfl, ht⟩ | ⟨-, rfl⟩
  · obtain rfl := Value.text.inj ht
    rw [Gid.decode_eq_self hr]
    exact (hv hs).sendable
  · exact (hv hs).sendable

/-- A cart that is there is found. -/
theorem known_of_hasCart {s s' : Shop} (hs : Kept strict s) {id : Value}
    (h : Act.on (hasCart id) s = (.ok true, s')) :
    s' = s ∧ ∃ k kc, Names id k ∧ s.cart? k = some kc := by
  obtain rfl := (hasCart_reads id).of_on h
  obtain ⟨decoded, s₁, hlift, h⟩ := Act.on_bind_eq_ok.1 h
  obtain ⟨hdecoded, rfl⟩ := Prod.mk.inj hlift
  have given : Gid.decodeValue id = .ok decoded := hdecoded
  have read : Yields strict (Gid.decodeValue id) _ := Gid.yields_decodeValue id
  rw [given] at read
  split at h
  · cases h
  · rename_i truthy
    -- A text is decoded to a text; the other case is falsy, and so not looked up.
    obtain ⟨t, rfl, rfl⟩ | ⟨falsy, rfl⟩ := read
    swap
    · simp [falsy] at truthy
    obtain ⟨key, s₂, hkey, h⟩ := Act.on_bind_eq_ok.1 h
    obtain ⟨key_eq, rfl⟩ := Prod.mk.inj hkey
    obtain rfl := Except.ok.inj key_eq
    rw [on_has] at h
    obtain ⟨e, he⟩ := Option.isSome_iff_exists.1 (Except.ok.inj (Prod.mk.inj h).1)
    -- Only carts of the shop's own are kept as carts.
    obtain ⟨c, rfl, -⟩ := (hs.fit he).exists_cart
    exact ⟨rfl, _, .made c, ⟨given, by simpa using truthy⟩, cart?_eq_made.2 he⟩

/-- A cart that has to exist is found when it is mutated. -/
theorem forKnownCart_givesFrom {o : Operation} (ho : o.result? = some "cart") {document : String}
    {vars : Value} (hr : Reads strict document vars) (hv : vars.Fit strict)
    {mutate : (cartId country : Value) → Act Shop Value}
    (h : ∀ cartId country s k kc, country.Fit strict → Kept strict s → Names cartId k →
      s.cart? k = some kc →
      GivesFrom (Kept strict) strict s (mutate cartId country) (o.IsAnswer strict)) :
    Gives (Kept strict) strict (forKnownCart o document vars mutate) (o.IsAnswer strict) := by
  refine hr.gives.bind fun p hp => (Gives.lift (yields_cartIdOf hv)).bind fun cartId _ s hs => ?_
  refine GivesFrom.bind (hasCart_gives cartId s hs) fun known s' hknown hs' _ => ?_
  split
  · -- the cart is known, so the mutation runs on it
    rename_i found
    subst found
    obtain ⟨rfl, k, kc, hid, hkc⟩ := known_of_hasCart hs hknown
    exact h cartId _ s' k kc hp hs hid hkc
  · -- it is not known: the handler rejects the call
    exact rejectedCart_gives ho (by decide) (fun _ => by decide) s' hs'

/-- Where it does not matter that the cart is found, the mutation is judged in any shop. -/
theorem forKnownCart_gives {o : Operation} (ho : o.result? = some "cart") {document : String}
    {vars : Value} (hr : Reads strict document vars) (hv : vars.Fit strict)
    {mutate : (cartId country : Value) → Act Shop Value}
    (h : ∀ cartId country, country.Fit strict →
      Gives (Kept strict) strict (mutate cartId country) (o.IsAnswer strict)) :
    Gives (Kept strict) strict (forKnownCart o document vars mutate) (o.IsAnswer strict) :=
  forKnownCart_givesFrom ho hr hv fun cartId country s _ _ hc hs _ _ => h cartId country hc s hs

/-- A cart is made for the buyer that the input or the variables name. -/
theorem cartCreate_gives {vars : Value} (hv : vars.Fit strict) :
    Gives (Kept strict) strict (cartCreate vars)
      (Operation.IsAnswer strict .cartCreate) := by
  unfold cartCreate
  refine (Gives.lift (hv.member "input")).bind fun input hi => ?_
  have input' := hi.orElse Value.fit_emptyRecord
  refine (Gives.lift (input'.member "buyerIdentity")).bind fun buyer hb => ?_
  extract_lets make
  -- Whichever names the buyer, the country is taken from it, or the home market.
  have hmake : ∀ buyer : Value, buyer.Fit strict → Gives (Kept strict) strict (make buyer)
      (Operation.IsAnswer strict .cartCreate) := by
    intro buyer hb
    refine (Gives.lift ((hb.orElse Value.fit_emptyRecord).member "countryCode")).bind
      fun country hc => ?_
    have country' : (country.orElse Market.home).Fit strict :=
      hc.orElse (Value.fit_const (by decide))
    refine (createCart_gives country' fun _ _ h => by cases h).bind fun cart hcart => ?_
    cases cart with
    | some c =>
      have fit : (KeptCart.made c).Fit strict := hcart c rfl
      exact .pure (isAnswer_shownCart rfl fit)
    -- The country is shown in the message, so it has to be one that can be written.
    | none =>
      refine (Gives.lift country'.written).bind fun text htext =>
        rejectedCart_gives rfl (by decide) fun hs => ?_
      exact .append_text (.append_text (by decide) (htext hs)) (by decide)
  split
  · exact Gives.bind (.pure hb) hmake
  · exact (Gives.lift (hv.member "buyerIdentity")).bind hmake

/-- A cart is made for an identifier unless it is there. -/
theorem makeCart_gives {cartId country : Value} (hc : country.Fit strict)
    (hid : strict → ∀ s, cartId = .text s → Gid.isRaw s = false → Sendable s.toList) :
    Gives (Kept strict) strict (Factory.makeCart [cartId, country]) fun _ => True := by
  refine (hasCart_gives cartId).bind fun known _ => ?_
  split
  · exact .pure trivial
  · exact (createCart_gives hc hid).bind fun _ _ => .pure trivial

/-- A cart is moved to the country of its buyer, and made before if the factory does that. -/
theorem cartBuyerIdentityUpdate_gives {factory : Option Factory}
    (hf : factory = none ∨ factory = some Factory.standard) {vars : Value} (hv : vars.Fit strict) :
    Gives (Kept strict) strict (cartBuyerIdentityUpdate factory vars)
      (Operation.IsAnswer strict .cartBuyerIdentityUpdate) := by
  unfold cartBuyerIdentityUpdate
  refine (Gives.lift (yields_cartIdOf hv)).bind fun cartId hid =>
    (Gives.lift (hv.member "buyerIdentity")).bind fun buyer hb =>
    (Gives.lift ((hb.orElse Value.fit_emptyRecord).member "countryCode")).bind fun country hc =>
    (hasCart_gives cartId).bind fun known _ => ?_
  have country' : (country.orElse Market.home).Fit strict :=
    hc.orElse (Value.fit_const (by decide))
  extract_lets move
  have hmove : ∀ u, Gives (Kept strict) strict (move u)
      (Operation.IsAnswer strict .cartBuyerIdentityUpdate) := fun _ =>
    (setCountry_gives cartId country').bind fun cart hcart =>
      mutated_gives rfl hcart (by decide) (by decide)
  -- The factory is only asked for a cart that is not there.
  split
  · obtain rfl | rfl := hf
    · exact hmove ()
    · exact (makeCart_gives country' hid).discard.bind fun u _ => hmove u
  · exact hmove ()

/-- A cart is read, and it is no fault if there is none. -/
theorem cartGet_gives {document : String} {vars : Value} (hr : Reads strict document vars)
    (hv : vars.Fit strict) :
    Gives (Kept strict) strict (cartGet document vars) (Operation.IsAnswer strict .cartGet) := by
  refine hr.gives.bind fun p hp => (Gives.lift (yields_cartIdOf hv)).bind fun cartId _ =>
    (getCart_gives cartId hp).bind fun cart hcart => .pure ⟨⟨_, rfl, nofun⟩, fun hs => ?_⟩
  refine Value.clean_single (by decide) (Value.clean_ofOption fun v hv => ?_)
  obtain ⟨kc, hkc, rfl⟩ := Option.map_eq_some_iff.1 hv
  exact (hcart kc hkc).toValue hs

/-- The lines among the variables can be added: they are fit, and so are the variants that they
name. -/
theorem yields_additions {vars : Value} (hv : vars.Fit strict)
    (hplain : strict → Operation.cartLinesAdd.Plain vars) :
    Yields strict (vars.member "lines") fun lines =>
      Yields strict lines.elementsOrNone (IsAddable strict) := by
  -- Where values have to be clean, the variants are those that `Plain` speaks of.
  by_cases hs : strict
  · obtain ⟨lines, hget, hlines⟩ := hplain hs
    have fit := hv.member "lines"
    rw [Value.member_of_get? hget] at fit ⊢
    show Yields strict (Value.list lines).elementsOrNone _
    rw [Value.elementsOrNone_list]
    have items : ∀ line ∈ lines, line.Fit strict := fun line hl hs => (fit hs).items line hl
    intro line hl
    refine ⟨items line hl, ?_⟩
    cases line with
    -- The variant of a line may be missing, and then it names nothing.
    | record fs =>
      intro _ s hv
      cases hget : Assoc.get? fs (.text "merchandiseId") with
      | none => rw [hget] at hv; cases hv
      | some v =>
        rw [hget] at hv
        exact hlines _ hl s (hget.trans (congrArg some hv))
    | _ => exact Fault.tame_shape
  · -- Otherwise nothing is asked of the variants.
    refine (hv.member "lines").mono fun lines hl => ?_
    refine hl.elementsOrNone.mono fun ls hls line hline => ?_
    exact ⟨hls line hline, ((hls line hline).member _).mono fun _ _ hs' => absurd hs' hs⟩

/-- Lines are added to a cart that is there. -/
theorem cartLinesAdd_gives {document : String} {vars : Value} (hr : Reads strict document vars)
    (hv : vars.Fit strict) (hplain : strict → Operation.cartLinesAdd.Plain vars) :
    Gives (Kept strict) strict (cartLinesAdd document vars)
      (Operation.IsAnswer strict .cartLinesAdd) :=
  forKnownCart_gives rfl hr hv fun cartId _ hc => (Gives.lift (yields_additions hv hplain)).bind
    fun _ hlines => (addLines_gives cartId hc hlines).bind fun _ hcart =>
      mutated_gives rfl hcart (by decide) (by decide)

/-- Lines are updated in a cart that is there. -/
theorem cartLinesUpdate_gives {document : String} {vars : Value}
    (hr : Reads strict document vars) (hv : vars.Fit strict) :
    Gives (Kept strict) strict (cartLinesUpdate document vars)
      (Operation.IsAnswer strict .cartLinesUpdate) :=
  forKnownCart_gives rfl hr hv fun cartId _ hc => (Gives.lift (hv.member "lines")).bind
    fun _ hlines => (updateLines_gives cartId hc hlines).bind fun _ hcart =>
      mutated_gives rfl hcart (by decide) (by decide)

/-- Lines are removed from a cart that is there. -/
theorem cartLinesRemove_gives {document : String} {vars : Value}
    (hr : Reads strict document vars) (hv : vars.Fit strict) :
    Gives (Kept strict) strict (cartLinesRemove document vars)
      (Operation.IsAnswer strict .cartLinesRemove) :=
  forKnownCart_gives rfl hr hv fun cartId _ hc => (Gives.lift (hv.member "lineIds")).bind
    fun _ hids => (removeLines_gives cartId hc hids).bind fun _ hcart =>
      mutated_gives rfl hcart (by decide) (by decide)

/-- The note of a cart that is there is replaced, by the empty note if none is given. -/
theorem cartNoteUpdate_gives {document : String} {vars : Value} (hr : Reads strict document vars)
    (hv : vars.Fit strict) :
    Gives (Kept strict) strict (cartNoteUpdate document vars)
      (Operation.IsAnswer strict .cartNoteUpdate) := by
  refine hr.gives.bind fun p hp => (Gives.lift (yields_cartIdOf hv)).bind fun cartId _ =>
    (Gives.lift (hv.member "note")).bind fun note hn => ?_
  have note' : (note.orElse "").Fit strict := hn.orElse (Value.fit_const (by decide))
  exact (setNote_gives cartId hp note').bind fun _ hcart =>
    mutated_gives rfl hcart (by decide) (by decide)

/-- Where all rows are complete, each has a key and a value. -/
theorem exists_member_of_allComplete {rows : List Value} (h : allComplete rows = .ok true) :
    ∀ row ∈ rows, ∀ name ∈ ["key", "value"], ∃ v, row.member name = .ok v ∧ v.truthy = true := by
  -- The check stops at the first row that lacks one of the two.
  induction rows with
  | nil => exact fun _ hrow => absurd hrow List.not_mem_nil
  | cons row rows ih =>
    obtain ⟨key, hkey, h⟩ := Act.except_bind_eq_ok.1 h
    split at h
    · rename_i truthyKey
      obtain ⟨value, hvalue, h⟩ := Act.except_bind_eq_ok.1 h
      split at h
      · rename_i truthyValue
        refine List.forall_mem_cons.2 ⟨fun name hname => ?_, ih h⟩
        rcases List.mem_pair.1 hname with rfl | rfl
        · exact ⟨key, hkey, truthyKey⟩
        · exact ⟨value, hvalue, truthyValue⟩
      · cases h
    · cases h

/-- The key and the value of a row are truthy, if it has them. -/
def Complete (row : Value) : Prop :=
  ∀ name ∈ ["key", "value"], ∀ v, row.item name = .ok v → v.truthy = true

/-- Rows that passed the check lack neither part. -/
theorem forall_complete {rows : List Value} (h : allComplete rows = .ok true) :
    ∀ row ∈ rows, Complete row := by
  intro row hrow name hname v hv
  obtain ⟨w, hw, truthy⟩ := exists_member_of_allComplete h row hrow name hname
  rwa [← Except.ok.inj (hw.symm.trans (Value.member_of_item hv))]

/-- Checking rows fails only where one is no record, which is tame. -/
theorem yields_allComplete {rows : List Value} (h : ∀ row ∈ rows, row.Fit strict) :
    Yields strict (allComplete rows) fun _ => True := by
  -- The check stops at the first row that lacks a part.
  induction rows with
  | nil => trivial
  | cons row rows ih =>
    obtain ⟨hrow, hrows⟩ := List.forall_mem_cons.1 h
    rw [allComplete]
    refine (hrow.member "key").bind fun key _ => ?_
    split
    · refine (hrow.member "value").bind fun value _ => ?_
      split
      · exact ih hrows
      · trivial
    · trivial

/-- The attributes among the variables are a row by itself, or a list of rows. -/
theorem yields_attributeRows {vars : Value} (hv : vars.Fit strict) :
    Yields strict (attributeRows vars) fun rows => ∀ row ∈ rows, row.Fit strict := by
  refine (hv.member "attributes").bind fun v hv => ?_
  have rows : (v.orElse (.list [])).Fit strict := hv.orElse fun _ => Value.clean_list_nil
  cases hrows : v.orElse (.list []) with
  | record fields =>
    rw [hrows] at rows
    exact List.forall_mem_singleton.2 rows
  | _ =>
    rw [hrows] at rows
    exact rows.elements

/-- Where the cart is found, setting complete rows shows it after the last: what sets an attribute
keeps the cart, so that it is found for the next. -/
theorem setRows_gives {cartId country : Value} {k : String} (hid : Names cartId k)
    (hc : country.Fit strict) {rows : List Value}
    (hrows : ∀ row ∈ rows, row.Fit strict ∧ Complete row) {cart : Option KeptCart}
    (hcart : rows = [] → ∃ kc, cart = some kc ∧ kc.Fit strict) {s : Shop} (hs : Kept strict s)
    {kc : KeptCart} (hkc : s.cart? k = some kc) :
    GivesFrom (Kept strict) strict s (setRows cartId country rows cart) fun cart =>
      ∃ kc, cart = some kc ∧ kc.Fit strict := by
  induction rows generalizing cart s kc with
  | nil => exact ⟨hs, hcart rfl⟩
  | cons row rows ih =>
    obtain ⟨⟨hrow, complete⟩, hrows⟩ := List.forall_mem_cons.1 hrows
    -- The key and the value of the first row are there, as it is complete.
    refine GivesFrom.bind_lift hs (hrow.item "key") fun key hkey fitKey => ?_
    refine GivesFrom.bind_lift hs (hrow.item "value") fun value hvalue fitValue => ?_
    refine GivesFrom.bind (setAttribute_gives cartId hc fitKey fitValue s hs)
      fun changed s' hset hs' hchanged => ?_
    have truthyKey := complete "key" (.head _) key hkey
    have truthyValue := complete "value" (.tail _ (.head _)) value hvalue
    obtain ⟨kc', rfl, kept⟩ := setAttribute_eq_ok hid hkc truthyKey truthyValue hset
    have fit := hchanged kc' rfl
    -- What the first row left is the cart that the next one is set on.
    have found : s'.cart? k = some kc' := by
      cases kc' with
      | made c => exact cart?_eq_made.2 kept
      | given v => exact fit.elim
    exact ih hrows (fun _ => ⟨kc', rfl, fit⟩) hs' found

/-- Attributes are set on a cart that is there, if all rows are complete. -/
theorem cartAttributesUpdate_gives {document : String} {vars : Value}
    (hr : Reads strict document vars) (hv : vars.Fit strict) :
    Gives (Kept strict) strict (cartAttributesUpdate document vars)
      (Operation.IsAnswer strict .cartAttributesUpdate) := by
  refine forKnownCart_givesFrom rfl hr hv fun cartId country s k kc hc hs hid hkc => ?_
  refine GivesFrom.bind_lift hs (yields_attributeRows hv) fun rows _ hrows => ?_
  refine GivesFrom.bind_lift hs (yields_allComplete hrows) fun complete hcomplete _ => ?_
  split
  · exact rejectedCart_gives rfl (by decide) (fun _ => by decide) s hs
  · rename_i accepted
    obtain ⟨nonempty, rfl⟩ : rows ≠ [] ∧ complete = true := by simpa using accepted
    have fit := fun row hrow => And.intro (hrows row hrow) (forall_complete hcomplete row hrow)
    -- No row fails for want of the cart, as each finds what the one before left.
    refine GivesFrom.bind (setRows_gives hid hc fit (fun h => absurd h nonempty) hs hkc)
      fun cart s' _ hs' hcart => ?_
    obtain ⟨kc', rfl, hkc'⟩ := hcart
    exact ⟨hs', isAnswer_shownCart rfl hkc'⟩

/-- The discount codes of a cart that is there are replaced. -/
theorem cartDiscountCodesUpdate_gives {document : String} {vars : Value}
    (hr : Reads strict document vars) (hv : vars.Fit strict) :
    Gives (Kept strict) strict (cartDiscountCodesUpdate document vars)
      (Operation.IsAnswer strict .cartDiscountCodesUpdate) :=
  forKnownCart_gives rfl hr hv fun cartId _ hc => (Gives.lift (hv.member "discountCodes")).bind
    fun _ hcodes => (setDiscount_gives cartId hc hcodes).bind fun _ hcart =>
      mutated_gives rfl hcart (by decide) (by decide)

/-! ### Groups -/

/-- What an outcome holds fits: a value on success, or at least one error. -/
def OutcomeFits (strict : Prop) : Except (List Value) Value → Prop
  | .ok v => v.Present strict
  | .error errors => errors ≠ [] ∧ ∀ e ∈ errors, e.Fit strict

/-- A failure of the engine for groups is turned into errors, unless no identifiers are left. -/
theorem orErrors_gives {act : Act Shop Value}
    (h : Gives (Kept strict) strict act (Value.Present strict)) :
    Gives (Kept strict) strict (orErrors act) (OutcomeFits strict) := by
  refine Gives.tryCatch (h.map fun v hv => hv) fun fault hfault => ?_
  split
  · exact (faultErrors_gives hfault).map fun errors he => he
  · exact .throw hfault

/-- A payload with a group or errors is an answer. -/
theorem isAnswer_groupPayload {o : Operation} {name : String} (ho : o.result? = some name)
    (hname : IsMemberName name) (hne : name ≠ "userErrors") {outcome : Except (List Value) Value}
    (h : OutcomeFits strict outcome) : o.IsAnswer strict (groupPayload o name outcome) where
  single := by
    rw [o.field_of_result? ho]
    refine ⟨_, rfl, fun result hresult => ?_⟩
    obtain rfl := Option.some.inj (hresult.symm.trans ho)
    -- A group that is shown is not null, and errors come without one.
    cases outcome with
    | ok v =>
      refine ⟨[], by simp [Value.ofFields, Value.get?, Assoc.get?, hne], iff_of_true ?_ rfl⟩
      simpa [Value.ofFields, Value.get?, Assoc.get?] using h.not_null
    | error errors =>
      refine ⟨errors, by simp [Value.ofFields, Value.get?, Assoc.get?, hne], iff_of_false ?_ h.1⟩
      simp [Value.ofFields, Value.get?, Assoc.get?, Value.isNull]
  fit hs := by
    have names : ∀ n ∈ [name, "userErrors"], IsMemberName n :=
      List.forall_mem_cons.2 ⟨hname, by decide⟩
    have distinct : [name, "userErrors"].Nodup := by simp [hne]
    refine Value.clean_single o.isMemberName_root ?_
    cases outcome with
    | ok v =>
      exact Value.clean_ofFields [name, "userErrors"] rfl names distinct
        ⟨h.fit hs, Value.clean_list_nil⟩
    | error errors =>
      exact Value.clean_ofFields [name, "userErrors"] rfl names distinct
        ⟨.null, .list fun e he => h.2 e he hs⟩

/-- A group is read, and what keeps it from being read is reported in its place. -/
theorem groupGet_gives {vars : Value} (hv : vars.Fit strict) :
    Gives (Kept strict) strict (groupGet vars) (Operation.IsAnswer strict .groupGet) := by
  refine (Gives.lift (hv.member _)).bind fun v _ => (Gives.lift (Gid.yields_decodeValue v)).bind
    fun id _ => (orErrors_gives (group_gives id)).bind fun outcome h => ?_
  cases outcome with
  | ok v => exact .pure ⟨⟨_, rfl, nofun⟩, fun hs => Value.clean_single (by decide) (h.fit hs)⟩
  | error errors =>
    exact .pure ⟨⟨_, rfl, nofun⟩, fun hs => Value.clean_single (by decide)
      (Value.clean_single (by decide) (.list fun e he => h.2 e he hs))⟩

/-- A page of groups comes with a cursor for each. -/
theorem groupsList_gives {document : String} {vars : Value} (hr : Reads strict document vars)
    (hv : vars.Fit strict) :
    Gives (Kept strict) strict (groupsList document vars)
      (Operation.IsAnswer strict .groupsList) := by
  refine hr.gives.bind fun p _ => (Gives.lift (hv.member "offset")).bind fun offset _ =>
    (Gives.lift (Value.yields_wholeNumber _)).bind fun start _ =>
    (Gives.lift (hv.member "first")).bind fun first _ =>
    (groups_gives (.int start) first).bind fun page hpage => ?_
  split
  · exact .pure ⟨⟨_, rfl, nofun⟩, fun hs => Value.clean_single (by decide)
      (.list fun g hg => hpage g hg hs)⟩
  · -- The cursors count on from a number that is drawn.
    refine (draw_gives (by decide)).bind fun cursor _ => .pure ⟨⟨_, rfl, nofun⟩, fun hs => ?_⟩
    refine Value.clean_single (by decide) (Value.clean_single (by decide) (.list fun v hv => ?_))
    obtain ⟨g, hg, rfl⟩ := List.mem_map.1 hv
    exact Value.clean_ofFields ["cursor", "node"] rfl (by decide) (by decide)
      ⟨.int _, hpage g hg hs⟩

/-- A group is made from the input, which holds no changes of plans if values have to be clean. -/
theorem groupCreate_gives {vars : Value} (hv : vars.Fit strict)
    (hplain : strict → Operation.groupCreate.Plain vars) :
    Gives (Kept strict) strict (groupCreate vars)
      (Operation.IsAnswer strict .groupCreate) := by
  -- What `Plain` says of the input still holds once null has become an empty record.
  have input : Yields strict (vars.member "input") fun input => input.Fit strict ∧
      (strict → (input.orElse (.record [])).get? "sellingPlansToUpdate" = none) := by
    by_cases hs : strict
    · obtain ⟨input, hget, hnone⟩ := hplain hs
      have fit := hv.member "input"
      rw [Value.member_of_get? hget] at fit ⊢
      refine ⟨fit, fun _ => ?_⟩
      rw [Value.orElse]
      split
      · exact hnone
      · rfl
    · exact (hv.member "input").mono fun _ hi => ⟨hi, fun hs' => absurd hs' hs⟩
  exact (Gives.lift input).bind fun _ ⟨hi, hnone⟩ => (orErrors_gives (createGroup_gives
    (hi.orElse Value.fit_emptyRecord) Gid.fitId_null hnone)).bind fun _ h =>
      .pure (isAnswer_groupPayload rfl (by decide) (by decide) h)

/-- The identifiers to be attached are those of a list, and can be sent in their raw form. -/
theorem yields_relatedIds {name : String} {vars : Value} (hv : vars.Fit strict)
    (h : strict → ∃ ids, vars.get? name = some (.list ids) ∧ ∀ v ∈ ids, Gid.FitId strict v) :
    Yields strict (vars.member name) fun ids =>
      Yields strict (ids.orElse (.list [])).elementsOrNone fun vs =>
        ∀ v ∈ vs, v.Fit strict ∧ Gid.FitId strict v := by
  -- Only strictly is anything known of what the list holds.
  by_cases hs : strict
  · obtain ⟨ids, hget, hids⟩ := h hs
    have fit := hv.member name
    rw [Value.member_of_get? hget] at fit ⊢
    have same : ((Value.list ids).orElse (.list [])).elementsOrNone = .ok ids := by
      cases ids <;> rfl
    show Yields strict ((Value.list ids).orElse (.list [])).elementsOrNone _
    rw [same]
    exact fun v hv => ⟨fun hs => (fit hs).items v hv, hids v hv⟩
  · refine (hv.member name).mono fun ids hids => ?_
    exact (hids.orElse fun _ => Value.clean_list_nil).elementsOrNone.mono fun vs hvs v hv =>
      ⟨hvs v hv, fun hs' => absurd hs' hs⟩

/-- Attaching products and attaching variants differ in the relation and in the name of the list
only. -/
theorem related_gives {o : Operation} (ho : o.result? = some "sellingPlanGroup") {name : String}
    (relation : Key) {vars : Value} (hv : vars.Fit strict)
    (h : strict → ∃ ids, vars.get? name = some (.list ids) ∧ ∀ v ∈ ids, Gid.FitId strict v) :
    Gives (Kept strict) strict (do
      let id ← Gid.decodeValue (← vars.member "id")
      let ids := (← vars.member name).orElse (.list [])
      return groupPayload o "sellingPlanGroup" (← orErrors (relate relation id ids)))
      (o.IsAnswer strict) :=
  (Gives.lift (hv.member "id")).bind fun v _ => (Gives.lift (Gid.yields_decodeValue v)).bind
    fun id _ => (Gives.lift (yields_relatedIds hv h)).bind fun _ hids =>
    (orErrors_gives (relate_gives relation id hids)).bind fun _ h =>
      .pure (isAnswer_groupPayload ho (by decide) (by decide) h)

/-- Products are attached to a group. -/
theorem groupAddProducts_gives {vars : Value} (hv : vars.Fit strict)
    (hplain : strict → Operation.groupAddProducts.Plain vars) :
    Gives (Kept strict) strict (groupAddProducts vars)
      (Operation.IsAnswer strict .groupAddProducts) :=
  related_gives rfl productRelation hv fun hs =>
    (hplain hs).imp fun _ h => ⟨h.1, fun v hv _ => h.2 v hv⟩

/-- Variants are attached to a group. -/
theorem groupAddProductVariants_gives {vars : Value} (hv : vars.Fit strict)
    (hplain : strict → Operation.groupAddProductVariants.Plain vars) :
    Gives (Kept strict) strict (groupAddProductVariants vars)
      (Operation.IsAnswer strict .groupAddProductVariants) :=
  related_gives rfl variantRelation hv fun hs =>
    (hplain hs).imp fun _ h => ⟨h.1, fun v hv _ => h.2 v hv⟩

/-- A group is deleted, and the answer repeats the identifier that was given. -/
theorem groupDelete_gives {vars : Value} (hv : vars.Fit strict) :
    Gives (Kept strict) strict (groupDelete vars)
      (Operation.IsAnswer strict .groupDelete) := by
  refine (Gives.lift (hv.member "id")).bind fun given hg =>
    (Gives.lift (Gid.yields_decodeValue given)).bind fun id hid =>
    (orErrors_gives ((deleteGroup_gives id).bind fun erased hne => ?_)).bind fun outcome h =>
      .pure (isAnswer_groupPayload rfl (by decide) (by decide) h)
  split
  · -- The answer repeats what was given, which is not null as it decodes to an identifier.
    refine .pure ⟨hg, ?_⟩
    rcases hid with ⟨t, rfl, -⟩ | ⟨-, rfl⟩
    · rfl
    · exact hne
  · exact .throw (Fault.tame_rejected (List.cons_ne_nil _ _)
      fun _ => List.forall_mem_singleton.2 (.text (by decide)))

end Answer

/-! ### Documents -/

namespace Router

/-- Whatever the variables hold, an operation is answered under its field. -/
theorem ownHandler_gives {factory : Option Factory}
    (hf : factory = none ∨ factory = some Factory.standard) (o : Operation) {document : String}
    {vars : Value} (hr : Answer.Reads strict document vars) (hv : vars.Fit strict)
    (hplain : strict → o.Plain vars) :
    Gives (Kept strict) strict (ownHandler factory o document vars)
      (o.IsAnswer strict) := by
  -- One lemma for each operation.
  cases o with
  | cartGet => exact Answer.cartGet_gives hr hv
  | cartCreate => exact Answer.cartCreate_gives hv
  | cartBuyerIdentityUpdate => exact Answer.cartBuyerIdentityUpdate_gives hf hv
  | cartLinesAdd => exact Answer.cartLinesAdd_gives hr hv hplain
  | cartLinesUpdate => exact Answer.cartLinesUpdate_gives hr hv
  | cartLinesRemove => exact Answer.cartLinesRemove_gives hr hv
  | cartNoteUpdate => exact Answer.cartNoteUpdate_gives hr hv
  | cartAttributesUpdate => exact Answer.cartAttributesUpdate_gives hr hv
  | cartDiscountCodesUpdate => exact Answer.cartDiscountCodesUpdate_gives hr hv
  | groupGet => exact Answer.groupGet_gives hv
  | groupsList => exact Answer.groupsList_gives hr hv
  | groupCreate => exact Answer.groupCreate_gives hv hplain
  | groupAddProducts => exact Answer.groupAddProducts_gives hv hplain
  | groupAddProductVariants => exact Answer.groupAddProductVariants_gives hv hplain
  | groupDelete => exact Answer.groupDelete_gives hv

end Router
end Storefront
