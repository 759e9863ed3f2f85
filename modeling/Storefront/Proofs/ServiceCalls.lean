import Storefront.Proofs.CleanRequests
import Storefront.Proofs.Interchange

/-! # Calls over either way

Every call of the cart service and of the selling plan group service, given clean arguments, does
the same whether the router is asked itself or a server in front of it.

* `ServiceCall.run_agrees` : the calls agree -/

namespace Storefront

open Text (Sendable)
open Shop

/-! ### Carts -/

namespace Service

variable {cartId country : Value}

/-- To encode a clean identifier is the same either way. -/
theorem encodeValue_agrees {v : Value} (h : v.Clean) :
    Agree (liftM (Gid.encodeValue v)) (Value.Fit True) :=
  .of_yields (Gid.yields_encodeValue fun _ => h)

/-- A mutation of a cart. -/
theorem mutateCart_agrees (o : Operation) {name : String} {v : Value} (hname : IsMemberName name)
    (hne : name ≠ "cartId") (hcart : cartId.Clean) (hv : v.Clean)
    (hplain : ∀ id, o.Plain (.ofFields [("cartId", id), (name, v)])) :
    Agree (do
      mutate o (o.document "") (.ofFields [("cartId", ← Gid.encodeValue cartId), (name, v)]))
      fun _ => True := by
  refine (encodeValue_agrees hcart).bind fun id hid => ?_
  have clean : (Value.ofFields [("cartId", id), (name, v)]).Clean :=
    Value.clean_ofFields ["cartId", name] rfl
      (List.forall_mem_cons.2 ⟨by decide, List.forall_mem_singleton.2 hname⟩)
      (by simpa using hne.symm) ⟨hid trivial, hv⟩
  exact mutate_agrees o clean (hplain id)

/-- To make a cart is the same either way. -/
theorem newCart_agrees (h : country.Clean) : Agree (newCart country) fun _ => True :=
  mutate_agrees .cartCreate (Value.clean_single (by decide)
    (Value.clean_single (by decide) (Value.clean_single (by decide) h))) trivial

/-- To move a cart to a buyer's country is the same either way. -/
theorem setBuyerIdentity_agrees {identity : Value} (hcart : cartId.Clean) (h : country.Clean)
    (hidentity : identity.Clean) :
    Agree (setBuyerIdentity cartId country identity) fun _ => True := by
  refine (encodeValue_agrees hcart).bind fun id hid => ?_
  have given : (identity.orElse (.record [])).Fit True :=
    Value.Fit.orElse (fun _ => hidentity) Value.fit_emptyRecord
  refine (Agree.of_yields (Value.yields_asRecord _)).bind fun fields hfields => ?_
  rw [hfields] at given
  have clean : (Value.ofFields [("cartId", id),
      ("buyerIdentity", (Value.record fields).put "countryCode" country)]).Clean :=
    Value.clean_ofFields ["cartId", "buyerIdentity"] rfl (by decide) (by decide)
      ⟨hid trivial, (given trivial).put (by decide) h⟩
  exact mutate_agrees .cartBuyerIdentityUpdate clean trivial

/-- To read a cart is the same either way. -/
theorem cart_agrees (withAllocation : Value) (hcart : cartId.Clean) (h : country.Clean) :
    Agree (cart cartId country withAllocation) (Value.Fit True) := by
  unfold cart
  extract_lets allocation
  -- The query has the plans of lines in it, or not.
  have hallocation : Sendable allocation.toList := by
    unfold allocation
    split
    · exact Document.sendable_sellingPlanAllocation
    · decide
  refine (encodeValue_agrees hcart).bind fun id hid => ?_
  have clean : (Value.ofFields [("cartId", id), ("countryCode", country)]).Clean :=
    Value.clean_ofFields ["cartId", "countryCode"] rfl (by decide) (by decide) ⟨hid trivial, h⟩
  refine (ask_agrees .cartGet hallocation clean trivial).bind fun data hdata => ?_
  have hdata := hdata.orElse Value.fit_emptyRecord
  refine (Agree.of_yields (hdata.member "cart")).bind fun cart hcart => ?_
  extract_lets answer
  split
  · exact (collectError_agrees _ _).bind fun _ _ => .pure hcart
  · exact .pure hcart

/-- To look for a cart is the same either way. -/
theorem cartExists_agrees (hcart : cartId.Clean) (h : country.Clean) :
    Agree (cartExists cartId country) fun _ => True := by
  unfold cartExists
  split
  · exact .pure trivial
  · exact (cart_agrees _ hcart h).bind fun _ _ => .pure trivial

/-- To ask for the address of the checkout is the same either way. -/
theorem checkoutUrl_agrees (hcart : cartId.Clean) (h : country.Clean) :
    Agree (checkoutUrl cartId country) fun _ => True := by
  refine (cart_agrees _ hcart h).bind fun cart _ => ?_
  split
  · exact .lift fun _ _ => trivial
  · exact .pure trivial

/-! ### Lines -/

/-- To add lines is the same either way: their variants can be sent raw. -/
theorem addLines_agrees {lines planId : Value} (hcart : cartId.Clean)
    (hlines : ∀ fields, lines = .record fields →
      ∀ p ∈ fields, Sendable p.1.display.toList ∧ p.2.Clean) (hplan : planId.Clean) :
    Agree (addLines cartId lines planId) fun _ => True := by
  refine (Agree.of_yields (Value.yields_asRecord lines)).bind fun fields hfields => ?_
  have hfields := hlines fields hfields
  refine (Agree.mapM fun p hp =>
    .lift (additionOf_ensures hplan (hfields p hp).1 (hfields p hp).2)).bind fun additions h => ?_
  exact mutateCart_agrees .cartLinesAdd (by decide) (by decide) hcart
    (.list fun v hv => (h v hv).1) fun id => ⟨additions, rfl, fun v hv => (h v hv).2⟩

/-- To update lines is the same either way. -/
theorem updateLines_agrees {lines : Value} (hcart : cartId.Clean)
    (hlines : ∀ fields, lines = .record fields → ∀ p ∈ fields, p.1.toValue.Clean ∧ p.2.Clean) :
    Agree (updateLines cartId lines) fun _ => True := by
  refine (Agree.of_yields (Value.yields_asRecord lines)).bind fun fields hfields => ?_
  have hfields := hlines fields hfields
  refine (Agree.mapM fun p hp =>
    .lift (changeOf_ensures (hfields p hp).1 (hfields p hp).2)).bind fun changes h => ?_
  exact mutateCart_agrees .cartLinesUpdate (by decide) (by decide) hcart (.list h) fun _ => trivial

/-- To add one line is the same either way. -/
theorem addLine_agrees {variant line planId : Value} (hcart : cartId.Clean)
    (hvariant : variant.Clean) (hline : line.Clean) (hplan : planId.Clean) :
    Agree (addLine cartId variant line planId) fun _ => True := by
  refine (Agree.of_yields (Value.yields_asKey variant)).bind fun key hkey => ?_
  refine addLines_agrees hcart (fun fields hfields p hp => ?_) hplan
  obtain rfl := Value.record.inj hfields
  obtain rfl := List.mem_singleton.1 hp
  exact ⟨Key.sendable_display (hkey ▸ hvariant), hline⟩

/-- To update one line is the same either way. -/
theorem updateLine_agrees {lineId line : Value} (hcart : cartId.Clean) (hid : lineId.Clean)
    (hline : line.Clean) : Agree (updateLine cartId lineId line) fun _ => True := by
  refine (Agree.of_yields (Value.yields_asKey lineId)).bind fun key hkey => ?_
  refine updateLines_agrees hcart fun fields hfields p hp => ?_
  obtain rfl := Value.record.inj hfields
  obtain rfl := List.mem_singleton.1 hp
  exact ⟨hkey ▸ hid, hline⟩

/-- Clean identifiers can be encoded into clean ones. -/
theorem elements_ensures {ids : Value} (h : ids.Clean) : Ensures ids.elements fun vs =>
    ∀ v ∈ vs, Ensures (Gid.encodeValue v) (Value.Fit True) :=
  (Ensures.of_yields (Value.Fit.elements fun _ => h)).mono fun _ hvs v hv =>
    .of_yields (Gid.yields_encodeValue (hvs v hv))

/-- To remove lines is the same either way. -/
theorem removeLines_agrees {lineIds : Value} (hcart : cartId.Clean) (hids : Ensures lineIds.elements
    fun vs => ∀ v ∈ vs, Ensures (Gid.encodeValue v) (Value.Fit True)) :
    Agree (removeLines cartId lineIds) fun _ => True := by
  refine (encodeValue_agrees hcart).bind fun id hid => (Agree.lift hids).bind fun vs hvs => ?_
  refine (Agree.mapM fun v hv => .lift (hvs v hv)).bind fun ids h => ?_
  have clean : (Value.ofFields [("cartId", id), ("lineIds", .list ids)]).Clean :=
    Value.clean_ofFields ["cartId", "lineIds"] rfl (by decide) (by decide)
      ⟨hid trivial, .list fun v hv => h v hv trivial⟩
  exact mutate_agrees .cartLinesRemove clean trivial

/-- The identifiers of a received cart's lines can be sent once more. -/
theorem lineIdsOf_ensures {cart : Value} (h : cart.Fit True) : Ensures (lineIdsOf cart) fun vs =>
    ∀ v ∈ vs, Ensures (Gid.encodeValue v) (Value.Fit True) := by
  refine (Ensures.of_yields (h.item "lines")).bind fun lines hlines =>
    (Ensures.of_yields (hlines.item "edges")).bind fun edges hedges =>
    (Ensures.of_yields hedges.elements).bind fun es hes => .mapM fun e he => ?_
  refine (Ensures.of_yields ((hes e he).item "node")).bind fun node hnode =>
    (Ensures.of_yields (hnode.item "id")).bind fun id hid => ?_
  exact fun v hv => Gid.encodeValue_ensures (hid trivial) hv

/-- To empty a cart is the same either way: what is received of it can be sent again. -/
theorem emptyCart_agrees (hcart : cartId.Clean) (h : country.Clean) :
    Agree (emptyCart cartId country) fun _ => True := by
  refine (cart_agrees _ hcart h).bind fun cart hc => ?_
  split
  · exact .pure trivial
  · refine (Agree.lift (lineIdsOf_ensures hc)).bind fun ids hids => ?_
    split
    · exact .pure trivial
    · have removed : Agree (removeLines cartId (.list ids)) fun _ => True :=
        removeLines_agrees hcart fun vs hvs => Except.ok.inj hvs ▸ hids
      exact removed.bind fun _ _ => .pure trivial

/-! ### Notes, attributes and discount codes -/

/-- To set the note is the same either way. -/
theorem setNote_agrees {note : Value} (hcart : cartId.Clean) (h : note.Clean) :
    Agree (setNote cartId note) fun _ => True :=
  mutateCart_agrees .cartNoteUpdate (by decide) (by decide) hcart h fun _ => trivial

/-- To set an attribute is the same either way. -/
theorem setAttribute_agrees {key value : Value} (hcart : cartId.Clean) (hkey : key.Clean)
    (hvalue : value.Clean) : Agree (setAttribute cartId key value) fun _ => True :=
  mutateCart_agrees .cartAttributesUpdate (by decide) (by decide) hcart
    (.list (List.forall_mem_singleton.2
      (Attribute.Clean.toValue (a := ⟨key, value⟩) ⟨hkey, hvalue⟩)))
    fun _ => trivial

/-- To set discount codes is the same either way. -/
theorem setDiscountCodes_agrees {codes : Value} (hcart : cartId.Clean) (h : codes.Clean) :
    Agree (setDiscountCodes cartId codes) fun _ => True := by
  refine (encodeValue_agrees hcart).bind fun id hid =>
    (Agree.of_yields (Value.Fit.elements fun _ => h)).bind fun cs hcs => ?_
  have clean : (Value.ofFields [("cartId", id), ("discountCodes", .list cs)]).Clean :=
    Value.clean_ofFields ["cartId", "discountCodes"] rfl (by decide) (by decide)
      ⟨hid trivial, .list fun v hv => hcs v hv trivial⟩
  exact mutate_agrees .cartDiscountCodesUpdate clean trivial

/-! ### Selling plan groups -/

/-- Attaching entities to a group, by identifiers of their kind. -/
theorem relate_agrees (o : Operation) {name kind : String} (hname : IsMemberName name)
    (hne : name ≠ "id") (hkind : Sendable kind.toList) (hplain : ∀ id ids,
      (∀ v ∈ ids, ∀ s, v = .text s → Sendable (Gid.decode s).toList) →
      o.Plain (.ofFields [("id", id), (name, .list ids)]))
    {groupId ids : Value} (hgroup : groupId.Clean) (hids : ids.Clean) :
    Agree (do
      let payload ← askFor (o.document "") (.ofFields [("id", groupId),
        (name, .list (← normalisedIds (Gid.kindPrefix kind) ids))]) o.root
      memberOfAnswer payload "sellingPlanGroup") fun _ => True := by
  refine (Agree.lift (normalisedIds_ensures hkind hids)).bind fun vs hvs => ?_
  -- The two fields have different names, so the variables are clean when their values are.
  have clean : (Value.ofFields [("id", groupId), (name, .list vs)]).Clean :=
    Value.clean_ofFields ["id", name] rfl
      (List.forall_mem_cons.2 ⟨by decide, List.forall_mem_singleton.2 hname⟩)
      (by simpa using hne.symm) ⟨hgroup, .list fun v hv => (hvs v hv).1⟩
  refine (askFor_agrees o _ clean (hplain _ _ fun v hv => (hvs v hv).2)).bind fun payload _ => ?_
  exact .lift fun _ _ => trivial

variable {groupId ids : Value}

/-- To attach products is the same either way. -/
theorem addProducts_agrees (hgroup : groupId.Clean) (hids : ids.Clean) :
    Agree (addProducts groupId ids) fun _ => True :=
  relate_agrees .groupAddProducts (by decide) (by decide) (by decide) (fun _ _ h => ⟨_, rfl, h⟩)
    hgroup hids

/-- To attach variants is the same either way. -/
theorem addProductVariants_agrees (hgroup : groupId.Clean) (hids : ids.Clean) :
    Agree (addProductVariants groupId ids) fun _ => True :=
  relate_agrees .groupAddProductVariants (by decide) (by decide) (by decide)
    (fun _ _ h => ⟨_, rfl, h⟩) hgroup hids

/-- A member of an answer that fits fits. -/
theorem yields_memberOfAnswer {payload : Value} (h : payload.Fit True) (name : String) :
    Yields True (memberOfAnswer payload name) (Value.Fit True) := by
  unfold memberOfAnswer
  split
  · exact h.member name
  · exact Value.fit_null

/-- To make a group is the same either way, with all that is attached to it. -/
theorem createGroup_agrees {options : Value} (h : options.Clean) :
    Agree (createGroup options) fun _ => True := by
  have member : ∀ name, Agree (liftM (options.member name)) (Value.Fit True) := fun name =>
    .of_yields (Value.Fit.member (fun _ => h) name)
  refine (Agree.lift (groupInput_ensures h)).bind fun input hinput => ?_
  refine (askFor_agrees .groupCreate _ (Value.clean_single (by decide) hinput.clean)
    ⟨input, rfl, hinput.plain⟩).bind fun payload hpayload => ?_
  refine (Agree.of_yields (yields_memberOfAnswer hpayload _)).bind fun group hgroup => ?_
  split
  · exact .pure trivial
  · refine (Agree.of_yields (hgroup.item "id")).bind fun id hid =>
      (member _).bind fun productIds hproducts => ?_
    extract_lets done withVariants
    -- What is left to do once the products are attached.
    have variants : Agree (withVariants ()) fun _ => True := by
      refine (member _).bind fun variantIds hvariants => ?_
      split
      · refine (addProductVariants_agrees (hid trivial) (hvariants trivial)).bind fun _ _ => ?_
        split
        · exact .pure trivial
        · exact .pure trivial
      · exact .pure trivial
    split
    · refine (addProducts_agrees (hid trivial) (hproducts trivial)).bind fun _ _ => ?_
      split
      · exact .pure trivial
      · exact variants
    · exact variants

/-- To remove a group is the same either way. -/
theorem removeGroup_agrees (hgroup : groupId.Clean) :
    Agree (removeGroup groupId) fun _ => True := by
  refine (encodeValue_agrees hgroup).bind fun id hid => ?_
  refine (askFor_agrees .groupDelete _ (Value.clean_single (by decide) (hid trivial)) trivial).bind
    fun payload _ => .lift fun _ _ => trivial

/-- To read a group is the same either way. -/
theorem group_agrees (hgroup : groupId.Clean) : Agree (group groupId) fun _ => True := by
  refine (encodeValue_agrees hgroup).bind fun id hid => ?_
  exact (askFor_agrees .groupGet _ (Value.clean_single (by decide) (hid trivial)) trivial).mono
    fun _ _ => trivial

/-- To list groups is the same either way. -/
theorem groups_agrees {first offset : Value} (hfirst : first.Clean) (hoffset : offset.Clean) :
    Agree (groups first offset) fun _ => True := by
  have clean : (Value.ofFields [("first", first), ("offset", offset)]).Clean :=
    Value.clean_ofFields ["first", "offset"] rfl (by decide) (by decide) ⟨hfirst, hoffset⟩
  refine (askFor_agrees .groupsList _ clean trivial).bind fun payload hpayload => ?_
  split
  · exact .pure trivial
  · refine (Agree.of_yields (hpayload.member "edges")).bind fun edges hedges =>
      (Agree.of_yields hedges.elementsOrNone).bind fun es _ =>
      (Agree.mapM (Q := fun _ => True) fun _ _ => .lift fun _ _ => trivial).bind fun _ _ =>
      .pure trivial

end Service

/-! ### Calls -/

/-- A call of the cart service or of the selling plan group service. -/
inductive ServiceCall where
  | newCart (country : Value)
  | setBuyerIdentity (cartId country identity : Value)
  | cart (cartId country withAllocation : Value)
  | cartExists (cartId country : Value)
  | checkoutUrl (cartId country : Value)
  | addLines (cartId lines planId : Value)
  | addLine (cartId variant line planId : Value)
  | updateLines (cartId lines : Value)
  | updateLine (cartId lineId line : Value)
  | removeLines (cartId lineIds : Value)
  | removeLine (cartId lineId : Value)
  | emptyCart (cartId country : Value)
  | setNote (cartId note : Value)
  | setAttribute (cartId key value : Value)
  | setDiscountCodes (cartId codes : Value)
  | createGroup (options : Value)
  | addProducts (groupId productIds : Value)
  | addProductVariants (groupId variantIds : Value)
  | removeGroup (groupId : Value)
  | group (groupId : Value)
  | groups (first offset : Value)

namespace ServiceCall

/-- Performs a call. -/
def run : ServiceCall → Act Service Value
  | newCart country => Service.newCart country
  | setBuyerIdentity cartId country identity => Service.setBuyerIdentity cartId country identity
  | cart cartId country withAllocation => Service.cart cartId country withAllocation
  | cartExists cartId country => Value.bool <$> Service.cartExists cartId country
  | checkoutUrl cartId country => Service.checkoutUrl cartId country
  | addLines cartId lines planId => Service.addLines cartId lines planId
  | addLine cartId variant line planId => Service.addLine cartId variant line planId
  | updateLines cartId lines => Service.updateLines cartId lines
  | updateLine cartId lineId line => Service.updateLine cartId lineId line
  | removeLines cartId lineIds => Service.removeLines cartId lineIds
  | removeLine cartId lineId => Service.removeLine cartId lineId
  | emptyCart cartId country => Value.bool <$> Service.emptyCart cartId country
  | setNote cartId note => Service.setNote cartId note
  | setAttribute cartId key value => Service.setAttribute cartId key value
  | setDiscountCodes cartId codes => Service.setDiscountCodes cartId codes
  | createGroup options => Service.createGroup options
  | addProducts groupId productIds => Service.addProducts groupId productIds
  | addProductVariants groupId variantIds => Service.addProductVariants groupId variantIds
  | removeGroup groupId => Service.removeGroup groupId
  | group groupId => Service.group groupId
  | groups first offset => Service.groups first offset

/-- What a call is given. -/
def arguments : ServiceCall → List Value
  | newCart country => [country]
  | setBuyerIdentity cartId country identity => [cartId, country, identity]
  | cart cartId country withAllocation => [cartId, country, withAllocation]
  | cartExists cartId country => [cartId, country]
  | checkoutUrl cartId country => [cartId, country]
  | addLines cartId lines planId => [cartId, lines, planId]
  | addLine cartId variant line planId => [cartId, variant, line, planId]
  | updateLines cartId lines => [cartId, lines]
  | updateLine cartId lineId line => [cartId, lineId, line]
  | removeLines cartId lineIds => [cartId, lineIds]
  | removeLine cartId lineId => [cartId, lineId]
  | emptyCart cartId country => [cartId, country]
  | setNote cartId note => [cartId, note]
  | setAttribute cartId key value => [cartId, key, value]
  | setDiscountCodes cartId codes => [cartId, codes]
  | createGroup options => [options]
  | addProducts groupId productIds => [groupId, productIds]
  | addProductVariants groupId variantIds => [groupId, variantIds]
  | removeGroup groupId => [groupId]
  | group groupId => [groupId]
  | groups first offset => [first, offset]

open Service

/-- Every call with clean arguments is the same either way. -/
theorem run_agrees (call : ServiceCall) (h : call.arguments.Forall Value.Clean) :
    Agree call.run fun _ => True := by
  cases call with
  | newCart country => exact newCart_agrees h
  | setBuyerIdentity cartId country identity => exact setBuyerIdentity_agrees h.1 h.2.1 h.2.2
  | cart cartId country withAllocation => exact (cart_agrees _ h.1 h.2.1).mono fun _ _ => trivial
  | cartExists cartId country => exact (cartExists_agrees h.1 h.2).map
  | checkoutUrl cartId country => exact checkoutUrl_agrees h.1 h.2
  | addLines cartId lines planId =>
    refine addLines_agrees h.1 (fun fields hfields p hp => ?_) h.2.2
    -- The names and the values of a clean record are clean.
    have hlines : (Value.record fields).Clean := hfields ▸ h.2.1
    exact ⟨Key.sendable_display (hlines.name hp), hlines.values p hp⟩
  | addLine cartId variant line planId => exact addLine_agrees h.1 h.2.1 h.2.2.1 h.2.2.2
  | updateLines cartId lines =>
    refine updateLines_agrees h.1 fun fields hfields p hp => ?_
    have hlines : (Value.record fields).Clean := hfields ▸ h.2
    exact ⟨hlines.name hp, hlines.values p hp⟩
  | updateLine cartId lineId line => exact updateLine_agrees h.1 h.2.1 h.2.2
  | removeLines cartId lineIds => exact removeLines_agrees h.1 (elements_ensures h.2)
  | removeLine cartId lineId =>
    exact removeLines_agrees h.1 (elements_ensures (.list (List.forall_mem_singleton.2 h.2)))
  | emptyCart cartId country => exact (emptyCart_agrees h.1 h.2).map
  | setNote cartId note => exact setNote_agrees h.1 h.2
  | setAttribute cartId key value => exact setAttribute_agrees h.1 h.2.1 h.2.2
  | setDiscountCodes cartId codes => exact setDiscountCodes_agrees h.1 h.2
  | createGroup options => exact createGroup_agrees h
  | addProducts groupId productIds => exact addProducts_agrees h.1 h.2
  | addProductVariants groupId variantIds => exact addProductVariants_agrees h.1 h.2
  | removeGroup groupId => exact removeGroup_agrees h
  | group groupId => exact group_agrees h
  | groups first offset => exact groups_agrees h.1 h.2

end ServiceCall
end Storefront
