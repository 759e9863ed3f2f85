import Storefront.Proofs.EitherWay
import Storefront.Proofs.GroupViews

/-! # Reading groups through a service

A service over the router of a shop reads a group by its identifier in either form.  What it gets is
what the group shows; only if there are no identifiers left to make up what the group is linked to
does it get nothing, and that is the one error it collects.

* `Readable` : a group is kept under an identifier, and its plans are found
* `Service.InProcess` : the service asks the router of a shop
* `Service.on_group` : what is read of a group -/

namespace Storefront

open Shop

namespace Shop

/-- A group is kept under an identifier. -/
def HasGroup (s : Shop) (id : String) : Prop :=
  (s.entity? Gid.groupPrefix (.text id)).isSome = true

/-- A group may be kept under the text: it is no encoded identifier, and it can be sent. -/
structure NamesGroup (id : String) : Prop where
  decoded : Gid.decode id = id
  ne_empty : id ≠ ""
  sent : Gid.encodeText id = .ok (Gid.encode id)

/-- An identifier that is sent in its code is decoded to itself. -/
theorem NamesGroup.decodeValue_encode {id : String} (h : NamesGroup id) :
    Gid.decodeValue (.text (Gid.encode id)) = .ok (.text id) := by
  rw [Gid.decodeValue_text, Gid.decode_encode, h.decoded]

/-- A group is kept under the identifier, and nothing that it is linked to as a plan keeps it from
being joined. -/
structure Joinable (s : Shop) (id : String) : Prop where
  named : NamesGroup id
  owned : s.Owned
  exists_group : ∃ g : SellingPlanGroup, g.id = id ∧
    s.entity? Gid.groupPrefix (.text id) = some (.group g)
  decodes : ∀ k ∈ s.linkedPlans id, ∃ v, Gid.decodeValue k.toValue = .ok v

/-- A group is kept under the identifier, and its plans are found under theirs. -/
structure Readable (s : Shop) (id : String) : Prop extends Joinable s id where
  plans : ∀ k ∈ s.linkedPlans id, ∃ plan, k = .text plan ∧ Gid.decode plan = plan
  decodes := fun k hk => by
    obtain ⟨plan, rfl, -⟩ := plans k hk
    exact ⟨.text (Gid.decode plan), rfl⟩

/-- What the group of an identifier shows; null if there is none. -/
def shownGroup (s : Shop) (id : String) : Value :=
  match s.entity? Gid.groupPrefix (.text id) with
  | some (.group g) => s.groupView g
  | _ => .null

variable {s s' : Shop} {id : String}

/-- An identifier that names a group is found to do so. -/
theorem on_groupId {named : Value} (hraw : Gid.decodeValue named = .ok (.text id))
    (ne_empty : id ≠ "") (has : s.HasGroup id) :
    Act.on (groupId named) s = (.ok (.text id), s) := by
  have truthy : (Value.text id).truthy = true := by simpa using ne_empty
  have key : (Value.text id).asKey = .ok (.text id) := rfl
  have found : (s.entity? Gid.groupPrefix (.text id)).isSome = true := has
  unfold groupId
  rw [hraw, Act.on_bind_of_ok (Act.on_lift _ s), if_neg (by simp [truthy]), key,
    Act.on_bind_of_ok (Act.on_lift _ s), Act.on_bind_of_ok (on_has s _ _), if_pos found]
  rfl

/-- A group that is kept shows its view. -/
theorem shownGroup_eq {g : SellingPlanGroup}
    (h : s.entity? Gid.groupPrefix (.text id) = some (.group g)) : s.shownGroup id =
      s.groupView g := by
  rw [shownGroup, h]

/-- A group shows all that a record of a group has; nothing is reported with it. -/
theorem joinedTo_truthy (g : SellingPlanGroup) (plans products variants : List Value) :
    (joinedTo g plans products variants).truthy = true := rfl

/-- Nor has a joined group errors of its own. -/
theorem joinedTo_userErrors (g : SellingPlanGroup) (plans products variants : List Value) :
    (joinedTo g plans products variants).get? "userErrors" = none := rfl

namespace Joinable

variable (h : s.Joinable id)

include h

/-- There is a group to join. -/
theorem hasGroup : s.HasGroup id := by
  obtain ⟨g, -, found⟩ := h.exists_group
  rw [HasGroup, found]
  rfl

/-- The group is joined with what is known of its products and variants in the end. -/
theorem joined_cases : ∃ s', Restocked s s' ∧
    (¬ s.Endless ∧ Act.on (joined (.text id)) s = (.error .exhausted, s') ∨
      s'.Stocks id ∧ ∃ (g : SellingPlanGroup) (plans : List Value), g.id = id ∧
        Act.on (joined (.text id)) s =
          (.ok (joinedTo g plans (s'.shownUnder Gid.productPrefix id productRelation)
            (s'.shownUnder Gid.variantPrefix id variantRelation)), s')) := by
  obtain ⟨g, rfl, found⟩ := h.exists_group
  obtain ⟨plans, hplans⟩ := exists_on_plans h.decodes
  obtain ⟨s', restocked, exhausted | ⟨stocked, answered⟩⟩ := Shop.joined_cases h.owned found hplans
  · exact ⟨s', restocked, .inl exhausted⟩
  · exact ⟨s', restocked, .inr ⟨stocked, g, plans, rfl, answered⟩⟩

/-- A group that is named is joined. -/
theorem on_group_named {named : Value} (hnamed : Gid.decodeValue named = .ok (.text id)) :
    Act.on (group named) s = Act.on (joined (.text id)) s := by
  rw [group, Act.on_bind_of_ok (on_groupId hnamed h.named.ne_empty h.hasGroup)]

/-- The identifier in raw form names it. -/
theorem decodeValue_text : Gid.decodeValue (.text id) = .ok (.text id) := by
  rw [Gid.decodeValue_text, h.named.decoded]

/-- So it is read by its raw identifier. -/
theorem on_group : Act.on (group (.text id)) s = Act.on (joined (.text id)) s :=
  h.on_group_named h.decodeValue_text

end Joinable

namespace Readable

variable (h : s.Readable id)

include h

/-- To make up what is missing leaves the group readable. -/
theorem restocked (restocked : Restocked s s') : s'.Readable id where
  named := h.named
  owned := restocked.owned h.owned
  exists_group := by
    rw [restocked.groups.entity?_eq (.inl rfl)]
    exact h.exists_group
  plans := by
    rw [linkedPlans, restocked.groups.members_eq]
    exact h.plans

/-- A readable group is joined as it is shown in the end. -/
theorem joined_cases : ∃ s', Restocked s s' ∧
    (¬ s.Endless ∧ Act.on (joined (.text id)) s = (.error .exhausted, s') ∨
      s'.Stocks id ∧ Act.on (joined (.text id)) s = (.ok (s'.shownGroup id), s')) := by
  obtain ⟨g, rfl, found⟩ := h.exists_group
  obtain ⟨s', restocked, outcome⟩ := Shop.joined_cases h.owned found (on_plans_raw h.plans)
  have still : s'.entity? Gid.groupPrefix (.text g.id) = some (.group g) :=
    (restocked.groups.entity?_eq (.inl rfl) _).trans found
  -- The plans are not touched by what is made up.
  have plans : s.shownUnder Gid.planPrefix g.id planRelation =
      s'.shownUnder Gid.planPrefix g.id planRelation :=
    (shownUnder_congr (restocked.groups.members_eq g.id planRelation) fun k _ =>
      restocked.groups.entity?_eq (.inr (.inl rfl)) k).symm
  rw [plans] at outcome
  exact ⟨s', restocked, by rwa [shownGroup_eq still]⟩

/-- It is joined without any change once all that it is linked to is known. -/
theorem joined_again (stocked : s.Stocks id) :
    Act.on (joined (.text id)) s = (.ok (s.shownGroup id), s) := by
  obtain ⟨g, rfl, found⟩ := h.exists_group
  rw [Shop.joined_again h.owned found (on_plans_raw h.plans) stocked, shownGroup_eq found]
  rfl

/-- What is shown of a group stays the same from when all that it is linked to is known. -/
theorem shownGroup_restocked (restocked : Restocked s s') (stocked : s.Stocks id) :
    s'.shownGroup id = s.shownGroup id := by
  obtain ⟨g, rfl, found⟩ := h.exists_group
  rw [shownGroup_eq ((restocked.groups.entity?_eq (.inl rfl) _).trans found), shownGroup_eq found,
    restocked.groupView_eq stocked]

/-- What is shown is an answer, and no report of errors. -/
theorem shownGroup_shape :
    (s.shownGroup id).truthy = true ∧ (s.shownGroup id).get? "userErrors" = none := by
  obtain ⟨g, -, found⟩ := h.exists_group
  rw [shownGroup_eq found]
  exact ⟨joinedTo_truthy .., joinedTo_userErrors ..⟩

end Readable

end Shop

/-- A handler that fails in a way that is left to the caller fails the dispatch. -/
theorem Router.on_dispatch_failed {factory : Option Factory} {o : Operation} {document : String}
    (hd : o.IsFor document) {fields : List (Key × Value)} {fault : Fault} {s s' : Shop}
    (h : Act.on (ownHandler factory o document (.record fields)) s = (.error fault, s'))
    (hard : isHard fault = true) :
    Act.on ((standard factory).dispatch (some document) (.record fields)) s =
      (.error fault, s') := by
  have given := Value.orElse_record fields
  rw [on_dispatch_isFor factory hd given, given, h]
  exact if_pos hard

namespace Answer

/-- Lack of identifiers is not reported as the outcome of a request. -/
theorem orErrors_exhausted {act : Act Shop Value} {s s' : Shop}
    (h : Act.on act s = (.error .exhausted, s')) :
    Act.on (orErrors act) s = (.error .exhausted, s') := by
  rw [orErrors, Act.on_tryCatch, Act.on_map, h]
  rfl

/-- A group that cannot be read for lack of identifiers is not answered. -/
theorem groupGet_exhausted {vars id raw : Value} {s s' : Shop}
    (hid : vars.member "sellingPlanGroupId" = .ok id) (hraw : Gid.decodeValue id = .ok raw)
    (h : Act.on (Shop.group raw) s = (.error .exhausted, s')) :
    Act.on (groupGet vars) s = (.error .exhausted, s') := by
  rw [groupGet, hid, Act.on_bind_of_ok (Act.on_lift _ s), hraw, Act.on_bind_of_ok (Act.on_lift _ s),
    Act.on_bind_of_error (orErrors_exhausted h)]

end Answer

namespace Service

/-- The service asks the router of a shop, which has the shop's own handlers only. -/
structure InProcess (hasFactory : Bool) (v : Service) : Prop where
  route : v.client.network.route = .inProcess
  router : v.client.network.router = .standard (factoryOf hasFactory)

/-- The service is left with a shop and with errors. -/
structure Left (v v' : Service) (shop : Shop) (errors : List Value) : Prop where
  moved : v.client.Moved v'.client shop
  errors : v'.errors = errors

variable {hasFactory : Bool} {v v' : Service} {shop : Shop}

/-- A service that is left with a shop still asks its router. -/
theorem Left.inProcess {errors : List Value} (h : v.Left v' shop errors)
    (hv : v.InProcess hasFactory) : v'.InProcess hasFactory :=
  ⟨h.moved.route.trans hv.route, h.moved.router.trans hv.router⟩

section

variable (hv : v.InProcess hasFactory) {document : String} {fields : List (Key × Value)}

include hv

/-- A document that is answered without errors. -/
theorem on_askFor_answered {o : Operation} (hd : o.IsFor document) {field : String}
    {payload : Value}
    (he : field ≠ "errors") (hu : field ≠ "userErrors")
    (handled : Act.on (Router.ownHandler (factoryOf hasFactory) o document (.record fields))
      v.client.network.shop = (.ok (.ofFields [(field, payload)]), shop))
    (truthy : payload.truthy = true)
    (plain : ((payload.get? "userErrors").getD .null).truthy = false) :
    ∃ v', Act.on (askFor document (.record fields) field) v = (.ok payload, v') ∧
      v.Left v' shop [] := by
  have dispatched := Router.on_dispatch_answered hd handled rfl
  rw [← hv.router, ← Value.orElse_record] at dispatched
  obtain ⟨v', asked, moved, -⟩ := ask_inProcess (v := { v with errors := [] }) hv.route
    hd.ne_empty dispatched (Client.failureOf?_single he hu payload)
  exact ⟨v', askFor_answered asked truthy plain, moved.toMoved, moved.errors⟩

/-- Lack of identifiers is the one error that is collected. -/
theorem on_askFor_exhausted {o : Operation} (hd : o.IsFor document) (field : String)
    (handled : Act.on (Router.ownHandler (factoryOf hasFactory) o document (.record fields))
      v.client.network.shop = (.error .exhausted, shop)) :
    ∃ v', Act.on (askFor document (.record fields) field) v = (.ok .null, v') ∧
      v.Left v' shop [.text Fault.exhausted.message] := by
  have dispatched := Router.on_dispatch_failed hd handled rfl
  rw [← hv.router, ← Value.orElse_record] at dispatched
  obtain ⟨v₁, asked, moved, remembered⟩ := ask_inProcess_failed (v := { v with errors := [] })
    hv.route hd.ne_empty dispatched rfl
  refine ⟨{ v₁ with errors := v₁.errors ++ [v₁.client.lastError] }, ?_,
    moved.toMoved, by rw [moved.errors, remembered]; rfl⟩
  -- Null is not what was asked for, and what the client remembers is collected.
  unfold askFor
  rw [Act.on_bind_of_ok (Act.on_modify _ v), Act.on_bind_of_ok asked]
  rfl

end

/-- The identifier is sent in either form. -/
def Sends (id sent : String) : Prop := sent = id ∨ sent = Gid.encode id

/-- An identifier that is sent in either form is encoded. -/
theorem Sends.encodeValue {id sent : String} (h : Shop.NamesGroup id) (hsent : Sends id sent) :
    Gid.encodeValue (.text sent) = .ok (.text (Gid.encode id)) := by
  have known : ∀ t, Gid.encodeText t = .ok (Gid.encode id) →
      Gid.encodeValue (.text t) = .ok (.text (Gid.encode id)) := fun t ht => by
    rw [Gid.encodeValue, Gid.onText, ht]
    rfl
  obtain rfl | rfl := hsent
  · exact known _ h.sent
  · by_cases raw : Gid.isRaw id = true
    · -- What is encoded is not raw, and is sent as it is.
      have unraw := Gid.isRaw_encode raw
      refine known _ ?_
      rw [Gid.encodeText, if_neg (by simp [unraw]), Gid.encode_of_not_isRaw unraw]
    · have unraw : Gid.isRaw id = false := by simpa using raw
      simpa [Gid.encode_of_not_isRaw unraw] using known id h.sent

section

variable {id sent : String} (named : NamesGroup id) (hsent : Sends id sent)

include named hsent

/-- To read a group is to ask for one member of the answer. -/
theorem on_group_eq : Act.on (Service.group (.text sent)) v =
    Act.on (askFor (Operation.groupGet.document "") (.record (groupVars id))
      "sellingPlanGroup") v := by
  rw [Service.group, hsent.encodeValue named, Act.on_bind_of_ok (Act.on_lift _ v)]
  rfl

/-- What the shop answers is what the service reads. -/
theorem on_group_answered (hv : v.InProcess hasFactory) {shown : Value} {s' : Shop}
    (found : Act.on (Shop.group (.text id)) v.client.network.shop = (.ok shown, s'))
    (truthy : shown.truthy = true)
    (plain : ((shown.get? "userErrors").getD .null).truthy = false) : ∃ v',
    Act.on (Service.group (.text sent)) v = (.ok shown, v') ∧ v.Left v' s' [] := by
  have handled : Act.on (Router.ownHandler (factoryOf hasFactory) .groupGet
      (Operation.groupGet.document "") (.record (groupVars id))) v.client.network.shop =
      (.ok (.ofFields [("sellingPlanGroup", shown)]), s') :=
    Answer.groupGet_answered rfl named.decodeValue_encode found
  rw [on_group_eq named hsent]
  exact on_askFor_answered hv (Operation.groupGet.isFor_document "") (by decide) (by decide) handled
    truthy plain

end

section

variable {id sent : String} (readable : v.client.network.shop.Readable id) (hsent : Sends id sent)
  (hv : v.InProcess hasFactory)

include readable hsent hv

/-- What the shop finds is what the service reads. -/
theorem on_group_found {s' : Shop} (hs' : s'.Readable id)
    (found : Act.on (joined (.text id)) v.client.network.shop = (.ok (s'.shownGroup id), s')) :
    ∃ v', Act.on (Service.group (.text sent)) v = (.ok (s'.shownGroup id), v') ∧
      v.Left v' s' [] := by
  rw [← readable.on_group] at found
  obtain ⟨truthy, plain⟩ := hs'.shownGroup_shape
  exact on_group_answered readable.named hsent hv found truthy (by rw [plain]; rfl)

/-- A group is read, or there are no identifiers left to make up what it is linked to. -/
theorem on_group : ∃ v' s', Shop.Restocked v.client.network.shop s' ∧
    (¬ v.client.network.shop.Endless ∧ Act.on (Service.group (.text sent)) v = (.ok .null, v') ∧
        v.Left v' s' [.text Fault.exhausted.message] ∨
      s'.Stocks id ∧ Act.on (Service.group (.text sent)) v = (.ok (s'.shownGroup id), v') ∧
        v.Left v' s' []) := by
  obtain ⟨s', restocked, ⟨finite, exhausted⟩ | ⟨stocked, found⟩⟩ := readable.joined_cases
  · -- The router fails, so the handler's fault is what the client remembers.
    rw [← readable.on_group] at exhausted
    have handled : Act.on (Router.ownHandler (factoryOf hasFactory) .groupGet
        (Operation.groupGet.document "") (.record (groupVars id))) v.client.network.shop =
        (.error .exhausted, s') :=
      Answer.groupGet_exhausted rfl readable.named.decodeValue_encode exhausted
    obtain ⟨v', asked, left⟩ := on_askFor_exhausted hv (Operation.groupGet.isFor_document "")
      "sellingPlanGroup" handled
    exact ⟨v', s', restocked,
      .inl ⟨finite, by rw [on_group_eq readable.named hsent]; exact asked, left⟩⟩
  · obtain ⟨v', asked, left⟩ := on_group_found readable hsent hv
      (readable.restocked restocked) found
    exact ⟨v', s', restocked, .inr ⟨stocked, asked, left⟩⟩

/-- A group is read without any change once all that it is linked to is known. -/
theorem on_group_again (stocked : v.client.network.shop.Stocks id) :
    ∃ v', Act.on (Service.group (.text sent)) v = (.ok (v.client.network.shop.shownGroup id), v') ∧
      v.Left v' v.client.network.shop [] :=
  on_group_found readable hsent hv readable (readable.joined_again stocked)

end

end Service
end Storefront
