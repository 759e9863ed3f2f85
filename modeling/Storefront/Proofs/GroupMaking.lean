import Storefront.Proofs.CartCalls
import Storefront.Proofs.GroupReads
import Storefront.Proofs.Interrupted

/-! # Making a group with a plan, and extending it

A group that is made under an identifier that is not in use has the one plan that it is made with,
and is linked to nothing else.  Whatever it is attached to after that is shown with it in the order
in which it was first named.  Nothing else that is kept about groups changes.  All of this fails
only for lack of identifiers.

* `Unused`, `NextUnused` : an identifier under which nothing is kept about groups
* `Made` : a group with its plan, and what it is linked to
* `createGroup_made`, `relate_made` : making a group, and attaching products or variants to it -/

namespace Storefront

open Text (Sendable)

namespace Shop

open Act (Within)

variable {s s' : Shop}

/-! ### New identifiers -/

/-- The tokens that are still to be handed out can be sent. -/
def Spells (s : Shop) : Prop := ∀ t ∈ s.supply.tokens, Sendable t.toList

/-- Nothing is kept about a group under the identifier: neither a group nor links. -/
structure Unused (s : Shop) (id : String) : Prop where
  group : s.entity? Gid.groupPrefix (.text id) = none
  links : ∀ relation, s.members id relation = []

/-- The identifier that is handed out next for a group is not in use. -/
def NextUnused (s : Shop) : Prop :=
  ∀ id s', Act.on (freshId Gid.groupPrefix) s = (.ok id, s') → s.Unused id

/-- A draw changes nothing that groups are made of. -/
theorem Draws.restocked (h : Draws s s') (lasts : s.Endless → s'.Endless) : Restocked s s' :=
  restocked_of h.keepsGroups h.grows.sideSteps (fun owned kind id e he =>
    owned kind id e (by rwa [h.entity?_eq] at he)) lasts

/-- A token is handed out that can be sent, or none is left. -/
theorem freshToken_cases {kind : String} (hkind : Sendable kind.toList) (hs : s.Spells) (n : Nat) :
    (∃ s', Act.on (freshToken kind n) s = (.error .exhausted, s')) ∨
      ∃ s' t, Act.on (freshToken kind n) s = (.ok t, s') ∧ Draws s s' ∧ s'.Spells ∧
        Sendable t.toList := by
  induction n generalizing s with
  | zero => exact .inl ⟨s, rfl⟩
  | succ n ih =>
    obtain ⟨token, supply, drawn, sendable, spells⟩ : ∃ token supply,
        Act.on (supplied (Supply.token kind)) s = (.ok token, { s with supply }) ∧
        Sendable token.toList ∧ ({ s with supply } : Shop).Spells := by
      refine ⟨_, _, rfl, ?_⟩
      unfold Spells at hs ⊢
      split
      · rename_i t rest tokens
        rw [tokens] at hs
        exact List.forall_mem_cons.1 hs
      · -- A token that is made up is the kind with a number.
        exact ⟨(hkind.append_text (by decide)).append_text (Decimal.sendable_whole _), hs⟩
    have step : Draws s { s with supply } := .single (.supply s supply)
    rw [freshToken, Act.on_bind_of_ok drawn, Act.on_bind_of_ok (Act.on_get _)]
    -- A token that was handed out before is thrown away, and the next one is tried.
    split
    · obtain exhausted | ⟨s', t, found, later, rest⟩ := ih spells
      · exact .inl exhausted
      · exact .inr ⟨s', t, found, step.trans later, rest⟩
    · rename_i new
      exact .inr ⟨_, token, rfl, step.tail (.token _ new), spells, sendable⟩

/-- A new identifier can be sent, or none is left. -/
theorem freshId_cases (kind : String) (hkind : (Gid.kindPrefix kind).toList.getLast? = some '/')
    (hsend : Sendable (Gid.kindPrefix kind).toList) (hs : s.Spells) :
    (¬ s.Endless ∧ ∃ s', Act.on (freshId (Gid.kindPrefix kind)) s = (.error .exhausted, s')) ∨
      ∃ s' t, Act.on (freshId (Gid.kindPrefix kind)) s = (.ok (Gid.kindPrefix kind ++ t), s') ∧
        Restocked s s' ∧ s'.Spells ∧ Sendable (Gid.kindPrefix kind ++ t).toList := by
  -- The kind of a token is a part of the prefix of its identifiers.
  have token : Sendable (tokenKind (Gid.kindPrefix kind)).toList :=
    Text.sendable_ofList <| hsend.of_subset fun c hc =>
      List.mem_reverse.1 <| (List.dropWhile_sublist _).subset <|
        (List.takeWhile_sublist _).subset <| List.mem_reverse.1 hc
  have ne_empty : Gid.kindPrefix kind ≠ "" := fun empty => by rw [empty] at hkind; cases hkind
  have exhausts := freshId_exhausts ne_empty
  have drawing : freshId (Gid.kindPrefix kind) = (do
      return Gid.kindPrefix kind ++
        (← freshToken (tokenKind (Gid.kindPrefix kind)) (maxCollisions + 1))) := by
    rw [freshId, if_neg ne_empty, if_pos hkind]
  obtain ⟨s', exhausted⟩ | ⟨s', t, found, drawn, spells, sendable⟩ :=
    freshToken_cases token hs (maxCollisions + 1)
  · have failed : Act.on (freshId (Gid.kindPrefix kind)) s = (.error .exhausted, s') := by
      rw [drawing, Act.on_bind_of_error exhausted]
    exact .inl ⟨(exhausts.fails failed).1, s', failed⟩
  · have made : Act.on (freshId (Gid.kindPrefix kind)) s =
      (.ok (Gid.kindPrefix kind ++ t), s') := by
      rw [drawing, Act.on_bind_of_ok found]
      rfl
    exact .inr ⟨s', t, made, drawn.restocked (exhausts.lasts.of_on made), spells,
      hsend.append_text sendable⟩

/-- A new identifier can be encoded. -/
theorem encodeText_new {kind t : String} (h : Sendable (Gid.kindPrefix kind ++ t).toList) :
    Gid.encodeText (Gid.kindPrefix kind ++ t) = .ok (Gid.encode (Gid.kindPrefix kind ++ t)) :=
  Gid.encodeText_of_encodable fun _ => h

/-- A new identifier of a group names it. -/
theorem namesGroup_new {t : String} (h : Sendable (Gid.groupPrefix ++ t).toList) :
    NamesGroup (Gid.groupPrefix ++ t) where
  decoded := Gid.decode_of_isRaw (Gid.isRaw_kindPrefix_append _ t)
  ne_empty := Gid.ne_empty_of_isRaw (Gid.isRaw_kindPrefix_append _ t)
  sent := encodeText_new h

/-! ### What stays -/

/-- What is kept about groups stays, but for one group with its links and one plan; what is known of
the catalogue stays known, and an endless shop stays so. -/
structure KeepsOthers (id plan : String) (s s' : Shop) : Prop where
  groups : ∀ k, (k == Key.text id) = false →
    s'.entity? Gid.groupPrefix k = s.entity? Gid.groupPrefix k
  links : ∀ owner, owner ≠ id → ∀ relation, s'.members owner relation = s.members owner relation
  plans : ∀ k, (k == Key.text plan) = false →
    s'.entity? Gid.planPrefix k = s.entity? Gid.planPrefix k
  remembers : Remembers s s'
  lasts : s.Endless → s'.Endless

/-- A group is not kept where links are. -/
theorem group_ne_mark (owner : String) : Gid.groupPrefix ≠ connectionMark ++ owner :=
  (mark_append_ne owner "SellingPlanGroup").symm

/-- Links are found as before if an entity of another kind is kept. -/
theorem members_withEntity_of_ne (s : Shop) {kind owner : String}
    (h : connectionMark ++ owner ≠ kind) (id : Key) (e : Entity) (relation : Key) :
    (s.withEntity kind id e).members owner relation = s.members owner relation := by
  rw [members, entity?_withEntity_of_ne s (.inl h), members]

namespace KeepsOthers

variable {id plan : String} {s₁ : Shop}

/-- What stays over two steps stays over both. -/
theorem trans (h : KeepsOthers id plan s s₁) (h' : KeepsOthers id plan s₁ s') :
    KeepsOthers id plan s s' where
  groups k hk := (h'.groups k hk).trans (h.groups k hk)
  links o ho r := (h'.links o ho r).trans (h.links o ho r)
  plans k hk := (h'.plans k hk).trans (h.plans k hk)
  remembers := h.remembers.trans h'.remembers
  lasts := h'.lasts ∘ h.lasts

/-- To make up what is missing leaves all this. -/
theorem of_restocked (h : Restocked s s') : KeepsOthers id plan s s' where
  groups k _ := h.groups.entity?_eq (.inl rfl) k
  links o _ r := h.groups.members_eq o r
  plans k _ := h.groups.entity?_eq (.inr (.inl rfl)) k
  remembers := h.remembers
  lasts := h.lasts

/-- To keep the group leaves all else. -/
theorem withGroup (s : Shop) (e : Entity) :
    KeepsOthers id plan s (s.withEntity Gid.groupPrefix (.text id) e) where
  groups k hk := entity?_withEntity_of_ne s (.inr hk) e
  links o _ r := members_withEntity_of_ne s (group_ne_mark o).symm _ e r
  plans k _ := entity?_withEntity_of_ne s (.inl (by decide)) e
  remembers := (Spares.withEntity s (by decide) (by decide) (by decide) _ e).remembers
  lasts endless := endless.of_same ⟨rfl, rfl, rfl⟩

/-- To keep the plan leaves all else. -/
theorem withPlan (s : Shop) (e : Entity) :
    KeepsOthers id plan s (s.withEntity Gid.planPrefix (.text plan) e) where
  groups k _ := entity?_withEntity_of_ne s (.inl (by decide)) e
  links o _ r := members_withEntity_of_ne s (plan_ne_mark o).symm _ e r
  plans k hk := entity?_withEntity_of_ne s (.inr hk) e
  remembers := (Spares.withEntity s (by decide) (by decide) (by decide) _ e).remembers
  lasts endless := endless.of_same ⟨rfl, rfl, rfl⟩

/-- To link the group leaves all else. -/
theorem withLinks (s : Shop) (relation : Key) (ms : List (Key × Value)) :
    KeepsOthers id plan s (s.withMembers id relation ms) where
  groups _ _ := entity?_withEntity_of_ne s (.inl (group_ne_mark id)) _
  links _ ho _ := members_withMembers_of_ne s (.inl ho) ms
  plans _ _ := entity?_withEntity_of_ne s (.inl (plan_ne_mark id)) _
  remembers := (Spares.withEntity s (mark_append_ne id "Cart").symm
    (mark_append_ne id "ProductVariant").symm (mark_append_ne id "Product").symm relation
      _).remembers
  lasts endless := endless.of_same ⟨rfl, rfl, rfl⟩

/-- Another group shows what it showed before if all that it is linked to is known, and if it is not
linked to a plan of the same identifier. -/
theorem shownGroup_eq (h : KeepsOthers id plan s s') {other : String} (readable : s.Readable other)
    (hs : s.Stocks other) (hother : other ≠ id) (unlinked : .text plan ∉ s.linkedPlans other) :
    s'.shownGroup other = s.shownGroup other := by
  -- The other group is kept as before; it is shown by its links, which have not changed.
  obtain ⟨g, rfl, found⟩ := readable.exists_group
  have same := (h.groups _ (by simpa using hother)).trans found
  rw [Shop.shownGroup_eq same, Shop.shownGroup_eq found]
  -- Its plans are kept as before too, as none has the identifier of the new plan.
  refine groupView_congr hs h.remembers (h.links g.id hother) fun k hk => h.plans k ?_
  rw [Bool.eq_false_iff, ne_eq, BEq.comm, Key.text_beq_iff]
  rintro rfl
  exact unlinked hk

end KeepsOthers

/-- A shop that owns its entities goes on to own them with one of the right kind. -/
theorem Owned.withEntity (h : s.Owned) {kind : String} (id : Key) {e : Entity} (he : e.IsOf kind) :
    (s.withEntity kind id e).Owned := by
  intro kind' id' e' found
  rcases entity?_withEntity found with ⟨rfl, rfl⟩ | found
  · exact he
  · exact h _ _ _ found

/-! ### A group with a plan -/

/-- What a group is linked to that has a plan and nothing else. -/
def onlyPlan (plan : SellingPlan) (relation : Key) : List String :=
  if relation == planRelation then [plan.id] else []

/-- The links with others under one relation. -/
def relinked (links : Key → List String) (relation : Key) (ids : List String) (other : Key) :
    List String :=
  if other == relation then ids else links other

/-- A group is kept with one plan, and with links under each relation. -/
structure Made (s : Shop) (g : SellingPlanGroup) (plan : SellingPlan) (links : Key → List String) :
    Prop where
  named : NamesGroup g.id
  planNamed : Gid.decode plan.id = plan.id
  owned : s.Owned
  group : s.entity? Gid.groupPrefix (.text g.id) = some (.group g)
  planKept : s.entity? Gid.planPrefix (.text plan.id) = some (.plan plan)
  onePlan : links planRelation = [plan.id]
  keys : ∀ relation, Assoc.keys (s.members g.id relation) = (links relation).map .text

namespace Made

variable {g : SellingPlanGroup} {plan : SellingPlan} {links : Key → List String}
  (h : s.Made g plan links)

include h

/-- Its group can be read: all of its plans, which is one, are named. -/
theorem readable : s.Readable g.id where
  named := h.named
  owned := h.owned
  exists_group := ⟨g, rfl, h.group⟩
  plans k hk := by
    rw [linkedPlans, h.keys, h.onePlan, List.map_singleton, List.mem_singleton] at hk
    exact ⟨plan.id, hk, h.planNamed⟩

/-- To make up what is missing leaves the group as it was made. -/
theorem restocked (restocked : Restocked s s') : s'.Made g plan links where
  named := h.named
  planNamed := h.planNamed
  owned := restocked.owned h.owned
  group := (restocked.groups.entity?_eq (.inl rfl) _).trans h.group
  planKept := (restocked.groups.entity?_eq (.inr (.inl rfl)) _).trans h.planKept
  onePlan := h.onePlan
  keys relation := by rw [restocked.groups.members_eq, h.keys]

/-- The group shows the plan, the products and the variants. -/
theorem shownGroup_eq : s.shownGroup g.id = joinedTo g [plan.toValue]
    ((links productRelation).map fun id => shown (s.entity? Gid.productPrefix (.text id)))
    ((links variantRelation).map fun id => shown (s.entity? Gid.variantPrefix (.text id))) := by
  rw [Shop.shownGroup_eq h.group, groupView, shownUnder, shownUnder, shownUnder, h.keys, h.keys,
    h.keys, h.onePlan, List.map_singleton, List.map_singleton, h.planKept, List.map_map,
      List.map_map]
  rfl

end Made

/-- A group that has only a plan lacks nothing that it is linked to. -/
theorem Made.stocks {g : SellingPlanGroup} {plan : SellingPlan}
    (h : s.Made g plan (onlyPlan plan)) :
    s.Stocks g.id where
  products k hk := by rw [h.keys] at hk; cases hk
  variants k hk := by rw [h.keys] at hk; cases hk

/-- The record describes a group that is to be made with one plan. -/
structure Describes (input : Value) (name merchant : String) (plan : List (Key × Value)) :
    Prop where
  isRecord : ∃ fields, input = .record fields
  member_name : input.member "name" = .ok (.text name)
  name_ne : name ≠ ""
  member_merchantCode : input.member "merchantCode" = .ok (.text merchant)
  merchant_ne : merchant ≠ ""
  member_options : input.member "options" = .ok (.texts [Text.capitalise merchant])
  member_plans : input.member "sellingPlansToCreate" = .ok (.list [.record plan])
  member_dropped : input.member "sellingPlansToDelete" = .ok .null
  member_changed : input.member "sellingPlansToUpdate" = .ok .null

/-- The terms of the plan are those of a record. -/
def Follows (plan : SellingPlan) (fields : List (Key × Value)) : Prop :=
  SellingPlan.termsOf (.record fields) = .ok plan.terms

/-- Each of the terms is shown as the record has it. -/
theorem Follows.get?_term {plan : SellingPlan} {fields : List (Key × Value)}
    (h : Follows plan fields) {term : String} (hterm : term ∈ SellingPlan.termNames) :
    ∃ v, (Value.record fields).member term = .ok v ∧ plan.toValue.get? term = some v := by
  have terms : plan.terms = SellingPlan.termNames.map fun name =>
      (.text name, ((Value.record fields).get? name).getD .null) := (Except.ok.inj h).symm
  refine ⟨_, rfl, ?_⟩
  rw [SellingPlan.toValue, terms]
  -- There are eight names of terms, and each is found at its own place.
  simp only [SellingPlan.termNames, List.mem_cons, List.not_mem_nil, or_false] at hterm
  rcases hterm with rfl | rfl | rfl | rfl | rfl | rfl | rfl | rfl <;> rfl

/-- A plan is made, or no identifier is left for it. -/
theorem createPlan_made (hs : s.Spells) (fields : List (Key × Value)) :
    (¬ s.Endless ∧ ∃ s', Act.on (createPlan (.record fields) .null) s = (.error .exhausted, s')) ∨
      ∃ s₁ plan, Act.on (createPlan (.record fields) .null) s =
          (.ok plan, s₁.withEntity Gid.planPrefix (.text plan.id) (.plan plan)) ∧
        Restocked s s₁ ∧ Gid.decode plan.id = plan.id ∧ Follows plan fields := by
  have given : givenOrFreshId .null Gid.planPrefix = freshId (Gid.kindPrefix "SellingPlan") := rfl
  rw [createPlan, given]
  -- The identifier comes first, and drawing it is all that can fail.
  obtain ⟨finite, s', exhausted⟩ | ⟨s₁, t, found, restocked, -, sendable⟩ :=
    freshId_cases "SellingPlan" (by decide) (by decide) hs
  · exact .inl ⟨finite, s', Act.on_bind_of_error exhausted⟩
  · rw [Act.on_bind_of_ok found, encodeText_new sendable,
      Act.on_bind_of_ok (Act.on_discard_of_ok (Act.on_lift _ _)),
        Act.on_bind_of_ok (on_timestamp _)]
    exact .inr ⟨s₁, ⟨_, _, _, _⟩, rfl, restocked,
      Gid.decode_of_isRaw (Gid.isRaw_kindPrefix_append _ t), rfl⟩

/-- A plan is made for a group that is kept without links, or no identifier is left for it. -/
theorem addPlan_made {g : SellingPlanGroup} (howned : s.Owned) (hs : s.Spells)
    (named : NamesGroup g.id)
    (hgroup : s.entity? Gid.groupPrefix (.text g.id) = some (.group g))
    (unlinked : ∀ relation, s.members g.id relation = []) (fields : List (Key × Value)) :
    (¬ s.Endless ∧ ∃ s', Act.on (addPlan g.id (.record fields)) s = (.error .exhausted, s')) ∨
      ∃ s' plan, Act.on (addPlan g.id (.record fields)) s = (.ok (), s') ∧
        s'.Made g plan (onlyPlan plan) ∧
        KeepsOthers g.id plan.id s s' ∧ Follows plan fields := by
  rw [addPlan]
  obtain ⟨finite, s', exhausted⟩ | ⟨s₁, plan, created, restocked, planNamed, follows⟩ :=
    createPlan_made hs fields
  · exact .inl ⟨finite, s', Act.on_bind_of_error exhausted⟩
  have owned : (s₁.withEntity Gid.planPrefix (.text plan.id) (.plan plan)).Owned :=
    (restocked.owned howned).withEntity _ rfl
  have links : ∀ relation, (s₁.withEntity Gid.planPrefix (.text plan.id) (.plan plan)).members g.id
      relation = [] := fun relation => by
    rw [members_withEntity_of_ne _ (plan_ne_mark g.id).symm, restocked.groups.members_eq,
      unlinked]
  rw [Act.on_bind_of_ok created, Act.on_discard_of_ok (on_connect owned g.id _ planRelation),
    links planRelation]
  refine .inr ⟨_, plan, rfl, ?_, ((KeepsOthers.of_restocked restocked).trans
    (KeepsOthers.withPlan s₁ _)).trans (KeepsOthers.withLinks _ _ _), follows⟩
  exact {
    named, planNamed
    owned := owned.withEntity _ ⟨g.id, rfl⟩
    -- The plan is linked to the group, under one relation.
    group := by
      rw [withMembers, entity?_withEntity_of_ne _ (.inl (group_ne_mark g.id)),
        entity?_withEntity_of_ne _ (.inl (by decide)), restocked.groups.entity?_eq
          (.inl rfl), hgroup]
    planKept := by
      -- The group and its links were kept without the plan, which is neither.
      rw [withMembers, entity?_withEntity_of_ne _ (.inl (plan_ne_mark g.id)),
        entity?_withEntity_self]
    onePlan := rfl
    keys := fun relation => by
      unfold onlyPlan
      split
      · rename_i same
        rw [members, withMembers, entity?_congr _ _ same, entity?_withEntity_self]
        rfl
      · rename_i other
        rw [members_withMembers_of_ne _ (.inr (by simpa using other)), links]
        rfl }

/-- The group that a record describes. -/
theorem Describes.groupOf_eq {input : Value} {name merchant : String} {plan : List (Key × Value)}
    (h : Describes input name merchant plan) (now : String) : ∃ draft,
    groupOf input "" now = .ok draft ∧ draft.name = .text name ∧
      draft.merchantCode = .text merchant ∧ draft.options = .texts [Text.capitalise merchant] := by
  obtain ⟨fields, rfl⟩ := h.isRecord
  refine ⟨_, rfl, Except.ok.inj h.member_name, Except.ok.inj h.member_merchantCode, ?_⟩
  rw [Except.ok.inj h.member_options]
  rfl

/-- The one work that is described for a group is to add its plan. -/
theorem Describes.on_works {input : Value} {name merchant : String} {plan : List (Key × Value)}
    (h : Describes input name merchant plan) (id : String) (s : Shop) :
    Act.on (groupWorks input id) s = Act.on (do
      addPlan id (.record plan)
      joined (.text id)) s := by
  have one : severalOf (.list [.record plan]) = .ok [.record plan] := rfl
  have none : severalOf .null = .ok [] := rfl
  unfold groupWorks
  rw [h.member_plans, Act.on_bind_of_ok (Act.on_lift _ s), one, Act.on_bind_of_ok (Act.on_lift _ s),
    Act.on_bind, Act.on_bind (addPlan id (.record plan))]
  have single : Act.on ([Value.record plan].forM (addPlan id)) s =
      Act.on (addPlan id (.record plan)) s := by
    show Act.on (addPlan id (.record plan) >>= fun _ => pure ()) s = _
    rw [Act.on_bind]
    rcases Act.on (addPlan id (.record plan)) s with ⟨f | u, s'⟩ <;> rfl
  rw [single]
  rcases Act.on (addPlan id (.record plan)) s with ⟨f | u, s'⟩
  · -- Nothing else is to be dropped or changed.
    rfl
  · dsimp only
    rw [h.member_dropped, h.member_changed]
    rfl

/-- A group that is made under an identifier that is not in use has the plan that it is described
with, and is linked to nothing else. -/
theorem createGroup_made (howned : s.Owned) (hs : s.Spells) (hunused : s.NextUnused) {input : Value}
    {name merchant : String} {fields : List (Key × Value)}
    (hinput : Describes input name merchant fields) :
    (¬ s.Endless ∧ ∃ s', Act.on (createGroup input .null) s = (.error .exhausted, s')) ∨
      ∃ s' g plan, Act.on (createGroup input .null) s = (.ok (s'.shownGroup g.id), s') ∧
        s'.Made g plan (onlyPlan plan) ∧ KeepsOthers g.id plan.id s s' ∧ s.Unused g.id ∧
        (∃ t, g.id = Gid.groupPrefix ++ t) ∧ g.name = .text name ∧ g.merchantCode = .text merchant ∧
        g.options = .texts [Text.capitalise merchant] ∧ Follows plan fields := by
  obtain ⟨draft, hdraft, hname, hmerchant, hoptions⟩ := hinput.groupOf_eq s.supply.timestamp
  have given : givenOrFreshId .null Gid.groupPrefix =
      freshId (Gid.kindPrefix "SellingPlanGroup") := rfl
  -- Both required texts are given, so the request is not turned down.
  have complete : Act.on (openGroup input .null) s = _ := on_openGroup_complete hdraft
    (by simp [hname, hinput.name_ne]) (by simp [hmerchant, hinput.merchant_ne])
  rw [given] at complete
  rw [createGroup_eq]
  -- The identifier of the group comes first, then its plan.
  obtain ⟨finite, s', exhausted⟩ | ⟨s₁, t, found, restocked, spells, sendable⟩ :=
    freshId_cases "SellingPlanGroup" (by decide) (by decide) hs
  · exact .inl ⟨finite, s',
      Act.on_bind_of_error (complete.trans (Act.on_bind_of_error exhausted))⟩
  have unused := hunused _ s₁ found
  have named : NamesGroup (Gid.kindPrefix "SellingPlanGroup" ++ t) := namesGroup_new sendable
  have spelt : ∃ t', Gid.kindPrefix "SellingPlanGroup" ++ t = Gid.groupPrefix ++ t' := ⟨t, rfl⟩
  generalize Gid.kindPrefix "SellingPlanGroup" ++ t = id at found unused named spelt
  obtain ⟨g, hg, rfl⟩ : ∃ g : SellingPlanGroup, { draft with id } = g ∧ g.id = id := ⟨_, rfl, rfl⟩
  rw [Act.on_bind_of_ok found, named.sent,
    Act.on_bind_of_ok (Act.on_discard_of_ok (Act.on_lift _ _)), Act.on_bind_of_ok (on_keep _ _ _ _),
    hg] at complete
  rw [Act.on_bind_of_ok complete, hinput.on_works]
  have owned : (s₁.withEntity Gid.groupPrefix (.text g.id) (.group g)).Owned :=
    (restocked.owned howned).withEntity _ rfl
  -- No links are kept under the new identifier, since it was not in use.
  have unlinked : ∀ relation, (s₁.withEntity Gid.groupPrefix (.text g.id) (.group g)).members g.id
      relation = [] := fun relation => by
    rw [members_withEntity_of_ne _ (group_ne_mark _).symm, restocked.groups.members_eq,
      unused.links]
  -- The plan may still run out of identifiers; that was so before the group was kept.
  obtain ⟨finite, s', exhausted⟩ | ⟨s', plan, added, made, others, follows⟩ :=
    addPlan_made owned spells named (entity?_withEntity_self ..) unlinked fields
  · exact .inl ⟨fun endless => finite ((restocked.lasts endless).of_same ⟨rfl, rfl, rfl⟩), s',
      Act.on_bind_of_error exhausted⟩
  · rw [Act.on_bind_of_ok added, made.readable.joined_again made.stocks]
    exact .inr ⟨s', g, plan, rfl, made, ((KeepsOthers.of_restocked restocked).trans
      (KeepsOthers.withGroup s₁ _)).trans others, unused, spelt,
      (congrArg SellingPlanGroup.name hg.symm).trans hname,
      (congrArg SellingPlanGroup.merchantCode hg.symm).trans hmerchant,
      (congrArg SellingPlanGroup.options hg.symm).trans hoptions, follows⟩

/-! ### Attaching -/

/-- The links with further identifiers, each linked once. -/
def linked (ms : List (Key × Value)) (ids : List String) : List (Key × Value) :=
  ids.foldl (fun ms id => Assoc.put ms (.text id) (.text id)) ms

/-- Identifiers are linked in the order in which they are first named. -/
theorem keys_linked {ms : List (Key × Value)} {known : List String}
    (h : Assoc.keys ms = known.map .text) (ids : List String) :
    Assoc.keys (linked ms ids) = (known ++ (ids.filter (· ∉ known)).eraseDups).map .text := by
  induction ids generalizing ms known with
  | nil => simpa [linked] using h
  | cons id ids ih =>
    have has : Assoc.has ms (.text id) = decide (id ∈ known) := by
      rw [Assoc.has_iff, h, List.any_map]
      simp [Function.comp_def, List.any_eq]
    -- The identifier was linked before and stays where it is.
    by_cases mem : id ∈ known
    · have kept := Assoc.keys_put_of_has (by rw [has]; simpa using mem) (Value.text id)
      rw [linked, List.foldl_cons, ← linked, ih (kept.trans h), List.filter_cons_of_neg (by simpa)]
    · -- The identifier is new, goes last, and is not counted when it is named again.
      have added : Assoc.keys (Assoc.put ms (.text id) (Value.text id)) =
          (known ++ [id]).map .text := by
        rw [Assoc.keys_put_of_not_has (by rw [has]; simpa using mem), h, List.map_append]
        rfl
      have rest : ids.filter (· ∉ known ++ [id]) =
          (ids.filter (· ∉ known)).filter (!· == id) := by
        rw [List.filter_filter]
        exact List.filter_congr fun other _ => by simp [and_comm, beq_eq_decide]
      rw [linked, List.foldl_cons, ← linked, ih added, rest,
        List.filter_cons_of_pos (by simpa using mem), List.eraseDups_cons, List.append_assoc]
      rfl

/-- Only the links of one owner under one relation change. -/
structure Attached (owner : String) (relation : Key) (s s' : Shop) : Prop where
  owned : s.Owned → s'.Owned
  lasts : s.Endless → s'.Endless
  entities : ∀ kind, kind ≠ connectionMark ++ owner → ∀ k, s'.entity? kind k = s.entity? kind k
  links : ∀ other, (other == relation) = false → s'.members owner other = s.members owner other

namespace Attached

variable {owner : String} {relation : Key} {s₁ : Shop}

/-- To do nothing attaches nothing. -/
theorem refl (s : Shop) : Attached owner relation s s := ⟨id, id, fun _ _ _ => rfl, fun _ _ => rfl⟩

/-- What is attached in two steps is attached in both. -/
theorem trans (h : Attached owner relation s s₁) (h' : Attached owner relation s₁ s') :
    Attached owner relation s s' where
  owned := h'.owned ∘ h.owned
  lasts := h'.lasts ∘ h.lasts
  entities kind hk k := (h'.entities kind hk k).trans (h.entities kind hk k)
  links o ho := (h'.links o ho).trans (h.links o ho)

/-- To change the links under one relation is all that attaching does. -/
theorem withMembers (s : Shop) (owner : String) (relation : Key) (ms : List (Key × Value)) :
    Attached owner relation s (s.withMembers owner relation ms) where
  owned h := h.withEntity _ ⟨owner, rfl⟩
  lasts endless := endless.of_same ⟨rfl, rfl, rfl⟩
  entities _ hk _ := entity?_withEntity_of_ne s (.inl hk) _
  links _ ho := members_withMembers_of_ne s (.inr ho) ms

/-- Attaching leaves all that is not the group's. -/
theorem keepsOthers (h : Attached owner relation s s') (plan : String) :
    KeepsOthers owner plan s s' where
  groups k _ := h.entities _ (group_ne_mark owner) k
  links o ho r := by
    rw [members, h.entities _ (fun same => ho ((String.append_right_inj _).1 same)), members]
  plans k _ := h.entities _ (plan_ne_mark owner) k
  remembers :=
    ⟨fun k _ he => (h.entities _ (mark_append_ne owner "ProductVariant").symm k).trans he,
      fun k _ he => (h.entities _ (mark_append_ne owner "Product").symm k).trans he⟩
  lasts := h.lasts

end Attached

/-- An identifier is attached in its raw form. -/
theorem on_attach (owner : String) (relation : Key) (id : String) (howned : s.Owned) :
    Act.on (attach owner relation (.text id)) s = (.ok (),
      s.withMembers owner relation (Assoc.put (s.members owner relation) (.text (Gid.decode id))
        (.text (Gid.decode id)))) := by
  have key : (Value.text (Gid.decode id)).asKey = .ok (.text (Gid.decode id)) := rfl
  rw [attach, Gid.decodeValue_text, Act.on_bind_of_ok (Act.on_lift _ s), key,
    Act.on_bind_of_ok (Act.on_lift _ s), Act.on_discard_of_ok (on_connect howned owner _ relation)]
  rfl

/-- Identifiers are attached one after the other. -/
theorem on_attach_all (owner : String) (relation : Key) (ids : List String)
    (howned : s.Owned) : ∃ s',
    Act.on ((ids.map Value.text).forM (attach owner relation)) s = (.ok (), s') ∧
      Attached owner relation s s' ∧
      s'.members owner relation = linked (s.members owner relation) (ids.map Gid.decode) := by
  induction ids generalizing s with
  | nil => exact ⟨s, rfl, .refl s, rfl⟩
  -- Identifiers are linked in the order of the list.
  | cons id ids ih =>
    have step := Attached.withMembers s owner relation
      (Assoc.put (s.members owner relation) (.text (Gid.decode id)) (.text (Gid.decode id)))
    obtain ⟨s', rest, attached, members⟩ := ih (step.owned howned)
    refine ⟨s', ?_, step.trans attached, ?_⟩
    · rw [List.map_cons]
      exact (Act.on_bind_of_ok (on_attach owner relation id howned)).trans rest
    · rw [members, members_withMembers_self]
      rfl

/-- To attach what is linked changes nothing. -/
theorem on_attach_again {owner : String} {relation : Key} {ids : List String} (howned : s.Owned)
    (known : ∀ id ∈ ids, Assoc.get? (s.members owner relation) (.text (Gid.decode id)) =
      some (.text (Gid.decode id))) :
    Act.on ((ids.map Value.text).forM (attach owner relation)) s = (.ok (), s) := by
  induction ids with
  | nil => rfl
  | cons id ids ih =>
    obtain ⟨hid, known⟩ := List.forall_mem_cons.1 known
    -- The links are kept as they would be put.
    have kept : s.store.get? (.text (connectionMark ++ owner)) relation =
        some (.links (s.members owner relation)) := by
      unfold members at hid ⊢
      split at hid
      · assumption
      · cases hid
    have same : s.withMembers owner relation (s.members owner relation) = s := by
      rw [withMembers, withEntity, Store.set_of_get? kept]
    have first := on_attach owner relation id howned
    rw [Assoc.put_of_get? hid, same] at first
    rw [List.map_cons]
    exact (Act.on_bind_of_ok first).trans (ih known)

/-- What is named is attached, and the group is read. -/
theorem on_relate {id : String} (h : s.Joinable id) {named : Value}
    (hnamed : Gid.decodeValue named = .ok (.text id)) (relation : Key) (ids : List String) : ∃ s',
    Attached id relation s s' ∧
      s'.members id relation = linked (s.members id relation) (ids.map Gid.decode) ∧
      Act.on (relate relation named (.texts ids)) s = Act.on (joined (.text id)) s' := by
  obtain ⟨s', done, attached, members⟩ := on_attach_all id relation ids h.owned
  refine ⟨s', attached, members, ?_⟩
  rw [relate, Act.on_bind_of_ok (on_groupId hnamed h.named.ne_empty h.hasGroup), Key.toValue,
    Value.asText, Act.on_bind_of_ok (Act.on_lift _ s), Value.texts, Value.elementsOrNone_list,
    Act.on_bind_of_ok (Act.on_lift _ s)]
  exact Act.on_bind_of_ok done

/-- Products or variants are attached to a group that has none, or no identifier is left for what it
is linked to. -/
theorem relate_made {g : SellingPlanGroup} {plan : SellingPlan} {links : Key → List String}
    (h : s.Made g plan links) {relation : Key} (hr : (planRelation == relation) = false)
    (none : links relation = []) {ids : List String} (raw : ∀ id ∈ ids, Gid.decode id = id) :
    (¬ s.Endless ∧ ∃ s', Act.on (relate relation (.text g.id) (.list (ids.map .text))) s =
        (.error .exhausted, s')) ∨
      ∃ s', Act.on (relate relation (.text g.id) (.list (ids.map .text))) s =
          (.ok (s'.shownGroup g.id), s') ∧ s'.Made g plan (relinked links relation ids.eraseDups) ∧
        s'.Stocks g.id ∧ KeepsOthers g.id plan.id s s' := by
  -- All identifiers are linked first, and then the group is read, which may make up what they name.
  obtain ⟨s₁, attached, members, related⟩ :=
    on_relate h.readable.toJoinable h.readable.decodeValue_text relation ids
  rw [Value.texts] at related
  rw [List.map_congr_left raw, List.map_id'] at members
  have unlinked : Assoc.keys (s.members g.id relation) = ([] : List String).map .text := by
    rw [h.keys, none]
  -- The group has the plan that it had, and the new links beside it.
  have made : s₁.Made g plan (relinked links relation ids.eraseDups) := {
    h with
    owned := attached.owned h.owned
    group := (attached.entities _ (group_ne_mark g.id) _).trans h.group
    planKept := (attached.entities _ (plan_ne_mark g.id) _).trans h.planKept
    onePlan := (if_neg (by simp [hr])).trans h.onePlan
    keys := fun other => by
      unfold relinked
      split
      · rename_i same
        rw [Shop.members, entity?_congr _ _ same, ← Shop.members, members,
          keys_linked unlinked]
        simp
      · rename_i differs
        rw [attached.links _ (by simpa using differs), h.keys] }
  rw [related]
  obtain ⟨s', restocked, ⟨finite, exhausted⟩ | ⟨stocked, found⟩⟩ := made.readable.joined_cases
  · exact .inl ⟨finite ∘ attached.lasts, s', exhausted⟩
  · exact .inr ⟨s', found, made.restocked restocked, stocked,
      (attached.keepsOthers _).trans (.of_restocked restocked)⟩

end Shop
end Storefront
