import Mathlib.Data.List.Induction
import Storefront.Proofs.Joins
import Storefront.Proofs.LinkFrame
import Storefront.Proofs.Paging

/-! # What is attached to a group

A group shows the products and variants that were attached to it, each once, in the order in which
they were first attached, and it counts them.  They were attached since the shop was reset: deleting
the group takes none away, and making it again brings all of them back.

* `Attachments` : what was attached to a group, while anything else was asked
* `JoinedAs` : a group that is answered with what is attached to it
* `joins_agree` : groups after a history, and what attaching does -/

namespace Storefront

open Act (Within)

namespace Shop

variable {s s' : Shop} {owner : String}

/-! ### Links in order -/

/-- The links to identifiers, each kept under itself. -/
def selfLinked (ids : List String) : List (Key × Value) := ids.map fun id => (.text id, .text id)

/-- The links lead to the identifiers themselves. -/
theorem keys_selfLinked (ids : List String) : Assoc.keys (selfLinked ids) = ids.map .text := by
  rw [Assoc.keys, selfLinked, List.map_map]
  rfl

/-- An identifier that is linked is found under itself. -/
theorem get?_selfLinked {ids : List String} {id : String} (h : id ∈ ids) :
    Assoc.get? (selfLinked ids) (.text id) = some (.text id) := by
  induction ids with
  | nil => cases h
  | cons first ids ih =>
    rw [selfLinked, List.map_cons, Assoc.get?_cons]
    by_cases same : first = id
    · simp [same]
    · have later := ih ((List.mem_cons.1 h).resolve_left (Ne.symm same))
      simpa [same, selfLinked] using later

/-- To link what is linked changes nothing; what is not is linked last. -/
theorem put_selfLinked (known : List String) (id : String) :
    Assoc.put (selfLinked known.eraseDups) (.text id) (.text id) =
      selfLinked (known ++ [id]).eraseDups := by
  by_cases mem : id ∈ known
  · -- The identifier was linked, so putting it again changes nothing.
    rw [Assoc.put_of_get? (get?_selfLinked (List.mem_eraseDups.2 mem)), List.eraseDups_append]
    simp [List.removeAll, mem]
  · -- It was not, so it is put last.
    have absent : Assoc.has (selfLinked known.eraseDups) (.text id) = false := by
      rw [Assoc.has_iff, keys_selfLinked]
      simpa [List.any_map] using fun other hother (same : other = id) => mem (same ▸ hother)
    rw [Assoc.put_of_not_has absent, List.eraseDups_append]
    simp [List.removeAll, mem, selfLinked, List.eraseDups_cons]

/-- Identifiers are linked in the order in which they are first named. -/
theorem linked_selfLinked (known ids : List String) :
    linked (selfLinked known.eraseDups) ids = selfLinked (known ++ ids).eraseDups := by
  induction ids generalizing known with
  | nil => rw [List.append_nil]; rfl
  | cons id ids ih =>
    rw [linked, List.foldl_cons, ← linked, put_selfLinked, ih, List.append_assoc]
    rfl

/-- It does not matter whether identifiers are dropped before or after repetitions are. -/
theorem eraseDups_filter (p : String → Bool) (ids : List String) :
    (ids.filter p).eraseDups = ids.eraseDups.filter p := by
  induction ids using List.reverseRecOn with
  | nil => rfl
  | append_singleton ids id ih =>
    rw [List.filter_append, List.eraseDups_append, List.eraseDups_append, List.filter_append, ih]
    -- The last identifier may be known, and it may be dropped.
    by_cases mem : id ∈ ids <;> by_cases hp : p id = true <;>
      simp [List.removeAll, mem, hp, List.eraseDups_cons]

/-- An identifier that is unlinked is dropped. -/
theorem erase_selfLinked (known : List String) (k : Key) :
    Assoc.erase (selfLinked known.eraseDups) k =
      selfLinked (known.filter fun id => !(Key.text id == k)).eraseDups := by
  rw [eraseDups_filter, selfLinked, selfLinked, Assoc.erase, List.filter_map]
  rfl

/-! ### Attaching -/

namespace LinkedTo

variable {links : Key → List String} {w : Ware}
  (h : s.LinkedTo owner fun r => selfLinked (links r).eraseDups)

include h

/-- What an owner is linked to under one relation changes. -/
theorem attached (change : Attached owner w.relation s s') {ids : List String}
    (members : s'.members owner w.relation = selfLinked ids.eraseDups) :
    s'.LinkedTo owner fun r => selfLinked (relinked links w.relation ids r).eraseDups where
  kept := ⟨change.owned h.kept.owned, False.elim⟩
  wares w' := by
    -- Links of this relation are the new ones, and those of any other are as they were.
    unfold relinked
    split
    · rename_i same
      rw [Shop.members, entity?_congr _ _ same, ← Shop.members, members]
    · rename_i other
      rw [change.links _ (by simpa using other), h.wares]
  group e he := h.group e (change.entities _ (group_ne_mark owner) _ ▸ he)
  plans k hk := by
    rw [linkedPlans, change.links _ w.relation_ne] at hk
    exact h.plans k hk

/-- A link to one more identifier goes last. -/
theorem connect (id : String) : (Act.on (connect owner (.text id) w.relation) s).2.LinkedTo owner
    fun r => selfLinked (relinked links w.relation (links w.relation ++ [id]) r).eraseDups := by
  rw [on_connect h.kept.owned]
  refine h.attached (.withMembers s owner _ _) ?_
  rw [members_withMembers_self, h.wares]
  exact put_selfLinked (links w.relation) id

/-- A link is dropped, and no other. -/
theorem disconnect (k : Key) : (Act.on (disconnect owner k w.relation) s).2.LinkedTo owner fun r =>
    selfLinked (relinked links w.relation
      ((links w.relation).filter fun id => !(Key.text id == k)) r).eraseDups := by
  rw [on_disconnect h.kept.owned]
  refine h.attached (.withMembers s owner _ _) ?_
  rw [members_withMembers_self, h.wares, erase_selfLinked]

section

variable (has : s.HasGroup owner) {named : Value}
  (hnamed : Gid.decodeValue named = .ok (.text owner))

include has hnamed

/-- What is named is attached, and the group is joined after that. -/
theorem relate (w : Ware) (ids : List String) : ∃ s₁, (s.Endless → s₁.Endless) ∧ s₁.HasGroup owner ∧
    s₁.LinkedTo owner (fun r => selfLinked
      (relinked links w.relation (links w.relation ++ ids.map Gid.decode) r).eraseDups) ∧
    Act.on (relate w.relation named (.texts ids)) s = Act.on (joined (.text owner)) s₁ := by
  obtain ⟨s₁, change, members, related⟩ := on_relate (h.joinable has) hnamed w.relation ids
  rw [h.wares, linked_selfLinked] at members
  -- Each identifier is linked already, so attaching them changes nothing.
  refine ⟨s₁, change.lasts, ?_, h.attached change members, related⟩
  rwa [HasGroup, change.entities _ (group_ne_mark owner)]

/-- To attach what is attached already comes down to reading the group. -/
theorem relate_known {ids : List String} (known : ∀ id ∈ ids, Gid.decode id ∈ links w.relation) :
    Act.on (Shop.relate w.relation named (.texts ids)) s = Act.on (Shop.group named) s := by
  have joinable := h.joinable has
  have unchanged := on_attach_again h.kept.owned fun id hid => by
    rw [h.wares]
    exact get?_selfLinked (List.mem_eraseDups.2 (known id hid))
  rw [joinable.on_group_named hnamed, Shop.relate,
    Act.on_bind_of_ok (on_groupId hnamed joinable.named.ne_empty has), Key.toValue, Value.asText,
    Act.on_bind_of_ok (Act.on_lift _ s), Value.texts, Value.elementsOrNone_list,
    Act.on_bind_of_ok (Act.on_lift _ s)]
  exact Act.on_bind_of_ok unchanged

end

/-- A group that is joined shows what its owner is linked to. -/
theorem shownIn (stocks : s.Stocks owner) (hnamed : s.NamesCatalogue) {w : Ware}
    (ne_empty : ∀ id ∈ links w.relation, id ≠ "") (g : SellingPlanGroup) (plans : List Value) :
    w.ShownIn (joinedTo g plans (s.shownUnder Gid.productPrefix owner productRelation)
      (s.shownUnder Gid.variantPrefix owner variantRelation)) (links w.relation).eraseDups := by
  -- The keys of the entries shown are the identifiers in the order of the links.
  have keys : Assoc.keys (s.members owner w.relation) = (links w.relation).eraseDups.map .text := by
    rw [h.wares, keys_selfLinked]
  have ids := w.ids_shown h.kept.owned hnamed stocks
    (fun id hid => ne_empty id (List.mem_eraseDups.1 hid)) keys
  have items : s.shownUnder w.start owner w.relation =
      (links w.relation).eraseDups.map fun id => shown (s.entity? w.start (.text id)) := by
    rw [shownUnder, keys, List.map_map]
    rfl
  rw [← items] at ids
  exact ⟨s.shownUnder w.start owner w.relation, by cases w <;> rfl, ids, by cases w <;> rfl⟩

end LinkedTo

end Shop

open Shop

/-! ### Histories -/

/-- The request attaches identifiers to the group of an owner, itself or by a document. -/
inductive ShopRequest.Attaches (owner : String) (w : Ware) (ids : List String) : ShopRequest → Prop
  | call {named : Value} (hnamed : Gid.decodeValue named = .ok (.text owner)) :
      Attaches owner w ids (.side (.relate w.relation named (.texts ids)))
  | document {hasFactory : Bool} {document : Option String} {vars given : Value}
      {p : Document.Parsed}
      (asked : Operation.ofDocument? document = some w.operation)
      (parsed : Document.parse document (vars.orElse (.record [])) = .ok p)
      (member : (vars.orElse (.record [])).member "id" = .ok given)
      (hgiven : Gid.decodeValue given = .ok (.text owner))
      (listed : (vars.orElse (.record [])).member w.listName = .ok (.texts ids)) :
      Attaches owner w ids (.dispatch hasFactory document vars)

/-- A document attaches as the engine does. -/
theorem ShopRequest.run_attaches {owner : String} {w : Ware} {ids : List String} {r : ShopRequest}
    (hr : r.Attaches owner w ids) (s : Shop) : ∃ named, Gid.decodeValue named = .ok (.text owner) ∧
    Redrawn (Act.on (relate w.relation named (.texts ids)) s).2 (Act.on r.run s).2 := by
  cases hr with
  | @call named hnamed =>
    refine ⟨named, hnamed, ?_⟩
    rw [ShopRequest.run, SideRequest.run, Act.on_discard_snd]
    exact Std.Refl.refl _
  | @document hasFactory document vars given p asked parsed member hgiven listed =>
    -- The handler decodes the identifier that the document gives, and hands its list on.
    refine ⟨.text owner, Gid.decodeValue_decodeValue hgiven, ?_⟩
    obtain ⟨signature, hs, handler⟩ := Router.handler?_of_ofDocument? (factoryOf hasFactory) asked
    have dispatched := Router.on_dispatch_redrawn parsed hs handler s
    have given : (Value.texts ids).orElse (.list []) = .texts ids := by cases ids <;> rfl
    rw [w.ownHandler_eq, member, Act.on_bind_of_ok (Act.on_lift _ s), hgiven,
      Act.on_bind_of_ok (Act.on_lift _ s), listed, Act.on_bind_of_ok (Act.on_lift _ s), given,
      bind_pure_comp, Act.on_map] at dispatched
    rw [ShopRequest.run, Act.on_discard_snd]
    exact IsTrans.trans _ _ _ (Answer.orErrors_redrawn _ s) dispatched

namespace Shop

/-- What was attached to the group of an owner under each relation since the shop was new or reset,
while the owner had a group; the owner may also be linked without it, or unlinked.  In between
anything is asked that does not link the owner, and time passes. -/
inductive Attachments (owner : String) : (Key → List String) → Shop → Prop
  | new (context : Context) (supply : Supply) : Attachments owner (fun _ => [])
      (.new context supply)
  | attached {links : Key → List String} {s : Shop} {w : Ware} {ids : List String} {r : ShopRequest}
      (h : Attachments owner links s) (has : s.HasGroup owner) (hr : r.Attaches owner w ids)
      (hids : ∀ id ∈ ids, id ≠ "") :
      Attachments owner (relinked links w.relation (links w.relation ++ ids.map Gid.decode))
        (Act.on r.run s).2
  | linked {links : Key → List String} {s : Shop} (h : Attachments owner links s) (w : Ware)
      {id : String}
      (hid : id ≠ "") : Attachments owner (relinked links w.relation (links w.relation ++ [id]))
        (Act.on (connect owner (.text id) w.relation) s).2
  | unlinked {links : Key → List String} {s : Shop} (h : Attachments owner links s)
      (w : Ware) (k : Key) :
      Attachments owner
        (relinked links w.relation ((links w.relation).filter fun id => !(Key.text id == k)))
        (Act.on (disconnect owner k w.relation) s).2
  | other {links : Key → List String} {s : Shop} {r : ShopRequest} (h : Attachments owner links s)
      (hadd : r.AddsTo owner → ¬ s.HasGroup owner) (hlink : ¬ r.Relinks owner) :
      Attachments owner links (Act.on r.run s).2
  | passage {links : Key → List String} {s : Shop} (h : Attachments owner links s)
      (supply : Supply) :
      Attachments owner links { s with supply }

/-- What holds of all links holds of those that change too. -/
theorem forall_mem_relinked {links : Key → List String} {P : String → Prop} {relation : Key}
    {ids : List String} (h : ∀ other, ∀ id ∈ links other, P id) (hids : ∀ id ∈ ids, P id)
    (other : Key) :
    ∀ id ∈ relinked links relation ids other, P id := by
  unfold relinked
  split
  · exact hids
  · exact h other

namespace Attachments

variable {links : Key → List String} {s : Shop} {owner : String}

/-- The shops of a history are reached. -/
theorem reachable (h : Attachments owner links s) : Reachable s := by
  induction h with
  | new context supply => exact .new context supply
  | attached _ _ _ _ ih => exact ih.request _
  | @linked links s _ w id _ ih =>
    have reached := ih.request (.side (.connect owner (.text id) w.relation))
    rwa [ShopRequest.run, SideRequest.run, Act.on_discard_snd] at reached
  | @unlinked links s _ w k ih =>
    have reached := ih.request (.side (.disconnect owner k w.relation))
    rwa [ShopRequest.run, SideRequest.run, Act.on_discard_snd] at reached
  | other _ _ _ ih => exact ih.request _
  | passage _ supply ih => exact ih.passage supply

/-- What is linked is what the history says, each once. -/
theorem linkedTo (h : Attachments owner links s) :
    s.LinkedTo owner fun r => selfLinked (links r).eraseDups := by
  induction h with
  | new context supply => exact linkedTo_new context supply
  | @attached links s w ids r _ has hr _ ih =>
    -- Attaching links all that is named; what is made up and drawn after that links nothing.
    obtain ⟨named, hnamed, drawn⟩ := ShopRequest.run_attaches hr s
    obtain ⟨s₁, -, -, attached, related⟩ := ih.relate has hnamed w ids
    rw [related] at drawn
    exact (joined_linkedTo _ s₁ attached).redrawn drawn
  | linked _ w _ ih => exact ih.connect _
  | unlinked _ w k ih => exact ih.disconnect k
  | other _ hadd hlink ih => exact ShopRequest.run_linkedTo ih hadd hlink
  | passage _ supply ih => exact ih.redrawn ⟨supply, rfl⟩

/-- No identifier that is attached is empty. -/
theorem ne_empty (h : Attachments owner links s) : ∀ relation, ∀ id ∈ links relation, id ≠ "" := by
  -- An identifier that is linked comes from a request, which names no empty one, or was linked
  -- before.
  induction h with
  | new => exact nofun
  | @attached links s w ids r _ _ _ hids ih =>
    refine forall_mem_relinked ih fun id hid => ?_
    obtain hid | hid := List.mem_append.1 hid
    · exact ih _ id hid
    · obtain ⟨given, hgiven, rfl⟩ := List.mem_map.1 hid
      exact Gid.decode_ne_empty (hids given hgiven)
  | linked _ w hnew ih =>
    refine forall_mem_relinked ih fun id hid => ?_
    obtain hid | hid := List.mem_append.1 hid
    · exact ih _ id hid
    · rwa [List.mem_singleton.1 hid]
  | unlinked _ w k ih =>
    exact forall_mem_relinked ih fun id hid => ih _ id (List.mem_filter.1 hid).1
  | other _ _ _ ih => exact ih
  | passage _ _ ih => exact ih

end Attachments

/-! ### Joined groups -/

/-- The outcome is a group that shows what its owner is linked to, and that is read next without any
change; or there was no identifier left for something that it is linked to. -/
def JoinedAs (s : Shop) (owner : String) (links : Key → List String)
    (outcome : Except Fault Value × Shop) : Prop :=
  outcome.1 = .error .exhausted ∧ ¬ s.Endless ∨
  ∃ shown, outcome.1 = .ok shown ∧
    (∀ w : Ware, w.ShownIn shown (links w.relation).eraseDups) ∧
    ∀ named, Gid.decodeValue named = .ok (.text owner) →
      Act.on (group named) outcome.2 = (.ok shown, outcome.2)

variable {s : Shop} {owner : String} {links : Key → List String} {named : Value}

/-- A group is joined with what its owner is linked to. -/
theorem LinkedTo.joinedAs (h : s.LinkedTo owner fun r => selfLinked (links r).eraseDups)
    (has : s.HasGroup owner) (ne_empty : ∀ relation, ∀ id ∈ links relation, id ≠ "")
    (reached : Reachable (Act.on (joined (.text owner)) s).2) :
    s.JoinedAs owner links (Act.on (joined (.text owner)) s) := by
  have joinable := h.joinable has
  have still := joined_linkedTo (.text owner) s h
  obtain ⟨s', -, ⟨finite, exhausted⟩ | ⟨stocked, g, plans, -, found⟩⟩ := joinable.joined_cases
  · rw [exhausted]
    exact .inl ⟨rfl, finite⟩
  · rw [found] at reached still ⊢
    exact .inr ⟨_, rfl,
      fun w => still.shownIn stocked reached.namesCatalogue (ne_empty _) g plans,
      fun named hnamed => group_again joinable.named.ne_empty hnamed found⟩

/-- What holds from a later shop on holds from this one, if that is endless when this is. -/
theorem JoinedAs.of_later {s₁ : Shop} {outcome : Except Fault Value × Shop}
    (h : s₁.JoinedAs owner links outcome) (lasts : s.Endless → s₁.Endless) :
    s.JoinedAs owner links outcome :=
  h.imp_left fun ⟨exhausted, finite⟩ => ⟨exhausted, finite ∘ lasts⟩

namespace Attachments

variable (h : Attachments owner links s) (has : s.HasGroup owner)
  (hnamed : Gid.decodeValue named = .ok (.text owner))

include h has hnamed

/-- A group is read with what is attached to it. -/
theorem on_group : s.JoinedAs owner links (Act.on (group named) s) := by
  have reached := h.reachable.request (.side (.getGroup named))
  have read := (h.linkedTo.joinable has).on_group_named hnamed
  rw [ShopRequest.run, SideRequest.run, Act.on_discard_snd, read] at reached
  rw [read]
  exact h.linkedTo.joinedAs has h.ne_empty reached

variable {w : Ware} {ids : List String} (hids : ∀ id ∈ ids, id ≠ "")

include hids

/-- A history goes on with what is attached. -/
theorem relate : Attachments owner
    (relinked links w.relation (links w.relation ++ ids.map Gid.decode))
    (Act.on (Shop.relate w.relation named (.texts ids)) s).2 := by
  have attached := h.attached has (.call (w := w) hnamed) hids
  rwa [ShopRequest.run, SideRequest.run, Act.on_discard_snd] at attached

/-- What is named is attached, and the group is answered with it. -/
theorem on_relate : s.JoinedAs owner
    (relinked links w.relation (links w.relation ++ ids.map Gid.decode))
    (Act.on (Shop.relate w.relation named (.texts ids)) s) := by
  have later := h.relate has hnamed (w := w) hids
  obtain ⟨s₁, lasts, has₁, linked, related⟩ := h.linkedTo.relate has hnamed w ids
  have reached := later.reachable
  rw [related] at reached ⊢
  exact (linked.joinedAs has₁ later.ne_empty reached).of_later lasts

/-- To attach two lists at once links the same as to attach one after the other. -/
theorem relate_append {more : List String} (hmore : ∀ id ∈ more, id ≠ "") (w' : Ware) :
    (Act.on (Shop.relate w.relation named (.texts (ids ++ more))) s).2.members owner w'.relation =
      (Act.on (Shop.relate w.relation named (.texts more))
        (Act.on (Shop.relate w.relation named (.texts ids)) s).2).2.members owner w'.relation := by
  have both : ∀ id ∈ ids ++ more, id ≠ "" := fun id hid =>
    (List.mem_append.1 hid).elim (hids id) (hmore id)
  have first := h.relate has hnamed (w := w) hids
  -- Attaching does not take the group away.
  have has' : (Act.on (Shop.relate w.relation named (.texts ids)) s).2.HasGroup owner := by
    rwa [HasGroup, entity?, Store.get?, relate_slots, ← Store.get?, ← entity?]
  -- Both sides are linked to the first list and then to the second, each identifier once.
  rw [(h.relate has hnamed both).linkedTo.wares w',
    (first.relate has' hnamed hmore).linkedTo.wares w']
  unfold relinked
  split
  · simp
  · rfl

end Attachments

/-- A group shows what was attached to it, each once and in the order in which it was first
attached, together with the numbers of it.  To attach what is attached already comes down to reading
the group, and two lists may be attached at once.  Whatever making, attaching or reading answers is
what is read next, without any change.  Reading and attaching fail only for lack of identifiers, and
what was named is attached even then. -/
theorem joins_agree (owner : String) :
    (∀ links s named, Attachments owner links s → s.HasGroup owner →
      Gid.decodeValue named = .ok (.text owner) → s.JoinedAs owner links (Act.on (group named) s)) ∧
    (∀ links s named (w : Ware) ids, Attachments owner links s → s.HasGroup owner →
      Gid.decodeValue named = .ok (.text owner) → (∀ id ∈ ids, id ≠ "") →
      let links' := relinked links w.relation (links w.relation ++ ids.map Gid.decode)
      let attached := Act.on (relate w.relation named (.texts ids)) s
      Attachments owner links' attached.2 ∧ s.JoinedAs owner links' attached ∧
      ((∀ id ∈ ids, Gid.decode id ∈ links w.relation) → attached = Act.on (group named) s) ∧
      ∀ more, (∀ id ∈ more, id ≠ "") → ∀ w' : Ware,
        (Act.on (relate w.relation named (.texts (ids ++ more))) s).2.members owner w'.relation =
          (Act.on (relate w.relation named (.texts more)) attached.2).2.members owner w'.relation) ∧
    (∀ options given s shown s', Act.on (createGroup options given) s = (.ok shown, s') →
      ∃ id, shown.get? "id" = some (.text (Gid.encode id)) ∧
        ∀ named, Gid.decodeValue named = .ok (.text id) →
          Act.on (group named) s' = (.ok shown, s')) ∧
    ∀ relation named ids s shown s', Act.on (relate relation named ids) s = (.ok shown, s') →
      ∀ named', Gid.decodeValue named' = Gid.decodeValue named →
        Act.on (group named') s' = (.ok shown, s') := by
  -- Each part has its lemma about one request; histories only supply its premises.
  refine ⟨fun links s named h has hnamed => h.on_group has hnamed,
    fun links s named w ids h has hnamed hids =>
      ⟨h.relate has hnamed hids, h.on_relate has hnamed hids,
      h.linkedTo.relate_known has hnamed, fun more hmore => h.relate_append has hnamed hids hmore⟩,
    fun _ _ _ _ _ h => createGroup_again h, fun _ _ _ _ _ _ h _ same => relate_again h same⟩

/-- A shop with a group, and with tokens that are still to be handed out. -/
def sampleGrouped (tokens : List String) : Shop :=
  (Act.on (ShopRequest.side GroupHistory.sampleCreation.side).run
    (.new default (.fresh 0 0 tokens))).2

/-- A group that was just made has nothing attached. -/
theorem attachments_sampleGrouped (tokens : List String) (owner : String) :
    Attachments owner (fun _ => []) (sampleGrouped tokens) :=
  .other (.new default _) False.elim False.elim

/-- The second product is attached once in each form. -/
theorem joins_agree_sample : ∃ links s shown,
    Attachments "gid://shopify/SellingPlanGroup/SellingPlanGroup-1" links s ∧
      Act.on (group "gid://shopify/SellingPlanGroup/SellingPlanGroup-1") s = (.ok shown, s) ∧
      Ware.product.ShownIn shown ["gid://shopify/Product/2", "gid://shopify/Product/1"] ∧
      Ware.variant.ShownIn shown [] := by
  obtain ⟨-, attach, -⟩ := joins_agree "gid://shopify/SellingPlanGroup/SellingPlanGroup-1"
  have history := attachments_sampleGrouped [] "gid://shopify/SellingPlanGroup/SellingPlanGroup-1"
  have has : ((sampleGrouped []).entity? Gid.groupPrefix
      (.text "gid://shopify/SellingPlanGroup/SellingPlanGroup-1")).isSome = true := by
      decide +kernel
  have named : Gid.decodeValue "gid://shopify/SellingPlanGroup/SellingPlanGroup-1" =
      .ok (.text "gid://shopify/SellingPlanGroup/SellingPlanGroup-1") := rfl
  -- The group answers as the theorem says; that it does is computed.
  obtain ⟨later, joined, -⟩ := attach _ _ _ .product
    ["gid://shopify/Product/2", "gid://shopify/Product/1", Gid.encode "gid://shopify/Product/2"]
    history has named (by decide)
  have answered : (Act.on (relate Ware.product.relation
      "gid://shopify/SellingPlanGroup/SellingPlanGroup-1" (.texts ["gid://shopify/Product/2",
        "gid://shopify/Product/1", Gid.encode "gid://shopify/Product/2"]))
      (sampleGrouped [])).1.toBool = true := by decide +kernel
  obtain ⟨exhausted, -⟩ | ⟨shown, -, shows, read⟩ := joined
  · rw [exhausted] at answered
    cases answered
  · exact ⟨_, _, shown, later, read _ named, shows .product, shows .variant⟩

/-- A product is attached to a group, but there is no identifier left to make it up, so the group is
not answered. -/
theorem attached_unanswered : ¬ ∀ owner links s named (w : Ware) ids, Attachments owner links s →
    s.HasGroup owner → Gid.decodeValue named = .ok (.text owner) → (∀ id ∈ ids, id ≠ "") →
    ∃ shown, (Act.on (relate w.relation named (.texts ids)) s).1 = .ok shown ∧ ∀ w' : Ware,
      w'.ShownIn shown
        (relinked links w.relation (links w.relation ++ ids.map Gid.decode)
          w'.relation).eraseDups := by
  intro claimed
  -- The forty-three tokens are all the same, so after the first is taken no search finds another.
  have has : ((sampleGrouped (List.replicate 43 "g")).entity? Gid.groupPrefix
      (.text "gid://shopify/SellingPlanGroup/g")).isSome = true := by decide +kernel
  obtain ⟨shown, answered, -⟩ := claimed "gid://shopify/SellingPlanGroup/g" _ _
    "gid://shopify/SellingPlanGroup/g" .product ["gid://shopify/Product/1"]
    (attachments_sampleGrouped (List.replicate 43 "g") _) has rfl (by decide)
  have failed : (Act.on (relate Ware.product.relation "gid://shopify/SellingPlanGroup/g"
      (.texts ["gid://shopify/Product/1"])) (sampleGrouped (List.replicate 43 "g"))).1.toBool =
        false := by decide +kernel
  rw [answered] at failed
  cases failed

end Shop
end Storefront
