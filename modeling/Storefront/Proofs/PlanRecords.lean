import Storefront.Proofs.GroupOrder

/-! # Plans and groups as they are kept

Requests about plans and groups may come with options of any content, and may fail in the middle.
Whatever they do, a group is kept with a name and with the code of its merchant, and a plan in
its one category and with the time at which it was made; both are kept under the identifier that
their records show.  Changing a plan changes those of its terms that are supplied, and the time
of the change.

* `Shop.Updates` : what changing a plan does, with `Shop.updates` for all plans that are in order
* `SideRequest.plansMade`, `PlanHistory` : the plans that requests make, in order
* `Shop.OffersInOrder` : what is known of all plans and groups
* `SideRequest.run_inOrder` : any request, and `PlanHistory.inOrder` by induction -/

namespace Storefront

open Act (Within Carries)

namespace Assoc

variable {κ α : Type} [BEq κ]

/-- What is looked up in two parts is looked up in the first, and then in the second. -/
theorem get?_append (m m' : List (κ × α)) (key : κ) :
    get? (m ++ m') key = (get? m key).or (get? m' key) := by
  induction m with
  | nil => rfl
  | cons p m ih =>
    obtain ⟨k, a⟩ := p
    rw [List.cons_append, get?_cons, get?_cons, ih]
    split <;> rfl

variable [EquivBEq κ]

/-- Of the values that are put in one after the other, the last of a key stays. -/
theorem get?_foldl_put (m pairs : List (κ × α)) (key : κ) :
    get? (pairs.foldl (fun m (k, a) => put m k a) m) key =
      (get? pairs.reverse key).or (get? m key) := by
  induction pairs generalizing m with
  | nil => rfl
  | cons p pairs ih =>
    obtain ⟨k, a⟩ := p
    -- The pair that is put in first is the last of the reversed list.
    rw [List.foldl_cons, ih, List.reverse_cons, get?_append, Option.or_assoc]
    congr 1
    cases hk : k == key with
    | true => simp [get?_cons, hk, ← get?_congr (put m k a) hk]
    | false => simp [get?_cons, hk, get?_put_of_ne m (show (key == k) = false by rwa [BEq.comm])]

omit [EquivBEq κ]

/-- What is left out by a filter of keys is not found, and all else is. -/
theorem get?_filter (m : List (κ × α)) {p : κ → Bool} {key : κ}
    (h : ∀ k, (k == key) = true → p k = p key) :
    get? (m.filter (p ·.1)) key = if p key then get? m key else none := by
  induction m with
  | nil => simp
  | cons q m ih =>
    obtain ⟨k, a⟩ := q
    -- A pair that is left out has another key.
    cases hk : k == key with
    | true => cases hp : p key <;> simp_all [get?_cons]
    | false => cases hp : p k <;> simp [get?_cons, hk, hp, ih]

end Assoc

/-! ### Changing a plan -/

namespace SellingPlan

/-- Keys that are equal name the same term. -/
theorem isTerm_congr {k key : Key} (h : (k == key) = true) : isTerm k = isTerm key := by
  have same : ∀ t : String, Key.text t = k ↔ Key.text t = key := fun t =>
    ⟨fun ht => (Key.text_beq_iff.1 (ht ▸ h)).symm,
      fun ht => (Key.text_beq_iff.1 (by rw [ht, BEq.comm]; exact h)).symm⟩
  simp only [isTerm, same]

/-- Of the changes, those of terms count, and of these the last of each. -/
theorem get?_withTerms (fields changes : List (Key × Value)) (k : Key) :
    Assoc.get? (withTerms fields changes) k =
      if isTerm k then (Assoc.get? changes.reverse k).or (Assoc.get? fields k)
      else Assoc.get? fields k := by
  rw [withTerms, Assoc.get?_foldl_put, ← List.filter_reverse,
    Assoc.get?_filter _ fun _ same => isTerm_congr same]
  split <;> rfl

/-- The members of the record of a plan that is changed: the terms that are supplied, of each the
last value, and the time; all else is as before. -/
def changedMember (before changes : List (Key × Value)) (now : String) (k : Key) : Option Value :=
  if k == .text "updatedAt" then some (.text now)
  else if isTerm k then (Assoc.get? changes.reverse k).or (Assoc.get? before k)
  else Assoc.get? before k

/-- A plan with changes to its terms. -/
def changed (p : SellingPlan) (changes : List (Key × Value)) (now : String) : SellingPlan :=
  { p with terms := withTerms p.terms changes, updatedAt := now }

/-- The record of a changed plan has the members that it should, and no others. -/
theorem toValue_changed (p : SellingPlan) (changes : List (Key × Value)) (now : String) :
    ∃ before after, p.toValue = .record before ∧ (p.changed changes now).toValue = .record after ∧
      ∀ k, Assoc.get? after k = changedMember before changes now k := by
  refine ⟨_, _, rfl, rfl, fun k => ?_⟩
  by_cases own : k = .text "id" ∨ k = .text "createdAt" ∨ k = .text "updatedAt" ∨
    k = .text "category"
  · obtain rfl | rfl | rfl | rfl := own <;>
      simp [changed, changedMember, isTerm, termNames, Assoc.get?_cons]
  · -- All other members of a plan are among its terms.
    have other : ∀ name, name ∈ ["id", "createdAt", "updatedAt", "category"] →
        (Key.text name == k) = false := by
      intro name hname
      rw [Bool.eq_false_iff, ne_eq, Key.text_beq_iff]
      rintro rfl
      exact own (by simpa using hname)
    have untimed : (k == Key.text "updatedAt") = false := by
      rw [BEq.comm]
      exact other _ (by simp)
    simp only [changed, changedMember, List.cons_append, List.nil_append, Assoc.get?_cons,
      other "id" (by simp), other "createdAt" (by simp), other "updatedAt" (by simp),
      other "category" (by simp), untimed, Bool.false_eq_true, if_false, get?_withTerms]

end SellingPlan

namespace Shop

variable {s s' : Shop} {made : List SellingPlan}

/-- What changing a plan does: nothing where there is no such plan, and nothing where it fails.
Else the terms that are supplied change, and the time of the change; no other entity does. -/
structure Updates (s : Shop) (id options : Value) : Prop where
  /-- No plan is there: nothing happens, and none is answered. -/
  absent : ∀ key, (Gid.decodeValue id >>= Value.asKey) = .ok key →
    s.entity? Gid.planPrefix key = none → Act.on (updatePlan id options) s = (.ok none, s)
  /-- A plan is there, and the options are a record. -/
  changed : ∀ key e changes, (Gid.decodeValue id >>= Value.asKey) = .ok key →
    s.entity? Gid.planPrefix key = some e → options = .record changes →
    ∃ e' s' before after, Act.on (updatePlan id options) s = (.ok (some e'), s') ∧
      e.toValue = .record before ∧ e'.toValue = .record after ∧
      (∀ k, Assoc.get? after k = SellingPlan.changedMember before changes s.supply.timestamp k) ∧
      s'.entity? Gid.planPrefix key = some e' ∧
      ∀ kind k, kind ≠ Gid.planPrefix ∨ (k == key) = false → s'.entity? kind k = s.entity? kind k
  /-- The options are no record, or the identifier is none. -/
  failed : ∀ fault s', Act.on (updatePlan id options) s = (.error fault, s') → s' = s

/-- Where no plan is kept under the identifier, changing it does nothing. -/
theorem on_updatePlan_of_none {id : Value} {key : Key}
    (hkey : (Gid.decodeValue id >>= Value.asKey) = .ok key)
    (hplan : s.entity? Gid.planPrefix key = none) (options : Value) :
    Act.on (updatePlan id options) s = (.ok none, s) := by
  obtain ⟨raw, hraw, hkey⟩ := Act.except_bind_eq_ok.1 hkey
  rw [updatePlan, hraw, Act.on_bind_of_ok (Act.on_lift _ s), hkey,
    Act.on_bind_of_ok (Act.on_lift _ s), Act.on_bind_of_ok (on_find? s _ _), hplan]
  rfl

/-- Where a plan is kept, changing it keeps it with the changes, unless these are no record. -/
theorem on_updatePlan {id : Value} {key : Key}
    (hkey : (Gid.decodeValue id >>= Value.asKey) = .ok key) {p : SellingPlan}
    (hplan : s.entity? Gid.planPrefix key = some (.plan p)) (options : Value) :
    Act.on (updatePlan id options) s = match options.asRecord with
      | .error fault => (.error fault, s)
      | .ok changes =>
        (.ok (some (.plan (p.changed changes s.supply.timestamp))),
          s.withEntity Gid.planPrefix key (.plan (p.changed changes s.supply.timestamp))) := by
  obtain ⟨raw, hraw, hkey⟩ := Act.except_bind_eq_ok.1 hkey
  rw [updatePlan, hraw, Act.on_bind_of_ok (Act.on_lift _ s), hkey,
    Act.on_bind_of_ok (Act.on_lift _ s), Act.on_bind_of_ok (on_find? s _ _), hplan]
  cases options with
  -- Only a record has members to change.
  | record changes => rfl
  | _ => rfl

/-- Where only plans are kept as plans, changing one does what it is to do. -/
theorem updates (h : ∀ key e, s.entity? Gid.planPrefix key = some e → ∃ p, e = .plan p)
    (id options : Value) : s.Updates id options where
  absent key hkey hplan := on_updatePlan_of_none hkey hplan options
  changed key e changes hkey he hoptions := by
    obtain ⟨p, rfl⟩ := h key e he
    subst hoptions
    obtain ⟨before, after, hbefore, hafter, members⟩ := p.toValue_changed changes s.supply.timestamp
    exact ⟨_, _, before, after, on_updatePlan hkey he _, hbefore, hafter, members,
      entity?_withEntity_self .., fun kind k hk => entity?_withEntity_of_ne s hk _⟩
  failed fault s' hfail := by
    rcases updatePlan_cases id options s with ⟨same, -⟩ | ⟨k, e, -, -, done⟩
    · rwa [hfail] at same
    · cases hfail.symm.trans done

/-! ### The plans that are made -/

/-- The plan that was made last under an identifier. -/
def lastMade? (made : List SellingPlan) (k : Key) : Option SellingPlan :=
  (made.filter (Key.text ·.id = k)).getLast?

/-- The plan that was made last is the last one. -/
theorem lastMade?_append_self (made : List SellingPlan) (p : SellingPlan) :
    lastMade? (made ++ [p]) (.text p.id) = some p := by
  simp [lastMade?, List.filter_append]

/-- A plan that is made under another identifier does not count. -/
theorem lastMade?_append_of_ne (made : List SellingPlan) {p : SellingPlan} {k : Key}
    (h : k ≠ .text p.id) : lastMade? (made ++ [p]) k = lastMade? made k := by
  simp [lastMade?, List.filter_append, Ne.symm h]

/-- The plan that is made of options, if one is. -/
def planMade (options given : Value) (s : Shop) : List SellingPlan :=
  (Act.on (createPlan options given) s).1.toOption.toList

/-- The plans that are made for an owner of the entries of a list, up to the first that fails. -/
def plansAdded (owner : String) : List Value → Shop → List SellingPlan
  | [], _ => []
  | options :: rest, s => planMade options .null s ++ match Act.on (addPlan owner options) s with
    | (.ok _, s') => plansAdded owner rest s'
    | (.error _, _) => []

/-- The plans that are made for a group that is open, of those that options list. -/
def plansListed (options : Value) (owner : String) (s : Shop) : List SellingPlan :=
  match options.member "sellingPlansToCreate" >>= severalOf with
  | .ok entries => plansAdded owner entries s
  | .error _ => []

end Shop

/-- The plans that a request makes, in order, whether or not it succeeds. -/
def SideRequest.plansMade (s : Shop) : SideRequest → List SellingPlan
  | createPlan options given => Shop.planMade options given s
  | createGroup options given =>
    match Act.on (Shop.openGroup options given) s with
    | (.ok id, s') => Shop.plansListed options id s'
    | (.error _, _) => []
  | _ => []

/-- The shops that requests aside from carts lead to, with all plans that were made on the way. -/
inductive PlanHistory : List SellingPlan → Shop → Prop
  | new (context : Context) (supply : Supply) : PlanHistory [] (.new context supply)
  | request {made : List SellingPlan} {s : Shop} (h : PlanHistory made s) (r : SideRequest) :
      PlanHistory (made ++ r.plansMade s) (Act.on r.run s).2
  /-- Time passes, and chance does what it will. -/
  | passage {made : List SellingPlan} {s : Shop} (h : PlanHistory made s) (supply : Supply) :
      PlanHistory made { s with supply }

/-! ### Plans and groups in order -/

/-- The group is kept under its identifier, with all that is required of it. -/
structure SellingPlanGroup.InOrder (g : SellingPlanGroup) (k : Key) : Prop where
  /-- The key is the raw identifier itself. -/
  key : k = .text g.id
  decoded : Gid.decode g.id = g.id
  name : g.name.truthy = true
  merchantCode : g.merchantCode.truthy = true

/-- The plan is kept under its identifier, with the time at which it was made. -/
structure SellingPlan.InOrder (p : SellingPlan) (made : List SellingPlan) (k : Key) : Prop where
  key : k = .text p.id
  decoded : Gid.decode p.id = p.id
  exists_made : ∃ q, Shop.lastMade? made k = some q ∧ p.createdAt = q.createdAt

/-- A changed plan keeps its identifier and the time at which it was made. -/
theorem SellingPlan.InOrder.changed {p : SellingPlan} {made : List SellingPlan} {k : Key}
    (h : p.InOrder made k) (changes : List (Key × Value)) (now : String) :
    (p.changed changes now).InOrder made k := by
  obtain ⟨q, hq, same⟩ := h.exists_made
  exact ⟨h.key, h.decoded, q, hq, same⟩

namespace Shop

variable {s s' : Shop} {made made' : List SellingPlan}

/-- All plans and groups are in order, given the plans that were made. -/
structure OffersInOrder (made : List SellingPlan) (s : Shop) : Prop where
  group : ∀ k e, s.entity? Gid.groupPrefix k = some e → ∃ g, e = .group g ∧ g.InOrder k
  plan : ∀ k e, s.entity? Gid.planPrefix k = some e → ∃ p, e = .plan p ∧ p.InOrder made k

/-- Plans and groups stay as they are. -/
structure KeepsOffers (s s' : Shop) : Prop where
  group : ∀ k, s'.entity? Gid.groupPrefix k = s.entity? Gid.groupPrefix k
  plan : ∀ k, s'.entity? Gid.planPrefix k = s.entity? Gid.planPrefix k

/-- `KeepsOffers` can be used with the rules of `Within`. -/
instance : Std.Refl KeepsOffers := ⟨fun _ => ⟨fun _ => rfl, fun _ => rfl⟩⟩

/-- `KeepsOffers` can be used with the rules of `Within`. -/
instance : IsTrans Shop KeepsOffers :=
  ⟨fun _ _ _ h h' => ⟨fun k => (h'.group k).trans (h.group k), fun k =>
    (h'.plan k).trans (h.plan k)⟩⟩

/-- What keeps groups, plans and links keeps plans and groups. -/
theorem KeepsGroups.keepsOffers (h : KeepsGroups s s') : KeepsOffers s s' :=
  ⟨h.entity?_eq (.inl rfl), h.entity?_eq (.inr (.inl rfl))⟩

/-- An action that keeps groups, plans and links keeps plans and groups. -/
theorem keepsGroups_keepsOffers {α : Type} {x : Act Shop α} (h : Within KeepsGroups x) :
    Within KeepsOffers x := h.mono fun _ _ => KeepsGroups.keepsOffers

/-- Links are kept aside from plans and groups. -/
theorem withLinks_keepsOffers (s : Shop) (owner : String) (relation : Key) (e : Entity) :
    KeepsOffers s (s.withEntity (connectionMark ++ owner) relation e) where
  group _ := entity?_withEntity_of_ne s (.inl (mark_append_ne owner "SellingPlanGroup").symm) e
  plan _ := entity?_withEntity_of_ne s (.inl (plan_ne_mark owner)) e

/-- To connect keeps plans and groups as they are. -/
theorem connect_keepsOffers (owner : String) (id relation : Key) :
    Within KeepsOffers (connect owner id relation) :=
  .bind (keepsGroups_keepsOffers (linksOf_keepsGroups _ _)) fun _ =>
    .bind (fun s => withLinks_keepsOffers s owner relation _) fun _ => .pure _

/-- To disconnect keeps plans and groups as they are. -/
theorem disconnect_keepsOffers (owner : String) (id relation : Key) :
    Within KeepsOffers (disconnect owner id relation) :=
  .bind (keepsGroups_keepsOffers (linksOf_keepsGroups _ _)) fun _ =>
    .bind (fun s => withLinks_keepsOffers s owner relation _) fun _ => .pure _

/-- To relate a group keeps plans and groups as they are: it only connects. -/
theorem relate_keepsOffers (relation : Key) (id ids : Value) :
    Within KeepsOffers (relate relation id ids) :=
  .bind (groupId_unchanged id).of_eq fun _ => .bind (.lift _) fun _ => .bind (.lift _) fun _ =>
    .bind (.forM (fun _ => .bind (.lift _) fun _ => .bind (.lift _) fun _ =>
      .map _ (connect_keepsOffers _ _ _)) _) fun _ => keepsGroups_keepsOffers (joined_keepsGroups _)

namespace OffersInOrder

/-- What is in order stays so while plans and groups are as they were. -/
theorem mono (h : OffersInOrder made s) (hs : KeepsOffers s s') : OffersInOrder made s' where
  group k e he := h.group k e (hs.group k ▸ he)
  plan k e he := h.plan k e (hs.plan k ▸ he)

/-- A group that is in order may be kept. -/
theorem withGroup (h : OffersInOrder made s) {g : SellingPlanGroup} {k : Key} (hg : g.InOrder k) :
    OffersInOrder made (s.withEntity Gid.groupPrefix k (.group g)) where
  group k' e he := by
    obtain rfl := hg.key
    cases same : k' == Key.text g.id with
    -- Another key is looked up as before.
    | false => exact h.group k' e (by rwa [entity?_withEntity_of_ne s (.inr same)] at he)
    -- The key is that of the new group.
    | true =>
      rw [entity?_congr _ _ same, entity?_withEntity_self] at he
      rw [BEq.comm, Key.text_beq_iff] at same
      exact ⟨g, (Option.some.inj he).symm, same ▸ hg⟩
  plan k' e he := h.plan k' e (by rwa [entity?_withEntity_of_ne s (.inl (by decide))] at he)

/-- A plan is made or changed; under all other identifiers, none is made. -/
theorem withPlan (h : OffersInOrder made s) {p : SellingPlan} {k : Key} (hp : p.InOrder made' k)
    (others : ∀ k', k' ≠ k → lastMade? made' k' = lastMade? made k') :
    OffersInOrder made' (s.withEntity Gid.planPrefix k (.plan p)) where
  group k' e he := h.group k' e (by rwa [entity?_withEntity_of_ne s (.inl (by decide))] at he)
  plan k' e he := by
    obtain rfl := hp.key
    cases same : k' == Key.text p.id with
    -- Another plan is as it was, and so is the last one made under its key.
    | false =>
      obtain ⟨p', rfl, hp'⟩ := h.plan k' e (by rwa [entity?_withEntity_of_ne s (.inr same)] at he)
      have other : k' ≠ .text p.id := by
        rintro rfl
        simp at same
      exact ⟨p', rfl, hp'.key, hp'.decoded, by rw [others k' other]; exact hp'.exists_made⟩
    -- The key is that of the plan.
    | true =>
      rw [entity?_congr _ _ same, entity?_withEntity_self] at he
      rw [BEq.comm, Key.text_beq_iff] at same
      exact ⟨p, (Option.some.inj he).symm, same ▸ hp⟩

/-- To erase leaves fewer to be in order. -/
theorem without (h : OffersInOrder made s) (kind : String) (k : Key) :
    OffersInOrder made (s.withoutEntity kind k) where
  group k' e he := h.group k' e (entity?_withoutEntity he)
  plan k' e he := h.plan k' e (entity?_withoutEntity he)

end OffersInOrder

/-- An action that keeps plans and groups keeps them in order. -/
theorem carries_of_keepsOffers {α : Type} {x : Act Shop α} (h : Within KeepsOffers x) :
    Within (Carries (OffersInOrder made)) x := h.mono fun _ _ hs ordered => ordered.mono hs

/-! ### Requests -/

/-- A plan is made under an identifier that is given or new, or nothing is kept. -/
theorem createPlan_outcome (options given : Value) (s : Shop) :
    (∃ fault s', Act.on (createPlan options given) s = (.error fault, s') ∧ Draws s s') ∨
      ∃ plan s₁, Act.on (createPlan options given) s =
          (.ok plan, s₁.withEntity Gid.planPrefix (.text plan.id) (.plan plan)) ∧
        Draws s s₁ ∧ Gid.decode plan.id = plan.id := by
  have drawn := givenOrFreshId_draws given Gid.planPrefix s
  rw [createPlan]
  rcases hid : Act.on (givenOrFreshId given Gid.planPrefix) s with ⟨fault | id, s₁⟩ <;>
    rw [hid] at drawn
  · -- The identifier cannot be drawn, or is none.
    exact .inl ⟨fault, s₁, Act.on_bind_of_error hid, drawn⟩
  rw [Act.on_bind_of_ok hid]
  cases Gid.encodeText id with
  -- The identifier cannot be encoded: nothing was kept yet.
  | error fault => exact .inl ⟨fault, s₁, rfl, drawn⟩
  | ok sent =>
    rw [Act.on_bind_of_ok (Act.on_discard_of_ok (Act.on_lift _ _)),
      Act.on_bind_of_ok (on_timestamp _)]
    cases SellingPlan.termsOf options with
    -- The terms cannot be read: nothing was kept yet.
    | error fault => exact .inl ⟨fault, s₁, rfl, drawn⟩
    | ok terms => exact .inr ⟨_, s₁, rfl, drawn, (givenOrFreshId_decoded (by decide) hid).1⟩

/-- To make a plan leaves all in order, with that plan as the last one made. -/
theorem createPlan_inOrder (h : OffersInOrder made s) (options given : Value) :
    OffersInOrder (made ++ planMade options given s) (Act.on (createPlan options given) s).2 := by
  rcases createPlan_outcome options given s with ⟨fault, s', failed, drawn⟩ |
    ⟨plan, s₁, done, drawn, decoded⟩
  · -- No plan was made, and none is kept.
    rw [planMade, failed]
    exact (List.append_nil made).symm ▸ h.mono drawn.keepsGroups.keepsOffers
  · rw [planMade, done]
    have inOrder : plan.InOrder (made ++ [plan]) (.text plan.id) :=
      ⟨rfl, decoded, plan, lastMade?_append_self made plan, rfl⟩
    exact (h.mono drawn.keepsGroups.keepsOffers).withPlan inOrder fun k hk =>
      lastMade?_append_of_ne made hk

/-- To add a plan to a group leaves all in order: connecting does not count. -/
theorem addPlan_inOrder (h : OffersInOrder made s) (owner : String) (options : Value) :
    OffersInOrder (made ++ planMade options .null s) (Act.on (addPlan owner options) s).2 := by
  have done := createPlan_inOrder h options .null
  rw [addPlan]
  refine Act.on_bind_snd (fun _ s' hfail => ?_) fun plan s' hplan => ?_
  · rwa [hfail] at done
  · rw [hplan] at done
    exact done.mono ((connect_keepsOffers owner _ planRelation).map _ s')

/-- To add a list of plans leaves all in order, by induction over the list up to the first that
fails. -/
theorem plansAdded_inOrder (h : OffersInOrder made s) (owner : String) (entries : List Value) :
    OffersInOrder (made ++ plansAdded owner entries s)
      (Act.on (entries.forM (addPlan owner)) s).2 := by
  induction entries generalizing made s with
  | nil => simpa [plansAdded] using h
  | cons options rest ih =>
    have first := addPlan_inOrder h owner options
    rw [plansAdded, ← List.append_assoc, show (options :: rest).forM (addPlan owner) =
      (do addPlan owner options; rest.forM (addPlan owner)) from rfl]
    refine Act.on_bind_snd (fun fault s' hfail => ?_) fun _ s' hok => ?_
    · -- The first one fails, and the others are not made.
      rw [hfail] at first ⊢
      simpa using first
    · -- The first one is made, and the rest goes on from there.
      rw [hok] at first ⊢
      exact ih first

/-- To change a plan leaves all in order, and makes none. -/
theorem updatePlan_inOrder (id options : Value) :
    Within (Carries (OffersInOrder made)) (updatePlan id options) := by
  intro s h
  rcases updatePlan_cases id options s with ⟨same, -⟩ | ⟨k, e, hk, hplan, done⟩
  · -- Nothing changed.
    rwa [same]
  · obtain ⟨old, hold⟩ := Option.isSome_iff_exists.1 hplan
    obtain ⟨p, rfl, hp⟩ := h.plan k old hold
    have changed := on_updatePlan hk hold options
    cases hchanges : options.asRecord with
    | error fault =>
      -- With options that are no record it would have failed.
      rw [hchanges, done] at changed
      cases changed
    | ok changes =>
      rw [hchanges] at changed
      rw [changed]
      exact h.withPlan (hp.changed changes s.supply.timestamp) fun _ _ => rfl

/-- To delete a plan leaves all in order. -/
theorem deletePlan_inOrder (id : Value) : Within (Carries (OffersInOrder made)) (deletePlan id) :=
  .bind (.lift _) fun _ => .bind (.lift _) fun k _ h => h.without Gid.planPrefix k

/-- To drop a plan from a group leaves all in order. -/
theorem dropPlan_inOrder (owner : String) (plan : Value) :
    Within (Carries (OffersInOrder made)) (dropPlan owner plan) :=
  dropPlan_within deletePlan_inOrder
    (fun _ => carries_of_keepsOffers (disconnect_keepsOffers _ _ _)) plan

/-- To change a plan of a group leaves all in order, and makes none. -/
theorem changePlan_inOrder (owner : String) (options : Value) :
    Within (Carries (OffersInOrder made)) (changePlan owner options) := by
  refine .bind (.lift _) fun _ => .bind (.lift _) fun _ =>
    .bind (updatePlan_inOrder _ options) fun found => ?_
  split
  · exact .bind (.lift _) fun _ => .map _ (carries_of_keepsOffers (connect_keepsOffers _ _ _))
  · exact .pure _

/-- A group is made in order, or nothing is kept. -/
theorem openGroup_inOrder (h : OffersInOrder made s) (options given : Value) :
    OffersInOrder made (Act.on (openGroup options given) s).2 := by
  have opened := openGroup_cases options given s
  have unopened : ∀ {r : Except Fault String} {s₁ : Shop},
      Act.on (givenOrFreshId given Gid.groupPrefix) s = (r, s₁) → OffersInOrder made s₁ :=
    fun drawn => h.mono ((givenOrFreshId_draws _ _).of_on drawn).keepsGroups.keepsOffers
  generalize Act.on (openGroup options given) s = r at opened
  cases opened with
  | refused => exact h
  | unnamed drawn => exact unopened drawn
  | unsendable drawn => exact unopened drawn
  | kept _ name merchantCode drawn _ =>
    exact (unopened drawn).withGroup
      ⟨rfl, (givenOrFreshId_decoded (by decide) drawn).1, name, merchantCode⟩

/-- To make a group leaves all in order, with the plans that were listed, up to a failure. -/
theorem createGroup_inOrder (h : OffersInOrder made s) (options given : Value) :
    OffersInOrder (made ++ (SideRequest.createGroup options given).plansMade s)
      (Act.on (createGroup options given) s).2 := by
  have opened := openGroup_inOrder h options given
  rw [createGroup_eq, SideRequest.plansMade]
  refine Act.on_bind_snd (fun fault s' hfail => ?_) fun id s' hid => ?_
  · -- The group was not made, and no plan either.
    rw [hfail] at opened ⊢
    simpa using opened
  rw [hid] at opened ⊢
  dsimp only
  rw [plansListed, groupWorks]
  cases hlisted : options.member "sellingPlansToCreate" with
  -- No list of plans can be read, so none is made.
  | error fault => exact (List.append_nil made).symm ▸ opened
  | ok listed =>
    rw [Act.on_bind_of_ok (Act.on_lift _ _), Value.ok_bind]
    cases hentries : severalOf listed with
    | error fault => exact (List.append_nil made).symm ▸ opened
    | ok entries =>
      rw [Act.on_bind_of_ok (Act.on_lift _ _)]
      have added := plansAdded_inOrder opened id entries
      refine Act.on_bind_snd (fun fault s' hfail => ?_) fun _ s' hok => ?_
      · rwa [hfail] at added
      · rw [hok] at added
        -- What is deleted and changed from here on makes no plan.
        exact Within.bind (R := Carries (OffersInOrder _)) (.lift _) (fun _ => .bind (.lift _)
          fun _ => .bind (.forM (dropPlan_inOrder id) _) fun _ => .bind (.lift _) fun _ =>
          .bind (.lift _) fun _ => .bind (.forM (changePlan_inOrder id) _) fun _ =>
          carries_of_keepsOffers (keepsGroups_keepsOffers (joined_keepsGroups _))) s' added

end Shop

open Shop in
/-- Whatever is requested, plans and groups stay in order. -/
theorem SideRequest.run_inOrder {s : Shop} {made : List SellingPlan} (h : OffersInOrder made s)
    (r : SideRequest) : OffersInOrder (made ++ r.plansMade s) (Act.on r.run s).2 := by
  have quiet : ∀ {x : Act Shop Unit}, Within (Carries (OffersInOrder made)) x →
      OffersInOrder (made ++ []) (Act.on x s).2 := fun hx => (List.append_nil made).symm ▸ hx s h
  -- Requests that make no plan, and keep plans and groups as they are.
  have same : ∀ {x : Act Shop Unit}, Within KeepsGroups x →
      OffersInOrder (made ++ []) (Act.on x s).2 := fun hx =>
    quiet (carries_of_keepsOffers (keepsGroups_keepsOffers hx))
  cases r with
  | variant id make => exact same (.map _ (variant_keepsGroups id make))
  | product id make => exact same (.map _ (product_keepsGroups id make))
  | createPlan options given =>
    rw [run, Act.on_discard_snd]
    exact createPlan_inOrder h options given
  | getPlan id => exact same (.map _ (plan?_keepsGroups id))
  | updatePlan id options => exact quiet (.map _ (updatePlan_inOrder id options))
  | deletePlan id => exact quiet (.map _ (deletePlan_inOrder id))
  | createGroup options given =>
    rw [run, Act.on_discard_snd]
    exact createGroup_inOrder h options given
  | getGroup id => exact same (.map _ (group_keepsGroups id))
  | relate relation id ids =>
    exact quiet (carries_of_keepsOffers (.map _ (relate_keepsOffers relation id ids)))
  | deleteGroup id =>
    exact quiet (.map _ (.bind (groupId_unchanged id).of_eq fun k _ h =>
      h.without Gid.groupPrefix k))
  | listGroups start limit => exact same (.map _ (groups_keepsGroups start limit))
  | connect owner id relation =>
    exact quiet (carries_of_keepsOffers (.map _ (connect_keepsOffers owner id relation)))
  | disconnect owner id relation =>
    exact quiet (carries_of_keepsOffers (.map _ (disconnect_keepsOffers owner id relation)))
  | connections owner relation => exact same (.map _ (connections_keepsGroups owner relation))
  | freshId start => exact same (.map _ (draws_keepsGroups (freshId_draws start)))

/-! ### Histories -/

/-- The value is the record of a group that is kept under a key. -/
structure Value.IsGroupAt (v : Value) (k : Key) : Prop where
  id : (v.item "id" >>= Gid.decodeValue) = .ok k.toValue
  name : ∃ name, v.item "name" = .ok name ∧ name.truthy = true
  merchantCode : ∃ code, v.item "merchantCode" = .ok code ∧ code.truthy = true

/-- The value is the record of a plan that is kept under a key and was made at a time. -/
structure Value.IsPlanAt (v : Value) (k : Key) (createdAt : String) : Prop where
  id : (v.item "id" >>= Gid.decodeValue) = .ok k.toValue
  category : v.item "category" = .ok (.text "PRE_ORDER")
  createdAt : v.item "createdAt" = .ok (.text createdAt)

/-- A group in order is shown as one: its encoded identifier decodes to its key. -/
theorem SellingPlanGroup.InOrder.isGroupAt {g : SellingPlanGroup} {k : Key} (h : g.InOrder k) :
    g.toValue.IsGroupAt k where
  id := by
    have shown : g.toValue.item "id" = .ok (.text (Gid.encode g.id)) := rfl
    rw [shown, Value.ok_bind, Gid.decodeValue_text, Gid.decode_encode, h.decoded, h.key]
    rfl
  name := ⟨g.name, rfl, h.name⟩
  merchantCode := ⟨g.merchantCode, rfl, h.merchantCode⟩

/-- A plan in order is shown as one, with the time of the plan that was made. -/
theorem SellingPlan.InOrder.isPlanAt {p q : SellingPlan} {made : List SellingPlan} {k : Key}
    (h : p.InOrder made k) (hq : p.createdAt = q.createdAt) : p.toValue.IsPlanAt k q.createdAt where
  id := by
    have shown : p.toValue.item "id" = .ok (.text (Gid.encode p.id)) := rfl
    rw [shown, Value.ok_bind, Gid.decodeValue_text, Gid.decode_encode, h.decoded, h.key]
    rfl
  category := rfl
  createdAt := by
    rw [← hq]
    rfl

namespace PlanHistory

open Shop

variable {made : List SellingPlan} {s : Shop}

/-- By induction over the history; time and chance touch no plan and no group. -/
theorem inOrder (h : PlanHistory made s) : OffersInOrder made s := by
  induction h with
  | new context supply =>
    have none (kind : String) (k : Key) : (Shop.new context supply).entity? kind k = none := rfl
    exact ⟨fun k e he => (by rw [none] at he; cases he), fun k e he =>
      (by rw [none] at he; cases he)⟩
  | request _ r ih => exact r.run_inOrder ih
  | passage _ supply ih => exact ih.mono ⟨fun _ => rfl, fun _ => rfl⟩

/-- Whatever was requested of plans and groups, and whether or not it succeeded: every group has a
name and the code of its merchant, every plan is in the one category and says when it was made, and
both show the identifier that they are kept under.  A plan is changed in no more than the terms that
are supplied, whatever else is supplied with them. -/
theorem records_inOrder (h : PlanHistory made s) :
    (∀ k e, s.entity? Gid.groupPrefix k = some e → e.toValue.IsGroupAt k) ∧
    (∀ k e, s.entity? Gid.planPrefix k = some e → ∃ plan, lastMade? made k = some plan ∧
      e.toValue.IsPlanAt k plan.createdAt) ∧
    ∀ id options, s.Updates id options := by
  refine ⟨fun k e he => ?_, fun k e he => ?_, updates fun k e he => ?_⟩
  · obtain ⟨g, rfl, hg⟩ := h.inOrder.group k e he
    exact hg.isGroupAt
  · obtain ⟨p, rfl, hp⟩ := h.inOrder.plan k e he
    obtain ⟨q, hq, same⟩ := hp.exists_made
    exact ⟨q, hq, hp.isPlanAt same⟩
  · obtain ⟨p, rfl, -⟩ := h.inOrder.plan k e he
    exact ⟨p, rfl⟩

/-- The identifier of a plan. -/
def samplePlan : String := "gid://shopify/SellingPlan/1"

/-- A shop with a plan that was changed a day after it was made; more than its terms was
supplied. -/
def sampleChanged : Shop :=
  let s := (Act.on (SideRequest.createPlan (.ofFields [("name", "N")]) samplePlan).run
    (.new default (.fresh 0 0 []))).2
  (Act.on (SideRequest.updatePlan samplePlan
    (.ofFields [("name", "M"), ("category", "OTHER"), ("createdAt", "")])).run
    { s with supply := .fresh 86400 0 [] }).2

/-- In the sample the terms change and the rest does not, whatever is supplied. -/
theorem records_inOrder_sample : ∃ made e, PlanHistory made sampleChanged ∧
    sampleChanged.entity? Gid.planPrefix (.text samplePlan) = some e ∧
    e.toValue.IsPlanAt (.text samplePlan) "1970-01-01T00:00:00Z" ∧
    (e.toValue.item "updatedAt" >>= Value.asText).toOption = some "1970-01-02T00:00:00Z" ∧
    (e.toValue.item "name" >>= Value.asText).toOption = some "M" := by
  -- The history of the sample makes the plan once; to change it makes none.
  obtain ⟨made, history, first⟩ : ∃ made, PlanHistory made sampleChanged ∧
      (lastMade? made (.text samplePlan)).map (·.createdAt) = some "1970-01-01T00:00:00Z" :=
    ⟨_, (((PlanHistory.new default (.fresh 0 0 [])).request (.createPlan (.ofFields [("name", "N")])
      samplePlan)).passage (.fresh 86400 0 [])).request
        (.updatePlan samplePlan _), by decide +kernel⟩
  obtain ⟨e, he, updated, named⟩ : ∃ e,
      sampleChanged.entity? Gid.planPrefix (.text samplePlan) = some e ∧
      (e.toValue.item "updatedAt" >>= Value.asText).toOption = some "1970-01-02T00:00:00Z" ∧
      (e.toValue.item "name" >>= Value.asText).toOption = some "M" :=
    ⟨_, rfl, by decide +kernel, by decide +kernel⟩
  obtain ⟨plan, hplan, shown⟩ := (records_inOrder history).2.1 _ e he
  rw [hplan] at first
  exact ⟨made, e, history, he, Option.some.inj first ▸ shown, updated, named⟩

end PlanHistory
end Storefront
