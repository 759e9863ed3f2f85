import Storefront.Proofs.PlanLinks

/-! # Requests about groups that fail

A request to change groups may be rejected, and then nothing about groups changes.  But it may also
list something that cannot be used, and then it fails in the middle: what was done for the entries
before stays done, and the rest is not tried.

* `StoppedIn` : a list of works is stopped at the first that fails
* `createGroup_stopped`, `relate_stopped` : what failing to make or to extend a group leaves behind
* `LeftBehind` : the same for a document, and `Shop.Reachable.failed_mutation` for all that report
  errors -/

namespace Storefront

open Act (Within FailsWithin Carries)

/-! ### Works for a group -/

/-- What is done for a group while it is made. -/
inductive PlanWork where
  | add (options : Value)
  | drop (plan : Value)
  | change (options : Value)

/-- Does the work for a group. -/
def PlanWork.run (owner : String) : PlanWork → Act Shop Unit
  | add options => Shop.addPlan owner options
  | drop plan => Shop.dropPlan owner plan
  | change options => Shop.changePlan owner options

/-- The works that options list under some names, in order, up to a list that cannot be read. -/
def PlanWork.listed (options : Value) : List (String × (Value → PlanWork)) → List PlanWork
  | [] => []
  | (name, work) :: lists =>
    match options.member name >>= Shop.severalOf with
    | .error _ => []
    | .ok entries => entries.map work ++ listed options lists

/-- The works that options list for a group that is to be made. -/
def PlanWork.all (options : Value) : List PlanWork :=
  listed options [("sellingPlansToCreate", add), ("sellingPlansToDelete", drop),
    ("sellingPlansToUpdate", change)]

namespace Shop

/-- Links a group to an entity that is named. -/
def attach (owner : String) (relation : Key) (named : Value) : Act Shop Unit := do
  discard <| connect owner (← (← Gid.decodeValue named).asKey) relation

variable {s s' : Shop} {owner : String}

/-- The works are done one after the other, up to the first that fails; nothing else about groups
changes. -/
structure StoppedIn {α : Type} (work : α → Act Shop Unit) (works : List α) (s s' : Shop) :
    Prop where
  intro ::
  exists_done : ∃ done rest s₁, works = done ++ rest ∧
    Act.on (done.forM work) s = (.ok (), s₁) ∧ KeepsGroups s₁ s' ∧
    ∀ w, rest.head? = some w → ∃ fault, (Act.on (work w) s₁).1 = .error fault

/-- Besides plans, no more about groups changes than the links of one owner. -/
structure WorksFor (owner : String) (s s' : Shop) : Prop where
  /-- Groups are as they were. -/
  groups : s'.store.slots (.text Gid.groupPrefix) = s.store.slots (.text Gid.groupPrefix)
  links : ∀ other, other ≠ owner → s'.store.slots (.text (connectionMark ++ other)) =
    s.store.slots (.text (connectionMark ++ other))

/-! ### A work that fails changes nothing -/

/-- To add a plan fails while it is made, if at all, and then nothing is kept. -/
theorem addPlan_failed (owner : String) (options : Value) :
    FailsWithin (Kept False) KeepsGroups (addPlan owner options) := by
  intro s h fault s' hfail
  rcases Act.on_bind_eq_error.1 hfail with hmade | ⟨plan, s₁, hmade, hlink⟩
  · rcases createPlan_cases options s with ⟨f, s₁, made, drawn⟩ | ⟨plan, s₁, t, made, -⟩
    · obtain rfl := (Prod.mk.inj (made.symm.trans hmade)).2
      exact drawn.keepsGroups
    · cases made.symm.trans hmade
  · -- Once a plan is made, it is linked.
    have kept := createPlan_kept options h
    rw [hmade] at kept
    cases (Act.on_discard_of_ok (on_connect kept.owned owner _ planRelation)).symm.trans hlink

/-- To drop a plan fails only if its identifier cannot be read. -/
theorem dropPlan_failed (owner : String) (plan : Value) :
    FailsWithin (Kept False) KeepsGroups (dropPlan owner plan) := by
  intro s h fault s' hfail
  rw [on_dropPlan h.owned] at hfail
  cases hkey : GroupRequest.droppedKey plan with
  | error f =>
    rw [hkey] at hfail
    obtain rfl := (Prod.mk.inj hfail).2
    exact Std.Refl.refl s
  | ok k => rw [hkey] at hfail; cases hfail

/-- To change a plan of a group fails only if the plan is not changed. -/
theorem changePlan_failed (owner : String) (options : Value) :
    FailsWithin (Kept False) KeepsGroups (changePlan owner options) := by
  refine .bind_lift fun given _ => .bind_lift fun id hid s h fault s' hfail => ?_
  have kept := (updatePlan_gives not_false id options s h).1
  rcases updatePlan_cases id options s with ⟨same, none⟩ | ⟨k, e, hk, -, changed⟩
  · rcases Act.on_bind_eq_error.1 hfail with failed | ⟨found, s₁, ok, hfail⟩
    · rw [failed] at same
      obtain rfl : s' = s := same
      exact Std.Refl.refl s'
    · rw [ok] at none
      cases found with
      | some e => exact absurd rfl (none e)
      | none => cases hfail
  · -- A plan that was changed is linked.
    rw [changed] at kept
    rw [Gid.decodeValue_decodeValue hid] at hk
    have key : id.asKey = .ok k := hk
    rw [Act.on_bind_of_ok changed] at hfail
    dsimp only at hfail
    rw [key, Act.on_bind_of_ok (Act.on_lift _ _)] at hfail
    cases (Act.on_discard_of_ok (on_connect kept.owned owner k planRelation)).symm.trans hfail

/-- To attach an entity fails only if its identifier cannot be read. -/
theorem attach_failed (owner : String) (relation : Key) (named : Value) :
    FailsWithin (Kept False) KeepsGroups (attach owner relation named) := by
  refine .bind_lift fun raw _ => .bind_lift fun key _ s h fault s' hfail => ?_
  cases (Act.on_discard_of_ok (on_connect h.owned owner key relation)).symm.trans hfail

/-- A work for a group that fails changes nothing about groups. -/
theorem planWork_failed (owner : String) (w : PlanWork) :
    FailsWithin (Kept False) KeepsGroups (w.run owner) := by
  cases w with
  | add options => exact addPlan_failed owner options
  | drop plan => exact dropPlan_failed owner plan
  | change options => exact changePlan_failed owner options

/-! ### What works are for -/

namespace WorksFor

/-- `WorksFor` can be used with the rules of `Within`. -/
instance : Std.Refl (WorksFor owner) := ⟨fun _ => ⟨rfl, fun _ _ => rfl⟩⟩

/-- `WorksFor` can be used with the rules of `Within`. -/
instance : IsTrans Shop (WorksFor owner) :=
  ⟨fun _ _ _ h h' => ⟨h'.groups.trans h.groups, fun o ho => (h'.links o ho).trans (h.links o ho)⟩⟩

end WorksFor

/-- To keep an entity leaves other kinds alone. -/
theorem slots_withEntity_of_ne (s : Shop) {kind kind' : String} (h : kind' ≠ kind) (id : Key)
    (e : Entity) :
    (s.withEntity kind id e).store.slots (.text kind') = s.store.slots (.text kind') :=
  Store.slots_set_of_ne _ (by simpa using h) _ _

/-- To erase an entity leaves other kinds alone. -/
theorem slots_withoutEntity_of_ne (s : Shop) {kind kind' : String} (h : kind' ≠ kind) (id : Key) :
    (s.withoutEntity kind id).store.slots (.text kind') = s.store.slots (.text kind') :=
  Store.slots_delete_of_ne _ (by simpa using h) _

/-- What keeps groups, plans and links is a work for anybody. -/
theorem KeepsGroups.worksFor (h : KeepsGroups s s') (owner : String) : WorksFor owner s s' :=
  ⟨h.slots _ (.inl rfl), fun o _ => h.slots _ (.inr (.inr ⟨o, rfl⟩))⟩

/-- An action that keeps groups, plans and links is a work for anybody. -/
theorem keepsGroups_worksFor {α : Type} {x : Act Shop α} (h : Within KeepsGroups x)
    (owner : String) : Within (WorksFor owner) x := h.mono fun _ _ hs => hs.worksFor owner

/-- A plan is kept. -/
theorem worksFor_withPlan (owner : String) (s : Shop) (id : Key) (e : Entity) :
    WorksFor owner s (s.withEntity Gid.planPrefix id e) :=
  ⟨slots_withEntity_of_ne s (by decide) id e,
    fun o _ => slots_withEntity_of_ne s (plan_ne_mark o).symm id e⟩

/-- A plan is erased. -/
theorem worksFor_withoutPlan (owner : String) (s : Shop) (id : Key) :
    WorksFor owner s (s.withoutEntity Gid.planPrefix id) :=
  ⟨slots_withoutEntity_of_ne s (by decide) id,
    fun o _ => slots_withoutEntity_of_ne s (plan_ne_mark o).symm id⟩

/-- The links of the owner change. -/
theorem worksFor_withMembers (owner : String) (s : Shop) (relation : Key)
    (ms : List (Key × Value)) : WorksFor owner s (s.withMembers owner relation ms) := by
  refine ⟨slots_withEntity_of_ne s (mark_append_ne owner "SellingPlanGroup").symm relation _,
    fun o ho => slots_withEntity_of_ne s (fun same => ho ?_) relation _⟩
  exact (String.append_right_inj _).1 same

/-- To connect an owner is a work for it. -/
theorem connect_worksFor (owner : String) (id relation : Key) :
    Within (WorksFor owner) (connect owner id relation) :=
  .bind (keepsGroups_worksFor (linksOf_keepsGroups _ _) owner) fun _ =>
    .bind (fun s => worksFor_withMembers owner s relation _) fun _ => .pure _

/-- To disconnect an owner is a work for it. -/
theorem disconnect_worksFor (owner : String) (id relation : Key) :
    Within (WorksFor owner) (disconnect owner id relation) :=
  .bind (keepsGroups_worksFor (linksOf_keepsGroups _ _) owner) fun _ =>
    .bind (fun s => worksFor_withMembers owner s relation _) fun _ => .pure _

/-- To attach an entity to a group is a work for it. -/
theorem attach_worksFor (owner : String) (relation : Key) (named : Value) :
    Within (WorksFor owner) (attach owner relation named) :=
  .bind (.lift _) fun _ => .bind (.lift _) fun _ => .map _ (connect_worksFor _ _ _)

/-- Each work changes plans, and the links of its owner. -/
theorem planWork_worksFor (owner : String) (w : PlanWork) :
    Within (WorksFor owner) (w.run owner) := by
  cases w with
  | add options =>
    -- A plan is made and kept, and then linked.
    refine .bind (.bind (keepsGroups_worksFor (draws_keepsGroups (givenOrFreshId_draws _ _)) owner)
      fun id => .bind (.map _ (.lift _)) fun _ => .bind (fun _ => Std.Refl.refl _) fun now =>
      .bind (.lift _) fun terms => .bind (fun s => worksFor_withPlan owner s _ _) fun _ => .pure _)
      fun plan => .map _ (connect_worksFor _ _ _)
  | drop plan =>
    -- A plan is erased, and its link.
    exact dropPlan_within (fun _ => .bind (.lift _) fun _ => .bind (.lift _)
      fun key s => worksFor_withoutPlan owner s key) (disconnect_worksFor owner · planRelation) plan
  | change options =>
    refine .bind (.lift _) fun _ => .bind (.lift _) fun id => .bind (fun s => ?_) fun changed => ?_
    · rcases updatePlan_cases id options s with ⟨same, -⟩ | ⟨k, e, -, -, changed⟩
      · rw [same]
        exact Std.Refl.refl s
      · rw [changed]
        exact worksFor_withPlan owner s k e
    · split
      · exact .bind (.lift _) fun _ => .map _ (connect_worksFor _ _ _)
      · exact .pure _

/-! ### Lists of works -/

/-- A work for a group brings in nothing from outside. -/
theorem planWork_kept (owner : String) (w : PlanWork) :
    Within (Carries (Kept False)) (w.run owner) := by
  cases w with
  | add options => exact KeepsOwned.of_gives (addPlan_gives owner (fit_false options))
  | drop plan => exact KeepsOwned.of_gives (dropPlan_gives owner plan)
  | change options => exact KeepsOwned.of_gives (changePlan_gives not_false owner options)

/-- To attach an entity brings in nothing from outside. -/
theorem attach_kept (owner : String) (relation : Key) (named : Value) :
    Within (Carries (Kept False)) (attach owner relation named) :=
  .bind (.lift _) fun _ => .bind (.lift _) fun key =>
    .map _ (KeepsOwned.of_gives (connect_gives owner (fit_false key.toValue) relation))

section

variable {α : Type} {work : α → Act Shop Unit} (hkept : ∀ w, Within (Carries (Kept False)) (work w))

include hkept

/-- The first work that fails stops the list; the works after it are not tried. -/
theorem StoppedIn.of_forM (hfail : ∀ w, FailsWithin (Kept False) KeepsGroups (work w))
    (h : s.Kept False) {works : List α} {fault : Fault}
    (hworks : Act.on (works.forM work) s = (.error fault, s')) (more : List α) :
    StoppedIn work (works ++ more) s s' := by
  -- What was done before it is the list of works that `exists_done` asks for.
  obtain ⟨done, w, rest, s₁, rfl, hdone, hw⟩ := Act.on_forM_eq_error hworks
  have kept : s₁.Kept False := (Within.forM hkept done).of_on hdone h
  refine ⟨done, w :: rest ++ more, s₁, List.append_assoc .., hdone, hfail w s₁ kept fault s' hw, ?_⟩
  intro w' hw'
  obtain rfl : w = w' := by simpa using hw'
  exact ⟨fault, by rw [hw]⟩

end

/-- An empty list is stopped at once, by what keeps groups, plans and links. -/
theorem StoppedIn.nil {α : Type} (work : α → Act Shop Unit) (h : KeepsGroups s s') :
    StoppedIn work [] s s' :=
  ⟨[], [], s, rfl, rfl, h, nofun⟩

/-- What is drawn afterwards does not matter. -/
theorem StoppedIn.drawn {α : Type} {work : α → Act Shop Unit} {works : List α} {s₂ : Shop}
    (h : StoppedIn work works s s') (hs : Draws s' s₂) : StoppedIn work works s s₂ := by
  obtain ⟨done, rest, s₁, hworks, hdone, keeps, stops⟩ := h
  exact ⟨done, rest, s₁, hworks, hdone, IsTrans.trans _ _ _ keeps hs.keepsGroups, stops⟩

/-- A list that was done altogether comes before one that is stopped. -/
theorem StoppedIn.after {α : Type} {work : α → Act Shop Unit} {works more : List α} {s₁ : Shop}
    (hworks : Act.on (works.forM work) s = (.ok (), s₁)) (h : StoppedIn work more s₁ s') :
    StoppedIn work (works ++ more) s s' := by
  obtain ⟨done, rest, s₂, rfl, hdone, keeps, stops⟩ := h
  refine ⟨works ++ done, rest, s₂, (List.append_assoc ..).symm, ?_, keeps, stops⟩
  show Act.on (forM (works ++ done) work) s = _
  rw [List.forM_append]
  exact (Act.on_bind_of_ok hworks).trans hdone

/-- A list of works for one owner is a work for it, wherever it is stopped. -/
theorem StoppedIn.worksFor {α : Type} {work : α → Act Shop Unit} {works : List α}
    (hwork : ∀ w, Within (WorksFor owner) (work w)) (h : StoppedIn work works s s') :
    WorksFor owner s s' := by
  obtain ⟨done, rest, s₁, -, hdone, keeps, -⟩ := h
  exact IsTrans.trans _ _ _ ((Within.forM hwork done).of_on hdone) (keeps.worksFor owner)

/-! ### Making a group -/

/-- The works of a list that options name come before those of the lists after it. -/
theorem stoppedIn_listed {options : Value} {name : String} {work : Value → PlanWork}
    {lists : List (String × (Value → PlanWork))} {after : Act Shop Value} {fault : Fault}
    (hafter : ∀ s, s.Kept False → Act.on after s = (.error fault, s') →
      StoppedIn (PlanWork.run owner) (PlanWork.listed options lists) s s') (h : s.Kept False)
    (hfail : Act.on (do
      (← severalOf (← options.member name)).forM fun v => (work v).run owner
      after) s = (.error fault, s')) :
    StoppedIn (PlanWork.run owner) (PlanWork.listed options ((name, work) :: lists)) s s' := by
  rw [PlanWork.listed]
  rcases Act.on_lift_bind_eq_error.1 hfail with ⟨hv, rfl⟩ | ⟨v, hv, hfail⟩ <;> rw [hv]
  · -- The list is not among the options.
    exact .nil _ (Std.Refl.refl s)
  rcases Act.on_lift_bind_eq_error.1 hfail with ⟨hvs, rfl⟩ | ⟨vs, hvs, hfail⟩ <;>
    rw [show (Except.ok v >>= severalOf) = _ from hvs]
  · -- The list cannot be read.
    exact .nil _ (Std.Refl.refl s)
  have mapped : vs.forM (fun v => (work v).run owner) = (vs.map work).forM (PlanWork.run owner) :=
    (List.forM_map ..).symm
  rw [mapped] at hfail
  rcases Act.on_bind_eq_error.1 hfail with hworks | ⟨_, s₁, hworks, hfail⟩
  · exact .of_forM (planWork_kept owner) (planWork_failed owner) h hworks _
  · exact .after hworks (hafter s₁ ((Within.forM (planWork_kept owner) _).of_on hworks h) hfail)

/-- The group that options describe, as it is kept under an identifier. -/
structure Drafts (options : Value) (now id : String) (g : SellingPlanGroup) : Prop where
  intro ::
  exists_draft : ∃ draft, groupOf options "" now = .ok draft ∧ draft.name.truthy = true ∧
    draft.merchantCode.truthy = true ∧ g = { draft with id }

/-- Where making a group fails, nothing about groups changes, or the group is kept and its works are
stopped. -/
theorem createGroup_stopped {options : Value} (h : s.Kept False) {fault : Fault}
    (hfail : Act.on (createGroup options .null) s = (.error fault, s')) :
    KeepsGroups s s' ∨ ∃ t g s₀, t ∉ s.seen ∧
      Drafts options s.supply.timestamp (Gid.groupPrefix ++ t) g ∧ KeepsGroups s s₀ ∧
      StoppedIn (PlanWork.run (Gid.groupPrefix ++ t)) (PlanWork.all options)
        (s₀.withEntity Gid.groupPrefix (.text (Gid.groupPrefix ++ t)) (.group g)) s' := by
  rw [createGroup_eq] at hfail
  have opened := openGroup_cases options .null s
  have given : givenOrFreshId .null Gid.groupPrefix = freshId Gid.groupPrefix := rfl
  have draws := freshId_draws Gid.groupPrefix
  rcases Act.on_bind_eq_error.1 hfail with hopen | ⟨id, s₂, hopen, works⟩ <;> rw [hopen] at opened
  · -- The group is not kept, and at most an identifier was drawn.
    cases opened with
    | refused => exact .inl (Std.Refl.refl s)
    | unnamed drawn => exact .inl (draws.of_on (given ▸ drawn)).keepsGroups
    | unsendable drawn => exact .inl (draws.of_on (given ▸ drawn)).keepsGroups
  cases opened with
  | @kept draft _ code s₀ drafted name merchantCode drawn _ =>
    rw [given] at drawn
    have kept := KeepsOwned.of_draws draws s h
    rw [drawn] at kept
    obtain ⟨s₁, t, hs₁, ht, -, rfl⟩ := freshId_ok (by decide) drawn
    have isGroup : Entity.Fit False Gid.groupPrefix
        (.group { draft with id := Gid.groupPrefix ++ t }) := ⟨rfl, fun h => h.elim⟩
    refine .inr ⟨t, _, s₀, fun hseen => ht (hs₁.keepsGroups.seen hseen),
      ⟨draft, drafted, name, merchantCode, rfl⟩, (draws.of_on drawn).keepsGroups, ?_⟩
    -- The three lists come one after the other, and the group is read last.
    refine stoppedIn_listed (fun s₁ h₁ => stoppedIn_listed (fun s₂ h₂ => stoppedIn_listed
      (fun s₃ _ hjoined => ?_) h₂) h₁) (kept.withEntity _ isGroup) works
    exact .nil _ ((joined_keepsGroups _).of_on hjoined)

/-! ### Extending and deleting groups -/

/-- The group that an identifier names, if it names one. -/
theorem groupId_eq_ok {id : Value} {key : Key} (h : Act.on (groupId id) s = (.ok key, s')) :
    (Gid.decodeValue id >>= Value.asKey) = .ok key ∧
      (s.entity? Gid.groupPrefix key).isSome = true := by
  unfold groupId at h
  obtain ⟨raw, s₁, hraw, h⟩ := Act.on_bind_eq_ok.1 h
  obtain rfl := (Prod.mk.inj hraw).2
  extract_lets known at h
  split at h
  · -- no identifier at all
    cases h
  · -- an identifier: its key is known to the store, or the group is not
    unfold known at h
    obtain ⟨k, s₂, hk, h⟩ := Act.on_bind_eq_ok.1 h
    obtain rfl := (Prod.mk.inj hk).2
    rw [Act.on_bind_of_ok (on_has _ _ _)] at h
    split at h
    · rename_i found
      obtain rfl := Except.ok.inj (Prod.mk.inj h).1
      have decoded : Gid.decodeValue id = .ok raw := (Prod.mk.inj hraw).1
      rw [decoded]
      exact ⟨(Prod.mk.inj hk).1, found⟩
    · cases h

/-- The identifier that a group is found by names its owner. -/
theorem decodeValue_of_groupId {id : Value} (h : Act.on (groupId id) s = (.ok (.text owner), s')) :
    Gid.decodeValue id = .ok (.text owner) := by
  obtain ⟨raw, hraw, hkey⟩ := Act.except_bind_eq_ok.1 (groupId_eq_ok h).1
  cases raw <;> cases hkey
  exact hraw

/-- A group that is found has an owner, since an empty identifier finds none. -/
theorem ne_empty_of_groupId {id : Value} (h : Act.on (groupId id) s = (.ok (.text owner), s')) :
    owner ≠ "" := by
  rintro rfl
  have none : Act.on (groupId id) s = (.error .unknownId, s) := by
    rw [groupId, decodeValue_of_groupId h]
    rfl
  cases h.symm.trans none

/-- Where extending a group fails, nothing about groups changes, or the group is known and the links
that are made are stopped. -/
theorem relate_stopped {relation : Key} {id ids : Value} (h : s.Kept False) {fault : Fault}
    (hfail : Act.on (relate relation id ids) s = (.error fault, s')) :
    KeepsGroups s s' ∨ ∃ owner vs, (Gid.decodeValue id >>= Value.asKey) = .ok (.text owner) ∧
      (s.entity? Gid.groupPrefix (.text owner)).isSome = true ∧ ids.elementsOrNone = .ok vs ∧
      StoppedIn (attach owner relation) vs s s' := by
  rcases Act.on_bind_eq_error.1 hfail with hkey | ⟨key, s₁, hkey, hfail⟩ <;>
    obtain rfl := (groupId_unchanged id).of_on hkey
  · -- The group is not found.
    exact .inl (Std.Refl.refl s)
  obtain ⟨named, known⟩ := groupId_eq_ok hkey
  rcases Act.on_lift_bind_eq_error.1 hfail with ⟨-, rfl⟩ | ⟨owner, howner, hfail⟩
  · exact .inl (Std.Refl.refl s)
  rcases Act.on_lift_bind_eq_error.1 hfail with ⟨-, rfl⟩ | ⟨vs, hvs, hfail⟩
  · exact .inl (Std.Refl.refl s)
  obtain rfl : key = .text owner := by cases key <;> cases howner; rfl
  refine .inr ⟨owner, vs, named, known, hvs, ?_⟩
  rw [← List.append_nil vs]
  rcases Act.on_bind_eq_error.1 hfail with hlinks | ⟨_, s₁, hlinks, hjoined⟩
  · -- A link could not be made.
    exact .of_forM (attach_kept owner relation) (attach_failed owner relation) h hlinks []
  · -- All links were made, and the group could not be read.
    exact .after hlinks (.nil _ ((joined_keepsGroups _).of_on hjoined))

/-- Where deleting a group fails, nothing changes. -/
theorem deleteGroup_failed {id : Value} {fault : Fault}
    (hfail : Act.on (deleteGroup id) s = (.error fault, s')) : s = s' := by
  rcases Act.on_bind_eq_error.1 hfail with hkey | ⟨key, s₁, -, herased⟩
  · exact (groupId_unchanged id).of_on hkey
  · cases herased

end Shop
end Storefront
