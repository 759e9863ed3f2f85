import Storefront.Proofs.Links

/-! # Plans that are gone

A plan may be linked to several groups: to the one that it was made for, and to those in whose
making it was changed.  The making of a group may also delete plans, and what is deleted is gone for
all groups, but only the group that is made loses its link.  So a group shows null in place of a
plan exactly if it is still linked to a plan that the making of another group deleted:
`GroupRun.null_shown_iff`. -/

namespace Storefront

open Act (Within Carries)

/-- A request about groups. -/
inductive GroupRequest where
  | create (options id : Value)
  | get (id : Value)
  | addProducts (id ids : Value)
  | addVariants (id ids : Value)
  | delete (id : Value)
  | list (start limit : Value)

namespace GroupRequest

open Shop

/-- The request as one of those aside from carts. -/
def side : GroupRequest → SideRequest
  | create options id => .createGroup options id
  | get id => .getGroup id
  | addProducts id ids => .relate productRelation id ids
  | addVariants id ids => .relate variantRelation id ids
  | delete id => .deleteGroup id
  | list start limit => .listGroups start limit

/-- The identifier of a plan that is to be deleted, given itself or by a record. -/
def droppedKey (plan : Value) : Except Fault Key := do
  (← Gid.decodeValue (← if plan.isRecord then plan.item "id" else pure plan)).asKey

/-- The request is to make a group and to delete a plan. -/
def Drops : GroupRequest → Key → Prop
  | create options _, k => ∃ plans plan, (options.member "sellingPlansToDelete" >>= severalOf) =
      .ok plans ∧ plan ∈ plans ∧ droppedKey plan = .ok k
  | _, _ => False

end GroupRequest

namespace Shop

/-- A plan is kept under an identifier. -/
def HasPlan (s : Shop) (k : Key) : Prop := (s.entity? Gid.planPrefix k).isSome = true

/-- The plans that a request deletes. -/
def Deletes (s : Shop) (r : GroupRequest) (k : Key) : Prop :=
  r.Drops k ∧ s.HasPlan k ∧ ¬ (Act.on r.side.run s).2.HasPlan k

/-! ### What is known of plans -/

/-- Plans and the links to them stay as they are, and no token is forgotten. -/
structure KeepsPlans (s s' : Shop) : Prop where
  /-- No token is forgotten. -/
  seen : s.seen ⊆ s'.seen
  plan : ∀ k, s'.entity? Gid.planPrefix k = s.entity? Gid.planPrefix k
  linked : ∀ owner, s'.linkedPlans owner = s.linkedPlans owner

/-- What is known of plans while a group is made, given the plans that were deleted before, those
that were there at the start, and those that may be deleted.  Plans that were made since are linked
to no other group. -/
structure PlansKnown (gone base drops : Key → Prop) (owner : String) (s : Shop) : Prop where
  /-- Every link is to a plan that is kept, was deleted, or was there at the start. -/
  linked : ∀ o, ∀ k ∈ s.linkedPlans o, s.HasPlan k ∨ gone k ∨ base k
  /-- Of the plans made since the start, only those of the owner are linked. -/
  others : ∀ o, ∀ k ∈ s.linkedPlans o, o = owner ∨ gone k ∨ base k
  /-- A plan of the start is still kept, unless it is one that may be deleted. -/
  stay : ∀ k, base k → s.HasPlan k ∨ drops k
  /-- What was deleted is gone. -/
  away : ∀ k, gone k → ¬ s.HasPlan k
  /-- Every plan has an identifier of its own, with a token that was handed out. -/
  named : ∀ k, s.HasPlan k ∨ gone k ∨ base k → ∃ t ∈ s.seen, k = .text (Gid.planPrefix ++ t)

variable {gone base drops : Key → Prop} {owner : String} {s s' : Shop}

/-- Plans are kept under another kind than links. -/
theorem plan_ne_mark (o : String) : Gid.planPrefix ≠ connectionMark ++ o :=
  (mark_append_ne o "SellingPlan").symm

/-- What keeps groups, plans and links keeps plans and the links to them. -/
theorem KeepsGroups.keepsPlans (h : KeepsGroups s s') : KeepsPlans s s' where
  seen := h.seen
  plan k := h.entity?_eq (.inr (.inl rfl)) k
  linked o := by rw [linkedPlans, h.members_eq, linkedPlans]

/-- `KeepsPlans` can be used with the rules of `Within`. -/
instance : Std.Refl KeepsPlans := ⟨fun _ => ⟨List.Subset.refl _, fun _ => rfl, fun _ => rfl⟩⟩

/-- `KeepsPlans` can be used with the rules of `Within`. -/
instance : IsTrans Shop KeepsPlans :=
  ⟨fun _ _ _ h h' => ⟨List.Subset.trans h.seen h'.seen, fun k => (h'.plan k).trans (h.plan k),
    fun owner => (h'.linked owner).trans (h.linked owner)⟩⟩

/-- What is known stays known while plans and the links to them stay as they are. -/
theorem PlansKnown.mono (h : PlansKnown gone base drops owner s) (hs : KeepsPlans s s') :
    PlansKnown gone base drops owner s' where
  -- Each part speaks of the plans and of the linked keys only, and neither has changed.
  linked o k hk := by
    rw [hs.linked] at hk
    rw [HasPlan, hs.plan]
    exact h.linked o k hk
  others o k hk := h.others o k (hs.linked o ▸ hk)
  stay k hk := by
    rw [HasPlan, hs.plan]
    exact h.stay k hk
  away k hk := by
    rw [HasPlan, hs.plan]
    exact h.away k hk
  named k hk := by
    rw [HasPlan, hs.plan] at hk
    obtain ⟨t, ht, hk⟩ := h.named k hk
    exact ⟨t, hs.seen ht, hk⟩

/-- To keep an entity of another kind keeps plans and the links to them. -/
theorem KeepsPlans.keep {kind : String} (s : Shop) (hp : Gid.planPrefix ≠ kind)
    (hl : ∀ o, connectionMark ++ o ≠ kind) (id : Key) (e : Entity) :
    KeepsPlans s (s.withEntity kind id e) where
  seen := List.Subset.refl _
  plan k := entity?_withEntity_of_ne s (.inl hp) e
  linked o := by
    rw [linkedPlans, members, entity?_withEntity_of_ne s (.inl (hl o)), linkedPlans, members]

/-- To erase an entity of another kind keeps plans and the links to them. -/
theorem KeepsPlans.erase {kind : String} (s : Shop) (hp : Gid.planPrefix ≠ kind)
    (hl : ∀ o, connectionMark ++ o ≠ kind) (id : Key) : KeepsPlans s (s.withoutEntity kind id) where
  seen := List.Subset.refl _
  plan k := entity?_withoutEntity_of_ne s hp id k
  linked o := by
    rw [linkedPlans, members, entity?_withoutEntity_of_ne s (hl o), linkedPlans, members]

/-- Links under another relation are no links to plans. -/
theorem KeepsPlans.link (s : Shop) (o : String) {relation : Key}
    (hr : (planRelation == relation) = false) (ms : List (Key × Value)) :
    KeepsPlans s (s.withMembers o relation ms) where
  seen := List.Subset.refl _
  plan k := entity?_withEntity_of_ne s (.inl (plan_ne_mark o)) _
  linked o' := by rw [linkedPlans, members_withMembers_of_ne s (.inr hr), linkedPlans]

/-! ### Steps of making a group -/

/-- After a plan was kept it is there, and all others are as before. -/
theorem hasPlan_withEntity {k k' : Key} {e : Entity} :
    (s.withEntity Gid.planPrefix k e).HasPlan k' ↔ (k' == k) = true ∨ s.HasPlan k' := by
  rw [HasPlan, HasPlan]
  cases hk : k' == k with
  | false => simp [entity?_withEntity_of_ne s (.inr hk)]
  | true => simp [entity?_congr _ _ hk]

/-- After a plan was erased it is not there, and all others are as before. -/
theorem hasPlan_withoutEntity {k k' : Key} :
    (s.withoutEntity Gid.planPrefix k).HasPlan k' ↔ (k' == k) = false ∧ s.HasPlan k' := by
  rw [HasPlan, HasPlan, entity?, withoutEntity]
  cases hk : k' == k with
  | false => simp [Store.get?_delete_of_ne s.store (.inr hk), entity?]
  | true => simp [Store.get?_congr _ _ hk]

/-- To keep a plan changes no links. -/
theorem linkedPlans_withPlan (k : Key) (e : Entity) (o : String) :
    (s.withEntity Gid.planPrefix k e).linkedPlans o = s.linkedPlans o := by
  rw [linkedPlans, members, entity?_withEntity_of_ne s (.inl (plan_ne_mark o).symm), linkedPlans,
    members]

/-- To erase a plan changes no links. -/
theorem linkedPlans_withoutPlan (k : Key) (o : String) :
    (s.withoutEntity Gid.planPrefix k).linkedPlans o = s.linkedPlans o := by
  rw [linkedPlans, members, entity?_withoutEntity_of_ne s (plan_ne_mark o).symm,
    linkedPlans, members]

/-- To change links makes and erases no plan. -/
theorem hasPlan_withMembers {o : String} {relation k : Key} {ms : List (Key × Value)} :
    (s.withMembers o relation ms).HasPlan k ↔ s.HasPlan k := by
  rw [HasPlan, withMembers, entity?_withEntity_of_ne s (.inl (plan_ne_mark o)), HasPlan]

/-- A link to a plan is among the new links of the owner, or it is another owner's and as before. -/
theorem mem_linkedPlans_withMembers {o : String} {k : Key} {ms : List (Key × Value)}
    (hk : k ∈ (s.withMembers owner planRelation ms).linkedPlans o) :
    (o = owner ∧ k ∈ Assoc.keys ms) ∨ (o ≠ owner ∧ k ∈ s.linkedPlans o) := by
  by_cases ho : o = owner
  · subst ho
    rw [linkedPlans, members_withMembers_self] at hk
    exact .inl ⟨rfl, hk⟩
  · rw [linkedPlans, members_withMembers_of_ne s (.inl ho)] at hk
    exact .inr ⟨ho, hk⟩

/-- A key after one was put in is that one, or was there before. -/
theorem mem_keys_put {ms : List (Key × Value)} {k k' : Key} {v : Value}
    (hk : k' ∈ Assoc.keys (Assoc.put ms k v)) : k' = k ∨ k' ∈ Assoc.keys ms := by
  obtain ⟨p, hp, rfl⟩ := List.mem_map.1 hk
  rcases Assoc.mem_put hp with hp | ⟨-, hp | ⟨b, hp⟩⟩
  · exact .inr (List.mem_map_of_mem hp)
  · exact .inl hp
  · exact .inr (List.mem_map.2 ⟨_, hp, rfl⟩)

section

variable (h : PlansKnown gone base drops owner s)

include h

/-- A plan is made or changed. -/
theorem PlansKnown.keep {t : String} (ht : t ∈ s.seen) (hnew : ¬ gone (.text (Gid.planPrefix ++ t)))
    (e : Entity) : PlansKnown gone base drops owner
      (s.withEntity Gid.planPrefix (.text (Gid.planPrefix ++ t)) e) where
  linked o k hk := by
    rw [linkedPlans_withPlan] at hk
    exact (h.linked o k hk).imp_left fun hplan => hasPlan_withEntity.2 (.inr hplan)
  others o k hk := h.others o k (linkedPlans_withPlan _ e o ▸ hk)
  stay k hk := (h.stay k hk).imp_left fun hk => hasPlan_withEntity.2 (.inr hk)
  away k hk hplan := by
    -- The plan that is kept has a token that was handed out, and is not among those that are gone.
    rcases hasPlan_withEntity.1 hplan with hsame | hplan
    · rw [BEq.comm, Key.text_beq_iff] at hsame
      exact hnew (hsame ▸ hk)
    · exact h.away k hk hplan
  named k hk := by
    rw [hasPlan_withEntity] at hk
    rcases hk with (hsame | hplan) | hk
    · rw [BEq.comm, Key.text_beq_iff] at hsame
      exact ⟨t, ht, hsame⟩
    · exact h.named k (.inl hplan)
    · exact h.named k (.inr hk)

/-- The group that is made is linked to a plan that is there. -/
theorem PlansKnown.link {k : Key} (hplan : s.HasPlan k) :
    PlansKnown gone base drops owner (s.withMembers owner planRelation
      (Assoc.put (s.members owner planRelation) k k.toValue)) where
  -- A key linked afterwards is the new one or was linked before.
  linked o k' hk := by
    rw [hasPlan_withMembers]
    rcases mem_linkedPlans_withMembers hk with ⟨rfl, hk⟩ | ⟨-, hk⟩
    · rcases mem_keys_put hk with rfl | hk
      · exact .inl hplan
      · exact h.linked o k' hk
    · exact h.linked o k' hk
  others o k' hk := by
    rcases mem_linkedPlans_withMembers hk with ⟨rfl, -⟩ | ⟨-, hk⟩
    · exact .inl rfl
    · exact h.others o k' hk
  stay k' hk := (h.stay k' hk).imp_left hasPlan_withMembers.2
  away k' hk := fun hplan => h.away k' hk (hasPlan_withMembers.1 hplan)
  named k' hk := h.named k' (hk.imp_left hasPlan_withMembers.1)

/-- A plan is deleted, and the group that is made loses its link to it. -/
theorem PlansKnown.drop {k : Key} (hk : drops k) :
    PlansKnown gone base drops owner
      ((s.withoutEntity Gid.planPrefix k).withMembers owner planRelation
      (Assoc.erase (s.members owner planRelation) k)) where
  linked o k' hl := by
    rw [hasPlan_withMembers, hasPlan_withoutEntity]
    -- Of the owner's links, the one to the deleted plan is erased.
    rcases mem_linkedPlans_withMembers hl with ⟨rfl, hl⟩ | ⟨ho, hl⟩
    · rw [Assoc.keys_erase, List.mem_filter] at hl
      exact (h.linked o k' hl.1).imp_left fun hplan => ⟨by simpa using hl.2, hplan⟩
    · -- Another group is only linked to plans that were there at the start.
      rw [linkedPlans_withoutPlan] at hl
      exact .inr ((h.others o k' hl).resolve_left ho)
  others o k' hl := by
    rcases mem_linkedPlans_withMembers hl with ⟨rfl, -⟩ | ⟨-, hl⟩
    · exact .inl rfl
    · exact h.others o k' (linkedPlans_withoutPlan k o ▸ hl)
  stay k' hbase := by
    rw [hasPlan_withMembers, hasPlan_withoutEntity]
    -- The plan is another one than the one that is deleted.
    cases hsame : k' == k with
    | false => exact (h.stay k' hbase).imp_left fun hplan => ⟨rfl, hplan⟩
    -- The plan is the one that is deleted: its key is one that may be.
    | true =>
      obtain ⟨t, -, rfl⟩ := h.named k' (.inr (.inr hbase))
      rw [Key.text_beq_iff] at hsame
      exact .inr (hsame ▸ hk)
  away k' hgone := fun hplan =>
    h.away k' hgone (hasPlan_withoutEntity.1 (hasPlan_withMembers.1 hplan)).2
  named k' hk' := h.named k'
    (hk'.imp_left fun hplan => (hasPlan_withoutEntity.1 (hasPlan_withMembers.1 hplan)).2)

end

/-! ### Plans of a group that is made -/

/-- A plan is made under an identifier that was not handed out before, or nothing is kept. -/
theorem createPlan_cases (options : Value) (s : Shop) :
    (∃ f s', Act.on (createPlan options .null) s = (.error f, s') ∧ Draws s s') ∨
      ∃ plan s₁ t, Act.on (createPlan options .null) s = (.ok plan,
          { s₁ with seen := s₁.seen ++ [t] }.withEntity Gid.planPrefix (.text plan.id)
          (.plan plan)) ∧
        Draws s s₁ ∧ t ∉ s₁.seen ∧ plan.id = Gid.planPrefix ++ t := by
  -- Without an id one is drawn; then the id and the terms are read, and only reading them can fail.
  have given : givenOrFreshId .null Gid.planPrefix = freshId Gid.planPrefix := rfl
  rw [createPlan, given]
  rcases hid : Act.on (freshId Gid.planPrefix) s with ⟨f | id, s₂⟩
  · exact .inl ⟨f, s₂, Act.on_bind_of_error hid, (freshId_draws _).of_on hid⟩
  rw [Act.on_bind_of_ok hid]
  have drawn := (freshId_draws _).of_on hid
  obtain ⟨s₁, t, hs₁, ht, rfl, rfl⟩ := freshId_ok (by decide) hid
  -- An id drawn can be encoded unless its token cannot.
  cases henc : Gid.encodeText (Gid.planPrefix ++ t) with
  | error f => exact .inl ⟨f, _, rfl, drawn⟩
  | ok _ =>
    rw [Act.on_bind_of_ok (Act.on_discard_of_ok (Act.on_lift _ _)),
      Act.on_bind_of_ok (on_timestamp _)]
    cases hterms : SellingPlan.termsOf options with
    | error f => exact .inl ⟨f, _, rfl, drawn⟩
    | ok terms =>
      exact .inr ⟨_, s₁, t, rfl, hs₁, ht, rfl⟩

/-- To make a plan brings in nothing from outside. -/
theorem createPlan_kept (options : Value) {s : Shop} (h : Kept False s) :
    Kept False (Act.on (createPlan options .null) s).2 :=
  (createPlan_gives (fit_false options) (fun h => h.elim) s h).1

/-- To add a plan to the group carries what is known: its token is new, so it is none of those that
are gone. -/
theorem addPlan_carries (owner : String) (options : Value) :
    Within (Carries fun s => s.Kept False ∧ PlansKnown gone base drops owner s)
      (addPlan owner options) := by
  rintro s ⟨hkept, h⟩
  have fit := fit_false
  refine ⟨(addPlan_gives owner (fit options) s hkept).1, ?_⟩
  rw [addPlan]
  rcases createPlan_cases options s with ⟨f, s', made, drawn⟩ | ⟨plan, s₁, t, made, drawn, ht, hid⟩
  · -- no plan was made, and drawing an id keeps them all
    rw [Act.on_bind_of_error made]
    exact h.mono drawn.keepsGroups.keepsPlans
  · -- a plan was made under an identifier never seen, so none of the plans that are gone has it
    have kept := createPlan_kept options hkept
    rw [made] at kept
    rw [Act.on_bind_of_ok made, Act.on_discard_snd, on_connect kept.owned]
    have known := h.mono drawn.keepsGroups.keepsPlans
    have fresh : ¬ gone (.text (Gid.planPrefix ++ t)) := by
      intro hgone
      obtain ⟨t', ht', same⟩ := known.named _ (.inr (.inl hgone))
      rw [Key.text.injEq, String.append_right_inj] at same
      exact ht (same ▸ ht')
    have seen : KeepsPlans s₁ { s₁ with seen := s₁.seen ++ [t] } :=
      ⟨List.subset_append_left _ _, fun _ => rfl, fun _ => rfl⟩
    -- First the plan is stored, then it is linked.
    have keep := (known.mono seen).keep (t := t) (by simp) fresh (.plan plan)
    rw [← hid] at keep
    exact keep.link (hasPlan_withEntity.2 (.inl (by simp)))

/-- To delete a plan erases whatever is under its key, and answers whether there was anything. -/
theorem on_deletePlan {id : Value} (hid : Gid.decodeValue id = .ok id) (s : Shop) :
    Act.on (deletePlan id) s = match id.asKey with
      | .error f => (.error f, s)
      | .ok k => (.ok (s.entity? Gid.planPrefix k).isSome, s.withoutEntity Gid.planPrefix k) := by
  rw [deletePlan, hid, Act.on_bind_of_ok (Act.on_lift _ s)]
  cases id.asKey with
  | error f => rfl
  | ok k => rfl

/-- A plan that is named is deleted for all groups, and its link to the group that is made ends. -/
theorem on_dropPlan (h : s.Owned) (owner : String) (plan : Value) :
    Act.on (dropPlan owner plan) s = match GroupRequest.droppedKey plan with
      | .error f => (.error f, s)
      | .ok k => (.ok (), (s.withoutEntity Gid.planPrefix k).withMembers owner planRelation
          (Assoc.erase (s.members owner planRelation) k)) := by
  unfold dropPlan GroupRequest.droppedKey
  extract_lets drop key
  -- `drop` is what follows once the identifier is known, given itself or by a record.
  have dropped : ∀ v, Act.on (drop v) s = match key v with
      | .error f => (.error f, s)
      | .ok k => (.ok (), (s.withoutEntity Gid.planPrefix k).withMembers owner planRelation
          (Assoc.erase (s.members owner planRelation) k)) := by
    intro v
    unfold drop key
    cases hid : Gid.decodeValue v with
    | error f => rfl
    | ok id =>
      rw [Act.on_bind_of_ok (Act.on_lift _ s)]
      have erased := on_deletePlan (Gid.decodeValue_decodeValue hid) s
      show _ = match id.asKey with | .error f => _ | .ok k => _
      cases hk : id.asKey with
      | error f =>
        rw [hk] at erased
        have failed : Act.on (discard (deletePlan id)) s = (.error f, s) := by
          rw [show discard (deletePlan id) = (fun _ => ()) <$> deletePlan id from rfl, Act.on_map,
            erased]
          rfl
        rw [Act.on_bind_of_error failed]
      | ok k =>
        rw [hk] at erased
        have owned : (s.withoutEntity Gid.planPrefix k).Owned := fun _ _ _ found =>
          h _ _ _ (entity?_withoutEntity found)
        have ended := Act.on_discard_of_ok (on_disconnect owned owner k planRelation)
        rw [members, entity?_withoutEntity_of_ne s (plan_ne_mark owner).symm, ← members] at ended
        rw [Act.on_bind_of_ok (Act.on_discard_of_ok erased), Act.on_bind_of_ok (Act.on_lift _ _),
          ended]
  split
  · cases plan.item "id" with
    | error f => rfl
    | ok v => exact dropped v
  · exact dropped plan

/-- To drop a plan carries what is known, if it is one that may be deleted. -/
theorem dropPlan_carries (owner : String) {plan : Value}
    (hdrops : ∀ k, GroupRequest.droppedKey plan = .ok k → drops k) :
    Within (Carries fun s => s.Kept False ∧ PlansKnown gone base drops owner s)
      (dropPlan owner plan) := by
  rintro s ⟨hkept, h⟩
  refine ⟨(dropPlan_gives owner plan s hkept).1, ?_⟩
  rw [on_dropPlan hkept.owned]
  cases hk : GroupRequest.droppedKey plan with
  | error f => exact h
  | ok k => exact h.drop (hdrops k hk)

/-- A plan is changed if it is there, or nothing happens. -/
theorem updatePlan_cases (id options : Value) (s : Shop) :
    ((Act.on (updatePlan id options) s).2 = s ∧
        ∀ e, (Act.on (updatePlan id options) s).1 ≠ .ok (some e)) ∨
      ∃ k e, (Gid.decodeValue id >>= Value.asKey) = .ok k ∧ s.HasPlan k ∧
        Act.on (updatePlan id options) s = (.ok (some e), s.withEntity Gid.planPrefix k e) := by
  -- The update stops at an id that is no key, at a plan that does not exist and at terms that
  -- cannot be read; only after all of them does it write.
  unfold updatePlan
  cases hid : Gid.decodeValue id with
  | error f => exact .inl ⟨rfl, fun _ h => by cases h⟩
  | ok raw =>
    rw [Act.on_bind_of_ok (Act.on_lift _ s)]
    cases hk : raw.asKey with
    | error f => exact .inl ⟨rfl, fun _ h => by cases h⟩
    | ok k =>
      rw [Act.on_bind_of_ok (Act.on_lift _ s), Act.on_bind_of_ok (on_find? s _ _)]
      cases he : s.entity? Gid.planPrefix k with
      | none => exact .inl ⟨rfl, fun _ h => by cases h⟩
      | some e =>
        dsimp only
        split
        · exact .inl ⟨rfl, fun _ h => by cases h⟩
        · rw [Act.on_bind_of_ok (on_timestamp s)]
          cases hc : changedPlan e options s.supply.timestamp with
          | error f => exact .inl ⟨rfl, fun _ h => by cases h⟩
          | ok changed => exact .inr ⟨k, changed, hk, by rw [HasPlan, he]; rfl, rfl⟩

/-- To change a plan of the group carries what is known: it is kept again and linked. -/
theorem changePlan_carries (owner : String) (options : Value) :
    Within (Carries fun s => s.Kept False ∧ PlansKnown gone base drops owner s)
      (changePlan owner options) := by
  rintro s ⟨hkept, h⟩
  refine ⟨(changePlan_gives not_false owner options s hkept).1, ?_⟩
  unfold changePlan
  cases options.member "id" with
  | error f => exact h
  | ok given =>
    rw [Act.on_bind_of_ok (Act.on_lift _ s)]
    cases hid : Gid.decodeValue given with
    | error f => exact h
    | ok id =>
      rw [Act.on_bind_of_ok (Act.on_lift _ s)]
      have kept := (updatePlan_gives not_false id options s hkept).1
      rcases updatePlan_cases id options s with ⟨same, none⟩ | ⟨k, e, hk, hplan, changed⟩
      · -- There is no such plan, and nothing happens.
        rw [Act.on_bind]
        rcases hr : Act.on (updatePlan id options) s with ⟨f | _ | e, s'⟩ <;> rw [hr] at same none
        · exact same ▸ h
        · exact same ▸ h
        · exact absurd rfl (none e)
      · -- The plan is kept again under its own key, and linked to the group.
        rw [changed] at kept
        have key : id.asKey = .ok k := by
          rw [Gid.decodeValue_decodeValue hid] at hk
          exact hk
        obtain ⟨t, ht, rfl⟩ := h.named k (.inl hplan)
        have known := h.keep ht (fun hgone => h.away _ hgone hplan) e
        have linked := Act.on_discard_of_ok
          (on_connect kept.owned owner (.text (Gid.planPrefix ++ t)) planRelation)
        rw [Act.on_bind_of_ok changed, key]
        dsimp only
        rw [Act.on_bind_of_ok (Act.on_lift _ _), linked]
        exact known.link (hasPlan_withEntity.2 (.inr hplan))

/-! ### Requests -/

/-- Of the links to plans, making a group changes only those of the group itself. -/
theorem createGroup_known {options : Value} (given : Value) (hkept : Kept False s)
    (h : ∀ owner, PlansKnown gone base drops owner s)
    (hdrops : ∀ k, (GroupRequest.create options given).Drops k → drops k) :
    ∃ owner, PlansKnown gone base drops owner (Act.on (createGroup options given) s).2 := by
  have fitId : ∀ v, Gid.FitId False v := fun _ h => h.elim
  have draws := givenOrFreshId_draws given Gid.groupPrefix
  have opened := openGroup_cases options given s
  rw [createGroup_eq, Act.on_bind]
  generalize Act.on (openGroup options given) s = r at opened
  cases opened with
  | refused => exact ⟨"", h ""⟩
  | unnamed drawn => exact ⟨"", (h "").mono (draws.of_on drawn).keepsGroups.keepsPlans⟩
  | unsendable drawn => exact ⟨"", (h "").mono (draws.of_on drawn).keepsGroups.keepsPlans⟩
  | @kept draft id code s₁ _ _ _ drawn _ =>
    have kept : (Act.on (givenOrFreshId given Gid.groupPrefix) s).2.Kept False :=
      (givenOrFreshId_gives (by decide) (by decide) (fitId given) s hkept).1
    rw [drawn] at kept
    have known := (h id).mono (draws.of_on drawn).keepsGroups.keepsPlans
    have isGroup : Entity.Fit False Gid.groupPrefix (.group { draft with id }) :=
      ⟨rfl, fun h => h.elim⟩
    have aside : ∀ o, connectionMark ++ o ≠ Gid.groupPrefix := fun o => mark_append_ne o _
    have kept₂ := kept.withEntity (.text id) isGroup
    have known₂ := known.mono (.keep s₁ (by decide) aside (.text id) (.group { draft with id }))
    -- From here on, what is known is carried from step to step.
    have works : Within (Carries fun s => s.Kept False ∧ PlansKnown gone base drops id s)
        (groupWorks options id) :=
      groupWorks_within (addPlan_carries id)
        (fun vs hvs v hv => dropPlan_carries id fun k hk => hdrops k ⟨vs, v, hvs, hv, hk⟩)
        (changePlan_carries id) fun s' ⟨hkept', hknown'⟩ =>
          ⟨(joined_gives _ s' hkept').1, hknown'.mono (joined_keepsGroups _ s').keepsPlans⟩
    exact ⟨id, (works _ ⟨kept₂, known₂⟩).2⟩

/-- An action that keeps groups, plans and links keeps plans and the links to them. -/
theorem keepsGroups_keepsPlans {α : Type} {x : Act Shop α} (h : Within KeepsGroups x) :
    Within KeepsPlans x := h.mono fun _ _ => KeepsGroups.keepsPlans

/-- Attaching products or variants to a group changes no links to plans. -/
theorem relate_keepsPlans {relation : Key} (hr : (planRelation == relation) = false)
    (id ids : Value) :
    Within KeepsPlans (relate relation id ids) := by
  refine .bind (groupId_unchanged id).of_eq fun key => .bind (.lift _) fun owner =>
    .bind (.lift _) fun vs => .bind (.forM (fun v => ?_) _) fun _ =>
    keepsGroups_keepsPlans (joined_keepsGroups _)
  refine .bind (.lift _) fun raw => .bind (.lift _) fun k => .map _ ?_
  exact .bind (keepsGroups_keepsPlans (linksOf_keepsGroups _ _)) fun ms =>
    .bind (fun s => .link s owner hr _) fun _ => .pure _

/-- To delete a group keeps plans and the links to them, those of the group included. -/
theorem deleteGroup_keepsPlans (id : Value) : Within KeepsPlans (deleteGroup id) :=
  .bind (groupId_unchanged id).of_eq fun key s =>
    .erase s (by decide) (fun o => mark_append_ne o _) key

/-- Only making a group changes plans or links to plans. -/
theorem keepsPlans_of_not_create {r : GroupRequest}
    (h : ∀ options id, r ≠ .create options id) : Within KeepsPlans r.side.run := by
  cases r with
  | create options id => exact absurd rfl (h options id)
  | get id => exact .map _ (keepsGroups_keepsPlans (group_keepsGroups id))
  | addProducts id ids => exact .map _ (relate_keepsPlans (by decide) id ids)
  | addVariants id ids => exact .map _ (relate_keepsPlans (by decide) id ids)
  | delete id => exact .map _ (deleteGroup_keepsPlans id)
  | list start limit => exact .map _ (keepsGroups_keepsPlans (groups_keepsGroups start limit))

/-- What is known of plans between requests about groups, given the plans that were deleted. -/
structure PlansSettled (gone : Key → Prop) (s : Shop) : Prop where
  linked : ∀ o, ∀ k ∈ s.linkedPlans o, s.HasPlan k ∨ gone k
  away : ∀ k, gone k → ¬ s.HasPlan k
  named : ∀ k, s.HasPlan k ∨ gone k → ∃ t ∈ s.seen, k = .text (Gid.planPrefix ++ t)

/-- Every link is to a plan that was there at the start or was deleted before. -/
theorem PlansSettled.known (h : PlansSettled gone s) (drops : Key → Prop) (owner : String) :
    PlansKnown gone s.HasPlan drops owner s where
  linked o k hk := (h.linked o k hk).imp_right .inl
  others o k hk := .inr (h.linked o k hk).symm
  stay k hk := .inl hk
  away := h.away
  named k hk := h.named k (by tauto)

/-- What was there at the start and is not there any more was deleted. -/
theorem PlansKnown.settled (h : PlansKnown gone base drops owner s) :
    PlansSettled (fun k => gone k ∨ (drops k ∧ base k ∧ ¬ s.HasPlan k)) s where
  linked o k hk := by
    -- A link is to a plan that is kept, or to one that was kept and is not any more.
    by_cases hplan : s.HasPlan k
    · exact .inl hplan
    · rcases h.linked o k hk with hplan' | hgone | hbase
      · exact .inl hplan'
      · exact .inr (.inl hgone)
      · exact .inr (.inr ⟨(h.stay k hbase).resolve_left hplan, hbase, hplan⟩)
  away k hk := hk.elim (h.away k) fun hk => hk.2.2
  named k hk := h.named k (hk.imp_right fun hk => hk.imp_right fun hk => hk.2.1)

/-- A request adds the plans that it deletes to those that were deleted. -/
theorem PlansSettled.request (h : PlansSettled gone s) (hkept : Kept False s) (r : GroupRequest) :
    PlansSettled (fun k => gone k ∨ s.Deletes r k) (Act.on r.side.run s).2 := by
  have known : ∃ owner, PlansKnown gone s.HasPlan r.Drops owner (Act.on r.side.run s).2 := by
    cases r with
    -- Only a request to make a group changes plans or their links.
    | create options given =>
      have created : ∃ owner, PlansKnown gone s.HasPlan (GroupRequest.create options given).Drops
          owner (Act.on (createGroup options given) s).2 :=
        createGroup_known given hkept (h.known _) fun _ hk => hk
      rwa [GroupRequest.side, SideRequest.run, Act.on_discard_snd]
    | _ => exact ⟨"", (h.known _ "").mono (keepsPlans_of_not_create (by nofun) s)⟩
  obtain ⟨owner, known⟩ := known
  exact known.settled

end Shop

/-! ### Runs -/

open Shop

/-- The shops that requests about groups lead to, with the plans that were deleted on the way. -/
inductive GroupRun : (Key → Prop) → Shop → Prop
  | new (context : Context) (supply : Supply) : GroupRun (fun _ => False) (.new context supply)
  | request {gone : Key → Prop} {s : Shop} (h : GroupRun gone s) (r : GroupRequest) :
      GroupRun (fun k => gone k ∨ s.Deletes r k) (Act.on r.side.run s).2
  /-- Time passes, and chance does what it will. -/
  | passage {gone : Key → Prop} {s : Shop} (h : GroupRun gone s) (supply : Supply) :
      GroupRun gone { s with supply }

namespace GroupRun

variable {gone : Key → Prop} {s : Shop}

/-- Requests about groups bring in nothing from outside. -/
theorem kept (h : GroupRun gone s) : Kept False s := by
  induction h with
  | new context supply => exact ⟨owned_new context supply, fun h => h.elim⟩
  | request _ r ih => exact SideRequest.run_keepsOwned r.side _ ih
  | passage _ supply ih => exact ⟨ih.owned, fun h => h.elim⟩

/-- By induction over the run: plans are settled after each request. -/
theorem settled (h : GroupRun gone s) : PlansSettled gone s := by
  induction h with
  | new context supply =>
    exact ⟨fun _ _ hk => absurd hk List.not_mem_nil, fun _ h => h.elim,
      fun _ hk => hk.elim (fun h => by cases h) False.elim⟩
  | request hrun r ih => exact ih.request hrun.kept r
  | passage _ supply ih => exact ⟨ih.linked, ih.away, ih.named⟩

/-- Null is shown for exactly those that are not kept. -/
theorem null_mem_shown_iff (hs : Kept False s) (ks : List Key) :
    Value.null ∈ ks.map (fun k => shown (s.entity? Gid.planPrefix k)) ↔ ∃ k ∈ ks,
      ¬ s.HasPlan k := by
  rw [List.mem_map]
  refine exists_congr fun k => and_congr_right fun _ => ?_
  rw [HasPlan]
  cases he : s.entity? Gid.planPrefix k with
  | none => simp [shown, Value.ofOption]
  | some e =>
    obtain ⟨p, rfl, -⟩ := (hs.fit he).exists_plan
    simp [shown, Value.ofOption, Entity.toValue, SellingPlan.toValue]

/-- Whatever requests about groups were made: a group that is read, by itself or on a page, shows
the plans that it is linked to, with null in place of exactly those that were deleted while another
group was made. -/
theorem null_shown_iff (h : GroupRun gone s) {v : Value} (hv : s.Reads v) :
    ∃ owner plans, (s.entity? Gid.groupPrefix (.text owner)).isSome = true ∧
      v.get? "sellingPlans" = some (.list plans) ∧ plans.length = (s.linkedPlans owner).length ∧
      (.null ∈ plans ↔ ∃ k ∈ s.linkedPlans owner, gone k) := by
  obtain ⟨owner, s₁, s₂, hgroup, keeps, kept, joined⟩ := hv.exists_joined h.kept
  have settled := h.settled
  have linked : s₁.linkedPlans owner = s.linkedPlans owner := keeps.keepsPlans.linked owner
  have raw : ∀ k ∈ s₁.linkedPlans owner, ∃ id, k = .text id ∧ Gid.decode id = id := by
    intro k hk
    obtain ⟨t, -, rfl⟩ := settled.named k (settled.linked owner k (linked ▸ hk))
    exact ⟨_, rfl, Gid.decode_of_isRaw (Gid.isRaw_kindPrefix_append _ t)⟩
  have plans := joined_plans kept.owned raw joined
  refine ⟨owner, _, hgroup, plans, by rw [List.length_map, linked], ?_⟩
  rw [null_mem_shown_iff kept, linked]
  refine exists_congr fun k => and_congr_right fun hk => ?_
  rw [HasPlan, keeps.keepsPlans.plan, ← HasPlan]
  -- A link is to a plan that is there or that was deleted, and never both.
  exact ⟨(settled.linked owner k hk).resolve_left, settled.away k⟩

/-! ### A plan that is deleted -/

/-- The request to make a group with a plan. -/
def sampleCreate : GroupRequest :=
  .create (.ofFields [("name", "Pre-order"), ("merchantCode", "pre-order"),
    ("sellingPlansToCreate", .ofFields [("name", "Deposit")])]) .null

/-- The request to make another group and to delete the plan of the first. -/
def sampleCleanup : GroupRequest :=
  .create (.ofFields [("name", "Cleanup"), ("merchantCode", "cleanup"),
    ("sellingPlansToDelete", .texts ["gid://shopify/SellingPlan/SellingPlan-1"])]) .null

/-- A shop in which a group with a plan was made. -/
def sampleShop : Shop := (Act.on sampleCreate.side.run (.new default (.fresh 0 0 []))).2

/-- A shop in which the plan of a group was deleted while another group was made. -/
def danglingShop : Shop := (Act.on sampleCleanup.side.run sampleShop).2

/-- The run that leads to `danglingShop`. -/
theorem exists_run : ∃ gone, GroupRun gone danglingShop := by
  rw [danglingShop, sampleShop]
  exact ⟨_, ((GroupRun.new default (.fresh 0 0 [])).request sampleCreate).request sampleCleanup⟩

/-- Whether the plans that are shown of a group are null and no more. -/
def showsOneNull (group : Value) : Bool :=
  match group.get? "sellingPlans" with
  | some (.list [.null]) => true
  | _ => false

/-- The first group is still linked to its plan, which is not kept any more. -/
theorem exists_reads : ∃ v, danglingShop.Reads v ∧
    v.get? "sellingPlans" = some (.list [.null]) := by
  have checked : (Act.on (group (.text "gid://shopify/SellingPlanGroup/SellingPlanGroup-1"))
      danglingShop).1.toOption.any showsOneNull = true := by decide +kernel
  rcases hv : Act.on (group (.text "gid://shopify/SellingPlanGroup/SellingPlanGroup-1"))
    danglingShop with ⟨f | v, s'⟩ <;> rw [hv] at checked
  · cases checked
  · refine ⟨v, .single hv, ?_⟩
    simp only [Except.toOption, Option.any_some, showsOneNull] at checked
    split at checked
    · assumption
    · cases checked

/-- In the sample, the group that shows null is linked to a plan that was deleted. -/
theorem null_shown_iff_sample : ∃ gone v owner, GroupRun gone danglingShop ∧
    danglingShop.Reads v ∧ (danglingShop.entity? Gid.groupPrefix (.text owner)).isSome = true ∧
    ∃ k ∈ danglingShop.linkedPlans owner, gone k := by
  obtain ⟨gone, run⟩ := exists_run
  obtain ⟨v, reads, shows⟩ := exists_reads
  obtain ⟨owner, plans, hgroup, hplans, -, null⟩ := null_shown_iff run reads
  obtain rfl : [Value.null] = plans := by simpa [shows] using hplans
  exact ⟨gone, v, owner, run, reads, hgroup, null.1 (.head _)⟩

/-- A plan that is deleted while another group is made leaves null with the group that it was made
for. -/
theorem deleted_plan_shown_null : ∃ gone v, GroupRun gone danglingShop ∧ danglingShop.Reads v ∧
    v.get? "sellingPlans" = some (.list [.null]) := by
  obtain ⟨gone, run⟩ := exists_run
  obtain ⟨v, reads, shows⟩ := exists_reads
  exact ⟨gone, v, run, reads, shows⟩

end GroupRun
end Storefront
