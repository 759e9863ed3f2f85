import Mathlib.Data.List.Forall2
import Storefront.Proofs.GroupReads
import Storefront.Proofs.Interrupted

/-! # Groups in the order in which they were made

Groups are kept in the order in which they were made: a new one goes last, one that is made anew
stays in its place, and one that is deleted leaves no gap.  Nothing else that is requested of groups
moves one of them.

* `GroupHistory` : a shop with the groups that were made in it and not deleted since
* `Filed` : exactly these groups are kept, in that order
* `GroupHistory.filed` : the induction over a history -/

namespace Storefront

open Act (Within)

/-- What is deleted is taken out of the slots of its kind. -/
theorem Store.slots_delete_self {κ α : Type} [BEq κ] [EquivBEq κ] {s : Store κ α} {kind id : κ}
    (h : s.has kind id = true) : (s.delete kind id).slots kind = Assoc.erase (s.slots kind) id := by
  simp [delete, h, slots]

namespace Shop

/-- The slot holds the group of an identifier. -/
structure Files (id : String) (slot : Key × Option Entity) : Prop where
  intro ::
  named : NamesGroup id
  holds : ∃ g : SellingPlanGroup, g.id = id ∧ slot = (.text id, some (.group g))

/-- Exactly the groups with these identifiers are kept, in this order. -/
structure Filed (ids : List String) (s : Shop) : Prop where
  distinct : ids.Nodup
  slots : List.Forall₂ Files ids (s.store.slots (.text Gid.groupPrefix))

variable {s s' : Shop} {ids : List String} {id : String}

/-! ### Slots -/

section

variable {slots : List (Key × Option Entity)} (h : List.Forall₂ Files ids slots)

include h

/-- A group that was made is found in the slots. -/
theorem get?_of_mem_files (hid : id ∈ ids) : NamesGroup id ∧
    ∃ g : SellingPlanGroup, g.id = id ∧ Assoc.get? slots (.text id) = some (some (.group g)) := by
  induction h with
  | nil => cases hid
  | @cons first slot ids slots hfirst _ ih =>
    obtain ⟨named, g, hg, rfl⟩ := hfirst
    by_cases same : first = id
    · subst same
      exact ⟨named, g, hg, by simp [Assoc.get?_cons]⟩
    · have other : id ∈ ids := (List.mem_cons.1 hid).resolve_left (Ne.symm same)
      obtain ⟨named, g, hg, found⟩ := ih other
      exact ⟨named, g, hg, by simp [Assoc.get?_cons, same, found]⟩

/-- No other is. -/
theorem get?_of_not_mem_files (hid : id ∉ ids) : Assoc.get? slots (.text id) = none := by
  induction h with
  | nil => rfl
  | @cons first slot ids slots hfirst _ ih =>
    obtain ⟨-, g, -, rfl⟩ := hfirst
    obtain ⟨hne, hid⟩ : id ≠ first ∧ id ∉ ids := by simpa using hid
    simp [Assoc.get?_cons, Ne.symm hne, ih hid]

/-- Every slot holds a group that was made. -/
theorem exists_files_of_mem {slot : Key × Option Entity} (hslot : slot ∈ slots) :
    ∃ id ∈ ids, Files id slot := by
  induction h with
  | nil => cases hslot
  | cons hfirst _ ih =>
    rcases List.mem_cons.1 hslot with rfl | hslot
    · exact ⟨_, .head _, hfirst⟩
    · obtain ⟨id, hid, files⟩ := ih hslot
      exact ⟨id, .tail _ hid, files⟩

/-- A group that is made anew stays in its place. -/
theorem files_put_of_mem (hid : id ∈ ids) {g : SellingPlanGroup} (hg : g.id = id) :
    List.Forall₂ Files ids (Assoc.put slots (.text id) (some (.group g))) := by
  -- The slots are gone through in order, up to the one of the group.
  induction h with
  | nil => cases hid
  | @cons first slot ids slots hfirst rest ih =>
    obtain ⟨named, g', hg', rfl⟩ := hfirst
    by_cases same : first = id
    · subst same
      simp only [Assoc.put, BEq.rfl, if_pos]
      exact .cons ⟨named, g, hg, rfl⟩ rest
    · have other : id ∈ ids := (List.mem_cons.1 hid).resolve_left (Ne.symm same)
      have differs : (Key.text first == Key.text id) = false := by simpa using same
      rw [Assoc.put, differs, if_neg Bool.false_ne_true]
      exact .cons ⟨named, g', hg', rfl⟩ (ih other)

/-- A new group goes last. -/
theorem files_put_of_not_mem (hid : id ∉ ids) (named : NamesGroup id) {g : SellingPlanGroup}
    (hg : g.id = id) :
    List.Forall₂ Files (ids ++ [id]) (Assoc.put slots (.text id) (some (.group g))) := by
  have absent : Assoc.has slots (.text id) = false := by
    rw [Assoc.has, get?_of_not_mem_files h hid]
    rfl
  rw [Assoc.put_of_not_has absent]
  exact List.rel_append h (.cons ⟨named, g, hg, rfl⟩ .nil)

/-- A group that is deleted leaves no gap. -/
theorem files_erase (id : String) :
    List.Forall₂ Files (ids.filter (· ≠ id)) (Assoc.erase slots (.text id)) := by
  induction h with
  | nil => exact .nil
  | @cons first slot ids slots hfirst _ ih =>
    obtain ⟨named, g, hg, rfl⟩ := hfirst
    by_cases same : first = id
    · simpa [same, Assoc.erase] using ih
    · simpa [same, Assoc.erase] using List.Forall₂.cons ⟨named, g, hg, rfl⟩ ih

end

namespace Filed

variable (h : Filed ids s)

include h

/-- A group that was made is kept. -/
theorem exists_group (hid : id ∈ ids) : NamesGroup id ∧
    ∃ g : SellingPlanGroup, g.id = id ∧
      s.entity? Gid.groupPrefix (.text id) = some (.group g) := by
  obtain ⟨named, g, hg, found⟩ := get?_of_mem_files h.slots hid
  refine ⟨named, g, hg, ?_⟩
  rw [entity?, Store.get?, found]
  rfl

/-- There is a group under an identifier if it was made and not deleted. -/
theorem hasGroup_iff : s.HasGroup id ↔ id ∈ ids := by
  constructor
  · intro has
    by_contra hid
    rw [HasGroup, entity?, Store.get?, get?_of_not_mem_files h.slots hid] at has
    cases has
  · intro hid
    obtain ⟨-, g, -, found⟩ := h.exists_group hid
    rw [HasGroup, found]
    rfl

/-- Groups are kept under texts only. -/
theorem exists_of_entity? {key : Key} (found : (s.entity? Gid.groupPrefix key).isSome = true) :
    ∃ id ∈ ids, key = .text id := by
  rw [entity?, Store.get?] at found
  cases slot : Assoc.get? (s.store.slots (.text Gid.groupPrefix)) key with
  | none => simp [slot] at found
  | some e =>
    obtain ⟨k, same, mem⟩ := Assoc.mem_of_get? slot
    obtain ⟨id, hid, -, g, -, hslot⟩ := exists_files_of_mem h.slots mem
    obtain ⟨rfl, -⟩ := Prod.mk.inj hslot
    exact ⟨id, hid, Key.text_beq_iff.1 same⟩

/-- Where the slots of groups are the same, the same groups are kept. -/
theorem of_slots (hs : s'.store.slots (.text Gid.groupPrefix) = s.store.slots
    (.text Gid.groupPrefix)) :
    Filed ids s' := ⟨h.distinct, hs ▸ h.slots⟩

end Filed

/-! ### Making and deleting groups -/

/-- An identifier that is given is decoded, and a fresh one is raw. -/
theorem givenOrFreshId_decoded {given : Value} {kind : String}
    (hkind : (Gid.kindPrefix kind).toList.getLast? = some '/')
    (h : Act.on (givenOrFreshId given (Gid.kindPrefix kind)) s = (.ok id, s')) :
    Gid.decode id = id ∧ id ≠ "" := by
  obtain ⟨raw, hraw, h⟩ := Act.on_lift_bind_eq_ok.1 h
  split at h
  · -- an identifier that is given is decoded already
    rename_i truthy
    cases raw with
    | text t =>
      obtain rfl := Except.ok.inj (Prod.mk.inj h).1
      exact ⟨Gid.decode_of_decodeValue hraw, by simpa using truthy⟩
    | _ => cases (Prod.mk.inj h).1
  · -- one that is drawn is raw, and so decodes to itself
    obtain ⟨s₁, t, -, -, -, rfl⟩ := freshId_ok hkind h
    have raw := Gid.isRaw_kindPrefix_append kind t
    exact ⟨Gid.decode_of_isRaw raw, Gid.ne_empty_of_isRaw raw⟩

/-- The works for a group move no group. -/
theorem groupWorks_worksFor (options : Value) (id : String) :
    Within (WorksFor id) (groupWorks options id) :=
  groupWorks_within (fun v => planWork_worksFor id (.add v))
    (fun _ _ v _ => planWork_worksFor id (.drop v)) (fun v => planWork_worksFor id (.change v))
    (keepsGroups_worksFor (joined_keepsGroups _) id)

/-- A group that is made is kept before anything else is done for it; else no group changes. -/
theorem createGroup_slots (options given : Value) (s : Shop) :
    let s' := (Act.on (createGroup options given) s).2
    s'.store.slots (.text Gid.groupPrefix) = s.store.slots (.text Gid.groupPrefix) ∨
      ∃ g : SellingPlanGroup, NamesGroup g.id ∧ s'.store.slots (.text Gid.groupPrefix) =
          Assoc.put (s.store.slots (.text Gid.groupPrefix)) (.text g.id) (some (.group g)) := by
  intro s'
  have same : ∀ {r : Except Fault String} {s₁ : Shop},
      Act.on (givenOrFreshId given Gid.groupPrefix) s = (r, s₁) →
      s₁.store.slots (.text Gid.groupPrefix) = s.store.slots (.text Gid.groupPrefix) :=
    fun drawn => by rw [((givenOrFreshId_draws _ _).of_on drawn).store_eq]
  have opened := openGroup_cases options given s
  unfold s'
  rw [createGroup_eq, Act.on_bind]
  generalize Act.on (openGroup options given) s = r at opened
  cases opened with
  | refused => exact .inl rfl
  | unnamed drawn => exact .inl (same drawn)
  | unsendable drawn => exact .inl (same drawn)
  | @kept draft id code s₁ _ _ _ drawn sent =>
    obtain ⟨decoded, ne_empty⟩ := givenOrFreshId_decoded (by decide) drawn
    have named : NamesGroup id := ⟨decoded, ne_empty, Gid.eq_encode_of_encodeText sent ▸ sent⟩
    refine .inr ⟨{ draft with id }, named, ?_⟩
    rw [← same drawn]
    exact (groupWorks_worksFor options id _).groups.trans (Store.slots_set_self _ _ _ _)

/-- A group that is named is deleted; where none is, nothing changes. -/
theorem deleteGroup_cases (h : Filed ids s) (named : Value) :
    ((∀ id ∈ ids, Gid.decodeValue named ≠ .ok (.text id)) ∧
      (Act.on (deleteGroup named) s).2 = s) ∨
    ∃ id, Gid.decodeValue named = .ok (.text id) ∧
      (Act.on (deleteGroup named) s).2.store.slots (.text Gid.groupPrefix) =
        Assoc.erase (s.store.slots (.text Gid.groupPrefix)) (.text id) := by
  by_cases known : ∃ id ∈ ids, Gid.decodeValue named = .ok (.text id)
  · obtain ⟨id, hid, hraw⟩ := known
    obtain ⟨⟨-, ne_empty, -⟩, -⟩ := h.exists_group hid
    have has := h.hasGroup_iff.2 hid
    refine .inr ⟨id, hraw, ?_⟩
    rw [deleteGroup, Act.on_bind_of_ok (on_groupId hraw ne_empty has), on_erase]
    exact Store.slots_delete_self has
  · -- No group of these is named, so the identifier is not found.
    refine .inl ⟨fun id hid hraw => known ⟨id, hid, hraw⟩, ?_⟩
    rcases hkey : Act.on (groupId named) s with ⟨f | key, s₁⟩ <;>
      obtain rfl := (groupId_unchanged named).of_on hkey
    · rw [deleteGroup, Act.on_bind_of_error hkey]
    · obtain ⟨hraw, found⟩ := groupId_eq_ok hkey
      obtain ⟨id, hid, rfl⟩ := h.exists_of_entity? found
      obtain ⟨raw, decoded, hkey⟩ := Act.except_bind_eq_ok.1 hraw
      cases raw <;> cases hkey
      exact absurd ⟨id, hid, decoded⟩ known

/-- The links of a group have no place among the groups. -/
theorem relate_slots (relation : Key) (id ids : Value) (s : Shop) :
    (Act.on (relate relation id ids) s).2.store.slots (.text Gid.groupPrefix) =
      s.store.slots (.text Gid.groupPrefix) := by
  rcases hkey : Act.on (groupId id) s with ⟨f | key, s₁⟩ <;>
    obtain rfl := (groupId_unchanged id).of_on hkey
  · -- no group is found, so nothing is related
    rw [relate, Act.on_bind_of_error hkey]
  rw [relate, Act.on_bind_of_ok hkey]
  cases key with
  | text owner =>
    rw [Key.toValue, Value.asText, Act.on_bind_of_ok (Act.on_lift _ s)]
    have works : Within (WorksFor owner) (do
        (← ids.elementsOrNone).forM (attach owner relation)
        joined (.text owner)) :=
      .bind (.lift _) fun _ => .bind (.forM (attach_worksFor owner relation) _) fun _ =>
        keepsGroups_worksFor (joined_keepsGroups _) owner
    exact (works s).groups
  | _ => rfl

end Shop

namespace GroupRequest

open Shop

variable {s : Shop} {ids : List String}

/-- The request is to delete the group of an identifier. -/
def removes : GroupRequest → String → Bool
  | delete named, id => match Gid.decodeValue named with
    | .ok (.text raw) => raw == id
    | _ => false
  | _, _ => false

/-- What a request adds to the groups that are known. -/
def Adds (r : GroupRequest) (s : Shop) (new : Option String) : Prop :=
  ∀ id, new = some id ↔ ¬ s.HasGroup id ∧ (Act.on r.side.run s).2.HasGroup id

/-- A request adds one thing. -/
theorem Adds.unique {r : GroupRequest} {new new' : Option String} (h : r.Adds s new)
    (h' : r.Adds s new') : new = new' :=
  Option.ext fun id => by rw [h id, h' id]

/-- A request after which no new group is known adds none. -/
theorem adds_none (h : Filed ids s) {r : GroupRequest} {ids' : List String}
    (filed : Filed ids' (Act.on r.side.run s).2) (known : ids' ⊆ ids) : r.Adds s none := by
  intro id
  rw [h.hasGroup_iff, filed.hasGroup_iff]
  simp only [reduceCtorEq, false_iff, not_and]
  exact fun new hid => new (known hid)

/-- A request that moves no group adds none. -/
theorem filed_of_slots (h : Filed ids s) {r : GroupRequest} (hr : ∀ id, r.removes id = false)
    (hs : (Act.on r.side.run s).2.store.slots (.text Gid.groupPrefix) =
      s.store.slots (.text Gid.groupPrefix)) :
    ∃ new, r.Adds s new ∧ Filed (ids.filter (!r.removes ·) ++ new.toList)
      (Act.on r.side.run s).2 := by
  have filed := h.of_slots hs
  exact ⟨none, adds_none h filed (List.Subset.refl ids), by simpa [hr] using filed⟩

/-- A group that is made takes the place of the one that had its identifier, or it goes last. -/
theorem exists_adds_create (h : Filed ids s) (options given : Value) :
    ∃ new, (create options given).Adds s new ∧
      Filed (ids.filter (!(create options given).removes ·) ++ new.toList)
        (Act.on (create options given).side.run s).2 := by
  have made := createGroup_slots options given s
  rw [← Act.on_discard_snd] at made
  rcases made with same | ⟨g, named, put⟩
  · exact filed_of_slots h (fun _ => rfl) same
  have kept : ids.filter (!(create options given).removes ·) = ids := by simp [removes]
  rw [kept]
  by_cases known : g.id ∈ ids
  · have filed : Filed ids (Act.on (create options given).side.run s).2 :=
      ⟨h.distinct, by rw [side, SideRequest.run, put]; exact files_put_of_mem h.slots known rfl⟩
    exact ⟨none, adds_none h filed (List.Subset.refl ids), by simpa using filed⟩
  · have filed : Filed (ids ++ [g.id]) (Act.on (create options given).side.run s).2 := by
      refine ⟨List.nodup_append.2 ⟨h.distinct, List.nodup_singleton _, ?_⟩, ?_⟩
      · rintro id hid _ hnew rfl
        exact known (List.mem_singleton.1 hnew ▸ hid)
      · rw [side, SideRequest.run, put]
        exact files_put_of_not_mem h.slots known named rfl
    refine ⟨some g.id, fun id => ?_, filed⟩
    rw [h.hasGroup_iff, filed.hasGroup_iff]
    simp only [Option.some.injEq, List.mem_append, List.mem_singleton]
    constructor
    · rintro rfl
      exact ⟨known, .inr rfl⟩
    · rintro ⟨hnew, hid⟩
      exact (hid.resolve_left hnew).symm

/-- Only a group that is named is deleted, and none is added. -/
theorem exists_adds_delete (h : Filed ids s) (named : Value) :
    ∃ new, (delete named).Adds s new ∧
      Filed (ids.filter (!(delete named).removes ·) ++ new.toList)
        (Act.on (delete named).side.run s).2 := by
  have ran : (Act.on (delete named).side.run s).2 = (Act.on (deleteGroup named) s).2 :=
    Act.on_discard_snd
  suffices filed : Filed (ids.filter (!(delete named).removes ·))
      (Act.on (delete named).side.run s).2 from
    ⟨none, adds_none h filed (List.filter_subset_self ids), by simpa using filed⟩
  rw [ran]
  rcases deleteGroup_cases h named with ⟨unnamed, same⟩ | ⟨gone, hraw, erased⟩
  · have kept : ids.filter (!(delete named).removes ·) = ids := by
      refine List.filter_eq_self.2 fun id hid => ?_
      simp only [removes]
      split
      · rename_i raw hraw
        have other : raw ≠ id := fun same => unnamed id hid (same ▸ hraw)
        simpa using other
      · rfl
    rwa [kept, same]
  · have removed : (!(delete named).removes ·) = fun id => decide (id ≠ gone) := by
      funext id
      simp only [removes, hraw, beq_eq_decide, ← decide_not, ne_comm (a := id), ne_eq]
    rw [removed]
    exact ⟨h.distinct.filter _, by rw [erased]; exact files_erase h.slots gone⟩

/-- A request adds at most one group, which goes last; only its deletion takes one away. -/
theorem exists_adds (h : Filed ids s) (r : GroupRequest) :
    ∃ new, r.Adds s new ∧ Filed (ids.filter (!r.removes ·) ++ new.toList)
      (Act.on r.side.run s).2 := by
  cases r with
  | get id =>
    refine filed_of_slots h (fun _ => rfl) ?_
    exact ((group_keepsGroups id).map _ s).slots _ (.inl rfl)
  | list start limit =>
    refine filed_of_slots h (fun _ => rfl) ?_
    exact ((groups_keepsGroups start limit).map _ s).slots _ (.inl rfl)
  | addProducts id named =>
    refine filed_of_slots h (fun _ => rfl) ?_
    rw [side, SideRequest.run, Act.on_discard_snd]
    exact relate_slots productRelation id named s
  | addVariants id named =>
    refine filed_of_slots h (fun _ => rfl) ?_
    rw [side, SideRequest.run, Act.on_discard_snd]
    exact relate_slots variantRelation id named s
  | create options given => exact exists_adds_create h options given
  | delete named => exact exists_adds_delete h named

end GroupRequest

/-! ### Histories -/

open Shop

/-- The shops that requests about groups lead to, with the groups that were made on the way and not
deleted since, in the order in which they were made. -/
inductive GroupHistory : List String → Shop → Prop
  | new (context : Context) (supply : Supply) : GroupHistory [] (.new context supply)
  | request {made : List String} {s : Shop} (h : GroupHistory made s) (r : GroupRequest)
      {new : Option String} (hnew : r.Adds s new) :
      GroupHistory (made.filter (!r.removes ·) ++ new.toList) (Act.on r.side.run s).2
  /-- Time passes, and chance does what it will. -/
  | passage {made : List String} {s : Shop} (h : GroupHistory made s) (supply : Supply) :
      GroupHistory made { s with supply }

namespace GroupHistory

variable {made : List String} {s : Shop}

/-- What is kept is what was made and not deleted, in that order. -/
theorem filed (h : GroupHistory made s) : Filed made s := by
  induction h with
  | new context supply => exact ⟨List.nodup_nil, .nil⟩
  | request _ r hnew ih =>
    obtain ⟨new, adds, filed⟩ := GroupRequest.exists_adds ih r
    rwa [hnew.unique adds]
  | passage _ supply ih => exact ih.of_slots rfl

/-- Any request goes on with a history. -/
theorem exists_request (h : GroupHistory made s) (r : GroupRequest) :
    ∃ new, r.Adds s new ∧
      GroupHistory (made.filter (!r.removes ·) ++ new.toList) (Act.on r.side.run s).2 := by
  obtain ⟨new, adds, -⟩ := GroupRequest.exists_adds h.filed r
  exact ⟨new, adds, h.request r adds⟩

/-- A history of groups is a run of requests. -/
theorem groupRun (h : GroupHistory made s) : ∃ gone, GroupRun gone s := by
  induction h with
  | new context supply => exact ⟨_, .new context supply⟩
  | request _ r _ ih =>
    obtain ⟨gone, run⟩ := ih
    exact ⟨_, run.request r⟩
  | passage _ supply ih =>
    obtain ⟨gone, run⟩ := ih
    exact ⟨gone, run.passage supply⟩

end GroupHistory

/-! ### Documents about groups -/

/-- Besides what an action does, at most codes for its errors are drawn. -/
theorem Answer.orErrors_redrawn (act : Act Shop Value) (s : Shop) :
    Redrawn (Act.on act s).2 (Act.on (orErrors act) s).2 := by
  rw [orErrors, Act.on_tryCatch, Act.on_map]
  rcases Act.on act s with ⟨fault | v, s'⟩
  · dsimp only [Except.map]
    split
    · rw [Act.on_map]
      exact faultErrors_redraws fault s'
    · exact Std.Refl.refl s'
  · exact Std.Refl.refl s'

/-- The action does no more than a request about groups, but for what it draws. -/
def Act.AsRequested {α : Type} (x : Act Shop α) : Prop :=
  ∀ s, ∃ s₁, (s₁ = s ∨ ∃ r : GroupRequest, s₁ = (Act.on r.side.run s).2) ∧ Redrawn s₁ (Act.on x s).2

namespace Act.AsRequested

variable {α β : Type} {x : Act Shop α}

/-- What does as a request does is as requested. -/
theorem of_request (r : GroupRequest) (h : ∀ s, (Act.on x s).2 = (Act.on r.side.run s).2) :
    Act.AsRequested x :=
  fun s => ⟨_, .inr ⟨r, rfl⟩, by rw [h]; exact Std.Refl.refl _⟩

/-- Reading the arguments changes nothing. -/
theorem lift_bind {e : Except Fault α} {f : α → Act Shop β} (h : ∀ a, Act.AsRequested (f a)) :
    Act.AsRequested (liftM e >>= f) := by
  intro s
  cases e with
  | error fault => exact ⟨s, .inl rfl, Std.Refl.refl s⟩
  | ok a => exact h a s

/-- What follows may draw. -/
theorem bind_redraws {f : α → Act Shop β} (hx : Act.AsRequested x)
    (hf : ∀ a, Within Redrawn (f a)) :
    Act.AsRequested (x >>= f) := by
  intro s
  obtain ⟨s₁, done, drawn⟩ := hx s
  refine ⟨s₁, done, ?_⟩
  exact Act.on_bind_snd (fun _ _ h => by rwa [h] at drawn) fun a s₂ h =>
    IsTrans.trans _ _ _ (by rwa [h] at drawn) (hf a s₂)

/-- Reporting a failure draws. -/
theorem orErrors {act : Act Shop Value} (h : Act.AsRequested act) :
    Act.AsRequested (Answer.orErrors act) := by
  intro s
  obtain ⟨s₁, done, drawn⟩ := h s
  exact ⟨s₁, done, IsTrans.trans _ _ _ drawn (Answer.orErrors_redrawn act s)⟩

end Act.AsRequested

/-- The handlers of the operations on groups do what requests about groups do. -/
theorem Router.ownHandler_asRequested (factory : Option Factory) {o : Operation}
    (ho : o.isOnGroups = true) (document : String) (vars : Value) :
    Act.AsRequested (ownHandler factory o document vars) := by
  -- Both handlers that extend a group read an identifier and a list, and then do one thing.
  have extend : ∀ (name : String) (ask : Value → Value → GroupRequest)
    (act : Value → Value → Act Shop Value)
      (_ : ∀ id ids s, (Act.on (act id ids) s).2 = (Act.on (ask id ids).side.run s).2),
      Act.AsRequested (do
        let id ← Gid.decodeValue (← vars.member "id")
        let ids := (← vars.member name).orElse (.list [])
        return Answer.groupPayload o "sellingPlanGroup" (← Answer.orErrors (act id ids))) :=
    fun name ask act h => .lift_bind fun _ => .lift_bind fun id => .lift_bind fun ids =>
      (Act.AsRequested.of_request (ask id (ids.orElse (.list []))) (h _ _)).orErrors.bind_redraws
        fun _ => .pure _
  cases o with
  | groupGet =>
    refine .lift_bind fun _ => .lift_bind fun id => .bind_redraws
      (Act.AsRequested.of_request (.get id) fun s => Act.on_discard_snd.symm).orErrors
        fun outcome => ?_
    split <;> exact .pure _
  | groupsList =>
    refine .lift_bind fun parsed => .lift_bind fun _ => .lift_bind fun offset =>
      .lift_bind fun first =>
      .bind_redraws (.of_request (.list (.int offset) first) fun s => Act.on_discard_snd.symm)
        fun page => ?_
    split
    · exact .pure _
    · exact .bind (fun s => ⟨_, rfl⟩) fun _ => .pure _
  | groupCreate =>
    exact .lift_bind fun input => .bind_redraws (Act.AsRequested.of_request
      (.create (input.orElse (.record [])) .null) fun s => Act.on_discard_snd.symm).orErrors
      fun _ => .pure _
  | groupAddProducts =>
    exact extend "productIds" .addProducts addProducts fun _ _ _ => Act.on_discard_snd.symm
  | groupAddProductVariants =>
    exact extend "productVariantIds" .addVariants addVariants fun _ _ _ => Act.on_discard_snd.symm
  | groupDelete =>
    refine .lift_bind fun given => .lift_bind fun id => .bind_redraws
      (Act.AsRequested.of_request (.delete id) fun s => ?_).orErrors fun _ => .pure _
    rw [GroupRequest.side, SideRequest.run, Act.on_discard_snd, Act.on_bind]
    rcases Act.on (deleteGroup id) s with ⟨fault | erased, s₁⟩
    · rfl
    · cases erased <;> rfl
  | _ => cases ho

/-- What the router does for a document about groups is what a request about groups does. -/
theorem Router.dispatch_asRequested (factory : Option Factory) {document : Option String}
    {o : Operation} (hd : Document.signature? document = some o.signature)
    (ho : o.isOnGroups = true) (vars : Value) :
    Act.AsRequested ((standard factory).dispatch document vars) := by
  intro s
  cases hp : Document.parse document (vars.orElse (.record [])) with
  | error fault => exact ⟨s, .inl rfl, by rw [on_dispatch_of_error hp]; exact Std.Refl.refl s⟩
  | ok p =>
    obtain ⟨s₁, done, drawn⟩ := ownHandler_asRequested factory ho (document.getD "")
      (vars.orElse (.record [])) s
    exact ⟨s₁, done, IsTrans.trans _ _ _ drawn (on_dispatch_redrawn hp hd
      (handler?_of_ofSignature? o.ofSignature?_signature) s)⟩

/-- A document about groups goes on with a history. -/
theorem GroupHistory.exists_dispatch {made : List String} {s : Shop} (h : GroupHistory made s)
    (factory : Option Factory) {document : Option String} {o : Operation}
    (hd : Document.signature? document = some o.signature) (ho : o.isOnGroups = true)
    (vars : Value) :
    ∃ made', GroupHistory made'
      (Act.on ((Router.standard factory).dispatch document vars) s).2 := by
  obtain ⟨s₁, rfl | ⟨r, rfl⟩, supply, drawn⟩ := Router.dispatch_asRequested factory hd ho vars s
  · exact ⟨made, by rw [drawn]; exact h.passage supply⟩
  · obtain ⟨new, -, run⟩ := h.exists_request r
    exact ⟨_, by rw [drawn]; exact run.passage supply⟩

end Storefront
