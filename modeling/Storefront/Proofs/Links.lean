import Storefront.Proofs.Dispatch

/-! # What is kept about groups

Groups, their plans and the links of either are kept apart from carts and from the catalogue.
Reading a group shows the plans, products and variants that it is linked to; it may make up products
and variants, but keeps groups, plans and links as they are.

* `on_connect`, `on_disconnect` : what linking does to the links that are kept
* `KeepsGroups` : nothing about groups changes
* `joined_plans` : the plans that are shown of a group -/

namespace Storefront.Shop

open Act (Within)

/-! ### Links -/

/-- The links of an owner under a relation, as they are kept. -/
def members (s : Shop) (owner : String) (relation : Key) : List (Key × Value) :=
  match s.entity? (connectionMark ++ owner) relation with
  | some (.links members) => members
  | _ => []

/-- The shop with other links of an owner under a relation. -/
def withMembers (s : Shop) (owner : String) (relation : Key) (members : List (Key × Value)) :
    Shop :=
  s.withEntity (connectionMark ++ owner) relation (.links members)

section

variable {s : Shop} (h : s.Owned) (owner : String) (id relation : Key)

include h

/-- Links are found as they are kept: no value from outside stands in their place. -/
theorem on_linksOf : Act.on (linksOf owner relation) s = (.ok (s.members owner relation), s) := by
  rw [linksOf, Act.on_bind_of_ok (on_find? s _ _), members]
  cases he : s.entity? (connectionMark ++ owner) relation with
  | none => rfl
  | some e =>
    have fit : e.Fit False (connectionMark ++ owner) := ⟨h _ _ _ he, fun h => h.elim⟩
    obtain ⟨ms, rfl, -⟩ := fit.exists_links
    rfl

/-- To list links gives their keys in order, and changes nothing. -/
theorem on_connections : Act.on (connections owner relation) s =
    (.ok (Assoc.keys (s.members owner relation)), s) := by
  rw [connections, Act.on_bind_of_ok (on_linksOf h owner relation)]
  rfl

/-- To connect puts in the key, at the end if it is new. -/
theorem on_connect : Act.on (connect owner id relation) s =
    (.ok (Assoc.keys (Assoc.put (s.members owner relation) id id.toValue)),
      s.withMembers owner relation (Assoc.put (s.members owner relation) id id.toValue)) := by
  rw [connect, Act.on_bind_of_ok (on_linksOf h owner relation)]
  rfl

/-- To disconnect leaves out the key. -/
theorem on_disconnect : Act.on (disconnect owner id relation) s =
    (.ok (Assoc.keys (Assoc.erase (s.members owner relation) id)),
      s.withMembers owner relation (Assoc.erase (s.members owner relation) id)) := by
  rw [disconnect, Act.on_bind_of_ok (on_linksOf h owner relation)]
  rfl

end

/-- The links that are kept are found again. -/
@[simp] theorem members_withMembers_self (s : Shop) (owner : String) (relation : Key)
    (ms : List (Key × Value)) : (s.withMembers owner relation ms).members owner relation = ms := by
  rw [members, withMembers, entity?_withEntity_self]

/-- Links of another owner, or under another relation, are as before. -/
theorem members_withMembers_of_ne (s : Shop) {owner other : String} {relation relation' : Key}
    (h : other ≠ owner ∨ (relation' == relation) = false) (ms : List (Key × Value)) :
    (s.withMembers owner relation ms).members other relation' = s.members other relation' := by
  rw [members, withMembers, entity?_withEntity_of_ne s, members]
  exact h.imp_left fun hne e => hne ((String.append_right_inj _).1 e)

/-! ### Keeping groups -/

/-- The kinds of what is kept about groups: the groups, their plans and the links of either. -/
def IsGroupKind (kind : String) : Prop :=
  kind = Gid.groupPrefix ∨ kind = Gid.planPrefix ∨ ∃ owner, kind = connectionMark ++ owner

/-- Nothing that is kept about groups changes, and no token is forgotten. -/
structure KeepsGroups (s s' : Shop) : Prop where
  seen : s.seen ⊆ s'.seen
  slots : ∀ kind, IsGroupKind kind → s'.store.slots (.text kind) = s.store.slots (.text kind)

namespace KeepsGroups

/-- `KeepsGroups` can be used with the rules of `Within`. -/
instance : Std.Refl KeepsGroups := ⟨fun _ => ⟨List.Subset.refl _, fun _ _ => rfl⟩⟩

/-- `KeepsGroups` can be used with the rules of `Within`. -/
instance : IsTrans Shop KeepsGroups :=
  ⟨fun _ _ _ h h' => ⟨List.Subset.trans h.seen h'.seen,
    fun kind hk => (h'.slots kind hk).trans (h.slots kind hk)⟩⟩

variable {s s' : Shop}

/-- What is kept about groups is found as before. -/
theorem entity?_eq (h : KeepsGroups s s') {kind : String} (hk : IsGroupKind kind) (id : Key) :
    s'.entity? kind id = s.entity? kind id := by
  rw [entity?, Store.get?, h.slots kind hk, entity?, Store.get?]

/-- Links are as before. -/
theorem members_eq (h : KeepsGroups s s') (owner : String) (relation : Key) :
    s'.members owner relation = s.members owner relation := by
  rw [members, h.entity?_eq (.inr (.inr ⟨owner, rfl⟩)), members]

end KeepsGroups

/-- What is drawn has nothing to do with groups. -/
theorem Draws.keepsGroups {s s' : Shop} (h : Draws s s') : KeepsGroups s s' :=
  ⟨h.grows.keeps.seen, fun _ _ => by rw [h.store_eq]⟩

/-- To keep an entity of a kind that has nothing to do with groups. -/
theorem keep_keepsGroups {kind : String} (hk : ¬ IsGroupKind kind) (id : Key) (e : Entity) :
    Within KeepsGroups (keep kind id e) := by
  intro s
  refine ⟨List.Subset.refl _, fun kind' hk' => Store.slots_set_of_ne _ ?_ _ _⟩
  rw [Key.text_beq_text, beq_eq_false_iff_ne]
  rintro rfl
  exact hk hk'

/-- A kind named by an identifier is none of links, and may be none of groups and plans. -/
theorem not_isGroupKind {name : String} (hg : Gid.kindPrefix name ≠ Gid.groupPrefix)
    (hp : Gid.kindPrefix name ≠ Gid.planPrefix) : ¬ IsGroupKind (Gid.kindPrefix name) := by
  rintro (h | h | ⟨owner, h⟩)
  · exact hg h
  · exact hp h
  · exact mark_append_ne owner name h.symm

/-- An action that only draws keeps groups, plans and links. -/
theorem draws_keepsGroups {α : Type} {x : Act Shop α} (h : Within Draws x) : Within KeepsGroups x :=
  h.mono fun _ _ => Draws.keepsGroups

/-- To look up a variant keeps groups, plans and links. -/
theorem variant_keepsGroups (id : Key) (make : Bool) : Within KeepsGroups (variant id make) := by
  refine .bind (fun _ => Std.Refl.refl _) fun known => ?_
  have found : Within KeepsGroups (find? Gid.variantPrefix id) := fun _ => Std.Refl.refl _
  have aside : ¬ IsGroupKind Gid.variantPrefix := not_isGroupKind (by decide) (by decide)
  split
  · exact .bind (draws_keepsGroups (freshId_draws _)) fun _ =>
      .bind (draws_keepsGroups (makeVariant_draws _ _)) fun _ =>
      .bind (keep_keepsGroups aside _ _) fun _ => found
  · exact found

/-- To look up a product keeps groups, plans and links. -/
theorem product_keepsGroups (id : Key) (make : Bool) : Within KeepsGroups (product id make) := by
  refine .bind (fun _ => Std.Refl.refl _) fun known => ?_
  have found : Within KeepsGroups (find? Gid.productPrefix id) := fun _ => Std.Refl.refl _
  have aside : ¬ IsGroupKind Gid.productPrefix := not_isGroupKind (by decide) (by decide)
  split
  · exact .bind (draws_keepsGroups makeName_draws) fun _ =>
      .bind (draws_keepsGroups (makeVariant_draws _ _)) fun _ =>
      .bind (keep_keepsGroups aside _ _) fun _ => found
  · exact found

/-! ### Reading groups -/

/-- To read links keeps groups, plans and links. -/
theorem linksOf_keepsGroups (owner : String) (relation : Key) :
    Within KeepsGroups (linksOf owner relation) := by
  refine .bind (fun _ => Std.Refl.refl _) fun e => ?_
  split
  · exact .pure _
  · split
    · exact .lift _
    · exact .pure _
  · exact .pure _

/-- To list links keeps groups, plans and links. -/
theorem connections_keepsGroups (owner : String) (relation : Key) :
    Within KeepsGroups (connections owner relation) :=
  .bind (linksOf_keepsGroups _ _) fun _ => .pure _

/-- To look up a plan keeps groups, plans and links. -/
theorem plan?_keepsGroups (id : Value) : Within KeepsGroups (plan? id) :=
  .bind (.lift _) fun _ => .bind (.lift _) fun _ _ => Std.Refl.refl _

/-- Reading a group keeps all groups: it makes up no more than products and variants. -/
theorem joined_keepsGroups (id : Key) : Within KeepsGroups (joined id) := by
  refine .bind (fun _ => Std.Refl.refl _) fun e => ?_
  split
  · exact .throw _
  · refine .bind (.lift _) fun _ => .bind (.lift _) fun _ => ?_
    refine .bind (connections_keepsGroups _ _) fun _ =>
      .bind (.mapM (fun _ => .map _ (plan?_keepsGroups _)) _) fun _ => ?_
    refine .bind (connections_keepsGroups _ _) fun _ =>
      .bind (.mapM (fun _ => .map _ (product_keepsGroups _ _)) _) fun _ => ?_
    exact .bind (connections_keepsGroups _ _) fun _ =>
      .bind (.mapM (fun _ => .map _ (variant_keepsGroups _ _)) _) fun _ => .pure _

/-- To look for a group changes nothing at all. -/
theorem groupId_unchanged (id : Value) : Within Eq (groupId id) := by
  unfold groupId
  refine .bind (.lift _) fun id => ?_
  extract_lets known
  have hknown : ∀ u, Within Eq (known u) := by
    refine fun _ => .bind (.lift _) fun _ => .bind (fun _ => rfl) fun _ => ?_
    split
    · exact .pure _
    · exact .throw _
  split
  · exact .bind (.throw _) hknown
  · exact hknown ()

/-- To read a group keeps groups, plans and links. -/
theorem group_keepsGroups (id : Value) : Within KeepsGroups (group id) :=
  .bind (groupId_unchanged id).of_eq fun _ => joined_keepsGroups _

/-- To list groups keeps groups, plans and links. -/
theorem groups_keepsGroups (start limit : Value) : Within KeepsGroups (groups start limit) :=
  .bind .get fun _ => .bind (.lift _) fun _ => .mapM (fun _ => .bind (.lift _) fun _ =>
    .bind (.lift _) fun _ => .bind (.lift _) fun _ => joined_keepsGroups _) _

/-- A group as it is read, by itself or on a page. -/
inductive Reads (s : Shop) : Value → Prop
  | single {id v : Value} {s' : Shop} (h : Act.on (group id) s = (.ok v, s')) : Reads s v
  | paged {start limit v : Value} {vs : List Value} {s' : Shop}
      (h : Act.on (groups start limit) s = (.ok vs, s')) (hv : v ∈ vs) : Reads s v

/-- Only what is kept as a group is read, under a text. -/
theorem exists_of_joined {key : Key} {s s' : Shop} {v : Value}
    (h : Act.on (joined key) s = (.ok v, s')) :
    ∃ owner, key = .text owner ∧ (s.entity? Gid.groupPrefix (.text owner)).isSome = true := by
  rw [joined, Act.on_bind_of_ok (on_find? s _ _)] at h
  cases he : s.entity? Gid.groupPrefix key with
  | none => rw [he] at h; cases h
  | some e =>
    rw [he] at h
    obtain ⟨_, s₁, -, h⟩ := Act.on_bind_eq_ok.1 h
    obtain ⟨owner, s₂, howner, -⟩ := Act.on_bind_eq_ok.1 h
    cases key <;> cases (Prod.mk.inj howner).1
    exact ⟨owner, rfl, by rw [he]; rfl⟩

/-- What is read of a group is joined for a group that is kept, after no more than what keeps all
groups. -/
theorem Reads.exists_joined {s : Shop} (h : s.Kept False) {v : Value} (hv : s.Reads v) :
    ∃ owner s₁ s₂, (s.entity? Gid.groupPrefix (.text owner)).isSome = true ∧ KeepsGroups s s₁ ∧
      s₁.Kept False ∧ Act.on (joined (.text owner)) s₁ = (.ok v, s₂) := by
  have start : KeepsGroups s s ∧ s.Kept False := ⟨Std.Refl.refl s, h⟩
  obtain ⟨key, s₁, s₂, ⟨keeps, kept⟩, joined⟩ : ∃ key s₁ s₂, (KeepsGroups s s₁ ∧ s₁.Kept False) ∧
      Act.on (joined key) s₁ = (.ok v, s₂) := by
    cases hv with
    | single hv =>
      obtain ⟨key, s₁, hkey, hv⟩ := Act.on_bind_eq_ok.1 hv
      obtain rfl := (groupId_unchanged _).of_on hkey
      exact ⟨key, s, _, start, hv⟩
    -- A page reads its groups one after the other; before each, only what keeps all groups was
    -- done.
    | paged hv hmem =>
      obtain ⟨_, s₁, hs₁, hv⟩ := Act.on_bind_eq_ok.1 hv
      obtain ⟨all, s₂, hs₂, hv⟩ := Act.on_bind_eq_ok.1 hv
      obtain ⟨rfl, rfl⟩ : s = s₁ ∧ s₁ = s₂ := ⟨(Prod.mk.inj hs₁).2, (Prod.mk.inj hs₂).2⟩
      have carries : ∀ key, Within (Act.Carries fun s' => KeepsGroups s s' ∧ s'.Kept False)
          (joined key) := fun key s' hs' =>
        ⟨IsTrans.trans _ _ _ hs'.1 (joined_keepsGroups key s'), (joined_gives key s' hs'.2).1⟩
      obtain ⟨e, s₁, s₂, hs₁, hv⟩ := Within.exists_of_mem_mapM (fun e => .bind (.lift _) fun _ =>
        .bind (.lift _) fun _ => .bind (.lift _) fun key => carries key) hv hmem
      obtain ⟨_, s₃, hs₃, hv⟩ := Act.on_bind_eq_ok.1 hv
      obtain ⟨_, s₄, hs₄, hv⟩ := Act.on_bind_eq_ok.1 hv
      obtain ⟨key, s₅, hs₅, hv⟩ := Act.on_bind_eq_ok.1 hv
      obtain ⟨rfl, rfl, rfl⟩ : s₁ = s₃ ∧ s₃ = s₄ ∧ s₄ = s₅ :=
        ⟨(Prod.mk.inj hs₃).2, (Prod.mk.inj hs₄).2, (Prod.mk.inj hs₅).2⟩
      exact ⟨key, s₁, s₂, hs₁ start, hv⟩
  obtain ⟨owner, rfl, hgroup⟩ := exists_of_joined joined
  rw [keeps.entity?_eq (.inl rfl)] at hgroup
  exact ⟨owner, s₁, s₂, hgroup, keeps, kept, joined⟩

/-- The identifiers of the plans that a group is linked to. -/
def linkedPlans (s : Shop) (owner : String) : List Key :=
  Assoc.keys (s.members owner planRelation)

/-- The plans that are shown of a group are those that it is linked to, with null in place of one
that is not kept. -/
theorem joined_plans {s s' : Shop} (h : s.Owned) {owner : String}
    (hraw : ∀ k ∈ s.linkedPlans owner, ∃ id, k = .text id ∧ Gid.decode id = id) {v : Value}
    (hv : Act.on (joined (.text owner)) s = (.ok v, s')) :
    v.get? "sellingPlans" = some (.list ((s.linkedPlans owner).map fun k =>
      shown (s.entity? Gid.planPrefix k))) := by
  rw [joined, Act.on_bind_of_ok (on_find? s _ _)] at hv
  cases he : s.entity? Gid.groupPrefix (.text owner) with
  | none => rw [he] at hv; cases hv
  | some e =>
    rw [he] at hv
    obtain ⟨fields, s₁, hfields, hv⟩ := Act.on_bind_eq_ok.1 hv
    obtain rfl := (Prod.mk.inj hfields).2
    have plans : Act.on ((s.linkedPlans owner).mapM fun k => shown <$> plan? k.toValue) s =
        (.ok ((s.linkedPlans owner).map fun k => shown (s.entity? Gid.planPrefix k)), s) := by
      refine Act.on_mapM_of_ok fun k hk => ?_
      obtain ⟨id, rfl, hid⟩ := hraw k hk
      rw [Act.on_map, plan?, Key.toValue, Gid.decodeValue_text, hid,
        Act.on_bind_of_ok (Act.on_lift _ s)]
      rfl
    rw [Key.toValue, Value.asText, Act.on_bind_of_ok (Act.on_lift _ s),
      Act.on_bind_of_ok (on_connections h owner planRelation), ← linkedPlans,
      Act.on_bind_of_ok plans] at hv
    -- Products, variants and the two counts are put in after the plans.
    obtain ⟨_, s₂, -, hv⟩ := Act.on_bind_eq_ok.1 hv
    obtain ⟨_, s₃, -, hv⟩ := Act.on_bind_eq_ok.1 hv
    obtain ⟨_, s₄, -, hv⟩ := Act.on_bind_eq_ok.1 hv
    obtain ⟨_, s₅, -, hv⟩ := Act.on_bind_eq_ok.1 hv
    obtain rfl := Except.ok.inj (Prod.mk.inj hv).1
    -- None of the members that are put in later goes in place of the plans.
    have later : ∀ (m : List (Key × Value)) (name : String) (w : Value), "sellingPlans" ≠ name →
        Assoc.get? (Assoc.put m (.text name) w) (.text "sellingPlans") =
          Assoc.get? m (.text "sellingPlans") := by
      intro m name w hne
      exact Assoc.get?_put_of_ne m (by simpa using hne) w
    simp only [Value.put, Value.get?]
    rw [later _ _ _ (by decide), later _ _ _ (by decide), later _ _ _ (by decide),
      later _ _ _ (by decide), Assoc.get?_put_self]

end Storefront.Shop
