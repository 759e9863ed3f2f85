import Storefront.Proofs.GroupOrder

/-! # Groups that are answered are read again

Making a group, attaching to it and reading it all end with the group being joined with what it is
related to.  What is joined once is joined again in the same way, and without any change: the
products and variants that were made up for it are known from then on.  None of this asks for a
shop in order.

* `Repeats` : what is answered once is answered again
* `joined_repeats`, `group_repeats` : joining and reading groups
* `relate_again`, `createGroup_again` : what is answered is what is read next -/

namespace Storefront.Shop

open Act (Within)

variable {s s' s₁ : Shop}

/-! ### Repeating -/

/-- What is answered once is answered again without any change, if no more than products and
variants are made up in between. -/
structure Repeats {α : Type} (x : Act Shop α) : Prop where
  restocks : Within Restocked x
  again : ∀ {s s' s₁ a}, Act.on x s = (.ok a, s') → Restocked s' s₁ → Act.on x s₁ = (.ok a, s₁)

namespace Repeats

variable {α β : Type} {x : Act Shop α}

/-- To return a value repeats. -/
protected theorem pure (a : α) : Repeats (pure a : Act Shop α) where
  restocks := .pure a
  again h _ := by
    obtain ⟨rfl⟩ := Except.ok.inj (Prod.mk.inj h).1
    rfl

/-- A fault is no answer, so there is nothing to repeat. -/
protected theorem throw (fault : Fault) : Repeats (throw fault : Act Shop α) :=
  ⟨.throw fault, nofun⟩

/-- What was read from the arguments is read again. -/
protected theorem lift (e : Except Fault α) : Repeats (liftM e : Act Shop α) where
  restocks := .lift e
  again h _ := by
    obtain ⟨rfl, -⟩ := Prod.mk.inj h
    rfl

/-- Two actions that repeat do so in turn: what the second one drew leaves the first answer. -/
protected theorem bind {f : α → Act Shop β} (hx : Repeats x) (hf : ∀ a, Repeats (f a)) :
    Repeats (x >>= f) where
  restocks := .bind hx.restocks fun a => (hf a).restocks
  again h restocked := by
    obtain ⟨a, s₂, first, second⟩ := Act.on_bind_eq_ok.1 h
    -- What the second part makes up comes after the first.
    have later := IsTrans.trans _ _ _ ((hf a).restocks.of_on second) restocked
    rw [Act.on_bind_of_ok (hx.again first later)]
    exact (hf a).again second restocked

/-- What is made of an answer is made of it again. -/
protected theorem map (g : α → β) (hx : Repeats x) : Repeats (g <$> x) := by
  rw [map_eq_pure_bind]
  exact hx.bind fun _ => .pure _

/-- Actions one after the other, each of which repeats. -/
theorem mapM {f : α → Act Shop β} (hf : ∀ a, Repeats (f a)) (as : List α) :
    Repeats (as.mapM f) := by
  induction as with
  | nil => exact .pure []
  | cons a as ih =>
    rw [List.mapM_cons]
    exact (hf a).bind fun b => ih.bind fun bs => .pure _

/-- What is kept about groups is found again. -/
theorem find? {kind : String} (hk : IsGroupKind kind) (id : Key) : Repeats (find? kind id) where
  restocks _ := Std.Refl.refl _
  again h restocked := by
    rw [on_find?] at h ⊢
    obtain ⟨ha, rfl⟩ := Prod.mk.inj h
    rw [restocked.groups.entity?_eq hk, ha]

/-- What is looked up is known from then on. -/
theorem of_finds {kind : String} {find : Key → Act Shop (Option Entity)} (h : Finds kind find)
    (k : Key) : Repeats (find k) where
  restocks := h.restocks k
  again hfind restocked := by
    obtain ⟨rfl, known⟩ := h.found hfind
    have same := restocked.isSome h known
    rw [← same] at known
    rw [h.again known, same]

end Repeats

/-- The links of an owner are read again as they were. -/
theorem linksOf_repeats (owner : String) (relation : Key) : Repeats (linksOf owner relation) := by
  refine .bind (.find? (.inr (.inr ⟨owner, rfl⟩)) relation) fun e => ?_
  split
  · exact .pure _
  · split
    · exact .lift _
    · exact .pure _
  · exact .pure _

/-- So are the connected keys. -/
theorem connections_repeats (owner : String) (relation : Key) :
    Repeats (connections owner relation) :=
  .bind (linksOf_repeats _ _) fun _ => .pure _

/-- A plan is looked up again as it was. -/
theorem plan?_repeats (id : Value) : Repeats (plan? id) :=
  .bind (.lift _) fun _ => .bind (.lift _) fun k => .find? (.inr (.inl rfl)) k

/-- A group that is joined is joined again in the same way. -/
theorem joined_repeats (id : Key) : Repeats (joined id) := by
  refine .bind (.find? (.inl rfl) id) fun e => ?_
  split
  · exact .throw _
  · refine .bind (.lift _) fun _ => .bind (.lift _) fun _ => ?_
    refine .bind (connections_repeats _ _) fun _ =>
      .bind (.mapM (fun _ => .map _ (plan?_repeats _)) _) fun _ => ?_
    refine .bind (connections_repeats _ _) fun _ =>
      .bind (.mapM (fun _ => .map _ (.of_finds finds_product _)) _) fun _ => ?_
    exact .bind (connections_repeats _ _) fun _ =>
      .bind (.mapM (fun _ => .map _ (.of_finds finds_variant _)) _) fun _ => .pure _

/-- A group that is joined is read by any identifier that names it, without any change. -/
theorem group_again {owner : String} {named shown : Value} (ne_empty : owner ≠ "")
    (hnamed : Gid.decodeValue named = .ok (.text owner))
    (h : Act.on (joined (.text owner)) s = (.ok shown, s')) :
    Act.on (group named) s' = (.ok shown, s') := by
  obtain ⟨_, same, has⟩ := exists_of_joined h
  obtain rfl := Key.text.inj same
  have still : s'.HasGroup owner := by
    have keeps := (joined_keepsGroups (.text owner)).of_on h
    rwa [HasGroup, keeps.entity?_eq (.inl rfl)]
  rw [group, Act.on_bind_of_ok (on_groupId hnamed ne_empty still)]
  exact (joined_repeats _).again h (Std.Refl.refl s')

/-! ### What is answered -/

/-- A group that is joined shows its identifier. -/
theorem get?_id_of_joined {g : SellingPlanGroup} {v : Value}
    (hg : s.entity? Gid.groupPrefix (.text g.id) = some (.group g))
    (h : Act.on (joined (.text g.id)) s = (.ok v, s')) : v.get? "id" =
      some (.text (Gid.encode g.id)) := by
  have fields : (Entity.group g).toValue.toRecord = .ok (_ : List (Key × Value)) := rfl
  rw [joined, Act.on_bind_of_ok (on_find? s _ _), hg] at h
  dsimp only at h
  rw [fields, Act.on_bind_of_ok (Act.on_lift _ s)] at h
  -- Every field added afterwards is another one, so the identifier stays as it was stored.
  obtain ⟨_, s₁, -, h⟩ := Act.on_bind_eq_ok.1 h
  obtain ⟨_, s₂, -, h⟩ := Act.on_bind_eq_ok.1 h
  obtain ⟨_, s₃, -, h⟩ := Act.on_bind_eq_ok.1 h
  obtain ⟨_, s₄, -, h⟩ := Act.on_bind_eq_ok.1 h
  obtain ⟨_, s₅, -, h⟩ := Act.on_bind_eq_ok.1 h
  obtain ⟨_, s₆, -, h⟩ := Act.on_bind_eq_ok.1 h
  obtain ⟨_, s₇, -, h⟩ := Act.on_bind_eq_ok.1 h
  obtain rfl := Except.ok.inj (Prod.mk.inj h).1
  rfl

/-- A group that is made is joined in the end, as it was kept. -/
theorem createGroup_eq_ok {options given shown : Value}
    (h : Act.on (createGroup options given) s = (.ok shown, s')) :
    ∃ (g : SellingPlanGroup) (s₁ : Shop), NamesGroup g.id ∧
      s₁.entity? Gid.groupPrefix (.text g.id) = some (.group g) ∧
      Act.on (joined (.text g.id)) s₁ = (.ok shown, s') := by
  rw [createGroup_eq] at h
  obtain ⟨id, s₂, hopen, works⟩ := Act.on_bind_eq_ok.1 h
  have opened := openGroup_cases options given s
  rw [hopen] at opened
  cases opened with
  | @kept draft _ code s₃ _ _ _ drawn sent =>
    obtain ⟨decoded, ne_empty⟩ := givenOrFreshId_decoded (by decide) drawn
    have named : NamesGroup id := ⟨decoded, ne_empty, Gid.eq_encode_of_encodeText sent ▸ sent⟩
    -- What is done for the group before it is joined moves no group.
    obtain ⟨_, -, works⟩ := Act.on_lift_bind_eq_ok.1 works
    obtain ⟨plans, -, works⟩ := Act.on_lift_bind_eq_ok.1 works
    obtain ⟨_, s₄, adds, works⟩ := Act.on_bind_eq_ok.1 works
    obtain ⟨_, -, works⟩ := Act.on_lift_bind_eq_ok.1 works
    obtain ⟨_, -, works⟩ := Act.on_lift_bind_eq_ok.1 works
    obtain ⟨_, s₅, drops, works⟩ := Act.on_bind_eq_ok.1 works
    obtain ⟨_, -, works⟩ := Act.on_lift_bind_eq_ok.1 works
    obtain ⟨_, -, works⟩ := Act.on_lift_bind_eq_ok.1 works
    obtain ⟨_, s₆, changes, works⟩ := Act.on_bind_eq_ok.1 works
    have moved : WorksFor id _ s₆ := IsTrans.trans _ _ _
      ((Within.forM (fun v => planWork_worksFor id (.add v)) _).of_on adds) <| IsTrans.trans _ _ _
      ((Within.forM (fun v => planWork_worksFor id (.drop v)) _).of_on drops)
      ((Within.forM (fun v => planWork_worksFor id (.change v)) _).of_on changes)
    refine ⟨{ draft with id }, s₆, named, ?_, works⟩
    rw [entity?, Store.get?, moved.groups, ← Store.get?, ← entity?, entity?_withEntity_self]

/-- A group that is attached to is joined in the end. -/
theorem relate_eq_ok {relation : Key} {named ids shown : Value}
    (h : Act.on (relate relation named ids) s = (.ok shown, s')) :
    ∃ owner s₁, owner ≠ "" ∧ Gid.decodeValue named = .ok (.text owner) ∧
      Act.on (joined (.text owner)) s₁ = (.ok shown, s') := by
  obtain ⟨key, s₁, hkey, h⟩ := Act.on_bind_eq_ok.1 h
  obtain ⟨owner, hown, h⟩ := Act.on_lift_bind_eq_ok.1 h
  obtain ⟨_, -, h⟩ := Act.on_lift_bind_eq_ok.1 h
  obtain ⟨_, s₂, -, h⟩ := Act.on_bind_eq_ok.1 h
  cases key <;> cases hown
  exact ⟨owner, s₂, ne_empty_of_groupId hkey, decodeValue_of_groupId hkey, h⟩

/-- What making a group answers is read next, under the identifier that it shows. -/
theorem createGroup_again {options given shown : Value}
    (h : Act.on (createGroup options given) s = (.ok shown, s')) :
    ∃ id, shown.get? "id" = some (.text (Gid.encode id)) ∧
      ∀ named, Gid.decodeValue named = .ok (.text id) →
        Act.on (group named) s' = (.ok shown, s') := by
  obtain ⟨g, s₁, named, hg, joins⟩ := createGroup_eq_ok h
  exact ⟨g.id, get?_id_of_joined hg joins, fun _ hnamed => group_again named.ne_empty hnamed joins⟩

/-- What attaching to a group answers is read next. -/
theorem relate_again {relation : Key} {named ids shown : Value}
    (h : Act.on (relate relation named ids) s = (.ok shown, s')) {named' : Value}
    (same : Gid.decodeValue named' = Gid.decodeValue named) :
    Act.on (group named') s' = (.ok shown, s') := by
  obtain ⟨owner, s₁, ne_empty, hnamed, joins⟩ := relate_eq_ok h
  exact group_again ne_empty (same.trans hnamed) joins

end Storefront.Shop
