import Storefront.Proofs.Noninterference
import Storefront.Proofs.Endless
import Storefront.Proofs.Links

/-! # What a group shows

A group is read together with the plans, products and variants that it is linked to.  Those products
and variants that are not known are made up while it is read, which fails only for lack of
identifiers.  From then on the group shows the same whenever it is read, as long as nothing is kept
about it anew.

* `Restocked` : products and variants were made up, and nothing about groups changed
* `joined_cases`, `joined_again` : reading a group once, and once more
* `groupView` : what is read -/

namespace Storefront.Shop

open Act (Within)

/-! ### What is made up -/

/-- Making a name draws words, and no tokens. -/
theorem makeName_exhausts : Exhausts makeName :=
  (Exhausts.mapM (fun _ => supplied_exhausts fun _ => ⟨rfl, rfl⟩) _).bind fun _ => .pure _

/-- Making the address of a picture draws numbers and a file name. -/
theorem makePictureAddress_exhausts : Exhausts makePictureAddress := by
  have number : ∀ lo hi, Exhausts (supplied (Supply.draw lo hi)) :=
    fun _ _ => supplied_exhausts fun _ => ⟨rfl, rfl⟩
  have file : Exhausts (supplied Supply.fileName) := supplied_exhausts fun _ => ⟨rfl, rfl⟩
  exact (number _ _).bind fun _ => (number _ _).bind fun _ => (number _ _).bind fun _ =>
    (number _ _).bind fun _ => file.bind fun _ => .bind .get fun _ => .pure _

/-- Making a variant takes an identifier for its picture, and one for itself unless it has one. -/
theorem makeVariant_exhausts (product variant : Key) : Exhausts (makeVariant product variant) := by
  unfold makeVariant
  extract_lets made
  have hmade : ∀ id, Exhausts (made id) := fun _ =>
    makeName_exhausts.bind fun _ => (supplied_exhausts fun _ => ⟨rfl, rfl⟩).bind fun _ =>
      (freshId_exhausts (by decide)).bind fun _ => makePictureAddress_exhausts.bind fun _ => .pure _
  split
  · exact .bind (.pure _) hmade
  · exact (Exhausts.map _ (freshId_exhausts (by decide))).bind hmade

/-! ### Products and variants -/

/-- Products and variants were made up: nothing about groups changed, and what was known of the
catalogue is known as it was. -/
structure Restocked (s s' : Shop) : Prop where
  groups : KeepsGroups s s'
  remembers : Remembers s s'
  owned : s.Owned → s'.Owned
  lasts : s.Endless → s'.Endless

/-- To make up nothing restocks. -/
instance : Std.Refl Restocked :=
  ⟨fun s => ⟨Std.Refl.refl s, (Spares.refl s).remembers, id, id⟩⟩

/-- To make up more restocks too. -/
instance : IsTrans Shop Restocked :=
  ⟨fun _ _ _ h h' => ⟨IsTrans.trans _ _ _ h.groups h'.groups, h.remembers.trans h'.remembers,
    h'.owned ∘ h.owned, h'.lasts ∘ h.lasts⟩⟩

/-- Entities of a kind are looked up, and made up where they are not known. -/
structure Finds (kind : String) (find : Key → Act Shop (Option Entity)) : Prop where
  restocks : ∀ k, Within Restocked (find k)
  exhausts : ∀ k, Exhausts (find k)
  found : ∀ {k s e s'}, Act.on (find k) s = (.ok e, s') → s'.entity? kind k = e ∧ e.isSome = true
  again : ∀ {k s}, (s.entity? kind k).isSome = true →
    Act.on (find k) s = (.ok (s.entity? kind k), s)
  stays : ∀ {k s s' e}, Restocked s s' → s.entity? kind k = some e → s'.entity? kind k = some e

/-- What is made up aside from carts forgets nothing that is known. -/
theorem restocked_of {s s' : Shop} (groups : KeepsGroups s s') (steps : SideSteps s s')
    (owned : s.Owned → s'.Owned) (lasts : s.Endless → s'.Endless) : Restocked s s' :=
  ⟨groups, steps.spares.remembers, owned, lasts⟩

/-- Looking a variant up can only run out of identifiers. -/
theorem variant_exhausts (k : Key) : Exhausts (variant k true) := by
  refine .bind (has_exhausts _ _) fun known => ?_
  split
  · exact (freshId_exhausts (by decide)).bind fun _ => (makeVariant_exhausts _ _).bind fun _ =>
      (keep_exhausts _ _ _).bind fun _ => find?_exhausts _ _
  · exact find?_exhausts _ _

/-- So can looking a product up. -/
theorem product_exhausts (k : Key) : Exhausts (product k true) := by
  refine .bind (has_exhausts _ _) fun known => ?_
  split
  · exact makeName_exhausts.bind fun _ => (makeVariant_exhausts _ _).bind fun _ =>
      (keep_exhausts _ _ _).bind fun _ => find?_exhausts _ _
  · exact find?_exhausts _ _

/-- Variants are looked up, and made up where they are not known. -/
theorem finds_variant : Finds Gid.variantPrefix fun k => variant k true where
  restocks k s := restocked_of (variant_keepsGroups k true s) (variant_grows k true s).sideSteps
    (fun h => (variant_gives (fit_false k.toValue) true s ⟨h, fun h => h.elim⟩).1.owned)
    ((variant_exhausts k).lasts s)
  exhausts := variant_exhausts
  found {k s e s'} h := by
    refine ⟨variant_ok h, ?_⟩
    -- The variant was made up and kept just now, or it was there.
    obtain ⟨known, s₀, hknown, h⟩ := Act.on_bind_eq_ok.1 h
    split at h
    · simp only [Act.on_bind_eq_ok, on_keep, on_find?] at h
      obtain ⟨_, _, -, v, _, -, _, _, hkept, h⟩ := h
      obtain rfl := (Prod.mk.inj hkept).2
      obtain rfl := Except.ok.inj (Prod.mk.inj h).1
      simp
    · rename_i present
      obtain ⟨rfl, rfl⟩ : (s.entity? Gid.variantPrefix k).isSome = known ∧ s = s₀ := by
        simpa using hknown
      obtain rfl := Except.ok.inj (Prod.mk.inj h).1
      have kept : (s.entity? Gid.variantPrefix k).isSome = true := by
        simpa [Option.isSome_iff_ne_none] using present
      exact kept
  again {k s} h := by
    rw [variant, Act.on_bind_of_ok (on_has s _ _), h]
    rfl
  stays h he := h.remembers.variants _ _ he

/-- So are products. -/
theorem finds_product : Finds Gid.productPrefix fun k => product k true where
  restocks k s := restocked_of (product_keepsGroups k true s) (product_sideSteps k true s)
    (fun h => (product_gives (fit_false k.toValue) true s ⟨h, fun h => h.elim⟩).1.owned)
    ((product_exhausts k).lasts s)
  exhausts := product_exhausts
  found {k s e s'} h := by
    obtain ⟨known, s₀, hknown, h⟩ := Act.on_bind_eq_ok.1 h
    split at h
    · -- the product was not there: it is made and kept, and then found
      simp only [Act.on_bind_eq_ok, on_keep, on_find?] at h
      obtain ⟨_, _, -, v, _, -, _, _, hkept, h⟩ := h
      obtain rfl := (Prod.mk.inj hkept).2
      obtain ⟨he, rfl⟩ := Prod.mk.inj h
      obtain rfl := Except.ok.inj he
      simp
    · -- it was there, so nothing is made
      rename_i present
      obtain ⟨rfl, rfl⟩ : (s.entity? Gid.productPrefix k).isSome = known ∧ s = s₀ := by
        simpa using hknown
      obtain ⟨he, rfl⟩ := Prod.mk.inj h
      obtain rfl := Except.ok.inj he
      have kept : (s.entity? Gid.productPrefix k).isSome = true := by
        simpa [Option.isSome_iff_ne_none] using present
      exact ⟨rfl, kept⟩
  again {k s} h := by
    rw [product, Act.on_bind_of_ok (on_has s _ _), h]
    rfl
  stays h he := h.remembers.products _ _ he

/-- What is read one after the other shows as it is known in the end, if nothing that is made up
later changes what was read before. -/
theorem mapM_restocked {κ : Type} {P : Shop → Prop} {Known : Shop → κ → Prop}
    {view : Shop → κ → Value} {look : κ → Act Shop Value} {keys : List κ}
    (once : ∀ k ∈ keys, ∀ s, P s → ∃ s', Restocked s s' ∧
      (¬ s.Endless ∧ Act.on (look k) s = (.error .exhausted, s') ∨
        Known s' k ∧ Act.on (look k) s = (.ok (view s' k), s')))
    (kept : ∀ {s s'}, P s → Restocked s s' → P s')
    (stays : ∀ k ∈ keys, ∀ {s s'}, P s → Restocked s s' → Known s k →
      Known s' k ∧ view s' k = view s k) {s : Shop} (hs : P s) : ∃ s', Restocked s s' ∧
    (¬ s.Endless ∧ Act.on (keys.mapM look) s = (.error .exhausted, s') ∨ (∀ k ∈ keys, Known s' k) ∧
      Act.on (keys.mapM look) s = (.ok (keys.map (view s')), s')) := by
  -- The induction is on the keys, for any shop that is left by those before.
  induction keys generalizing s with
  | nil => exact ⟨s, Std.Refl.refl s, .inr ⟨nofun, rfl⟩⟩
  | cons k keys ih =>
    rw [List.mapM_cons]
    obtain ⟨s₁, restocked₁, ⟨finite, exhausted⟩ | ⟨known₁, first⟩⟩ := once k (.head _) s hs
    · exact ⟨s₁, restocked₁, .inl ⟨finite, Act.on_bind_of_error exhausted⟩⟩
    have hs₁ := kept hs restocked₁
    rw [Act.on_bind_of_ok first]
    obtain ⟨s', restocked, ⟨finite, exhausted⟩ | ⟨known, rest⟩⟩ :=
      ih (fun k hk => once k (.tail _ hk)) (fun k hk => stays k (.tail _ hk)) hs₁
    · exact ⟨s', IsTrans.trans _ _ _ restocked₁ restocked,
        .inl ⟨finite ∘ restocked₁.lasts, Act.on_bind_of_error exhausted⟩⟩
    -- What was read first is still known when the rest was read.
    obtain ⟨still, same⟩ := stays k (.head _) hs₁ restocked known₁
    refine ⟨s', IsTrans.trans _ _ _ restocked₁ restocked,
      .inr ⟨List.forall_mem_cons.2 ⟨still, known⟩, ?_⟩⟩
    rw [Act.on_bind_of_ok rest, List.map_cons, same]
    rfl

/-- What is known stays as it is. -/
theorem Restocked.isSome {s s' : Shop} {kind : String} {find : Key → Act Shop (Option Entity)}
    (h : Restocked s s') (hfind : Finds kind find) {k : Key}
    (hk : (s.entity? kind k).isSome = true) : s'.entity? kind k = s.entity? kind k := by
  obtain ⟨e, he⟩ := Option.isSome_iff_exists.1 hk
  rw [he, hfind.stays h he]

namespace Finds

variable {kind : String} {find : Key → Act Shop (Option Entity)} (h : Finds kind find)

include h

/-- What is looked up one after the other is shown as it is known in the end. -/
theorem mapM_cases (keys : List Key) (s : Shop) : ∃ s', Restocked s s' ∧
    (¬ s.Endless ∧ Act.on (keys.mapM fun k => shown <$> find k) s = (.error .exhausted, s') ∨
      (∀ k ∈ keys, (s'.entity? kind k).isSome = true) ∧
      Act.on (keys.mapM fun k => shown <$> find k) s =
        (.ok (keys.map fun k => shown (s'.entity? kind k)), s')) := by
  refine mapM_restocked (P := fun _ => True) (fun k _ s _ => ?_) (fun _ _ => trivial)
    (fun k _ s s' _ restocked known => ?_) trivial
  · -- One lookup runs out of identifiers, or what it finds is known from then on.
    rcases hk : Act.on (find k) s with ⟨fault | e, s₁⟩
    · obtain ⟨finite, rfl⟩ := (h.exhausts k).fails hk
      exact ⟨s₁, (h.restocks k).of_on hk, .inl ⟨finite, by rw [Act.on_map, hk]; rfl⟩⟩
    · obtain ⟨rfl, present⟩ := h.found hk
      exact ⟨s₁, (h.restocks k).of_on hk, .inr ⟨present, by rw [Act.on_map, hk]; rfl⟩⟩
  · have same := restocked.isSome h known
    exact ⟨same ▸ known, congrArg shown same⟩

/-- What is known is looked up without any change. -/
theorem mapM_again {keys : List Key} {s : Shop}
    (known : ∀ k ∈ keys, (s.entity? kind k).isSome = true) :
    Act.on (keys.mapM fun k => shown <$> find k) s =
      (.ok (keys.map fun k => shown (s.entity? kind k)), s) :=
  Act.on_mapM_of_ok fun k hk => by rw [Act.on_map, h.again (known k hk)]; rfl

end Finds

/-! ### Groups -/

/-- What an owner is linked to under a relation, shown as it is known. -/
def shownUnder (s : Shop) (kind owner : String) (relation : Key) : List Value :=
  (Assoc.keys (s.members owner relation)).map fun k => shown (s.entity? kind k)

/-- The group as a record, joined with its plans, products and variants. -/
def joinedTo (g : SellingPlanGroup) (plans products variants : List Value) : Value :=
  ((((g.toValue.put "sellingPlans" (.list plans)).put
    "products" (.list products)).put "productCount" (.int products.length)).put
    "productVariants" (.list variants)).put "productVariantCount" (.int variants.length)

/-- The group with what it is related to, as it is known. -/
def groupView (s : Shop) (g : SellingPlanGroup) : Value :=
  joinedTo g (s.shownUnder Gid.planPrefix g.id planRelation)
    (s.shownUnder Gid.productPrefix g.id productRelation)
    (s.shownUnder Gid.variantPrefix g.id variantRelation)

/-- All products and variants that the owner is linked to are known. -/
structure Stocks (s : Shop) (owner : String) : Prop where
  products : ∀ k ∈ Assoc.keys (s.members owner productRelation),
    (s.entity? Gid.productPrefix k).isSome = true
  variants : ∀ k ∈ Assoc.keys (s.members owner variantRelation),
    (s.entity? Gid.variantPrefix k).isSome = true

variable {s s' : Shop} {g : SellingPlanGroup} {owner : String}

/-- Whatever an owner has in stock stays there. -/
theorem Restocked.stocks (h : Restocked s s') (hs : s.Stocks owner) : s'.Stocks owner where
  products k hk := by
    rw [h.groups.members_eq] at hk
    rw [h.isSome finds_product (hs.products k hk)]
    exact hs.products k hk
  variants k hk := by
    rw [h.groups.members_eq] at hk
    rw [h.isSome finds_variant (hs.variants k hk)]
    exact hs.variants k hk

/-- The same is shown under the same links, if what they lead to is the same. -/
theorem shownUnder_congr {kind : String} {relation : Key}
    (links : s'.members owner relation = s.members owner relation)
    (same : ∀ k ∈ Assoc.keys (s.members owner relation), s'.entity? kind k = s.entity? kind k) :
    s'.shownUnder kind owner relation = s.shownUnder kind owner relation := by
  rw [shownUnder, links, shownUnder]
  exact List.map_congr_left fun k hk => by rw [same k hk]

/-- What a group shows does not change, once all that it is linked to is known. -/
theorem groupView_congr (hs : s.Stocks g.id) (remembers : Remembers s s')
    (links : ∀ relation, s'.members g.id relation = s.members g.id relation)
    (plans : ∀ k ∈ s.linkedPlans g.id, s'.entity? Gid.planPrefix k = s.entity? Gid.planPrefix k) :
    s'.groupView g = s.groupView g := by
  have products := shownUnder_congr (links productRelation) fun k hk =>
    Option.isSome_iff_exists.1 (hs.products k hk) |>.elim fun e he =>
      (remembers.products k e he).trans he.symm
  have variants := shownUnder_congr (links variantRelation) fun k hk =>
    Option.isSome_iff_exists.1 (hs.variants k hk) |>.elim fun e he =>
      (remembers.variants k e he).trans he.symm
  rw [groupView, shownUnder_congr (links planRelation) plans, products, variants, groupView]

/-- What is made up changes nothing that the group shows already. -/
theorem Restocked.groupView_eq (h : Restocked s s') (hs : s.Stocks g.id) :
    s'.groupView g = s.groupView g :=
  groupView_congr hs h.remembers (h.groups.members_eq g.id) fun k _ =>
    h.groups.entity?_eq (.inr (.inl rfl)) k

section

variable {plans : List Value} (h : s.Owned)
  (hg : s.entity? Gid.groupPrefix (.text g.id) = some (.group g))
  (found : Act.on ((s.linkedPlans g.id).mapM fun k => shown <$> plan? k.toValue) s =
    (.ok plans, s))

include h hg found

/-- The plans of a group are shown first; its products and variants follow. -/
theorem on_joined : Act.on (joined (.text g.id)) s = Act.on (do
    let products ← (Assoc.keys (s.members g.id productRelation)).mapM
      fun k => shown <$> product k true
    let variants ← (← connections g.id variantRelation).mapM fun k => shown <$> variant k true
    return joinedTo g plans products variants) s := by
  have fields : (Entity.group g).toValue.toRecord = .ok (_ : List (Key × Value)) := rfl
  rw [joined, Act.on_bind_of_ok (on_find? s _ _), hg]
  dsimp only
  rw [fields, Act.on_bind_of_ok (Act.on_lift _ s), Key.toValue, Value.asText,
    Act.on_bind_of_ok (Act.on_lift _ s), Act.on_bind_of_ok (on_connections h g.id planRelation),
    ← linkedPlans, Act.on_bind_of_ok found,
    Act.on_bind_of_ok (on_connections h g.id productRelation)]
  rfl

/-- A group is read, or there are no identifiers left to make up what it is linked to. -/
theorem joined_cases : ∃ s', Restocked s s' ∧
    (¬ s.Endless ∧ Act.on (joined (.text g.id)) s = (.error .exhausted, s') ∨
      s'.Stocks g.id ∧ Act.on (joined (.text g.id)) s =
        (.ok (joinedTo g plans (s'.shownUnder Gid.productPrefix g.id productRelation)
          (s'.shownUnder Gid.variantPrefix g.id variantRelation)), s')) := by
  rw [on_joined h hg found]
  -- The products are looked up first; identifiers may run out here.
  obtain ⟨s₁, restocked, ⟨finite, exhausted⟩ | ⟨products, first⟩⟩ :=
    finds_product.mapM_cases (Assoc.keys (s.members g.id productRelation)) s
  · exact ⟨s₁, restocked, .inl ⟨finite, Act.on_bind_of_error exhausted⟩⟩
  rw [Act.on_bind_of_ok first,
    Act.on_bind_of_ok (on_connections (restocked.owned h) g.id variantRelation)]
  -- Then the variants.
  obtain ⟨s₂, restocked₂, ⟨finite, exhausted⟩ | ⟨variants, second⟩⟩ :=
    finds_variant.mapM_cases (Assoc.keys (s₁.members g.id variantRelation)) s₁
  · exact ⟨s₂, IsTrans.trans _ _ _ restocked restocked₂,
      .inl ⟨finite ∘ restocked.lasts, Act.on_bind_of_error exhausted⟩⟩
  have all : Restocked s s₂ := IsTrans.trans _ _ _ restocked restocked₂
  -- A product that is known stays as it is while the variants are made up.
  have shown₁ : (Assoc.keys (s.members g.id productRelation)).map
      (fun k => shown (s₁.entity? Gid.productPrefix k)) =
      s₂.shownUnder Gid.productPrefix g.id productRelation := by
    rw [shownUnder, all.groups.members_eq]
    exact List.map_congr_left fun k hk => by
      rw [restocked₂.isSome finds_product (products k hk)]
  have shown₂ : (Assoc.keys (s₁.members g.id variantRelation)).map
      (fun k => shown (s₂.entity? Gid.variantPrefix k)) =
      s₂.shownUnder Gid.variantPrefix g.id variantRelation := by
    rw [shownUnder, restocked₂.groups.members_eq]
  refine ⟨s₂, all, .inr ⟨⟨fun k hk => ?_, fun k hk => ?_⟩, ?_⟩⟩
  · rw [all.groups.members_eq] at hk
    rw [restocked₂.isSome finds_product (products k hk)]
    exact products k hk
  · rw [restocked₂.groups.members_eq] at hk
    exact variants k hk
  · rw [Act.on_bind_of_ok second, shown₁, shown₂]
    rfl

/-- A group is read without any change once all that it is linked to is known. -/
theorem joined_again (hs : s.Stocks g.id) : Act.on (joined (.text g.id)) s =
    (.ok (joinedTo g plans (s.shownUnder Gid.productPrefix g.id productRelation)
      (s.shownUnder Gid.variantPrefix g.id variantRelation)), s) := by
  rw [on_joined h hg found, Act.on_bind_of_ok (finds_product.mapM_again hs.products),
    Act.on_bind_of_ok (on_connections h g.id variantRelation),
    Act.on_bind_of_ok (finds_variant.mapM_again hs.variants)]
  rfl

end

/-- Plans that are linked by their raw identifiers are found under these. -/
theorem on_plans_raw (hraw : ∀ k ∈ s.linkedPlans owner, ∃ id, k = .text id ∧ Gid.decode id = id) :
    Act.on ((s.linkedPlans owner).mapM fun k => shown <$> plan? k.toValue) s =
      (.ok (s.shownUnder Gid.planPrefix owner planRelation), s) := by
  refine Act.on_mapM_of_ok fun k hk => ?_
  obtain ⟨id, rfl, hid⟩ := hraw k hk
  rw [Act.on_map, plan?, Key.toValue, Gid.decodeValue_text, hid,
    Act.on_bind_of_ok (Act.on_lift _ s)]
  rfl

/-- Plans are found, or found not to be there, if they are linked by anything that may stand for an
identifier. -/
theorem exists_on_plans
    (decodes : ∀ k ∈ s.linkedPlans owner, ∃ v, Gid.decodeValue k.toValue = .ok v) :
    ∃ plans, Act.on ((s.linkedPlans owner).mapM fun k => shown <$> plan? k.toValue) s =
      (.ok plans, s) := by
  -- The plans are looked up one after the other, and looking them up changes nothing.
  generalize s.linkedPlans owner = keys at decodes
  induction keys with
  | nil => exact ⟨[], rfl⟩
  | cons k keys ih =>
    obtain ⟨⟨v, hv⟩, rest⟩ := List.forall_mem_cons.1 decodes
    obtain ⟨key, hkey⟩ := Gid.exists_asKey_of_decodeValue hv
    obtain ⟨plans, found⟩ := ih rest
    have first : Act.on (shown <$> plan? k.toValue) s =
        (.ok (shown (s.entity? Gid.planPrefix key)), s) := by
      rw [Act.on_map, plan?, hv, Act.on_bind_of_ok (Act.on_lift _ s), hkey,
        Act.on_bind_of_ok (Act.on_lift _ s)]
      rfl
    refine ⟨shown (s.entity? Gid.planPrefix key) :: plans, ?_⟩
    rw [List.mapM_cons, Act.on_bind_of_ok first, Act.on_bind_of_ok found]
    rfl

end Storefront.Shop
