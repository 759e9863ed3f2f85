import Storefront.Proofs.Step

/-! # What the catalogue, the plans and the groups do to a shop

Drawing a number, a word or a token changes nothing that is kept; looking up a variant lets the shop
grow; all other operations aside from carts are made of side steps.  None of these statements asks
for a shop in order, or for an operation that succeeds.

Making a group is the longest of these operations.  `createGroup_eq` takes it apart, and
`openGroup_cases` and `groupWorks_within` say of each half all that it can do. -/

namespace Storefront.Shop

open Act (Within)
open Relation (ReflTransGen)

/-! ### Draws -/

/-- To draw keeps and erases nothing. -/
theorem Draws.store_eq {s s' : Shop} (h : Draws s s') : s'.store = s.store := by
  induction h with
  | refl => rfl
  | tail _ step ih => cases step <;> exact ih

/-- What is known under an identifier is known after drawing. -/
theorem Draws.entity?_eq {s s' : Shop} (h : Draws s s') (kind : String) (id : Key) :
    s'.entity? kind id = s.entity? kind id := by
  rw [entity?, h.store_eq, entity?]

/-- A token that was handed out counts as handed out for good. -/
theorem Draws.seen_subset {s s' : Shop} (h : Draws s s') : s.seen ⊆ s'.seen := by
  induction h with
  | refl => exact List.Subset.refl _
  | tail _ step ih =>
    cases step with
    | supply p => exact ih
    | token _ => exact List.subset_append_of_subset_left _ ih

/-- To take from the supply is to draw. -/
theorem supplied_draws {α : Type} (draw : Supply → α × Supply) : Within Draws (supplied draw) :=
  fun s => .single (.supply s _)

/-- The induction is on the attempts that are left. -/
theorem freshToken_draws (kind : String) (n : Nat) : Within Draws (freshToken kind n) := by
  induction n with
  | zero => exact .throw _
  | succ n ih =>
    refine .bind (supplied_draws _) fun token => .bind_of_on .get fun s₀ s₁ s₂ h => ?_
    obtain ⟨rfl, rfl⟩ : s₀ = s₁ ∧ s₁ = s₂ := by simpa [eq_comm] using h
    split
    · exact ih _
    · -- The token is new, and is handed out.
      rename_i hnew
      exact .single (.token _ hnew)

/-- A token that is answered was not handed out before, and counts as handed out from then on. -/
theorem freshToken_ok {kind : String} {n : Nat} {s s' : Shop} {t : String}
    (h : Act.on (freshToken kind n) s = (.ok t, s')) :
    ∃ s₁, Draws s s₁ ∧ t ∉ s₁.seen ∧ s' = { s₁ with seen := s₁.seen ++ [t] } := by
  induction n generalizing s with
  | zero => simp [freshToken] at h
  | succ n ih =>
    obtain ⟨token, s₁, hs₁, h⟩ := Act.on_bind_eq_ok.1 h
    have drawn : Draws s s₁ := (supplied_draws _).of_on hs₁
    obtain ⟨s₂, s₃, hs₂, h⟩ := Act.on_bind_eq_ok.1 h
    obtain ⟨rfl, rfl⟩ : s₁ = s₂ ∧ s₁ = s₃ := by simpa using hs₂
    split at h
    · -- The token was handed out already, and another one is drawn.
      obtain ⟨s₄, more, rest⟩ := ih h
      exact ⟨s₄, drawn.trans more, rest⟩
    · rename_i hnew
      rw [Act.on_bind, Act.on_modify] at h
      obtain ⟨ht, rfl⟩ := Prod.mk.inj h
      obtain rfl : token = t := by simpa using ht
      exact ⟨s₁, drawn, hnew, rfl⟩

/-- To make an identifier is to draw; a start that is empty fails first. -/
theorem freshId_draws (start : String) : Within Draws (freshId start) := by
  unfold freshId
  -- `named` is what follows once the start is known not to be empty.
  extract_lets named
  have hnamed : ∀ u, Within Draws (named u) := fun _ =>
    .bind (freshToken_draws _ _) fun _ => .pure _
  split
  · exact .bind (.throw _) hnamed
  · exact hnamed ()

/-- An identifier that is made ends in a token that was not handed out before. -/
theorem freshId_ok {start : String} (hstart : start.toList.getLast? = some '/') {s s' : Shop}
    {id : String} (h : Act.on (freshId start) s = (.ok id, s')) :
    ∃ s₁ t, Draws s s₁ ∧ t ∉ s₁.seen ∧ s' = { s₁ with seen := s₁.seen ++ [t] } ∧
      id = start ++ t := by
  have hne : start ≠ "" := by
    rintro rfl
    simp at hstart
  simp only [freshId, if_neg hne, if_pos hstart] at h
  obtain ⟨t, s₂, ht, h⟩ := Act.on_bind_eq_ok.1 h
  obtain ⟨rfl, rfl⟩ : start ++ t = id ∧ s₂ = s' := by simpa using h
  obtain ⟨s₁, drawn, hnew, rfl⟩ := freshToken_ok ht
  exact ⟨s₁, t, drawn, hnew, rfl, rfl⟩

/-- What is handed out later was handed out since before. -/
theorem HandsOut.after {s s₁ s' : Shop} {t : String} (h : s₁.HandsOut s' t) (drawn : Draws s s₁) :
    s.HandsOut s' t := ⟨fun known => h.1 (drawn.seen_subset known), h.2⟩

/-- What is handed out before more is drawn counts as handed out after. -/
theorem HandsOut.before {s s₁ s' : Shop} {t : String} (h : s.HandsOut s₁ t) (drawn : Draws s₁ s') :
    s.HandsOut s' t := ⟨h.1, drawn.seen_subset h.2⟩

/-- A picture that is new is new as seen from any earlier shop. -/
theorem isPictured_after {s s₁ s' : Shop} {v : Variant} (h : v.IsPictured s₁ s')
    (drawn : Draws s s₁) : v.IsPictured s s' := by
  obtain ⟨t, ht, hid⟩ := h
  exact ⟨t, ht.after drawn, hid⟩

/-- A new identifier is made of a token that is handed out for it. -/
theorem freshId_handsOut {start : String} (hstart : start.toList.getLast? = some '/') {s s' : Shop}
    {id : String} (h : Act.on (freshId start) s = (.ok id, s')) :
    ∃ t, s.HandsOut s' t ∧ id = start ++ t := by
  obtain ⟨s₁, t, drawn, hnew, rfl, rfl⟩ := freshId_ok hstart h
  exact ⟨t, HandsOut.after ⟨hnew, List.mem_append_right _ (.head _)⟩ drawn, rfl⟩

/-- Each word of a name is drawn. -/
theorem makeName_draws : Within Draws makeName :=
  .bind (.mapM (fun _ => supplied_draws _) _) fun _ => .pure _

/-- The address of a picture is put together from numbers that are drawn. -/
theorem makePictureAddress_draws : Within Draws makePictureAddress :=
  .bind (supplied_draws _) fun _ => .bind (supplied_draws _) fun _ => .bind (supplied_draws _)
    fun _ => .bind (supplied_draws _) fun _ => .bind (supplied_draws _) fun _ => .bind .get
    fun _ => .pure _

/-- A variant that is made up is drawn altogether: its name, its price, its picture, and its
identifier if none is asked for. -/
theorem makeVariant_draws (product variant : Key) : Within Draws (makeVariant product variant) := by
  unfold makeVariant
  extract_lets made
  have hmade : ∀ id, Within Draws (made id) := fun _ =>
    .bind makeName_draws fun _ => .bind (supplied_draws _) fun _ => .bind (freshId_draws _)
      fun _ => .bind makePictureAddress_draws fun _ => .pure _
  split
  · exact .bind (.pure _) hmade
  · exact .bind (.map _ (freshId_draws _)) hmade

/-- A variant is made up of the product that is asked for, at a price that is a number and with a
new picture; it has the identifier that is asked for, if one is, and a new one otherwise. -/
theorem makeVariant_ok {product variant : Key} {s s' : Shop} {v : Variant}
    (h : Act.on (makeVariant product variant) s = (.ok v, s')) :
    v.productId = product.toValue ∧ (∃ x, v.price = .float x) ∧ v.IsPictured s s' ∧
      (variant.toValue.truthy = true → v.id = variant.toValue) ∧
      (variant.toValue.truthy ≠ true →
        ∃ t, s.HandsOut s' t ∧ v.id = .text (Gid.variantPrefix ++ t)) := by
  unfold makeVariant at h
  extract_lets made at h
  -- `made` is what follows once the identifier is known; of the draws, only the picture's token is
  -- of interest.
  have hmade : ∀ id s, Act.on (made id) s = (.ok v, s') → Draws s s' ∧
      v.productId = product.toValue ∧ (∃ x, v.price = .float x) ∧ v.IsPictured s s' ∧
        v.id = id := by
    intro id s h
    simp only [made, Act.on_bind_eq_ok, Act.on_pure, Prod.mk.injEq, Except.ok.injEq] at h
    obtain ⟨_, s₁, hname, cents, s₂, hcents, imageId, s₃, himage, _, s₄, haddress, rfl, rfl⟩ := h
    have before : Draws s s₂ := (makeName_draws.of_on hname).trans ((supplied_draws _).of_on hcents)
    have handed := freshId_handsOut (by decide) himage
    have after : Draws s₃ s₄ := makePictureAddress_draws.of_on haddress
    obtain ⟨t, ht, rfl⟩ := handed
    exact ⟨before.trans (((freshId_draws _).of_on himage).trans after), rfl, ⟨_, rfl⟩,
      ⟨t, (ht.after before).before after, rfl⟩, rfl⟩
  split at h <;> rename_i given <;> obtain ⟨id, s₁, asked, h⟩ := Act.on_bind_eq_ok.1 h <;>
    obtain ⟨drawn, hp, hx, pictured, rfl⟩ := hmade id s₁ h
  · -- The identifier that is asked for is taken as it is.
    obtain ⟨hid, rfl⟩ := Prod.mk.inj asked
    exact ⟨hp, hx, pictured, fun _ => (Except.ok.inj hid).symm, fun unnamed => absurd given unnamed⟩
  · -- A new identifier is drawn before everything else, so its token is older than the picture's.
    rw [map_eq_pure_bind] at asked
    obtain ⟨fresh, s₂, hfresh, asked⟩ := Act.on_bind_eq_ok.1 asked
    obtain ⟨hid, rfl⟩ : Value.text fresh = v.id ∧ s₂ = s₁ := by simpa using asked
    obtain ⟨t, ht, rfl⟩ := freshId_handsOut (by decide) hfresh
    exact ⟨hp, hx, isPictured_after pictured ((freshId_draws _).of_on hfresh),
      fun named => absurd named given, fun _ => ⟨t, ht.before drawn, hid.symm⟩⟩

/-! ### Variants and products -/

/-- To look up a variant makes one up where there is none and one is asked for, and changes nothing
else. -/
theorem variant_grows (id : Key) (make : Bool) : Within Grows (variant id make) := by
  unfold variant
  refine .bind_of_on (fun _ => .refl) fun known s₀ s h => ?_
  obtain ⟨rfl, rfl⟩ : (s₀.entity? Gid.variantPrefix id).isSome = known ∧ s₀ = s := by simpa using h
  split
  · rename_i hnew
    have absent : s₀.entity? Gid.variantPrefix id = none := by
      cases make <;> simp at hnew; exact hnew
    -- If a draw fails, nothing is kept, and the shop has grown by the draws alone.
    refine Act.on_bind_snd (fun _ _ h => ((freshId_draws _).of_on h).grows) fun product s₁ h₁ => ?_
    refine Act.on_bind_snd (fun _ _ h => ?_) fun v s₂ h₂ => ?_
    · exact ((freshId_draws _).of_on h₁).grows.trans ((makeVariant_draws _ _).of_on h).grows
    · -- Draws keep no variant, so the variant is still unknown when it is made up.
      have drawn : Draws s₀ s₂ :=
        ((freshId_draws _).of_on h₁).trans ((makeVariant_draws _ _).of_on h₂)
      obtain ⟨hp, hx, pictured, named, -⟩ := makeVariant_ok h₂
      simp only [Act.on_bind, on_keep, on_find?]
      exact .single (.variant absent drawn ⟨⟨_, hp⟩, hx⟩ named
        (isPictured_after pictured ((freshId_draws _).of_on h₁)))
  · exact .refl

/-- The variant that is answered is the one that is kept from then on. -/
theorem variant_ok {id : Key} {make : Bool} {s s' : Shop} {e : Option Entity}
    (h : Act.on (variant id make) s = (.ok e, s')) : s'.entity? Gid.variantPrefix id = e := by
  obtain ⟨known, s₀, _, h⟩ := Act.on_bind_eq_ok.1 h
  split at h
  · simp only [Act.on_bind_eq_ok, on_find?, Prod.mk.injEq, Except.ok.injEq] at h
    obtain ⟨_, _, _, _, _, _, _, _, _, rfl, rfl⟩ := h
    rfl
  · obtain ⟨rfl, rfl⟩ : s₀.entity? Gid.variantPrefix id = e ∧ s₀ = s' := by simpa using h
    rfl

/-- To look up a product makes one up, with a single variant that is not kept by itself. -/
theorem product_sideSteps (id : Key) (make : Bool) : Within SideSteps (product id make) := by
  unfold product
  refine .bind_of_on (fun _ => .refl) fun known s₀ s h => ?_
  obtain ⟨rfl, rfl⟩ : (s₀.entity? Gid.productPrefix id).isSome = known ∧ s₀ = s := by simpa using h
  split
  · rename_i hnew
    have absent : s₀.entity? Gid.productPrefix id = none := by
      cases make <;> simp at hnew; exact hnew
    refine Act.on_bind_snd (fun _ _ h => (makeName_draws.of_on h).grows.sideSteps)
      fun title s₁ h₁ => ?_
    refine Act.on_bind_snd (fun _ _ h => ?_) fun v s₂ h₂ => ?_
    · exact (makeName_draws.of_on h₁).grows.sideSteps.trans
        ((makeVariant_draws _ _).of_on h).grows.sideSteps
    · -- The title was drawn first, then the variant with its token.
      have drawn : Draws s₀ s₂ :=
        (makeName_draws.of_on h₁).trans ((makeVariant_draws _ _).of_on h₂)
      obtain ⟨hp, -, pictured, -, fresh⟩ := makeVariant_ok h₂
      obtain ⟨t, ht, hid⟩ := fresh nofun
      have named : Draws s₀ s₁ := makeName_draws.of_on h₁
      simp only [Act.on_bind, on_keep, on_find?]
      exact .single (.product absent drawn
        ⟨rfl, v, rfl, hp, isPictured_after pictured named, t, ht.after named, hid⟩)
  · exact .refl

/-- To ask for a price is to look up the variant. -/
theorem priceOf_grows (id : Key) : Within Grows (priceOf id) := by
  refine .bind (variant_grows _ _) fun e => ?_
  split
  · exact .pure _
  · exact .lift _
  · exact .throw _

/-- To ask for a record is to look up the variant, which is made up if it is not there. -/
theorem variantRecord_grows (id : String) : Within Grows (variantRecord id) := by
  refine .bind (variant_grows _ _) fun e => ?_
  split
  · exact .pure _
  · exact .throw _

/-! ### Links and plans -/

/-- To read the links of an owner changes nothing. -/
theorem linksOf_sideSteps (owner : String) (relation : Key) :
    Within SideSteps (linksOf owner relation) := by
  refine .bind (fun _ => .refl) fun e => ?_
  split
  · exact .pure _
  · split
    · exact .lift _
    · exact .pure _
  · exact .pure _

/-- To list the links of an owner changes nothing. -/
theorem connections_sideSteps (owner : String) (relation : Key) :
    Within SideSteps (connections owner relation) :=
  .bind (linksOf_sideSteps _ _) fun _ => .pure _

/-- To connect keeps the links of an owner anew. -/
theorem connect_sideSteps (owner : String) (id relation : Key) :
    Within SideSteps (connect owner id relation) :=
  .bind (linksOf_sideSteps _ _) fun _ => .bind (fun s => .single (.links s ..)) fun _ => .pure _

/-- To disconnect keeps the links of an owner anew, also where there was none to erase. -/
theorem disconnect_sideSteps (owner : String) (id relation : Key) :
    Within SideSteps (disconnect owner id relation) :=
  .bind (linksOf_sideSteps _ _) fun _ => .bind (fun s => .single (.links s ..)) fun _ => .pure _

/-- An identifier that is given draws nothing. -/
theorem givenOrFreshId_draws (given : Value) (start : String) :
    Within Draws (givenOrFreshId given start) := by
  refine .bind (.lift _) fun id => ?_
  split
  · exact .lift _
  · exact freshId_draws _

/-- To make a plan draws its identifier, if none is given, and keeps the plan. -/
theorem createPlan_sideSteps (options given : Value) :
    Within SideSteps (createPlan options given) :=
  .bind ((givenOrFreshId_draws _ _).mono fun _ _ h => h.grows.sideSteps) fun _ =>
    .bind (.map _ (.lift _)) fun _ => .bind (fun _ => .refl) fun _ => .bind (.lift _) fun _ =>
    .bind (fun s => .single (.plan s ..)) fun _ => .pure _

/-- To look up a plan changes nothing. -/
theorem plan?_sideSteps (id : Value) : Within SideSteps (plan? id) :=
  .bind (.lift _) fun _ => .bind (.lift _) fun _ _ => .refl

/-- To change a plan keeps it again, and only if there is one. -/
theorem updatePlan_sideSteps (id options : Value) : Within SideSteps (updatePlan id options) := by
  refine .bind (.lift _) fun _ => .bind (.lift _) fun _ => .bind (fun _ => .refl) fun e => ?_
  split
  · exact .pure _
  · split
    · exact .pure _
    · exact .bind (fun _ => .refl) fun _ => .bind (.lift _) fun _ =>
        .bind (fun s => .single (.plan s ..)) fun _ => .pure _

/-- To delete a plan erases what is under its identifier, if anything is. -/
theorem deletePlan_sideSteps (id : Value) : Within SideSteps (deletePlan id) :=
  .bind (.lift _) fun _ => .bind (.lift _) fun _ s => .single (.planErased s _)

/-! ### Groups -/

/-- To join a group to what it is connected with looks up plans, products and variants; of these
only the latter two are made up. -/
theorem joined_sideSteps (id : Key) : Within SideSteps (joined id) := by
  refine .bind (fun _ => .refl) fun e => ?_
  split
  · exact .throw _
  · refine .bind (.lift _) fun _ => .bind (.lift _) fun _ => ?_
    -- Plans first, then products, then variants.
    refine .bind (connections_sideSteps _ _) fun _ =>
      .bind (.mapM (fun _ => .map _ (plan?_sideSteps _)) _) fun _ => ?_
    refine .bind (connections_sideSteps _ _) fun _ =>
      .bind (.mapM (fun _ => .map _ (product_sideSteps _ _)) _) fun _ => ?_
    refine .bind (connections_sideSteps _ _) fun _ => .bind (.mapM (fun _ => .map _ ?_) _)
      fun _ => .pure _
    exact (variant_grows _ _).mono fun _ _ h => h.sideSteps

/-- To look for a group changes nothing, and fails where there is none. -/
theorem groupId_sideSteps (id : Value) : Within SideSteps (groupId id) := by
  unfold groupId
  refine .bind (.lift _) fun id => ?_
  extract_lets known
  have hknown : ∀ u, Within SideSteps (known u) := by
    refine fun _ => .bind (.lift _) fun _ => .bind (fun _ => .refl) fun _ => ?_
    split
    · exact .pure _
    · exact .throw _
  split
  · exact .bind (.throw _) hknown
  · exact hknown ()

/-- To add a plan to a group is to make it and to connect it. -/
theorem addPlan_sideSteps (owner : String) (options : Value) :
    Within SideSteps (addPlan owner options) :=
  .bind (createPlan_sideSteps _ _) fun _ => .map _ (connect_sideSteps _ _ _)

/-- To drop a plan from a group is to delete it and to disconnect it. -/
theorem dropPlan_within {R : Shop → Shop → Prop} [Std.Refl R] [IsTrans Shop R] {owner : String}
    (delete : ∀ id, Within R (deletePlan id))
    (disconnect : ∀ id, Within R (disconnect owner id planRelation)) (plan : Value) :
    Within R (dropPlan owner plan) := by
  unfold dropPlan
  extract_lets drop
  -- The plan is given by its identifier or by a record that has one.
  have hdrop : ∀ v, Within R (drop v) := fun _ => .bind (.lift _) fun _ =>
    .bind (.map _ (delete _)) fun _ => .bind (.lift _) fun _ => .map _ (disconnect _)
  split
  · exact .bind (.lift _) hdrop
  · exact .bind (.pure _) hdrop

/-- A plan is dropped by side steps. -/
theorem dropPlan_sideSteps (owner : String) (plan : Value) :
    Within SideSteps (dropPlan owner plan) :=
  dropPlan_within deletePlan_sideSteps (disconnect_sideSteps owner · planRelation) plan

/-- To change a plan of a group is to change it, and to connect it if there is one. -/
theorem changePlan_sideSteps (owner : String) (options : Value) :
    Within SideSteps (changePlan owner options) := by
  refine .bind (.lift _) fun _ => .bind (.lift _) fun _ => .bind (updatePlan_sideSteps _ _)
    fun changed => ?_
  split
  · exact .bind (.lift _) fun _ => .map _ (connect_sideSteps _ _ _)
  · exact .pure _

/-! ### Making a group -/

/-- Makes a group without plans. -/
def openGroup (options given : Value) : Act Shop String := do
  let now ← timestamp
  let draft ← groupOf options "" now
  let missing := [("name", draft.name), ("merchantCode", draft.merchantCode)].filter (!·.2.truthy)
  if !missing.isEmpty then throw (.rejected (missing.map fun (name, _) => .text name))
  let id ← givenOrFreshId given Gid.groupPrefix
  discard <| Gid.encodeText id
  keep Gid.groupPrefix (.text id) (.group { draft with id })
  return id

/-- What is done for a group once it is kept: its plans are made, deleted and changed, and it is
joined. -/
def groupWorks (options : Value) (id : String) : Act Shop Value := do
  (← severalOf (← options.member "sellingPlansToCreate")).forM (addPlan id)
  (← severalOf (← options.member "sellingPlansToDelete")).forM (dropPlan id)
  (← severalOf (← options.member "sellingPlansToUpdate")).forM (changePlan id)
  joined (.text id)

/-- Making a group is to make it without plans, and then to go through the plans that are listed. -/
theorem createGroup_eq (options given : Value) : createGroup options given = (do
    let id ← openGroup options given
    groupWorks options id) := by
  simp only [createGroup, openGroup, groupWorks, bind_assoc]
  refine bind_congr fun now => bind_congr fun draft => ?_
  split
  · -- What is missing is rejected before anything is kept.
    rfl
  · simp only [bind_assoc, pure_bind]

/-- The works for a group stay within what each of them stays within. -/
theorem groupWorks_within {R : Shop → Shop → Prop} [Std.Refl R] [IsTrans Shop R] {options : Value}
    {id : String} (add : ∀ v, Within R (addPlan id v))
    (drop : ∀ vs, (options.member "sellingPlansToDelete" >>= severalOf) = .ok vs → ∀ v ∈ vs,
      Within R (dropPlan id v))
    (change : ∀ v, Within R (changePlan id v)) (join : Within R (joined (.text id))) :
    Within R (groupWorks options id) := by
  refine .bind (.lift _) fun _ => .bind (.lift _) fun _ => .bind (.forM add _) fun _ => ?_
  refine .bind_lift fun v hv => .bind_lift fun vs hvs =>
    .bind (.forM_mem (drop vs (by rw [hv]; exact hvs))) fun _ => ?_
  exact .bind (.lift _) fun _ => .bind (.lift _) fun _ => .bind (.forM change _) fun _ => join

/-- Once nothing is found missing, a group gets its identifier and is kept. -/
theorem on_openGroup_complete {options given : Value} {s : Shop} {draft : SellingPlanGroup}
    (drafted : groupOf options "" s.supply.timestamp = .ok draft) (name : draft.name.truthy = true)
    (merchantCode : draft.merchantCode.truthy = true) :
    Act.on (openGroup options given) s = Act.on (do
      let id ← givenOrFreshId given Gid.groupPrefix
      discard <| Gid.encodeText id
      keep Gid.groupPrefix (.text id) (.group { draft with id })
      return id) s := by
  unfold openGroup
  rw [Act.on_bind_of_ok (on_timestamp s), drafted, Act.on_bind_of_ok (Act.on_lift _ s)]
  extract_lets missing make
  rw [if_neg (by simp [missing, name, merchantCode])]

/-- How it ends to make a group without plans: it is turned down, no identifier is found for it, the
identifier cannot be sent, or the group is kept. -/
inductive OpensGroup (options given : Value) (s : Shop) : Except Fault String × Shop → Prop
  | refused (f : Fault) : OpensGroup options given s (.error f, s)
  | unnamed {f : Fault} {s₁ : Shop}
      (drawn : Act.on (givenOrFreshId given Gid.groupPrefix) s = (.error f, s₁)) :
      OpensGroup options given s (.error f, s₁)
  | unsendable {f : Fault} {id : String} {s₁ : Shop}
      (drawn : Act.on (givenOrFreshId given Gid.groupPrefix) s = (.ok id, s₁)) :
      OpensGroup options given s (.error f, s₁)
  | kept {draft : SellingPlanGroup} {id code : String} {s₁ : Shop}
      (drafted : groupOf options "" s.supply.timestamp = .ok draft)
      (name : draft.name.truthy = true) (merchantCode : draft.merchantCode.truthy = true)
      (drawn : Act.on (givenOrFreshId given Gid.groupPrefix) s = (.ok id, s₁))
      (sent : Gid.encodeText id = .ok code) : OpensGroup options given s
        (.ok id, s₁.withEntity Gid.groupPrefix (.text id) (.group { draft with id }))

/-- Making a group without plans ends in one of these ways, and this is all that it does. -/
theorem openGroup_cases (options given : Value) (s : Shop) :
    OpensGroup options given s (Act.on (openGroup options given) s) := by
  cases drafted : groupOf options "" s.supply.timestamp with
  | error f =>
    rw [openGroup, Act.on_bind_of_ok (on_timestamp s), drafted]
    exact .refused f
  | ok draft =>
    by_cases complete : draft.name.truthy = true ∧ draft.merchantCode.truthy = true
    · rw [on_openGroup_complete drafted complete.1 complete.2]
      rcases drawn : Act.on (givenOrFreshId given Gid.groupPrefix) s with ⟨f | id, s₁⟩
      · rw [Act.on_bind_of_error drawn]
        exact .unnamed drawn
      rw [Act.on_bind_of_ok drawn]
      cases sent : Gid.encodeText id with
      | error f => exact .unsendable drawn
      | ok code => exact .kept drafted complete.1 complete.2 drawn sent
    · -- What is missing is rejected before anything is drawn.
      unfold openGroup
      rw [Act.on_bind_of_ok (on_timestamp s), drafted, Act.on_bind_of_ok (Act.on_lift _ s)]
      extract_lets missing make
      rw [if_pos (by simpa [missing, List.filter_eq_nil_iff] using complete)]
      exact .refused _

/-- To make a group without plans is to draw an identifier for it, and to keep it. -/
theorem openGroup_within {R : Shop → Shop → Prop} [Std.Refl R] [IsTrans Shop R]
    {options given : Value} (draw : Within R (givenOrFreshId given Gid.groupPrefix))
    (keep : ∀ s s₁ (g : SellingPlanGroup) code,
      Act.on (givenOrFreshId given Gid.groupPrefix) s = (.ok g.id, s₁) →
      Gid.encodeText g.id = .ok code →
      R s₁ (s₁.withEntity Gid.groupPrefix (.text g.id) (.group g))) :
    Within R (openGroup options given) := by
  intro s
  have opened := openGroup_cases options given s
  generalize Act.on (openGroup options given) s = r at opened
  cases opened with
  | refused => exact Std.Refl.refl s
  | unnamed drawn => exact draw.of_on drawn
  | unsendable drawn => exact draw.of_on drawn
  | @kept draft id code s₁ _ _ _ drawn sent =>
    exact IsTrans.trans _ _ _ (draw.of_on drawn) (keep s s₁ { draft with id } code drawn sent)

/-- To make a group is made of side steps, whichever of its plans fails. -/
theorem createGroup_sideSteps (options given : Value) :
    Within SideSteps (createGroup options given) := by
  rw [createGroup_eq]
  refine .bind (openGroup_within ((givenOrFreshId_draws _ _).mono fun _ _ h => h.grows.sideSteps)
    fun _ s₁ g _ _ _ => .single (.group s₁ g)) fun id => ?_
  exact groupWorks_within (addPlan_sideSteps id) (fun _ _ v _ => dropPlan_sideSteps id v)
    (changePlan_sideSteps id) (joined_sideSteps _)

/-! ### Requests about groups -/

/-- To read a group changes nothing but for what it is joined with. -/
theorem group_sideSteps (id : Value) : Within SideSteps (group id) :=
  .bind (groupId_sideSteps _) fun _ => joined_sideSteps _

/-- To relate a group to products or variants connects it with each, one after the other. -/
theorem relate_sideSteps (relation : Key) (id ids : Value) :
    Within SideSteps (relate relation id ids) :=
  .bind (groupId_sideSteps _) fun _ => .bind (.lift _) fun _ => .bind (.lift _) fun _ =>
    .bind (.forM (fun _ => .bind (.lift _) fun _ => .bind (.lift _) fun _ =>
      .map _ (connect_sideSteps _ _ _)) _) fun _ => joined_sideSteps _

/-- To delete a group erases it; its links stay. -/
theorem deleteGroup_sideSteps (id : Value) : Within SideSteps (deleteGroup id) :=
  .bind (groupId_sideSteps _) fun _ s => .single (.groupErased s _)

/-- To list groups is to read each of the page. -/
theorem groups_sideSteps (start limit : Value) : Within SideSteps (groups start limit) :=
  .bind .get fun _ => .bind (.lift _) fun _ => .mapM (fun _ => .bind (.lift _) fun _ =>
    .bind (.lift _) fun _ => .bind (.lift _) fun _ => joined_sideSteps _) _

end Storefront.Shop
