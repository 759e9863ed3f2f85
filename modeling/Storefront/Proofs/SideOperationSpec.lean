import Storefront.Proofs.StoreInvariant

/-! # What the catalogue, the plans and the groups give

The operations aside from carts keep what is kept of a shop, fail with tame faults only, and answer
with clean values if they are asked to be.  Identifiers that the caller names are clean if their raw
forms are. -/

namespace Storefront.Shop

open Text (Sendable)
open Act (Gives)

variable {strict : Prop}

/-! ### Variants and products -/

/-- Where several spaces stand in a row, all but one are left out, and nothing is added. -/
theorem singleSpaced_subset (cs : List Char) : singleSpaced cs ⊆ cs := by
  fun_induction singleSpaced cs with
  | case1 cs ih => exact List.cons_subset_cons _ (List.subset_cons_of_subset _ ih)
  | case2 c cs h ih => exact List.cons_subset_cons _ ih
  | case3 => exact List.Subset.refl _

/-- A word is one of those of its list, or none. -/
theorem pick_gives (i : Nat) {words : List String} (h : ∀ w ∈ words, Sendable w.toList) :
    Gives (Kept strict) strict (supplied (Supply.pick i words)) fun w => Sendable w.toList := by
  refine supplied_gives (fun p _ ht => ht) fun p _ => ?_
  simp only [Supply.pick, List.getD_eq_getElem?_getD]
  cases hw : words[((p.seed + 7 * Supply.countOf p.wordCounts i) % words.length).toNat]? with
  | none => exact Sendable.nil
  | some w => exact h w (List.mem_of_getElem? hw)

/-- The words of names are fixed lists of plain texts. -/
theorem makeName_gives :
    Gives (Kept strict) strict makeName fun name => Sendable name.toList := by
  have all : ∀ ws ∈ nameWords, ∀ w ∈ ws, Sendable w.toList := by decide
  have words : Gives (Kept strict) strict
      (nameWords.zipIdx.mapM fun p => supplied (Supply.pick p.2 p.1))
      fun words => ∀ w ∈ words, Sendable w.toList :=
    .mapM fun p hp => pick_gives p.2 (all p.1 (List.fst_mem_of_mem_zipIdx hp))
  refine words.bind fun words hwords => .pure ?_
  refine Text.sendable_capitalise (Text.sendable_ofList ?_)
  exact (Text.sendable_joined (by decide) hwords).of_subset (singleSpaced_subset _)

/-- The address of a picture is made of digits and fixed texts. -/
theorem makePictureAddress_gives :
    Gives (Kept strict) strict makePictureAddress fun src => Sendable src.toList := by
  have file : Gives (Kept strict) strict (supplied Supply.fileName) fun s => Sendable s.toList :=
    supplied_gives (fun _ _ ht => ht) fun p _ => Text.sendable_ofList (Decimal.sendable_padded _ _)
  refine (draw_gives (by decide)).bind fun a _ => (draw_gives (by decide)).bind fun b _ =>
    (draw_gives (by decide)).bind fun c _ => (draw_gives (by decide)).bind fun folder _ =>
    file.bind fun file hfile => Gives.get.bind fun s _ => .pure ?_
  have numbers : ∀ t ∈ [Decimal.whole a, Decimal.whole b, Decimal.whole c], Sendable t.toList := by
    simp [Decimal.sendable_whole]
  exact .append_text (.append_text (.append_text (.append_text (.append_text (.append_text
    (.append_text (by decide) (Decimal.sendable_whole _)) (by decide))
    (Text.sendable_joined (by decide) numbers)) (by decide)) hfile) (by decide))
    (Decimal.sendable_whole _)

/-- The record of a picture is clean if its identifier and its address can be sent. -/
theorem clean_image {i : Image} (hid : Sendable i.id.toList) (hsrc : Sendable i.src.toList) :
    i.toValue.Clean :=
  Value.clean_ofFields ["id", "src", "altText"] rfl (by decide) (by decide)
    ⟨.text hid, .text hsrc, .null⟩

/-- A variant that is made up is as clean as the identifiers it is made for. -/
theorem makeVariant_gives {product variant : Key} (hp : product.toValue.Fit strict)
    (hv : variant.toValue.Fit strict) :
    Gives (Kept strict) strict (makeVariant product variant) fun v => v.toValue.Fit strict := by
  unfold makeVariant
  extract_lets made
  -- `made` is what follows once the identifier is known.
  have hmade : ∀ id, id.Fit strict → Gives (Kept strict) strict (made id) fun v =>
      v.toValue.Fit strict := by
    refine fun id hid => makeName_gives.bind fun title htitle =>
      (draw_gives (by decide)).bind fun cents hcents =>
      (freshId_gives (by decide) (by decide)).bind fun imageId himage =>
      makePictureAddress_gives.bind fun src hsrc => .pure fun hs => ?_
    have price : (Float.ofInt cents / 100).isFinite = true :=
      Decimal.isFinite_cents (by omega) (by omega)
    exact Value.clean_ofFields ["id", "title", "product_id", "price", "currency", "images"] rfl
      (by decide) (by decide) ⟨hid hs, .text htitle, hp hs, .float price, .text (by decide),
        .list (List.forall_mem_singleton.2 (clean_image (himage hs) hsrc))⟩
  split
  · exact Gives.bind (.pure hv) hmade
  · exact ((freshId_gives (by decide) (by decide)).map fun id hid =>
      Value.fit_text hid).bind hmade

/-- A variant that is looked up is fit, whether it was kept or is made up. -/
theorem variant_gives {id : Key} (hid : id.toValue.Fit strict) (make : Bool) :
    Gives (Kept strict) strict (variant id make) fun found =>
      ∀ e, found = some e → e.Fit strict Gid.variantPrefix := by
  refine (has_gives _ _).bind fun known _ => ?_
  split
  · refine (freshId_gives (by decide) (by decide)).bind fun product hproduct => ?_
    refine (makeVariant_gives (Value.fit_text hproduct) hid).bind fun v hv => ?_
    have fit : Entity.Fit strict Gid.variantPrefix (.variant v) := ⟨rfl, hv⟩
    exact (keep_gives id fit).bind fun _ _ => find?_gives _ _
  · exact find?_gives _ _

/-- A product that is looked up is fit, whether it was kept or is made up. -/
theorem product_gives {id : Key} (hid : id.toValue.Fit strict) (make : Bool) :
    Gives (Kept strict) strict (product id make) fun found =>
      ∀ e, found = some e → e.Fit strict Gid.productPrefix := by
  refine (has_gives _ _).bind fun known _ => ?_
  split
  · refine makeName_gives.bind fun title htitle =>
      (makeVariant_gives hid Value.fit_null).bind fun v hv => ?_
    have clean : strict → (Product.toValue ⟨id.toValue, title, [v]⟩).Clean := fun hs =>
      Value.clean_ofFields ["id", "title", "variants"] rfl (by decide) (by decide)
        ⟨hid hs, .text htitle, .list (List.forall_mem_singleton.2 (hv hs))⟩
    have fit : Entity.Fit strict Gid.productPrefix (.product ⟨id.toValue, title, [v]⟩) :=
      ⟨rfl, clean⟩
    exact (keep_gives id fit).bind fun _ _ => find?_gives _ _
  · exact find?_gives _ _

/-- A price is that of a variant, which is made up where there is none. -/
theorem priceOf_gives {id : Key} (hid : id.toValue.Fit strict) :
    Gives (Kept strict) strict (priceOf id) fun _ => True := by
  refine (variant_gives hid true).bind fun found hfound => ?_
  cases found with
  | none => exact .throw Fault.tame_shape
  | some e =>
    obtain ⟨v, rfl, -⟩ := (hfound e rfl).exists_variant
    exact .pure trivial

/-- The record is that of a variant of the shop's own. -/
theorem variantRecord_gives {id : String} (hid : strict → Sendable id.toList) :
    Gives (Kept strict) strict (variantRecord id) fun record =>
      ∃ v : Variant, record = v.toValue ∧ record.Fit strict := by
  refine (variant_gives (Value.fit_text hid) true).bind fun found hfound => ?_
  cases found with
  | none => exact .throw Fault.tame_shape
  | some e =>
    obtain ⟨v, rfl, hv⟩ := (hfound e rfl).exists_variant
    exact .pure ⟨v, rfl, hv⟩

/-- The picture of a variant of the shop's own. -/
theorem yields_pictureOf {v : Variant} (h : v.toValue.Fit strict) :
    Yields strict (pictureOf v.toValue) (Value.Fit strict) := by
  have images : v.toValue.item "images" = .ok (.list [v.image.toValue]) := by
    simp [Variant.toValue]
  -- The picture is among the members of a clean record.
  have picture : v.image.toValue.Fit strict := fun hs =>
    (Value.Clean.items (Value.Clean.get? (h hs) (k := .text "images") rfl)) _ (.head _)
  have record : v.image.toValue.toRecord = .ok (_ : List (Key × Value)) := rfl
  simp only [pictureOf, images, Value.ok_bind, Value.head, record]
  refine (picture.item "id").bind fun id hid => (Gid.yields_encodeValue hid).bind fun id hid => ?_
  exact picture.put (by decide) hid

/-! ### Links -/

/-- What an owner is linked to, as it is kept. -/
theorem linksOf_gives (owner : String) (relation : Key) :
    Gives (Kept strict) strict (linksOf owner relation) fun members =>
      ∀ p ∈ members, p.1.toValue.Fit strict := by
  refine (find?_gives _ _).bind fun found hfound => ?_
  cases found with
  | none => exact .pure fun p hp => absurd hp List.not_mem_nil
  | some e =>
    obtain ⟨members, rfl, hm⟩ := (hfound e rfl).exists_links
    exact .pure fun p hp hs => hm hs p hp

/-- The keys of links are fit as they were kept. -/
theorem connections_gives (owner : String) (relation : Key) :
    Gives (Kept strict) strict (connections owner relation) fun keys =>
      ∀ k ∈ keys, k.toValue.Fit strict := by
  refine (linksOf_gives _ _).bind fun members hm => .pure fun k hk => ?_
  obtain ⟨p, hp, rfl⟩ := List.mem_map.1 hk
  exact hm p hp

/-- Links with fit keys may be kept. -/
theorem fit_links {owner : String} {members : List (Key × Value)}
    (h : ∀ p ∈ members, p.1.toValue.Fit strict) :
    Entity.Fit strict (connectionMark ++ owner) (.links members) :=
  ⟨⟨owner, rfl⟩, fun hs p hp => h p hp hs⟩

/-- To connect to a fit identifier keeps fit links. -/
theorem connect_gives (owner : String) {id : Key} (hid : id.toValue.Fit strict) (relation : Key) :
    Gives (Kept strict) strict (connect owner id relation) fun _ => True := by
  refine (linksOf_gives _ _).bind fun members hm => ?_
  refine (keep_gives relation (fit_links fun p hp => ?_)).bind fun _ _ => .pure trivial
  rcases Assoc.mem_put hp with hp | ⟨-, hp | ⟨b, hp⟩⟩
  · -- The links are those that there were, and the new one.
    exact hm p hp
  · exact hp ▸ hid
  · exact hm (p.1, b) hp

/-- To disconnect leaves fewer links. -/
theorem disconnect_gives (owner : String) (id relation : Key) :
    Gives (Kept strict) strict (disconnect owner id relation) fun _ => True := by
  refine (linksOf_gives _ _).bind fun members hm => ?_
  refine (keep_gives relation (fit_links fun p hp => ?_)).bind fun _ _ => .pure trivial
  exact hm p (List.mem_of_mem_filter hp)

/-! ### Plans -/

/-- A given identifier can be sent if its raw form can, and a new one always can. -/
theorem givenOrFreshId_gives {given : Value} {start : String} (hne : start ≠ "")
    (hstart : Sendable start.toList)
    (hgiven : Gid.FitId strict given) :
    Gives (Kept strict) strict (givenOrFreshId given start) fun id =>
      strict → Sendable id.toList := by
  refine (Gives.lift (Gid.yields_decodeValue given)).bind fun id hid => ?_
  split
  · rcases hid with ⟨s, rfl, rfl⟩ | ⟨hf, rfl⟩
    · exact .pure fun hs => hgiven hs s rfl
    · rename_i ht
      exact absurd ht (by simp [hf])
  · exact freshId_gives hne hstart

/-- The terms among fit options have the names of terms. -/
theorem yields_termsOf {options : Value} (h : options.Fit strict) :
    Yields strict (SellingPlan.termsOf options) fun terms =>
      terms.map Prod.fst = SellingPlan.termNames.map Key.text ∧ ∀ p ∈ terms, p.2.Fit strict := by
  unfold SellingPlan.termsOf
  induction SellingPlan.termNames with
  | nil => exact ⟨rfl, fun p hp => absurd hp List.not_mem_nil⟩
  | cons name names ih =>
    rw [List.mapM_cons]
    refine Yields.bind (P := fun p => p.1 = .text name ∧ p.2.Fit strict) ?_ fun p hp => ?_
    · exact (h.member name).bind fun v hv => ⟨rfl, hv⟩
    · refine ih.bind fun terms hterms => ⟨?_, ?_⟩
      · rw [List.map_cons, hp.1, hterms.1, List.map_cons]
      · exact List.forall_mem_cons.2 ⟨hp.2, hterms.2⟩

/-- The record of a plan is clean if its identifier, its times and its terms are. -/
theorem clean_plan {p : SellingPlan} (hid : Sendable p.id.toList)
    (hcreated : Sendable p.createdAt.toList) (hupdated : Sendable p.updatedAt.toList)
    (hnames : p.terms.map Prod.fst = SellingPlan.termNames.map Key.text)
    (hterms : ∀ q ∈ p.terms, q.2.Clean) : p.toValue.Clean := by
  have names : ("id" :: "createdAt" :: "updatedAt" :: "category" ::
    SellingPlan.termNames).Nodup := by
    decide
  refine Value.clean_ofNames ?_ (by decide) names (List.forall_mem_append.2 ⟨?_, hterms⟩)
  · rw [List.map_append, hnames]
    rfl
  · rw [← List.forall_iff_forall_mem]
    exact ⟨.text (Gid.sendable_encode hid), .text hcreated, .text hupdated, .text (by decide)⟩

/-- To make a plan of fit options keeps a fit plan. -/
theorem createPlan_gives {options given : Value} (ho : options.Fit strict)
    (hgiven : Gid.FitId strict given) :
    Gives (Kept strict) strict (createPlan options given) fun plan =>
      strict → Sendable plan.id.toList := by
  refine (givenOrFreshId_gives (by decide) (by decide) hgiven).bind fun id hid => ?_
  refine (Gives.lift (Gid.yields_encodeText id)).discard.bind fun _ _ =>
    timestamp_gives.bind fun now hnow =>
    (Gives.lift (yields_termsOf ho)).bind fun terms hterms => ?_
  have fit : Entity.Fit strict Gid.planPrefix (.plan ⟨id, now, now, terms⟩) :=
    ⟨rfl, fun hs => clean_plan (hid hs) hnow hnow hterms.1 fun p hp => hterms.2 p hp hs⟩
  exact (keep_gives _ fit).bind fun _ _ => .pure hid

/-- A plan that is looked up is fit. -/
theorem plan?_gives (id : Value) : Gives (Kept strict) strict (plan? id) fun found =>
    ∀ e, found = some e → e.Fit strict Gid.planPrefix :=
  (Gives.lift (Gid.yields_decodeValue id)).bind fun v _ =>
    (Gives.lift (Value.yields_asKey v)).bind fun _ _ => find?_gives _ _

/-- To delete a plan leaves fewer to be fit. -/
theorem deletePlan_gives (id : Value) : Gives (Kept strict) strict (deletePlan id) fun _ => True :=
  (Gives.lift (Gid.yields_decodeValue id)).bind fun v _ =>
    (Gives.lift (Value.yields_asKey v)).bind fun _ _ => erase_gives _ _

/-- Nothing is asked of data here: what the options hold may go anywhere in the plan. -/
theorem updatePlan_gives (h : ¬ strict) (id options : Value) :
    Gives (Kept strict) strict (updatePlan id options) fun _ => True := by
  refine (Gives.lift (Gid.yields_decodeValue id)).bind fun v _ =>
    (Gives.lift (Value.yields_asKey v)).bind fun key _ => (find?_gives _ _).bind fun found hf => ?_
  cases found with
  -- nothing is kept under the key, so nothing is written
  | none => exact .pure trivial
  | some e =>
    obtain ⟨p, rfl, -⟩ := (hf e rfl).exists_plan
    -- the fields of the plan are changed and the plan is kept under the same key
    dsimp only
    split
    · exact .pure trivial
    · refine timestamp_gives.bind fun now _ => Gives.bind (P := fun e => ∃ p, e = .plan p)
        (.lift ((Value.yields_asRecord options).bind fun fields _ => ⟨_, rfl⟩)) ?_
      rintro _ ⟨changed, rfl⟩
      have fit : Entity.Fit strict Gid.planPrefix (.plan changed) := ⟨rfl, fun hs => absurd hs h⟩
      exact (keep_gives key fit).bind fun _ _ => .pure trivial

/-! ### Groups -/

/-- Entities that are looked up one after the other are shown. -/
theorem shownAll_gives {find : Key → Act Shop (Option Entity)} {name : String} {keys : List Key}
    (hkeys : ∀ k ∈ keys, k.toValue.Fit strict)
    (hfind : ∀ k, k.toValue.Fit strict → Gives (Kept strict) strict (find k) fun found =>
      ∀ e, found = some e → e.Fit strict (Gid.kindPrefix name)) :
    Gives (Kept strict) strict (keys.mapM fun k => shown <$> find k) fun vs =>
      Value.Fit strict (.list vs) := by
  refine (Gives.mapM fun k hk => (hfind k (hkeys k hk)).map fun found hf => ?_).mono fun vs =>
    Value.fit_list
  -- What is looked up is shown as its record, or as null.
  refine fun hs => Value.clean_ofOption fun v hv => ?_
  obtain ⟨e, he, rfl⟩ := Option.map_eq_some_iff.1 hv
  exact (hf e he).toValue hs

/-- A group is joined with entities of the shop's own. -/
theorem joined_gives (id : Key) :
    Gives (Kept strict) strict (joined id) (Value.Present strict) := by
  refine (find?_gives _ _).bind fun found hfound => ?_
  cases found with
  | none => exact .throw Fault.tame_shape
  | some e =>
    obtain ⟨g, rfl, hg⟩ := (hfound e rfl).exists_group
    have fields : Gives (Kept strict) strict (liftM (Entity.group g).toValue.toRecord)
        fun fields => Value.Fit strict (.record fields) := .lift hg
    refine fields.bind fun fields hfields => (Gives.lift (Value.yields_asText _)).bind
      fun owner _ => ?_
    -- Plans first, then products, then variants; each list and its count is put into the record.
    refine (connections_gives owner planRelation).bind fun keys hkeys =>
      (shownAll_gives hkeys fun k _ => plan?_gives k.toValue).bind fun plans hplans => ?_
    refine (connections_gives owner productRelation).bind fun keys hkeys =>
      (shownAll_gives hkeys fun k hk => product_gives hk true).bind fun products hproducts => ?_
    refine (connections_gives owner variantRelation).bind fun keys hkeys =>
      (shownAll_gives hkeys fun k hk => variant_gives hk true).bind fun variants hvariants => ?_
    -- Putting a fit value under a proper name keeps a record fit, and a record.
    have put : ∀ {v : Value} {name : String} {w : Value}, v.Fit strict ∧ v.isRecord = true →
        IsMemberName name → w.Fit strict → (v.put name w).Fit strict ∧
          (v.put name w).isRecord = true := by
      intro v name w hv hname hw
      cases v with
      | record fs => exact ⟨hv.1.put hname hw, rfl⟩
      | _ => cases hv.2
    have present : ∀ {v : Value}, v.Fit strict ∧ v.isRecord = true → v.Present strict :=
      fun h => ⟨h.1, Value.isNull_of_isRecord h.2⟩
    exact .pure (present (put (put (put (put (put ⟨hfields, rfl⟩ (by decide) hplans) (by decide)
      hproducts) (by decide) (Value.fit_int _)) (by decide) hvariants) (by decide)
      (Value.fit_int _)))

/-- An identifier that names a group is not null. -/
theorem groupId_gives (id : Value) :
    Gives (Kept strict) strict (groupId id) fun _ => id.isNull = false := by
  unfold groupId
  -- Whether the identifier is null is decided before the key is looked up, on either side.
  refine (Gives.lift (Gid.yields_decodeValue id)).bind fun decoded hdecoded => ?_
  extract_lets known
  have hknown : id.isNull = false → Gives (Kept strict) strict (known ()) fun _ =>
      id.isNull = false := fun hne =>
    (Gives.lift (Value.yields_asKey decoded)).bind fun key _ =>
    (has_gives _ _).bind fun found _ => by
      split
      · exact .pure hne
      · exact .throw Fault.tame_unknownId
  split
  · exact Gives.bind (.throw Fault.tame_unknownId) fun _ (h : False) => h.elim
  · rename_i truthy
    refine hknown ?_
    rcases hdecoded with ⟨s, rfl, -⟩ | ⟨falsy, rfl⟩
    · rfl
    · simp [falsy] at truthy

/-- A group that is read is there, and fit. -/
theorem group_gives (id : Value) : Gives (Kept strict) strict (group id) (Value.Present strict) :=
  (groupId_gives id).bind fun key _ => joined_gives key

/-- A group that is related is there, and fit. -/
theorem relate_gives (relation : Key) (id : Value) {ids : Value}
    (hids : Yields strict ids.elementsOrNone fun vs =>
      ∀ v ∈ vs, v.Fit strict ∧ Gid.FitId strict v) :
    Gives (Kept strict) strict (relate relation id ids) (Value.Present strict) := by
  refine (groupId_gives id).bind fun key _ => (Gives.lift (Value.yields_asText _)).bind
    fun owner _ => (Gives.lift hids).bind fun vs hvs => ?_
  refine (Gives.forM fun v hv => ?_).bind fun _ _ => joined_gives key
  obtain ⟨hv, hid⟩ := hvs v hv
  refine (Gives.lift (hid.decoded hv)).bind fun w hw =>
    (Gives.lift (Value.yields_asKey w)).bind fun k hk => ?_
  exact (connect_gives owner (hk ▸ hw) relation).discard

/-- A group that is deleted had an identifier. -/
theorem deleteGroup_gives (id : Value) :
    Gives (Kept strict) strict (deleteGroup id) fun _ => id.isNull = false :=
  (groupId_gives id).bind fun _ hne => (erase_gives _ _).mono fun _ _ => hne

/-- A page starts and ends at whole numbers, or fails with a tame fault. -/
theorem yields_page {α : Type} (start limit : Value) (items : List α) :
    Yields strict (page start limit items) fun _ => True := by
  have asPlace : ∀ v, Yields strict (asPlace v) fun _ => True := by
    intro v
    cases v with
    | int n => trivial
    | bool b => trivial
    | _ => exact Fault.tame_shape
  unfold page
  split
  · trivial
  · exact (asPlace start).bind fun _ _ => (asPlace limit).bind fun _ _ => trivial

/-- Every group of a page is fit. -/
theorem groups_gives (start limit : Value) :
    Gives (Kept strict) strict (groups start limit) fun vs => ∀ v ∈ vs, v.Fit strict :=
  Gives.get.bind fun _ _ => (Gives.lift (yields_page _ _ _)).bind fun _ _ => .mapM fun _ _ =>
    (Gives.lift (Value.yields_item _ _)).bind fun id _ =>
    (Gives.lift (Gid.yields_decodeValue id)).bind fun v _ =>
    (Gives.lift (Value.yields_asKey v)).bind fun key _ => (joined_gives key).mono fun _ h => h.fit

/-! ### Making groups -/

/-- A single entry stands for a list of one; an empty record stands for none. -/
theorem yields_severalOf {v : Value} (h : v.Fit strict) :
    Yields strict (severalOf v) fun vs => ∀ w ∈ vs, w.Fit strict := by
  cases v with
  | record fields =>
    simp only [severalOf]
    split
    · exact fun w hw => absurd hw List.not_mem_nil
    · exact List.forall_mem_singleton.2 h
  | _ => exact h.elementsOrNone

/-- To add a plan of fit options to a group keeps all fit. -/
theorem addPlan_gives (owner : String) {options : Value} (ho : options.Fit strict) :
    Gives (Kept strict) strict (addPlan owner options) fun _ => True :=
  (createPlan_gives ho Gid.fitId_null).bind fun plan hplan =>
    have fit : (Key.text plan.id).toValue.Fit strict := Value.fit_text hplan
    (connect_gives owner fit planRelation).discard

/-- To drop a plan from a group leaves fewer entities. -/
theorem dropPlan_gives (owner : String) (plan : Value) :
    Gives (Kept strict) strict (dropPlan owner plan) fun _ => True := by
  unfold dropPlan
  extract_lets drop
  have hdrop : ∀ v, Gives (Kept strict) strict (drop v) fun _ => True := fun v =>
    (Gives.lift (Gid.yields_decodeValue v)).bind fun id _ => (deletePlan_gives id).discard.bind
      fun _ _ => (Gives.lift (Value.yields_asKey id)).bind fun key _ =>
      (disconnect_gives owner key planRelation).discard
  split
  · exact (Gives.lift (Value.yields_item plan "id")).bind fun v _ => hdrop v
  · exact Gives.bind (.pure trivial) fun v (_ : True) => hdrop v

/-- To change a plan of a group is only asked for where nothing is asked of values. -/
theorem changePlan_gives (h : ¬ strict) (owner : String) (options : Value) :
    Gives (Kept strict) strict (changePlan owner options) fun _ => True := by
  have fit : ∀ v : Value, v.Fit strict := fun v hs => absurd hs h
  refine (Gives.lift ((fit options).member "id")).bind fun v _ =>
    (Gives.lift (Gid.yields_decodeValue v)).bind fun id _ =>
    (updatePlan_gives h id options).bind fun changed _ => ?_
  cases changed with
  | none => exact .pure trivial
  | some e =>
    exact (Gives.lift (Value.yields_asKey id)).bind fun key _ =>
      (connect_gives owner (fit key.toValue) planRelation).discard

/-- A group that fit options describe. -/
theorem yields_groupOf {options : Value} (ho : options.Fit strict) (id : String) {now : String}
    (hnow : Sendable now.toList) :
    Yields strict (groupOf options id now) fun g =>
      ∀ id, (strict → Sendable id.toList) →
        Value.Fit strict (SellingPlanGroup.toValue { g with id }) := by
  -- The fields are read in the order of the code; the others are constants.
  refine (ho.member _).bind fun appId happ => (ho.member _).bind fun description hdesc =>
    (ho.member _).bind fun code hcode => (ho.member _).bind fun name hname =>
    (ho.member _).bind fun options hoptions => (ho.member _).bind fun position hpos =>
    (ho.member _).bind fun summary hsum => fun id hid hs => ?_
  have several : (options.orElse (.list [])).Clean :=
    hoptions.orElse (fun _ => Value.clean_list_nil) hs
  exact Value.clean_ofFields ["id", "createdAt", "updatedAt", "appId", "appliesToProduct",
    "appliesToProductVariant", "appliesToProductVariants", "description", "merchantCode", "name",
    "options", "position", "productCount", "productVariantCount", "summary"] rfl (by decide)
    (by decide) ⟨.text (Gid.sendable_encode (hid hs)), .text hnow, .text hnow, happ hs, .bool _,
      .bool _, .bool _, hdesc hs, hcode hs, hname hs, several, hpos hs, .int _, .int _, hsum hs⟩

/-- No plans are named that are to be changed, if values are asked to be clean. -/
theorem yields_updates {options : Value}
    (h : strict → options.get? "sellingPlansToUpdate" = none) :
    Yields strict (options.member "sellingPlansToUpdate") fun v => strict → v = .null := by
  cases options with
  | record fields => exact fun hs => congrArg (Option.getD · Value.null) (h hs)
  | _ => exact Fault.tame_shape

/-- A member that is null lists nothing. -/
theorem yields_severalOf_null {v : Value} (h : strict → v = .null) :
    Yields strict (severalOf v) fun vs => ∀ w ∈ vs, ¬ strict := by
  by_cases hs : strict
  · rw [h hs]
    exact fun w hw => absurd hw List.not_mem_nil
  · exact (yields_severalOf fun hs' => absurd hs' hs).mono fun _ _ _ _ => hs

/-- To make a group of fit options answers with a group that is there, and fit. -/
theorem createGroup_gives {options given : Value} (ho : options.Fit strict)
    (hgiven : Gid.FitId strict given)
    (hupdates : strict → options.get? "sellingPlansToUpdate" = none) :
    Gives (Kept strict) strict (createGroup options given) (Value.Present strict) := by
  unfold createGroup
  refine timestamp_gives.bind fun now hnow =>
    (Gives.lift (yields_groupOf ho "" hnow)).bind fun draft hdraft => ?_
  extract_lets missing make
  have hmake : ∀ u, Gives (Kept strict) strict (make u) (Value.Present strict) := by
    intro u
    refine (givenOrFreshId_gives (by decide) (by decide) hgiven).bind fun id hid => ?_
    have fit : Entity.Fit strict Gid.groupPrefix (.group { draft with id }) := ⟨rfl, hdraft id hid⟩
    refine (Gives.lift (Gid.yields_encodeText id)).discard.bind fun _ _ =>
      (keep_gives (.text id) fit).bind fun _ _ => ?_
    -- The group is kept first; then plans are added, dropped and changed.
    refine (Gives.lift (ho.member _)).bind fun v hv => (Gives.lift (yields_severalOf hv)).bind
      fun added hadded => (Gives.forM fun o ho => addPlan_gives id (hadded o ho)).bind fun _ _ => ?_
    refine (Gives.lift (ho.member _)).bind fun v hv => (Gives.lift (yields_severalOf hv)).bind
      fun dropped _ => (Gives.forM fun o _ => dropPlan_gives id o).bind fun _ _ => ?_
    refine (Gives.lift (yields_updates hupdates)).bind fun v hv =>
      (Gives.lift (yields_severalOf_null hv)).bind fun changed hchanged => ?_
    exact (Gives.forM fun o ho => changePlan_gives (hchanged o ho) id o).bind
      fun _ _ => joined_gives _
  -- What is missing is named in the order of the check.
  split
  · rename_i hmissing
    refine Gives.bind (.throw (Fault.tame_rejected (fun h => ?_) fun _ v hv => ?_))
      fun u (_ : True) => hmake u
    · rw [List.map_eq_nil_iff.1 h] at hmissing
      cases hmissing
    · obtain ⟨p, hp, rfl⟩ := List.mem_map.1 hv
      have names : ∀ q ∈ [("name", draft.name), ("merchantCode", draft.merchantCode)],
          Sendable q.1.toList := by
        rw [← List.forall_iff_forall_mem]
        exact ⟨(by decide : Sendable "name".toList), (by decide : Sendable "merchantCode".toList)⟩
      exact .text (names p (List.mem_of_mem_filter hp))
  · exact hmake ()

end Storefront.Shop
