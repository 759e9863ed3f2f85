import Storefront.Proofs.CatalogueNames
import Storefront.Proofs.GroupViews

/-! # The two views of a variant

A variant is shown by itself, and it is listed by its product.  Each lookup gives the same record
whenever it is made.  But the two are made up apart: a product keeps the variant that it lists to
itself, and a variant that is looked up names a product that was not asked for.  Since every picture
has an identifier of its own, the two views of a variant never agree.

* `PicturesApart` : the pictures of the listed variants are not those of the variants by themselves
* `Reachable.product_lookup`, `Reachable.variant_lookup` : what a lookup answers, then and later
* `Reachable.views_apart` : a variant by itself is never the one that its product lists -/

namespace Storefront.Shop

variable {s s₁ s₂ s' : Shop} {id : String}

/-! ### Pictures -/

/-- The picture of a variant has an identifier that was handed out. -/
def Pictures (s : Shop) (v : Variant) : Prop := ∃ t ∈ s.seen, v.image.id = Gid.imagePrefix ++ t

/-- The product lists a single variant, which is made up for it: its identifier and its picture were
handed out. -/
def Lists (s : Shop) (id : String) (p : Product) (v : Variant) : Prop :=
  p.variants = [v] ∧ v.productId = .text id ∧ s.Pictures v ∧
    ∃ t ∈ s.seen, v.id = .text (Gid.variantPrefix ++ t)

/-- A picture that was handed out stays so. -/
theorem Pictures.mono {v : Variant} (h : s.Pictures v) (seen : s.seen ⊆ s'.seen) :
    s'.Pictures v := by
  obtain ⟨t, ht, hid⟩ := h
  exact ⟨t, seen ht, hid⟩

/-- A product goes on to list its variant. -/
theorem Lists.mono {p : Product} {v : Variant} (h : s.Lists id p v) (seen : s.seen ⊆ s'.seen) :
    s'.Lists id p v := by
  obtain ⟨single, product, pictures, t, ht, hid⟩ := h
  exact ⟨single, product, pictures.mono seen, t, seen ht, hid⟩

/-- A picture that is handed out is none that was handed out before. -/
theorem image_ne {v w : Variant} (h : s.Pictures v) (hw : w.IsPictured s s') :
    v.image.id ≠ w.image.id := by
  obtain ⟨t, ht, hv⟩ := h
  obtain ⟨t', handed, hw⟩ := hw
  intro same
  rw [hv, hw, String.append_right_inj] at same
  exact handed.1 (same ▸ ht)

/-- A picture that is handed out was handed out from then on. -/
theorem isPictured_pictures {v : Variant} (h : v.IsPictured s s') :
    s'.Pictures v := by
  obtain ⟨t, handed, hid⟩ := h
  exact ⟨t, handed.2, hid⟩

/-- Variants by themselves and variants that products list have pictures that were handed out, and
none of the former has the picture of one of the latter. -/
structure PicturesApart (s : Shop) : Prop where
  variants : ∀ id w, s.entity? Gid.variantPrefix (.text id) = some (.variant w) → s.Pictures w
  products : ∀ id p, s.entity? Gid.productPrefix (.text id) = some (.product p) →
    ∃ v, s.Lists id p v
  apart : ∀ id w id' p v, s.entity? Gid.variantPrefix (.text id) = some (.variant w) →
    s.entity? Gid.productPrefix (.text id') = some (.product p) → v ∈ p.variants →
    v.image.id ≠ w.image.id

/-- That pictures are apart is kept by all that the catalogue does. -/
theorem ofCatalogue_picturesApart : OfCatalogue PicturesApart where
  same h hs := {
    variants := fun id w he => (hs.variants id w (h.variants _ ▸ he)).mono h.seen
    products := fun id p he => by
      obtain ⟨v, lists⟩ := hs.products id p (h.products _ ▸ he)
      exact ⟨v, lists.mono h.seen⟩
    apart := fun id w id' p v he he' hv =>
      hs.apart id w id' p v (h.variants _ ▸ he) (h.products _ ▸ he') hv }
  variant {s s₁ key w₀} hs _ drawn _ _ pictured := by
    -- The products are as before.
    have kept : ∀ id p, (s₁.withEntity Gid.variantPrefix key (.variant w₀)).entity?
      Gid.productPrefix
        (.text id) = some (.product p) →
        s.entity? Gid.productPrefix (.text id) = some (.product p) := fun id p he => by
      rwa [entity?_withEntity_of_ne _ (.inl (by decide)), drawn.entity?_eq] at he
    refine ⟨fun id w he => ?_, fun id p he => ?_, fun id w id' p v he he' hv => ?_⟩
    · -- The variant is the one that was made up, or it was there before.
      obtain ⟨rfl, ⟨⟩⟩ | he := entity?_withEntity_cases he
      · exact (isPictured_pictures pictured)
      · exact (hs.variants id w (drawn.entity?_eq .. ▸ he)).mono drawn.seen_subset
    · obtain ⟨v, lists⟩ := hs.products id p (kept id p he)
      exact ⟨v, lists.mono drawn.seen_subset⟩
    · obtain ⟨rfl, ⟨⟩⟩ | he := entity?_withEntity_cases he
      · -- The picture is new, unlike that of a variant that was listed before.
        obtain ⟨v', single, -, pictures, -⟩ := hs.products id' p (kept id' p he')
        obtain rfl : v = v' := by simpa [single] using hv
        exact image_ne pictures pictured
      · exact hs.apart id w id' p v (drawn.entity?_eq .. ▸ he) (kept id' p he') hv
  product {s s₁ key p₀} hs _ drawn made := by
    obtain ⟨v₀, single, product, pictured, t, handed, hid⟩ := made.variant
    -- The variants are as before.
    have kept : ∀ id w, (s₁.withEntity Gid.productPrefix key (.product p₀)).entity?
      Gid.variantPrefix
        (.text id) = some (.variant w) →
        s.entity? Gid.variantPrefix (.text id) = some (.variant w) := fun id p he => by
      rwa [entity?_withEntity_of_ne _ (.inl (by decide)), drawn.entity?_eq] at he
    refine ⟨fun id w he => ?_, fun id p he => ?_, fun id w id' p v he he' hv => ?_⟩
    · exact (hs.variants id w (kept id w he)).mono drawn.seen_subset
    · -- The product is the one that was made up, or it was there before.
      obtain ⟨rfl, ⟨⟩⟩ | he := entity?_withEntity_cases he
      · exact ⟨v₀, single, product, (isPictured_pictures pictured), t, handed.2, hid⟩
      · obtain ⟨v, lists⟩ := hs.products id p (drawn.entity?_eq .. ▸ he)
        exact ⟨v, lists.mono drawn.seen_subset⟩
    · obtain ⟨rfl, ⟨⟩⟩ | he' := entity?_withEntity_cases he'
      · obtain rfl : v = v₀ := by simpa [single] using hv
        exact (image_ne (hs.variants id w (kept id w he)) pictured).symm
      · exact hs.apart id w id' p v (kept id w he) (drawn.entity?_eq .. ▸ he') hv

/-- In a new shop there is nothing to tell apart. -/
theorem picturesApart_new (context : Context) (supply : Supply) :
    (Shop.new context supply).PicturesApart where
  variants _ _ he := by cases he
  products _ _ he := by cases he
  apart _ _ _ _ _ he := by cases he

/-- In every shop that is reached, pictures are apart. -/
theorem Reachable.picturesApart (h : Reachable s) : s.PicturesApart :=
  ofCatalogue_picturesApart.reachable picturesApart_new h

/-! ### Lookups -/

/-- What comes later is reached, too. -/
theorem Later.reachable (h : Later s s') (hs : Reachable s) : Reachable s' := by
  induction h with
  | refl => exact hs
  | request _ r ih => exact ih.request r
  | passage _ supply ih => exact ih.passage supply

/-- What is looked up is looked up again without any change, however much later. -/
theorem Finds.later {kind : String} {find : Key → Act Shop (Option Entity)} (h : Finds kind find)
    (kept : ∀ {s s'}, Remembers s s' → StillHas kind s s') {k : Key} {e : Option Entity}
    (he : Act.on (find k) s = (.ok e, s₁)) (later : Later s₁ s₂) :
    Act.on (find k) s₂ = (.ok e, s₂) := by
  obtain ⟨found, present⟩ := h.found he
  obtain ⟨entity, rfl⟩ := Option.isSome_iff_exists.1 present
  have known := kept later.remembers k entity found
  rw [h.again (by rw [known]; rfl), known]

/-- A lookup leads to a later shop. -/
theorem Later.lookup (r : SideRequest) {s' : Shop} (h : (Act.on r.run s).2 = s') : Later s s' :=
  h ▸ .request .refl (.side r)

/-- Looking a product up leads to a later shop. -/
theorem later_product {e : Except Fault (Option Entity)}
    (he : Act.on (product (.text id) true) s = (e, s₁)) : Later s s₁ :=
  .lookup (.product (.text id) true) (by rw [SideRequest.run, Act.on_discard_snd, he])

/-- So does looking a variant up. -/
theorem later_variant {e : Except Fault (Option Entity)}
    (he : Act.on (variant (.text id) true) s = (e, s₁)) : Later s s₁ :=
  .lookup (.variant (.text id) true) (by rw [SideRequest.run, Act.on_discard_snd, he])

/-- A product that is looked up has the identifier that was asked for, and lists one variant. -/
theorem Reachable.product_lookup {e : Option Entity} (h : Reachable s)
    (he : Act.on (product (.text id) true) s = (.ok e, s₁)) : ∃ p v, e = some (.product p) ∧
      s₁.entity? Gid.productPrefix (.text id) = some (.product p) ∧ p.id = .text id ∧
      s₁.Lists id p v := by
  have reached : Reachable s₁ := (later_product he).reachable h
  obtain ⟨found, present⟩ := finds_product.found he
  obtain ⟨entity, rfl⟩ := Option.isSome_iff_exists.1 present
  obtain ⟨p, rfl, -⟩ := (reached.kept.fit found).exists_product
  obtain ⟨v, lists⟩ := reached.picturesApart.products id p found
  exact ⟨p, v, rfl, found, reached.namesCatalogue.products id p found, lists⟩

/-- A variant that is looked up has the identifier that was asked for, unless that is empty, and
names a product. -/
theorem Reachable.variant_lookup {e : Option Entity} (h : Reachable s)
    (he : Act.on (variant (.text id) true) s = (.ok e, s₁)) : ∃ w pid, e = some (.variant w) ∧
      s₁.entity? Gid.variantPrefix (.text id) = some (.variant w) ∧ (id ≠ "" → w.id = .text id) ∧
      w.productId = .text pid := by
  have reached : Reachable s₁ := (later_variant he).reachable h
  obtain ⟨found, present⟩ := finds_variant.found he
  obtain ⟨entity, rfl⟩ := Option.isSome_iff_exists.1 present
  obtain ⟨w, rfl, ⟨pid, hpid⟩, -⟩ := reached.coherent.catalogue _ _ found
  exact ⟨w, pid, rfl, found, fun hid => reached.namesCatalogue.variants id w hid found, hpid⟩

/-- A product lists a single variant, made up for it, and a variant names a product; a lookup gives
the same record however much later it is made again.  But the variant of a product, looked up by
itself, has another picture than the product lists, and so does the variant that the product of a
variant lists. -/
theorem Reachable.views_apart (h : Reachable s) :
    (∀ id e s₁, Act.on (product (.text id) true) s = (.ok e, s₁) →
      ∃ p v t, e = some (.product p) ∧ p.id = .text id ∧ p.variants = [v] ∧ v.productId = .text id ∧
        v.id = .text (Gid.variantPrefix ++ t) ∧ ∀ s₂, Later s₁ s₂ →
          Act.on (product (.text id) true) s₂ = (.ok e, s₂) ∧
          ∀ e' s₃, Act.on (variant (.text (Gid.variantPrefix ++ t)) true) s₂ = (.ok e', s₃) →
            ∃ w, e' = some (.variant w) ∧ w.id = v.id ∧ w.image.id ≠ v.image.id) ∧
    (∀ id e s₁, Act.on (variant (.text id) true) s = (.ok e, s₁) →
      ∃ w pid, e = some (.variant w) ∧ (id ≠ "" → w.id = .text id) ∧ w.productId = .text pid ∧
        ∀ s₂, Later s₁ s₂ → Act.on (variant (.text id) true) s₂ = (.ok e, s₂) ∧
          ∀ e' s₃, Act.on (product (.text pid) true) s₂ = (.ok e', s₃) →
            ∃ p v, e' = some (.product p) ∧ p.variants = [v] ∧ v.image.id ≠ w.image.id ∧
              ∃ t ∈ s₃.seen, v.id = .text (Gid.variantPrefix ++ t)) := by
  refine ⟨fun id e s₁ he => ?_, fun id e s₁ he => ?_⟩
  · have reached : Reachable s₁ := (later_product he).reachable h
    obtain ⟨p, v, rfl, found, hid, single, ofProduct, -, t, -, hv⟩ := h.product_lookup he
    -- The lookup is made once more after anything else, and the variant is looked up after that.
    refine ⟨p, v, t, rfl, hid, single, ofProduct, hv, fun s₂ later =>
      ⟨finds_product.later (·.products) he later, fun e' s₃ he' => ?_⟩⟩
    have reached₂ : Reachable s₂ := later.reachable reached
    obtain ⟨w, -, rfl, shown, named, -⟩ := reached₂.variant_lookup he'
    have listed : s₃.entity? Gid.productPrefix (.text id) = some (.product p) :=
      (later_variant he').remembers.products _ _ (later.remembers.products _ _ found)
    -- Both views are kept in the last shop, where their pictures are apart.
    have apart := ((later_variant he').reachable reached₂).picturesApart.apart
      _ w _ p v shown listed (by simp [single])
    exact ⟨w, rfl, (named (by simp [Gid.variantPrefix, Gid.kindPrefix])).trans hv.symm, apart.symm⟩
  · have reached : Reachable s₁ := (later_variant he).reachable h
    obtain ⟨w, pid, rfl, found, hid, ofProduct⟩ := h.variant_lookup he
    refine ⟨w, pid, rfl, hid, ofProduct, fun s₂ later =>
      ⟨finds_variant.later (·.variants) he later, fun e' s₃ he' => ?_⟩⟩
    have reached₂ : Reachable s₂ := later.reachable reached
    obtain ⟨p, v, rfl, listed, -, single, -, -, made⟩ := reached₂.product_lookup he'
    have shown : s₃.entity? Gid.variantPrefix (.text id) = some (.variant w) :=
      (later_product he').remembers.variants _ _ (later.remembers.variants _ _ found)
    have apart := ((later_product he').reachable reached₂).picturesApart.apart
      _ w _ p v shown listed (by simp [single])
    exact ⟨p, v, rfl, single, apart, made⟩

/-- A shop in which nothing was looked up yet. -/
def sampleEmpty : Shop := .new default (.fresh 0 0 [])

/-- The first product of an empty shop. -/
theorem Reachable.views_apart_sample : ∃ e s₁ p v t,
    Act.on (product (.text (Gid.productPrefix ++ "1")) true) sampleEmpty = (.ok e, s₁) ∧
    e = some (.product p) ∧ p.variants = [v] ∧ v.id = .text (Gid.variantPrefix ++ t) ∧
    ∀ s₂, Later s₁ s₂ → ∀ e' s₃,
      Act.on (variant (.text (Gid.variantPrefix ++ t)) true) s₂ = (.ok e', s₃) →
        ∃ w, e' = some (.variant w) ∧ w.id = v.id ∧ w.image.id ≠ v.image.id := by
  obtain ⟨e, he⟩ := Act.eq_ok_of_toBool
    (p := Act.on (product (.text (Gid.productPrefix ++ "1")) true) sampleEmpty) (by decide +kernel)
  obtain ⟨p, v, t, hp, -, single, -, hv, apart⟩ :=
    (Reachable.views_apart (Reachable.new default (.fresh 0 0 []))).1 _ e _ he
  exact ⟨e, _, p, v, t, he, hp, single, hv, fun s₂ later => (apart s₂ later).2⟩

/-- The title under which a variant is shown, by itself or in the list of its product. -/
def titleIn (vid : String) : Option Entity → Option String
  | some (.product p) => (p.variants.find? (·.id.toKey? = some (.text vid))).map (·.title)
  | some (.variant v) => some v.title
  | _ => none

/-- The variant that a product lists is made up again when it is looked up by itself. -/
theorem listed_variant_made_again : ¬ ∀ (s s₁ s₂ : Shop) (id vid : String) (p : Product)
    (v w : Variant), Reachable s →
    Act.on (product (.text id) true) s = (.ok (some (.product p)), s₁) → v ∈ p.variants →
    v.id = .text vid → Act.on (variant (.text vid) true) s₁ = (.ok (some (.variant w)), s₂) →
    w.title = v.title ∧ w.price = v.price ∧ w.productId = v.productId ∧ w.image = v.image := by
  intro agrees
  let id := Gid.productPrefix ++ "1"
  let vid := Gid.variantPrefix ++ "ProductVariant-1"
  let listed := Act.on (product (.text id) true) sampleEmpty
  -- Only the titles are computed; they differ.
  let alone := Act.on (variant (.text vid) true) listed.2
  have titles : listed.1.toOption.map (titleIn vid) = some (some "Sweet brown vodka") ∧
      alone.1.toOption.map (titleIn vid) = some (some "Strong golden rum") := by decide +kernel
  have empty : Reachable sampleEmpty := .new default _
  obtain ⟨e, he⟩ : ∃ e, listed = (.ok e, listed.2) := Act.eq_ok_of_toBool (by decide +kernel)
  obtain ⟨e', he'⟩ : ∃ e', alone = (.ok e', alone.2) := Act.eq_ok_of_toBool (by decide +kernel)
  obtain ⟨p, -, rfl, -⟩ := empty.product_lookup he
  obtain ⟨w, -, rfl, -⟩ := ((later_product he).reachable empty).variant_lookup he'
  rw [congrArg Prod.fst he, congrArg Prod.fst he'] at titles
  obtain ⟨inList, byItself⟩ := titles
  obtain ⟨v, found, hv⟩ := Option.map_eq_some_iff.1 (Option.some.inj inList)
  have named : v.id = .text vid := by
    have key : v.id.toKey? = some (.text vid) := by simpa using List.find?_some found
    generalize v.id = value at key
    cases value <;> simp [Value.toKey?] at key
    exact congrArg _ key
  have same := (agrees _ _ _ _ _ p v w empty he (List.mem_of_find?_eq_some found) named he').1
  rw [Option.some.inj (Option.some.inj byItself), hv] at same
  exact absurd same (by decide)

end Storefront.Shop
