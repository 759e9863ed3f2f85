import Mathlib.Data.List.Nodup
import Storefront.Proofs.Coherent

/-! # The shape of the records that a shop shows

A cart is kept as data of the shop's own and shown as a record whose identifiers are encoded.
`CartRecord.InOrder` says of such a record, in terms of its members alone, what `Coherent` says of
the carts of a shop; a cart that is ever kept shows a record that is in order. -/

namespace Storefront

/-! ### Members of records -/

/-- A record made of named fields is read from the front. -/
@[simp] theorem Value.item_ofFields_cons (name other : String) (v : Value)
    (fields : List (String × Value)) :
    (Value.ofFields ((name, v) :: fields)).item other =
      if name = other then .ok v else (Value.ofFields fields).item other := by
  by_cases h : name = other <;> simp [Value.ofFields, Value.item, Assoc.get?_cons, h]

/-- A step that gives a result is followed by the rest. -/
@[simp] theorem Value.ok_bind {α β : Type} (a : α) (f : α → Except Fault β) :
    ((Except.ok a : Except Fault α) >>= f) = f a := rfl

namespace CartRecord

/-- The raw identifiers of the lines of a cart. -/
def rawLineIds (cart : Value) : Except Fault (List Value) := do
  (← (← edges cart).elements).mapM lineId

/-- The raw identifiers of the variants of the lines of a cart. -/
def rawVariantIds (cart : Value) : Except Fault (List Value) := do
  (← (← edges cart).elements).mapM variantId

/-- A line has at least one piece, and repeats the product, the title and the first picture of the
record that the shop has of its variant, with identifiers encoded. -/
structure LineInOrder (s : Shop) (line : Value) : Prop where
  quantity : ∃ n : Int, line.item "quantity" = .ok (.int n) ∧ 1 ≤ n
  snapshot : ∃ merchandise product variant e id title image,
    line.item "merchandise" = .ok merchandise ∧ merchandise.item "product" = .ok product ∧
    (merchandise.item "id" >>= Gid.decodeValue) = .ok (.text variant) ∧
    s.entity? Gid.variantPrefix (.text variant) = some e ∧
    product.item "id" = .ok id ∧ (e.toValue.item "product_id" >>= Gid.encodeValue) = .ok id ∧
    product.item "title" = .ok title ∧ e.toValue.item "title" = .ok title ∧
    product.item "images" = .ok (edgesOf [image]) ∧ Shop.pictureOf e.toValue = .ok image

/-- A cart is in order under an identifier. -/
structure InOrder (s : Shop) (k : String) (cart : Value) : Prop where
  id : (cart.item "id" >>= Gid.decodeValue) = .ok (.text k)
  lineIds : ∃ ids, rawLineIds cart = .ok ids ∧ ids.Nodup
  variantIds : ∃ ids, rawVariantIds cart = .ok ids ∧ ids.Nodup
  lines : ∃ es, edges cart = .ok (.list es) ∧
    ∀ edge ∈ es, ∃ line, lineOf edge = .ok line ∧ LineInOrder s line
  attributes : ∃ rows keys, cart.item "attributes" = .ok (.list rows) ∧
    rows.mapM (·.item "key") = .ok keys ∧ (keys.map Cart.foldedKey).Nodup
  discount : ∃ codes, cart.item "discountCodes" = .ok (.list codes) ∧ codes.length ≤ 1 ∧
    ∀ d ∈ codes, ∃ code, d.item "code" = .ok code ∧
      d.item "applicable" = .ok (.bool (Discount.isAccepted code))
  duty : (cart.item "estimatedCost" >>= (·.item "totalDutyAmount")) = .ok .null

/-! ### What a cart shows -/

/-- The edge of a line. -/
def edgeOf (l : Line) : Value := .ofFields [("node", l.toValue)]

/-- The lines of a cart are shown as edges. -/
theorem edges_toValue (c : Cart) : edges c.toValue = .ok (.list (c.lines.map edgeOf)) := by
  simp [edges, Cart.toValue, edgesOf, Function.comp_def, edgeOf]

/-- An edge is read as the line. -/
@[simp] theorem lineOf_edgeOf (l : Line) : lineOf (edgeOf l) = .ok l.toValue := by
  simp [lineOf, edgeOf]

/-- The raw identifier of a line is that of its edge. -/
@[simp] theorem lineId_edgeOf (l : Line) :
    lineId (edgeOf l) = .ok (.text (Gid.decode l.id)) := by
  simp [lineId, Line.toValue]

/-- So is that of its variant. -/
@[simp] theorem variantId_edgeOf (l : Line) :
    variantId (edgeOf l) = .ok (.text (Gid.decode l.variant)) := by
  simp [variantId, Line.toValue]

/-- What reads the edges of lines reads them one by one. -/
theorem mapM_edgeOf {f : Value → Except Fault Value} {g : Line → Value}
    (h : ∀ l, f (edgeOf l) = .ok (g l)) (ls : List Line) :
    (ls.map edgeOf).mapM f = .ok (ls.map g) := by
  induction ls with
  | nil => rfl
  | cons l ls ih => rw [List.map_cons, List.mapM_cons, h, ih]; rfl

/-- The raw identifiers of a cart's lines are read from its record. -/
theorem rawLineIds_toValue (c : Cart) :
    rawLineIds c.toValue = .ok (c.lines.map fun l => .text (Gid.decode l.id)) := by
  simp [rawLineIds, edges_toValue, mapM_edgeOf lineId_edgeOf]

/-- So are those of their variants. -/
theorem rawVariantIds_toValue (c : Cart) :
    rawVariantIds c.toValue = .ok (c.lines.map fun l => .text (Gid.decode l.variant)) := by
  simp [rawVariantIds, edges_toValue, mapM_edgeOf variantId_edgeOf]

end CartRecord

/-- The record of what a line sells. -/
def Line.merchandise (l : Line) (product : Value) : Value :=
  .ofFields [("id", Gid.encode l.variant), ("title", "Default Title"),
    ("priceV2", l.price.toValue), ("product", product)]

/-- The snapshot of the product of a line. -/
def Line.snapshot (l : Line) : Value :=
  .ofFields [("id", l.product), ("availableForSale", .bool true),
    ("variants", edgesOf [.ofFields [("id", Gid.encode l.variant)]]), ("title", l.title),
    ("images", edgesOf [l.image])]

/-- The record of a line holds what it sells, with a snapshot of the product. -/
theorem Line.item_merchandise (l : Line) :
    l.toValue.item "merchandise" = .ok (l.merchandise l.snapshot) := by
  simp [toValue, merchandise, snapshot]

/-- The identifier of a line in order is raw. -/
theorem Line.Sound.decode_id {s : Shop} {l : Line} (h : l.Sound s) : Gid.decode l.id = l.id := by
  obtain ⟨t, -, ht⟩ := h.id
  rw [ht]
  exact Gid.decode_of_isRaw (Gid.isRaw_kindPrefix_append _ _)

/-- A line that is sound shows a record in order. -/
theorem Line.Sound.inOrder {s : Shop} {l : Line} (h : l.Sound s) :
    CartRecord.LineInOrder s l.toValue where
  quantity := ⟨l.quantity, by simp [toValue], h.quantity⟩
  snapshot := by
    -- The snapshot was taken from the record of the variant, which the shop still has.
    obtain ⟨v, hv, -, shows⟩ := h.record
    refine ⟨_, l.snapshot, l.variant, .variant v, l.product, l.title, l.image, l.item_merchandise,
      ?_, ?_, hv, ?_, shows.product, ?_, shows.title, ?_, shows.image⟩
    · simp [merchandise]
    · simp [merchandise, h.variant]
    · simp [Line.snapshot]
    · simp [Line.snapshot]
    · simp [Line.snapshot]

/-- Texts differ as their contents do. -/
theorem nodup_map_text {α : Type} {f : α → String} {as : List α} (h : (as.map f).Nodup) :
    (as.map fun a => Value.text (f a)).Nodup := by
  have texts : ((as.map f).map Value.text).Nodup := h.map fun _ _ h => Value.text.inj h
  rwa [List.map_map] at texts

/-- A cart that is sound shows a record in order. -/
theorem Cart.Sound.inOrder {taken : String → Prop} {s : Shop} {k : String} {c : Cart}
    (h : c.Sound taken s k) : CartRecord.InOrder s k c.toValue where
  id := by simp [toValue, h.id, h.decoded]
  lineIds := by
    -- Line identifiers are raw, so decoding them does not make any two the same.
    refine ⟨_, CartRecord.rawLineIds_toValue c, nodup_map_text ?_⟩
    rw [List.map_congr_left fun l hl => (h.lines.sound l hl).decode_id]
    exact h.lines.ids
  variantIds := by
    refine ⟨_, CartRecord.rawVariantIds_toValue c, nodup_map_text ?_⟩
    rw [List.map_congr_left fun l hl => (h.lines.sound l hl).variant]
    exact h.lines.variants
  lines := by
    refine ⟨_, CartRecord.edges_toValue c, fun edge hedge => ?_⟩
    obtain ⟨l, hl, rfl⟩ := List.mem_map.1 hedge
    exact ⟨l.toValue, CartRecord.lineOf_edgeOf l, (h.lines.sound l hl).inOrder⟩
  attributes := by
    refine ⟨c.attributes.map (·.toValue), c.attributes.map (·.key), by simp [toValue], ?_, ?_⟩
    · -- Each row shows its own key.
      induction c.attributes with
      | nil => rfl
      | cons a as ih => rw [List.map_cons, List.mapM_cons, ih]; simp [Attribute.toValue]
    · have := h.attributes
      rwa [List.map_map]
  discount := by
    refine ⟨c.discount.toList.map codeValue, by simp [toValue], ?_, fun d hd => ?_⟩
    · -- There is one code, or none.
      cases c.discount <;> simp
    · obtain ⟨d, hmem, rfl⟩ := List.mem_map.1 hd
      have := h.discount d (Option.mem_toList.1 hmem)
      exact ⟨d.code, by simp [codeValue], by simp [codeValue, this]⟩
  duty := by simp [toValue, costValue]

namespace Shop

/-- Every cart of a shop that is ever reached shows a record in order, and shares the identifier of
no line with any other cart. -/
theorem Reachable.carts_inOrder {s : Shop} (h : Reachable s) {id : Key} {e : Entity}
    (he : s.entity? Gid.cartPrefix id = some e) :
    (∃ k, id = .text k ∧ CartRecord.InOrder s k e.toValue) ∧
    ∀ id' e', (id' == id) = false → s.entity? Gid.cartPrefix id' = some e' →
      ∃ ids ids', CartRecord.rawLineIds e.toValue = .ok ids ∧
        CartRecord.rawLineIds e'.toValue = .ok ids' ∧ ids.Disjoint ids' := by
  have coherent := h.coherent
  obtain ⟨k, c, rfl, rfl⟩ := coherent.own id e he
  have sound := coherent.carts k c he
  refine ⟨⟨k, rfl, sound.inOrder⟩, fun id' e' hne he' => ?_⟩
  obtain ⟨k', c', rfl, rfl⟩ := coherent.own id' e' he'
  have sound' := coherent.carts k' c' he'
  refine ⟨_, _, CartRecord.rawLineIds_toValue c, CartRecord.rawLineIds_toValue c', ?_⟩
  intro v hv hv'
  -- A shared identifier would be that of two lines in two carts.
  obtain ⟨l, hl, rfl⟩ := List.mem_map.1 hv
  obtain ⟨l', hl', heq⟩ := List.mem_map.1 hv'
  rw [(sound.lines.sound l hl).decode_id, (sound'.lines.sound l' hl').decode_id] at heq
  have hk : k' ≠ k := by simpa using hne
  exact sound.lines.apart l hl ⟨k', c', hk, he', l', hl', Value.text.inj heq⟩

/-- The cart of the sample shows a record in order. -/
theorem Reachable.carts_inOrder_sample : ∃ e,
    sample.entity? Gid.cartPrefix (.text sampleId) = some e ∧
    (∃ k, Key.text sampleId = .text k ∧ CartRecord.InOrder sample k e.toValue) ∧
    ∀ id' e', (id' == Key.text sampleId) = false →
      sample.entity? Gid.cartPrefix id' = some e' → ∃ ids ids',
        CartRecord.rawLineIds e.toValue = .ok ids ∧
        CartRecord.rawLineIds e'.toValue = .ok ids' ∧ ids.Disjoint ids' := by
  obtain ⟨e, he⟩ : ∃ e, sample.entity? Gid.cartPrefix (.text sampleId) = some e :=
    Option.isSome_iff_exists.1 (by decide +kernel)
  exact ⟨e, he, Reachable.carts_inOrder reachable_sample he⟩

end Shop
end Storefront
