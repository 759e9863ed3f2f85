import Storefront.CartView
import Storefront.Proofs.Amounts
import Storefront.Proofs.Records

/-! # The two views of the lines of a cart

The lines of a cart are displayed all together or one at a time.  The two agree on any record that
can be displayed at all, whatever else is in it: edges without content are passed over by both, and
of several lines under one identifier, the first is shown.  A cart of the shop can always be
displayed, each of its lines as one item.

* `CartView.item_of_items` : one line is the first of all lines under its identifier
* `exists_items` : lines of the shop, each displayed as one item
* `CartView.line_views_agree` : both, for every record and every shop that is reached -/

namespace Storefront

namespace Value

/-- A member of an object is looked for under the first name first. -/
@[simp] theorem member_ofFields_cons (name other : String) (v : Value)
    (fields : List (String × Value)) :
    (Value.ofFields ((name, v) :: fields)).member other =
      if name = other then .ok v else (Value.ofFields fields).member other := by
  by_cases h : name = other <;> simp [Value.ofFields, Value.member, Assoc.get?_cons, h]

/-- And so is a member with a default. -/
@[simp] theorem memberOr_ofFields_cons (name other : String) (v d : Value)
    (fields : List (String × Value)) :
    (Value.ofFields ((name, v) :: fields)).memberOr other d =
      if name = other then .ok v else (Value.ofFields fields).memberOr other d := by
  by_cases h : name = other <;> simp [Value.ofFields, Value.memberOr, Assoc.get?_cons, h]

end Value

namespace CartView

variable {v : CartView} {detailed : Bool} {edge : Value} {edges : List Value} {id : String}

/-! ### Any record -/

/-- What is shown of an edge is under the identifier of its content; an edge without content is not
shown. -/
theorem item?_eq_ok {i : Option Item} (h : item? detailed edge = .ok i) :
    ∃ node, edge.member "node" = .ok node ∧
      (node.truthy = false ∧ i = none ∨
        node.truthy = true ∧ ∃ shown, i = some shown ∧
          (node.member "id" >>= Gid.decodeValue) = .ok shown.id) := by
  obtain ⟨node, hnode, h⟩ := Act.except_bind_eq_ok.1 h
  refine ⟨node, hnode, ?_⟩
  split at h
  · rename_i falsy
    exact .inl ⟨by simpa using falsy, (Except.ok.inj h).symm⟩
  · rename_i truthy
    simp only [Act.except_bind_eq_ok] at h
    obtain ⟨_, -, _, -, id, hid, raw, hraw, _, -, _, -, _, -, _, -, h⟩ := h
    suffices kept : ∃ shown, i = some shown ∧ shown.id = raw by
      obtain ⟨shown, rfl, rfl⟩ := kept
      exact .inr ⟨by simpa using truthy, shown, rfl, Act.except_bind_eq_ok.2 ⟨id, hid, hraw⟩⟩
    split at h
    · exact ⟨_, (Except.ok.inj h).symm, rfl⟩
    · -- Details are added to what is shown, and the identifier is none of them.
      simp only [Act.except_bind_eq_ok] at h
      obtain ⟨_, -, _, -, variant?, -, h⟩ := h
      cases variant? <;> simp only [Act.except_bind_eq_ok] at h
      · obtain ⟨_, -, image?, -, h⟩ := h
        cases image? <;> simp only [Act.except_bind_eq_ok] at h <;> obtain ⟨_, -, h⟩ := h <;>
          exact ⟨_, (Except.ok.inj h).symm, rfl⟩
      · obtain ⟨_, -, _, -, image?, -, h⟩ := h
        cases image? <;> simp only [Act.except_bind_eq_ok] at h <;> obtain ⟨_, -, h⟩ := h <;>
          exact ⟨_, (Except.ok.inj h).symm, rfl⟩

/-- An edge without content is passed over. -/
theorem findEdge?_of_falsy {node : Value} (hnode : edge.member "node" = .ok node)
    (falsy : node.truthy = false) (t : String) (edges : List Value) :
    findEdge? (.text t) (edge :: edges) = findEdge? (.text t) edges := by
  have unnamed : node.orElse (.record []) = .record [] := by simp [Value.orElse, falsy]
  rw [findEdge?, hnode, Value.ok_bind, unnamed]
  rfl

/-- An edge with content is found under its identifier. -/
theorem findEdge?_of_truthy {node w : Value} (hnode : edge.member "node" = .ok node)
    (truthy : node.truthy = true) (hid : (node.member "id" >>= Gid.decodeValue) = .ok w)
    (t : String)
    (edges : List Value) : findEdge? (.text t) (edge :: edges) =
      if w.same (.text t) then .ok (some edge) else findEdge? (.text t) edges := by
  obtain ⟨v, hv, hw⟩ := Act.except_bind_eq_ok.1 hid
  have named : node.orElse (.record []) = node := by simp [Value.orElse, truthy]
  rw [findEdge?, hnode, Value.ok_bind, named]
  dsimp only
  rw [hv, Value.ok_bind, hw, Value.ok_bind]
  rfl

/-- What one line under an identifier is displayed as. -/
def shownUnder (detailed : Bool) (t : String) (edges : List Value) :
    Except Fault (Option Item) := do
  match ← findEdge? (.text t) edges with
  | some edge => item? detailed edge
  | none => return none

/-- A line that is looked for among edges that can all be displayed is the first of what is
displayed under its identifier. -/
theorem shownUnder_of_mapM {is : List (Option Item)} (h : edges.mapM (item? detailed) = .ok is)
    (t : String) : shownUnder detailed t edges =
      .ok ((is.filterMap fun i => i).find? fun i => i.id.same (.text t)) := by
  induction edges generalizing is with
  | nil =>
    obtain rfl := Except.ok.inj h
    rfl
  | cons edge edges ih =>
    rw [List.mapM_cons] at h
    obtain ⟨i, hi, h⟩ := Act.except_bind_eq_ok.1 h
    obtain ⟨is, his, h⟩ := Act.except_bind_eq_ok.1 h
    obtain rfl := Except.ok.inj h
    have rest := ih his
    rw [shownUnder] at rest ⊢
    -- An edge without a node is passed over by both, and a node is compared by its identifier.
    obtain ⟨node, hnode, ⟨falsy, rfl⟩ | ⟨truthy, shown, rfl, hid⟩⟩ := item?_eq_ok hi
    · rw [findEdge?_of_falsy hnode falsy, rest]
      rfl
    · rw [findEdge?_of_truthy hnode truthy hid]
      by_cases same : shown.id.same (.text t) = true
      · rw [if_pos same, Value.ok_bind]
        simp [hi, same]
      · rw [if_neg same, rest]
        simp [same]

/-- One line is displayed as the first of all lines under its identifier. -/
theorem item_of_items {items : List Item} (h : v.items detailed = .ok items) (id : String) :
    v.item (.text id) detailed =
      .ok (items.find? fun i => i.id.same (.text (Gid.decode id))) := by
  obtain ⟨edges, hedges, h⟩ := Act.except_bind_eq_ok.1 h
  obtain ⟨is, his, h⟩ := Act.except_bind_eq_ok.1 h
  obtain rfl := Except.ok.inj h
  rw [item, Gid.decodeValue_text, Value.ok_bind, hedges]
  exact shownUnder_of_mapM his _

/-! ### Carts of the shop -/

/-- The item that a line is displayed as, given the texts and the address that are read of it. -/
def itemOf (detailed : Bool) (l : Line) (product price : String) (src : Value) : Item :=
  let plain : Item :=
    { id := .text (Gid.decode l.id), title := l.title, productId := .null, variantId := .null
      quantity := .int l.quantity, price, image := .null }
  if detailed then
    { plain with productId := .text (Gid.decode product), variantId := .text (Gid.decode l.variant)
                 image := src }
  else plain

/-- The first node of a connection is the node of its first edge. -/
theorem firstNode?_edgesOf (node : Value) (nodes : List Value) {owner : Value} {connection : String}
    (h : owner.member connection = .ok (edgesOf (node :: nodes))) :
    firstNode? owner connection = .ok (some node) := by
  have listed : (edgesOf (node :: nodes)).orElse (.record []) = edgesOf (node :: nodes) := rfl
  rw [firstNode?, h, Value.ok_bind, listed]
  simp [edgesOf, Value.head]

/-- A line is displayed as one item, if its price, its product and its picture can be made out. -/
theorem item?_edgeOf {l : Line} {product price : String} {src : Value}
    (hproduct : l.product = .text product) (hprice : priceText l.price.toValue = .ok price)
    (himage : l.image.member "src" = .ok src) (detailed : Bool) :
    item? detailed (CartRecord.edgeOf l) = .ok (some (itemOf detailed l product price src)) := by
  have node : (CartRecord.edgeOf l).member "node" = .ok l.toValue := by simp [CartRecord.edgeOf]
  have content : (!l.toValue.truthy) = false := rfl
  have sells : l.toValue.member "merchandise" = .ok (l.merchandise l.snapshot) := by
    simp [Line.toValue, Line.merchandise, Line.snapshot]
  have sold : (l.merchandise l.snapshot).member "product" = .ok l.snapshot := by
    simp [Line.merchandise]
  -- Neither record is empty, so neither is replaced.
  have merchandise : (l.merchandise l.snapshot).orElse (.record []) = l.merchandise l.snapshot :=
    rfl
  have snapshot : l.snapshot.orElse (.record []) = l.snapshot := rfl
  have variants : firstNode? l.snapshot "variants" =
      .ok (some (.ofFields [("id", Gid.encode l.variant)])) :=
    firstNode?_edgesOf _ [] (by simp [Line.snapshot])
  have images : firstNode? l.snapshot "images" = .ok (some l.image) :=
    firstNode?_edgesOf _ [] (by simp [Line.snapshot])
  rw [item?, node, Value.ok_bind, content]
  simp only [Bool.false_eq_true, if_false, sells, Value.ok_bind, merchandise, sold,
    snapshot, variants, images, himage]
  cases detailed <;>
    simp [Line.toValue, Line.merchandise, Line.snapshot, hproduct, hprice, itemOf]

/-- The price of a line can be displayed, as it is written. -/
theorem exists_priceText {m : Money} (h : m.Written) :
    ∃ price, priceText m.toValue = .ok price := by
  obtain ⟨x, hx⟩ := h.exists_readReal?
  -- An amount that was written is a number and not empty, so no default takes its place.
  have amount : (Value.text m.amount).orElse (.int 0) = .text m.amount := by
    have nonempty : m.amount ≠ "" := by
      intro none
      rw [none] at hx
      cases hx
    simp [Value.orElse, nonempty]
  have number : (Value.text m.amount).realNumber = .ok x := by rw [Value.realNumber, hx]
  have content : m.toValue.truthy = true := rfl
  rw [priceText, if_pos content]
  simp [Money.toValue, Money.record, amount, number]

end CartView

open CartView Shop

variable {s : Shop} {l : Line} {detailed : Bool}

/-- A line in order has a product with an identifier, and a picture with an address. -/
theorem Line.Sound.exists_texts (h : l.Sound s) :
    (∃ product, l.product = .text product) ∧ ∃ src, l.image.member "src" = .ok src := by
  obtain ⟨v, -, ⟨⟨p, hp⟩, -⟩, shows⟩ := h.record
  constructor
  · have product : Gid.encodeValue (.text p) = .ok l.product := by
      simpa [Variant.toValue, hp] using shows.product
    obtain ⟨t, -, ht⟩ := Act.except_map_eq_ok.1 product
    exact ⟨t, ht.symm⟩
  · -- The picture is that of the variant, but for its identifier.
    have images : v.toValue.item "images" = .ok (.list [v.image.toValue]) := by
      simp [Variant.toValue]
    have record : v.image.toValue.toRecord = .ok (_ : List (Key × Value)) := rfl
    have image := shows.image
    simp only [pictureOf, images, Value.ok_bind, Value.head, record] at image
    obtain ⟨id, -, image⟩ := Act.except_bind_eq_ok.1 image
    obtain ⟨shown, -, image⟩ := Act.except_bind_eq_ok.1 image
    rw [← Except.ok.inj image]
    exact ⟨_, rfl⟩

/-- A line in order with a written price is displayed as one item, under its raw identifier. -/
theorem Line.Sound.exists_item (h : l.Sound s) (hprice : l.price.Written) (detailed : Bool) :
    ∃ i, item? detailed (CartRecord.edgeOf l) = .ok (some i) ∧ i.id = .text l.id ∧
      i.quantity = .int l.quantity := by
  obtain ⟨⟨product, hproduct⟩, src, hsrc⟩ := h.exists_texts
  obtain ⟨price, hprice⟩ := exists_priceText hprice
  refine ⟨_, item?_edgeOf hproduct hprice hsrc detailed, ?_, ?_⟩
  · rw [← h.decode_id]
    cases detailed <;> rfl
  · cases detailed <;> rfl

/-- Lines in order are displayed one by one. -/
theorem exists_items {ls : List Line} (h : ∀ l ∈ ls, l.Sound s ∧ l.price.Written)
    (detailed : Bool) :
    ∃ items : List Item, (ls.map CartRecord.edgeOf).mapM (item? detailed) = .ok (items.map some) ∧
      items.map (fun i => (i.id, i.quantity)) = ls.map fun l => (.text l.id, .int l.quantity) := by
  -- Line by line, each of which has an item of its own.
  induction ls with
  | nil => exact ⟨[], rfl, rfl⟩
  | cons l ls ih =>
    obtain ⟨⟨sound, written⟩, hls⟩ := List.forall_mem_cons.1 h
    obtain ⟨i, hi, hid, hquantity⟩ := sound.exists_item written detailed
    obtain ⟨items, hitems, shown⟩ := ih hls
    refine ⟨i :: items, ?_, ?_⟩
    · rw [List.map_cons, List.mapM_cons, hi, Value.ok_bind, hitems]
      rfl
    · rw [List.map_cons, List.map_cons, shown, hid, hquantity]

/-- The edges of a cart are those of its lines. -/
theorem CartView.edges_of_toValue (c : Cart) :
    (CartView.of c.toValue).edges = .ok (c.lines.map CartRecord.edgeOf) := by
  have received : (CartView.of c.toValue).cart = c.toValue := rfl
  have lines : c.toValue.member "lines" = .ok (edgesOf (c.lines.map (·.toValue))) := by
    simp [Cart.toValue]
  have content : (edgesOf (c.lines.map (·.toValue))).orElse (.record []) =
      edgesOf (c.lines.map (·.toValue)) := rfl
  rw [edges, memberOrElse, received, lines]
  simp only [Value.ok_bind, pure_bind]
  rw [content]
  simp [edgesOf, Value.elementsOrNone_list, Function.comp_def, CartRecord.edgeOf]

/-- In any record, what is displayed of one line is the first of all that is displayed which has its
raw identifier, and nothing if there is none.  Of every cart of a shop that is ever reached, all
lines are displayed, each as one item with its raw identifier and its quantity, in order. -/
theorem CartView.line_views_agree (detailed : Bool) :
    (∀ cart items, (CartView.of cart).items detailed = .ok items → ∀ id : String,
      (CartView.of cart).item (.text id) detailed =
        .ok (items.find? fun i => i.id.same (.text (Gid.decode id)))) ∧
    ∀ s id e, Reachable s → s.entity? Gid.cartPrefix id = some e → ∃ c items, e = .cart c ∧
      (CartView.of e.toValue).items detailed = .ok items ∧
      items.map (fun i => (i.id, i.quantity)) =
        c.lines.map fun l => (.text l.id, .int l.quantity) := by
  refine ⟨fun cart items h id => item_of_items h id, fun s id e reached he => ?_⟩
  obtain ⟨k, c, rfl, rfl⟩ := reached.coherent.own id e he
  have sound := (reached.coherent.carts k c he).lines.sound
  have written := reached.pricesWritten k c he
  obtain ⟨items, hitems, shown⟩ := exists_items (fun l hl => ⟨sound l hl, written l hl⟩) detailed
  refine ⟨c, items, rfl, ?_, shown⟩
  show (CartView.of c.toValue).items detailed = .ok items
  rw [CartView.items, edges_of_toValue, Value.ok_bind, hitems]
  simp

/-- The theorem at the cart of the sample, of which one item is shown. -/
theorem CartView.line_views_agree_sample : ∃ e items,
    sample.entity? Gid.cartPrefix (.text sampleId) = some e ∧
    (CartView.of e.toValue).items true = .ok items ∧ items.length = 1 ∧
    ∀ id : String, (CartView.of e.toValue).item (.text id) true =
      .ok (items.find? fun i => i.id.same (.text (Gid.decode id))) := by
  obtain ⟨agree, shown⟩ := line_views_agree true
  obtain ⟨e, he⟩ : ∃ e, sample.entity? Gid.cartPrefix (.text sampleId) = some e :=
    Option.isSome_iff_exists.1 (by decide +kernel)
  obtain ⟨c, items, rfl, hitems, each⟩ := shown sample _ e reachable_sample he
  refine ⟨_, items, he, hitems, ?_, agree _ _ hitems⟩
  -- How many edges the cart has is seen by running it.
  have one : (sample.entity? Gid.cartPrefix (.text sampleId)).map (fun e =>
      (CartView.of e.toValue).edges.toOption.map List.length) = some (some 1) := by decide +kernel
  have edges : (CartView.of (Entity.cart c).toValue).edges = .ok (c.lines.map CartRecord.edgeOf) :=
    edges_of_toValue c
  rw [he, Option.map_some, edges] at one
  have listed : (c.lines.map CartRecord.edgeOf).length = 1 := Option.some.inj (Option.some.inj one)
  have same := congrArg List.length each
  rw [List.length_map, List.length_map] at same
  rw [same, ← listed, List.length_map]

end Storefront
