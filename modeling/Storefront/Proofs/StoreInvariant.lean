import Storefront.Proofs.ActionSpec
import Storefront.Proofs.Magnitude
import Storefront.Proofs.Records

/-! # What a shop keeps and what it draws

`Owned` says that everything in the store of a shop is of the kind that it is kept under: no value
was put in from outside.  `Clean` says of the data of the shop what `Value.Clean` says of a value.
`Kept strict` is the former, and if `strict` holds also the latter; it is what all actions of a shop
keep, and the rules below say so of the actions that all others are made of.

* `Cart.Clean.toValue` : a clean cart shows a clean record
* `find?_gives`, `keep_gives`, `erase_gives` : looking up, keeping and erasing entities
* `supplied_gives`, `freshId_gives` : drawing from the supply -/

namespace Storefront

open Text (Sendable)
open Act (Gives)

/-! ### Clean data -/

/-- An amount of money whose texts can be sent. -/
structure Money.Clean (m : Money) : Prop where
  amount : Sendable m.amount.toList
  currency : Sendable m.currency.toList

/-- A clean amount shows a clean record. -/
theorem Money.Clean.toValue {m : Money} (h : m.Clean) : m.toValue.Clean :=
  Value.clean_ofFields ["amount", "currencyCode"] rfl (by decide) (by decide)
    ⟨.text h.amount, .text h.currency⟩

/-- Nothing, in a currency. -/
theorem Money.clean_zero {currency : String} (h : Sendable currency.toList) :
    (Money.zero currency).Clean := ⟨(by decide : Sendable Money.zeroText.toList), h⟩

/-- An amount is written with two places, or as zero. -/
theorem Money.clean_of (x : Float) {currency : String} (h : Sendable currency.toList) :
    (Money.of x currency).Clean where
  amount := by
    show Sendable (Money.amountText x).toList
    rw [Money.amountText]
    split
    · decide
    · exact Decimal.sendable_fixed 2 x
  currency := h

/-- Clean nodes make clean edges. -/
theorem clean_edgesOf {nodes : List Value} (h : ∀ n ∈ nodes, n.Clean) : (edgesOf nodes).Clean := by
  refine Value.clean_single (by decide) (.list fun v hv => ?_)
  obtain ⟨n, hn, rfl⟩ := List.mem_map.1 hv
  exact Value.clean_single (by decide) (h n hn)

/-- A line whose data are clean. -/
structure Line.Clean (l : Line) : Prop where
  id : Sendable l.id.toList
  attributes : ∀ a ∈ l.attributes, a.Clean
  subtotal : l.subtotal.Clean
  total : l.total.Clean
  variant : Sendable l.variant.toList
  price : l.price.Clean
  product : l.product.Clean
  title : l.title.Clean
  image : l.image.Clean

/-- A clean line shows a clean record, from its costs and its snapshot outwards. -/
theorem Line.Clean.toValue {l : Line} (h : l.Clean) : l.toValue.Clean := by
  -- The parts of the line's value, from the inside out.
  have variant : Value.Clean (Gid.encode l.variant) := .text (Gid.sendable_encode h.variant)
  have cost : Value.Clean (.ofFields [("subtotalAmount", l.subtotal.toValue),
      ("totalAmount", l.total.toValue)]) :=
    Value.clean_ofFields ["subtotalAmount", "totalAmount"] rfl (by decide) (by decide)
      ⟨h.subtotal.toValue, h.total.toValue⟩
  have snapshot : l.snapshot.Clean :=
    Value.clean_ofFields ["id", "availableForSale", "variants", "title", "images"] rfl (by decide)
      (by decide) ⟨h.product, .bool _, clean_edgesOf (List.forall_mem_singleton.2
        (Value.clean_single (by decide) variant)), h.title,
        clean_edgesOf (List.forall_mem_singleton.2 h.image)⟩
  have merchandise : (l.merchandise l.snapshot).Clean :=
    Value.clean_ofFields ["id", "title", "priceV2", "product"] rfl (by decide) (by decide)
      ⟨variant, .text (by decide), h.price.toValue, snapshot⟩
  exact Value.clean_ofFields ["id", "attributes", "quantity", "discountAllocations",
    "estimatedCost", "merchandise"] rfl (by decide) (by decide)
    ⟨.text (Gid.sendable_encode h.id), .list h.attributes, .int _, Value.clean_list_nil, cost,
      merchandise⟩

/-- An attribute whose data are clean. -/
structure Attribute.Clean (a : Attribute) : Prop where
  key : a.key.Clean
  value : a.value.Clean

/-- A clean attribute shows a clean record. -/
theorem Attribute.Clean.toValue {a : Attribute} (h : a.Clean) : a.toValue.Clean :=
  Value.clean_ofFields ["key", "value"] rfl (by decide) (by decide) ⟨h.key, h.value⟩

/-- A cart whose data are clean. -/
structure Cart.Clean (c : Cart) : Prop where
  id : Sendable c.id.toList
  createdAt : Sendable c.createdAt.toList
  updatedAt : Sendable c.updatedAt.toList
  checkoutUrl : Sendable c.checkoutUrl.toList
  country : c.country.toValue.Clean
  attributes : ∀ a ∈ c.attributes, a.Clean
  discount : ∀ d, c.discount = some d → d.code.Clean
  note : c.note.Clean
  lines : ∀ l ∈ c.lines, l.Clean
  total : c.total.Clean
  subtotal : c.subtotal.Clean
  tax : ∀ m, c.tax = some m → m.Clean

/-- The costs of a clean cart are clean; the tax may be missing, and the duty always is. -/
theorem Cart.Clean.costValue {c : Cart} (h : c.Clean) : c.costValue.Clean := by
  refine Value.clean_ofFields ["totalAmount", "subtotalAmount", "totalTaxAmount",
    "totalDutyAmount"] rfl (by decide) (by decide)
    ⟨h.total.toValue, h.subtotal.toValue, Value.clean_ofOption fun v hv => ?_, .null⟩
  obtain ⟨m, hm, rfl⟩ := Option.map_eq_some_iff.1 hv
  exact (h.tax m hm).toValue

/-- A clean discount code shows a clean record. -/
theorem clean_codeValue {d : AppliedCode} (h : d.code.Clean) : (Cart.codeValue d).Clean :=
  Value.clean_ofFields ["code", "applicable"] rfl (by decide) (by decide) ⟨h, .bool _⟩

/-- A clean cart shows a clean record. -/
theorem Cart.Clean.toValue {c : Cart} (h : c.Clean) : c.toValue.Clean := by
  refine Value.clean_ofFields ["id", "createdAt", "updatedAt", "checkoutUrl", "buyerIdentity",
    "attributes", "discountCodes", "note", "lines", "estimatedCost"] rfl (by decide) (by decide)
    ⟨.text (Gid.sendable_encode h.id), .text h.createdAt, .text h.updatedAt,
      .text h.checkoutUrl, Value.clean_single (by decide) h.country, .list fun v hv => ?_,
      .list fun v hv => ?_, h.note, clean_edgesOf fun v hv => ?_, h.costValue⟩
  · obtain ⟨a, ha, rfl⟩ := List.mem_map.1 hv
    exact (h.attributes a ha).toValue
  · obtain ⟨d, hd, rfl⟩ := List.mem_map.1 hv
    exact clean_codeValue (h.discount d (Option.mem_toList.1 hd))
  · obtain ⟨l, hl, rfl⟩ := List.mem_map.1 hv
    exact (h.lines l hl).toValue

/-- Kinds with different names are kept under different identifiers. -/
theorem Gid.kindPrefix_injective : Function.Injective kindPrefix := by
  intro a b h
  rwa [kindPrefix, kindPrefix, String.append_left_inj, String.append_right_inj] at h

namespace Entity

/-- The data of an entity are clean.  Of links, only the identifiers count. -/
def Clean : Entity → Prop
  | .cart c => c.Clean
  | .links members => ∀ p ∈ members, p.1.toValue.Clean
  | e => e.toValue.Clean

/-- An entity of the kind that it is kept under. -/
def IsOf (kind : String) : Entity → Prop
  | .cart _ => kind = Gid.cartPrefix
  | .variant _ => kind = Gid.variantPrefix
  | .product _ => kind = Gid.productPrefix
  | .plan _ => kind = Gid.planPrefix
  | .group _ => kind = Gid.groupPrefix
  | .links _ => ∃ owner, kind = Shop.connectionMark ++ owner
  | .record _ => False

/-- The name of the kind that an entity is kept under, if its kind has one. -/
def kindName : Entity → Option String
  | .cart _ => "Cart"
  | .variant _ => "ProductVariant"
  | .product _ => "Product"
  | .plan _ => "SellingPlan"
  | .group _ => "SellingPlanGroup"
  | .links _ | .record _ => none

/-- An entity that fits a kind, and is clean if data are asked to be. -/
structure Fit (strict : Prop) (kind : String) (e : Entity) : Prop where
  isOf : e.IsOf kind
  clean : strict → e.Clean

variable {strict : Prop} {e : Entity}

/-- An entity under a kind whose name is an identifier has the name of that kind. -/
theorem IsOf.kindName {name : String} (h : e.IsOf (Gid.kindPrefix name)) :
    e.kindName = some name := by
  cases e with
  | links members => exact absurd h.choose_spec.symm (Shop.mark_append_ne _ _)
  | record v => exact h.elim
  | _ => exact congrArg some (Gid.kindPrefix_injective h).symm

/-- What is kept as a cart is a cart. -/
theorem Fit.exists_cart (h : e.Fit strict Gid.cartPrefix) :
    ∃ c, e = .cart c ∧ (strict → c.Clean) := by
  have kind := h.isOf.kindName
  cases e <;> simp [kindName] at kind
  exact ⟨_, rfl, h.clean⟩

/-- What is kept as a variant is a variant. -/
theorem Fit.exists_variant (h : e.Fit strict Gid.variantPrefix) :
    ∃ v, e = .variant v ∧ (strict → v.toValue.Clean) := by
  have kind := h.isOf.kindName
  cases e <;> simp [kindName] at kind
  exact ⟨_, rfl, h.clean⟩

/-- What is kept as a product is a product. -/
theorem Fit.exists_product (h : e.Fit strict Gid.productPrefix) :
    ∃ p, e = .product p ∧ (strict → p.toValue.Clean) := by
  have kind := h.isOf.kindName
  cases e <;> simp [kindName] at kind
  exact ⟨_, rfl, h.clean⟩

/-- What is kept as a plan is a plan. -/
theorem Fit.exists_plan (h : e.Fit strict Gid.planPrefix) :
    ∃ p, e = .plan p ∧ (strict → p.toValue.Clean) := by
  have kind := h.isOf.kindName
  cases e <;> simp [kindName] at kind
  exact ⟨_, rfl, h.clean⟩

/-- What is kept as a group is a group. -/
theorem Fit.exists_group (h : e.Fit strict Gid.groupPrefix) :
    ∃ g, e = .group g ∧ (strict → g.toValue.Clean) := by
  have kind := h.isOf.kindName
  cases e <;> simp [kindName] at kind
  exact ⟨_, rfl, h.clean⟩

/-- What is kept as links is links. -/
theorem Fit.exists_links {owner : String} (h : e.Fit strict (Shop.connectionMark ++ owner)) :
    ∃ members, e = .links members ∧ (strict → ∀ p ∈ members, p.1.toValue.Clean) := by
  cases e with
  | links members => exact ⟨members, rfl, h.clean⟩
  | record v => exact h.isOf.elim
  | _ => exact absurd h.isOf (Shop.mark_append_ne _ _)

/-- An entity under a kind whose name is an identifier shows a value that fits. -/
theorem Fit.toValue {name : String} (h : e.Fit strict (Gid.kindPrefix name)) :
    e.toValue.Fit strict := fun hs => by
  have clean := h.clean hs
  cases e with
  | cart c => exact clean.toValue
  | links members => cases h.isOf.kindName
  | _ => exact clean

end Entity

/-! ### Shops -/

namespace Shop

/-- All entities are of the kinds that they are kept under. -/
def Owned (s : Shop) : Prop := ∀ kind id e, s.entity? kind id = some e → e.IsOf kind

/-- All data of a shop are clean. -/
structure Clean (s : Shop) : Prop where
  entities : ∀ kind id e, s.entity? kind id = some e → e.Clean
  tokens : ∀ t ∈ s.supply.tokens, Sendable t.toList
  base : Sendable s.context.shopBaseUrl.display.toList

/-- A shop without values from outside, and with clean data if these are asked to be clean. -/
structure Kept (strict : Prop) (s : Shop) : Prop where
  owned : s.Owned
  clean : strict → s.Clean

variable {strict : Prop} {s : Shop} {α : Type}

/-- What is found in such a shop fits its kind. -/
theorem Kept.fit (h : Kept strict s) {kind : String} {id : Key} {e : Entity}
    (he : s.entity? kind id = some e) : e.Fit strict kind :=
  ⟨h.owned kind id e he, fun hs => (h.clean hs).entities kind id e he⟩

/-- A new shop has no entities at all. -/
theorem owned_new (context : Context) (supply : Supply) : Owned (.new context supply) :=
  fun _ _ _ h => by cases h

/-- An entity that is found after another was kept is that one, or was found before. -/
theorem entity?_withEntity {kind kind' : String} {id id' : Key} {e e' : Entity}
    (h : (s.withEntity kind id e).entity? kind' id' = some e') :
    (kind' = kind ∧ e' = e) ∨ s.entity? kind' id' = some e' := by
  by_cases hsame : kind' = kind ∧ (id' == id) = true
  · obtain ⟨rfl, hid⟩ := hsame
    rw [entity?_congr _ _ hid, entity?_withEntity_self] at h
    exact .inl ⟨rfl, (Option.some.inj h).symm⟩
  · refine .inr ?_
    rwa [entity?_withEntity_of_ne s] at h
    by_contra hne
    push Not at hne
    exact hsame ⟨hne.1, by simpa using hne.2⟩

/-- An entity that is found after another was erased was found before. -/
theorem entity?_withoutEntity {kind kind' : String} {id id' : Key} {e' : Entity}
    (h : (s.withoutEntity kind id).entity? kind' id' = some e') :
    s.entity? kind' id' = some e' := by
  by_cases hsame : kind' = kind ∧ (id' == id) = true
  · obtain ⟨rfl, hid⟩ := hsame
    rw [entity?_congr _ _ hid, entity?, withoutEntity, Store.get?_delete_self] at h
    cases h
  · rw [entity?, withoutEntity, Store.get?_delete_of_ne] at h
    · exact h
    · by_contra hne
      push Not at hne
      exact hsame ⟨by simpa using hne.1, by simpa using hne.2⟩

/-- To keep an entity that fits leaves the shop in order. -/
theorem Kept.withEntity (h : Kept strict s) {kind : String} (id : Key) {e : Entity}
    (he : e.Fit strict kind) : Kept strict (s.withEntity kind id e) where
  owned _ _ _ found := by
    rcases entity?_withEntity found with ⟨rfl, rfl⟩ | found
    · exact he.isOf
    · exact h.owned _ _ _ found
  clean hs :=
    { entities := fun _ _ _ found => by
        rcases entity?_withEntity found with ⟨rfl, rfl⟩ | found
        · exact he.clean hs
        · exact (h.clean hs).entities _ _ _ found
      tokens := (h.clean hs).tokens
      base := (h.clean hs).base }

/-- To erase an entity leaves the shop in order. -/
theorem Kept.withoutEntity (h : Kept strict s) (kind : String) (id : Key) :
    Kept strict (s.withoutEntity kind id) where
  owned _ _ _ found := h.owned _ _ _ (entity?_withoutEntity found)
  clean hs :=
    { entities := fun _ _ _ found => (h.clean hs).entities _ _ _ (entity?_withoutEntity found)
      tokens := (h.clean hs).tokens
      base := (h.clean hs).base }

/-! ### Entities -/

/-- What is looked up fits its kind. -/
theorem find?_gives (kind : String) (id : Key) :
    Gives (Kept strict) strict (find? kind id) fun found =>
      ∀ e, found = some e → e.Fit strict kind :=
  fun s hs => by
    rw [on_find?]
    exact ⟨hs, fun _ he => hs.fit he⟩

/-- To look whether there is an entity changes nothing. -/
theorem has_gives (kind : String) (id : Key) :
    Gives (Kept strict) strict (has kind id) fun _ => True :=
  fun s hs => by
    rw [on_has]
    exact ⟨hs, trivial⟩

/-- An entity may be kept that fits its kind. -/
theorem keep_gives {kind : String} (id : Key) {e : Entity} (h : e.Fit strict kind) :
    Gives (Kept strict) strict (keep kind id e) fun _ => True :=
  fun s hs => by
    rw [on_keep]
    exact ⟨hs.withEntity id h, trivial⟩

/-- Any entity may be erased. -/
theorem erase_gives (kind : String) (id : Key) :
    Gives (Kept strict) strict (erase kind id) fun _ => True :=
  fun s hs => by
    rw [on_erase]
    exact ⟨hs.withoutEntity kind id, trivial⟩

/-! ### Time and chance -/

/-- The time is a text of digits and marks. -/
theorem timestamp_gives :
    Gives (Kept strict) strict timestamp fun now => Sendable now.toList :=
  fun s hs => by
    rw [on_timestamp]
    exact ⟨hs, Calendar.sendable_timestamp s.supply.now⟩

/-- What is drawn leaves no tokens behind that were not there before. -/
theorem supplied_gives {draw : Supply → α × Supply} {P : α → Prop}
    (htokens : ∀ p, (draw p).2.tokens ⊆ p.tokens)
    (h : ∀ p, (strict → ∀ t ∈ p.tokens, Sendable t.toList) → P (draw p).1) :
    Gives (Kept strict) strict (supplied draw) P := fun s hs =>
  ⟨⟨hs.owned, fun hstrict =>
      { entities := (hs.clean hstrict).entities
        tokens := fun t ht => (hs.clean hstrict).tokens t (htokens s.supply ht)
        base := (hs.clean hstrict).base }⟩,
    h s.supply fun hstrict => (hs.clean hstrict).tokens⟩

/-- A number that is drawn is within its range. -/
theorem draw_gives {lo hi : Int} (h : lo ≤ hi) :
    Gives (Kept strict) strict (supplied (Supply.draw lo hi)) fun n => lo ≤ n ∧ n ≤ hi := by
  refine supplied_gives (fun p t ht => ht) fun p _ => ?_
  -- The remainder lies below the size of the range, and is not negative.
  have := Int.emod_nonneg (p.seed + 7919 * Supply.countOf p.rangeCounts (lo, hi))
    (show hi - lo + 1 ≠ 0 by omega)
  have := Int.emod_lt_of_pos (p.seed + 7919 * Supply.countOf p.rangeCounts (lo, hi))
    (show 0 < hi - lo + 1 by omega)
  simp only [Supply.draw]
  omega

/-- A token is one of those that were given, or is made of its kind and a number. -/
theorem token_gives {kind : String} (h : Sendable kind.toList) :
    Gives (Kept strict) strict (supplied (Supply.token kind)) fun t =>
      strict → Sendable t.toList := by
  -- A token is taken from those that were given, or made up from its kind and a number.
  refine supplied_gives (fun p => ?_) fun p hp hs => ?_
  · rw [Supply.token]
    split
    · rename_i t rest ht
      rw [ht]
      exact List.subset_cons_self t rest
    · exact fun _ ht => ht
  · rw [Supply.token]
    split
    · rename_i t rest ht
      exact hp hs t (ht ▸ List.mem_cons_self)
    · exact .append_text (h.append_text (by decide)) (Decimal.sendable_whole _)

/-- By induction on the attempts; each draws one token. -/
theorem freshToken_gives {kind : String} (h : Sendable kind.toList) (n : Nat) :
    Gives (Kept strict) strict (freshToken kind n) fun t => strict → Sendable t.toList := by
  induction n with
  | zero => exact .throw Fault.tame_exhausted
  | succ n ih =>
    refine (token_gives h).bind fun t ht => Gives.get.bind fun s _ => ?_
    split
    · exact ih
    · exact (Gives.modify fun s hs => ⟨hs.owned, fun hstrict =>
        ⟨(hs.clean hstrict).entities, (hs.clean hstrict).tokens, (hs.clean hstrict).base⟩⟩).bind
          fun _ _ => .pure ht

/-- A new identifier can be sent if its start can. -/
theorem freshId_gives {start : String} (hne : start ≠ "") (h : Sendable start.toList) :
    Gives (Kept strict) strict (freshId start) fun id => strict → Sendable id.toList := by
  have kind : Sendable (tokenKind start).toList := Text.sendable_ofList <| h.of_subset fun c hc =>
    List.mem_reverse.1 <| (List.dropWhile_sublist _).subset <| (List.takeWhile_sublist _).subset <|
      List.mem_reverse.1 hc
  unfold freshId
  rw [if_neg hne]
  refine (freshToken_gives kind _).bind fun t ht => .pure fun hs => ?_
  refine .append_text ?_ (ht hs)
  split
  · exact h
  · exact h.append_text (by decide)

end Shop
end Storefront
