import Storefront.Proofs.Requests

/-! # The shape of carts that are ever reached

`Coherent` collects what is true of the catalogue and of the carts of every shop that is ever
reached: no cart has two lines of one variant or with one identifier, no two carts share a line
identifier, every line repeats the catalogue's record of its variant, and so on.  The clauses rest
on one another, so they are kept together: a line is found by its variant because variants are
decoded, and a new line has an identifier of its own because its token was never handed out.

* `LineStep.sound` : each change of the lines of a cart keeps them in order
* `Step.coherent`, `Reachable.coherent` : the invariant -/

namespace Storefront

/-! ### Lines in order -/

/-- A line is in order: its identifier carries a token that was handed out and can be encoded, and
it repeats the record of its variant, of which it has at least one piece. -/
structure Line.Sound (s : Shop) (l : Line) : Prop where
  id : ∃ t ∈ s.seen, l.id = Gid.cartLinePrefix ++ t
  sent : Gid.encodeText l.id = .ok (Gid.encode l.id)
  variant : Gid.decode l.variant = l.variant
  quantity : 1 ≤ l.quantity
  record : ∃ v, s.entity? Gid.variantPrefix (.text l.variant) = some (.variant v) ∧ v.IsMadeUp ∧
    l.Shows v.toValue

/-- A line in order stays so while nothing is forgotten. -/
theorem Line.Sound.mono {s s' : Shop} {l : Line} (h : l.Sound s) (hs : s.Knows s') :
    l.Sound s' where
  id := h.id.imp fun t ht => ⟨hs.seen t ht.1, ht.2⟩
  sent := h.sent
  variant := h.variant
  quantity := h.quantity
  record := h.record.imp fun _ hv => ⟨hs.variant _ _ hv.1, hv.2⟩

/-- The costs of a line are not part of its order. -/
theorem Line.Sound.of_bare {s : Shop} {l l' : Line} (h : l.Sound s) (hb : l'.bare = l.bare) :
    l'.Sound s := by
  obtain ⟨id, attributes, quantity, _, _, variant, _, product, title, image⟩ := l'
  simp only [bare, Line.mk.injEq] at hb
  obtain ⟨rfl, rfl, rfl, -, -, rfl, -, rfl, rfl, rfl⟩ := hb
  exact ⟨h.id, h.sent, h.variant, h.quantity, h.record.imp fun v hv =>
    ⟨hv.1, hv.2.1, ⟨hv.2.2.image, hv.2.2.product, hv.2.2.title⟩⟩⟩

/-- Every variant that the catalogue knows was made up. -/
def Shop.CatalogueSound (s : Shop) : Prop :=
  ∀ id e, s.entity? Gid.variantPrefix id = some e → ∃ v, e = .variant v ∧ v.IsMadeUp

/-- A catalogue whose variants were made up stays so: what is added is made up. -/
theorem Shop.CatalogueSound.mono {s s' : Shop} (h : s.CatalogueSound) (hs : s.Knows s') :
    s'.CatalogueSound := by
  intro id e he
  obtain known | made := hs.madeUp id e he
  · exact h id e known
  · exact made

/-- The lines of a cart are in order, and none has an identifier that is taken elsewhere. -/
structure LinesSound (taken : String → Prop) (s : Shop) (ls : List Line) : Prop where
  sound : ∀ l ∈ ls, l.Sound s
  ids : (ls.map (·.id)).Nodup
  variants : (ls.map (·.variant)).Nodup
  apart : ∀ l ∈ ls, ¬ taken l.id
  seen : ∀ id, taken id → ∃ t ∈ s.seen, id = Gid.cartLinePrefix ++ t

namespace Cart

/-- What a replacement does not change is the same for all lines. -/
theorem map_replaceFirst {α : Type} (g : Line → α) {p : Line → Bool} {f : Line → Line}
    (h : ∀ l, g (f l) = g l) (ls : List Line) : (replaceFirst p f ls).map g = ls.map g := by
  induction ls with
  | nil => rfl
  | cons l ls ih =>
    rw [replaceFirst]
    split
    · rw [List.map_cons, h, List.map_cons]
    · rw [List.map_cons, ih, List.map_cons]

/-- A line after a replacement was there before, or replaces one that was. -/
theorem mem_replaceFirst {p : Line → Bool} {f : Line → Line} {ls : List Line} {l : Line}
    (h : l ∈ replaceFirst p f ls) : l ∈ ls ∨ ∃ l₀ ∈ ls, l = f l₀ := by
  induction ls with
  | nil => cases h
  | cons l₁ ls ih =>
    rw [replaceFirst] at h
    split at h
    · obtain rfl | h := List.mem_cons.1 h
      · exact .inr ⟨l₁, .head _, rfl⟩
      · exact .inl (.tail _ h)
    · obtain rfl | h := List.mem_cons.1 h
      · exact .inl (.head _)
      · exact (ih h).imp (.tail _) fun ⟨l₀, h₀, hl⟩ => ⟨l₀, .tail _ h₀, hl⟩

end Cart

namespace LinesSound

variable {taken : String → Prop} {s s' : Shop} {ls : List Line}

/-- Lines in order stay so while nothing is forgotten. -/
theorem mono (h : LinesSound taken s ls) (hs : s.Knows s') : LinesSound taken s' ls where
  sound l hl := (h.sound l hl).mono hs
  ids := h.ids
  variants := h.variants
  apart := h.apart
  seen id hid := (h.seen id hid).imp fun t ht => ⟨hs.seen t ht.1, ht.2⟩

/-- Fewer lines are in order as well. -/
theorem sublist {ls' : List Line} (h : LinesSound taken s ls) (hl : ls'.Sublist ls) :
    LinesSound taken s ls' where
  sound l hl' := h.sound l (hl.subset hl')
  ids := h.ids.sublist (hl.map _)
  variants := h.variants.sublist (hl.map _)
  apart l hl' := h.apart l (hl.subset hl')
  seen := h.seen

/-- More pieces of a line leave all lines in order. -/
theorem extend (h : LinesSound taken s ls) (p : Line → Bool) {quantity : Int} (hq : 1 ≤ quantity)
    (attributes : List Value) :
    LinesSound taken s (Cart.replaceFirst p (Cart.extended · quantity attributes) ls) where
  sound l hl := by
    obtain hl | ⟨l₀, hl₀, rfl⟩ := Cart.mem_replaceFirst hl
    · exact h.sound l hl
    · have sound := h.sound l₀ hl₀
      -- There was at least one piece, and more are added.
      have more : 1 ≤ l₀.quantity + quantity := by
        have := sound.quantity
        omega
      exact ⟨sound.id, sound.sent, sound.variant, more, sound.record.imp fun v hv =>
        ⟨hv.1, hv.2.1, hv.2.2.image, hv.2.2.product, hv.2.2.title⟩⟩
  ids := by
    rw [Cart.map_replaceFirst (·.id) (f := (Cart.extended · quantity attributes)) fun _ => rfl]
    exact h.ids
  variants := by
    rw [Cart.map_replaceFirst (·.variant) (f := (Cart.extended · quantity attributes)) fun _ => rfl]
    exact h.variants
  apart l hl := by
    obtain hl | ⟨l₀, hl₀, rfl⟩ := Cart.mem_replaceFirst hl
    · exact h.apart l hl
    · exact h.apart l₀ hl₀
  seen := h.seen

/-- A line with a new token, of a variant that no line has, may join the others. -/
theorem append (h : LinesSound taken s ls) {t : String} {l : Line} (ht : t ∉ s.seen)
    (hid : l.id = Gid.cartLinePrefix ++ t) (hsent : Gid.encodeText l.id = .ok (Gid.encode l.id))
    (hv : Gid.decode l.variant = l.variant) (hnew : ∀ l' ∈ ls, l'.variant ≠ l.variant)
    (hq : 1 ≤ l.quantity)
    (hr : ∃ v, s.entity? Gid.variantPrefix (.text l.variant) = some (.variant v) ∧ v.IsMadeUp ∧
      l.Shows v.toValue) : LinesSound taken { s with seen := s.seen ++ [t] } (ls ++ [l]) := by
  have knows : s.Knows { s with seen := s.seen ++ [t] } :=
    (Shop.Growth.draw (.token s ht)).keeps.toKnows
  -- The token of the new line is that of no other line, here or elsewhere.
  have fresh : ∀ id, (∃ t' ∈ s.seen, id = Gid.cartLinePrefix ++ t') → id ≠ l.id := by
    rintro _ ⟨t', ht', rfl⟩ heq
    rw [hid, String.append_right_inj] at heq
    exact ht (heq ▸ ht')
  have sound : l.Sound { s with seen := s.seen ++ [t] } :=
    ⟨⟨t, List.mem_append_right _ (.head _), hid⟩, hsent, hv, hq, hr⟩
  refine ⟨?_, ?_, ?_, ?_, (h.mono knows).seen⟩
  -- each line is in order
  · rw [List.forall_mem_append, List.forall_mem_singleton]
    exact ⟨(h.mono knows).sound, sound⟩
  -- no two identifiers are the same
  · rw [List.map_append, List.map_singleton, List.nodup_append]
    refine ⟨h.ids, List.pairwise_singleton _ _, fun id hmem id' hl => ?_⟩
    obtain ⟨l', hl', rfl⟩ := List.mem_map.1 hmem
    rw [List.mem_singleton.1 hl]
    exact fresh _ (h.sound l' hl').id
  -- no two variants are the same
  · rw [List.map_append, List.map_singleton, List.nodup_append]
    refine ⟨h.variants, List.pairwise_singleton _ _, fun variant hmem variant' hl => ?_⟩
    obtain ⟨l', hl', rfl⟩ := List.mem_map.1 hmem
    rw [List.mem_singleton.1 hl]
    exact hnew l' hl'
  -- no identifier is taken elsewhere
  · rw [List.forall_mem_append, List.forall_mem_singleton]
    exact ⟨h.apart, fun htaken => fresh l.id (h.seen l.id htaken) rfl⟩

end LinesSound


namespace Shop

open Relation (ReflTransGen)

/-- A shop only grows while the lines of a cart are being changed. -/
theorem LineSteps.grows {a b : Shop × List Line} (h : LineSteps a b) : Grows a.1 b.1 := by
  induction h with
  | refl => exact .refl
  | tail _ step ih =>
    cases step with
    | growth h ls => exact ih.tail h
    | extend p hq as ls => exact ih
    | drop p ls => exact ih
    | append ht _ _ _ _ _ _ _ => exact ih.tail (.draw (.token _ ht))

/-- What changes the lines of a cart keeps them in order, with those of other carts. -/
theorem LineStep.sound {taken : String → Prop} {a b : Shop × List Line} (h : LineStep a b)
    (hc : a.1.CatalogueSound) (hls : LinesSound taken a.1 a.2) : LinesSound taken b.1 b.2 := by
  cases h with
  | growth h ls => exact hls.mono h.keeps.toKnows
  | drop s p ls => exact hls.sublist List.filter_sublist
  | extend s p hq as ls => exact hls.extend p hq as
  | append ht hid hsent hv hnew hq he hs =>
    obtain ⟨v, rfl, hmade⟩ := hc _ _ he
    exact hls.append ht hid hsent hv hnew hq ⟨v, he, hmade, hs⟩

/-- Any number of changes keeps them in order, by induction over the steps. -/
theorem LineSteps.sound {taken : String → Prop} {a b : Shop × List Line} (h : LineSteps a b)
    (hc : a.1.CatalogueSound) (hls : LinesSound taken a.1 a.2) : LinesSound taken b.1 b.2 := by
  induction h with
  | refl => exact hls
  | tail h step ih =>
    -- A line that is added needs a sound catalogue, which stays one while the shop grows.
    exact step.sound (hc.mono (LineSteps.grows h).keeps.toKnows) ih

end Shop

/-! ### Carts in order -/

namespace Cart

/-- The keys of attributes in the form in which they are compared. -/
def foldedKeys (as : List Attribute) : List String := as.map fun a => foldedKey a.key

/-- Setting an attribute keeps the folded keys, or adds that of the attribute. -/
theorem foldedKeys_setAttribute (a : Attribute) (as : List Attribute) :
    foldedKeys (setAttribute a as) =
      if foldedKey a.key ∈ foldedKeys as then foldedKeys as
      else foldedKeys as ++ [foldedKey a.key] := by
  induction as with
  | nil => rfl
  | cons b bs ih =>
    rw [setAttribute]
    split
    · -- The first attribute is replaced, by one with the same folded key.
      rename_i heq
      simp [foldedKeys, heq]
    · rename_i hne
      have hmem : foldedKey a.key ∈ foldedKeys (b :: bs) ↔ foldedKey a.key ∈ foldedKeys bs := by
        simp [foldedKeys, Ne.symm hne]
      simp only [hmem]
      rw [foldedKeys, List.map_cons, ← foldedKeys, ih]
      split <;> simp [foldedKeys]

/-- No two attributes have the same folded key after one was set. -/
theorem nodup_setAttribute (a : Attribute) {as : List Attribute} (h : (foldedKeys as).Nodup) :
    (foldedKeys (setAttribute a as)).Nodup := by
  rw [foldedKeys_setAttribute]
  split
  · exact h
  · rename_i hnew
    refine List.nodup_append.2 ⟨h, List.pairwise_singleton _ _, fun key hkey key' hkey' => ?_⟩
    rw [List.mem_singleton.1 hkey']
    exact fun heq => hnew (heq ▸ hkey)

/-- A cart is in order under an identifier, with none of its lines' identifiers taken elsewhere. -/
structure Sound (taken : String → Prop) (s : Shop) (k : String) (c : Cart) : Prop where
  id : c.id = k
  decoded : Gid.decode k = k
  lines : LinesSound taken s c.lines
  attributes : (foldedKeys c.attributes).Nodup
  discount : ∀ d, c.discount = some d → d.applicable = Discount.isAccepted d.code

/-- Knowing more leaves a cart in order. -/
theorem Sound.mono {taken : String → Prop} {s s' : Shop} {k : String} {c : Cart}
    (h : c.Sound taken s k) (hs : s.Knows s') : c.Sound taken s' k where
  id := h.id
  decoded := h.decoded
  lines := h.lines.mono hs
  attributes := h.attributes
  discount := h.discount

/-- A cart that is priced stays in order: what is asked of it does not look at costs. -/
theorem Repriced.sound {taken : String → Prop} {s : Shop} {k : String} {c c' : Cart}
    (h : c.Repriced c') (hc : c.Sound taken s k) : c'.Sound taken s k := by
  cases h with
  | @intro ls hls country total subtotal tax =>
    refine ⟨hc.id, hc.decoded, ?_, hc.attributes, hc.discount⟩
    -- Whatever does not look at the costs is the same for the lines before and after.
    have map_eq : ∀ (g : Line → String), (∀ l, g l.bare = g l) → ls.map g = c.lines.map g := by
      intro g hg
      have := congrArg (List.map g) hls
      simpa [Function.comp_def, hg] using this
    have mem : ∀ l ∈ ls, ∃ l₀ ∈ c.lines, l.bare = l₀.bare := by
      intro l hl
      have : l.bare ∈ c.lines.map Line.bare := hls ▸ List.mem_map_of_mem hl
      obtain ⟨l₀, hl₀, heq⟩ := List.mem_map.1 this
      exact ⟨l₀, hl₀, heq.symm⟩
    refine ⟨fun l hl => ?_, ?_, ?_, fun l hl => ?_, hc.lines.seen⟩
    · obtain ⟨l₀, hl₀, heq⟩ := mem l hl
      exact (hc.lines.sound l₀ hl₀).of_bare heq
    · rw [map_eq (·.id) fun _ => rfl]
      exact hc.lines.ids
    · rw [map_eq (·.variant) fun _ => rfl]
      exact hc.lines.variants
    · obtain ⟨l₀, hl₀, heq⟩ := mem l hl
      have : l.bare.id = l₀.bare.id := by rw [heq]
      rw [show l.id = l₀.id from this]
      exact hc.lines.apart l₀ hl₀

end Cart

namespace Shop

/-- An edit keeps a cart in order. -/
theorem Edited.sound {taken : String → Prop} {s s' : Shop} {k : String} {c c' : Cart}
    (h : Edited s c s' c') (hs : s.CatalogueSound) (hc : c.Sound taken s k) :
    c'.Sound taken s' k := by
  cases h with
  | relined h =>
    obtain ⟨ls, h, rfl⟩ := h
    exact ⟨hc.id, hc.decoded, h.sound hs hc.lines, hc.attributes, hc.discount⟩
  | noted note => exact ⟨hc.id, hc.decoded, hc.lines, hc.attributes, hc.discount⟩
  | attributed a =>
    exact ⟨hc.id, hc.decoded, hc.lines, Cart.nodup_setAttribute a hc.attributes, hc.discount⟩
  | discounted code =>
    -- The code was judged when it was applied.
    refine ⟨hc.id, hc.decoded, hc.lines, hc.attributes, fun d hd => ?_⟩
    obtain rfl := Option.some.inj hd
    rfl

/-! ### Shops in order -/

/-- An identifier is that of a line of a cart other than the one under an identifier. -/
def TakenAside (s : Shop) (k id : String) : Prop :=
  ∃ k' c, k' ≠ k ∧ s.HasCart k' c ∧ ∃ l ∈ c.lines, l.id = id

/-- The catalogue and the carts of a shop are in order. -/
structure Coherent (s : Shop) : Prop where
  catalogue : s.CatalogueSound
  own : ∀ id e, s.entity? Gid.cartPrefix id = some e → ∃ k c, id = .text k ∧ e = .cart c
  carts : ∀ k c, s.HasCart k c → c.Sound (s.TakenAside k) s k

/-- A shop without entities is in order. -/
theorem coherent_new (context : Context) (supply : Supply) :
    Coherent (Shop.new context supply) where
  catalogue _ _ h := by cases h
  own _ _ h := by cases h
  carts _ _ h := by cases h

/-- To keep a cart anew takes no identifiers from its own point of view. -/
theorem takenAside_withCart_self {s : Shop} {k : String} {c : Cart} :
    (s.withCart k c).TakenAside k = s.TakenAside k := by
  funext id
  refine propext ⟨?_, ?_⟩
  · rintro ⟨k', c', hk, hc', mem⟩
    exact ⟨k', c', hk, ((hasCart_withCart.1 hc').resolve_left fun h => hk h.1).2, mem⟩
  · rintro ⟨k', c', hk, hc', mem⟩
    exact ⟨k', c', hk, hasCart_withCart.2 (.inr ⟨hk, hc'⟩), mem⟩

/-- What keeps carts takes no identifiers. -/
theorem Keeps.takenAside {s s' : Shop} (h : Keeps s s') : s'.TakenAside = s.TakenAside := by
  funext k id
  simp only [TakenAside, h.hasCart_iff]

namespace Coherent

variable {s s' : Shop}

/-- A shop in order stays so while it keeps its carts and forgets nothing. -/
theorem keeps (h : Coherent s) (hs : Keeps s s') : Coherent s' where
  catalogue := h.catalogue.mono hs.toKnows
  own id e he := h.own id e (by rwa [hs.cart] at he)
  carts k c hc := by
    rw [hs.takenAside]
    exact (h.carts k c ((hs.hasCart_iff k c).1 hc)).mono hs.toKnows

/-- In a shop in order no cart came from outside. -/
theorem not_hasGiven (h : Coherent s) (k : String) : ¬ s.HasGiven k := by
  rintro ⟨e, he, hne⟩
  obtain ⟨k', c, -, rfl⟩ := h.own _ _ he
  exact hne c rfl

/-- Identifiers that are taken have tokens that were handed out. -/
theorem seen_of_takenAside (h : Coherent s) {k id : String} (hid : s.TakenAside k id) :
    ∃ t ∈ s.seen, id = Gid.cartLinePrefix ++ t := by
  obtain ⟨k', c, -, hc, l, hl, rfl⟩ := hid
  exact ((h.carts k' c hc).lines.sound l hl).id

/-- A cart in order may be kept under its identifier. -/
theorem withCart (h : Coherent s) {k : String} {c : Cart} (hc : c.Sound (s.TakenAside k) s k) :
    Coherent (s.withCart k c) := by
  have knows : Knows s (s.withCart k c) := .withEntity s (by decide) _ _
  refine ⟨h.catalogue.mono knows, fun id e he => ?_, fun k' c' hc' => ?_⟩
  · by_cases hid : (id == Key.text k) = true
    · rw [Shop.withCart, entity?_congr _ _ hid, entity?_withEntity_self] at he
      exact ⟨k, c, Key.text_beq_iff.1 (BEq.symm hid), (Option.some.inj he).symm⟩
    · rw [Shop.withCart, entity?_withEntity_of_ne s (.inr (by simpa using hid))] at he
      exact h.own id e he
  · obtain ⟨rfl, rfl⟩ | ⟨hk, known⟩ := hasCart_withCart.1 hc'
    · rw [takenAside_withCart_self]
      exact hc.mono knows
    · have sound := h.carts k' c' known
      have lines := sound.lines.mono knows
      refine ⟨sound.id, sound.decoded, ⟨lines.sound, lines.ids, lines.variants, ?_, ?_⟩,
        sound.attributes, sound.discount⟩
      -- The kept cart shares no identifier with this one, as seen from either of them.
      · rintro l hl ⟨k₂, c₂, hk₂, hc₂, l₂, hl₂, heq⟩
        obtain ⟨rfl, rfl⟩ | ⟨-, hc₂⟩ := hasCart_withCart.1 hc₂
        · exact hc.lines.apart l₂ hl₂ ⟨k', c', hk, known, l, hl, heq.symm⟩
        · exact sound.lines.apart l hl ⟨k₂, c₂, hk₂, hc₂, l₂, hl₂, heq⟩
      · rintro _ ⟨k₂, c₂, -, hc₂, l₂, hl₂, rfl⟩
        obtain ⟨rfl, rfl⟩ | ⟨-, hc₂⟩ := hasCart_withCart.1 hc₂
        · exact (hc.lines.sound l₂ hl₂).id
        · exact ((h.carts k₂ c₂ hc₂).lines.sound l₂ hl₂).id

end Coherent

/-- An edit lets the shop grow, if it changes lines. -/
theorem Edited.grows {s s' : Shop} {c c' : Cart} (h : Edited s c s' c') : Grows s s' := by
  cases h with
  | relined h =>
    obtain ⟨ls, h, -⟩ := h
    exact h.grows
  | noted note => exact .refl
  | attributed a => exact .refl
  | discounted code => exact .refl

/-- Every step keeps a shop in order. -/
theorem Step.coherent {s s' : Shop} (h : Step s s') (hs : Coherent s) : Coherent s' := by
  cases h with
  | side h => exact hs.keeps h.keeps
  | made hk hid hls has hd =>
    refine hs.withCart ⟨hid, hk, ?_, ?_, ?_⟩
    · rw [hls]
      -- There are no lines yet, but those of other carts have taken their identifiers.
      exact ⟨by simp, .nil, .nil, by simp, fun _ h => hs.seen_of_takenAside h⟩
    · rw [has]
      exact List.Pairwise.nil
    · rw [hd]
      intro d h
      cases h
  | @edited s' k c c' hc h now =>
    -- The shop grew while the edit was worked out, and the cart is kept afterwards.
    have keeps : Keeps s s' := h.grows.keeps
    have sound := h.sound hs.catalogue (hs.carts k c hc)
    rw [← keeps.takenAside] at sound
    exact (hs.keeps keeps).withCart
      ⟨sound.id, sound.decoded, sound.lines, sound.attributes, sound.discount⟩
  | @priced s' k c c' hc h hp =>
    have keeps : Keeps s s' := h.keeps
    have sound := (hs.keeps keeps).carts k c ((keeps.hasCart_iff k c).2 hc)
    exact (hs.keeps keeps).withCart (hp.sound sound)
  | given h v => exact absurd h (hs.not_hasGiven _)

/-- Any number of steps keeps a shop in order. -/
theorem Coherent.steps {s s' : Shop} (h : Coherent s) (hs : Steps s s') : Coherent s' := by
  induction hs with
  | refl => exact h
  | tail _ step ih => exact step.coherent ih

/-- Every shop that is ever reached is in order. -/
theorem Reachable.coherent {s : Shop} (h : Reachable s) : Coherent s := by
  apply h.invariant
  · exact coherent_new
  · intro s s' hs step
    exact step.coherent hs

end Shop

end Storefront
