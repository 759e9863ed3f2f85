import Mathlib.Logic.Relation
import Storefront.Proofs.Act
import Storefront.Proofs.Gid
import Storefront.Shop.Carts
import Storefront.Shop.Groups

/-! # What a step can do to a shop

All that ever happens to a shop is made of a few kinds of steps, and each relation below lists some
of them with all that guards them.  The relations build on one another:

* `Draw` : the supply changes, or a token is handed out that was not
* `Growth` : the same, or a variant is made up that was not known
* `SideStep` : the same, or a product, a plan, a group or a link is kept or erased
* `LineStep` : a shop grows while the lines of a cart are being changed
* `Step` : any of these, or a cart is made, changed or priced

An invariant of shops that each kind of step preserves holds of every shop that is ever reached. -/

namespace Storefront

open Relation (ReflTransGen)

namespace Shop

/-! ### Entities of a shop -/

/-- The entity of a kind under an identifier. -/
def entity? (s : Shop) (kind : String) (id : Key) : Option Entity := s.store.get? (.text kind) id

/-- The shop with an entity of a kind put under an identifier. -/
def withEntity (s : Shop) (kind : String) (id : Key) (e : Entity) : Shop :=
  { s with store := s.store.set (.text kind) id (some e) }

/-- The shop without the entity of a kind under an identifier. -/
def withoutEntity (s : Shop) (kind : String) (id : Key) : Shop :=
  { s with store := s.store.delete (.text kind) id }

/-- To look at the clock changes nothing. -/
@[simp] theorem on_timestamp (s : Shop) : Act.on timestamp s = (.ok s.supply.timestamp, s) := rfl

/-- To find an entity changes nothing. -/
@[simp] theorem on_find? (s : Shop) (kind : String) (id : Key) :
    Act.on (find? kind id) s = (.ok (s.entity? kind id), s) := rfl

/-- Nor does it change anything to ask whether there is one. -/
@[simp] theorem on_has (s : Shop) (kind : String) (id : Key) :
    Act.on (has kind id) s = (.ok (s.entity? kind id).isSome, s) := rfl

/-- An entity that is kept is put under its identifier. -/
@[simp] theorem on_keep (s : Shop) (kind : String) (id : Key) (e : Entity) :
    Act.on (keep kind id e) s = (.ok (), s.withEntity kind id e) := rfl

/-- What is erased is told from what was not there. -/
@[simp] theorem on_erase (s : Shop) (kind : String) (id : Key) :
    Act.on (erase kind id) s = (.ok (s.entity? kind id).isSome, s.withoutEntity kind id) := rfl

/-- What was kept is found. -/
@[simp] theorem entity?_withEntity_self (s : Shop) (kind : String) (id : Key) (e : Entity) :
    (s.withEntity kind id e).entity? kind id = some e :=
  Store.get?_set_self ..

/-- An entity is found under any spelling of its identifier. -/
theorem entity?_congr (s : Shop) (kind : String) {id other : Key} (h : (id == other) = true) :
    s.entity? kind id = s.entity? kind other :=
  Store.get?_congr _ _ h

/-- What is kept elsewhere is found as before. -/
theorem entity?_withEntity_of_ne (s : Shop) {kind kind' : String} {id id' : Key}
    (h : kind' ≠ kind ∨ (id' == id) = false) (e : Entity) :
    (s.withEntity kind id e).entity? kind' id' = s.entity? kind' id' := by
  apply Store.get?_set_of_ne
  simpa using h

/-- What is of another kind is found as before. -/
theorem entity?_withoutEntity_of_ne (s : Shop) {kind kind' : String} (h : kind' ≠ kind)
    (id id' : Key) : (s.withoutEntity kind id).entity? kind' id' = s.entity? kind' id' := by
  apply Store.get?_delete_of_ne
  left
  simpa using h

/-- The kind of an owner's links is none of those whose name is an identifier. -/
theorem mark_append_ne (owner kind : String) : connectionMark ++ owner ≠ Gid.kindPrefix kind := by
  intro h
  have := congrArg String.toList h
  simp [connectionMark, Gid.kindPrefix] at this

end Shop

/-! ### Draws and growth -/

/-- The variant is as the shop makes variants up: of a product that has an identifier, and at a
price that is a number. -/
def Variant.IsMadeUp (v : Variant) : Prop := (∃ p, v.productId = .text p) ∧ ∃ x, v.price = .float x

namespace Shop

/-- Something is taken from the supply, or a token is handed out. -/
inductive Draw : Shop → Shop → Prop
  | supply (s : Shop) (p : Supply) : Draw s { s with supply := p }
  | token (s : Shop) {t : String} (h : t ∉ s.seen) : Draw s { s with seen := s.seen ++ [t] }

/-- What any number of draws leads to. -/
abbrev Draws : Shop → Shop → Prop := ReflTransGen Draw

/-- A token is handed out between two shops. -/
def HandsOut (s s' : Shop) (t : String) : Prop := t ∉ s.seen ∧ t ∈ s'.seen

end Shop

/-- The identifier of the variant's picture is made up between two shops. -/
def Variant.IsPictured (v : Variant) (s s' : Shop) : Prop :=
  ∃ t, s.HandsOut s' t ∧ v.image.id = Gid.imagePrefix ++ t

/-- The product has an identifier, and it comes in a single variant that is made up between two
shops. -/
structure Product.IsMadeUp (p : Product) (key : Key) (s s' : Shop) : Prop where
  id : p.id = key.toValue
  variant : ∃ v, p.variants = [v] ∧ v.productId = key.toValue ∧ v.IsPictured s s' ∧
    ∃ t, s.HandsOut s' t ∧ v.id = .text (Gid.variantPrefix ++ t)

namespace Shop

/-- Something is drawn, or a variant is made up, and what that takes is drawn; it has the identifier
that was asked for, and a new picture. -/
inductive Growth : Shop → Shop → Prop
  | draw {s s' : Shop} (h : Draw s s') : Growth s s'
  | variant {s s₁ : Shop} {id : Key} {v : Variant} (h : s.entity? Gid.variantPrefix id = none)
      (drawn : Draws s s₁) (hv : v.IsMadeUp) (hid : id.toValue.truthy = true → v.id = id.toValue)
      (hp : v.IsPictured s s₁) : Growth s (s₁.withEntity Gid.variantPrefix id (.variant v))

/-- A shop grows, or an entity is kept or erased that is neither a variant nor a cart. -/
inductive SideStep : Shop → Shop → Prop
  | growth {s s' : Shop} (h : Growth s s') : SideStep s s'
  | product {s s₁ : Shop} {id : Key} {p : Product} (h : s.entity? Gid.productPrefix id = none)
      (drawn : Draws s s₁) (hp : p.IsMadeUp id s s₁) :
      SideStep s (s₁.withEntity Gid.productPrefix id (.product p))
  | plan (s : Shop) (id : Key) (e : Entity) : SideStep s (s.withEntity Gid.planPrefix id e)
  | planErased (s : Shop) (id : Key) : SideStep s (s.withoutEntity Gid.planPrefix id)
  | group (s : Shop) (g : SellingPlanGroup) :
      SideStep s (s.withEntity Gid.groupPrefix (.text g.id) (.group g))
  | groupErased (s : Shop) (id : Key) : SideStep s (s.withoutEntity Gid.groupPrefix id)
  | links (s : Shop) (owner : String) (relation : Key) (members : List (Key × Value)) :
      SideStep s (s.withEntity (connectionMark ++ owner) relation (.links members))

/-- What any amount of growth leads to. -/
abbrev Grows : Shop → Shop → Prop := ReflTransGen Growth

/-- What any number of steps aside from carts leads to. -/
abbrev SideSteps : Shop → Shop → Prop := ReflTransGen SideStep

/-- Draws are growth. -/
theorem Draws.grows {s s' : Shop} (h : Draws s s') : Grows s s' :=
  h.mono (fun _ _ => .draw) _ _

/-- Growth is a step aside from carts. -/
theorem Grows.sideSteps {s s' : Shop} (h : Grows s s') : SideSteps s s' :=
  h.mono (fun _ _ => .growth) _ _

end Shop

/-! ### Changes of a cart -/

/-- The line repeats what the record of its variant says, with identifiers encoded. -/
structure Line.Shows (l : Line) (record : Value) : Prop where
  image : Shop.pictureOf record = .ok l.image
  product : (record.item "product_id" >>= Gid.encodeValue) = .ok l.product
  title : record.item "title" = .ok l.title

/-- The line without its costs. -/
def Line.bare (l : Line) : Line :=
  { l with subtotal := ⟨"", ""⟩, total := ⟨"", ""⟩, price := ⟨"", ""⟩ }

/-- Only the country, the costs and the costs of the lines of a cart are changed. -/
inductive Cart.Repriced (c : Cart) : Cart → Prop
  | intro {ls : List Line} (h : ls.map Line.bare = c.lines.map Line.bare) (country : Key)
      (total subtotal : Money) (tax : Option Money) :
      Repriced c { c with country, lines := ls, total, subtotal, tax }

/-- A cart of the shop's own stays one, and is changed along a relation; a cart from outside stays
one. -/
def KeptCart.Along (R : Cart → Cart → Prop) : KeptCart → KeptCart → Prop
  | .made c, .made c' => R c c'
  | .given _, .given _ => True
  | _, _ => False

/-- A cart that is changed along a relation is changed along any weaker one. -/
theorem KeptCart.Along.mono {R R' : Cart → Cart → Prop} {kc kc' : KeptCart} (h : kc.Along R kc')
    (hR : ∀ c c', R c c' → R' c c') : kc.Along R' kc' := by
  cases kc <;> cases kc'
  · exact hR _ _ h
  · exact h
  · exact h
  · trivial

/-- Two changes of a cart are a change along what they come to. -/
theorem KeptCart.Along.trans {R S T : Cart → Cart → Prop} {kc kc₁ kc' : KeptCart}
    (h : kc.Along R kc₁) (h₁ : kc₁.Along S kc') (hT : ∀ c c₁ c', R c c₁ → S c₁ c' → T c c') :
    kc.Along T kc' := by
  -- The three carts are all of the shop's own, or all from outside.
  cases kc <;> cases kc₁ <;> cases kc' <;> first | exact h.elim | exact h₁.elim | skip
  · exact hT _ _ _ h h₁
  · trivial

namespace Shop

/-- While the lines of a cart are being changed, the shop grows, or lines get more pieces, or lines
are dropped, or a line is added for a variant that has none. -/
inductive LineStep : Shop × List Line → Shop × List Line → Prop
  | growth {s s' : Shop} (h : Growth s s') (ls : List Line) : LineStep (s, ls) (s', ls)
  | extend (s : Shop) (p : Line → Bool) {quantity : Int} (h : 1 ≤ quantity)
      (attributes : List Value)
      (ls : List Line) :
      LineStep (s, ls) (s, Cart.replaceFirst p (Cart.extended · quantity attributes) ls)
  | drop (s : Shop) (p : Line → Bool) (ls : List Line) : LineStep (s, ls) (s, ls.filter p)
  | append {s : Shop} {t : String} {l : Line} {e : Entity} {ls : List Line} (ht : t ∉ s.seen)
      (hid : l.id = Gid.cartLinePrefix ++ t) (hsent : Gid.encodeText l.id = .ok (Gid.encode l.id))
      (hv : Gid.decode l.variant = l.variant)
      (hnew : ∀ l' ∈ ls, l'.variant ≠ l.variant) (hq : 1 ≤ l.quantity)
      (he : s.entity? Gid.variantPrefix (.text l.variant) = some e) (hs : l.Shows e.toValue) :
      LineStep (s, ls) ({ s with seen := s.seen ++ [t] }, ls ++ [l])

/-- What any number of changes of the lines of a cart leads to. -/
abbrev LineSteps : Shop × List Line → Shop × List Line → Prop := ReflTransGen LineStep

/-- The lines of a cart are changed, while the shop may grow. -/
def Relined (s s' : Shop) (c c' : Cart) : Prop :=
  ∃ ls, LineSteps (s, c.lines) (s', ls) ∧ c' = { c with lines := ls }

/-- Lines that are changed twice are changed. -/
theorem Relined.trans {s s₁ s' : Shop} {c c₁ c' : Cart} (h : Relined s s₁ c c₁)
    (h₁ : Relined s₁ s' c₁ c') : Relined s s' c c' := by
  obtain ⟨ls₁, h, rfl⟩ := h
  obtain ⟨ls, h₁, rfl⟩ := h₁
  exact ⟨ls, h.trans h₁, rfl⟩

/-- One part of a cart is changed, while the shop may grow. -/
inductive Edited (s : Shop) (c : Cart) : Shop → Cart → Prop
  | relined {s' : Shop} {c' : Cart} (h : Relined s s' c c') : Edited s c s' c'
  | noted (note : Value) : Edited s c s { c with note }
  | attributed (a : Attribute) :
      Edited s c s { c with attributes := Cart.setAttribute a c.attributes }
  | discounted (code : Value) :
      Edited s c s { c with discount := some ⟨code, Discount.isAccepted code⟩ }

/-- A cart of the shop's own is kept under an identifier. -/
def HasCart (s : Shop) (k : String) (c : Cart) : Prop :=
  s.entity? Gid.cartPrefix (.text k) = some (.cart c)

/-- What is kept under the identifier of a cart came from outside. -/
def HasGiven (s : Shop) (k : String) : Prop :=
  ∃ e, s.entity? Gid.cartPrefix (.text k) = some e ∧ ∀ c, e ≠ .cart c

/-- The shop with a cart kept under an identifier. -/
def withCart (s : Shop) (k : String) (c : Cart) : Shop :=
  s.withEntity Gid.cartPrefix (.text k) (.cart c)

/-- Anything that happens to a shop. -/
inductive Step : Shop → Shop → Prop
  | side {s s' : Shop} (h : SideStep s s') : Step s s'
  | made (s : Shop) {k : String} {c : Cart} (hk : Gid.decode k = k) (hid : c.id = k)
      (hls : c.lines = []) (has : c.attributes = []) (hd : c.discount = none) :
      Step s (s.withCart k c)
  | edited {s s' : Shop} {k : String} {c c' : Cart} (hc : s.HasCart k c) (h : Edited s c s' c')
      (now : String) : Step s (s'.withCart k { c' with updatedAt := now })
  | priced {s s' : Shop} {k : String} {c c' : Cart} (hc : s.HasCart k c) (h : Grows s s')
      (hp : c.Repriced c') : Step s (s'.withCart k c')
  | given {s : Shop} {k : String} (h : s.HasGiven k) (v : Value) :
      Step s (s.withEntity Gid.cartPrefix (.text k) (.record v))

/-- What anything that happens to a shop leads to. -/
abbrev Steps : Shop → Shop → Prop := ReflTransGen Step

/-- Steps aside from carts are steps. -/
theorem SideSteps.steps {s s' : Shop} (h : SideSteps s s') : Steps s s' :=
  h.mono (fun _ _ => .side) _ _

/-- While the shop grows, the lines may stay as they are. -/
theorem Grows.lineSteps {s s' : Shop} (h : Grows s s') (ls : List Line) :
    LineSteps (s, ls) (s', ls) :=
  ReflTransGen.lift (fun s => (s, ls)) (fun _ _ h => .growth h ls) _ _ h

end Shop
end Storefront
