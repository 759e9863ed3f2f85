import Mathlib.Data.List.Forall2
import Storefront.Proofs.Frame

/-! # What pricing a cart comes to

The costs of a cart follow from the country that it is priced for, from its lines and their
quantities, and from the prices that the catalogue has: `Shop.quote?` says what one line costs,
`Cart.quoted` puts the quotes of all lines into a cart, and `priced_ok` says that this is what
pricing does.

A variant that the catalogue knows keeps its record whenever a shop grows, so a quote never
changes. -/

namespace Storefront

/-- The price of a piece and the amount for all pieces of a line. -/
structure Quote where
  unit : Float
  amount : Float

/-- The line at a quote in a currency. -/
def Line.quoted (currency : String) (l : Line) (q : Quote) : Line :=
  { l with subtotal := Money.of q.amount currency, total := Money.of q.amount currency
           price := Money.of q.unit currency }

/-- The sum of some quotes, added up in order. -/
def Quote.net (qs : List Quote) : Float := qs.foldl (fun net q => net + q.amount) 0

/-- The cart at quotes for its lines in a country. -/
def Cart.quoted (c : Cart) (country : Key) (qs : List Quote) : Cart :=
  let market := Market.ofKey country
  let (total, subtotal, tax) := Shop.costsOf market (Quote.net qs)
  { c with country, lines := c.lines.zipWith (Line.quoted market.currency) qs
           total, subtotal, tax := some tax }

/-- Quotes change nothing but costs. -/
@[simp] theorem Line.bare_quoted (currency : String) (l : Line) (q : Quote) :
    (l.quoted currency q).bare = l.bare := rfl

/-- The same for all lines. -/
theorem Line.map_bare_quoted (currency : String) {ls : List Line} {qs : List Quote}
    (h : ls.length = qs.length) :
    (ls.zipWith (Line.quoted currency) qs).map Line.bare = ls.map Line.bare := by
  rw [List.map_zipWith]
  simp only [Line.bare_quoted]
  induction ls generalizing qs with
  | nil => rfl
  | cons l ls ih =>
    cases qs with
    | nil => simp at h
    | cons q qs => rw [List.zipWith_cons_cons, List.map_cons, ih (by simpa using h)]

namespace Shop

open Act (Within)
open Relation (ReflTransGen)

/-! ### Quotes -/

/-- The price that the catalogue has for a variant. -/
def price? (s : Shop) (variant : String) : Option Value :=
  match s.entity? Gid.variantPrefix (.text variant) with
  | some (.variant v) => some v.price
  | some e => (e.toValue.item "price").toOption
  | none => none

/-- What a line costs in a market, if its variant has a price and its quantity is a double. -/
def quote? (s : Shop) (m : Market) (l : Line) : Option Quote := do
  let unit ← (m.priceOf (← s.price? l.variant)).toOption
  let quantity ← Decimal.ofInt? l.quantity
  return ⟨unit, unit * quantity⟩

/-- A price that is known stays. -/
theorem Knows.price?_eq {s s' : Shop} (h : Knows s s') {id : String} {v : Value}
    (hv : s.price? id = some v) : s'.price? id = some v := by
  rw [price?] at hv
  cases he : s.entity? Gid.variantPrefix (.text id) with
  | none => simp [he] at hv
  | some e => rw [price?, h.variant _ _ he, ← hv, he]

/-- A line has a quote if its variant has a price that is a number, and its quantity is a double. -/
theorem quote?_eq_some {s : Shop} {m : Market} {l : Line} {q : Quote} :
    s.quote? m l = some q ↔ ∃ price unit quantity, s.price? l.variant = some price ∧
      m.priceOf price = .ok unit ∧ Decimal.ofInt? l.quantity = some quantity ∧
      q = ⟨unit, unit * quantity⟩ := by
  -- Both quotes are options made of a result, so success is the same for both.
  have ok_iff : ∀ (x : Except Fault Float) a, x.toOption = some a ↔ x = .ok a := by
    intro x a
    cases x <;> simp [Except.toOption]
  simp only [quote?, Option.bind_eq_bind, Option.bind_eq_some_iff, ok_iff, Option.pure_def,
    Option.some.injEq]
  constructor
  · rintro ⟨price, hp, unit, hu, quantity, hn, rfl⟩
    exact ⟨price, unit, quantity, hp, hu, hn, rfl⟩
  · rintro ⟨price, unit, quantity, hp, hu, hn, rfl⟩
    exact ⟨price, hp, unit, hu, quantity, hn, rfl⟩

/-- A quote that is known stays. -/
theorem Knows.quote?_eq {s s' : Shop} (h : Knows s s') {m : Market} {l : Line} {q : Quote}
    (hq : s.quote? m l = some q) : s'.quote? m l = some q := by
  obtain ⟨price, unit, quantity, hp, rest⟩ := quote?_eq_some.1 hq
  exact quote?_eq_some.2 ⟨price, unit, quantity, h.price?_eq hp, rest⟩

/-- The quotes for lines in a market, one for each. -/
def Quotes (s : Shop) (m : Market) : List Line → List Quote → Prop :=
  List.Forall₂ fun l q => s.quote? m l = some q

/-- So do the quotes of all lines. -/
theorem Knows.quotes {s s' : Shop} (h : Knows s s') {m : Market} {ls : List Line}
    {qs : List Quote} (hqs : s.Quotes m ls qs) : s'.Quotes m ls qs :=
  hqs.imp fun _ _ => h.quote?_eq

/-! ### Pricing -/

/-- The price that is answered is the one that the catalogue has from then on. -/
theorem priceOf_ok {id : String} {s s' : Shop} {v : Value}
    (h : Act.on (priceOf (.text id)) s = (.ok v, s')) : s'.price? id = some v := by
  rw [priceOf, Act.on_bind_eq_ok] at h
  obtain ⟨e, s₁, he, h⟩ := h
  split at h
  · -- The variant is one of the shop's own, or was given from outside as a record.
    rename_i v₁
    obtain ⟨rfl, rfl⟩ : v₁.price = v ∧ s₁ = s' := by simpa using h
    rw [price?, variant_ok he]
  · rename_i e₁ hne
    obtain ⟨hv, rfl⟩ : e₁.toValue.item "price" = .ok v ∧ s₁ = s' := by simpa using h
    rw [price?, variant_ok he]
    cases e₁ with
    | variant v₁ => exact absurd rfl (hne v₁)
    | _ => simp only [hv, Except.toOption]
  · simp at h

/-- The amounts that are answered are the quote from then on. -/
theorem amountsOf_ok {m : Market} {l : Line} {s s' : Shop} {unit amount : Float}
    (h : Act.on (amountsOf m (.text l.variant) (.ok (.int l.quantity))) s =
      (.ok (unit, amount), s')) :
    s'.quote? m l = some ⟨unit, amount⟩ := by
  simp only [amountsOf, Act.on_bind_eq_ok, Act.on_lift, Act.on_pure, Prod.mk.injEq,
    Except.ok.injEq] at h
  obtain ⟨price, s₁, hp, _, _, ⟨hu, rfl⟩, _, _, ⟨rfl, rfl⟩, q, _, ⟨hq, rfl⟩, ⟨rfl, rfl⟩, rfl⟩ := h
  refine quote?_eq_some.2 ⟨price, _, q, priceOf_ok hp, hu, ?_, rfl⟩
  rw [Value.number, Value.doubleOfInt] at hq
  cases hd : Decimal.ofInt? l.quantity with
  | none => simp [hd] at hq
  | some x => simpa [hd] using hq

/-- Finding the amounts of a line may make up its variant. -/
theorem amountsOf_grows (m : Market) (variant : Key) (quantity : Except Fault Value) :
    Within Grows (amountsOf m variant quantity) :=
  .bind (priceOf_grows _) fun _ => .bind (.lift _) fun _ => .bind (.lift _) fun _ =>
    .bind (.lift _) fun _ => .pure _

/-- A line that is priced is put at its quote. -/
theorem priceLine_ok {m : Market} {sofar p : Priced Line} {l : Line} {s s' : Shop}
    (h : Act.on (priceLine m sofar l) s = (.ok p, s')) : ∃ q, s'.quote? m l = some q ∧
      p = ⟨sofar.lines ++ [l.quoted m.currency q], sofar.net + q.amount⟩ := by
  obtain ⟨⟨unit, amount⟩, s₁, ha, h⟩ := Act.on_bind_eq_ok.1 h
  obtain ⟨rfl, rfl⟩ : _ = p ∧ s₁ = s' := by simpa using h
  exact ⟨⟨unit, amount⟩, amountsOf_ok ha, rfl⟩

/-- Pricing a line may make up its variant. -/
theorem priceLine_grows (m : Market) (sofar : Priced Line) (l : Line) :
    Within Grows (priceLine m sofar l) :=
  .bind (amountsOf_grows _ _ _) fun _ => .pure _

/-- Pricing lines one after the other quotes each of them, and adds the quotes up. -/
theorem priceLines_ok {m : Market} {ls : List Line} {sofar p : Priced Line} {s s' : Shop}
    (h : Act.on (ls.foldlM (priceLine m) sofar) s = (.ok p, s')) : ∃ qs, s'.Quotes m ls qs ∧
      p = ⟨sofar.lines ++ ls.zipWith (Line.quoted m.currency) qs,
        qs.foldl (fun net q => net + q.amount) sofar.net⟩ := by
  -- The induction is on the lines that are still to be priced.
  induction ls generalizing sofar s with
  | nil =>
    obtain ⟨rfl, rfl⟩ : sofar = p ∧ s = s' := by simpa using h
    exact ⟨[], .nil, by simp⟩
  | cons l ls ih =>
    rw [List.foldlM_cons, Act.on_bind_eq_ok] at h
    obtain ⟨sofar₁, s₁, h₁, h⟩ := h
    obtain ⟨q, hq, rfl⟩ := priceLine_ok h₁
    obtain ⟨qs, hqs, rfl⟩ := ih h
    -- Variants may be made up for the other lines, but the quote of the first stays.
    have grown : Grows s₁ s' := (Within.foldlM (priceLine_grows m) ls _).of_on h
    refine ⟨q :: qs, .cons (grown.keeps.quote?_eq hq) hqs, ?_⟩
    simp

/-- A priced cart is the cart at the quotes for its lines. -/
theorem priced_ok {country : Key} {c : Cart} {kc : KeptCart} {s s' : Shop}
    (h : Act.on (priced country (.made c)) s = (.ok kc, s')) :
    ∃ qs, s'.Quotes (Market.ofKey country) c.lines qs ∧ kc = .made (c.quoted country qs) := by
  obtain ⟨p, s₁, hp, h⟩ := Act.on_bind_eq_ok.1 h
  obtain ⟨qs, hqs, rfl⟩ := priceLines_ok hp
  obtain ⟨rfl, rfl⟩ : _ = kc ∧ s₁ = s' := by simpa using h
  exact ⟨qs, hqs, rfl⟩

/-- Pricing an edge of a cart from outside may make up its variant. -/
theorem priceEdge_grows (m : Market) (sofar : Priced Value) (edge : Value) :
    Within Grows (priceEdge m sofar edge) :=
  .bind (.lift _) fun _ => .bind (.lift _) fun _ => .bind (.lift _) fun _ =>
    .bind (amountsOf_grows _ _ _) fun _ => .bind (.lift _) fun _ => .bind (.lift _) fun _ => .pure _

/-- Pricing a cart of either kind may make up variants. -/
theorem priced_grows (country : Key) (kc : KeptCart) : Within Grows (priced country kc) := by
  cases kc with
  | made c => exact .bind (.foldlM (priceLine_grows _) _ _) fun _ => .pure _
  | given v =>
    refine .bind (.lift _) fun _ => .bind (.lift _) fun _ => .bind (.lift _) fun _ =>
      .bind (.foldlM (priceEdge_grows _) _ _) fun ⟨lines, net⟩ => ?_
    dsimp -zeta only
    extract_lets finish
    have hfinish : ∀ cart, Within Grows (finish cart) := fun _ => .bind (.lift _) fun _ => .pure _
    -- A record without lines keeps what it has in their place.
    split
    · exact .bind (.pure _) hfinish
    · exact .bind (.lift _) hfinish

/-- Pricing a cart of either kind gives one of the same kind, with nothing but its costs changed. -/
theorem priced_along {country : Key} {kc kc' : KeptCart} {s s' : Shop}
    (h : Act.on (priced country kc) s = (.ok kc', s')) : kc.Along Cart.Repriced kc' := by
  cases kc with
  | made c =>
    obtain ⟨qs, hqs, rfl⟩ := priced_ok h
    exact .intro (Line.map_bare_quoted _ hqs.length_eq) ..
  | given v =>
    simp only [priced, Act.on_bind_eq_ok, Act.on_lift] at h
    obtain ⟨_, _, -, _, _, -, _, _, -, p, s₁, -, h⟩ := h
    split at h <;>
      simp only [Act.on_bind_eq_ok, Act.on_lift, Act.on_pure, Prod.mk.injEq,
        Except.ok.injEq] at h <;>
      obtain ⟨_, _, -, _, _, -, rfl, -⟩ := h <;> trivial

/-! ### Pricing where all variants are known -/

/-- A variant that is known is looked up without any change. -/
theorem on_variant_of_known {id : Key} {e : Entity} {s : Shop}
    (h : s.entity? Gid.variantPrefix id = some e) (make : Bool) :
    Act.on (variant id make) s = (.ok (some e), s) := by
  have known : (make && !(s.entity? Gid.variantPrefix id).isSome) = false := by simp [h]
  rw [variant, Act.on_bind, on_has]
  dsimp only
  rw [known]
  simp [h]

/-- A price that is known is answered without any change. -/
theorem on_priceOf_of_price? {id : String} {v : Value} {s : Shop} (h : s.price? id = some v) :
    Act.on (priceOf (.text id)) s = (.ok v, s) := by
  rw [price?] at h
  split at h
  · -- a variant has its price, and it is known
    rename_i v₀ he
    obtain rfl := Option.some.inj h
    rw [priceOf, Act.on_bind_of_ok (on_variant_of_known he true)]
    rfl
  · -- what else is kept there has the price under this name
    rename_i e hne he
    have hv : e.toValue.item "price" = .ok v := by
      cases hi : e.toValue.item "price" <;> rw [hi] at h <;> cases h
      rfl
    rw [priceOf, Act.on_bind_of_ok (on_variant_of_known he true)]
    cases e with
    | variant v₀ => exact absurd rfl (hne v₀)
    | _ => simp only [hv, Act.on_lift]
  · cases h

/-- A line that has a quote is priced at it, and nothing changes. -/
theorem on_priceLine {m : Market} {l : Line} {q : Quote} {s : Shop} (h : s.quote? m l = some q)
    (sofar : Priced Line) : Act.on (priceLine m sofar l) s =
      (.ok ⟨sofar.lines ++ [l.quoted m.currency q], sofar.net + q.amount⟩, s) := by
  obtain ⟨price, unit, quantity, hp, hu, hq, rfl⟩ := quote?_eq_some.1 h
  have number : (Value.int l.quantity).number = .ok quantity := by
    simp [Value.number, Value.doubleOfInt, hq]
  simp only [priceLine, amountsOf, Act.on_bind, on_priceOf_of_price? hp, Act.on_lift, hu, number,
    Act.on_pure, Line.quoted]

/-- Lines that have quotes are priced at them, and nothing changes. -/
theorem on_priceLines {m : Market} {ls : List Line} {qs : List Quote} {s : Shop}
    (h : s.Quotes m ls qs) (sofar : Priced Line) : Act.on (ls.foldlM (priceLine m) sofar) s =
      (.ok ⟨sofar.lines ++ ls.zipWith (Line.quoted m.currency) qs,
        qs.foldl (fun net q => net + q.amount) sofar.net⟩, s) := by
  induction h generalizing sofar with
  | nil => simp
  | cons hq hqs ih =>
    rw [List.foldlM_cons, Act.on_bind_of_ok (on_priceLine hq sofar), ih]
    simp

/-- A cart whose lines have quotes is priced at them, and nothing changes. -/
theorem on_priced {country : Key} {c : Cart} {qs : List Quote} {s : Shop}
    (h : s.Quotes (Market.ofKey country) c.lines qs) :
    Act.on (priced country (.made c)) s = (.ok (.made (c.quoted country qs)), s) := by
  rw [priced, Act.on_bind_of_ok (on_priceLines h _)]
  rfl

/-- A line whose quantity is too large for a double cannot be priced. -/
theorem on_priceLine_tooLarge {m : Market} {l : Line} {x : Float} {s : Shop}
    (hp : s.price? l.variant = some (.float x)) (h : Decimal.ofInt? l.quantity = none)
    (sofar : Priced Line) : Act.on (priceLine m sofar l) s = (.error .tooLarge, s) := by
  have number : (Value.int l.quantity).number = .error .tooLarge := by
    simp [Value.number, Value.doubleOfInt, h]
  have unit : m.priceOf (.float x) = .ok (x * m.adjustment) := rfl
  simp only [priceLine, amountsOf, Act.on_bind, on_priceOf_of_price? hp, Act.on_lift, number, unit]

/-- If all variants have prices, only a quantity that is too large keeps lines from being priced. -/
theorem on_priceLines_tooLarge {m : Market} {ls : List Line} {s : Shop}
    (hp : ∀ l ∈ ls, ∃ x, s.price? l.variant = some (.float x))
    (h : ∃ l ∈ ls, Decimal.ofInt? l.quantity = none) (sofar : Priced Line) :
    Act.on (ls.foldlM (priceLine m) sofar) s = (.error .tooLarge, s) := by
  induction ls generalizing sofar with
  | nil => simp at h
  | cons l ls ih =>
    obtain ⟨⟨x, hx⟩, hp⟩ := List.forall_mem_cons.1 hp
    rw [List.foldlM_cons]
    cases hq : Decimal.ofInt? l.quantity with
    | none => rw [Act.on_bind_of_error (on_priceLine_tooLarge hx hq sofar)]
    | some quantity =>
      -- This line is priced, so the one that is not comes later.
      have rest : ∃ l ∈ ls, Decimal.ofInt? l.quantity = none := by simpa [hq] using h
      have quote : s.quote? m l = some ⟨x * m.adjustment, x * m.adjustment * quantity⟩ :=
        quote?_eq_some.2 ⟨_, _, quantity, hx, rfl, hq, rfl⟩
      rw [Act.on_bind_of_ok (on_priceLine quote sofar), ih hp rest]

end Shop
end Storefront
