import Storefront.Proofs.Coherent
import Storefront.Proofs.Rejections

/-! # Costs that never go stale

As long as no operation on carts fails, every cart is either as it was created or priced: its costs
are what pricing comes to for its country, its lines and the catalogue as they are now.  A change
leaves a cart unsettled only between its two steps; everything else leaves the cart and the known
prices alone.

* `Cart.Settled` : the costs of a cart are up to date
* `repriceCart_settled` : repricing settles the one cart that is not
* `Untroubled.allSettled` : the invariant -/

namespace Storefront

open Shop

/-! ### Settled carts -/

/-- A line that is quoted twice has the costs of the second quote. -/
theorem Line.quoted_quoted (currency currency' : String) (l : Line) (q q' : Quote) :
    (l.quoted currency q).quoted currency' q' = l.quoted currency' q' := rfl

/-- So have lines that are quoted twice. -/
theorem zipWith_quoted_quoted (currency currency' : String) {ls : List Line} {qs : List Quote}
    (qs' : List Quote) (h : ls.length = qs.length) :
    (ls.zipWith (Line.quoted currency) qs).zipWith (Line.quoted currency') qs' =
      ls.zipWith (Line.quoted currency') qs' := by
  -- The first quotes are as many as the lines, so they hide none of them; the second may be fewer.
  induction ls generalizing qs qs' with
  | nil => rfl
  | cons l ls ih =>
    cases qs with
    | nil => simp at h
    | cons q qs =>
      cases qs' with
      | nil => rfl
      | cons q' qs' =>
        have rest := ih qs' (by simpa using h)
        rw [List.zipWith_cons_cons, List.zipWith_cons_cons, rest, Line.quoted_quoted]
        rfl

/-- A line that is quoted was a line before. -/
theorem mem_zipWith_quoted {currency : String} {ls : List Line} {qs : List Quote} {l : Line}
    (h : l ∈ ls.zipWith (Line.quoted currency) qs) : ∃ l₀ q, l = Line.quoted currency l₀ q := by
  rw [List.mem_iff_getElem] at h
  obtain ⟨i, hi, rfl⟩ := h
  rw [List.getElem_zipWith]
  exact ⟨_, _, rfl⟩

/-- A quote does not depend on what a line has cost so far. -/
theorem Shop.Quotes.quoted {s : Shop} {m : Market} {ls : List Line} {qs qs' : List Quote}
    (h : s.Quotes m ls qs) (currency : String) (hlength : ls.length = qs'.length) :
    s.Quotes m (ls.zipWith (Line.quoted currency) qs') qs := by
  induction h generalizing qs' with
  | nil => exact .nil
  | cons hq _ ih =>
    cases qs' with
    | nil => simp at hlength
    | cons q' qs' => exact .cons hq (ih (by simpa using hlength))

namespace Cart

/-- The currency of the market that a cart is priced in. -/
def currency (c : Cart) : String := (Market.ofKey c.country).currency

/-- All amounts of money of a cart. -/
def amounts (c : Cart) : List Money :=
  c.total :: c.subtotal :: c.tax.toList ++ c.lines.flatMap fun l => [l.subtotal, l.total, l.price]

/-- The cart has only been created: it has no lines, and nothing was computed. -/
structure Unpriced (c : Cart) : Prop where
  lines : c.lines = []
  total : c.total = Money.zero c.currency
  subtotal : c.subtotal = Money.zero c.currency
  tax : c.tax = none

/-- The costs of the cart are those at the quotes for its lines in its country. -/
def PricedIn (s : Shop) (c : Cart) : Prop :=
  ∃ qs, s.Quotes (Market.ofKey c.country) c.lines qs ∧ c = c.quoted c.country qs

/-- The costs of the cart are up to date. -/
def Settled (s : Shop) (c : Cart) : Prop := c.Unpriced ∨ c.PricedIn s

/-- Quotes overwrite all that earlier quotes have written. -/
theorem quoted_quoted (c : Cart) (country country' : Key) {qs : List Quote} (qs' : List Quote)
    (h : c.lines.length = qs.length) :
    (c.quoted country qs).quoted country' qs' = c.quoted country' qs' := by
  simp only [quoted, zipWith_quoted_quoted _ _ qs' h]

/-- A cart that has just been quoted is priced. -/
theorem pricedIn_quoted {s : Shop} {c : Cart} {country : Key} {qs : List Quote}
    (h : s.Quotes (Market.ofKey country) c.lines qs) : (c.quoted country qs).PricedIn s :=
  -- The quotes are for its lines without costs, so they are quotes for the lines with costs too.
  ⟨qs, h.quoted _ h.length_eq, (quoted_quoted c country country qs h.length_eq).symm⟩

/-- Costs that are up to date stay so as long as what is known stays known. -/
theorem Settled.mono {s s' : Shop} {c : Cart} (h : c.Settled s) (hs : s.Knows s') :
    c.Settled s' :=
  h.imp_right fun ⟨qs, hqs, hc⟩ => ⟨qs, hs.quotes hqs, hc⟩

/-- All amounts that quotes write are in the currency of the market. -/
theorem currency_quoted (c : Cart) (country : Key) (qs : List Quote) :
    ∀ m ∈ (c.quoted country qs).amounts, m.currency = (Market.ofKey country).currency := by
  intro m hm
  simp only [amounts, quoted, List.cons_append, List.mem_cons, List.mem_append, List.mem_flatMap,
    Option.toList_some] at hm
  -- The amounts are the total, the subtotal and the tax of the cart, and three for each line.
  obtain rfl | rfl | rfl | h | ⟨l, hl, hm⟩ := hm
  · rfl
  · rfl
  · rfl
  · cases h
  · obtain ⟨l₀, q, rfl⟩ := mem_zipWith_quoted hl
    obtain rfl | rfl | rfl | h := hm
    · rfl
    · rfl
    · rfl
    · cases h

/-- The amounts of a cart whose costs are up to date are in the currency of its market. -/
theorem Settled.currency {s : Shop} {c : Cart} (h : c.Settled s) :
    ∀ m ∈ c.amounts, m.currency = c.currency := by
  obtain h | ⟨qs, -, hc⟩ := h
  · -- Nothing was computed, so the amounts are two zeros.
    simp [amounts, h.lines, h.tax, h.total, h.subtotal, Money.zero]
  · have := currency_quoted c c.country qs
    rwa [← hc] at this

end Cart

namespace Shop

/-- The costs of all carts are up to date, but perhaps those of the cart under an identifier. -/
def SettledBut (s : Shop) (k : String) : Prop := ∀ k' c, k' ≠ k → s.HasCart k' c → c.Settled s

/-- The costs of all carts are up to date. -/
def AllSettled (s : Shop) : Prop := ∀ k c, s.HasCart k c → c.Settled s

variable {s s' : Shop} {k : String} {c : Cart}

/-- If all are settled, so are all but one. -/
theorem AllSettled.but (h : s.AllSettled) (k : String) : s.SettledBut k := by
  intro k' c _ hc
  exact h k' c hc

/-- What keeps carts and prices keeps them settled. -/
theorem AllSettled.keeps (h : s.AllSettled) (hs : Keeps s s') : s'.AllSettled := by
  intro k c hc
  rw [hs.hasCart_iff] at hc
  exact (h k c hc).mono hs.toKnows

/-- The same if one of them was not settled. -/
theorem SettledBut.keeps (h : s.SettledBut k) (hs : Keeps s s') : s'.SettledBut k := by
  intro k' c hk hc
  rw [hs.hasCart_iff] at hc
  exact (h k' c hk hc).mono hs.toKnows

/-- Keeping a cart forgets nothing that is known. -/
theorem knows_withCart (s : Shop) (k : String) (c : Cart) : Knows s (s.withCart k c) :=
  .withEntity s (by decide) _ _

/-- Keeping a cart unsettles no other. -/
theorem SettledBut.withCart (h : s.SettledBut k) (c : Cart) : (s.withCart k c).SettledBut k := by
  intro k' c' hk hc'
  -- The cart that was kept is the one that may be unsettled.
  obtain ⟨rfl, -⟩ | ⟨-, hc'⟩ := hasCart_withCart.1 hc'
  · exact absurd rfl hk
  · exact (h k' c' hk hc').mono (knows_withCart s k c)

/-- Keeping the one cart that was not settled, once it is, settles all. -/
theorem SettledBut.settle (h : s.SettledBut k) (hc : c.Settled s) :
    (s.withCart k c).AllSettled := by
  intro k' c' hc'
  obtain ⟨rfl, rfl⟩ | ⟨hk, -⟩ := hasCart_withCart.1 hc'
  · exact hc.mono (knows_withCart s _ _)
  · exact h.withCart c k' c' hk hc'

/-! ### Operations settle carts -/

variable {country : Value}

/-- Repricing settles the one cart that its identifier names. -/
theorem repriceCart_settled {raw : String} (hown : ∀ k, ¬ s.HasGiven k)
    (h : ∀ k, Names (.text raw) k → s.SettledBut k) {kc : KeptCart}
    (hr : Act.on (repriceCart raw country) s = (.ok (some kc), s')) : s'.AllSettled := by
  -- Without a cart, nothing was repriced.
  obtain ⟨hnone, -⟩ | ⟨k, kc₀, key, kc', s₁, hid, hkc, -, hp, -, rfl⟩ := repriceCart_eq_ok hr
  · cases hnone
  · obtain ⟨c, rfl, -⟩ | ⟨-, hgiven⟩ := cart?_cases hkc
    · obtain ⟨qs, hqs, rfl⟩ := priced_ok hp
      have grown : Grows s s₁ := (priced_grows _ _).of_on hp
      have settled : (c.quoted key qs).Settled s₁ := .inr (Cart.pricedIn_quoted hqs)
      -- The other carts were settled before, and growth leaves them so.
      exact ((h k hid).keeps grown.keeps).settle settled
    · exact absurd hgiven (hown k)

/-- An edit leaves one cart unsettled, and its repricing settles that. -/
theorem editCart_settled {id : Value} {listed : Except Fault (List Value)}
    {change : List Value → KeptCart → Act Shop (Option KeptCart)}
    (hchange : ∀ l kc, IsEdit kc (change l kc)) (hs : Coherent s) (h : s.AllSettled)
    {a : Option KeptCart} (hr : Act.on (editCart id country listed change) s = (.ok a, s')) :
    s'.AllSettled := by
  obtain ⟨-, rfl⟩ | ⟨_, kc, l, -, -, -, hc, -⟩ | ⟨k, kc, l, kc', s₁, hid, hkc, -, hc, hr⟩ :=
    editCart_eq_ok hr
  · exact h
  · -- The request is turned down, its change is, or the changed cart is kept and repriced.
    exact h.keeps ((hchange l kc).grows.of_on hc).keeps
  · have settled : s₁.AllSettled := h.keeps ((hchange l kc).grows.of_on hc).keeps
    have along := (hchange l kc).along hc
    obtain ⟨c, rfl, hmine⟩ | ⟨-, hgiven⟩ := cart?_cases hkc
    · cases kc' with
      | given v => exact along.elim
      | made c' =>
        cases a with
        | none => exact absurd hr (commit_ne_none hid.raw s')
        | some kc₁ =>
          rw [on_commit_made] at hr
          -- The kept cart is the only one that its own identifier names.
          have others : ∀ k', Names (.text k) k' →
              (s₁.withCart k (c'.dated s₁.supply.timestamp)).SettledBut k' := by
            intro k' hk'
            rw [← hid.raw.eq hk']
            exact (settled.but k).withCart _
          have kept := (Step.edited hmine along s₁.supply.timestamp).coherent hs
          exact repriceCart_settled kept.not_hasGiven others hr
    · exact absurd hgiven (hs.not_hasGiven k)

/-- Moving a cart to a market settles it, as it reprices it. -/
theorem setCountry_settled {id : Value} (hown : ∀ k, ¬ s.HasGiven k) (h : s.AllSettled)
    {a : Option KeptCart} (hr : Act.on (setCountry id country) s = (.ok a, s')) :
    s'.AllSettled := by
  obtain ⟨-, rfl⟩ | ⟨raw, -, hr⟩ := setCountry_eq_ok hr
  · exact h
  · cases a with
    | none =>
      obtain rfl := repriceCart_noneUnchanged raw country s s' hr
      exact h
    | some kc => exact repriceCart_settled hown (fun k _ => h.but k) hr

/-- A cart that is created has no costs. -/
theorem createCart_settled {id : Value} (h : s.AllSettled) {a : Option Cart}
    (hr : Act.on (createCart country id) s = (.ok a, s')) : s'.AllSettled := by
  obtain ⟨-, rfl⟩ | ⟨key, k, s₁, -, -, -, hdrawn, -, rfl⟩ := createCart_eq_ok hr
  · exact h
  · -- Drawing an identifier comes before, and unsettles nothing.
    have settled : s₁.AllSettled := by
      obtain ⟨-, rfl⟩ | hdrawn := hdrawn
      · exact h
      · exact h.keeps ((freshId_draws _).of_on hdrawn).grows.keeps
    exact (settled.but k).settle (.inl ⟨rfl, rfl, rfl, rfl⟩)

/-- Emptying a cart settles it: both of its requests do. -/
theorem emptyCart_settled {id : Value} (h : s.AllSettled) (hs : Coherent s) {a : Bool}
    (hr : Act.on (emptyCart id country) s = (.ok a, s')) : s'.AllSettled := by
  obtain ⟨cart, s₁, hg, hr⟩ := Act.on_bind_eq_ok.1 hr
  have settled : s₁.AllSettled := setCountry_settled hs.not_hasGiven h hg
  -- It reads the cart, and unless it has no lines, removes them.
  have coherent : Coherent s₁ := hs.steps ((getCart_steps id country).of_on hg)
  split at hr
  · obtain ⟨-, rfl⟩ := Prod.mk.inj hr
    exact settled
  · obtain ⟨ids, s₂, hids, hr⟩ := Act.on_bind_eq_ok.1 hr
    obtain ⟨-, rfl⟩ := Prod.mk.inj hids
    split at hr
    · obtain ⟨-, rfl⟩ := Prod.mk.inj hr
      exact settled
    · obtain ⟨_, s₃, hremoved, hr⟩ := Act.on_bind_eq_ok.1 hr
      obtain ⟨-, rfl⟩ := Prod.mk.inj hr
      exact editCart_settled withRemovals_isEdit coherent settled hremoved

/-- Every operation on carts that does not fail leaves all carts settled. -/
theorem run_settled (r : CartRequest) (h : s.AllSettled) (hs : Coherent s)
    {a : Option KeptCart} (hr : Act.on r.run s = (.ok a, s')) : s'.AllSettled := by
  -- Each request ends in keeping a cart that was just made or priced.
  cases r with
  | create country id =>
    rw [CartRequest.run, Act.on_map] at hr
    rcases hc : Act.on (createCart country id) s with ⟨e | cart, s₁⟩ <;> rw [hc] at hr
    · cases hr
    · obtain ⟨-, rfl⟩ := Prod.mk.inj hr
      exact createCart_settled h hc
  | get id country => exact setCountry_settled hs.not_hasGiven h hr
  | setCountry id country => exact setCountry_settled hs.not_hasGiven h hr
  | edit id country e =>
    rw [CartRequest.run, e.run_eq] at hr
    exact editCart_settled (e.change_isEdit country) hs h hr

/-! ### Runs in which no operation on carts fails -/

/-- The shops that are reached by operations on carts that do not fail, by anything aside from carts
and by resetting, while time passes. -/
inductive Untroubled : Shop → Prop
  | new (context : Context) (supply : Supply) : Untroubled (Shop.new context supply)
  | cart {s s' : Shop} {a : Option KeptCart} (h : Untroubled s) (r : CartRequest)
      (hr : Act.on r.run s = (.ok a, s')) : Untroubled s'
  | hasCart {s s' : Shop} {a : Bool} (h : Untroubled s) (id : Value)
      (hr : Act.on (hasCart id) s = (.ok a, s')) : Untroubled s'
  | emptyCart {s s' : Shop} {a : Bool} (h : Untroubled s) (id country : Value)
      (hr : Act.on (emptyCart id country) s = (.ok a, s')) : Untroubled s'
  | side {s : Shop} (h : Untroubled s) (r : SideRequest) : Untroubled (Act.on r.run s).2
  | reset {s : Shop} (h : Untroubled s) : Untroubled s.reset
  /-- Time passes, and chance does what it will. -/
  | passage {s : Shop} (h : Untroubled s) (supply : Supply) : Untroubled { s with supply }

/-- An untroubled shop is coherent, as all that are reached are. -/
theorem Untroubled.coherent (h : Untroubled s) : Coherent s := by
  induction h with
  | new context supply => exact coherent_new context supply
  | cart _ r hr ih => exact ih.steps ((CartRequest.run_steps r).of_on hr)
  | hasCart _ id hr ih => exact ih.steps ((hasCart_steps id).of_on hr)
  | emptyCart _ id country hr ih => exact ih.steps ((emptyCart_steps id country).of_on hr)
  | @side s _ r ih => exact ih.steps (SideSteps.steps (r.run_sideSteps s))
  | @reset s _ _ => exact coherent_new s.context s.supply
  | passage _ supply ih => exact ih.keeps (Growth.draw (.supply _ supply)).keeps

/-- In a new shop, and after a reset, there are no carts. -/
theorem Untroubled.allSettled (h : Untroubled s) : s.AllSettled := by
  induction h with
  | new context supply => exact fun _ _ hc => by cases hc
  | cart h r hr ih => exact run_settled r ih h.coherent hr
  | hasCart _ id hr ih =>
    obtain rfl := (hasCart_reads id).of_on hr
    exact ih
  | emptyCart h id country hr ih => exact emptyCart_settled ih h.coherent hr
  -- What happens aside from carts keeps both the carts and the prices.
  | @side s _ r ih => exact ih.keeps (SideSteps.keeps (r.run_sideSteps s))
  | reset _ _ => exact fun _ _ hc => by cases hc
  | passage _ supply ih => exact ih.keeps (Growth.draw (.supply _ supply)).keeps

/-- As long as no operation on carts fails, the costs of every cart are up to date: it has only been
created, or its costs are the quotes for its lines in its country, and pricing it again changes
nothing.  All of them are in the currency of the market of its country. -/
theorem Untroubled.costs_current (h : Untroubled s) {id : Key} {e : Entity}
    (he : s.entity? Gid.cartPrefix id = some e) :
    ∃ c, e = .cart c ∧
      (c.Unpriced ∨ c.PricedIn s ∧ Act.on (priced c.country (.made c)) s = (.ok (.made c), s)) ∧
      ∀ m ∈ c.amounts, m.currency = (Market.ofKey c.country).currency := by
  obtain ⟨k, c, rfl, rfl⟩ := h.coherent.own id e he
  have settled : c.Settled s := h.allSettled k c he
  -- Pricing finds the same quotes again, and these write what is there.
  refine ⟨c, rfl, settled.imp_right fun priced => ⟨priced, ?_⟩, settled.currency⟩
  obtain ⟨qs, hqs, hc⟩ := priced
  rw [on_priced hqs, ← hc]

/-- The sample is made by a creation and an addition that do not fail. -/
theorem untroubled_sample : Untroubled sample := by
  obtain ⟨a, ha⟩ := Act.eq_ok_of_toBool
    (p := Act.on sampleCreation.run (.new default (.fresh 0 0 [])))
    (by decide +kernel)
  have created : Untroubled sampleCreated := (Untroubled.new default _).cart sampleCreation ha
  obtain ⟨b, hb⟩ := Act.eq_ok_of_toBool
    (p := Act.on (sampleAddition [lineFor "1" 2]).run sampleCreated)
    (by decide +kernel)
  exact created.cart _ hb

/-- The cart of the sample is one to which the theorem applies. -/
theorem Untroubled.costs_current_sample : ∃ e,
    sample.entity? Gid.cartPrefix (.text sampleId) = some e ∧ ∃ c, e = .cart c ∧
      (c.Unpriced ∨
        c.PricedIn sample ∧ Act.on (priced c.country (.made c)) sample = (.ok (.made c), sample)) ∧
      ∀ m ∈ c.amounts, m.currency = (Market.ofKey c.country).currency := by
  obtain ⟨e, he⟩ : ∃ e, sample.entity? Gid.cartPrefix (.text sampleId) = some e :=
    Option.isSome_iff_exists.1 (by decide +kernel)
  exact ⟨e, he, Untroubled.costs_current untroubled_sample he⟩

end Shop
end Storefront
