import Storefront.Proofs.Commuting
import Storefront.Proofs.Overflow

/-! # Edits of lines that return, in any market

What an edit leaves behind once it returns follows from its draft, from the market that it is asked
for in and from the prices of the catalogue: `run_eq_ok_iff` says what it is, and when there is
anything at all.  Costs, market and time of the cart as it was before are overwritten.  So two edits
of lines in a row come to the same as one, if their drafts do: `run_run_alike`.

* `Cart.content` : a cart without what repricing and dating overwrite
* `run_eq_ok_iff` : an edit with a draft, in any market
* `ReturnsAlike` : the same answer and the same shop, but for times
* `CartEdit.RelinesBy` : an edit that changes nothing but lines, and draws nothing -/

namespace Storefront

open Shop

/-- Lines that differ in what they cost alone agree on all else. -/
theorem Line.map_comp_bare {β : Type} {ls ls' : List Line}
    (h : ls.map Line.bare = ls'.map Line.bare) (f : Line → β) :
    ls.map (f ∘ Line.bare) = ls'.map (f ∘ Line.bare) := by
  rw [← List.map_map, h, List.map_map]

namespace Cart

/-- The cart without its costs, its country and the time of its last change. -/
def content (c : Cart) : Cart := { c.bare with country := .null }

/-- Repricing leaves the content. -/
theorem content_quoted {c : Cart} {qs : List Quote} (h : c.lines.length = qs.length) (key : Key) :
    (c.quoted key qs).content = c.content := by
  have lines := Line.map_bare_quoted (Market.ofKey key).currency h
  simp only [content, bare, quoted, lines]

/-- Quotes overwrite all costs and the country. -/
theorem dated_quoted_of_content_eq {c c' : Cart} (h : c.content = c'.content) (now : String)
    (key : Key) (qs : List Quote) : (c.dated now).quoted key qs = (c'.dated now).quoted key qs :=
  calc (c.dated now).quoted key qs = (c.content.quoted key qs).dated now :=
        (quoted_bare (c.dated now) key qs).symm
    _ = (c'.content.quoted key qs).dated now := by rw [h]
    _ = (c'.dated now).quoted key qs := quoted_bare (c'.dated now) key qs

/-- Carts of the same content have the same lines up to their prices. -/
theorem map_bare_of_content_eq {c c' : Cart} (h : c.content = c'.content) :
    c.lines.map Line.bare = c'.lines.map Line.bare :=
  congrArg Cart.lines h

/-- Lines of the same content may take the place of others. -/
theorem content_relined {c c' : Cart} (h : c.content = c'.content) {ls ls' : List Line}
    (hls : ls.map Line.bare = ls'.map Line.bare) :
    ({ c with lines := ls } : Cart).content = ({ c' with lines := ls' } : Cart).content :=
  calc ({ c with lines := ls } : Cart).content
      = (Change.relined (ls.map Line.bare)).apply c.content := rfl
    _ = (Change.relined (ls'.map Line.bare)).apply c'.content := by rw [h, hls]

end Cart

namespace Shop

variable {s s₁ s' : Shop} {id country : Value} {k : String} {key : Key} {c d : Cart} {e : CartEdit}
  {m : Market} {ls : List Line} {qs : List Quote} {a : Option KeptCart}

/-! ### One edit -/

/-- To keep a cart moves no price of the catalogue. -/
theorem price?_withCart (s : Shop) (k : String) (c : Cart) :
    (s.withCart k c).price? = s.price? := by
  funext variant
  rw [price?, price?, withCart, entity?_withEntity_of_ne s (.inl (by decide))]

/-- Keeping a cart changes no quotes. -/
theorem quotes_withCart : (s.withCart k c).Quotes m ls qs ↔ s.Quotes m ls qs := by
  have same : ∀ l, (s.withCart k c).quote? m l = s.quote? m l := by
    intro l
    rw [quote?, price?_withCart, quote?]
  simp only [Quotes, same]

/-- The market of a cart depends on its country only. -/
theorem countryFor_congr (h : d.country = c.country) (country : Value) :
    (KeptCart.made d).countryFor country = (KeptCart.made c).countryFor country := by
  rw [KeptCart.countryFor, KeptCart.countryFor, h]

/-- A cart that is priced for a market is asked for in that market again. -/
theorem countryFor_quoted (h : (KeptCart.made c).countryFor country = .ok key) (qs : List Quote) :
    (KeptCart.made (c.quoted key qs)).countryFor country = .ok key := by
  rw [KeptCart.countryFor] at h ⊢
  split
  · rename_i named
    rwa [if_pos named] at h
  · rfl

/-- Lines that can be priced have quantities that doubles can count. -/
theorem Quotes.countable (h : s.Quotes m ls qs) : ∀ l ∈ ls, Decimal.ofInt? l.quantity ≠ none := by
  refine ((List.forall₂_and_left ls qs).1 (h.imp fun l q hq => ⟨?_, hq⟩)).1
  obtain ⟨_, _, _, -, -, counted, -⟩ := quote?_eq_some.1 hq
  rw [counted]
  exact Option.some_ne_none _

/-- Lines that have prices can be priced, if others can that have as many pieces or more. -/
theorem exists_quotes_of_le {m' : Market} {ls' : List Line}
    (hp : ∀ l ∈ ls, ∃ x, s.price? l.variant = some (.float x)) (hqs : s'.Quotes m' ls' qs)
    (h : ∀ l ∈ ls, 0 ≤ l.quantity ∧ ∃ l' ∈ ls', l.quantity ≤ l'.quantity) :
    ∃ qs, s.Quotes m ls qs := by
  refine exists_quotes hp fun l hl => ?_
  obtain ⟨nonneg, l', hl', le⟩ := h l hl
  exact Decimal.ofInt?_ne_none_of_le nonneg le (hqs.countable l' hl')

/-- The lines of a draft are of different variants, and of each there are pieces that
have a price. -/
theorem lines_of_draft (hs : Coherent s) (hc : s.HasCart k c)
    (hd : Act.on (e.draft country (.made c)) s = (.ok (some (.made d)), s₁)) :
    (d.lines.map (·.variant)).Nodup ∧
      ∀ l ∈ d.lines, 1 ≤ l.quantity ∧ ∃ x, s₁.price? l.variant = some (.float x) := by
  have edited : Edited s c s₁ d := (CartEdit.draft_isEdit country e _).along hd
  have coherent := (Step.edited hc edited s₁.supply.timestamp).coherent hs
  generalize s₁.supply.timestamp = now at coherent
  have kept := hasCart_withCart_self s₁ k (d.dated now)
  have sound := (coherent.carts k _ kept).lines
  have prices := coherent.price? kept
  rw [price?_withCart] at prices
  exact ⟨sound.variants, fun l hl => ⟨(sound.sound l hl).quantity, prices l hl⟩⟩

/-- An edit with a draft returns exactly if the draft can be priced for a market, and then it keeps
the draft, dated and priced, and answers with it. -/
theorem run_eq_ok_iff (hs : Coherent s) (hid : Names id k) (hc : s.HasCart k c)
    (hd : Act.on (e.draft country (.made c)) s = (.ok (some (.made d)), s₁)) :
    Act.on (e.run id country) s = (.ok a, s') ↔
      ∃ key qs, (KeptCart.made d).countryFor country = .ok key ∧
        s₁.Quotes (Market.ofKey key) d.lines qs ∧
        a = some (.made ((d.dated s₁.supply.timestamp).quoted key qs)) ∧
        s' = s₁.withCart k ((d.dated s₁.supply.timestamp).quoted key qs) := by
  have edited : Edited s c s₁ d := (CartEdit.draft_isEdit country e _).along hd
  have coherent := (Step.edited hc edited s₁.supply.timestamp).coherent hs
  have kept := hasCart_withCart_self s₁ k (d.dated s₁.supply.timestamp)
  -- The draft is kept, and then priced as if it were read.
  rw [on_run_of_draft hid hc hd, ← on_setCountry hid.raw kept]
  generalize s₁.supply.timestamp = now at coherent kept ⊢
  constructor
  · intro h
    obtain ⟨-, key, qs, hkey, hqs, ha, hs'⟩ := getCart_eq_ok coherent hid.raw kept h
    rw [withCart_withCart] at hs'
    exact ⟨key, qs, hkey, quotes_withCart.1 hqs, ha, hs'⟩
  · rintro ⟨key, qs, hkey, hqs, rfl, rfl⟩
    have read := on_getCart hid.raw kept hkey (quotes_withCart.2 hqs)
    rwa [withCart_withCart] at read

/-- Whether or not the draft can be priced, it is kept, but for what pricing overwrites; and it
stays in the market that the edit was asked for in. -/
theorem exists_run_of_draft (hs : Coherent s) (hid : Names id k) (hc : s.HasCart k c)
    (hd : Act.on (e.draft country (.made c)) s = (.ok (some (.made d)), s₁))
    (hkey : (KeptCart.made d).countryFor country = .ok key) :
    ∃ r c₁, Act.on (e.run id country) s = (r, s₁.withCart k c₁) ∧ c₁.content = d.content ∧
      (KeptCart.made c₁).countryFor country = .ok key := by
  have edited : Edited s c s₁ d := (CartEdit.draft_isEdit country e _).along hd
  have coherent := (Step.edited hc edited s₁.supply.timestamp).coherent hs
  have kept := hasCart_withCart_self s₁ k (d.dated s₁.supply.timestamp)
  rw [on_run_of_draft hid hc hd]
  -- Which instant the change is dated at does not matter, so it is named and forgotten.
  generalize s₁.supply.timestamp = now at coherent kept ⊢
  have dated : (KeptCart.made (d.dated now)).countryFor country = .ok key := hkey
  -- every quantity can be counted: the cart is priced
  by_cases hcount : (d.dated now).Countable
  · obtain ⟨qs, hqs, hpriced⟩ := on_repriceCart_countable coherent hid.raw kept dated hcount
    rw [withCart_withCart] at hpriced
    exact ⟨_, _, hpriced, Cart.content_quoted hqs.length_eq key, countryFor_quoted dated qs⟩
  · -- one is too large: the cart stays as it was kept
    exact ⟨_, _, on_repriceCart_tooLarge coherent hid.raw kept dated hcount, rfl, dated⟩

/-! ### Two edits -/

/-- Two requests were answered with the same cart and left the same shop behind, but for the times
of the last change and of the shop. -/
inductive ReturnsAlike (k : String) : Option KeptCart → Shop → Option KeptCart → Shop → Prop
  | intro (s : Shop) (c : Cart) (now : String) (t : Int) :
    ReturnsAlike k (some (.made c)) (s.withCart k c) (some (.made (c.dated now)))
      ((s.withCart k (c.dated now)).atTime t)

end Shop

/-- The edit turns the lines of a cart, of which no two have the same identifier, into others, and
does no more. -/
def CartEdit.RelinesBy (e : CartEdit) (f : List Line → List Line) : Prop :=
  ∀ country c s, (c.lines.map (·.id)).Nodup →
    Act.on (e.draft country (.made c)) s = (.ok (some (.made { c with lines := f c.lines })), s)

namespace Shop

variable {s s' : Shop} {id country : Value} {k : String} {c : Cart} {e e₁ e₂ : CartEdit}
  {f f₁ f₂ : List Line → List Line} {a : Option KeptCart}

/-- An edit that returns leaves the lines that it turns those of the cart into, but for
their costs. -/
theorem lines_of_run (hf : e.RelinesBy f) (hs : Coherent s) (hid : Names id k) (hc : s.HasCart k c)
    (h : Act.on (e.run id country) s = (.ok a, s')) : ∃ c', a = some (.made c') ∧
      s'.HasCart k c' ∧ c'.lines.map Line.bare = (f c.lines).map Line.bare := by
  have draft := hf country c s (hs.carts k c hc).lines.ids
  obtain ⟨key, qs, -, hqs, rfl, rfl⟩ := (run_eq_ok_iff hs hid hc draft).1 h
  exact ⟨_, rfl, hasCart_withCart_self .., Line.map_bare_quoted _ hqs.length_eq⟩

/-- An edit returns exactly if there is a market and all quantities that it leaves can
be counted. -/
theorem exists_run_iff (hf : e.RelinesBy f) (hs : Coherent s) (hid : Names id k)
    (hc : s.HasCart k c) : (∃ a s', Act.on (e.run id country) s = (.ok a, s')) ↔
      (∃ key, (KeptCart.made c).countryFor country = .ok key) ∧
        ∀ l ∈ f c.lines, Decimal.ofInt? l.quantity ≠ none := by
  have draft := hf country c s (hs.carts k c hc).lines.ids
  constructor
  · -- what was answered was quoted, so the quantities can be counted
    rintro ⟨a, s', h⟩
    obtain ⟨key, qs, hkey, hqs, -⟩ := (run_eq_ok_iff hs hid hc draft).1 h
    exact ⟨⟨key, hkey⟩, hqs.countable⟩
  · -- a market and quantities that can be counted are all that a quote needs
    rintro ⟨⟨key, hkey⟩, countable⟩
    obtain ⟨-, priced⟩ := lines_of_draft hs hc draft
    obtain ⟨qs, hqs⟩ := exists_quotes (m := Market.ofKey key)
      (fun l hl => (priced l hl).2) countable
    exact ⟨_, _, (run_eq_ok_iff hs hid hc draft).2 ⟨key, qs, hkey, hqs, rfl, rfl⟩⟩

/-- Where one edit returns, so does another that leaves no line with more pieces than that leaves
some line, at whatever time. -/
theorem exists_run_of_le (hf : e.RelinesBy f) (hf₁ : e₁.RelinesBy f₁) (hs : Coherent s)
    (hid : Names id k) (hc : s.HasCart k c)
    (le : ∀ l ∈ f₁ c.lines, ∃ l' ∈ f c.lines, l.quantity ≤ l'.quantity)
    (h : Act.on (e.run id country) s = (.ok a, s')) (t : Int) :
    ∃ b s₁, Act.on (e₁.run id country) (s.atTime t) = (.ok b, s₁) := by
  obtain ⟨market, countable⟩ := (exists_run_iff hf hs hid hc).1 ⟨a, s', h⟩
  have ht := coherent_atTime hs t
  obtain ⟨-, priced⟩ := lines_of_draft ht hc (hf₁ country c _ (hs.carts k c hc).lines.ids)
  refine (exists_run_iff hf₁ ht hid hc).2 ⟨market, fun l hl => ?_⟩
  obtain ⟨l', hl', hle⟩ := le l hl
  have := (priced l hl).1
  exact Decimal.ofInt?_ne_none_of_le (by omega) hle (countable l' hl')

/-- Where one edit returns and does the same to lines as two others in a row, but for costs, the
second of these returns as well and leaves the same behind, at whatever times.  The first may fail
to be priced for a line that only the second takes away, and is kept all the same. -/
theorem run_run_alike (hf : e.RelinesBy f) (hf₁ : e₁.RelinesBy f₁) (hf₂ : e₂.RelinesBy f₂)
    (both : ∀ ls ls', ls'.map Line.bare = (f₁ ls).map Line.bare →
      (f₂ ls').map Line.bare = (f ls).map Line.bare) (hs : Coherent s) (hid : Names id k)
    (hc : s.HasCart k c) (h : Act.on (e.run id country) s = (.ok a, s')) (t₁ t₂ : Int) :
    ∃ a₂ s₂, Act.on (e₂.run id country) ((Act.on (e₁.run id country) (s.atTime t₁)).2.atTime t₂) =
      (.ok a₂, s₂) ∧ ReturnsAlike k a s' a₂ s₂ := by
  have ids := (hs.carts k c hc).lines.ids
  obtain ⟨key, qs, hkey, hqs, rfl, rfl⟩ := (run_eq_ok_iff hs hid hc (hf country c s ids)).1 h
  -- The first run may fail, but it leaves a cart of the right content in the same market.
  obtain ⟨r, c₁, first, content₁, hkey₁⟩ := exists_run_of_draft (coherent_atTime hs t₁) hid hc
    (hf₁ country c (s.atTime t₁) ids) hkey
  rw [first]
  -- The second run starts from a shop that is coherent and has that cart.
  have coherent : Coherent (((s.atTime t₁).withCart k c₁).atTime t₂) :=
    coherent_atTime ((coherent_atTime hs t₁).steps ((e₁.run_steps id country).of_on first)) t₂
  have kept : (((s.atTime t₁).withCart k c₁).atTime t₂).HasCart k c₁ := hasCart_withCart_self ..
  -- What the second makes of the lines of the first is what the one edit makes of the cart's.
  have lines : (f₂ c₁.lines).map Line.bare = (f c.lines).map Line.bare :=
    both c.lines c₁.lines (Cart.map_bare_of_content_eq content₁)
  have content : ({ c₁ with lines := f₂ c₁.lines } : Cart).content =
      ({ c with lines := f c.lines } : Cart).content := Cart.content_relined content₁ lines
  have quotes : (((s.atTime t₁).withCart k c₁).atTime t₂).Quotes (Market.ofKey key) (f₂ c₁.lines)
      qs := by
    rw [← quotes_map_bare, lines, quotes_map_bare]
    exact (quotes_withCart (s := s)).2 hqs
  refine ⟨_, _, (run_eq_ok_iff coherent hid kept (hf₂ country c₁ _
    (coherent.carts k c₁ kept).lines.ids)).2 ⟨key, qs, hkey₁, quotes, rfl, rfl⟩, ?_⟩
  -- Both runs are dated, so the instants are named before the two results are compared.
  generalize s.supply.timestamp = now
  generalize (((s.atTime t₁).withCart k c₁).atTime t₂).supply.timestamp = now₂
  rw [Cart.dated_quoted_of_content_eq content]
  have overwritten : ∀ c₂, (((s.atTime t₁).withCart k c₁).atTime t₂).withCart k c₂ =
      (s.withCart k c₂).atTime t₂ := by
    intro c₂
    show ((s.withCart k c₁).withCart k c₂).atTime t₂ = _
    rw [withCart_withCart]
  rw [overwritten]
  exact .intro s ((({ c with lines := f c.lines } : Cart).dated now).quoted key qs) now₂ t₂

end Shop
end Storefront
