import Storefront.Proofs.CartReads
import Storefront.Proofs.Costs

/-! # Reading a cart again

A reading writes: it prices the cart for a country and keeps it.  Pricing overwrites all that it
ever writes, though, and it looks at nothing that it writes but the country, so of several readings
only the last that names a country counts.

* `getCart_getCart` : two readings are one
* `getCart_back` : a cart that is moved away and back is as it was
* `Reachable.reads_as_one` : any number of readings is one -/

namespace Storefront

open Shop

namespace Shop

/-- Of two entries under one identifier the later one stays. -/
theorem withEntity_withEntity (s : Shop) (kind : String) (id : Key) (e e' : Entity) :
    (s.withEntity kind id e).withEntity kind id e' = s.withEntity kind id e' := by
  simp [withEntity, Store.set_set]

/-- And so it is with carts. -/
theorem withCart_withCart (s : Shop) (k : String) (c c' : Cart) :
    (s.withCart k c).withCart k c' = s.withCart k c' :=
  withEntity_withEntity ..

/-- To keep a cart as it is kept changes nothing. -/
theorem withCart_of_hasCart {s : Shop} {k : String} {c : Cart} (h : s.HasCart k c) :
    s.withCart k c = s := by
  have kept : s.store.set (.text Gid.cartPrefix) (.text k) (some (.cart c)) = s.store :=
    Store.set_of_get? h
  rw [withCart, withEntity, kept]

/-! ### One reading -/

variable {s s₁ s' : Shop} {id id₁ id₂ country code code' : Value} {k : String}
  {key : Key} {c : Cart}
  {qs : List Quote} {a b : Option KeptCart}

/-- A cart whose lines have quotes is read at these, and kept. -/
theorem on_getCart (hid : Names id k) (hc : s.HasCart k c)
    (hkey : (KeptCart.made c).countryFor country = .ok key)
    (hqs : s.Quotes (Market.ofKey key) c.lines qs) :
    Act.on (getCart id country) s =
      (.ok (some (.made (c.quoted key qs))), s.withCart k (c.quoted key qs)) := by
  rw [getCart, on_setCountry hid hc, on_repriceCart hid.raw (cart?_eq_made.2 hc), hkey]
  dsimp only
  rw [on_priced hqs]
  rfl

/-- A reading that returns has priced the cart and kept it, and done nothing else. -/
theorem getCart_eq_ok (hs : Coherent s) (hid : Names id k) (hc : s.HasCart k c)
    (h : Act.on (getCart id country) s = (.ok a, s')) :
    c.Countable ∧ ∃ key qs, (KeptCart.made c).countryFor country = .ok key ∧
      s.Quotes (Market.ofKey key) c.lines qs ∧ a = some (.made (c.quoted key qs)) ∧
      s' = s.withCart k (c.quoted key qs) := by
  have repriced : Act.on (repriceCart k country) s = (.ok a, s') := by
    rwa [getCart, on_setCountry hid hc] at h
  cases hkey : (KeptCart.made c).countryFor country with
  | error f =>
    rw [on_repriceCart hid.raw (cart?_eq_made.2 hc), hkey] at repriced
    cases repriced
  | ok key =>
    by_cases hcount : c.Countable
    · obtain ⟨qs, hqs, hon⟩ := on_repriceCart_countable hs hid.raw hc hkey hcount
      rw [hon] at repriced
      obtain ⟨ha, rfl⟩ := Prod.mk.inj repriced
      exact ⟨hcount, key, qs, rfl, hqs, (Except.ok.inj ha).symm, rfl⟩
    · -- A line with too many pieces keeps the cart from being priced in any market.
      rw [on_repriceCart_tooLarge hs hid.raw hc hkey hcount] at repriced
      cases repriced

/-- Keeping a cart leaves all costs up to date. -/
theorem pricedIn_withCart {c c' : Cart} (h : c.PricedIn s) : c.PricedIn (s.withCart k c') := by
  obtain ⟨qs, hqs, hc⟩ := h
  exact ⟨qs, (knows_withCart s k c').quotes hqs, hc⟩

/-- A cart that is priced in its country is read there as it is, and nothing changes. -/
theorem on_getCart_of_pricedIn (hid : Names id k) (hc : s.HasCart k c) (hp : c.PricedIn s)
    (hkey : (KeptCart.made c).countryFor country = .ok c.country) :
    Act.on (getCart id country) s = (.ok (some (.made c)), s) := by
  obtain ⟨qs, hqs, hquoted⟩ := hp
  rw [on_getCart hid hc hkey hqs, ← hquoted, withCart_of_hasCart hc]

/-! ### Two readings -/

/-- The country of a second reading is the one that it names, or else that of the first. -/
theorem countryFor_orElse (code' : Value) {c : Cart} (c' : Cart)
    (h : (KeptCart.made c).countryFor code = .ok c'.country) :
    (KeptCart.made c').countryFor code' = (KeptCart.made c).countryFor (code'.orElse code) := by
  by_cases hcode : code'.truthy = true
  · simp [KeptCart.countryFor, Value.orElse, hcode]
  · have own : (KeptCart.made c').countryFor code' = .ok c'.country := by
      simp [KeptCart.countryFor, hcode]
    rw [own, Value.orElse, if_neg hcode, h]

/-- Two readings of a cart that return are as good as the second alone, in the market that the
second names, or else in that of the first. -/
theorem getCart_getCart (hs : Coherent s) (hc : s.HasCart k c) (hid₁ : Names id₁ k)
    (hid₂ : Names id₂ k) (hid : Names id k) (h₁ : Act.on (getCart id₁ code) s = (.ok a, s₁))
    (h₂ : Act.on (getCart id₂ code') s₁ = (.ok b, s')) :
    Act.on (getCart id (code'.orElse code)) s = (.ok b, s') := by
  have coherent : Coherent s₁ := hs.steps ((getCart_steps id₁ code).of_on h₁)
  obtain ⟨hcount, key₁, qs₁, hkey₁, hqs₁, -, rfl⟩ := getCart_eq_ok hs hid₁ hc h₁
  have hc₁ := hasCart_withCart_self s k (c.quoted key₁ qs₁)
  obtain ⟨-, key, -, hkey, -⟩ := getCart_eq_ok coherent hid₂ hc₁ h₂
  -- In the market of the second reading the lines had quotes before the first reading already, and
  -- these are the quotes that the second reading finds.
  obtain ⟨qs, hqs⟩ := exists_quotes (m := Market.ofKey key) (hs.price? hc) hcount
  have quotes : (s.withCart k (c.quoted key₁ qs₁)).Quotes (Market.ofKey key)
      (c.quoted key₁ qs₁).lines qs :=
    ((knows_withCart s k _).quotes hqs).quoted _ hqs₁.length_eq
  have direct : (KeptCart.made c).countryFor (code'.orElse code) = .ok key := by
    rw [← countryFor_orElse code' (c.quoted key₁ qs₁) hkey₁, hkey]
  rw [← h₂, on_getCart hid₂ hc₁ hkey quotes, Cart.quoted_quoted c key₁ key qs hqs₁.length_eq,
    withCart_withCart, on_getCart hid hc direct hqs]

/-- Reading a cart once more in the market where it was just read changes nothing. -/
theorem getCart_again (hs : Coherent s) (hc : s.HasCart k c) (hid₁ : Names id₁ k) (hid : Names id k)
    (h : Act.on (getCart id₁ code) s = (.ok a, s')) :
    Act.on (getCart id code) s' = (.ok a, s') := by
  obtain ⟨-, key, qs, hkey, hqs, rfl, rfl⟩ := getCart_eq_ok hs hid₁ hc h
  refine on_getCart_of_pricedIn hid (hasCart_withCart_self s k _)
    (pricedIn_withCart (Cart.pricedIn_quoted hqs)) ?_
  rw [countryFor_orElse code (c.quoted key qs) hkey, Value.orElse]
  split <;> exact hkey

/-- A cart that is priced is as it was, and so is the shop, once the cart was read elsewhere and
then in its own country again. -/
theorem getCart_back (hs : Coherent s) (hc : s.HasCart k c) (hp : c.PricedIn s) (hid₁ : Names id₁ k)
    (hid : Names id k) (h : Act.on (getCart id₁ code) s = (.ok a, s'))
    (htruthy : code'.truthy = true)
    (hkey : code'.asKey = .ok c.country) :
    Act.on (getCart id code') s' = (.ok (some (.made c)), s) := by
  -- A code that is truthy decides the market, whatever the cart's own country is.
  have own : ∀ c' : Cart, (KeptCart.made c').countryFor code' = .ok c.country := by
    intro c'
    rw [KeptCart.countryFor, if_pos htruthy, hkey]
  obtain ⟨qs, hqs, hquoted⟩ := hp
  obtain ⟨-, key₁, qs₁, -, hqs₁, -, rfl⟩ := getCart_eq_ok hs hid₁ hc h
  -- The quotes that made the cart as it is are quotes of it still, since only its prices moved.
  have quotes : (s.withCart k (c.quoted key₁ qs₁)).Quotes (Market.ofKey c.country)
      (c.quoted key₁ qs₁).lines qs :=
    ((knows_withCart s k _).quotes hqs).quoted _ hqs₁.length_eq
  rw [on_getCart hid (hasCart_withCart_self s k _) (own _) quotes,
    Cart.quoted_quoted c key₁ c.country qs hqs₁.length_eq, withCart_withCart, ← hquoted,
    withCart_of_hasCart hc]

end Shop

/-! ### Any number of readings -/

/-- The request reads the cart under a raw identifier, for the country that a code names or for the
cart's own. -/
inductive CartRequest.Reads (k : String) : CartRequest → Value → Prop
  | get {id : Value} (hid : Names id k) (code : Value) : Reads k (.get id code) code
  | setCountry {id : Value} (hid : Names id k) (code : Value) : Reads k (.setCountry id code) code

/-- A reading is what reading the cart does, whichever of the two requests it is. -/
theorem CartRequest.Reads.exists_getCart {k : String} {r : CartRequest} {code : Value}
    (h : r.Reads k code) : ∃ id, Names id k ∧ r.run = getCart id code := by
  cases h with
  | get hid code => exact ⟨_, hid, rfl⟩
  | setCountry hid code => exact ⟨_, hid, rfl⟩

/-- The last of some codes that names a country, or another value if none does. -/
def lastNamed (codes : List Value) (otherwise : Value) : Value :=
  (codes.filter (·.truthy)).getLastD otherwise

/-- A code that names a country is what is left over when no later one does. -/
theorem lastNamed_cons (code : Value) (codes : List Value) (otherwise : Value) :
    lastNamed (code :: codes) otherwise = lastNamed codes (code.orElse otherwise) := by
  by_cases hcode : code.truthy = true
  · simp only [lastNamed, Value.orElse, List.filter_cons, if_pos hcode, List.getLastD_cons]
  · simp only [lastNamed, Value.orElse, List.filter_cons, if_neg hcode]

namespace Shop

variable {s s₁ s' : Shop} {id id₁ code : Value} {k : String} {c : Cart} {a : Option KeptCart}

/-- A reading and any number of readings after it are as good as one. -/
theorem getCart_reads (hs : Coherent s) (hc : s.HasCart k c) (hid₁ : Names id₁ k)
    {rs : List CartRequest} {codes : List Value} (hrs : List.Forall₂ (CartRequest.Reads k) rs codes)
    (h : Act.on (getCart id₁ code) s = (.ok a, s₁)) {answers : List (Option KeptCart)}
    (hr : Act.on (rs.mapM CartRequest.run) s₁ = (.ok answers, s')) :
    Act.on (getCart id₁ (lastNamed codes code)) s = (.ok (answers.getLastD a), s') := by
  induction hrs generalizing code a s₁ answers with
  | nil =>
    obtain ⟨hanswers, rfl⟩ := Prod.mk.inj hr
    obtain rfl := Except.ok.inj hanswers
    exact h
  | @cons r code' rs codes hread _ ih =>
    obtain ⟨id₂, hid₂, hrun⟩ := hread.exists_getCart
    rw [List.mapM_cons] at hr
    obtain ⟨b, s₂, hb, hr⟩ := Act.on_bind_eq_ok.1 hr
    obtain ⟨rest, s₃, hrest, hr⟩ := Act.on_bind_eq_ok.1 hr
    obtain ⟨hanswers, rfl⟩ := Prod.mk.inj hr
    obtain rfl := Except.ok.inj hanswers
    rw [hrun] at hb
    -- The first two readings are one, which the rest follow.
    rw [lastNamed_cons, List.getLastD_cons]
    exact ih (getCart_getCart hs hc hid₁ hid₂ hid₁ h hb) hrest

/-- A code that names no country is as good as none. -/
theorem on_getCart_orElse_null (hc : s.HasCart k c) (hid₁ : Names id₁ k) (hid : Names id k) :
    Act.on (getCart id (code.orElse .null)) s = Act.on (getCart id₁ code) s := by
  have same : (KeptCart.made c).countryFor (code.orElse .null) =
      (KeptCart.made c).countryFor code := by
    by_cases hcode : code.truthy = true
    · rw [Value.orElse, if_pos hcode]
    · simp [Value.orElse, KeptCart.countryFor, hcode]
  rw [getCart, getCart, on_setCountry hid hc, on_setCountry hid₁ hc,
    on_repriceCart hid.raw (cart?_eq_made.2 hc), on_repriceCart hid.raw (cart?_eq_made.2 hc), same]

/-- Any number of readings of a cart that return, at least one, are as good as a single one, in the
market of the last country that they name. -/
theorem Reachable.reads_as_one (hs : Reachable s) (hc : s.HasCart k c) {rs : List CartRequest}
    {codes : List Value} (hrs : List.Forall₂ (CartRequest.Reads k) rs codes) (hne : rs ≠ [])
    {answers : List (Option KeptCart)}
    (hr : Act.on (rs.mapM CartRequest.run) s = (.ok answers, s')) (hid : Names id k) :
    ∃ c', answers.getLast? = some (some (.made c')) ∧
      Act.on (getCart id (lastNamed codes .null)) s = (.ok (some (.made c')), s') ∧
      -- Nothing is drawn or made up: all that is done is to keep the cart, which was not changed
      -- otherwise.
      s' = s.withCart k c' ∧ c'.updatedAt = c.updatedAt ∧
      -- To read it in the same market again changes nothing.
      Act.on (getCart id (lastNamed codes .null)) s' = (.ok (some (.made c')), s') ∧
      -- To read it elsewhere and then in its country again brings everything back.
      (∀ away back b s₁, Act.on (getCart id away) s' = (.ok b, s₁) → back.truthy = true →
        back.asKey = .ok c'.country →
        Act.on (getCart id back) s₁ = (.ok (some (.made c')), s')) ∧
      -- So it is from the start on, if the cart was priced.
      (c.PricedIn s → c'.country = c.country → c' = c ∧ s' = s) := by
  have coherent := hs.coherent
  cases hrs with
  | nil => exact absurd rfl hne
  | @cons r code rs codes hread hrs =>
    obtain ⟨id₁, hid₁, hrun⟩ := hread.exists_getCart
    rw [List.mapM_cons, hrun] at hr
    obtain ⟨a, s₁, first, hr⟩ := Act.on_bind_eq_ok.1 hr
    obtain ⟨rest, s₂, hrest, hr⟩ := Act.on_bind_eq_ok.1 hr
    obtain ⟨hanswers, rfl⟩ := Prod.mk.inj hr
    obtain rfl := Except.ok.inj hanswers
    rw [← on_getCart_orElse_null hc hid₁ hid] at first
    have read := getCart_reads coherent hc hid hrs first hrest
    rw [← lastNamed_cons] at read
    have again := getCart_again coherent hc hid hid read
    obtain ⟨-, key, qs, hkey, hqs, hlast, hs'⟩ := getCart_eq_ok coherent hid hc read
    rw [hlast] at read again
    refine ⟨c.quoted key qs, ?_, read, hs', rfl, again, ?_, ?_⟩
    · rw [List.getLast?_cons, ← List.getLastD_eq_getLast?, hlast]
    · intro away back b s₃ hb htruthy hback
      have kept : s₂.HasCart k (c.quoted key qs) := by
        rw [hs']
        exact hasCart_withCart_self s k _
      have priced : (c.quoted key qs).PricedIn s₂ := by
        rw [hs']
        exact pricedIn_withCart (Cart.pricedIn_quoted hqs)
      exact getCart_back (coherent.steps ((getCart_steps id _).of_on read)) kept priced hid hid hb
        htruthy hback
    · intro hp hcountry
      obtain rfl : key = c.country := hcountry
      have same := on_getCart_of_pricedIn hid hc hp hkey
      rw [read] at same
      obtain ⟨hcart, rfl⟩ := Prod.mk.inj same
      exact ⟨KeptCart.made.inj (Option.some.inj (Except.ok.inj hcart)), rfl⟩

/-- Readings of the cart of the sample: in a market, in its own, in one for a country without a
market, and in its own again, under the form in which its identifier travels. -/
def sampleReadings : List CartRequest :=
  [.get sampleId "FR", .setCountry sampleId "", .get sampleId "XX",
    .setCountry (Gid.encode sampleId) .null]

/-- The codes of these readings. -/
def sampleCodes : List Value := ["FR", "", "XX", .null]

/-- Each of the sample's readings names the cart, be it by the raw or the encoded identifier. -/
theorem reads_sampleReadings :
    List.Forall₂ (CartRequest.Reads sampleId) sampleReadings sampleCodes := by
  have raw : Names sampleId sampleId := ⟨rfl, by decide⟩
  have encoded : Names (Gid.encode sampleId) sampleId := by
    refine ⟨?_, by decide⟩
    rw [Gid.decodeValue_text, Gid.decode_encode]
    rfl
  exact .cons (.get raw _) (.cons (.setCountry raw _) (.cons (.get raw _)
    (.cons (.setCountry encoded _) .nil)))

/-- The theorem at these four readings. -/
theorem Reachable.reads_as_one_sample : ∃ c answers s', sample.HasCart sampleId c ∧
    Act.on (sampleReadings.mapM CartRequest.run) sample = (.ok answers, s') ∧
    ∃ c', answers.getLast? = some (some (.made c')) ∧
      Act.on (getCart sampleId (lastNamed sampleCodes .null)) sample =
        (.ok (some (.made c')), s') ∧
      s' = sample.withCart sampleId c' ∧ c'.updatedAt = c.updatedAt ∧
      Act.on (getCart sampleId (lastNamed sampleCodes .null)) s' =
        (.ok (some (.made c')), s') ∧
      (∀ away back b s₁, Act.on (getCart sampleId away) s' = (.ok b, s₁) → back.truthy = true →
        back.asKey = .ok c'.country →
        Act.on (getCart sampleId back) s₁ = (.ok (some (.made c')), s')) ∧
      (c.PricedIn sample → c'.country = c.country → c' = c ∧ s' = sample) := by
  obtain ⟨c, hc⟩ := exists_hasCart_sample
  obtain ⟨answers, hr⟩ := Act.eq_ok_of_toBool
    (p := Act.on (sampleReadings.mapM CartRequest.run) sample) (by decide +kernel)
  exact ⟨c, answers, _, hc, hr, Reachable.reads_as_one reachable_sample hc reads_sampleReadings
    (by simp [sampleReadings]) hr ⟨rfl, by decide⟩⟩

end Shop
end Storefront
