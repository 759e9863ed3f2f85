import Storefront.Proofs.Commit

/-! # What an operation on carts did that answered

An operation on carts that answers either found a reason to answer with none, or it did all that it
is for.  There is one lemma for each kind of operation, and it says what was done in either case, so
that later proofs need not open the operations again.

* `repriceCart_eq_ok`, `setCountry_eq_ok` : repricing a cart, where it is or in another country
* `editCart_eq_ok` : changing a cart
* `commit_eq_ok`, `setAttribute_eq_ok` : changes that are not rejected
* `createCart_eq_ok` : making a cart -/

namespace Storefront

/-- The cart as it is made: with nothing in it, and without costs. -/
def Cart.opened (country : Key) (id now base : String) : Cart where
  id := id
  createdAt := now
  updatedAt := now
  checkoutUrl := "https://" ++ base ++ "/cart/c/" ++ Gid.dropStart Gid.cartPrefix id
  country := country
  attributes := []
  discount := none
  note := ""
  lines := []
  total := Money.zero (Market.ofKey country).currency
  subtotal := Money.zero (Market.ofKey country).currency
  tax := none

namespace Shop

variable {s s' : Shop} {id country : Value} {a : Option KeptCart}

/-- What it means that repricing returned. -/
theorem repriceCart_eq_ok {raw : String} (h : Act.on (repriceCart raw country) s = (.ok a, s')) :
    -- The identifier names no cart.
    a = none ∧ s' = s ∨
    -- The cart that it names is priced and kept.
    ∃ k kc key kc' s₁, Names (.text raw) k ∧ s.cart? k = some kc ∧
      kc.countryFor country = .ok key ∧ Act.on (priced key kc) s = (.ok kc', s₁) ∧
      a = some kc' ∧ s' = s₁.withEntity Gid.cartPrefix (.text k) kc'.toEntity := by
  obtain ⟨found, s₀, hf, h⟩ := Act.on_bind_eq_ok.1 h
  obtain rfl : s = s₀ := (findCart_reads _).of_on hf
  cases found with
  | none =>
    obtain ⟨ha, rfl⟩ := Prod.mk.inj h
    exact .inl ⟨(Except.ok.inj ha).symm, rfl⟩
  | some found =>
    obtain ⟨k, kc⟩ := found
    obtain ⟨hdecoded, hne, hkc, -⟩ := findCart_eq_some.1 hf
    simp only [Act.on_bind_eq_ok, Act.on_lift, on_keepCart, Act.on_pure, Prod.mk.injEq,
      Except.ok.injEq] at h
    obtain ⟨key, _, ⟨hkey, rfl⟩, kc', s₁, hp, _, _, ⟨-, rfl⟩, rfl, rfl⟩ := h
    exact .inr ⟨k, kc, key, kc', s₁, ⟨hdecoded, hne⟩, hkc, hkey, hp, rfl, rfl⟩

/-- What it means that moving a cart returned. -/
theorem setCountry_eq_ok (h : Act.on (setCountry id country) s = (.ok a, s')) :
    -- There is no cart to move.
    a = none ∧ s' = s ∨
    -- It is repriced under its raw identifier.
    ∃ raw, Gid.decodeValue id = .ok (.text raw) ∧
      Act.on (repriceCart raw country) s = (.ok a, s') := by
  obtain ⟨known, s₀, hk, h⟩ := Act.on_bind_eq_ok.1 h
  obtain rfl : s = s₀ := (hasCart_reads _).of_on hk
  split at h
  · obtain ⟨ha, rfl⟩ := Prod.mk.inj h
    exact .inl ⟨(Except.ok.inj ha).symm, rfl⟩
  · simp only [Act.on_bind_eq_ok, Act.on_lift, Prod.mk.injEq] at h
    obtain ⟨v, _, ⟨hv, rfl⟩, raw, _, ⟨hraw, rfl⟩, h⟩ := h
    exact .inr ⟨raw, asText_decodeValue hv hraw, h⟩

/-- What it means that an edit returned. -/
theorem editCart_eq_ok {listed : Except Fault (List Value)}
    {change : List Value → KeptCart → Act Shop (Option KeptCart)}
    (h : Act.on (editCart id country listed change) s = (.ok a, s')) :
    -- The identifier names no cart.
    a = none ∧ s' = s ∨
    -- The change rejects what is listed.
    (∃ k kc l, Names id k ∧ s.cart? k = some kc ∧ listed = .ok l ∧
      Act.on (change l kc) s = (.ok none, s') ∧ a = none) ∨
    -- The change gives a cart, which is committed.
    ∃ k kc l kc' s₁, Names id k ∧ s.cart? k = some kc ∧ listed = .ok l ∧
      Act.on (change l kc) s = (.ok (some kc'), s₁) ∧
      Act.on (commit k kc' country) s₁ = (.ok a, s') := by
  obtain ⟨found, s₀, hf, h⟩ := Act.on_bind_eq_ok.1 h
  obtain rfl : s = s₀ := (findCart_reads _).of_on hf
  obtain ⟨l, s₁, hl, h⟩ := Act.on_bind_eq_ok.1 h
  obtain ⟨hlisted, rfl⟩ := Prod.mk.inj hl
  cases found with
  | none =>
    obtain ⟨ha, rfl⟩ := Prod.mk.inj h
    exact .inl ⟨(Except.ok.inj ha).symm, rfl⟩
  | some found =>
    obtain ⟨k, kc⟩ := found
    obtain ⟨hdecoded, hne, hkc, -⟩ := findCart_eq_some.1 hf
    obtain ⟨changed, s₂, hc, h⟩ := Act.on_bind_eq_ok.1 h
    cases changed with
    | none =>
      obtain ⟨ha, rfl⟩ := Prod.mk.inj h
      exact .inr (.inl ⟨k, kc, l, ⟨hdecoded, hne⟩, hkc, hlisted, hc, (Except.ok.inj ha).symm⟩)
    | some kc' => exact .inr (.inr ⟨k, kc, l, kc', s₂, ⟨hdecoded, hne⟩, hkc, hlisted, hc, h⟩)

/-- A commit that answers does so with the cart that it keeps. -/
theorem commit_eq_ok {k : String} {kc : KeptCart} (hid : Names (.text k) k)
    (h : Act.on (commit k kc country) s = (.ok a, s')) :
    ∃ kc', a = some kc' ∧ s'.entity? Gid.cartPrefix (.text k) = some kc'.toEntity := by
  cases hnow : kc.changedAt s.supply.timestamp with
  | error fault => simp [commit, Act.on_bind, hnow] at h
  | ok dated =>
    rw [on_commit hnow] at h
    rcases repriceCart_eq_ok h with ⟨rfl, -⟩ | ⟨k', _, _, kc', _, hid', _, _, _, rfl, rfl⟩
    · exact absurd h (repriceCart_ne_none hid (cart?_of_changedAt hnow s) s')
    · obtain rfl := hid'.eq hid
      exact ⟨kc', rfl, entity?_withEntity_self ..⟩

/-- Setting an attribute with a key and a value in a cart that is found is not rejected. -/
theorem setAttribute_eq_ok {k : String} {kc : KeptCart} {key value : Value} (hid : Names id k)
    (hkc : s.cart? k = some kc) (hkey : key.truthy = true) (hvalue : value.truthy = true)
    (h : Act.on (setAttribute id country key value) s = (.ok a, s')) :
    ∃ kc', a = some kc' ∧ s'.entity? Gid.cartPrefix (.text k) = some kc'.toEntity := by
  have both : ¬ (!key.truthy || !value.truthy) = true := by simp [hkey, hvalue]
  rw [setAttribute, on_editCart hid hkc, withAttribute, if_neg both] at h
  cases hset : kc.withAttribute ⟨key, value⟩ with
  | error fault => rw [hset] at h; cases h
  | ok changed => rw [hset] at h; exact commit_eq_ok hid.raw h

/-- What it means that making a cart returned. -/
theorem createCart_eq_ok {given : Value} {a : Option Cart}
    (h : Act.on (createCart country given) s = (.ok a, s')) :
    -- There is no market for the country.
    a = none ∧ s' = s ∨
    -- The cart is opened under an identifier that is given or drawn.
    ∃ key k s₁, country.asKey = .ok key ∧ Market.hasKey key = true ∧ Gid.decode k = k ∧
      (Names given k ∧ s₁ = s ∨
        Act.on (freshId Gid.cartPrefix) s = (.ok k, s₁)) ∧
      a = some (.opened key k s₁.supply.timestamp s₁.context.shopBaseUrl.display) ∧
      s' = s₁.withCart k (.opened key k s₁.supply.timestamp s₁.context.shopBaseUrl.display) := by
  unfold createCart at h
  obtain ⟨key, s₀, hread, h⟩ := Act.on_bind_eq_ok.1 h
  obtain ⟨hkey, rfl⟩ := Prod.mk.inj hread
  split at h
  · obtain ⟨ha, rfl⟩ := Prod.mk.inj h
    exact .inl ⟨(Except.ok.inj ha).symm, rfl⟩
  · rename_i market
    obtain ⟨decoded, s₁, hd, h⟩ := Act.on_bind_eq_ok.1 h
    obtain ⟨hdecoded, rfl⟩ := Prod.mk.inj hd
    extract_lets currency make at h
    have hmake : ∀ k s₁, Act.on (make k) s₁ = (.ok a, s') →
        a = some (.opened key k s₁.supply.timestamp s₁.context.shopBaseUrl.display) ∧
        s' = s₁.withCart k (.opened key k s₁.supply.timestamp s₁.context.shopBaseUrl.display) := by
      intro k s₁ h
      simp only [make, Act.on_bind_eq_ok, Act.on_discard_eq_ok, Act.on_lift, on_timestamp,
        Act.on_get, on_keepCart, Act.on_pure, Prod.mk.injEq, Except.ok.injEq] at h
      obtain ⟨_, _, ⟨_, -, rfl⟩, _, _, ⟨rfl, rfl⟩, _, _, ⟨rfl, rfl⟩, _, _, ⟨-, rfl⟩, rfl, rfl⟩ := h
      exact ⟨rfl, rfl⟩
    have known : Market.hasKey key = true := by simpa using market
    split at h <;> rename_i truthy <;> obtain ⟨k, s₂, hk, h⟩ := Act.on_bind_eq_ok.1 h
    · obtain ⟨ht, rfl⟩ := Prod.mk.inj hk
      have named := asText_decodeValue hdecoded ht
      have nonempty : k ≠ "" := by
        obtain rfl := Except.ok.inj (hdecoded.symm.trans named)
        simpa using truthy
      exact .inr ⟨key, k, s, hkey, known, Gid.decode_of_decodeValue named,
        .inl ⟨⟨named, nonempty⟩, rfl⟩, hmake k s h⟩
    · exact .inr ⟨key, k, s₂, hkey, known, decode_of_freshId hk, .inr hk, hmake k s₂ h⟩

end Shop
end Storefront
