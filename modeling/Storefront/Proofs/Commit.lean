import Storefront.Proofs.CartSteps

/-! # The two steps of a change

A change of a cart first keeps the changed cart and then reprices it.  The equations here say what
each part comes to once the cart is found: an edit is its change and a commit, a commit is a
repricing of the cart that was just kept, and a repricing prices the cart and keeps it again.

A cart that was just kept is found again, so a commit always answers with a cart if it answers at
all: `commit_ne_none`. -/

namespace Storefront

/-- The cart with the time of a change. -/
def Cart.dated (c : Cart) (now : String) : Cart := { c with updatedAt := now }

/-- The date of a cart is apart from its attributes. -/
@[simp] theorem Cart.attributes_dated (c : Cart) (now : String) :
    (c.dated now).attributes = c.attributes := rfl

namespace Shop

/-- The identifier names a cart that may be found under `k`. -/
structure Names (id : Value) (k : String) : Prop where
  decoded : Gid.decodeValue id = .ok (.text k)
  ne_empty : k ≠ ""

/-- The raw identifier names the cart as well. -/
theorem Names.raw {id : Value} {k : String} (h : Names id k) : Names (.text k) k where
  decoded := by rw [Gid.decodeValue_text, Gid.decode_of_decodeValue h.decoded]
  ne_empty := h.ne_empty

/-- An identifier names one cart at most. -/
theorem Names.eq {id : Value} {k k' : String} (h : Names id k) (h' : Names id k') : k = k' :=
  Value.text.inj (Except.ok.inj (h.decoded.symm.trans h'.decoded))

variable {id country : Value} {k : String} {kc : KeptCart} {s : Shop}

/-- The cart that is named and kept is found. -/
theorem on_findCart (hid : Names id k) (hkc : s.cart? k = some kc) :
    Act.on (findCart id) s = (.ok (some (k, kc)), s) :=
  findCart_eq_some.2 ⟨hid.decoded, hid.ne_empty, hkc, rfl⟩

/-- Repricing prices the cart that is found, and keeps it. -/
theorem on_repriceCart {raw : String} (hid : Names (.text raw) k) (hkc : s.cart? k = some kc) :
    Act.on (repriceCart raw country) s =
      match kc.countryFor country with
      | .error e => (.error e, s)
      | .ok key =>
        match Act.on (priced key kc) s with
        | (.error e, s₁) => (.error e, s₁)
        | (.ok kc', s₁) =>
          (.ok (some kc'), s₁.withEntity Gid.cartPrefix (.text k) kc'.toEntity) := by
  rw [repriceCart, Act.on_bind_of_ok (on_findCart hid hkc)]
  dsimp only
  -- The market comes first, then the quotes; the cart is kept only after both.
  rw [Act.on_bind, Act.on_lift]
  cases kc.countryFor country with
  | error e => rfl
  | ok key =>
    dsimp only
    rw [Act.on_bind]
    rcases Act.on (priced key kc) s with ⟨e | kc', s₁⟩
    · rfl
    · simp only [Act.on_bind, on_keepCart, Act.on_pure]

/-- Committing a cart at the time of the shop reprices it once it is kept. -/
theorem on_commit {kc' : KeptCart} (h : kc.changedAt s.supply.timestamp = .ok kc') :
    Act.on (commit k kc country) s =
      Act.on (repriceCart k country) (s.withEntity Gid.cartPrefix (.text k) kc'.toEntity) := by
  simp only [commit, Act.on_bind, on_timestamp, Act.on_lift, h, on_keepCart]

/-- To commit a cart keeps it with the date of its change and then prices it. -/
theorem on_commit_made {c : Cart} :
    Act.on (commit k (.made c) country) s =
      Act.on (repriceCart k country) (s.withCart k (c.dated s.supply.timestamp)) := by
  have now : (KeptCart.made c).changedAt s.supply.timestamp =
      .ok (.made (c.dated s.supply.timestamp)) := rfl
  exact on_commit now

/-- A cart with the time of its change is found again where it is kept. -/
theorem cart?_of_changedAt {now : String} {kc' : KeptCart} (h : kc.changedAt now = .ok kc')
    (s : Shop) : (s.withEntity Gid.cartPrefix (.text k) kc'.toEntity).cart? k = some kc' := by
  rw [cart?, entity?_withEntity_self, Option.bind_some]
  cases kc with
  | made c =>
    obtain rfl := Except.ok.inj h
    rfl
  | given v =>
    obtain ⟨v', hv', rfl⟩ := Act.except_map_eq_ok.1 h
    -- A record with a time in it is not empty, so it does not count as none.
    have truthy : v'.truthy = true := by
      cases v with
      | record fields =>
        obtain rfl := Except.ok.inj hv'
        cases fields with
        | nil => rfl
        | cons p fields =>
          rw [Assoc.put, Value.truthy]
          split <;> rfl
      | _ => cases hv'
    simp [KeptCart.toEntity, KeptCart.ofEntity?, Entity.toValue, truthy]

/-- Repricing a cart that is found answers with a cart. -/
theorem repriceCart_ne_none (hid : Names (.text k) k) (hkc : s.cart? k = some kc) (s' : Shop) :
    Act.on (repriceCart k country) s ≠ (.ok none, s') := by
  rw [on_repriceCart hid hkc]
  split
  · simp
  · split <;> simp

/-- A commit answers with a cart if it answers at all. -/
theorem commit_ne_none (hid : Names (.text k) k) (s' : Shop) :
    Act.on (commit k kc country) s ≠ (.ok none, s') := by
  cases hnow : kc.changedAt s.supply.timestamp with
  | error e => simp [commit, Act.on_bind, hnow]
  | ok kc' =>
    rw [on_commit hnow]
    exact repriceCart_ne_none hid (cart?_of_changedAt hnow s) s'

/-- An edit of a cart that is found is what its change gives, committed. -/
theorem on_editCart (hid : Names id k) (hkc : s.cart? k = some kc) {l : List Value}
    (change : List Value → KeptCart → Act Shop (Option KeptCart)) :
    Act.on (editCart id country (.ok l) change) s =
      match Act.on (change l kc) s with
      | (.error e, s₁) => (.error e, s₁)
      | (.ok none, s₁) => (.ok none, s₁)
      | (.ok (some kc'), s₁) => Act.on (commit k kc' country) s₁ := by
  rw [editCart, Act.on_bind_of_ok (on_findCart hid hkc), Act.on_bind, Act.on_lift]
  dsimp only
  rw [Act.on_bind]
  rcases Act.on (change l kc) s with ⟨e | _ | kc', s₁⟩ <;> rfl

end Shop
end Storefront
