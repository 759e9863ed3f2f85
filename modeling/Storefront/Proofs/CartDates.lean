import Storefront.Proofs.AttributeFrame

/-! # The dates of a cart

A cart is made with the time as the date of its making and of its last change.  Whatever is
requested after that, it keeps its identifier, the date of its making and the address of its
checkout.  The date of its last change is the time at which it was last changed: reading the cart,
moving it to another market and requests that are rejected leave it as it is.

The clock may be read more than once for a request, but stands still meanwhile.  It may go on
between requests, and must not go back.

* `SameClock` : the clock stands still, as it does while a cart is edited and priced
* `Cart.Becomes`, `KeepsDates` : what a cart keeps
* `ShopRequest.run_touches`, `ShopRequest.run_keepsDates` : a request that changes a cart, and one
  that does not
* `CartRun.updatedAt_eq_lastChange` : any number of requests -/

namespace Storefront

open Act (Within)

namespace Shop

variable {s s₁ s' : Shop}

/-! ### The clock -/

/-- The clock stands still. -/
structure SameClock (s s' : Shop) : Prop where
  now : s'.supply.now = s.supply.now

/-- `SameClock` can be used with the rules of `Within`. -/
instance : Std.Refl SameClock := ⟨fun _ => ⟨rfl⟩⟩

/-- `SameClock` can be used with the rules of `Within`. -/
instance : IsTrans Shop SameClock := ⟨fun _ _ _ h h' => ⟨h'.now.trans h.now⟩⟩

/-- While the clock stands still, it shows the same time. -/
theorem SameClock.timestamp (h : SameClock s s') : s'.supply.timestamp = s.supply.timestamp := by
  rw [Supply.timestamp, h.now, Supply.timestamp]

/-- Drawing from the supply leaves the clock alone if the draw does. -/
theorem supplied_sameClock {α : Type} {draw : Supply → α × Supply}
    (h : ∀ p, (draw p).2.now = p.now) : Within SameClock (supplied draw) :=
  fun s => ⟨h s.supply⟩

/-- Drawing a token leaves the clock alone, by induction over the attempts. -/
theorem freshToken_sameClock (kind : String) (n : Nat) : Within SameClock (freshToken kind n) := by
  induction n with
  | zero => exact .throw _
  | succ n ih =>
    refine .bind (supplied_sameClock fun p => ?_) fun token => .bind .get fun s => ?_
    · unfold Supply.token
      split <;> rfl
    · split
      · exact ih
      · exact .bind (fun _ => ⟨rfl⟩) fun _ => .pure _

/-- Drawing an identifier leaves the clock alone. -/
theorem freshId_sameClock (start : String) : Within SameClock (freshId start) := by
  unfold freshId
  extract_lets named
  have hnamed : ∀ u, Within SameClock (named u) := fun _ =>
    .bind (freshToken_sameClock _ _) fun _ => .pure _
  split
  · exact .bind (.throw _) hnamed
  · exact hnamed ()

/-- Making up a variant leaves the clock alone. -/
theorem makeVariant_sameClock (product variant : Key) :
    Within SameClock (makeVariant product variant) := by
  -- Whatever is drawn for a variant comes from the supply without looking at the clock.
  have drawn (lo hi : Int) : Within SameClock (supplied (Supply.draw lo hi)) :=
    supplied_sameClock fun _ => rfl
  have name : Within SameClock makeName :=
    .bind (.mapM (fun _ => supplied_sameClock fun _ => rfl) _) fun _ => .pure _
  have picture : Within SameClock makePictureAddress :=
    .bind (drawn _ _) fun _ => .bind (drawn _ _) fun _ => .bind (drawn _ _) fun _ =>
      .bind (drawn _ _) fun _ => .bind (supplied_sameClock fun _ => rfl) fun _ => .bind .get
      fun _ => .pure _
  unfold makeVariant
  extract_lets made
  have hmade : ∀ id, Within SameClock (made id) := fun _ =>
    .bind name fun _ => .bind (drawn _ _) fun _ => .bind (freshId_sameClock _) fun _ =>
      .bind picture fun _ => .pure _
  split
  · exact .bind (.pure _) hmade
  · exact .bind (.map _ (freshId_sameClock _)) hmade

/-- Looking up a variant leaves the clock alone. -/
theorem variant_sameClock (id : Key) (make : Bool) : Within SameClock (variant id make) := by
  refine .bind (fun _ => ⟨rfl⟩) fun known => ?_
  have found : Within SameClock (find? Gid.variantPrefix id) := fun _ => ⟨rfl⟩
  split
  · exact .bind (freshId_sameClock _) fun _ => .bind (makeVariant_sameClock _ _) fun _ =>
      .bind (fun _ => ⟨rfl⟩) fun _ => found
  · exact found

/-- Working out amounts leaves the clock alone. -/
theorem amountsOf_sameClock (m : Market) (id : Key) (quantity : Except Fault Value) :
    Within SameClock (amountsOf m id quantity) := by
  have price : Within SameClock (priceOf id) := by
    refine .bind (variant_sameClock _ _) fun found => ?_
    split
    · exact .pure _
    · exact .lift _
    · exact .throw _
  exact .bind price fun _ => .bind (.lift _) fun _ => .bind (.lift _) fun _ => .bind (.lift _)
    fun _ => .pure _

/-- A cart of the shop's own is priced at one time. -/
theorem priced_sameClock (country : Key) (c : Cart) :
    Within SameClock (priced country (.made c)) :=
  .bind (.foldlM (fun _ _ => .bind (amountsOf_sameClock _ _ _) fun _ => .pure _) _ _) fun _ =>
    .pure _

/-- Making a line leaves the clock alone. -/
theorem newLine_sameClock (id : String) (quantity : Int) (attributes : Value) (currency : String) :
    Within SameClock (newLine id quantity attributes currency) := by
  have record : Within SameClock (variantRecord id) := by
    refine .bind (variant_sameClock _ _) fun found => ?_
    split
    · exact .pure _
    · exact .throw _
  exact .bind record fun _ => .bind (.lift _) fun _ => .bind (freshId_sameClock _) fun _ =>
    .bind (.map _ (.lift _)) fun _ => .bind (.lift _) fun _ => .bind (.map _ (.lift _)) fun _ =>
    .bind (.lift _) fun _ => .bind (.lift _) fun _ => .bind (.lift _) fun _ => .pure _

/-- Adding what a line asks for leaves the clock alone. -/
theorem addRequest_sameClock (currency : String) (kc : KeptCart) (r : LineRequest) :
    Within SameClock (addRequest currency kc r) := by
  refine .bind (.lift _) fun _ => .bind (.lift _) fun variant => .bind (.lift _) fun extended => ?_
  split
  · exact .pure _
  · cases kc with
    | made c => exact .bind (newLine_sameClock _ _ _ _) fun _ => .pure _
    | given v =>
      exact .bind (.lift _) fun _ => .bind (.map _ (.lift _)) fun _ =>
        .bind (newLine_sameClock _ _ _ _) fun _ => .bind (.lift _) fun _ => .pure _

end Shop

open Shop

/-- An edit is made of a cart at one time. -/
theorem CartEdit.draft_sameClock (e : CartEdit) (country : Value) (kc : KeptCart) :
    Within SameClock (e.draft country kc) := by
  refine .bind (.lift _) fun listed => ?_
  -- An addition draws an identifier for each new line; the other changes draw nothing.
  cases e with
  | addLines lines =>
    refine .bind (.lift _) fun requests => ?_
    split
    · exact .pure _
    · exact .bind (.lift _) fun _ => .bind (.foldlM (addRequest_sameClock _) _ _) fun _ => .pure _
  | updateLines lines => exact .lift _
  | removeLines lineIds => exact .lift _
  | setNote note => exact .map _ (.lift _)
  | setAttribute key value => exact .lift _
  | setDiscount codes => exact .lift _

/-! ### What a cart keeps -/

/-- A cart may become another one, with a date of its last change, that has its identifier, the date
of its making and the address of its checkout. -/
structure Cart.Becomes (c : Cart) (updatedAt : String) (c' : Cart) : Prop where
  id : c'.id = c.id
  createdAt : c'.createdAt = c.createdAt
  checkoutUrl : c'.checkoutUrl = c.checkoutUrl
  updatedAt : c'.updatedAt = updatedAt

/-- Of two changes, the date of the last one counts. -/
theorem Cart.Becomes.trans {c c₁ c' : Cart} {time time' : String} (h : c.Becomes time c₁)
    (h' : c₁.Becomes time' c') : c.Becomes time' c' :=
  ⟨h'.id.trans h.id, h'.createdAt.trans h.createdAt, h'.checkoutUrl.trans h.checkoutUrl,
    h'.updatedAt⟩

/-- A cart that is priced keeps all its dates. -/
theorem Cart.Repriced.becomes {c c' : Cart} (h : c.Repriced c') : c.Becomes c.updatedAt c' := by
  obtain ⟨⟩ := h
  exact ⟨rfl, rfl, rfl, rfl⟩

namespace Shop

variable {s s₁ s' : Shop} {id country : Value} {k : String} {c : Cart}

/-- An edit that is put in effect at a time dates the cart with it. -/
theorem Edited.becomes {c' : Cart} (h : Edited s c s' c') (now : String) :
    c.Becomes now (c'.dated now) := by
  cases h with
  | relined h =>
    obtain ⟨ls, -, rfl⟩ := h
    exact ⟨rfl, rfl, rfl, rfl⟩
  | noted | attributed | discounted => exact ⟨rfl, rfl, rfl, rfl⟩

/-- The cart under an identifier keeps the date of its last change, and all that it keeps anyway. -/
structure KeepsDates (k : String) (s s' : Shop) : Prop where
  becomes : ∀ c, s.HasCart k c → ∃ c', s'.HasCart k c' ∧ c.Becomes c.updatedAt c'

/-- `KeepsDates` can be used with the rules of `Within`. -/
instance (k : String) : Std.Refl (KeepsDates k) :=
  ⟨fun _ => ⟨fun c hc => ⟨c, hc, rfl, rfl, rfl, rfl⟩⟩⟩

/-- `KeepsDates` can be used with the rules of `Within`. -/
instance (k : String) : IsTrans Shop (KeepsDates k) := by
  refine ⟨fun s s₁ s' h h' => ⟨fun c hc => ?_⟩⟩
  obtain ⟨c₁, hc₁, first⟩ := h.becomes c hc
  obtain ⟨c', hc', second⟩ := h'.becomes c₁ hc₁
  exact ⟨c', hc', first.updatedAt ▸ first.trans second⟩

/-- A cart that stays as it is keeps its dates. -/
theorem Stays.keepsDates (h : Stays k s s') : KeepsDates k s s' :=
  ⟨fun c hc => ⟨c, h.hasCart hc, rfl, rfl, rfl, rfl⟩⟩

/-- A shop that keeps its carts keeps their dates. -/
theorem Keeps.keepsDates (h : Keeps s s') : KeepsDates k s s' :=
  ⟨fun c hc => ⟨c, (h.hasCart_iff k c).2 hc, rfl, rfl, rfl, rfl⟩⟩

/-! ### In the engine -/

/-- Pricing a cart keeps the dates of all carts. -/
theorem keepsDates_of_repriceCart {raw : String} {a : Option KeptCart}
    (h : Act.on (repriceCart raw country) s = (.ok a, s')) : KeepsDates k s s' := by
  rcases repriceCart_eq_ok h with ⟨-, rfl⟩ | ⟨k', kc, key, kc', s₁, -, hkc, -, hp, -, rfl⟩
  · exact Std.Refl.refl _
  have grown := ((priced_grows key kc).of_on hp).keeps
  have along := priced_along hp
  refine ⟨fun c hc => ?_⟩
  -- It is the cart that was priced, or another one.
  by_cases same : k' = k
  · subst same
    obtain rfl : kc = .made c := Option.some.inj (hkc.symm.trans (cart?_eq_made.2 hc))
    cases kc' with
    | given v => exact along.elim
    | made c' => exact ⟨c', hasCart_withCart_self _ _ _, Cart.Repriced.becomes along⟩
  · refine ⟨c, ?_, rfl, rfl, rfl, rfl⟩
    rw [HasCart, entity?_withEntity_of_ne _ (.inr (by simpa using Ne.symm same))]
    exact (grown.hasCart_iff k c).2 hc

/-- Moving a cart to a country, or reading it, keeps the dates of all carts. -/
theorem keepsDates_of_setCountry {a : Option KeptCart}
    (h : Act.on (setCountry id country) s = (.ok a, s')) : KeepsDates k s s' := by
  rcases setCountry_eq_ok h with ⟨-, rfl⟩ | ⟨raw, -, h⟩
  · exact Std.Refl.refl _
  · exact keepsDates_of_repriceCart h

/-- Nothing is kept for a cart that is not made under the identifier. -/
theorem keepsDates_of_createCart {given : Value} {a : Option Cart}
    (h : Act.on (createCart country given) s = (.ok a, s')) (other : ∀ c, a = some c → c.id ≠ k) :
    KeepsDates k s s' := by
  obtain ⟨-, rfl⟩ | ⟨key, k', s₁, -, -, -, hdrawn, rfl, rfl⟩ := createCart_eq_ok h
  · exact Std.Refl.refl _
  have drawn : Keeps s s₁ := by
    obtain ⟨-, rfl⟩ | fresh := hdrawn
    · exact .refl _
    · exact ((freshId_draws _).of_on fresh).keeps
  have hne : k ≠ k' := (other _ rfl).symm
  exact ⟨fun c hc => ⟨c, hasCart_withCart.2 (.inr ⟨hne, (drawn.hasCart_iff k c).2 hc⟩),
    rfl, rfl, rfl, rfl⟩⟩

/-- An edit that is rejected, or that names another cart, keeps the dates. -/
theorem keepsDates_of_run {e : CartEdit} {a : Option KeptCart}
    (h : Act.on (e.run id country) s = (.ok a, s')) (quiet : Names id k → a = none) :
    KeepsDates k s s' := by
  -- The edit names the cart, and was rejected; or it names another cart.
  by_cases hid : Names id k
  · obtain rfl := quiet hid
    refine ⟨fun c hc => ?_⟩
    have edit := CartEdit.draft_isEdit country e (.made c)
    rw [on_run hid hc] at h
    rcases hd : Act.on (e.draft country (.made c)) s with ⟨fault | _ | kc, s₁⟩ <;> rw [hd] at h
    · cases h
    · obtain rfl := (Prod.mk.inj h).2
      exact (edit.grows.of_on hd).keeps.keepsDates.becomes c hc
    · exact absurd h (commit_ne_none hid.raw s')
  · exact ((run_stays country e hid).of_on h).keepsDates

/-- An edit that is answered with the cart dates it. -/
theorem becomes_of_run {e : CartEdit} {kc : KeptCart} (hid : Names id k) (hc : s.HasCart k c)
    (h : Act.on (e.run id country) s = (.ok (some kc), s')) :
    ∃ c', s'.HasCart k c' ∧ c.Becomes s.supply.timestamp c' := by
  have edit := CartEdit.draft_isEdit country e (.made c)
  rcases hd : Act.on (e.draft country (.made c)) s with ⟨fault | _ | kc', s₁⟩
  · rw [on_run hid hc, hd] at h
    cases h
  · rw [on_run hid hc, hd] at h
    cases h
  · have along := edit.along hd
    cases kc' with
    | given v => exact along.elim
    | made d =>
      rw [on_run_of_draft hid hc hd, ((e.draft_sameClock country _).of_on hd).timestamp] at h
      -- Pricing keeps the date that the edit was given.
      obtain ⟨c', hc', priced⟩ := (keepsDates_of_repriceCart h).becomes _
        (hasCart_withCart_self _ _ _)
      exact ⟨c', hc', (Edited.becomes along _).trans priced⟩

/-- A cart of the shop's own is read at one time. -/
theorem sameClock_of_setCountry {a : Option KeptCart} (hid : Names id k) (hc : s.HasCart k c)
    (h : Act.on (setCountry id country) s = (.ok a, s')) : SameClock s s' := by
  rcases setCountry_eq_ok h with ⟨-, rfl⟩ | ⟨raw, hraw, h⟩
  · exact Std.Refl.refl _
  obtain rfl := Value.text.inj (Except.ok.inj (hraw.symm.trans hid.decoded))
  rcases repriceCart_eq_ok h with ⟨-, rfl⟩ | ⟨k', kc, key, kc', s₁, hid', hkc, -, hp, -, rfl⟩
  · exact Std.Refl.refl _
  obtain rfl := hid'.eq hid.raw
  obtain rfl : kc = .made c := Option.some.inj (hkc.symm.trans (cart?_eq_made.2 hc))
  exact ⟨((priced_sameClock key c).of_on hp).now⟩

/-- A cart that is emptied is first read, and is dated when its lines are removed. -/
theorem becomes_of_emptyCart (hid : Names id k) (hc : s.HasCart k c)
    (h : Act.on (emptyCart id country) s = (.ok true, s')) :
    ∃ c', s'.HasCart k c' ∧ c.Becomes s.supply.timestamp c' := by
  obtain ⟨found, s₁, hread, h⟩ := Act.on_bind_eq_ok.1 h
  obtain ⟨c₁, hc₁, read⟩ := (keepsDates_of_setCountry hread).becomes c hc
  cases found with
  | none => cases h
  | some kc =>
    obtain ⟨ids, -, h⟩ := Act.on_lift_bind_eq_ok.1 h
    split at h
    · cases h
    · obtain ⟨a, s₂, hremoved, h⟩ := Act.on_bind_eq_ok.1 h
      obtain ⟨hanswer, rfl⟩ := Prod.mk.inj h
      obtain ⟨kc', rfl⟩ := Option.isSome_iff_exists.1 (Except.ok.inj hanswer)
      obtain ⟨c', hc', removed⟩ := becomes_of_run (e := .removeLines (.list ids)) hid hc₁ hremoved
      -- Between reading and removing, the clock stands still.
      rw [(sameClock_of_setCountry hid hc hread).timestamp] at removed
      exact ⟨c', hc', read.trans removed⟩

/-- A cart that is not emptied keeps its dates. -/
theorem keepsDates_of_emptyCart {emptied : Bool}
    (h : Act.on (emptyCart id country) s = (.ok emptied, s'))
    (quiet : Names id k → emptied = false) :
    KeepsDates k s s' := by
  obtain ⟨found, s₁, hread, h⟩ := Act.on_bind_eq_ok.1 h
  have read : KeepsDates k s s₁ := keepsDates_of_setCountry hread
  cases found with
  -- The cart was not found.
  | none =>
    obtain rfl := (Prod.mk.inj h).2
    exact read
  | some kc =>
    obtain ⟨ids, -, h⟩ := Act.on_lift_bind_eq_ok.1 h
    -- The cart has no lines.
    split at h
    · obtain rfl := (Prod.mk.inj h).2
      exact read
    · -- The lines were removed, or that was rejected.
      obtain ⟨a, s₂, hremoved, h⟩ := Act.on_bind_eq_ok.1 h
      obtain ⟨hanswer, rfl⟩ := Prod.mk.inj h
      have removed : KeepsDates k s₁ s₂ :=
        keepsDates_of_run (e := .removeLines (.list ids)) hremoved
        fun hid => by
          have := quiet hid
          cases a <;> simp_all
      exact IsTrans.trans _ _ _ read removed

end Shop

/-! ### Requests -/

namespace ShopRequest

variable {r : ShopRequest} {k : String} {s : Shop} {c : Cart}

/-- The request is one to an engine of the shop, and does not fail if it is for carts. -/
def Passes (s : Shop) : ShopRequest → Prop
  | dispatch _ _ _ => False
  | side _ => True
  | r => ∃ s', Act.on r.run s = (.ok (), s')

/-- The request changes the cart under an identifier: it is answered with the cart, or that the cart
was emptied. -/
def Touches (k : String) (s : Shop) : ShopRequest → Prop
  | cart (.edit id country e) =>
    Names id k ∧ ∃ kc s', Act.on (e.run id country) s = (.ok (some kc), s')
  | emptyCart id country =>
    Names id k ∧ ∃ s', Act.on (Shop.emptyCart id country) s = (.ok true, s')
  | _ => False

/-- What a request changes is dated with the time. -/
theorem run_touches (h : r.Touches k s) (hc : s.HasCart k c) :
    ∃ c', (Act.on r.run s).2.HasCart k c' ∧ c.Becomes s.supply.timestamp c' := by
  -- Only an answered edit and an emptying that emptied touch a cart.
  cases r with
  | cart r =>
    cases r with
    | edit id country e =>
      obtain ⟨hid, kc, s', h⟩ := h
      rw [run, Act.on_discard_snd, CartRequest.run, h]
      exact becomes_of_run hid hc h
    | _ => exact h.elim
  | emptyCart id country =>
    obtain ⟨hid, s', h⟩ := h
    rw [run, Act.on_discard_snd, h]
    exact becomes_of_emptyCart hid hc h
  | _ => exact h.elim

/-- A request that does not change a cart keeps its dates. -/
theorem run_keepsDates (h : r.Passes s) (hmake : ¬ r.Makes k s) (quiet : ¬ r.Touches k s) :
    KeepsDates k s (Act.on r.run s).2 := by
  cases r with
  | cart r =>
    obtain ⟨s', h⟩ := h
    obtain ⟨a, h⟩ := Act.on_discard_eq_ok.1 h
    rw [run, Act.on_discard_snd, h]
    cases r with
    | create country given =>
      rw [CartRequest.run, Act.on_map] at h
      rcases hr : Act.on (createCart country given) s with ⟨fault | a', s₁⟩ <;> rw [hr] at h
      · cases h
      · -- the cart that was made is another one
        obtain rfl : s₁ = s' := (Prod.mk.inj h).2
        exact keepsDates_of_createCart hr fun c ha same => hmake ⟨c, s₁, by rw [hr, ha], same⟩
    | get id country => exact keepsDates_of_setCountry h
    | setCountry id country => exact keepsDates_of_setCountry h
    | edit id country e =>
      refine keepsDates_of_run h fun hid => ?_
      -- the edit was turned down
      cases a with
      | none => rfl
      -- it was answered, which is to touch the cart
      | some kc => exact absurd ⟨hid, kc, s', h⟩ quiet
  | hasCart id =>
    rw [run, Act.on_discard_snd, (hasCart_reads id s).symm]
    exact Std.Refl.refl s
  | emptyCart id country =>
    obtain ⟨s', h⟩ := h
    obtain ⟨emptied, h⟩ := Act.on_discard_eq_ok.1 h
    rw [run, Act.on_discard_snd, h]
    refine keepsDates_of_emptyCart h fun hid => ?_
    cases emptied with
    | false => rfl
    | true => exact absurd ⟨hid, s', h⟩ quiet
  | side r => exact (SideSteps.keeps (r.run_sideSteps s)).keepsDates
  | dispatch hasFactory document vars => exact h.elim

end ShopRequest

/-! ### Runs -/

/-- The shops in which a cart was made, after any requests to their engines of which none for carts
failed and none made the cart anew, while the clock did not go back: with the reading of the clock
when the cart was made, those when it was changed, and the last. -/
inductive CartRun (c : Cart) (born : Int) : List Int → Int → Shop → Prop
  | made {country given : Value} {s s' : Shop} (hborn : s.supply.now = born)
      (h : Act.on (createCart country given) s = (.ok (some c), s')) : CartRun c born [] born s'
  | touched {changes : List Int} {clock : Int} {s : Shop} (h : CartRun c born changes clock s)
      {supply : Supply} (later : clock ≤ supply.now) {r : ShopRequest}
      (touches : r.Touches c.id { s with supply }) :
      CartRun c born (changes ++ [supply.now]) supply.now (Act.on r.run { s with supply }).2
  | passed {changes : List Int} {clock : Int} {s : Shop} (h : CartRun c born changes clock s)
      {supply : Supply} (later : clock ≤ supply.now) {r : ShopRequest}
      (passes : r.Passes { s with supply }) (hmake : ¬ r.Makes c.id { s with supply })
      (quiet : ¬ r.Touches c.id { s with supply }) :
      CartRun c born changes supply.now (Act.on r.run { s with supply }).2

namespace CartRun

variable {c : Cart} {born clock : Int} {changes : List Int} {s : Shop}

/-- The clock never goes back, so the last change is no earlier than the making. -/
theorem born_le (h : CartRun c born changes clock s) :
    born ≤ changes.getLast?.getD born ∧ changes.getLast?.getD born ≤ clock := by
  induction h with
  | made => exact ⟨Int.le_refl _, Int.le_refl _⟩
  | touched _ later _ ih =>
    simp only [List.getLast?_concat, Option.getD_some]
    omega
  | passed _ later _ _ _ ih => omega

/-- A cart is made with one date. -/
theorem dates_of_createCart {country given : Value} {s s' : Shop}
    (h : Act.on (createCart country given) s = (.ok (some c), s')) :
    s'.HasCart c.id c ∧ c.createdAt = s.supply.timestamp ∧ c.updatedAt = s.supply.timestamp := by
  obtain ⟨⟨⟩, -⟩ | ⟨key, k, s₁, -, -, -, hdrawn, hmade, rfl⟩ := createCart_eq_ok h
  have clock : SameClock s s₁ := by
    obtain ⟨-, rfl⟩ | fresh := hdrawn
    · exact Std.Refl.refl _
    · -- The identifier is drawn while the clock stands still.
      exact (freshId_sameClock _).of_on fresh
  obtain rfl := Option.some.inj hmade
  exact ⟨hasCart_withCart_self _ _ _, clock.timestamp, clock.timestamp⟩

/-- After any run, the cart is what it was made as, but for the date of its last change. -/
theorem becomes (h : CartRun c born changes clock s) :
    c.createdAt = Calendar.timestamp born ∧ ∃ c', s.HasCart c.id c' ∧
      c.Becomes (Calendar.timestamp (changes.getLast?.getD born)) c' := by
  -- The run grows at its end, so each case adds what the last request did.
  induction h with
  | made hborn h =>
    obtain ⟨hc, created, updated⟩ := dates_of_createCart h
    rw [Supply.timestamp, hborn] at created updated
    exact ⟨created, c, hc, rfl, rfl, rfl, updated⟩
  | touched _ _ touches ih =>
    obtain ⟨created, c₁, hc₁, before⟩ := ih
    obtain ⟨c', hc', changed⟩ := ShopRequest.run_touches touches hc₁
    rw [List.getLast?_concat, Option.getD_some]
    exact ⟨created, c', hc', before.trans changed⟩
  | passed _ _ passes hmake quiet ih =>
    obtain ⟨created, c₁, hc₁, before⟩ := ih
    obtain ⟨c', hc', kept⟩ := (ShopRequest.run_keepsDates passes hmake quiet).becomes c₁ hc₁
    exact ⟨created, c', hc', before.updatedAt ▸ before.trans kept⟩

/-- The duty on a cart, as its record shows it. -/
def dutyOf (record : Value) : Except Fault Value := do
  (← record.item "estimatedCost").item "totalDutyAmount"

/-- After any requests, a cart shows the identifier, the date of its making, the address of its
checkout and the duty that it was made with.  As the date of its last change it shows the reading of
the clock when it was last changed, or made if it never was; this is no earlier than the date of its
making. -/
theorem updatedAt_eq_lastChange (h : CartRun c born changes clock s) :
    ∃ c', s.entity? Gid.cartPrefix (.text c.id) = some (.cart c') ∧
      (∀ name ∈ ["id", "createdAt", "checkoutUrl"], c'.toValue.item name = c.toValue.item name) ∧
      dutyOf c'.toValue = dutyOf c.toValue ∧
      c.toValue.item "createdAt" = .ok (.text (Calendar.timestamp born)) ∧
      c'.toValue.item "updatedAt" =
        .ok (.text (Calendar.timestamp (changes.getLast?.getD born))) ∧
      born ≤ changes.getLast?.getD born := by
  obtain ⟨created, c', hc', hbecomes⟩ := h.becomes
  refine ⟨c', hc', ?_, rfl, ?_, ?_, h.born_le.1⟩
  · have shown (c : Cart) : c.toValue.item "id" = .ok (.text (Gid.encode c.id)) ∧
        c.toValue.item "createdAt" = .ok (.text c.createdAt) ∧
        c.toValue.item "checkoutUrl" = .ok (.text c.checkoutUrl) := ⟨rfl, rfl, rfl⟩
    simp [shown, hbecomes.id, hbecomes.createdAt, hbecomes.checkoutUrl]
  · rw [← created]
    rfl
  · rw [← hbecomes.updatedAt]
    rfl

/-- In the sample the cart is changed a day after it was made, and read a day after that. -/
theorem updatedAt_eq_lastChange_sample : ∃ c s c', CartRun c 0 [86400] 172800 s ∧
    s.entity? Gid.cartPrefix (.text c.id) = some (.cart c') ∧
    c.toValue.item "createdAt" = .ok "1970-01-01T00:00:00Z" ∧
    c'.toValue.item "updatedAt" = .ok "1970-01-02T00:00:00Z" := by
  -- The cart is made, gets a note after a day, and is read after another.
  let created := Act.on (createCart Market.home sampleId) (.new default (.fresh 0 0 []))
  let noted := Act.on (sampleNote.run sampleId .null) { created.2 with supply := .fresh 86400 0 [] }
  let read := Act.on (getCart sampleId .null) { noted.2 with supply := .fresh 172800 0 [] }
  have answered : (created.1.toOption.map (Option.map Cart.id) = some (some sampleId) ∧
      noted.1.toOption.map Option.isSome = some true) ∧ read.1.toBool = true := by decide +kernel
  obtain ⟨c, hcreated, hid⟩ : ∃ c, created = (.ok (some c), created.2) ∧ c.id = sampleId := by
    revert answered
    rcases created with ⟨fault | _ | c, s⟩
    · exact nofun
    · exact nofun
    · exact fun answered => ⟨c, rfl, Option.some.inj (Option.some.inj answered.1.1)⟩
  obtain ⟨kc, hnoted⟩ : ∃ kc, noted = (.ok (some kc), noted.2) := by
    revert answered
    rcases noted with ⟨fault | _ | kc, s⟩
    · exact nofun
    · exact nofun
    · exact fun _ => ⟨kc, rfl⟩
  obtain ⟨a, hread⟩ := Act.eq_ok_of_toBool answered.2
  have named : Names sampleId c.id := ⟨by rw [hid]; rfl, by rw [hid]; decide⟩
  have made : CartRun c 0 [] 0 created.2 := .made rfl hcreated
  have touched : CartRun c 0 [86400] 86400 noted.2 := by
    have later : 0 ≤ (Supply.fresh 86400 0 []).now := by decide
    have run := made.touched later (r := .cart (.edit sampleId .null sampleNote))
      ⟨named, kc, _, hnoted⟩
    rwa [ShopRequest.run, Act.on_discard_snd] at run
  have later : 86400 ≤ (Supply.fresh 172800 0 []).now := by decide
  have passed := touched.passed later (r := .cart (.get sampleId .null))
    ⟨_, Act.on_discard_of_ok hread⟩ (fun h => h) (fun h => h)
  obtain ⟨c', kept, -, -, createdAt, updatedAt, -⟩ := passed.updatedAt_eq_lastChange
  have first : Calendar.timestamp 0 = "1970-01-01T00:00:00Z" := by decide +kernel
  have second : Calendar.timestamp 86400 = "1970-01-02T00:00:00Z" := by decide +kernel
  exact ⟨c, _, c', passed, kept, first ▸ createdAt, second ▸ updatedAt⟩

end CartRun
end Storefront
