import Storefront.Proofs.Rereading
import Storefront.Proofs.SideBySide

/-! # Edits of different parts of a cart

An edit changes one part of a cart: its lines, its note, its attributes or its discount code.
What it makes of that part depends on no other part, and on no costs; repricing then overwrites
all costs with what follows from the lines and the country.  So two edits of different parts may
change places.

* `Cart.Change` : the change that an edit comes to, apart from all costs
* `draft_sideBySide`, `draft_eq_plain` : what an edit reads of the cart that it changes
* `Cart.PricedIn.eq_dated` : what a priced cart is, but for its time, follows from its bare form
* `Reachable.edits_commute` : the order of two edits does not matter -/

namespace Storefront

open Shop

/-! ### Parts of a cart -/

/-- The parts of a cart that may be edited. -/
inductive CartPart where
  | lines
  | note
  | attributes
  | discount
  deriving DecidableEq

/-- The part that an edit changes. -/
def CartEdit.part : CartEdit → CartPart
  | addLines _ | updateLines _ | removeLines _ => .lines
  | setNote _ => .note
  | setAttribute _ _ => .attributes
  | setDiscount _ => .discount

namespace Cart

/-- A change of one part of a cart. -/
inductive Change where
  | relined (ls : List Line)
  | noted (note : Value)
  | attributed (a : Attribute)
  | discounted (d : AppliedCode)

namespace Change

/-- The part that is changed. -/
def part : Change → CartPart
  | relined _ => .lines
  | noted _ => .note
  | attributed _ => .attributes
  | discounted _ => .discount

/-- The cart with the change. -/
def apply : Change → Cart → Cart
  | relined ls, c => { c with lines := ls }
  | noted note, c => { c with note }
  | attributed a, c => { c with attributes := setAttribute a c.attributes }
  | discounted d, c => { c with discount := some d }

/-- Changes of different parts may change places. -/
theorem apply_comm {ch ch' : Change} (h : ch.part ≠ ch'.part) (c : Cart) :
    ch.apply (ch'.apply c) = ch'.apply (ch.apply c) := by
  -- Changes of the same part are ruled out; of the others, each writes a field that the other does
  -- not read.
  cases ch <;> cases ch' <;> first | rfl | exact absurd rfl h

end Change

/-- The cart without its costs, and without the time of its last change. -/
def bare (c : Cart) : Cart :=
  { c with updatedAt := "", lines := c.lines.map Line.bare, total := ⟨"", ""⟩
           subtotal := ⟨"", ""⟩, tax := none }

/-- The time of a change is not seen in the bare form. -/
theorem bare_dated (c : Cart) (now : String) : (c.dated now).bare = c.bare := rfl

/-- A change of another part than the lines is seen in the bare form as it is. -/
theorem bare_apply {ch : Change} (h : ch.part ≠ .lines) (c : Cart) :
    (ch.apply c).bare = ch.apply c.bare := by
  cases ch with
  | relined ls => exact absurd rfl h
  | noted note => rfl
  | attributed a => rfl
  | discounted d => rfl

/-- Other lines are seen in the bare form without their costs. -/
theorem bare_relined {c : Cart} {ls : List Line} :
    ({ c with lines := ls } : Cart).bare = (Change.relined (ls.map Line.bare)).apply c.bare := rfl

/-- Quotes are not seen in the bare form. -/
theorem bare_quoted {c : Cart} {qs : List Quote} (h : c.lines.length = qs.length) :
    (c.quoted c.country qs).bare = c.bare := by
  have lines := Line.map_bare_quoted (Market.ofKey c.country).currency h
  simp only [bare, quoted, lines]

/-- Quotes overwrite all costs. -/
theorem quoted_bare (c : Cart) (country : Key) (qs : List Quote) :
    (c.bare.quoted country qs).dated c.updatedAt = c.quoted country qs := by
  have lines : ∀ currency, (c.lines.map Line.bare).zipWith (Line.quoted currency) qs =
      c.lines.zipWith (Line.quoted currency) qs := by
    intro currency
    rw [List.zipWith_map_left]
    rfl
  simp only [quoted, bare, dated, lines]

/-- The lines and the country are seen in the bare form. -/
theorem SameLines.of_bare_eq {c c' : Cart} (h : c.bare = c'.bare) : c.SameLines c' := by
  have lines : c.bare.lines = c'.bare.lines := by rw [h]
  have country : c.bare.country = c'.bare.country := by rw [h]
  exact ⟨lines, country⟩

/-- A change of another part leaves the lines as they are. -/
theorem Change.apply_sameLines {ch : Change} (h : ch.part ≠ .lines) (c : Cart) :
    c.SameLines (ch.apply c) := by
  cases ch with
  | relined ls => exact absurd rfl h
  | noted note => exact ⟨rfl, rfl⟩
  | attributed a => exact ⟨rfl, rfl⟩
  | discounted d => exact ⟨rfl, rfl⟩

end Cart

namespace Shop

/-! ### Quotes of bare lines -/

/-- A quote is for the variant and the quantity of a line, which are seen in its bare form. -/
theorem quotes_map_bare {s : Shop} {m : Market} {ls : List Line} {qs : List Quote} :
    s.Quotes m (ls.map Line.bare) qs ↔ s.Quotes m ls qs := by
  rw [Quotes, List.forall₂_map_left_iff]
  exact Iff.rfl

/-- There is one quote for each line. -/
theorem Quotes.unique {s : Shop} {m : Market} {ls : List Line} {qs qs' : List Quote}
    (h : s.Quotes m ls qs) (h' : s.Quotes m ls qs') : qs = qs' := by
  induction h generalizing qs' with
  | nil =>
    cases h'
    rfl
  | cons hq _ ih =>
    cases h' with
    | cons hq' h' => rw [ih h', Option.some.inj (hq.symm.trans hq')]

end Shop

namespace Cart.PricedIn

variable {s s' : Shop} {c c' : Cart}

/-- A cart that is priced stays so as long as what is known stays known. -/
theorem mono (h : c.PricedIn s) (hs : s.Knows s') : c.PricedIn s' := by
  obtain ⟨qs, hqs, hc⟩ := h
  exact ⟨qs, hs.quotes hqs, hc⟩

/-- The costs of a cart follow from its lines and its country. -/
theorem eq_dated (h : c.PricedIn s) (h' : c'.PricedIn s) (hb : c.bare = c'.bare) :
    c' = c.dated c'.updatedAt := by
  obtain ⟨qs, hqs, hc⟩ := h
  obtain ⟨qs', hqs', hc'⟩ := h'
  obtain ⟨lines, country⟩ := SameLines.of_bare_eq hb
  -- The quotes are for the same bare lines in the same market, so they are the same.
  have quotes : qs' = qs := by
    rw [← country, ← quotes_map_bare, ← lines, quotes_map_bare] at hqs'
    exact hqs'.unique hqs
  calc c' = (c'.bare.quoted c'.country qs').dated c'.updatedAt := by rw [quoted_bare, ← hc']
    _ = (c.bare.quoted c.country qs).dated c'.updatedAt := by rw [← hb, ← country, quotes]
    _ = ((c.bare.quoted c.country qs).dated c.updatedAt).dated c'.updatedAt := rfl
    _ = c.dated c'.updatedAt := by rw [quoted_bare, ← hc]

end Cart.PricedIn

/-! ### What an edit reads -/

namespace CartEdit

variable {k : String} {c c' : Cart} {e : CartEdit}

/-- Two carts were given the same change, as far as they are not about costs. -/
inductive ChangedAlike (part : CartPart) (c c' : Cart) : KeptCart → KeptCart → Prop
  | intro {ch : Cart.Change} {d d' : Cart} (hpart : ch.part = part) (hd : d.bare = ch.apply c.bare)
      (hd' : d'.bare = ch.apply c'.bare) : ChangedAlike part c c' (.made d) (.made d')

/-- Lines that are changed alike are a change that carts are given alike. -/
theorem changedAlike_of_relinedAlike {kc kc' : KeptCart} (h : KeptCart.RelinedAlike c c' kc kc') :
    ChangedAlike .lines c c' kc kc' := by
  obtain @⟨ls, ls', h⟩ := h
  have bare' : ({ c' with lines := ls' } : Cart).bare =
      (Cart.Change.relined (ls.map Line.bare)).apply c'.bare := by rw [Cart.bare_relined, h]
  exact .intro rfl Cart.bare_relined bare'

/-- The change that an edit of another part than the lines comes to, whatever the cart. -/
def plain : CartEdit → Except Fault (Option Cart.Change)
  | addLines _ | updateLines _ | removeLines _ => .ok none
  | setNote note => .ok (some (.noted (note.orElse "")))
  | setAttribute key value =>
    .ok (if !key.truthy || !value.truthy then none else some (.attributed ⟨key, value⟩))
  | setDiscount codes =>
    codes.elementsOrNone.map (·.head?.map fun code => .discounted ⟨code, Discount.isAccepted code⟩)

/-- The change that an edit comes to is one of its part. -/
theorem part_of_plain {ch : Cart.Change} (h : e.plain = .ok (some ch)) : ch.part = e.part := by
  -- The changes of lines are not plain, and each other change is made of its own part.
  cases e with
  | addLines lines => cases h
  | updateLines lines => cases h
  | removeLines lineIds => cases h
  | setNote note =>
    cases h
    rfl
  | setAttribute key value =>
    rw [plain, Except.ok.injEq] at h
    split at h <;> cases h
    rfl
  | setDiscount codes =>
    obtain ⟨listed, -, h⟩ := Act.except_map_eq_ok.1 h
    obtain ⟨code, -, rfl⟩ := Option.map_eq_some_iff.1 h
    rfl

/-- Unless it is one of the lines, an edit reads nothing of the cart that it changes. -/
theorem draft_eq_plain (h : e.part ≠ .lines) (c : Cart) : e.draft .null (.made c) =
    liftM (e.plain.map (Option.map fun ch => KeptCart.made (ch.apply c))) := by
  -- An edit of the lines is ruled out; the others are looked at one by one.
  cases e with
  | addLines lines => exact absurd rfl h
  | updateLines lines => exact absurd rfl h
  | removeLines lineIds => exact absurd rfl h
  | setNote note => rfl
  | setAttribute key value =>
    show (liftM (withAttribute key value (.made c)) : Act Shop (Option KeptCart)) = _
    rw [withAttribute, plain]
    split <;> rfl
  | setDiscount codes =>
    show (liftM codes.elementsOrNone >>= fun listed => liftM (withDiscount listed (.made c)) :
      Act Shop (Option KeptCart)) = _
    -- Only the first code counts.
    rw [plain]
    rcases codes.elementsOrNone with f | _ | ⟨code, codes⟩ <;> rfl

/-- Carts with the same lines are edited alike. -/
theorem draft_sideBySide (e : CartEdit) (h : c.SameLines c') :
    SideBySide k (Option.Rel (ChangedAlike e.part c c')) (e.draft .null (.made c))
      (e.draft .null (.made c')) := by
  have relined : ∀ {o o' : Option KeptCart}, Option.Rel (KeptCart.RelinedAlike c c') o o' →
      Option.Rel (ChangedAlike .lines c c') o o' := by
    intro o o' ho
    cases ho with
    | none => exact .none
    | some ho => exact .some (changedAlike_of_relinedAlike ho)
  -- Three of the six edits read no cart at all; the others read its lines and its country.
  have plain : e.part ≠ .lines → SideBySide k (Option.Rel (ChangedAlike e.part c c'))
      (e.draft .null (.made c)) (e.draft .null (.made c')) := by
    intro hpart
    rw [draft_eq_plain hpart, draft_eq_plain hpart]
    rcases hch : e.plain with f | _ | ch
    · exact .lift (.error f)
    · exact .lift (.ok .none)
    · rw [← part_of_plain hch] at hpart ⊢
      exact .lift (.ok (.some (.intro rfl (Cart.bare_apply hpart c) (Cart.bare_apply hpart c'))))
  cases e with
  | addLines lines =>
    refine .bind (Overlooks.lift _) fun lines _ same => ?_
    subst same
    exact (withAdditions_sideBySide h .null lines).mono fun _ _ => relined
  | updateLines lines =>
    refine .bind (Overlooks.lift _) fun lines _ same => ?_
    subst same
    exact (SideBySide.lift (withUpdates_alike h lines)).mono fun _ _ => relined
  | removeLines lineIds =>
    refine .bind (Overlooks.lift _) fun lineIds _ same => ?_
    subst same
    exact (SideBySide.lift (withRemovals_alike h lineIds)).mono fun _ _ => relined
  | setNote note => exact plain nofun
  | setAttribute key value => exact plain nofun
  | setDiscount codes => exact plain nofun

end CartEdit

namespace Shop

variable {s s' s₁ s₂ s₁₂ s₂₁ : Shop} {id id₁ id₂ : Value} {k : String} {c : Cart}
  {e e₁ e₂ : CartEdit}
  {t₁ t₂ : Int} {a a₁ a₂ b₁ b₂ : Option KeptCart}

/-! ### One edit -/

/-- The shop at another time. -/
def atTime (s : Shop) (t : Int) : Shop := { s with supply := { s.supply with now := t } }

/-- All that is known stays known at another time. -/
theorem knows_atTime (s : Shop) (t : Int) : Knows s (s.atTime t) :=
  (Draws.grows (.single (.supply s _))).keeps.toKnows

/-- A coherent shop is coherent at any time. -/
theorem coherent_atTime (hs : Coherent s) (t : Int) : Coherent (s.atTime t) :=
  hs.steps ((Draws.grows (.single (.supply s _))).sideSteps.steps)

/-- An edit that returns is rejected, or its draft is kept at costs that are up to date. -/
theorem run_eq_ok (hs : Coherent s) (hid : Names id k) (hc : s.HasCart k c)
    (h : Act.on (e.run id .null) s = (.ok a, s')) :
    (a = none ∧ Act.on (e.draft .null (.made c)) s = (.ok none, s')) ∨
      ∃ d s₁ c', Act.on (e.draft .null (.made c)) s = (.ok (some (.made d)), s₁) ∧
        a = some (.made c') ∧ s' = s₁.withCart k c' ∧ c'.PricedIn s' ∧ c'.bare = d.bare := by
  rw [on_run hid hc] at h
  -- The draft fails, is refused, or is made; then it is kept and priced.
  rcases hd : Act.on (e.draft .null (.made c)) s with ⟨f | _ | kc, s₁⟩
  · rw [hd] at h
    cases h
  · rw [hd] at h
    obtain ⟨⟨⟩, rfl⟩ := h
    exact .inl ⟨rfl, rfl⟩
  · cases kc with
    | given v => exact ((CartEdit.draft_isEdit .null e _).along hd).elim
    | made d =>
      have edited : Edited s c s₁ d := (CartEdit.draft_isEdit .null e _).along hd
      have coherent := (Step.edited hc edited s₁.supply.timestamp).coherent hs
      have kept := hasCart_withCart_self s₁ k (d.dated s₁.supply.timestamp)
      rw [hd] at h
      dsimp only at h
      -- The draft is kept, and then priced as if it were read in its own market.
      rw [on_commit_made, ← on_setCountry hid.raw kept] at h
      obtain ⟨-, key, qs, hkey, hqs, ha, hs'⟩ := getCart_eq_ok coherent hid.raw kept h
      obtain rfl := Except.ok.inj hkey
      rw [withCart_withCart] at hs'
      have bare := (Cart.bare_quoted hqs.length_eq).trans (Cart.bare_dated d s₁.supply.timestamp)
      refine .inr ⟨d, s₁, _, rfl, ha, hs', ?_, bare⟩
      rw [hs', ← withCart_withCart]
      exact pricedIn_withCart (Cart.pricedIn_quoted hqs)

/-- An edit leaves a cart in the place of the one that it found. -/
theorem exists_hasCart_of_run (hs : Coherent s) (hid : Names id k) (hc : s.HasCart k c)
    (h : Act.on (e.run id .null) s = (.ok a, s')) : ∃ c', s'.HasCart k c' := by
  obtain ⟨-, hd⟩ | ⟨d, s₁, c', -, -, rfl, -⟩ := run_eq_ok hs hid hc h
  · have keeps : Keeps s s' := ((CartEdit.draft_isEdit .null e _).grows.of_on hd).keeps
    exact ⟨c, (keeps.hasCart_iff k c).2 hc⟩
  · exact ⟨c', hasCart_withCart_self s₁ k c'⟩

/-- An edit of another part than the lines is refused everywhere, or it makes the same change
everywhere. -/
theorem run_eq_ok_plain (hpart : e.part ≠ .lines) (hs : Coherent s) (hid : Names id k)
    (hc : s.HasCart k c) (h : Act.on (e.run id .null) s = (.ok a, s')) :
    (e.plain = .ok none ∧ a = none ∧ s' = s) ∨ ∃ ch c', e.plain = .ok (some ch) ∧
      a = some (.made c') ∧ s' = s.withCart k c' ∧ c'.PricedIn s' ∧ c'.bare = ch.apply c.bare := by
  obtain ⟨rfl, hd⟩ | ⟨d, s₁, c', hd, rfl, rfl, priced, bare⟩ := run_eq_ok hs hid hc h
  · -- What is refused or made does not depend on the cart, by the form of the draft.
    rw [CartEdit.draft_eq_plain hpart] at hd
    rcases hch : e.plain with f | _ | ch <;> rw [hch] at hd <;> cases hd
    exact .inl ⟨rfl, rfl, rfl⟩
  · rw [CartEdit.draft_eq_plain hpart] at hd
    rcases hch : e.plain with f | _ | ch <;> rw [hch] at hd <;> cases hd
    refine .inr ⟨ch, c', rfl, rfl, rfl, priced, ?_⟩
    rw [← CartEdit.part_of_plain hch] at hpart
    rw [bare, Cart.bare_apply hpart]

/-! ### Two edits -/

/-- Two shops are the same at some times, but for the time at which a cart was changed last. -/
def SameButDate (k : String) (s s' : Shop) : Prop :=
  ∃ c now t, s.HasCart k c ∧ s' = (s.withCart k (c.dated now)).atTime t

/-- A shop is itself at any time. -/
theorem sameButDate_atTime (hc : s.HasCart k c) (t : Int) : SameButDate k (s.atTime t) s := by
  refine ⟨c, c.updatedAt, s.supply.now, hc, ?_⟩
  have same : (s.atTime t).withCart k (c.dated c.updatedAt) = s.atTime t := withCart_of_hasCart hc
  rw [same]
  rfl

/-- What differs from a shop in the time of a change, that differs from it in the same way. -/
theorem SameButDate.symm (h : SameButDate k s s') : SameButDate k s' s := by
  obtain ⟨c, now, t, hc, rfl⟩ := h
  refine ⟨c.dated now, c.updatedAt, s.supply.now, hasCart_withCart_self s k _, ?_⟩
  have back : (s.withCart k (c.dated now)).withCart k c = s := by
    rw [withCart_withCart, withCart_of_hasCart hc]
  calc s = (s.atTime t).atTime s.supply.now := rfl
    _ = (((s.withCart k (c.dated now)).withCart k c).atTime t).atTime s.supply.now := by rw [back]

/-- Priced carts that are the same in bare form are told apart by their times only. -/
theorem sameButDate_of_bare_eq {c c' : Cart} {t : Int} (hc : c.PricedIn ((s.withCart k c).atTime t))
    (hc' : c'.PricedIn (s.withCart k c')) (hb : c.bare = c'.bare) :
    SameButDate k ((s.withCart k c).atTime t) (s.withCart k c') := by
  -- `eq_dated` compares carts that are priced in one shop, here in the second.
  have known : c.PricedIn (s.withCart k c') := by
    have put : c.PricedIn (((s.withCart k c).withCart k c').atTime s.supply.now) :=
      pricedIn_withCart (hc.mono (knows_atTime _ s.supply.now))
    rwa [withCart_withCart] at put
  refine ⟨c, c'.updatedAt, s.supply.now, hasCart_withCart_self s k c, ?_⟩
  rw [← known.eq_dated hc' hb]
  have shop : (((s.withCart k c).atTime t).withCart k c').atTime s.supply.now =
    ((s.withCart k c).withCart k c').atTime s.supply.now := rfl
  rw [shop, withCart_withCart]
  rfl

/-- How one edit comes out on two carts under one key: it is refused on both, or makes the same
change of both. -/
inductive EditedAlike (s : Shop) (k : String) (part : CartPart) (c c' : Cart) :
    Option KeptCart → Shop → Option KeptCart → Shop → Prop
  | refused {s₁ : Shop} (hc : s₁.HasCart k c)
      (grows : Grows (s.withCart k c') (s₁.withCart k c')) :
      EditedAlike s k part c c' none s₁ none (s₁.withCart k c')
  | changed {s₁ : Shop} {ch : Cart.Change} {d d' : Cart} (hpart : ch.part = part)
      (priced : d'.PricedIn (s₁.withCart k d')) (bare : d.bare = ch.apply c.bare)
      (bare' : d'.bare = ch.apply c'.bare) :
      EditedAlike s k part c c' (some (.made d)) (s₁.withCart k d) (some (.made d'))
        (s₁.withCart k d')

/-- Carts with the same lines are edited alike, and kept in the same place. -/
theorem run_alike {c' : Cart} {a' : Option KeptCart} (hs : Coherent s)
    (hs' : Coherent (s.withCart k c')) (hid : Names id k) (hc : s.HasCart k c)
    (same : c.SameLines c')
    (h : Act.on (e.run id .null) s = (.ok a, s₁))
    (h' : Act.on (e.run id .null) (s.withCart k c') = (.ok a', s₂)) :
    EditedAlike s k e.part c c' a s₁ a' s₂ := by
  -- The drafts are made side by side, in a shop that has one cart or the other.
  obtain ⟨r, r', sd, hd, hd', alike, hcd⟩ := CartEdit.draft_sideBySide e same s c c' hc
  have first := run_eq_ok hs hid hc h
  have second := run_eq_ok hs' hid (hasCart_withCart_self s k c') h'
  rw [hd] at first
  rw [hd'] at second
  cases alike with
  | error f =>
    -- Neither draft fails, as neither edit does.
    obtain ⟨-, ⟨⟩⟩ | ⟨_, _, _, ⟨⟩, -⟩ := first
  | ok alike =>
    cases alike with
    | none =>
      obtain ⟨rfl, ⟨⟩⟩ | ⟨_, _, _, ⟨⟩, -⟩ := first
      obtain ⟨rfl, ⟨⟩⟩ | ⟨_, _, _, ⟨⟩, -⟩ := second
      exact .refused hcd ((CartEdit.draft_isEdit .null e (.made c')).grows.of_on hd')
    | some alike =>
      obtain ⟨hpart, bare, bare'⟩ := alike
      obtain ⟨-, ⟨⟩⟩ | ⟨_, _, d, ⟨⟩, rfl, rfl, -, hbare⟩ := first
      obtain ⟨-, ⟨⟩⟩ | ⟨_, _, d', ⟨⟩, rfl, rfl, priced', hbare'⟩ := second
      rw [withCart_withCart] at priced' ⊢
      exact .changed hpart priced' (hbare.trans bare) (hbare'.trans bare')

/-- An edit of another part than the lines may be done before or after. -/
theorem edits_commute_of_plain (hs : Coherent s) (hc : s.HasCart k c) (hid₁ : Names id₁ k)
    (hid₂ : Names id₂ k) (hparts : e₁.part ≠ e₂.part) (hpart : e₂.part ≠ .lines)
    (h₁ : Act.on (e₁.run id₁ .null) (s.atTime t₁) = (.ok a₁, s₁))
    (h₂ : Act.on (e₂.run id₂ .null) (s₁.atTime t₂) = (.ok a₂, s₁₂))
    (h₂' : Act.on (e₂.run id₂ .null) (s.atTime t₂) = (.ok b₂, s₂))
    (h₁' : Act.on (e₁.run id₁ .null) (s₂.atTime t₁) = (.ok b₁, s₂₁)) :
    a₁.isSome = b₁.isSome ∧ a₂.isSome = b₂.isSome ∧ SameButDate k s₁₂ s₂₁ := by
  have hs₁ : Coherent (s₁.atTime t₂) :=
    coherent_atTime ((coherent_atTime hs t₁).steps ((e₁.run_steps id₁ .null).of_on h₁)) t₂
  have hs₂ : Coherent (s₂.atTime t₁) :=
    coherent_atTime ((coherent_atTime hs t₂).steps ((e₂.run_steps id₂ .null).of_on h₂')) t₁
  obtain ⟨c₁, hc₁⟩ := exists_hasCart_of_run (coherent_atTime hs t₁) hid₁ hc h₁
  obtain ⟨refused, rfl, rfl⟩ | ⟨ch, c₂, accepted, rfl, rfl, priced₂, bare₂⟩ :=
    run_eq_ok_plain hpart (coherent_atTime hs t₂) hid₂ hc h₂'
  · -- The second edit is refused in either order, so the first is all that is done.
    obtain ⟨⟨⟩, rfl⟩ := Prod.mk.inj (h₁.symm.trans h₁')
    obtain ⟨-, rfl, rfl⟩ | ⟨ch, _, accepted, -⟩ := run_eq_ok_plain hpart hs₁ hid₂ hc₁ h₂
    · exact ⟨rfl, rfl, sameButDate_atTime hc₁ t₂⟩
    · cases refused.symm.trans accepted
  · have plain : ch.part ≠ .lines := by rwa [CartEdit.part_of_plain accepted]
    -- The first edit finds the same lines before and after the second.
    have same : c.SameLines c₂ := by
      have changed := Cart.SameLines.of_bare_eq (bare₂.trans (Cart.bare_apply plain c).symm)
      have kept := ch.apply_sameLines plain c
      exact ⟨kept.lines.trans changed.lines.symm, kept.country.trans changed.country.symm⟩
    cases run_alike (s := s.atTime t₁) (coherent_atTime hs t₁) hs₂ hid₁ hc same h₁ h₁' with
    | refused hcd grows =>
      -- The first edit is refused in either order, so the second is all that is done.
      obtain ⟨refused, -⟩ | ⟨_, c₁₂, accepted', rfl, rfl, priced₁₂, bare₁₂⟩ :=
        run_eq_ok_plain hpart hs₁ hid₂ hcd h₂
      · cases refused.symm.trans accepted
      · cases accepted.symm.trans accepted'
        have priced₂₁ := (priced₂.mono (knows_atTime _ t₁)).mono grows.keeps.toKnows
        exact ⟨rfl, rfl, sameButDate_of_bare_eq priced₁₂ priced₂₁ (bare₁₂.trans bare₂.symm)⟩
    | changed hch priced₂₁ bare₁ bare₂₁ =>
      obtain ⟨refused, -⟩ | ⟨_, c₁₂, accepted', rfl, rfl, priced₁₂, bare₁₂⟩ :=
        run_eq_ok_plain hpart hs₁ hid₂ (hasCart_withCart_self _ k _) h₂
      · cases refused.symm.trans accepted
      · cases accepted.symm.trans accepted'
        have overwritten : ∀ (u : Shop) (d : Cart),
            ((u.withCart k d).atTime t₂).withCart k c₁₂ = (u.withCart k c₁₂).atTime t₂ := by
          intro u d
          show ((u.withCart k d).withCart k c₁₂).atTime t₂ = _
          rw [withCart_withCart]
        rw [overwritten] at priced₁₂ ⊢
        -- Both orders come to the same two changes of `c`, in bare form; the costs follow from it.
        refine ⟨rfl, rfl, sameButDate_of_bare_eq priced₁₂ priced₂₁ ?_⟩
        rw [← hch, ← CartEdit.part_of_plain accepted] at hparts
        rw [bare₁₂, bare₁, bare₂₁, bare₂, Cart.Change.apply_comm hparts]

/-- Two edits of different parts of a cart, both in its own market, come out the same in either
order, and leave the same shop behind but for the time of the last change.  Each edit finds the time
that it finds in the other order. -/
theorem Reachable.edits_commute (h : Reachable s) (hc : s.HasCart k c) (hid₁ : Names id₁ k)
    (hid₂ : Names id₂ k) (hparts : e₁.part ≠ e₂.part)
    (h₁ : Act.on (e₁.run id₁ .null) (s.atTime t₁) = (.ok a₁, s₁))
    (h₂ : Act.on (e₂.run id₂ .null) (s₁.atTime t₂) = (.ok a₂, s₁₂))
    (h₂' : Act.on (e₂.run id₂ .null) (s.atTime t₂) = (.ok b₂, s₂))
    (h₁' : Act.on (e₁.run id₁ .null) (s₂.atTime t₁) = (.ok b₁, s₂₁)) :
    a₁.isSome = b₁.isSome ∧ a₂.isSome = b₂.isSome ∧ SameButDate k s₁₂ s₂₁ := by
  by_cases hpart : e₂.part = .lines
  · -- Then the first edit is not one of the lines, and the two change their roles.
    have hpart₁ : e₁.part ≠ .lines := by rwa [← hpart]
    obtain ⟨second, first, same⟩ :=
      edits_commute_of_plain h.coherent hc hid₂ hid₁ hparts.symm hpart₁ h₂' h₁' h₁ h₂
    exact ⟨first.symm, second.symm, same.symm⟩
  · exact edits_commute_of_plain h.coherent hc hid₁ hid₂ hparts hpart h₁ h₂ h₂' h₁'

/-- Pieces of a variant that is not known yet, to be made up on the way. -/
def sampleLines : CartEdit := .addLines (.list [lineFor "2" 3])

/-- A note that is set a day later. -/
def sampleNote : CartEdit := .setNote "Ring twice"

/-- Adding lines and setting a note, in either order. -/
theorem Reachable.edits_commute_sample : ∃ c a₁ a₂ b₁ b₂ s₁ s₂ s₁₂ s₂₁, sample.HasCart sampleId c ∧
    Act.on (sampleLines.run sampleId .null) (sample.atTime 0) = (.ok a₁, s₁) ∧
    Act.on (sampleNote.run sampleId .null) (s₁.atTime 86400) = (.ok a₂, s₁₂) ∧
    Act.on (sampleNote.run sampleId .null) (sample.atTime 86400) = (.ok b₂, s₂) ∧
    Act.on (sampleLines.run sampleId .null) (s₂.atTime 0) = (.ok b₁, s₂₁) ∧
    a₁.isSome = b₁.isSome ∧ a₂.isSome = b₂.isSome ∧ SameButDate sampleId s₁₂ s₂₁ := by
  obtain ⟨c, hc⟩ := exists_hasCart_sample
  have named : Names sampleId sampleId := ⟨rfl, by decide⟩
  let lines := Act.on (sampleLines.run sampleId .null) (sample.atTime 0)
  let note := Act.on (sampleNote.run sampleId .null) (sample.atTime 86400)
  let noteLast := Act.on (sampleNote.run sampleId .null) (lines.2.atTime 86400)
  let linesLast := Act.on (sampleLines.run sampleId .null) (note.2.atTime 0)
  -- All four calls return; that is all that is computed of them.
  have returned : ((lines.1.toBool = true ∧ noteLast.1.toBool = true) ∧ note.1.toBool = true) ∧
      linesLast.1.toBool = true := by decide +kernel
  obtain ⟨a₁, h₁⟩ := Act.eq_ok_of_toBool returned.1.1.1
  obtain ⟨a₂, h₂⟩ := Act.eq_ok_of_toBool returned.1.1.2
  obtain ⟨b₂, h₂'⟩ := Act.eq_ok_of_toBool returned.1.2
  obtain ⟨b₁, h₁'⟩ := Act.eq_ok_of_toBool returned.2
  exact ⟨c, a₁, a₂, b₁, b₂, _, _, _, _, hc, h₁, h₂, h₂', h₁',
    Reachable.edits_commute reachable_sample hc named named (by decide) h₁ h₂ h₂' h₁'⟩

end Shop
end Storefront
