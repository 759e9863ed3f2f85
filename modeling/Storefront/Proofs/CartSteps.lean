import Storefront.Proofs.Pricing

/-! # What the operations on carts do to a shop

Every operation on carts is made of steps, whether or not it succeeds: it lets the shop grow while
it works out the cart that is to be, keeps that cart, and keeps it again once it is priced. -/

namespace Storefront.Shop

open Act (Within)
open Relation (ReflTransGen)

/-! ### Finding carts -/

/-- The cart under a raw identifier, if there is one. -/
def cart? (s : Shop) (k : String) : Option KeptCart :=
  (s.entity? Gid.cartPrefix (.text k)).bind KeptCart.ofEntity?

/-- A cart of the shop's own is kept as such. -/
theorem cart?_eq_made {s : Shop} {k : String} {c : Cart} :
    s.cart? k = some (.made c) ↔ s.HasCart k c := by
  rw [cart?, HasCart, Option.bind_eq_some_iff]
  constructor
  · rintro ⟨e, he, h⟩
    cases e with
    | cart c' =>
      obtain rfl : c' = c := by simpa [KeptCart.ofEntity?] using h
      exact he
    | _ =>
      -- Any other entity is read as a cart from outside, if at all.
      simp only [KeptCart.ofEntity?] at h
      split at h <;> simp at h
  · exact fun h => ⟨_, h, rfl⟩

/-- A cart that is a mere value was kept by a caller's own hand. -/
theorem hasGiven_of_cart? {s : Shop} {k : String} {v : Value} (h : s.cart? k = some (.given v)) :
    s.HasGiven k := by
  obtain ⟨e, he, h⟩ := Option.bind_eq_some_iff.1 h
  refine ⟨e, he, ?_⟩
  rintro c rfl
  simp [KeptCart.ofEntity?] at h

/-- To find a cart changes nothing. -/
theorem findCart_reads (id : Value) : Within Eq (findCart id) := by
  refine .bind (.lift _) fun v => ?_
  split
  · exact .pure _
  · exact .bind (.lift _) fun _ => .bind (fun _ => rfl) fun _ => .pure _

/-- A cart is found under the raw form of an identifier that is not empty. -/
theorem findCart_eq_some {id : Value} {s s' : Shop} {k : String} {kc : KeptCart} :
    Act.on (findCart id) s = (.ok (some (k, kc)), s') ↔
      Gid.decodeValue id = .ok (.text k) ∧ k ≠ "" ∧ s.cart? k = some kc ∧ s = s' := by
  rw [findCart, Act.on_bind]
  cases Gid.decodeValue id with
  | error e => simp
  | ok v =>
    cases v with
    | text i =>
      by_cases hi : i = ""
      · -- An empty text is falsy, so nothing is looked up.
        simp only [hi, Act.on_lift, Value.truthy_text, ne_eq, not_true, decide_false,
          Bool.not_false, if_true, Act.on_pure]
        grind
      · simp only [hi, Act.on_lift, Value.truthy_text, ne_eq, not_false_eq_true, decide_true,
          Bool.not_true, Bool.false_eq_true, if_false, Value.asText_text, Act.on_bind, on_find?,
          Act.on_pure]
        rw [← cart?]
        simp only [Prod.mk.injEq, Except.ok.injEq, Option.map_eq_some_iff, Value.text.injEq]
        constructor
        · rintro ⟨⟨kc, found, rfl, rfl⟩, rfl⟩
          exact ⟨rfl, hi, found, rfl⟩
        · rintro ⟨rfl, -, found, rfl⟩
          exact ⟨⟨kc, found, rfl, rfl⟩, rfl⟩
    | _ =>
      -- Whatever is no text finds nothing, or fails.
      simp only [Act.on_lift]
      split <;> simp [Act.on_bind, Value.asText]

/-- To look for a cart changes nothing. -/
theorem hasCart_reads (id : Value) : Within Eq (hasCart id) := by
  refine .bind (.lift _) fun v => ?_
  split
  · exact .pure _
  · exact .bind (.lift _) fun _ _ => rfl

/-- To keep a cart writes it under its key. -/
@[simp] theorem on_keepCart (k : String) (kc : KeptCart) (s : Shop) :
    Act.on (keepCart k kc) s = (.ok (), s.withEntity Gid.cartPrefix (.text k) kc.toEntity) := rfl

/-! ### Lines -/

/-- The record that is answered is the one kept from then on. -/
theorem variantRecord_ok {id : String} {s s' : Shop} {record : Value}
    (h : Act.on (variantRecord id) s = (.ok record, s')) :
    ∃ e, s'.entity? Gid.variantPrefix (.text id) = some e ∧ e.toValue = record := by
  obtain ⟨e, s₁, he, h⟩ := Act.on_bind_eq_ok.1 h
  split at h
  · rename_i e
    obtain ⟨rfl, rfl⟩ : e.toValue = record ∧ s₁ = s' := by simpa using h
    exact ⟨e, variant_ok he, rfl⟩
  · simp at h

/-- To make a line looks up its variant and draws an identifier; all else is read from the record.
-/
theorem newLine_grows (variant : String) (quantity : Int) (attributes : Value)
    (currency : String) : Within Grows (newLine variant quantity attributes currency) :=
  .bind (variantRecord_grows _) fun _ => .bind (.lift _) fun _ =>
    .bind ((freshId_draws _).mono fun _ _ => Draws.grows) fun _ => .bind (.map _ (.lift _)) fun _ =>
    .bind (.lift _) fun _ => .bind (.map _ (.lift _)) fun _ => .bind (.lift _) fun _ =>
    .bind (.lift _) fun _ => .bind (.lift _) fun _ => .pure _

/-- A new line repeats the record of its variant, and its identifier is new and can be encoded. -/
theorem newLine_ok {variant : String} {quantity : Int} {attributes : Value} {currency : String}
    {s s' : Shop} {l : Line}
    (h : Act.on (newLine variant quantity attributes currency) s = (.ok l, s')) :
    l.variant = variant ∧ l.quantity = quantity ∧ ∃ s₁ t e, Grows s s₁ ∧ t ∉ s₁.seen ∧
      s' = { s₁ with seen := s₁.seen ++ [t] } ∧ l.id = Gid.cartLinePrefix ++ t ∧
      Gid.encodeText l.id = .ok (Gid.encode l.id) ∧
      s₁.entity? Gid.variantPrefix (.text variant) = some e ∧ l.Shows e.toValue := by
  simp only [newLine, Act.on_bind_eq_ok, Act.on_lift, Act.on_discard_eq_ok, Act.on_pure,
    Prod.mk.injEq, Except.ok.injEq] at h
  obtain ⟨record, s₀, hr, image, _, ⟨hi, rfl⟩, id, s₂, hid, _, _, ⟨sent, hsent, rfl⟩, as,
    _, ⟨_, rfl⟩,
    _, _, ⟨_, _, rfl⟩, p, _, ⟨hp, rfl⟩, product, _, ⟨hproduct, rfl⟩, title, _, ⟨htitle, rfl⟩, rfl,
    rfl⟩ := h
  obtain ⟨e, he, rfl⟩ := variantRecord_ok hr
  -- The record is read before the identifier is drawn, and drawing leaves it as it is.
  obtain ⟨s₁, t, drawn, hnew, rfl, rfl⟩ := freshId_ok (by decide) hid
  refine ⟨rfl, rfl, s₁, t, e, ?_, hnew, rfl, rfl, ?_, ?_, hi, ?_, htitle⟩
  · exact ((variantRecord_grows _).of_on hr).trans drawn.grows
  · rw [← Gid.eq_encode_of_encodeText hsent]
    exact hsent
  · rw [drawn.entity?_eq, he]
  · rw [hp]
    exact hproduct

/-- The lines that a request lists are asked for in pieces. -/
theorem lineRequests_ok {idName : String} {lines : List Value} {rs : List LineRequest}
    (h : lineRequests idName lines = .ok (some rs)) : ∀ r ∈ rs, 1 ≤ r.quantity := by
  induction lines generalizing rs with
  | nil =>
    obtain rfl : [] = rs := by simpa [lineRequests] using h
    simp
  | cons line lines ih =>
    simp only [lineRequests, Act.except_bind_eq_ok] at h
    obtain ⟨id, -, h⟩ := h
    -- A line without an identifier rejects them all.
    split at h
    · cases h
    · obtain ⟨quantity, -, h⟩ := Act.except_bind_eq_ok.1 h
      -- So does a line with no pieces at all.
      split at h
      · cases h
      · rename_i hq
        simp only [Act.except_bind_eq_ok] at h
        obtain ⟨attributes, -, rest, hrest, h⟩ := h
        obtain ⟨rs', rfl, rfl⟩ : ∃ rs', rest = some rs' ∧ _ :: rs' = rs := by
          simpa using Except.ok.inj h
        rw [List.forall_mem_cons]
        exact ⟨Int.not_lt.1 hq, ih hrest⟩

/-- What is asked for is asked for in pieces; an empty list asks for nothing. -/
theorem requestsOf_ok {idName : String} {lines : List Value} {rs : List LineRequest}
    (h : requestsOf idName lines = .ok (some rs)) : ∀ r ∈ rs, 1 ≤ r.quantity := by
  rw [requestsOf] at h
  split at h
  · cases h
  · exact lineRequests_ok h

/-- To extend a line is to reline the cart. -/
theorem Relined.extend (s : Shop) (c : Cart) (p : Line → Bool) {quantity : Int} (hq : 1 ≤ quantity)
    (attributes : List Value) :
    Relined s s c
      { c with lines := Cart.replaceFirst p (Cart.extended · quantity attributes) c.lines } :=
  ⟨_, .single (.extend s p hq attributes c.lines), rfl⟩

/-- A cart that is left alone is relined. -/
theorem along_refl (s : Shop) (kc : KeptCart) : kc.Along (Relined s s) kc := by
  cases kc with
  | made c => exact ⟨c.lines, .refl, rfl⟩
  | given v => trivial

/-- A line that is extended gets more pieces, whichever identifier it is found by. -/
theorem extend?_along {idOf : Line → String} {idOfEdge : Value → Except Fault Value} {id : String}
    {quantity : Int} (hq : 1 ≤ quantity) {attributes : Value} {kc kc' : KeptCart}
    (h : kc.extend? idOf idOfEdge id quantity attributes = .ok (some kc')) (s : Shop) :
    kc.Along (Relined s s) kc' := by
  cases kc with
  | made c =>
    simp only [KeptCart.extend?] at h
    split at h
    · cases h
    · obtain ⟨as, -, h⟩ := Act.except_bind_eq_ok.1 h
      obtain rfl := Option.some.inj (Except.ok.inj h)
      exact .extend s c _ hq as
  | given v =>
    -- A value from outside is not a cart that anything is claimed of.
    obtain ⟨v', -, h⟩ := Act.except_bind_eq_ok.1 h
    obtain ⟨_, -, rfl⟩ := Option.map_eq_some_iff.1 (Except.ok.inj h)
    trivial

/-- If no line is extended, then none has the identifier. -/
theorem extend?_eq_none {idOf : Line → String} {idOfEdge : Value → Except Fault Value} {id : String}
    {quantity : Int} {attributes : Value} {c : Cart}
    (h : (KeptCart.made c).extend? idOf idOfEdge id quantity attributes = .ok none) :
    ∀ l ∈ c.lines, idOf l ≠ id := by
  simp only [KeptCart.extend?] at h
  split at h
  · rename_i hnone
    simpa using hnone
  · obtain ⟨as, -, h⟩ := Act.except_bind_eq_ok.1 h
    cases h

/-- A new line lets the shop grow by its variant and its identifier. -/
theorem withNewLine_grows (currency : String) (kc : KeptCart) (variant : String) (quantity : Int)
    (attributes : Value) : Within Grows (withNewLine currency kc variant quantity attributes) := by
  cases kc with
  | made c => exact .bind (newLine_grows _ _ _ _) fun _ => .pure _
  | given v =>
    exact .bind (.lift _) fun _ => .bind (.map _ (.lift _)) fun _ =>
      .bind (newLine_grows _ _ _ _) fun _ => .bind (.lift _) fun _ => .pure _

/-- A new line is appended to a cart without one for the variant. -/
theorem withNewLine_along {currency : String} {kc kc' : KeptCart} {variant : String}
    {quantity : Int}
    {attributes : Value} {s s' : Shop} (hv : Gid.decode variant = variant) (hq : 1 ≤ quantity)
    (hnew : ∀ c, kc = .made c → ∀ l ∈ c.lines, l.variant ≠ variant)
    (h : Act.on (withNewLine currency kc variant quantity attributes) s = (.ok kc', s')) :
    kc.Along (Relined s s') kc' := by
  cases kc with
  | made c =>
    obtain ⟨l, s₁, hl, h⟩ := Act.on_bind_eq_ok.1 h
    obtain ⟨rfl, rfl⟩ : _ = kc' ∧ s₁ = s' := by simpa using h
    obtain ⟨rfl, rfl, s₀, t, e, grown, ht, rfl, hid, sent, he, shows⟩ := newLine_ok hl
    exact ⟨_, (grown.lineSteps _).tail (.append ht hid sent hv (hnew c rfl) hq he shows), rfl⟩
  -- A value from outside stays a value.
  | given v =>
    simp only [withNewLine, Act.on_bind_eq_ok, Act.on_lift, Act.on_discard_eq_ok, Act.on_pure,
      Prod.mk.injEq, Except.ok.injEq] at h
    obtain ⟨_, _, -, _, _, -, _, _, -, _, _, -, rfl, -⟩ := h
    trivial

/-- To add what a line asks for lets the shop grow, if a new line is made. -/
theorem addRequest_grows (currency : String) (kc : KeptCart) (r : LineRequest) :
    Within Grows (addRequest currency kc r) := by
  refine .bind (.lift _) fun _ => .bind (.lift _) fun _ => .bind (.lift _) fun extended => ?_
  split
  · exact .pure _
  · exact withNewLine_grows _ _ _ _ _

/-- An identifier that decodes to a text decodes to that text. -/
theorem asText_decodeValue {v id : Value} {t : String} (hid : Gid.decodeValue v = .ok id)
    (ht : id.asText = .ok t) : Gid.decodeValue v = .ok (.text t) := by
  cases id with
  | text s => rwa [show t = s by simpa using ht.symm]
  | _ => cases ht

/-- To add what a line asks for relines the cart. -/
theorem addRequest_along {currency : String} {kc kc' : KeptCart} {r : LineRequest} {s s' : Shop}
    (hq : 1 ≤ r.quantity) (h : Act.on (addRequest currency kc r) s = (.ok kc', s')) :
    kc.Along (Relined s s') kc' := by
  simp only [addRequest, Act.on_bind_eq_ok, Act.on_lift, Prod.mk.injEq] at h
  obtain ⟨id, _, ⟨hid, rfl⟩, variant, _, ⟨hv, rfl⟩, extended, _, ⟨he, rfl⟩, h⟩ := h
  split at h
  · -- A line has the variant, and is extended.
    rename_i kc₁
    obtain ⟨rfl, rfl⟩ : kc₁ = kc' ∧ s = s' := by simpa using h
    exact extend?_along hq he s
  · -- No line has it: the variant is decoded, so the new line is raw.
    refine withNewLine_along ?_ hq ?_ h
    · exact Gid.decode_of_decodeValue (asText_decodeValue hid hv)
    · rintro c rfl
      exact extend?_eq_none he

/-- The action works out a cart from another by a change of one of its parts. -/
structure IsEdit (kc : KeptCart) (change : Act Shop (Option KeptCart)) : Prop where
  grows : Within Grows change
  along {s s' : Shop} {kc' : KeptCart} (h : Act.on change s = (.ok (some kc'), s')) :
    kc.Along (fun c c' => Edited s c s' c') kc'

/-- Adding lines to a cart changes nothing of it but its lines. -/
theorem withAdditions_along {country : Value} {lines : List Value} {kc kc' : KeptCart} {s s' : Shop}
    (h : Act.on (withAdditions country lines kc) s = (.ok (some kc'), s')) :
    kc.Along (Relined s s') kc' := by
  obtain ⟨requests, s₀, hr, h⟩ := Act.on_bind_eq_ok.1 h
  obtain ⟨hrs, rfl⟩ : requestsOf _ lines = .ok requests ∧ s = s₀ := by simpa using hr
  split at h
  · simp at h
  · rename_i rs
    simp only [Act.on_bind_eq_ok, Act.on_lift, Act.on_pure, Prod.mk.injEq, Except.ok.injEq,
      Option.some.injEq] at h
    obtain ⟨_, _, ⟨-, rfl⟩, kc₁, s₁, hfold, rfl, rfl⟩ := h
    -- Each request relines the cart as the ones before it left it.
    exact Act.foldlM_ok (V := fun kc₁ s₁ => kc.Along (Relined s s₁) kc₁)
      (fun r mem _ _ _ _ sofar h => sofar.trans (addRequest_along (requestsOf_ok hrs r mem) h)
        fun _ _ _ => Relined.trans) (along_refl s kc) hfold

/-- Adding lines is an edit. -/
theorem withAdditions_isEdit (country : Value) (lines : List Value) (kc : KeptCart) :
    IsEdit kc (withAdditions country lines kc) where
  grows := by
    refine .bind (.lift _) fun requests => ?_
    split
    · exact .pure _
    · exact .bind (.lift _) fun _ => .bind (.foldlM (addRequest_grows _) _ _) fun _ => .pure _
  along h := (withAdditions_along h).mono fun _ _ => .relined

/-- A change that only works with the cart leaves the shop alone. -/
theorem IsEdit.lift {kc : KeptCart} {e : Except Fault (Option KeptCart)}
    (h : ∀ kc', e = .ok (some kc') → ∀ s, kc.Along (fun c c' => Edited s c s c') kc') :
    IsEdit kc (liftM e) where
  grows := .lift e
  along {s s' kc'} h' := by
    obtain ⟨rfl, rfl⟩ : e = .ok (some kc') ∧ s = s' := by simpa using h'
    exact h kc' rfl s

/-- A line that is not found is not updated. -/
theorem updateRequest_along {kc kc' : KeptCart} {r : LineRequest} (hq : 1 ≤ r.quantity)
    (h : updateRequest kc r = .ok kc') (s : Shop) : kc.Along (Relined s s) kc' := by
  simp only [updateRequest, Act.except_bind_eq_ok] at h
  obtain ⟨_, -, id, -, extended, he, h⟩ := h
  obtain rfl := Except.ok.inj h
  cases extended with
  | none => exact along_refl s kc
  | some kc₁ => exact extend?_along hq he s

/-- Updating lines relines the cart, by induction over what they ask for. -/
theorem updated_along {rs : List LineRequest} (hrs : ∀ r ∈ rs, 1 ≤ r.quantity) {kc kc' : KeptCart}
    (h : updated kc rs = .ok kc') (s : Shop) : kc.Along (Relined s s) kc' := by
  induction rs generalizing kc with
  | nil =>
    obtain rfl := Except.ok.inj h
    exact along_refl s kc
  | cons r rs ih =>
    rw [updated, List.foldlM_cons, Act.except_bind_eq_ok] at h
    obtain ⟨kc₁, h₁, h⟩ := h
    obtain ⟨hr, hrs⟩ := List.forall_mem_cons.1 hrs
    exact (updateRequest_along hr h₁ s).trans (ih hrs h) fun _ _ _ => Relined.trans

/-- Updating lines changes nothing of a cart but its lines. -/
theorem withUpdates_along {lines : List Value} {kc kc' : KeptCart}
    (h : withUpdates lines kc = .ok (some kc')) (s : Shop) : kc.Along (Relined s s) kc' := by
  obtain ⟨requests, hr, h⟩ := Act.except_bind_eq_ok.1 h
  split at h
  · cases h
  · obtain ⟨kc₁, hu, h⟩ := Act.except_bind_eq_ok.1 h
    obtain rfl := Option.some.inj (Except.ok.inj h)
    exact updated_along (requestsOf_ok hr) hu s

/-- Updating lines is an edit, in which the shop stays as it is. -/
theorem withUpdates_isEdit (lines : List Value) (kc : KeptCart) :
    IsEdit kc (withUpdates lines kc) :=
  .lift fun _ h s => (withUpdates_along h s).mono fun _ _ => .relined

/-- Removing lines changes nothing of a cart but its lines. -/
theorem withRemovals_along {lineIds : List Value} {kc kc' : KeptCart}
    (h : withRemovals lineIds kc = .ok (some kc')) (s : Shop) : kc.Along (Relined s s) kc' := by
  rw [withRemovals] at h
  split at h
  · cases h
  · -- Lines are dropped, so the cart is the same with fewer of them.
    simp only [Act.except_bind_eq_ok] at h
    obtain ⟨removed, -, kc₁, hw, h⟩ := h
    obtain rfl := Option.some.inj (Except.ok.inj h)
    cases kc with
    | made c =>
      obtain rfl := Except.ok.inj hw
      exact ⟨_, .single (.drop s _ c.lines), rfl⟩
    | given v =>
      obtain ⟨_, -, rfl⟩ := Act.except_map_eq_ok.1 hw
      trivial

/-- Removing lines is an edit, in which the shop stays as it is. -/
theorem withRemovals_isEdit (lineIds : List Value) (kc : KeptCart) :
    IsEdit kc (withRemovals lineIds kc) :=
  .lift fun _ h s => (withRemovals_along h s).mono fun _ _ => .relined

/-- Setting the note is an edit. -/
theorem withNote_isEdit (note : Value) (kc : KeptCart) :
    IsEdit kc (some <$> liftM (kc.withNote note)) := by
  -- Setting a note reads nothing, so the answer is the cart itself.
  rw [show some <$> liftM (kc.withNote note) = (liftM (some <$> kc.withNote note) : Act Shop _) by
    cases kc.withNote note <;> rfl]
  refine .lift fun kc' h s => ?_
  obtain ⟨kc₁, hw, hk⟩ := Act.except_map_eq_ok.1 h
  obtain rfl := Option.some.inj hk
  cases kc with
  | made c =>
    obtain rfl := Except.ok.inj hw
    exact .noted note
  | given v =>
    obtain ⟨_, -, rfl⟩ := Act.except_map_eq_ok.1 hw
    trivial

/-- Setting an attribute is an edit, unless it has no key. -/
theorem withAttribute_isEdit (key value : Value) (kc : KeptCart) :
    IsEdit kc (withAttribute key value kc) := by
  refine .lift fun kc' h s => ?_
  rw [withAttribute] at h
  split at h
  · cases h
  · -- Both parts of the attribute were given.
    obtain ⟨kc₁, hw, h⟩ := Act.except_bind_eq_ok.1 h
    obtain rfl := Option.some.inj (Except.ok.inj h)
    cases kc with
    | made c =>
      obtain rfl := Except.ok.inj hw
      exact .attributed _
    | given v =>
      obtain ⟨_, -, h⟩ := Act.except_bind_eq_ok.1 hw
      obtain rfl := Except.ok.inj h
      trivial

/-- Setting discount codes is an edit, unless there is none. -/
theorem withDiscount_isEdit (codes : List Value) (kc : KeptCart) :
    IsEdit kc (withDiscount codes kc) := by
  refine .lift fun kc' h s => ?_
  -- Without any code the change is turned down; the first of them counts.
  cases codes with
  | nil => cases h
  | cons code codes =>
    obtain ⟨kc₁, hw, hk⟩ := Act.except_map_eq_ok.1 h
    obtain rfl := Option.some.inj hk
    cases kc with
    | made c =>
      obtain rfl := Except.ok.inj hw
      exact .discounted code
    | given v =>
      obtain ⟨_, -, rfl⟩ := Act.except_map_eq_ok.1 hw
      trivial

/-! ### Keeping carts -/

/-- A cart that is found is one of the shop's own, or came from outside. -/
theorem cart?_cases {s : Shop} {k : String} {kc : KeptCart} (h : s.cart? k = some kc) :
    (∃ c, kc = .made c ∧ s.HasCart k c) ∨ (∃ v, kc = .given v) ∧ s.HasGiven k := by
  cases kc with
  | made c => exact .inl ⟨c, rfl, cart?_eq_made.1 h⟩
  | given v => exact .inr ⟨⟨v, rfl⟩, hasGiven_of_cart? h⟩

/-- A value from outside may be kept again, whatever it has become. -/
theorem Grows.given {s s' : Shop} (h : Grows s s') {k : String} (hk : s.HasGiven k) (v : Value) :
    Steps s (s'.withEntity Gid.cartPrefix (.text k) (.record v)) :=
  h.sideSteps.steps.tail (.given ((h.keeps.hasGiven_iff k).2 hk) v)

/-- To find a cart does no step at all. -/
theorem findCart_steps (id : Value) : Within Steps (findCart id) := .of_eq (findCart_reads id)

/-- To look for a cart does no step at all. -/
theorem hasCart_steps (id : Value) : Within Steps (hasCart id) := .of_eq (hasCart_reads id)

/-- To price a cart again is one step: it is kept with its new amounts. -/
theorem repriceCart_steps (id : String) (country : Value) :
    Within Steps (repriceCart id country) := by
  refine .bind_of_on (findCart_steps _) fun found _ s h => ?_
  split
  · exact .refl
  · rename_i k kc
    obtain ⟨-, -, hkc, rfl⟩ := findCart_eq_some.1 h
    rw [Act.on_bind, Act.on_lift]
    cases kc.countryFor country with
    | error e => exact .refl
    | ok key =>
      -- If pricing fails, variants may have been made up, but nothing is kept.
      refine Act.on_bind_snd (fun _ _ h => ((priced_grows _ _).of_on h).sideSteps.steps)
        fun kc' s₁ h => ?_
      have grown : Grows _ s₁ := (priced_grows _ _).of_on h
      have along := priced_along h
      show Steps _ (s₁.withEntity Gid.cartPrefix (.text k) kc'.toEntity)
      -- The shop's own cart is priced; a value from outside stays one.
      obtain ⟨c, rfl, hc⟩ | ⟨⟨v, rfl⟩, hg⟩ := cart?_cases hkc
      · cases kc' with
        | made c' => exact .single (.priced hc grown along)
        | given v => exact along.elim
      · cases kc' with
        | made c' => exact along.elim
        | given v' => exact grown.given hg v'

/-- A cart is changed at the time of its change. -/
theorem changedAt_eq_ok {now : String} {kc kc' : KeptCart} (h : kc.changedAt now = .ok kc') :
    kc.Along (fun c c' => c' = { c with updatedAt := now }) kc' := by
  cases kc with
  | made c =>
    obtain rfl := Except.ok.inj h
    rfl
  | given v =>
    obtain ⟨_, -, rfl⟩ := Act.except_map_eq_ok.1 h
    trivial

/-- Keeping a changed cart is a step, for which the shop may have grown. -/
theorem commit_steps {s s₁ : Shop} {k : String} {kc changed : KeptCart} (hkc : s.cart? k = some kc)
    (grown : Grows s s₁) (along : kc.Along (fun c c' => Edited s c s₁ c') changed)
    (country : Value) :
    Steps s (Act.on (commit k changed country) s₁).2 := by
  simp only [commit, Act.on_bind, on_timestamp, Act.on_lift]
  cases hnow : changed.changedAt s₁.supply.timestamp with
  -- If the time cannot be noted, the cart is not kept.
  | error e => exact grown.sideSteps.steps
  | ok kc' =>
    -- Keeping the cart is one step, whatever comes of repricing it.
    refine .trans ?_ (repriceCart_steps k country _)
    have dated := changedAt_eq_ok hnow
    obtain ⟨c, rfl, hc⟩ | ⟨⟨v, rfl⟩, hg⟩ := cart?_cases hkc
    · cases changed with
      | made c₁ =>
        cases kc' with
        | made c' =>
          obtain rfl := dated
          exact .single (.edited hc along _)
        | given v => exact dated.elim
      | given v => exact along.elim
    · cases kc' with
      | made c' => cases changed <;> first | exact along.elim | exact dated.elim
      | given v' => exact grown.given hg v'

/-- An edit is made of steps, whether or not it finds a cart and whether or not its change succeeds.
-/
theorem editCart_steps {id country : Value} {listed : Except Fault (List Value)}
    {change : List Value → KeptCart → Act Shop (Option KeptCart)}
    (hchange : ∀ l kc, IsEdit kc (change l kc)) :
    Within Steps (editCart id country listed change) := by
  refine .bind_of_on (findCart_steps _) fun found s₀ s h => ?_
  rw [Act.on_bind, Act.on_lift]
  cases listed with
  | error e => exact .refl
  | ok l =>
    cases found with
    | none => exact .refl
    | some found =>
      obtain ⟨k, kc⟩ := found
      obtain ⟨-, -, hkc, rfl⟩ := findCart_eq_some.1 h
      have edit := hchange l kc
      -- A change that fails may have made up variants on its way.
      refine Act.on_bind_snd (fun _ _ h => (edit.grows.of_on h).sideSteps.steps)
        fun changed s₁ h => ?_
      cases changed with
      | none => exact (edit.grows.of_on h).sideSteps.steps
      | some changed => exact commit_steps hkc (edit.grows.of_on h) (edit.along h) country

/-! ### The operations on carts -/

/-- The identifier of a new cart is raw. -/
theorem decode_of_freshId {s s' : Shop} {k : String}
    (h : Act.on (freshId Gid.cartPrefix) s = (.ok k, s')) : Gid.decode k = k := by
  obtain ⟨_, t, -, -, -, rfl⟩ := freshId_ok (by decide) h
  exact Gid.decode_of_isRaw (Gid.isRaw_kindPrefix_append _ _)

/-- To create a cart is one step, after what is drawn for its identifier. -/
theorem createCart_steps (country given : Value) : Within Steps (createCart country given) := by
  unfold createCart
  refine .bind (.lift _) fun country => ?_
  split
  · exact .pure _
  · refine .bind_of_on (.lift _) fun id s s₀ hid => ?_
    extract_lets currency make
    obtain ⟨hdec, rfl⟩ : Gid.decodeValue given = .ok id ∧ s = s₀ := by simpa using hid
    -- The cart is kept under its identifier, which is decoded whether it is given or new.
    have hmake : ∀ k, Gid.decode k = k → Within Steps (make k) := fun k hk =>
      .bind (.map _ (.lift _)) fun _ => .bind (fun _ => .refl) fun _ => .bind .get fun _ =>
        .bind (fun s => .single (.made s hk rfl rfl rfl rfl)) fun _ => .pure _
    split
    · -- The identifier is given, and decoded.
      refine Act.Within.bind_of_on (.lift _) (fun k s₁ s₂ hk => ?_) s
      obtain ⟨ht, -⟩ : id.asText = .ok k ∧ s₁ = s₂ := by simpa using hk
      exact hmake _ (Gid.decode_of_decodeValue (asText_decodeValue hdec ht)) s₂
    · -- The identifier is new.
      refine Act.Within.bind_of_on ((freshId_draws _).mono fun _ _ h => h.grows.sideSteps.steps)
        (fun k s₁ s₂ hk => ?_) s
      exact hmake _ (decode_of_freshId hk) s₂

/-- To move a cart to a country is to price it again, if it is there. -/
theorem setCountry_steps (id country : Value) : Within Steps (setCountry id country) := by
  refine .bind (hasCart_steps _) fun known => ?_
  split
  · exact .pure _
  · exact .bind (.lift _) fun _ => .bind (.lift _) fun _ => repriceCart_steps _ _

/-- To read a cart is to move it. -/
theorem getCart_steps (id country : Value) : Within Steps (getCart id country) :=
  setCountry_steps id country

/-- To remove lines is made of steps. -/
theorem removeLines_steps (id country lineIds : Value) :
    Within Steps (removeLines id country lineIds) :=
  editCart_steps withRemovals_isEdit

/-- To empty a cart is to read it, and to remove the lines that it has. -/
theorem emptyCart_steps (id country : Value) : Within Steps (emptyCart id country) := by
  refine .bind (getCart_steps _ _) fun cart => ?_
  split
  · exact .pure _
  · refine .bind (.lift _) fun lineIds => ?_
    split
    · exact .pure _
    · exact .bind (removeLines_steps _ _ _) fun _ => .pure _

end Storefront.Shop
