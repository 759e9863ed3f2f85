import Storefront.Proofs.SideOperationSpec

/-! # What the operations on carts give

In a shop without values from outside every cart is one of the shop's own.  The operations on carts
keep it so, fail with tame faults only, and answer with clean carts if values are asked to be clean.
That a new line can be sent asks for variants whose raw identifiers can be. -/

namespace Storefront

open Text (Sendable)
open Act (Gives)

variable {strict : Prop}

/-- A cart of the shop's own, with clean data if they are asked to be. -/
def KeptCart.Fit (strict : Prop) : KeptCart → Prop
  | .made c => strict → c.Clean
  | .given _ => False

namespace KeptCart

variable {kc : KeptCart}

/-- The record of a fit cart is fit. -/
theorem Fit.toValue (h : kc.Fit strict) : kc.toValue.Fit strict := by
  cases kc with
  | made c => exact fun hs => (h hs).toValue
  | given v => exact h.elim

/-- A cart is answered as a record. -/
theorem Fit.not_null (h : kc.Fit strict) : kc.toValue.isNull = false := by
  cases kc with
  | made c => rfl
  | given v => exact h.elim

/-- The country that a cart is priced for is the one that is asked for, or its own. -/
theorem Fit.countryFor (h : kc.Fit strict) {country : Value} (hc : country.Fit strict) :
    Yields strict (kc.countryFor country) fun k => k.toValue.Fit strict := by
  cases kc with
  | given v => exact h.elim
  | made c =>
    simp only [KeptCart.countryFor]
    split
    · exact (Value.yields_asKey country).mono fun k hk => hk ▸ hc
    · exact fun hs => (h hs).country

/-- The time of a change is a text of digits and punctuation, so the cart stays clean. -/
theorem Fit.changedAt (h : kc.Fit strict) {now : String} (hnow : Sendable now.toList) :
    Yields strict (kc.changedAt now) (Fit strict) := by
  cases kc with
  | given v => exact h.elim
  | made c => exact fun hs => { h hs with updatedAt := hnow }

/-- A note is as clean as what is given for it. -/
theorem Fit.withNote (h : kc.Fit strict) {note : Value} (hn : note.Fit strict) :
    Yields strict (kc.withNote note) (Fit strict) := by
  cases kc with
  | given v => exact h.elim
  | made c => exact fun hs => { h hs with note := hn hs }

/-- An attribute of a cart after one was set is that one, or was there before. -/
theorem mem_setAttribute {a b : Attribute} {as : List Attribute}
    (h : b ∈ Cart.setAttribute a as) : b = a ∨ b ∈ as := by
  induction as with
  | nil => exact .inl (List.mem_singleton.1 h)
  | cons c as ih =>
    rw [Cart.setAttribute] at h
    split at h
    · exact (List.mem_cons.1 h).imp_right (.tail _)
    · rcases List.mem_cons.1 h with rfl | h
      · exact .inr (.head _)
      · exact (ih h).imp_right (.tail _)

/-- Setting a clean attribute keeps a cart clean. -/
theorem Fit.withAttribute (h : kc.Fit strict) {a : Attribute} (ha : strict → a.Clean) :
    Yields strict (kc.withAttribute a) (Fit strict) := by
  cases kc with
  | given v => exact h.elim
  | made c =>
    refine fun hs => { h hs with attributes := fun b hb => ?_ }
    rcases mem_setAttribute hb with rfl | hb
    · exact ha hs
    · exact (h hs).attributes b hb

/-- Setting a clean discount code keeps a cart clean. -/
theorem Fit.withDiscount (h : kc.Fit strict) {d : AppliedCode} (hd : d.code.Fit strict) :
    Yields strict (kc.withDiscount d) (Fit strict) := by
  cases kc with
  | given v => exact h.elim
  | made c =>
    refine fun hs => { h hs with discount := fun d' hd' => ?_ }
    obtain rfl := Option.some.inj hd'
    exact hd hs

/-- Removing lines leaves fewer to be clean. -/
theorem Fit.without (h : kc.Fit strict) (ids : List String) :
    Yields strict (kc.without ids) (Fit strict) := by
  cases kc with
  | given v => exact h.elim
  | made c =>
    exact fun hs => { h hs with lines := fun l hl => (h hs).lines l (List.mem_of_mem_filter hl) }

/-- A line that is extended stays clean. -/
theorem clean_extended {l : Line} (h : l.Clean) (quantity : Int) {attributes : List Value}
    (ha : ∀ a ∈ attributes, a.Clean) : (Cart.extended l quantity attributes).Clean :=
  { h with attributes := List.forall_mem_append.2 ⟨h.attributes, ha⟩ }

/-- A line that is extended is extended by attributes that are given; if none is found, nothing is
answered. -/
theorem Fit.extend? (h : kc.Fit strict) (idOf : Line → String)
    (idOfEdge : Value → Except Fault Value) (id : String) (quantity : Int) {attributes : Value}
    (ha : attributes.Fit strict) :
    Yields strict (kc.extend? idOf idOfEdge id quantity attributes) fun extended =>
      ∀ kc', extended = some kc' → kc'.Fit strict := by
  cases kc with
  | given v => exact h.elim
  | made c =>
    simp only [KeptCart.extend?]
    split
    · -- No line has the identifier.
      exact fun _ h => by cases h
    · refine ha.elements.bind fun as has => ?_
      rintro _ ⟨rfl⟩ hs
      refine { h hs with lines := fun l hl => ?_ }
      rcases Cart.mem_replaceFirst hl with hl | ⟨l₀, hl₀, rfl⟩
      · exact (h hs).lines l hl
      · exact clean_extended ((h hs).lines l₀ hl₀) quantity fun a ha => has a ha hs

end KeptCart

namespace Shop

/-! ### Finding, keeping and pricing -/

/-- A cart that is found was kept, so it is the shop's own. -/
theorem findCart_gives (id : Value) :
    Gives (Kept strict) strict (findCart id) fun found =>
      ∀ p, found = some p → p.2.Fit strict := by
  refine (Gives.lift (Gid.yields_decodeValue id)).bind fun id _ => ?_
  -- An entry of this kind is a cart.
  split
  · exact .pure fun _ h => by cases h
  · refine (Gives.lift (Value.yields_asText id)).bind fun k _ => (find?_gives _ _).bind
      fun found hfound => .pure ?_
    rintro p hp
    cases found with
    | none => cases hp
    | some e =>
      obtain ⟨c, rfl, hc⟩ := (hfound e rfl).exists_cart
      obtain rfl := Option.some.inj hp
      exact hc

/-- To look for a cart fails with tame faults only. -/
theorem hasCart_gives (id : Value) :
    Gives (Kept strict) strict (hasCart id) fun _ => True := by
  refine (Gives.lift (Gid.yields_decodeValue id)).bind fun id _ => ?_
  split
  · exact .pure trivial
  · exact (Gives.lift (Value.yields_asKey id)).bind fun k _ => has_gives _ _

/-- A cart that is fit may be kept. -/
theorem keepCart_gives (id : String) {kc : KeptCart} (h : kc.Fit strict) :
    Gives (Kept strict) strict (keepCart id kc) fun _ => True := by
  cases kc with
  | given v => exact h.elim
  | made c =>
    have fit : Entity.Fit strict Gid.cartPrefix (.cart c) := ⟨rfl, h⟩
    exact keep_gives _ fit

/-- Currencies are a fixed table of short texts. -/
theorem sendable_currency (country : Key) : Sendable (Market.ofKey country).currency.toList := by
  have table : ∀ p ∈ Market.table, Sendable p.2.currency.toList := by
    rw [← List.forall_iff_forall_mem]
    decide
  rw [Market.ofKey]
  cases h : Assoc.get? Market.table country with
  | none => exact (by decide : Sendable "EUR".toList)
  | some m =>
    obtain ⟨k, -, hm⟩ := Assoc.mem_of_get? h
    exact table _ hm

/-- Amounts are worked out of numbers; the only text is the currency of the market. -/
theorem amountsOf_gives (m : Market) {variant : Key} (hv : variant.toValue.Fit strict)
    (quantity : Int) :
    Gives (Kept strict) strict (amountsOf m variant (.ok (.int quantity))) fun _ => True :=
  (priceOf_gives hv).bind fun price _ =>
    (Gives.lift ((Value.yields_number price).map fun _ _ => trivial)).bind fun _ (_ : True) =>
    (Gives.lift (e := .ok _) (P := fun _ => True) trivial).bind fun q _ =>
    (Gives.lift (Value.yields_number q)).bind fun _ _ => .pure trivial

/-- A line that is priced gets clean amounts, and nothing else changes of it. -/
theorem priceLine_gives {m : Market} (hm : Sendable m.currency.toList) {sofar : Priced Line}
    (hsofar : strict → ∀ l ∈ sofar.lines, l.Clean) {l : Line} (hl : strict → l.Clean) :
    Gives (Kept strict) strict (priceLine m sofar l) fun p => strict → ∀ l ∈ p.lines, l.Clean := by
  have fit : (Key.text l.variant).toValue.Fit strict := Value.fit_text fun hs => (hl hs).variant
  refine (amountsOf_gives m fit l.quantity).bind fun amounts _ => .pure fun hs => ?_
  refine List.forall_mem_append.2 ⟨hsofar hs, List.forall_mem_singleton.2 ?_⟩
  exact { hl hs with
    subtotal := Money.clean_of _ hm, total := Money.clean_of _ hm, price := Money.clean_of _ hm }

/-- A cart that is priced stays fit: its lines are, and its amounts are made anew. -/
theorem priced_gives {country : Key} (hc : country.toValue.Fit strict) {kc : KeptCart}
    (h : kc.Fit strict) :
    Gives (Kept strict) strict (priced country kc) (KeptCart.Fit strict) := by
  cases kc with
  | given v => exact h.elim
  | made c =>
    have currency := sendable_currency country
    -- The lines are priced from left to right; the sum so far is only a number.
    have lines : Gives (Kept strict) strict
        (c.lines.foldlM (priceLine (Market.ofKey country)) ⟨[], 0⟩)
        fun p => strict → ∀ l ∈ p.lines, l.Clean :=
      .foldlM (fun _ _ hl => absurd hl List.not_mem_nil) fun l hl sofar hsofar =>
        priceLine_gives currency hsofar fun hs => (h hs).lines l hl
    refine lines.bind fun p hp => .pure fun hs => ?_
    exact { h hs with
      country := hc hs, lines := hp hs, total := Money.clean_of _ currency
      subtotal := Money.clean_of _ currency
      tax := fun m hm => Option.some.inj hm ▸ Money.clean_of _ currency }

/-- To price a kept cart again keeps it fit. -/
theorem repriceCart_gives (id : String) {country : Value} (hc : country.Fit strict) :
    Gives (Kept strict) strict (repriceCart id country) fun cart =>
      ∀ kc, cart = some kc → kc.Fit strict := by
  refine (findCart_gives _).bind fun found hfound => ?_
  cases found with
  | none => exact .pure fun _ h => by cases h
  | some p =>
    have hkc := hfound p rfl
    refine (Gives.lift (hkc.countryFor hc)).bind fun key hkey => (priced_gives hkey hkc).bind
      fun kc hpriced => (keepCart_gives _ hpriced).bind fun _ _ => .pure ?_
    rintro _ ⟨rfl⟩
    exact hpriced

/-- To put an edit in effect keeps a fit cart. -/
theorem commit_gives (id : String) {kc : KeptCart} (h : kc.Fit strict) {country : Value}
    (hc : country.Fit strict) :
    Gives (Kept strict) strict (commit id kc country) fun cart =>
      ∀ kc, cart = some kc → kc.Fit strict :=
  timestamp_gives.bind fun _ hnow => (Gives.lift (h.changedAt hnow)).bind fun _ hdated =>
    (keepCart_gives id hdated).bind fun _ _ => repriceCart_gives id hc

/-- An edit gives a fit cart if its change does, for what is listed. -/
theorem editCart_gives (id : Value) {country : Value} (hc : country.Fit strict)
    {listed : Except Fault (List Value)} {L : List Value → Prop} (hlisted : Yields strict listed L)
    {change : List Value → KeptCart → Act Shop (Option KeptCart)}
    (hchange : ∀ l, L l → ∀ kc : KeptCart, kc.Fit strict →
      Gives (Kept strict) strict (change l kc) fun cart => ∀ kc, cart = some kc → kc.Fit strict) :
    Gives (Kept strict) strict (editCart id country listed change) fun cart =>
      ∀ kc, cart = some kc → kc.Fit strict := by
  -- First the cart is found, then the arguments are listed; nothing is written before the commit.
  refine (findCart_gives id).bind fun found hfound => (Gives.lift hlisted).bind fun l hl => ?_
  cases found with
  | none => exact .pure fun _ h => by cases h
  | some p =>
    refine (hchange l hl p.2 (hfound p rfl)).bind fun changed hchanged => ?_
    cases changed with
    | none => exact .pure fun _ h => by cases h
    | some kc => exact commit_gives p.1 (hchanged kc rfl) hc

/-! ### Making and reading -/

/-- The identifier that is given may be raw: whether it can then be sent is checked. -/
theorem createCart_gives {country given : Value} (hc : country.Fit strict)
    (hgiven : strict → ∀ s, given = .text s → Gid.isRaw s = false → Sendable s.toList) :
    Gives (Kept strict) strict (createCart country given) fun cart =>
      ∀ c, cart = some c → strict → c.Clean := by
  unfold createCart
  refine (Gives.lift (Value.yields_asKey country)).bind fun country hcountry => ?_
  subst hcountry
  -- A country without a market is answered with no cart.
  split
  · exact .pure fun _ h => by cases h
  · refine (Gives.lift (Gid.yields_decodeValue given)).bind fun id hid => ?_
    extract_lets currency make
    have hmake : ∀ k, (strict → Gid.isRaw k = false → Sendable k.toList) →
        Gives (Kept strict) strict (make k) fun cart => ∀ c, cart = some c → strict → c.Clean := by
      intro k hk
      have travels : Gives (Kept strict) strict (discard <| liftM (Gid.encodeText k)) fun _ =>
          strict → Sendable k.toList :=
        (Gives.lift (Gid.yields_encodeText k)).map fun _ ht hs => by
          -- A raw identifier was encoded, so it can be sent; any other is as given.
          cases hr : Gid.isRaw k with
          | true => exact ht.2 hr
          | false => exact hk hs hr
      refine travels.bind fun _ hid => timestamp_gives.bind fun now hnow => Gives.get.bind
        fun s hs => ?_
      have hcurrency : Sendable currency.toList := sendable_currency country
      have fit : KeptCart.Fit strict (.made {
          id := k, createdAt := now, updatedAt := now
          checkoutUrl := "https://" ++ s.context.shopBaseUrl.display ++ "/cart/c/" ++
            Gid.dropStart Gid.cartPrefix k
          country, attributes := [], discount := none, note := "", lines := []
          total := Money.zero currency, subtotal := Money.zero currency, tax := none }) := by
        intro hstrict
        refine ⟨hid hstrict, hnow, hnow, ?_, hc hstrict, fun _ h => absurd h List.not_mem_nil,
          nofun, .text (by decide), fun _ h => absurd h List.not_mem_nil,
          Money.clean_zero hcurrency, Money.clean_zero hcurrency, nofun⟩
        exact .append_text (.append_text (.append_text (by decide) (hs.clean hstrict).base)
          (by decide)) (Gid.sendable_dropStart _ (hid hstrict))
      refine (keepCart_gives k fit).bind fun _ _ => .pure fun c h => ?_
      obtain rfl := Option.some.inj h
      exact fit
    split
    · rename_i ht
      -- The identifier that was given is decoded, which leaves it alone unless it is raw.
      refine (Gives.lift (Value.yields_asText id)).bind fun k hk => hmake k fun hs hr => ?_
      rcases hid with ⟨t, rfl, rfl⟩ | ⟨hf, rfl⟩
      · obtain rfl : Gid.decode t = k := Value.text.inj hk
        have same : Gid.decode t = t := Gid.decode_eq_self hr
        rw [same] at hr ⊢
        exact hgiven hs t rfl hr
      · rw [hf] at ht
        cases ht
    · exact (freshId_gives (by decide) (by decide)).bind fun k hk => hmake k fun hs _ => hk hs

/-- To move a cart to a country keeps it fit. -/
theorem setCountry_gives (id : Value) {country : Value} (hc : country.Fit strict) :
    Gives (Kept strict) strict (setCountry id country) fun cart =>
      ∀ kc, cart = some kc → kc.Fit strict := by
  refine (hasCart_gives id).bind fun known _ => ?_
  split
  · exact .pure fun _ h => by cases h
  · exact (Gives.lift (Gid.yields_decodeValue id)).bind fun v _ =>
      (Gives.lift (Value.yields_asText v)).bind fun k _ => repriceCart_gives k hc

/-- To read a cart is to move it to a country, or to none. -/
theorem getCart_gives (id : Value) {country : Value} (hc : country.Fit strict) :
    Gives (Kept strict) strict (getCart id country) fun cart =>
      ∀ kc, cart = some kc → kc.Fit strict := setCountry_gives id hc

/-! ### Lines -/

/-- A quantity that is no number is answered as none; only an infinite one fails. -/
theorem yields_quantityOf {line : Value} (h : line.Fit strict) :
    Yields strict (quantityOf line) fun _ => True := by
  refine (h.member "quantity").bind fun q _ => ?_
  split
  · trivial
  · exact Fault.tame_infiniteWhole
  · trivial

/-- The requests that lines make; what is known of their identifiers is known of those of the
requests. -/
theorem yields_lineRequests {idName : String} {I : Value → Prop} {lines : List Value}
    (hlines : ∀ line ∈ lines, line.Fit strict ∧ Yields strict (line.member idName) I) :
    Yields strict (lineRequests idName lines) fun requests =>
      ∀ rs, requests = some rs → ∀ r ∈ rs, I r.id ∧ r.attributes.Fit strict := by
  -- By induction over the lines; a line without an identifier or with too few pieces rejects them
  -- all.
  induction lines with
  | nil =>
    rintro _ ⟨rfl⟩ r hr
    exact absurd hr List.not_mem_nil
  | cons line lines ih =>
    obtain ⟨⟨hline, hid⟩, hlines⟩ := List.forall_mem_cons.1 hlines
    rw [lineRequests]
    refine hid.bind fun id hid => ?_
    split
    · exact fun _ h => by cases h
    · refine (yields_quantityOf hline).bind fun quantity _ => ?_
      split
      · exact fun _ h => by cases h
      · refine (hline.member "attributes").bind fun attributes ha => (ih hlines).bind
          fun rest hrest => ?_
        intro rs hrs
        obtain ⟨rs', rfl, rfl⟩ := Option.map_eq_some_iff.1 hrs
        exact List.forall_mem_cons.2 ⟨⟨hid, ha⟩, hrest rs' rfl⟩

/-- An empty list makes no requests. -/
theorem yields_requestsOf {idName : String} {I : Value → Prop} {lines : List Value}
    (hlines : ∀ line ∈ lines, line.Fit strict ∧ Yields strict (line.member idName) I) :
    Yields strict (requestsOf idName lines) fun requests =>
      ∀ rs, requests = some rs → ∀ r ∈ rs, I r.id ∧ r.attributes.Fit strict := by
  rw [requestsOf]
  split
  · exact fun _ h => by cases h
  · exact yields_lineRequests hlines

/-- A new line is clean if its variant's identifier can be sent: all else of it comes from records
of the shop. -/
theorem newLine_gives {variant : String} (hv : strict → Sendable variant.toList) (quantity : Int)
    {attributes : Value} (ha : attributes.Fit strict) {currency : String}
    (hc : Sendable currency.toList) :
    Gives (Kept strict) strict (newLine variant quantity attributes currency) fun l =>
      strict → l.Clean := by
  -- The record of the variant is read part by part, in the order of the code.
  refine (variantRecord_gives hv).bind fun record hrecord => ?_
  obtain ⟨v, rfl, hfit⟩ := hrecord
  refine (Gives.lift (yields_pictureOf hfit)).bind fun image himage =>
    (freshId_gives (by decide) (by decide)).bind fun id hid =>
    (Gives.lift (Gid.yields_encodeText id)).discard.bind fun _ _ =>
    (Gives.lift ha.elements).bind fun attributes has =>
    (Gives.lift (Gid.yields_encodeText variant)).discard.bind fun _ _ => ?_
  refine (Gives.lift (hfit.item _)).bind fun product hp =>
    (Gives.lift (Gid.yields_encodeValue hp)).bind fun product hp =>
    (Gives.lift (hfit.item _)).bind fun title ht => .pure fun hs => ?_
  have zero := Money.clean_zero hc
  exact ⟨hid hs, fun a h => has a h hs, zero, zero, hv hs, zero, hp hs, ht hs, himage hs⟩

/-- To add what one line asks for extends a line, or appends a new one. -/
theorem addRequest_gives {currency : String} (hc : Sendable currency.toList) {kc : KeptCart}
    (h : kc.Fit strict) {r : LineRequest} (hid : Gid.FitId strict r.id)
    (ha : r.attributes.Fit strict) :
    Gives (Kept strict) strict (addRequest currency kc r) (KeptCart.Fit strict) := by
  have attributes : (r.attributes.orElse (.list [])).Fit strict :=
    ha.orElse fun _ => Value.clean_list_nil
  refine (Gives.lift (Gid.yields_decodeValue r.id)).bind fun v hv =>
    (Gives.lift (Value.yields_asText v)).bind fun variant hvariant => ?_
  have sendable : strict → Sendable variant.toList := by
    intro hs
    rcases hv with ⟨s, hr, rfl⟩ | ⟨hf, rfl⟩
    · obtain rfl := Value.text.inj hvariant
      exact hid hs s hr
    · -- A falsy identifier that is a text is empty.
      rw [hvariant] at hf
      obtain rfl : variant = "" := by simpa using hf
      exact .nil
  refine (Gives.lift (h.extend? (·.variant) CartRecord.variantId variant r.quantity
    attributes)).bind
    fun extended hextended => ?_
  cases extended with
  -- A line has the variant already.
  | some kc' => exact .pure (hextended kc' rfl)
  -- No line has it, so one is made.
  | none =>
    cases kc with
    | given v => exact h.elim
    | made c =>
      refine (newLine_gives sendable r.quantity attributes hc).bind fun l hl => .pure fun hs => ?_
      exact { h hs with
        lines := List.forall_mem_append.2 ⟨(h hs).lines, List.forall_mem_singleton.2 (hl hs)⟩ }

/-- What is listed to be added: lines whose variants have raw identifiers that can be sent. -/
def IsAddable (strict : Prop) (lines : List Value) : Prop :=
  ∀ line ∈ lines, line.Fit strict ∧
    Yields strict (line.member "merchandiseId") (Gid.FitId strict)

/-- Adding lines gives a fit cart, by induction over what they ask for. -/
theorem withAdditions_gives {country : Value} (hc : country.Fit strict) {lines : List Value}
    (hlines : IsAddable strict lines) {kc : KeptCart} (h : kc.Fit strict) :
    Gives (Kept strict) strict (withAdditions country lines kc) fun cart =>
      ∀ kc, cart = some kc → kc.Fit strict := by
  refine (Gives.lift (yields_requestsOf hlines)).bind fun requests hrequests => ?_
  cases requests with
  | none => exact .pure fun _ h => by cases h
  | some rs =>
    refine (Gives.lift (h.countryFor hc)).bind fun key _ => ?_
    -- Each request is added to the cart that the one before left.
    refine (Gives.foldlM h fun r hr kc hkc => ?_).bind fun kc hkc => .pure ?_
    · obtain ⟨hid, ha⟩ := hrequests rs rfl r hr
      exact addRequest_gives (sendable_currency key) hkc hid ha
    · rintro _ ⟨rfl⟩
      exact hkc

/-- To add lines gives a fit cart. -/
theorem addLines_gives (id : Value) {country lines : Value} (hc : country.Fit strict)
    (hlines : Yields strict lines.elementsOrNone (IsAddable strict)) :
    Gives (Kept strict) strict (addLines id country lines) fun cart =>
      ∀ kc, cart = some kc → kc.Fit strict :=
  editCart_gives id hc hlines fun _ hl _ h => withAdditions_gives hc hl h

/-- Updating lines extends those that are found, and passes over the others. -/
theorem yields_updated {kc : KeptCart} (h : kc.Fit strict) {rs : List LineRequest}
    (hrs : ∀ r ∈ rs, r.attributes.Fit strict) :
    Yields strict (updated kc rs) (KeptCart.Fit strict) := by
  refine Yields.foldlM h fun r hr kc hkc => ?_
  refine (Gid.yields_decodeValue r.id).bind fun v _ => (Value.yields_asText v).bind fun id _ => ?_
  have attributes : (r.attributes.orElse (.list [])).Fit strict :=
    (hrs r hr).orElse fun _ => Value.clean_list_nil
  refine (hkc.extend? (·.id) CartRecord.lineId id r.quantity attributes).bind fun extended he => ?_
  cases extended with
  | none => exact hkc
  | some kc' => exact he kc' rfl

/-- To update lines gives a fit cart. -/
theorem updateLines_gives (id : Value) {country lines : Value} (hc : country.Fit strict)
    (hlines : lines.Fit strict) :
    Gives (Kept strict) strict (updateLines id country lines) fun cart =>
      ∀ kc, cart = some kc → kc.Fit strict := by
  refine editCart_gives id hc hlines.elementsOrNone fun l hl kc h => .lift ?_
  refine (yields_requestsOf fun line hline => ⟨hl line hline, (hl line hline).member "id"⟩).bind
    fun requests hrequests => ?_
  cases requests with
  | none => exact fun _ h => by cases h
  | some rs =>
    refine (yields_updated h fun r hr => (hrequests rs rfl r hr).2).bind fun kc hkc => ?_
    rintro _ ⟨rfl⟩
    exact hkc

/-- To remove lines gives a fit cart. -/
theorem removeLines_gives (id : Value) {country lineIds : Value} (hc : country.Fit strict)
    (hids : lineIds.Fit strict) :
    Gives (Kept strict) strict (removeLines id country lineIds) fun cart =>
      ∀ kc, cart = some kc → kc.Fit strict := by
  refine editCart_gives id hc hids.elementsOrNone fun l hl kc h => .lift ?_
  rw [withRemovals]
  split
  · exact fun _ h => by cases h
  · -- Each identifier is decoded, which fails with tame faults only.
    have removed : Yields strict (l.mapM fun v => do (← Gid.decodeValue v).asText)
        fun ids => ∀ id ∈ ids, True :=
      .mapM fun v _ => (Gid.yields_decodeValue v).bind fun w _ =>
        (Value.yields_asText w).mono fun _ _ => trivial
    refine removed.bind fun removed _ => (h.without removed).bind fun kc hkc => ?_
    rintro _ ⟨rfl⟩
    exact hkc

/-- To empty a cart fails with tame faults only. -/
theorem emptyCart_gives (id : Value) {country : Value} (hc : country.Fit strict) :
    Gives (Kept strict) strict (emptyCart id country) fun _ => True := by
  refine (getCart_gives id hc).bind fun cart hcart => ?_
  cases cart with
  | none => exact .pure trivial
  | some kc =>
    have hkc := hcart kc rfl
    cases kc with
    | given v => exact hkc.elim
    | made c =>
      refine (Gives.lift (e := .ok _) (P := fun ids => ∀ v ∈ ids, v.Fit strict) ?_).bind
        fun ids hids => ?_
      · intro v hv
        -- The identifiers are those of the cart's own lines.
        obtain ⟨l, hl, rfl⟩ := List.mem_map.1 hv
        exact Value.fit_text fun hs => ((hkc hs).lines l hl).id
      · split
        · exact .pure trivial
        · exact (removeLines_gives id hc (Value.fit_list hids)).bind fun _ _ => .pure trivial

/-! ### Notes, attributes and discount codes -/

/-- To set a note gives a fit cart. -/
theorem setNote_gives (id : Value) {country note : Value} (hc : country.Fit strict)
    (hn : note.Fit strict) :
    Gives (Kept strict) strict (setNote id country note) fun cart =>
      ∀ kc, cart = some kc → kc.Fit strict := by
  have text : (note.orElse "").Fit strict := hn.orElse (Value.fit_const (by decide))
  have listed : Yields strict (.ok []) fun _ : List Value => True := trivial
  refine editCart_gives id hc listed fun _ _ kc h =>
    (Gives.lift (h.withNote text)).map fun kc hkc => ?_
  rintro _ ⟨rfl⟩
  exact hkc

/-- To set an attribute gives a fit cart. -/
theorem setAttribute_gives (id : Value) {country key value : Value} (hc : country.Fit strict)
    (hk : key.Fit strict) (hv : value.Fit strict) :
    Gives (Kept strict) strict (setAttribute id country key value) fun cart =>
      ∀ kc, cart = some kc → kc.Fit strict := by
  have listed : Yields strict (.ok []) fun _ : List Value => True := trivial
  refine editCart_gives id hc listed fun _ _ kc h => .lift ?_
  rw [withAttribute]
  split
  · -- An attribute without a key is not set.
    exact fun _ h => by cases h
  · refine (h.withAttribute fun hs => ⟨hk hs, hv hs⟩).bind fun kc hkc => ?_
    rintro _ ⟨rfl⟩
    exact hkc

/-- To set discount codes gives a fit cart: the first of them counts. -/
theorem setDiscount_gives (id : Value) {country codes : Value} (hc : country.Fit strict)
    (hcodes : codes.Fit strict) :
    Gives (Kept strict) strict (setDiscount id country codes) fun cart =>
      ∀ kc, cart = some kc → kc.Fit strict := by
  refine editCart_gives id hc hcodes.elementsOrNone fun l hl kc h => .lift ?_
  cases l with
  | nil => exact fun _ h => by cases h
  | cons code rest =>
    refine (h.withDiscount (d := ⟨code, _⟩) (hl code (.head _))).map fun kc hkc => ?_
    rintro _ ⟨rfl⟩
    exact hkc

end Shop
end Storefront
