import Storefront.Proofs.CartCalls
import Storefront.Proofs.Failures

/-! # Reading carts through the service

Reading a cart prices it, and that fails for a cart that has more pieces of something than a double
can count.  The router answers such a failure with errors in place of the cart, and the service
takes them for the cart: `Service.readsCart_iff` says that it does so in no other case. -/

namespace Storefront

open Shop

/-- The quantities of all lines can be counted in doubles. -/
def Cart.Countable (c : Cart) : Prop := ∀ l ∈ c.lines, Decimal.ofInt? l.quantity ≠ none

namespace Shop

variable {s : Shop} {id : Value} {k : String} {country : Value} {key : Key} {c : Cart}

/-! ### Moving carts between markets -/

/-- A cart that is kept is the one that its identifier names. -/
theorem on_hasCart (hid : Names id k) (hc : s.HasCart k c) :
    Act.on (hasCart id) s = (.ok true, s) := by
  have named : (Value.text k).truthy = true := by simpa using hid.ne_empty
  rw [hasCart, hid.decoded, Act.on_bind_of_ok (Act.on_lift _ s), named]
  exact congrArg (fun e : Option Entity => ((Except.ok e.isSome, s) : Except Fault Bool × Shop)) hc

/-- A cart that is not known is not moved. -/
theorem on_setCountry_of_unknown (h : Act.on (hasCart id) s = (.ok false, s)) :
    Act.on (setCountry id country) s = (.ok none, s) := by
  rw [setCountry, Act.on_bind_of_ok h]
  rfl

/-- A cart that is known is moved by repricing it. -/
theorem on_setCountry (hid : Names id k) (hc : s.HasCart k c) :
    Act.on (setCountry id country) s = Act.on (repriceCart k country) s := by
  rw [setCountry, Act.on_bind_of_ok (on_hasCart hid hc), hid.decoded]
  rfl

/-- An identifier names no cart that is kept, or one of the shop's own. -/
theorem Reachable.hasCart_cases (h : Reachable s) (id : String) :
    Act.on (hasCart (.text id)) s = (.ok false, s) ∨
      ∃ k c, Names (.text id) k ∧ s.HasCart k c := by
  rcases Shop.hasCart_cases h.kept id with ⟨unknown, -⟩ | ⟨-, k, kc, hid, hkc⟩
  · exact .inl unknown
  · obtain ⟨e, he, hkc⟩ := Option.bind_eq_some_iff.1 hkc
    obtain ⟨_, c, -, rfl⟩ := h.coherent.own _ _ he
    exact .inr ⟨k, c, hid, he⟩

/-- A cart whose pieces can be counted is priced and kept; nothing else changes. -/
theorem on_repriceCart_countable (hs : Coherent s) (hid : Names (.text k) k) (hc : s.HasCart k c)
    (hkey : (KeptCart.made c).countryFor country = .ok key) (h : c.Countable) :
    ∃ qs, s.Quotes (Market.ofKey key) c.lines qs ∧ Act.on (repriceCart k country) s =
      (.ok (some (.made (c.quoted key qs))), s.withCart k (c.quoted key qs)) := by
  -- Every line has a price, and its pieces can be counted, so there is a quote for each.
  obtain ⟨qs, hqs⟩ := exists_quotes (m := Market.ofKey key) (hs.price? hc) h
  refine ⟨qs, hqs, ?_⟩
  rw [on_repriceCart hid (cart?_eq_made.2 hc), hkey]
  dsimp only
  rw [on_priced hqs]
  rfl

/-- Any other cart is not priced, and nothing changes. -/
theorem on_repriceCart_tooLarge (hs : Coherent s) (hid : Names (.text k) k) (hc : s.HasCart k c)
    (hkey : (KeptCart.made c).countryFor country = .ok key) (h : ¬ c.Countable) :
    Act.on (repriceCart k country) s = (.error .tooLarge, s) := by
  -- One line with too many pieces is enough.
  have large : ∃ l ∈ c.lines, Decimal.ofInt? l.quantity = none := by
    simpa [Cart.Countable] using h
  rw [on_repriceCart hid (cart?_eq_made.2 hc), hkey]
  dsimp only
  rw [priced, Act.on_bind_of_error (on_priceLines_tooLarge (hs.price? hc) large _)]

/-- A text names a country, unless it is empty; then the cart stays in its own. -/
theorem exists_countryFor (c : Cart) (country : String) :
    ∃ key, (KeptCart.made c).countryFor (.text country) = .ok key := by
  rw [KeptCart.countryFor]
  split
  · exact ⟨.text country, rfl⟩
  · exact ⟨c.country, rfl⟩

end Shop

/-! ### The answer of the router -/

/-- What an encoded identifier is decoded to. -/
theorem Gid.decodeValue_encoded (id : String) :
    decodeValue (.text (encode id)) = .ok (.text (decode id)) := by
  rw [decodeValue_text, decode_encode]

/-- What is sent to read a cart. -/
def readVars (id country : Value) : Value := .ofFields [("cartId", id), ("countryCode", country)]

/-- The variables are a record, so they are sent as they are. -/
theorem readVars_orElse (id country : Value) :
    (readVars id country).orElse (.record []) = readVars id country := rfl

/-- The document that reads a cart is answered with what the engine reads, or with errors. -/
theorem Router.on_dispatch_cartGet (factory : Option Factory) (allocation : String)
    {sent raw : Value} (hraw : Gid.decodeValue sent = .ok raw) (country : Value) (s : Shop) :
    Act.on ((standard factory).dispatch (some (Document.cartGet allocation))
      (readVars sent country)) s =
    match Act.on (getCart raw country) s with
    | (.ok cart, s') =>
      (.ok (some (.ofFields [("cart", Value.ofOption (cart.map (·.toValue)))])), s')
    | (.error fault, s') =>
      if isHard fault then (.error fault, s')
      else ((Act.on (faultErrors fault) s').1.map fun errors => some (refusal "cart" errors),
        (Act.on (faultErrors fault) s').2) := by
  have isFor : Operation.cartGet.IsFor (Document.cartGet allocation) :=
    Operation.cartGet.isFor_document allocation
  obtain ⟨p, hp, -, hcontext⟩ := Operation.parse_cartGet allocation (readVars_orElse sent country)
  -- The handler decodes the identifier and takes the country from the context of the document.
  have hid : Answer.cartIdOf (readVars sent country) = .ok raw := by
    have member : (readVars sent country).member "cartId" = .ok sent := by
      simp [readVars, Value.ofFields, Assoc.get?]
    rw [Answer.cartIdOf, member]
    exact hraw
  have hcountry : Answer.countryOf p = country := by
    rw [Answer.countryOf, Document.Parsed.contextValue, hcontext]
    simp [Assoc.get?]
  have handled : Act.on (ownHandler factory .cartGet (Document.cartGet allocation)
      (readVars sent country)) s =
      ((Act.on (getCart raw country) s).1.map fun cart =>
        .ofFields [("cart", Value.ofOption (cart.map (·.toValue)))],
        (Act.on (getCart raw country) s).2) := by
    rw [ownHandler, Answer.cartGet, hp, Act.on_bind_of_ok (Act.on_lift _ s), hid,
      Act.on_bind_of_ok (Act.on_lift _ s), hcountry]
    exact Act.on_map _ _ s
  -- The document is answered by its own handler; what that raises is reported under the field.
  rw [on_dispatch_isFor factory isFor (readVars_orElse sent country), readVars_orElse, handled]
  rcases Act.on (getCart raw country) s with ⟨fault | cart, s'⟩
  · rfl
  · rfl

/-! ### The answer of the service -/

namespace Service

variable {v : Service} {id country : String}

/-- The call answers with a cart of an identifier. -/
def AnswersCart (id : String) (read : Except Fault Value × Service) : Prop :=
  ∃ cart, read.1 = .ok cart ∧ (cart.member "id" >>= Gid.decodeValue) = .ok (.text (Gid.decode id))

/-- The call answers with null and collects one error. -/
def AnswersNone (v : Service) (read : Except Fault Value × Service) : Prop :=
  read.1 = .ok .null ∧ ∃ error, read.2.errors = v.errors ++ [error]

/-- The call answers with a report of errors as if it were a cart, and collects none. -/
def MistakesErrors (v : Service) (read : Except Fault Value × Service) : Prop :=
  (∃ errors, errors ≠ [] ∧ read.1 = .ok (.ofFields [("userErrors", .list errors)])) ∧
    read.2.errors = v.errors

/-- A report of errors has no identifier, and it is not null. -/
theorem MistakesErrors.not_answers {read : Except Fault Value × Service}
    (h : v.MistakesErrors read) : ¬ (AnswersCart id read ∨ v.AnswersNone read) := by
  obtain ⟨⟨errors, -, hread⟩, -⟩ := h
  rintro (⟨cart, hcart, member⟩ | ⟨hnull, -⟩)
  · obtain rfl := Except.ok.inj (hread.symm.trans hcart)
    cases member
  · cases hread.symm.trans hnull

/-- An identifier that cannot be encoded is not asked for. -/
theorem on_cart_of_not_encodable (h : ¬ Gid.Encodable id) (country withAllocation : Value) :
    ∃ fault, Act.on (cart (.text id) country withAllocation) v = (.error fault, v) := by
  obtain ⟨raw, unsendable⟩ := Classical.not_imp.1 h
  -- What cannot be sent is a character of the identifier, so encoding fails.
  obtain ⟨lacking, hlacking⟩ :=
    Option.ne_none_iff_exists'.1 (mt Text.sendable_of_unencodable? unsendable)
  have unencodable : Gid.encodeValue (.text id) = .error (.value (.characters lacking)) := by
    rw [Gid.encodeValue, Gid.onText, Gid.encodeText, if_pos raw, hlacking]
    rfl
  refine ⟨.value (.characters lacking), ?_⟩
  rw [cart, unencodable]
  rfl

/-- What the router answers with in place of a cart is read, and the shop is left as the router
leaves it. -/
theorem on_cart (hroute : v.client.network.route = .inProcess) {id sent : Value}
    (henc : Gid.encodeValue id = .ok sent) {s : Shop} (country withAllocation : Value) {w : Value}
    (hd : ∀ allocation, Act.on (v.client.network.router.dispatch
      (some (Document.cartGet allocation)) (readVars sent country))
      v.client.network.shop = (.ok (some (.ofFields [("cart", w)])), s)) :
    ∃ v', Act.on (cart id country withAllocation) v = (.ok w, v') ∧ v.client.Moved v'.client s ∧
      ((w.truthy = true ∧ v'.errors = v.errors) ∨
        (w.truthy = false ∧ ∃ error, v'.errors = v.errors ++ [error])) := by
  rw [cart]
  dsimp only
  generalize (if withAllocation.truthy = true then Document.sellingPlanAllocation else "") =
    allocation
  have nonempty : Document.cartGet allocation ≠ "" :=
    (Operation.cartGet.isFor_document allocation).ne_empty
  have dispatched := hd allocation
  rw [← readVars_orElse] at dispatched
  -- A record of one member is no failure, so it is answered.
  obtain ⟨v₁, asked, moved, hlast⟩ := ask_inProcess hroute nonempty dispatched
    (Client.failureOf?_single (by decide) (by decide) w)
  rw [readVars] at asked
  have read : ((Value.ofFields [("cart", w)]).orElse (.record [])).member "cart" = .ok w := by
    rw [orElse_fields, member_single]
  rw [henc, Act.on_bind_of_ok (Act.on_lift _ v),
    Act.on_bind_of_ok asked, read, Act.on_bind_of_ok (Act.on_lift _ v₁)]
  -- What is read is not falsy if it is a cart or a report, and then nothing is collected.
  cases hw : w.truthy with
  | true => exact ⟨v₁, rfl, moved.toMoved, .inl ⟨rfl, moved.errors⟩⟩
  | false =>
    let missing : Value := .text ("Cart " ++ id.display ++ " not found")
    obtain ⟨v', collects, moved', -, herr⟩ := on_collectError .cartGet missing v₁
    rw [moved.shop] at moved'
    have truthy : missing.truthy = true := by simp [missing]
    refine ⟨v', ?_, moved.toMoved.trans moved', .inr ⟨rfl, missing, ?_⟩⟩
    · rw [Bool.not_false, if_pos rfl, Act.on_bind_of_ok collects]
      rfl
    · rw [herr, hlast, collected_null_of_truthy truthy, moved.errors]

/-! ### What is taken for a cart -/

/-- Whether there is a cart is found out by reading it, unless the identifier is empty. -/
theorem on_cartExists (hne : id ≠ "") (country : Value) :
    (Act.on (cartExists (.text id) country) v).1 =
      (Act.on (cart (.text id) country (.bool false)) v).1.map fun cart => !cart.isNull := by
  have named : (Value.text id).truthy = true := by simpa using hne
  unfold cartExists
  rw [named, if_neg nofun]
  exact congrArg Prod.fst (Act.on_map (fun cart : Value => !cart.isNull) _ v)

section

variable (hroute : v.client.network.route = .inProcess) {factory : Option Factory}
  (hrouter : v.client.network.router = .standard factory) (henc : Gid.Encodable id)
  (country) (withAllocation : Value)

include hroute hrouter henc

/-- A cart that is not known is answered with null and one error. -/
theorem cart_of_unknown
    (hid : Act.on (hasCart (.text id)) v.client.network.shop = (.ok false, v.client.network.shop)) :
    v.AnswersNone (Act.on (cart (.text id) (.text country) withAllocation) v) := by
  -- The identifier names the same in raw form.
  have raw : Act.on (hasCart (.text (Gid.decode id))) v.client.network.shop =
      Act.on (hasCart (.text id)) v.client.network.shop := by
    simp only [hasCart, Gid.decodeValue_text, Gid.decode_decode]
  obtain ⟨v', called, -, ⟨htruthy, -⟩ | ⟨-, herr⟩⟩ := on_cart hroute
    (Gid.encodeValue_of_encodable henc) (.text country) withAllocation (w := .null)
    fun allocation => by
      rw [hrouter, Router.on_dispatch_cartGet _ _ (Gid.decodeValue_encoded id), getCart,
        on_setCountry_of_unknown (raw.trans hid)]
      rfl
  · cases htruthy
  · rw [called]
    exact ⟨rfl, herr⟩

/-- A cart that can be priced is answered with. -/
theorem cart_of_countable (hs : Coherent v.client.network.shop) {k : String} {c : Cart}
    (hid : Names (.text id) k) (hc : v.client.network.shop.HasCart k c) (hcount : c.Countable) :
    AnswersCart id (Act.on (cart (.text id) (.text country) withAllocation) v) := by
  obtain rfl : Gid.decode id = k := by simpa using hid.decoded
  obtain ⟨key, hkey⟩ := exists_countryFor c country
  obtain ⟨qs, -, priced⟩ := on_repriceCart_countable hs hid.raw hc hkey hcount
  obtain ⟨v', called, -⟩ := on_cart hroute
    (Gid.encodeValue_of_encodable henc) (.text country) withAllocation
    (w := (c.quoted key qs).toValue) fun allocation => by
      rw [hrouter, Router.on_dispatch_cartGet _ _ (Gid.decodeValue_encoded id), getCart,
        on_setCountry hid.raw hc, priced]
      rfl
  rw [called]
  refine ⟨_, rfl, ?_⟩
  -- The cart that is shown has the encoded identifier of the one that was named.
  have member : (c.quoted key qs).toValue.member "id" = .ok (.text (Gid.encode c.id)) := by
    rw [Cart.toValue]
    simp [Value.ofFields, Assoc.get?, Cart.quoted]
  have sound : c.id = Gid.decode id := (hs.carts _ c hc).id
  rw [member]
  show Gid.decodeValue (.text (Gid.encode c.id)) = _
  rw [Gid.decodeValue_text, Gid.decode_encode, sound, Gid.decode_decode]

/-- The report of errors for a cart that cannot be priced is taken for the cart. -/
theorem cart_of_not_countable (hs : Coherent v.client.network.shop) {k : String} {c : Cart}
    (hid : Names (.text id) k) (hc : v.client.network.shop.HasCart k c) (hcount : ¬ c.Countable) :
    v.MistakesErrors (Act.on (cart (.text id) (.text country) withAllocation) v) := by
  obtain rfl : Gid.decode id = k := by simpa using hid.decoded
  obtain ⟨key, hkey⟩ := exists_countryFor c country
  have soft : Router.isHard .tooLarge = false := rfl
  -- Repricing fails softly, so the router answers with errors where the cart should be.
  obtain ⟨e, s', reported⟩ := Answer.on_faultErrors_single
    (rfl : Fault.isRejection .tooLarge = false) v.client.network.shop
  obtain ⟨v', called, -, ⟨-, herr⟩ | ⟨hfalsy, -⟩⟩ := on_cart hroute
    (Gid.encodeValue_of_encodable henc) (.text country) withAllocation
    (w := .ofFields [("userErrors", .list [e])]) fun allocation => by
      rw [hrouter, Router.on_dispatch_cartGet _ _ (Gid.decodeValue_encoded id), getCart,
        on_setCountry hid.raw hc, on_repriceCart_tooLarge hs hid.raw hc hkey hcount]
      dsimp only
      rw [soft, if_neg Bool.false_ne_true, reported]
      rfl
  · rw [called]
    exact ⟨⟨[e], List.cons_ne_nil _ _, rfl⟩, herr⟩
  · cases hfalsy

/-- A cart that is not known is said not to be there. -/
theorem cartExists_of_unknown
    (hid : Act.on (hasCart (.text id)) v.client.network.shop = (.ok false, v.client.network.shop)) :
    (Act.on (cartExists (.text id) (.text country)) v).1 = .ok false := by
  by_cases hne : id = ""
  · subst hne
    rfl
  · obtain ⟨hnull, -⟩ := cart_of_unknown country hroute hrouter henc (.bool false) hid
    rw [on_cartExists hne, hnull]
    rfl

/-- A cart that cannot be priced is said to be there. -/
theorem cartExists_of_not_countable (hs : Coherent v.client.network.shop) {k : String} {c : Cart}
    (hid : Names (.text id) k) (hc : v.client.network.shop.HasCart k c) (hcount : ¬ c.Countable) :
    (Act.on (cartExists (.text id) (.text country)) v).1 = .ok true := by
  -- The empty identifier names no cart, so it is not the one that was named.
  have named : id ≠ "" := by
    rintro rfl
    exact hid.ne_empty (Value.text.inj (Except.ok.inj hid.decoded)).symm
  obtain ⟨⟨errors, -, hread⟩, -⟩ := cart_of_not_countable country hroute hrouter henc
    (.bool false) hs hid hc hcount
  rw [on_cartExists named, hread]
  rfl

end

/-- The service that asks the router of a shop answers with a cart of the identifier, or with null
and one more error, and says that there is a cart in the first case only, exactly if the identifier
can be encoded and no cart of it has more pieces of something than a double can count.  A report of
errors is taken for such a cart: it is answered with, no error is collected, and there is said to be
a cart. -/
theorem readsCart_iff (h : Reachable v.client.network.shop)
    (hroute : v.client.network.route = .inProcess) {hasFactory : Bool}
    (hrouter : v.client.network.router = .standard (factoryOf hasFactory)) (id country : String)
    (withAllocation : Value) :
    let read := Act.on (cart (.text id) (.text country) withAllocation) v
    let exist := (Act.on (cartExists (.text id) (.text country)) v).1
    ((AnswersCart id read ∨ v.AnswersNone read) ∧ (exist = .ok true → AnswersCart id read) ↔
      Gid.Encodable id ∧ ∀ k c, Names (.text id) k → v.client.network.shop.HasCart k c →
        c.Countable) ∧
    ∀ k c, Gid.Encodable id → Names (.text id) k → v.client.network.shop.HasCart k c →
      ¬ c.Countable → v.MistakesErrors read ∧ exist = .ok true := by
  intro read exist
  have hs := h.coherent
  have mistaken : ∀ k c, Gid.Encodable id → Names (.text id) k →
      v.client.network.shop.HasCart k c → ¬ c.Countable →
      v.MistakesErrors read ∧ exist = .ok true := fun k c henc hid hc hcount =>
    ⟨cart_of_not_countable country hroute hrouter henc withAllocation hs hid hc hcount,
      cartExists_of_not_countable country hroute hrouter henc hs hid hc hcount⟩
  refine ⟨⟨?_, ?_⟩, mistaken⟩
  · -- An answer of one of the two kinds is no report of errors, and no fault.
    rintro ⟨answers, -⟩
    by_cases henc : Gid.Encodable id
    · refine ⟨henc, fun k c hid hc => ?_⟩
      by_contra hcount
      exact (mistaken k c henc hid hc hcount).1.not_answers answers
    · obtain ⟨fault, failed⟩ :=
        on_cart_of_not_encodable (v := v) henc (.text country) withAllocation
      rcases answers with ⟨cart, hcart, -⟩ | ⟨hnull, -⟩
      · cases (congrArg Prod.fst failed).symm.trans hcart
      · cases (congrArg Prod.fst failed).symm.trans hnull
  · rintro ⟨henc, countable⟩
    -- Either no cart is known, or one is and can be priced.
    rcases h.hasCart_cases id with unknown | ⟨k, c, hid, hc⟩
    · have absent := cartExists_of_unknown country hroute hrouter henc unknown
      exact ⟨.inr (cart_of_unknown country hroute hrouter henc withAllocation unknown),
        fun present => by cases absent.symm.trans present⟩
    · have answered := cart_of_countable country hroute hrouter henc withAllocation hs
        hid hc (countable k c hid hc)
      exact ⟨.inl answered, fun _ => answered⟩

/-! ### More pieces than can be counted -/

/-- A call that adds pieces of a variant. -/
def addition (quantity : Int) : CartCall := .addLines [("1", .int quantity)] none

/-- The edit that the call stands for. -/
def additionEdit (quantity : Int) : CartEdit := .addLines
  (.list [LineInput.request "merchandiseId" (Gid.variantPrefix ++ "1") ⟨quantity, []⟩])

/-- The call reads as the edit of one line. -/
theorem addition_edit (quantity : Int) :
    (addition quantity).edit = .ok (additionEdit quantity) := by
  have variant : Gid.normalise Gid.variantPrefix "1" = Gid.variantPrefix ++ "1" := by decide +kernel
  have pieces : LineInput.coerce (.int quantity) = .ok ⟨quantity, []⟩ := rfl
  simp only [addition, CartCall.edit, List.mapM_cons, List.mapM_nil, pieces, variant]
  rfl

/-- There are no attributes at all. -/
theorem addition_lacksNull (quantity : Int) : (addition quantity).LacksNull := by
  intro p hp input hinput
  obtain rfl := List.mem_singleton.1 hp
  obtain rfl := Except.ok.inj hinput
  exact nofun

/-- The identifier of the variant can be encoded. -/
theorem addition_encodable (quantity : Int) :
    ∀ id ∈ (addition quantity).ids, Gid.Encodable id := by
  have ids : (addition quantity).ids = [Gid.normalise Gid.variantPrefix "1"] := rfl
  rw [ids]
  decide +kernel

/-- So can that of the cart. -/
theorem encodable_sampleId : Gid.Encodable sampleId := by decide +kernel

/-- The shop after a call. -/
def shopAfter {α : Type} (a : Act Service α) (v : Service) : Shop :=
  (Act.on a v).2.client.network.shop

/-- The shop after more pieces were added than a double can count. -/
def hugeShop : Shop :=
  shopAfter ((addition (Int.pow 10 400)).run sampleId) (CartCall.serviceOf sample)

/-- Whether a cart of the shop's own has more pieces of something than a double can count. -/
def hasUncountable (s : Shop) (k : String) : Bool :=
  match s.cart? k with
  | some (.made c) => c.lines.any fun l => (Decimal.ofInt? l.quantity).isNone
  | _ => false

/-- A service is reached in a shop that is. -/
theorem reachable_serviceOf {s : Shop} (h : Reachable s) :
    Reachable (CartCall.serviceOf s).client.network.shop := by
  rwa [CartCall.serviceOf_shop]

/-- The call does what the edit does in the shop. -/
theorem addition_follows (quantity : Int) :
    (CartCall.serviceOf sample).Follows sampleId
      (Act.on ((addition quantity).run sampleId) (CartCall.serviceOf sample))
      (Act.on ((additionEdit quantity).run (.text sampleId) .null) sample) := by
  have sends := CartCall.run_sends (addition_edit quantity) encodable_sampleId
    (addition_encodable quantity) (addition_lacksNull quantity)
  have follows := sends.follows (reachable_serviceOf reachable_sample) rfl rfl
  rwa [CartCall.serviceOf_shop] at follows

/-- The edit fails, and its pieces stay in the cart. -/
theorem hugeAddition_fails :
    let p := Act.on ((additionEdit (Int.pow 10 400)).run (.text sampleId) .null) sample
    p.1.toBool = false ∧ hasUncountable p.2 sampleId = true := by decide +kernel

/-- The call leaves the shop as the edit does. -/
theorem exists_hugeShop_eq : ∃ supply, hugeShop =
    { (Act.on ((additionEdit (Int.pow 10 400)).run (.text sampleId) .null) sample).2
      with supply } := by
  obtain ⟨fault, failed⟩ := Act.eq_error_of_toBool hugeAddition_fails.1
  -- The edit failed, so it did not answer with a cart.
  have refused : ∀ kc,
      (Act.on ((additionEdit (Int.pow 10 400)).run (.text sampleId) .null) sample).1 ≠
        .ok (some kc) := by
    intro kc hkc
    rw [failed] at hkc
    cases hkc
  rw [hugeShop, shopAfter]
  exact ((addition_follows (Int.pow 10 400)).refused refused).2.1

/-- The shop after the edit is reached, at any time. -/
theorem reachable_additionEdit (quantity : Int) (supply : Supply) : Reachable
    { (Act.on ((additionEdit quantity).run (.text sampleId) .null) sample).2 with supply } := by
  have reached := reachable_sample.cart (.edit (.text sampleId) .null (additionEdit quantity))
  rw [CartRequest.run] at reached
  exact reached.passage supply

/-- So the shop with too many pieces is reached. -/
theorem reachable_hugeShop : Reachable hugeShop := by
  obtain ⟨supply, same⟩ := exists_hugeShop_eq
  rw [same]
  exact reachable_additionEdit (Int.pow 10 400) supply

/-- What the test finds is a cart that cannot be priced. -/
theorem exists_of_hasUncountable {s : Shop} {k : String} (h : hasUncountable s k = true) :
    ∃ c, s.HasCart k c ∧ ¬ c.Countable := by
  unfold hasUncountable at h
  split at h
  · rename_i c hc
    refine ⟨c, cart?_eq_made.1 hc, fun countable => ?_⟩
    obtain ⟨l, hl, huge⟩ := List.any_eq_true.1 h
    exact countable l hl (Option.isNone_iff_eq_none.1 huge)
  · cases h

/-- Carts are kept whatever the supply has. -/
theorem hasCart_withSupply (s : Shop) (supply : Supply) (k : String) (c : Cart) :
    ({ s with supply } : Shop).HasCart k c ↔ s.HasCart k c := Iff.rfl

/-- The cart of the sample cannot be priced any more. -/
theorem exists_uncountable : ∃ c, hugeShop.HasCart sampleId c ∧ ¬ c.Countable := by
  obtain ⟨supply, same⟩ := exists_hugeShop_eq
  obtain ⟨c, hc, hcount⟩ := exists_of_hasUncountable hugeAddition_fails.2
  refine ⟨c, ?_, hcount⟩
  rw [same, hasCart_withSupply]
  exact hc

/-- The service over that shop mistakes a report of errors for the cart of the sample. -/
theorem readsCart_iff_sample : ∃ c,
    let v := CartCall.serviceOf hugeShop
    let read := Act.on (cart (.text sampleId) (.text "IE") .null) v
    let exist := (Act.on (cartExists (.text sampleId) (.text "IE")) v).1
    Reachable v.client.network.shop ∧ v.client.network.route = .inProcess ∧
      v.client.network.router = .standard (factoryOf true) ∧ Gid.Encodable sampleId ∧
      Names (.text sampleId) sampleId ∧ v.client.network.shop.HasCart sampleId c ∧ ¬ c.Countable ∧
      v.MistakesErrors read ∧ exist = .ok true := by
  -- The sample has a line whose quantity no price can be computed for.
  obtain ⟨c, hc, hcount⟩ := exists_uncountable
  have reached := reachable_serviceOf reachable_hugeShop
  have named : Names (.text sampleId) sampleId := ⟨rfl, by decide⟩
  rw [← CartCall.serviceOf_shop hugeShop] at hc
  exact ⟨c, reached, rfl, rfl, encodable_sampleId, named, hc, hcount,
    (readsCart_iff reached rfl rfl sampleId "IE" .null).2 sampleId c encodable_sampleId
      named hc hcount⟩

/-- Reading a cart answers neither with a cart nor with null, where it cannot be priced. -/
theorem mistaken_for_cart : ¬ ∀ (v : Service) (id country : String),
    Reachable v.client.network.shop → v.client.network.route = .inProcess →
    v.client.network.router = .standard (factoryOf true) → Gid.Encodable id →
    let read := Act.on (cart (.text id) (.text country) .null) v
    AnswersCart id read ∨ v.AnswersNone read := by
  intro answers
  obtain ⟨c, hc, hcount⟩ := exists_uncountable
  have reached := reachable_serviceOf reachable_hugeShop
  rw [← CartCall.serviceOf_shop hugeShop] at hc
  have mistaken := cart_of_not_countable "IE" (rfl : Network.route _ = _)
    (rfl : Network.router _ = .standard (factoryOf true)) encodable_sampleId .null reached.coherent
    (⟨rfl, by decide⟩ : Names (.text sampleId) sampleId) hc hcount
  exact mistaken.not_answers (answers _ sampleId "IE" reached rfl rfl encodable_sampleId)

end Service
end Storefront
