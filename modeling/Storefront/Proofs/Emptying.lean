import Storefront.Proofs.Commands
import Storefront.Proofs.Removals

/-! # Emptying carts

A cart is emptied by the engine in one call and by the service in two requests: it reads the cart in
the country that is asked for, and then removes the lines that it was shown, without naming a
country.  Reading leaves the cart in the market that was asked for, and removing keeps it there, so
both leave the same shop behind.

* `Shop.on_emptyCart` : what the engine does to a cart that can be priced
* `Service.on_emptyCart` : the service does the same where the router is asked itself
* `Service.emptyCart_follows` : both, for any identifier -/

namespace Storefront

open Shop

/-- The cart when all of its lines were taken away: dated, and priced in a market. -/
def Cart.cleared (c : Cart) (key : Key) (now : String) : Cart :=
  (({ c with lines := [] } : Cart).dated now).quoted key []

namespace Shop

variable {s s₁ : Shop} {id country : Value} {k : String} {key : Key} {c : Cart} {qs : List Quote}

/-! ### In the engine -/

/-- Where no cart is known, nothing is emptied. -/
theorem on_emptyCart_of_unknown (h : Act.on (hasCart id) s = (.ok false, s)) :
    Act.on (emptyCart id country) s = (.ok false, s) := by
  rw [emptyCart, getCart, Act.on_bind_of_ok (on_setCountry_of_unknown h)]
  rfl

/-- The identifiers of all lines of a cart take away all lines. -/
theorem unnamed_all (hs : Coherent s) (hc : s.HasCart k c) :
    Cart.unnamed (c.lines.map (·.id)) c.lines = [] := by
  refine List.filter_eq_nil_iff.2 fun l hl => ?_
  have decoded : Gid.decode l.id = l.id := ((hs.carts k c hc).lines.sound l hl).decode_id
  have named : l.id ∈ (c.lines.map (·.id)).map Gid.decode :=
    List.mem_map.2 ⟨l.id, List.mem_map_of_mem hl, decoded⟩
  simpa using named

/-- Taking away all lines that there are leaves a cart in the market that is asked for. -/
theorem on_removeLines_all (hs : Coherent s) (hid : Names id k) (hc : s.HasCart k c)
    (hne : c.lines ≠ []) (hkey : (KeptCart.made c).countryFor country = .ok key) :
    Act.on (removeLines id country (.texts (c.lines.map (·.id)))) s =
      (.ok (some (.made (c.cleared key s.supply.timestamp))),
        s.withCart k (c.cleared key s.supply.timestamp)) := by
  have sound := (hs.carts k c hc).lines
  -- A line's id begins with the prefix of its kind, so no id sent is the empty text the batch
  -- refuses.
  have texts : "" ∉ c.lines.map (·.id) := by
    intro mem
    obtain ⟨l, hl, hid⟩ := List.mem_map.1 mem
    obtain ⟨t, -, token⟩ := (sound.sound l hl).id
    have empty := congrArg String.toList (hid.symm.trans token)
    simp [Gid.cartLinePrefix, Gid.kindPrefix] at empty
  -- Every line is named, so what the batch keeps of the cart is no line at all.
  have removal := removeLines_relinesBy (by simpa using hne) texts
  have draft := removal country c s sound.ids
  rw [unnamed_all hs hc] at draft
  exact (run_eq_ok_iff hs hid hc draft).2 ⟨key, [], hkey, .nil, rfl, rfl⟩

/-- The ids a cart's lines are sent by are the texts the lines carry. -/
theorem lineIds_made (c : Cart) :
    (KeptCart.made c).lineIds = .ok ((c.lines.map (·.id)).map Value.text) := by
  rw [List.map_map]
  rfl

/-- Repricing a cart adds no line and takes none away. -/
theorem quoted_lines_eq_nil {m : Market} (hqs : s.Quotes m c.lines qs) (key : Key) :
    (c.quoted key qs).lines = [] ↔ c.lines = [] := by
  have length : (c.quoted key qs).lines.length = c.lines.length := by
    simp [Cart.quoted, hqs.length_eq]
  rw [← List.length_eq_zero_iff, length, List.length_eq_zero_iff]

/-- The shop after a cart was read. -/
theorem Reachable.quoted (h : Reachable s) (hid : Names id k) (hc : s.HasCart k c)
    (hkey : (KeptCart.made c).countryFor country = .ok key)
    (hqs : s.Quotes (Market.ofKey key) c.lines qs) :
    Reachable (s.withCart k (c.quoted key qs)) := by
  have reached := h.cart (.get id country)
  rwa [CartRequest.run, on_getCart hid hc hkey hqs] at reached

/-- A cart that is emptied is read first; then all of its lines are taken away, if it has any. -/
theorem on_emptyCart (h : Reachable s) (hid : Names id k) (hc : s.HasCart k c)
    (hkey : (KeptCart.made c).countryFor country = .ok key)
    (hqs : s.Quotes (Market.ofKey key) c.lines qs) :
    Act.on (emptyCart id country) s =
      if c.lines = [] then (.ok false, s.withCart k (c.quoted key qs))
      else (.ok true, s.withCart k ((c.quoted key qs).cleared key s.supply.timestamp)) := by
  -- The cart emptied is the one the read leaves, so the second operation starts from its repriced
  -- lines.
  have reached := h.quoted hid hc hkey hqs
  have empty := quoted_lines_eq_nil hqs key
  rw [emptyCart, Act.on_bind_of_ok (on_getCart hid hc hkey hqs)]
  dsimp only
  rw [lineIds_made, Act.on_bind_of_ok (Act.on_lift _ _)]
  split
  · rename_i none
    -- no line to remove: the read alone is what was done
    rw [List.isEmpty_iff, List.map_eq_nil_iff, List.map_eq_nil_iff, empty] at none
    rw [if_pos none]
    rfl
  · rename_i some_
    -- the ids read are those of every line, so the removal leaves none
    rw [List.isEmpty_iff, List.map_eq_nil_iff, List.map_eq_nil_iff] at some_
    have cleared := on_removeLines_all reached.coherent hid (hasCart_withCart_self ..) some_
      (countryFor_quoted hkey qs)
    rw [withCart_withCart, Value.texts] at cleared
    rw [if_neg (empty.not.1 some_), Act.on_bind_of_ok cleared]
    rfl

/-- A reading that does not fail says whether there is a cart, and what it is priced at. -/
theorem Reachable.read_cases (h : Reachable s) {id : String}
    (hread : ∀ fault, (Act.on (getCart (.text id) country) s).1 ≠ .error fault) :
    Act.on (hasCart (.text id)) s = (.ok false, s) ∨
      ∃ k c key qs, Names (.text id) k ∧ s.HasCart k c ∧
        (KeptCart.made c).countryFor country = .ok key ∧
          s.Quotes (Market.ofKey key) c.lines qs := by
  rcases h.hasCart_cases id with unknown | ⟨k, c, hid, hc⟩
  · exact .inl unknown
  · rcases hget : Act.on (getCart (.text id) country) s with ⟨fault | a, s₁⟩
    · exact absurd (congrArg Prod.fst hget) (hread fault)
    · obtain ⟨-, key, qs, hkey, hqs, -⟩ := getCart_eq_ok h.coherent hid hc hget
      exact .inr ⟨k, c, key, qs, hid, hc, hkey, hqs⟩

/-- The cart has lost its lines and nothing else. -/
structure Empties (c c' : Cart) : Prop where
  lines : c'.lines = []
  id : c'.id = c.id
  note : c'.note = c.note
  attributes : c'.attributes = c.attributes
  discount : c'.discount = c.discount

/-- Emptying touches the lines and the date of change and no other field a caller sees. -/
theorem empties_cleared (c : Cart) (key : Key) (qs : List Quote) (now : String) :
    Empties c ((c.quoted key qs).cleared key now) := ⟨rfl, rfl, rfl, rfl, rfl⟩

/-- The engine answers whether there is a cart with lines, and leaves it without. -/
theorem emptyCart_empties (h : Reachable s) {id : String}
    (hread : ∀ fault, (Act.on (getCart (.text id) country) s).1 ≠ .error fault) :
    ∃ emptied s', Act.on (emptyCart (.text id) country) s = (.ok emptied, s') ∧
      (emptied = true ↔ ∃ k c, Names (.text id) k ∧ s.HasCart k c ∧ c.lines ≠ []) ∧
      ∀ k c, Names (.text id) k → s.HasCart k c → ∃ c', s'.HasCart k c' ∧ Empties c c' := by
  rcases h.read_cases hread with unknown | ⟨k, c, key, qs, hid, hc, hkey, hqs⟩
  · -- no cart is known by the id: nothing is emptied
    have none : ∀ k c, Names (.text id) k → ¬ s.HasCart k c := by
      intro k c hid hc
      cases (on_hasCart hid hc).symm.trans unknown
    refine ⟨false, s, on_emptyCart_of_unknown unknown, ⟨nofun, ?_⟩,
      fun k c hid hc => absurd hc (none k c hid)⟩
    rintro ⟨k, c, hid, hc, -⟩
    exact absurd hc (none k c hid)
  · -- a cart is known and can be read, so it is the only one the id names
    have only : ∀ k' c', Names (.text id) k' → s.HasCart k' c' → k' = k ∧ c' = c := by
      intro k' c' hid' hc'
      obtain rfl := hid.eq hid'
      exact ⟨rfl, Entity.cart.inj (Option.some.inj (hc'.symm.trans hc))⟩
    have done := on_emptyCart h hid hc hkey hqs
    -- An empty cart is only repriced; otherwise the removal ran.
    by_cases empty : c.lines = []
    · rw [if_pos empty] at done
      refine ⟨_, _, done, ⟨nofun, ?_⟩, fun k' c' hid' hc' => ?_⟩
      · rintro ⟨k', c', hid', hc', some_⟩
        obtain ⟨rfl, rfl⟩ := only k' c' hid' hc'
        exact absurd empty some_
      · obtain ⟨rfl, rfl⟩ := only k' c' hid' hc'
        exact ⟨_, hasCart_withCart_self .., (quoted_lines_eq_nil hqs key).2 empty, rfl,
          rfl, rfl, rfl⟩
    · rw [if_neg empty] at done
      refine ⟨_, _, done, ⟨fun _ => ⟨k, c, hid, hc, empty⟩, fun _ => rfl⟩, fun k' c' hid' hc' => ?_⟩
      obtain ⟨rfl, rfl⟩ := only k' c' hid' hc'
      exact ⟨_, hasCart_withCart_self _ _ _, empties_cleared _ _ _ _⟩

end Shop

/-! ### Through the service -/

namespace Service

variable {v : Service} {id country : String}

/-- A cart that is kept shows its lines under the identifiers that it keeps. -/
theorem lineIdsOf_kept {s : Shop} {k : String} {c : Cart} (hs : Coherent s) (hc : s.HasCart k c) :
    lineIdsOf c.toValue = .ok ((c.lines.map (·.id)).map Value.text) := by
  rw [lineIdsOf_toValue, List.map_map]
  refine congrArg Except.ok (List.map_congr_left fun l hl => ?_)
  exact congrArg Value.text ((hs.carts k c hc).lines.sound l hl).decode_id

section

variable (h : Reachable v.client.network.shop) (hroute : v.client.network.route = .inProcess)
  {hasFactory : Bool} (hrouter : v.client.network.router = .standard (factoryOf hasFactory))
  (henc : Gid.Encodable id)

include hroute hrouter henc

/-- The service answers no for an id no cart has, and the shop stays. -/
theorem on_emptyCart_of_unknown
    (hid : Act.on (hasCart (.text id)) v.client.network.shop = (.ok false, v.client.network.shop))
    (country : Value) : ∃ v', Act.on (emptyCart (.text id) country) v = (.ok false, v') ∧
      v'.client.network.shop = v.client.network.shop := by
  -- Knowing a cart is asked by the decoded id, so encoding the id on the way changes nothing.
  have raw : Act.on (hasCart (.text (Gid.decode id))) v.client.network.shop =
      Act.on (hasCart (.text id)) v.client.network.shop := by
    simp only [hasCart, Gid.decodeValue_text, Gid.decode_decode]
  obtain ⟨v', called, moved, -⟩ := on_cart hroute
    (Gid.encodeValue_of_encodable henc) country (.bool false) (w := .null) fun allocation => by
      rw [hrouter, Router.on_dispatch_cartGet _ _ (Gid.decodeValue_encoded id), getCart,
        on_setCountry_of_unknown (raw.trans hid)]
      rfl
  refine ⟨v', ?_, moved.shop⟩
  rw [emptyCart, Act.on_bind_of_ok called]
  rfl

include h

/-- Taking away all lines that a cart is shown with does through the service what it does in the
engine, in the market that the cart is in. -/
theorem on_removeLines_shown {c : Cart} (hc : v.client.network.shop.HasCart (Gid.decode id) c)
    (hid : Names (.text id) (Gid.decode id)) (hne : c.lines ≠ []) {key : Key}
    (hkey : (KeptCart.made c).countryFor .null = .ok key) :
    ∃ v', Act.on (removeLines (.text id) (.texts (c.lines.map (·.id)))) v =
        (.ok (.text (Gid.decode id)), v') ∧
      v'.client.network.shop = v.client.network.shop.withCart (Gid.decode id)
        (c.cleared key v.client.network.shop.supply.timestamp) := by
  -- The removal over the wire is the call of the caller's face with the ids the cart shows, and
  -- each of them can be encoded.
  have removed := on_removeLines_all h.coherent hid hc hne hkey
  let call : CartCall := .removeLines (c.lines.map (·.id))
  have encodable : ∀ i ∈ call.ids, Gid.Encodable i := by
    intro i hi
    obtain ⟨l, hl, rfl⟩ := List.mem_map.1 hi
    exact (Gid.encodeText_eq_ok ((h.coherent.carts _ _ hc).lines.sound l hl).sent).2
  have sends : call.Sends id _ := CartCall.removeLines_sends henc encodable
  obtain ⟨answer, left, -⟩ :=
    (sends.follows h hroute hrouter).answered ⟨_, congrArg Prod.fst removed⟩
  exact ⟨_, Prod.ext answer rfl, left.trans (congrArg Prod.snd removed)⟩

/-- The service reads the cart, and removes the lines that it was shown in the market that the cart
was read in. -/
theorem on_emptyCart {k : String} {key : Key} {c : Cart} {qs : List Quote} {country : Value}
    (hid : Names (.text id) k) (hc : v.client.network.shop.HasCart k c)
    (hkey : (KeptCart.made c).countryFor country = .ok key)
    (hqs : v.client.network.shop.Quotes (Market.ofKey key) c.lines qs) :
    let done := Act.on (Shop.emptyCart (.text id) country) v.client.network.shop
    ∃ v', Act.on (emptyCart (.text id) country) v = (done.1, v') ∧
      v'.client.network.shop = done.2 := by
  intro done
  obtain rfl : Gid.decode id = k := by simpa using hid.decoded
  obtain ⟨v₁, called, moved, -⟩ := on_cart hroute (Gid.encodeValue_of_encodable henc) country
    (.bool false) (w := (c.quoted key qs).toValue) fun allocation => by
      rw [hrouter, Router.on_dispatch_cartGet _ _ (Gid.decodeValue_encoded id),
        Shop.on_getCart hid.raw hc hkey hqs]
      rfl
  have empty := quoted_lines_eq_nil hqs key
  have kept := hasCart_withCart_self v.client.network.shop (Gid.decode id) (c.quoted key qs)
  have reached := h.quoted hid hc hkey hqs
  rw [← moved.shop] at kept reached
  have done_eq : done = _ := Shop.on_emptyCart h hid hc hkey hqs
  have truthy : (c.quoted key qs).toValue.truthy = true := rfl
  rw [emptyCart, Act.on_bind_of_ok called, truthy, if_neg (by simp),
    lineIdsOf_kept reached.coherent kept, Act.on_bind_of_ok (Act.on_lift _ v₁), done_eq]
  split
  · rename_i none
    rw [List.isEmpty_iff, List.map_eq_nil_iff, List.map_eq_nil_iff, empty] at none
    rw [if_pos none]
    exact ⟨v₁, rfl, moved.shop⟩
  · rename_i some_
    rw [List.isEmpty_iff, List.map_eq_nil_iff, List.map_eq_nil_iff] at some_
    -- The second request names no country, so the cart stays in the market that it was read in.
    have read_in : (KeptCart.made (c.quoted key qs)).countryFor .null = .ok key := rfl
    obtain ⟨v₂, removed, left⟩ := on_removeLines_shown reached (moved.route.trans hroute)
      (moved.router.trans hrouter) henc kept hid some_ read_in
    refine ⟨v₂, ?_, ?_⟩
    · rw [if_neg (empty.not.1 some_)]
      exact Act.on_bind_of_ok removed
    · rw [if_neg (empty.not.1 some_), left, moved.shop, withCart_withCart]
      rfl

end

/-- Where reading a cart in a country does not fail, the engine says whether there is a cart with
lines, and leaves none in it but all else as it was; and the service that asks the router of a shop
itself answers and leaves the shop as the engine does, if the identifier can be encoded.  Otherwise
it fails before anything is sent. -/
theorem emptyCart_follows (h : Reachable v.client.network.shop)
    (hroute : v.client.network.route = .inProcess) {hasFactory : Bool}
    (hrouter : v.client.network.router = .standard (factoryOf hasFactory)) (id country : String)
    (hread : ∀ fault,
      (Act.on (getCart (.text id) (.text country)) v.client.network.shop).1 ≠ .error fault) :
    let shop := v.client.network.shop
    let called := Act.on (emptyCart (.text id) (.text country)) v
    ∃ emptied s', Act.on (Shop.emptyCart (.text id) (.text country)) shop = (.ok emptied, s') ∧
      (emptied = true ↔ ∃ k c, Names (.text id) k ∧ shop.HasCart k c ∧ c.lines ≠ []) ∧
      (∀ k c, Names (.text id) k → shop.HasCart k c → ∃ c', s'.HasCart k c' ∧ Empties c c') ∧
      (Gid.Encodable id → called.1 = .ok emptied ∧ called.2.client.network.shop = s') ∧
      (¬ Gid.Encodable id → ∃ fault, called = (.error fault, v)) := by
  intro shop called
  obtain ⟨emptied, s', done, exact_, empties⟩ := emptyCart_empties h hread
  refine ⟨emptied, s', done, exact_, empties, fun henc => ?_, fun hid => ?_⟩
  · -- an id that can be encoded: what the service returns and leaves is what the shop's own
    -- operation does
    have same : ∃ v', called = (.ok emptied, v') ∧ v'.client.network.shop = s' := by
      rcases h.read_cases hread with unknown | ⟨k, c, key, qs, hid, hc, hkey, hqs⟩
      · obtain ⟨rfl, rfl⟩ : false = emptied ∧ shop = s' := by
          simpa using (Shop.on_emptyCart_of_unknown unknown).symm.trans done
        exact on_emptyCart_of_unknown hroute hrouter henc unknown (.text country)
      · obtain ⟨v', hcalled, left⟩ := on_emptyCart h hroute hrouter henc hid hc hkey hqs
        rw [done] at hcalled left
        exact ⟨v', hcalled, left⟩
    obtain ⟨v', hcalled, left⟩ := same
    rw [hcalled]
    exact ⟨rfl, left⟩
  · -- an id that cannot be encoded fails before anything is sent
    obtain ⟨fault, failed⟩ :=
      on_cart_of_not_encodable (v := v) hid (.text country) (.bool false)
    exact ⟨fault, Act.on_bind_of_error failed⟩

/-- The cart of `sample` has a line, and is emptied. -/
theorem emptyCart_follows_sample :
    let v := CartCall.serviceOf sample
    let called := Act.on (emptyCart (.text sampleId) (.text "FR")) v
    Reachable v.client.network.shop ∧ v.client.network.route = .inProcess ∧
      v.client.network.router = .standard (factoryOf true) ∧
      (∀ fault, (Act.on (getCart (.text sampleId) (.text "FR")) v.client.network.shop).1 ≠
        .error fault) ∧
      ∃ s' k c c', Act.on (Shop.emptyCart (.text sampleId) (.text "FR")) sample = (.ok true, s') ∧
        called.1 = .ok true ∧ called.2.client.network.shop = s' ∧ sample.HasCart k c ∧
        c.lines ≠ [] ∧ s'.HasCart k c' ∧ Empties c c' := by
  have reached : Reachable (CartCall.serviceOf sample).client.network.shop :=
    reachable_serviceOf reachable_sample
  -- The read that comes first succeeds on the sample, which discharges the hypothesis.
  have readable : ∀ fault, (Act.on (getCart (.text sampleId) (.text "FR"))
      (CartCall.serviceOf sample).client.network.shop).1 ≠ .error fault := by
    rw [CartCall.serviceOf_shop]
    obtain ⟨a, ha⟩ := Act.eq_ok_of_toBool
      (p := Act.on (getCart (.text sampleId) (.text "FR")) sample) (by decide +kernel)
    rw [ha]
    exact nofun
  have emptied : (Act.on (Shop.emptyCart (.text sampleId) (.text "FR")) sample).1.toOption =
      some true := by decide +kernel
  obtain ⟨b, s', done, exact_, empties, follows, -⟩ :=
    emptyCart_follows reached rfl (rfl : Network.router _ = .standard (factoryOf true))
      sampleId "FR"
      readable
  rw [CartCall.serviceOf_shop] at done exact_ empties
  rw [done] at emptied
  obtain rfl : b = true := Option.some.inj emptied
  obtain ⟨k, c, hid, hc, some_⟩ := exact_.1 rfl
  obtain ⟨c', hc', lost⟩ := empties k c hid hc
  obtain ⟨answer, left⟩ := follows encodable_sampleId
  exact ⟨reached, rfl, rfl, readable, s', k, c, c', done, answer, left, hc, some_, hc', lost⟩

/-- An identifier that cannot be encoded names no cart for the engine, but the service fails. -/
theorem unencodable_emptied_otherwise : ¬ ∀ (v : Service) (id country : String),
    Reachable v.client.network.shop → v.client.network.route = .inProcess →
    v.client.network.router = .standard (factoryOf true) →
    (∀ fault, (Act.on (getCart (.text id) (.text country)) v.client.network.shop).1 ≠
      .error fault) →
    (Act.on (emptyCart (.text id) (.text country)) v).1 =
      (Act.on (Shop.emptyCart (.text id) (.text country)) v.client.network.shop).1 := by
  intro alike
  -- The id no encoding exists for names no cart, so the shop's own operation answers no.
  have unknown : Act.on (hasCart (.text CartCall.unencodableId)) sample = (.ok false, sample) := by
    have answer : (Act.on (hasCart (.text CartCall.unencodableId)) sample).1.toOption =
        some false := by decide +kernel
    rcases reachable_sample.hasCart_cases CartCall.unencodableId with unknown | ⟨k, c, hid, hc⟩
    · exact unknown
    · rw [on_hasCart hid hc] at answer
      cases answer
  rw [← CartCall.serviceOf_shop sample] at unknown
  have unencodable : ¬ Gid.Encodable CartCall.unencodableId := by decide +kernel
  obtain ⟨fault, failed⟩ : ∃ fault, Act.on _ (CartCall.serviceOf sample) = (.error fault, _) :=
    on_cart_of_not_encodable unencodable (.text "IE") (.bool false)
  -- Were the two alike, the service would answer no as well, but encoding the id failed.
  have same := alike (CartCall.serviceOf sample) CartCall.unencodableId "IE"
    (reachable_serviceOf reachable_sample) rfl rfl (by
      rw [getCart, on_setCountry_of_unknown unknown]
      intro fault failed
      cases failed)
  rw [Shop.on_emptyCart_of_unknown unknown, emptyCart, Act.on_bind_of_error failed] at same
  cases same

end Service
end Storefront
