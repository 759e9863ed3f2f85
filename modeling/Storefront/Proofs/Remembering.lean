import Storefront.Proofs.Rereading
import Storefront.Service.CurrentCart

/-! # What a current cart remembers

A current cart remembers which cart it is and which country it is priced for.  A call that reports a
failure leaves that alone, with one exception: to make a new cart for a country, the country is
remembered before the cart is asked for, and it stays remembered if there is none.

* `CurrentCart.Call` : the calls of a current cart
* `on_run_of_fails` : all that a failed call leaves behind
* `failure_keeps_memory_iff` : when a failed call leaves the memory as it was
* `failures_remember` : any number of failed calls in a row -/

namespace Storefront.CurrentCart

/-- A call of a current cart. -/
inductive Call where
  | newCart (country : Value)
  | setCartId (cartId : Value)
  | setCountry (country : Value)
  | setWithAllocation (v : Value)
  | cart
  | cartExists
  | checkoutUrl
  | view
  | addLine (variant line planId : Value)
  | addLines (lines planId : Value)
  | updateLine (lineId line : Value)
  | updateLines (lines : Value)
  | removeLine (lineId : Value)
  | removeLines (lineIds : Value)
  | emptyCart
  | setNote (note : Value)
  | setAttribute (key value : Value)
  | setDiscountCodes (codes : Value)

namespace Call

/-- Answers a call; where there is no other answer it is null. -/
def run : Call → Act CurrentCart Value
  | newCart country => CurrentCart.newCart country
  | setCartId cartId => (fun _ => .null) <$> CurrentCart.setCartId cartId
  | setCountry country => .bool <$> CurrentCart.setCountry country
  | setWithAllocation v => (fun _ => .null) <$> CurrentCart.setWithAllocation v
  | cart => CurrentCart.cart
  | cartExists => .bool <$> CurrentCart.cartExists
  | checkoutUrl => CurrentCart.checkoutUrl
  | view => (fun _ => .null) <$> CurrentCart.view
  | addLine variant line planId => .bool <$> CurrentCart.addLine variant line planId
  | addLines lines planId => .bool <$> CurrentCart.addLines lines planId
  | updateLine lineId line => .bool <$> CurrentCart.updateLine lineId line
  | updateLines lines => .bool <$> CurrentCart.updateLines lines
  | removeLine lineId => .bool <$> CurrentCart.removeLine lineId
  | removeLines lineIds => .bool <$> CurrentCart.removeLines lineIds
  | emptyCart => .bool <$> CurrentCart.emptyCart
  | setNote note => .bool <$> CurrentCart.setNote note
  | setAttribute key value => .bool <$> CurrentCart.setAttribute key value
  | setDiscountCodes codes => .bool <$> CurrentCart.setDiscountCodes codes

/-- The answer reports that the call failed.  Calls that only read, and those that only determine
what is remembered, report nothing. -/
def Fails : Call → Value → Prop
  | newCart _, a => a = .null
  | setCartId _, _ | setWithAllocation _, _ | cart, _ | cartExists, _ | checkoutUrl, _ | view, _ =>
    False
  | _, a => a = .bool false

/-- The country that a new cart is asked for in, if one is named. -/
def named : Call → Value
  | newCart country => country
  | _ => .null

end Call

variable {c c' : CurrentCart} {call : Call} {a : Value}

/-! ### One call -/

/-- The current cart after its service was used, and nothing else. -/
def withService (c : CurrentCart) (service : Service) : CurrentCart := { c with service }

/-- What a service does moves the service only. -/
theorem on_inService {α : Type} (act : Act Service α) (c : CurrentCart) :
    Act.on (inService act) c =
      ((Act.on act c.service).1, c.withService (Act.on act c.service).2) := rfl

/-- So it is when the service answers. -/
theorem inService_eq_ok {α : Type} {act : Act Service α} {b : α}
    (h : Act.on (inService act) c = (.ok b, c')) : c' = c.withService c'.service := by
  rw [on_inService] at h
  obtain ⟨-, rfl⟩ := Prod.mk.inj h
  rfl

/-- An answer that names no cart is not remembered. -/
theorem on_track_of_falsy (h : a.truthy = false) : Act.on (track a) c = (.ok false, c) := by
  rw [track, h]
  rfl

/-- An answer that names a cart is remembered. -/
theorem on_track_of_truthy (h : a.truthy = true) :
    Act.on (track a) c = (.ok true, { c with cartId := a }) := by
  rw [track, h]
  rfl

/-- A mutation that fails leaves the memory alone. -/
theorem tracked_eq_false {mutation : Value → Act Service Value}
    (h : Act.on (tracked mutation) c = (.ok false, c')) : c' = c.withService c'.service := by
  rw [tracked, Act.on_bind_of_ok (Act.on_get c)] at h
  obtain ⟨id, c₁, asked, h⟩ := Act.on_bind_eq_ok.1 h
  have kept := inService_eq_ok asked
  -- A call that tracks its answer is false when there is no identifier in it, and then nothing is
  -- tracked.
  cases hid : id.truthy with
  | true =>
    rw [on_track_of_truthy hid] at h
    cases h
  | false =>
    rw [on_track_of_falsy hid] at h
    obtain ⟨-, rfl⟩ := Prod.mk.inj h
    exact kept

/-- To fail to move a cart leaves the memory alone. -/
theorem setCountry_eq_false {country : Value}
    (h : Act.on (setCountry country) c = (.ok false, c')) : c' = c.withService c'.service := by
  rw [setCountry, Act.on_bind_of_ok (Act.on_get c)] at h
  dsimp only at h
  split at h
  · obtain ⟨moved, c₁, tried, h⟩ := Act.on_bind_eq_ok.1 h
    cases moved with
    | true => cases h
    | false =>
      obtain ⟨-, rfl⟩ := Prod.mk.inj h
      exact tracked_eq_false tried
  · -- Without a cart there is nothing to move, and the call succeeds.
    cases h

/-- To empty the current cart tracks nothing. -/
theorem emptyCart_eq_ok {b : Bool} (h : Act.on emptyCart c = (.ok b, c')) :
    c' = c.withService c'.service := by
  rw [emptyCart, Act.on_bind_of_ok (Act.on_get c)] at h
  exact inService_eq_ok h

/-- To fail to make a cart leaves the country behind that it was to be made for. -/
theorem newCart_eq_null {country : Value} (h : Act.on (newCart country) c = (.ok .null, c')) :
    c' = { c with service := c'.service, country := country.orElse c.country } := by
  -- What is done in either case, from the current cart that the case comes to.
  have asked : ∀ {c₀ : CurrentCart}, Act.on (do
        let cartId ← inService (Service.newCart (← get).country)
        discard <| track cartId
        return cartId) c₀ = (.ok .null, c') → c' = c₀.withService c'.service := by
    intro c₀ h
    rw [Act.on_bind_of_ok (Act.on_get c₀)] at h
    obtain ⟨id, c₁, made, h⟩ := Act.on_bind_eq_ok.1 h
    obtain ⟨_, c₂, tracked, h⟩ := Act.on_bind_eq_ok.1 h
    obtain ⟨⟨⟩, rfl⟩ := Prod.mk.inj h
    obtain ⟨_, tracked⟩ := Act.on_discard_eq_ok.1 tracked
    rw [on_track_of_falsy rfl] at tracked
    obtain ⟨-, rfl⟩ := Prod.mk.inj tracked
    exact inService_eq_ok made
  rw [newCart] at h
  dsimp only at h
  split at h
  · -- The country is remembered before the cart is asked for.
    rename_i named
    rw [Act.on_bind_of_ok (Act.on_modify _ c)] at h
    rw [Value.orElse, if_pos named]
    exact asked h
  · rename_i unnamed
    rw [Value.orElse, if_neg unnamed]
    exact asked h

/-- An answer of no comes from a call that answered no. -/
theorem on_bool_eq_false {x : Act CurrentCart Bool}
    (h : Act.on (Value.bool <$> x) c = (.ok (.bool false), c')) : Act.on x c = (.ok false, c') := by
  rw [Act.on_map] at h
  rcases hx : Act.on x c with ⟨f | b, c₁⟩ <;> rw [hx] at h <;> cases h
  rfl

/-- All that a failed call leaves behind. -/
theorem run_of_fails (h : Act.on call.run c = (.ok a, c')) (hf : call.Fails a) :
    c' = { c with service := c'.service, country := call.named.orElse c.country } := by
  cases call with
  | newCart country =>
    obtain rfl : a = .null := hf
    exact newCart_eq_null h
  | setCountry country =>
    obtain rfl : a = .bool false := hf
    exact setCountry_eq_false (on_bool_eq_false h)
  | emptyCart =>
    obtain rfl : a = .bool false := hf
    exact emptyCart_eq_ok (on_bool_eq_false h)
  | setCartId _ => exact hf.elim
  | setWithAllocation _ => exact hf.elim
  | cart => exact hf.elim
  | cartExists => exact hf.elim
  | checkoutUrl => exact hf.elim
  | view => exact hf.elim
  | _ =>
    -- Any other call is a mutation of the cart.
    obtain rfl : a = .bool false := hf
    exact tracked_eq_false (on_bool_eq_false h)

/-- Reading asks for the cart and the country that are remembered. -/
theorem on_cart (c : CurrentCart) : Act.on cart c =
    if c.cartId.truthy then
      Act.on (inService (Service.cart c.cartId c.country c.withAllocation)) c
    else (.ok .null, c) := by
  rw [cart, Act.on_bind_of_ok (Act.on_get c)]
  split <;> rfl

/-- A failed call leaves the remembered cart alone.  It leaves the remembered country alone exactly
if it does not ask for a new cart in another one, which is remembered otherwise; and that is the
country that the cart is read in from then on. -/
theorem failure_keeps_memory_iff (h : Act.on call.run c = (.ok a, c')) (hf : call.Fails a) :
    (c'.cartId = c.cartId ∧ c'.country = c.country ↔
      ∀ country, call = .newCart country → country.truthy = true → country = c.country) ∧
    c'.cartId = c.cartId ∧
    (∀ country, call = .newCart country → country.truthy = true → c'.country = country) ∧
    Act.on cart c' = if c.cartId.truthy then
        Act.on (inService (Service.cart c.cartId (call.named.orElse c.country) c.withAllocation)) c'
      else (.ok .null, c') := by
  have left := run_of_fails h hf
  have cartId : c'.cartId = c.cartId := by rw [left]
  have country : c'.country = call.named.orElse c.country := by rw [left]
  have withAllocation : c'.withAllocation = c.withAllocation := by rw [left]
  have named : ∀ country, call = .newCart country → country.truthy = true →
      c'.country = country := by
    rintro n rfl truthy
    rw [country]
    exact if_pos truthy
  refine ⟨⟨?_, ?_⟩, cartId, named, ?_⟩
  · rintro ⟨-, kept⟩ n hn truthy
    rw [← kept, named n hn truthy]
  · intro same
    refine ⟨cartId, ?_⟩
    rw [country, Value.orElse]
    split
    · -- Only a call for a new cart names a country.
      rename_i truthy
      cases call with
      | newCart n => exact same n rfl truthy
      | _ => cases truthy
    · rfl
  · rw [on_cart, cartId, country, withAllocation]

/-- A current cart of a shop, before it was asked for anything. -/
def sampleStart : CurrentCart := new (CartCall.serviceOf (.new default (.fresh 0 0 [])))

/-- The call to take a cart that its owner has kept. -/
def sampleCalls : List Call := [.setCartId "gid://shopify/Cart/1"]

/-- A current cart in the home market. -/
def sampleMade : CurrentCart := (Act.on (sampleCalls.mapM Call.run) sampleStart).2

/-- A call for a new cart in a country without a market. -/
def sampleFailure : Call := .newCart "ZZ"

/-- The failure of the sample answers null. -/
theorem exists_on_sampleFailure :
    ∃ c', Act.on sampleFailure.run sampleMade = (.ok .null, c') := by
  have null : (Act.on sampleFailure.run sampleMade).1.toOption.map Value.isNull = some true := by
    decide +kernel
  rcases hr : Act.on sampleFailure.run sampleMade with ⟨f | a, c'⟩ <;> rw [hr] at null
  · cases null
  · cases a with
    | null => exact ⟨c', rfl⟩
    | _ => cases null

/-- The theorem at a creation that fails in a country without a market. -/
theorem failure_keeps_memory_iff_sample : ∃ c', Act.on sampleFailure.run sampleMade =
    (.ok .null, c') ∧
    sampleFailure.Fails .null ∧
    (c'.cartId = sampleMade.cartId ∧ c'.country = sampleMade.country ↔ ∀ country,
      sampleFailure = .newCart country → country.truthy = true → country = sampleMade.country) ∧
    c'.cartId = sampleMade.cartId ∧
    (∀ country, sampleFailure = .newCart country → country.truthy = true → c'.country = country) ∧
    Act.on cart c' = if sampleMade.cartId.truthy then
        Act.on (inService (Service.cart sampleMade.cartId
          (sampleFailure.named.orElse sampleMade.country) sampleMade.withAllocation)) c'
      else (.ok .null, c') := by
  obtain ⟨c', failed⟩ := exists_on_sampleFailure
  exact ⟨c', failed, rfl, failure_keeps_memory_iff failed rfl⟩

/-- A call for a new cart that fails moves the cart that is remembered. -/
theorem failed_making_moves_cart : ¬ ∀ (calls : List Call) (call : Call) (answers : List Value)
    (a : Value) (c c' : CurrentCart), Act.on (calls.mapM Call.run) sampleStart = (.ok answers, c) →
    Act.on call.run c = (.ok a, c') → call.Fails a →
    c'.cartId = c.cartId ∧ c'.country = c.country := by
  intro keeps
  obtain ⟨c', failed⟩ := exists_on_sampleFailure
  obtain ⟨-, same⟩ := keeps sampleCalls sampleFailure _ .null sampleMade c' rfl failed rfl
  -- The country that was asked for is remembered, though no cart was made in it.
  have left : c'.country = "ZZ" := by
    rw [run_of_fails failed rfl]
    rfl
  have home : sampleMade.country = Market.home := rfl
  rw [left, home] at same
  exact absurd (Value.text.inj same) (by decide)

/-! ### Calls in a row -/

/-- However many calls fail in a row, the cart stays remembered, and the country is the last one
that a new cart was asked for in. -/
theorem failures_remember {calls : List Call} {answers : List Value}
    (h : Act.on (calls.mapM Call.run) c = (.ok answers, c'))
    (hf : List.Forall₂ Call.Fails calls answers) :
    c'.cartId = c.cartId ∧ c'.country = lastNamed (calls.map Call.named) c.country := by
  -- On the calls, for any `c`: the next call starts from what the failed one left.
  induction hf generalizing c with
  | nil =>
    obtain ⟨-, rfl⟩ := Prod.mk.inj h
    exact ⟨rfl, rfl⟩
  | @cons call a calls answers hfails _ ih =>
    rw [List.mapM_cons] at h
    obtain ⟨b, c₁, first, h⟩ := Act.on_bind_eq_ok.1 h
    obtain ⟨bs, c₂, rest, h⟩ := Act.on_bind_eq_ok.1 h
    obtain ⟨⟨⟩, rfl⟩ := Prod.mk.inj h
    obtain ⟨cartId, country⟩ := ih rest
    have left := run_of_fails first hfails
    rw [List.map_cons, lastNamed_cons]
    rw [left] at cartId country
    exact ⟨cartId, country⟩

end Storefront.CurrentCart
