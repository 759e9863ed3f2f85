import Storefront.Service.Carts

/-! # The current cart

A cart service together with the cart and the country that it is used for.  Only a call that
succeeds changes which cart that is. -/

namespace Storefront

/-- A cart service for one cart. -/
structure CurrentCart where
  service : Service
  cartId : Value
  country : Value
  /-- Whether reading the cart asks for the selling plans of its lines. -/
  withAllocation : Value

namespace CurrentCart

/-- A service without a cart. -/
def new (service : Service) : CurrentCart := ⟨service, .null, Market.home, .bool false⟩

/-- Acts with the service. -/
def inService {α : Type} (act : Act Service α) : Act CurrentCart α :=
  Act.onPart CurrentCart.service (fun s c => { c with service := s }) act

/-- Remembers a cart, unless there is none. -/
def track (cartId : Value) : Act CurrentCart Bool := do
  if cartId.truthy then
    modify fun c => { c with cartId := cartId }
    return true
  return false

/-- Performs a mutation of the current cart. -/
def tracked (mutation : (cartId : Value) → Act Service Value) : Act CurrentCart Bool := do
  track (← inService (mutation (← get).cartId))

/-- Makes a cart, for another country if one is named. -/
def newCart (country : Value) : Act CurrentCart Value := do
  if country.truthy then modify fun c => { c with country := country }
  let cartId ← inService (Service.newCart (← get).country)
  discard <| track cartId
  return cartId

/-- Takes another cart. -/
def setCartId (cartId : Value) : Act CurrentCart Unit := modify fun c => { c with cartId := cartId }

/-- Moves the cart, or what comes to be the cart, to another country. -/
def setCountry (country : Value) : Act CurrentCart Bool := do
  let moved ← if (← get).cartId.truthy then
      tracked fun cartId => Service.setBuyerIdentity cartId country .null
    else pure true
  if moved then modify fun c => { c with country := country }
  return moved

/-- Determines whether reading the cart asks for selling plans. -/
def setWithAllocation (v : Value) : Act CurrentCart Unit :=
  modify fun c => { c with withAllocation := v }

/-- Reads the cart. -/
def cart : Act CurrentCart Value := do
  let c ← get
  if c.cartId.truthy then inService (Service.cart c.cartId c.country c.withAllocation)
  else return .null

/-- Whether there is such a cart. -/
def cartExists : Act CurrentCart Bool := do
  let c ← get
  if c.cartId.truthy then inService (Service.cartExists c.cartId c.country) else return false

/-- Where the cart is paid for. -/
def checkoutUrl : Act CurrentCart Value := do
  let c ← get
  if c.cartId.truthy then inService (Service.checkoutUrl c.cartId c.country) else return .null

/-- Adds one line. -/
def addLine (variant line planId : Value) : Act CurrentCart Bool :=
  tracked fun cartId => Service.addLine cartId variant line planId

/-- Adds lines, given by their variants. -/
def addLines (lines planId : Value) : Act CurrentCart Bool :=
  tracked fun cartId => Service.addLines cartId lines planId

/-- Adds pieces and attributes to one line. -/
def updateLine (lineId line : Value) : Act CurrentCart Bool :=
  tracked fun cartId => Service.updateLine cartId lineId line

/-- Adds pieces and attributes to lines, given by their identifiers. -/
def updateLines (lines : Value) : Act CurrentCart Bool :=
  tracked fun cartId => Service.updateLines cartId lines

/-- Removes one line. -/
def removeLine (lineId : Value) : Act CurrentCart Bool :=
  tracked fun cartId => Service.removeLine cartId lineId

/-- Removes lines. -/
def removeLines (lineIds : Value) : Act CurrentCart Bool :=
  tracked fun cartId => Service.removeLines cartId lineIds

/-- Removes all lines; the answer is whether there were any. -/
def emptyCart : Act CurrentCart Bool := do
  let c ← get
  inService (Service.emptyCart c.cartId c.country)

/-- Sets the note. -/
def setNote (note : Value) : Act CurrentCart Bool :=
  tracked fun cartId => Service.setNote cartId note

/-- Sets an attribute. -/
def setAttribute (key value : Value) : Act CurrentCart Bool :=
  tracked fun cartId => Service.setAttribute cartId key value

/-- Sets the discount codes. -/
def setDiscountCodes (codes : Value) : Act CurrentCart Bool :=
  tracked fun cartId => Service.setDiscountCodes cartId codes

/-- The view of the current cart. -/
def view : Act CurrentCart CartView := return CartView.of (← cart)

end CurrentCart
end Storefront
