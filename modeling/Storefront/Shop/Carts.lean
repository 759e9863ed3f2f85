import Storefront.Cart.Record
import Storefront.Discount
import Storefront.Market
import Storefront.Shop.Catalogue

/-! # The carts of a shop

Every change of a cart is made in two steps: the changed cart is kept, then it is repriced for the
market that it is asked for in, so that its costs follow from its lines and from the catalogue.  A
request that makes no sense, or names no cart, is rejected: the answer is none, and nothing
changes.

What the store keeps as a cart is either one that the shop made or a record that was put in from
outside; a `KeptCart` is either, and each operation treats both alike. -/

namespace Storefront

namespace Cart

/-- A line with more pieces and more attributes. -/
def extended (l : Line) (quantity : Int) (attributes : List Value) : Line :=
  { l with quantity := l.quantity + quantity, attributes := l.attributes ++ attributes }

/-- The lines with the first that meets a condition replaced. -/
def replaceFirst (p : Line → Bool) (f : Line → Line) : List Line → List Line
  | [] => []
  | l :: ls => if p l then f l :: ls else l :: replaceFirst p f ls

/-- The text by which the keys of cart attributes are compared. -/
def foldedKey (key : Value) : String := Text.lower key.display

/-- The attributes with one set: it replaces the first with the same folded key, or goes last. -/
def setAttribute (a : Attribute) : List Attribute → List Attribute
  | [] => [a]
  | b :: bs => if foldedKey b.key = foldedKey a.key then a :: bs else b :: setAttribute a bs

end Cart

/-- A cart as the store keeps it. -/
inductive KeptCart where
  /-- A cart that the shop made. -/
  | made (c : Cart)
  /-- A value that was put in from outside. -/
  | given (v : Value)

namespace KeptCart

/-- The cart that an entity is; anything falsy is none. -/
def ofEntity? : Entity → Option KeptCart
  | .cart c => some (.made c)
  | e => if e.toValue.truthy then some (.given e.toValue) else none

/-- A kept cart as an entity. -/
def toEntity : KeptCart → Entity
  | made c => .cart c
  | given v => .record v

/-- A kept cart as a record. -/
def toValue : KeptCart → Value
  | made c => c.toValue
  | given v => v

/-- The country that a cart is asked for in: its own, unless another is named. -/
def countryFor (country : Value) : KeptCart → Except Fault Key
  | made c => if country.truthy then country.asKey else .ok c.country
  | given v => do
    if country.truthy then country.asKey else (← CartRecord.country v).asKey

/-- The identifiers of the lines of a cart. -/
def lineIds : KeptCart → Except Fault (List Value)
  | made c => .ok (c.lines.map fun l => .text l.id)
  | given v => CartRecord.lineIds v

/-- A cart with the time of its last change. -/
def changedAt (now : String) : KeptCart → Except Fault KeptCart
  | made c => .ok (made { c with updatedAt := now })
  | given v => given <$> v.withItem "updatedAt" now

/-- A cart with another note. -/
def withNote (note : Value) : KeptCart → Except Fault KeptCart
  | made c => .ok (made { c with note })
  | given v => given <$> v.withItem "note" note

/-- A cart with an attribute set. -/
def withAttribute (a : Attribute) : KeptCart → Except Fault KeptCart
  | made c => .ok (made { c with attributes := Cart.setAttribute a c.attributes })
  | given v => do
    let sameKey := fun key => Cart.foldedKey key = Cart.foldedKey a.key
    return given (← CartRecord.withAttribute v sameKey a.toValue)

/-- A cart with a discount code, which is its only one. -/
def withDiscount (d : AppliedCode) : KeptCart → Except Fault KeptCart
  | made c => .ok (made { c with discount := some d })
  | given v => given <$> v.withItem "discountCodes" (.list [Cart.codeValue d])

/-- A cart without the lines of some identifiers. -/
def without (ids : List String) : KeptCart → Except Fault KeptCart
  | made c => .ok (made { c with lines := c.lines.filter fun l => !ids.contains l.id })
  | given v => given <$> CartRecord.without v ids

/-- A cart with the first of its lines extended that has the given identifier, if there is one.
Which identifier of a line counts is said for a line of the shop's own, and for a line within
its edge. -/
def extend? (idOf : Line → String) (idOfEdge : Value → Except Fault Value) (id : String)
    (quantity : Int) (attributes : Value) : KeptCart → Except Fault (Option KeptCart)
  | made c => do
    if !c.lines.any (idOf · = id) then return none
    let lines := Cart.replaceFirst (idOf · = id) (Cart.extended · quantity (← attributes.elements))
    return some (made { c with lines := lines c.lines })
  | given v => return (← CartRecord.extend? v idOfEdge id quantity attributes).map given

/-- A cart with the line of an identifier extended, if it has such a line. -/
def extendLine? (id : String) (quantity : Int) (attributes : Value) (cart : KeptCart) :
    Except Fault (Option KeptCart) :=
  cart.extend? (·.id) CartRecord.lineId id quantity attributes

/-- A cart with the line of a variant extended, if it has such a line. -/
def extendVariant? (variant : String) (quantity : Int) (attributes : Value) (cart : KeptCart) :
    Except Fault (Option KeptCart) :=
  cart.extend? (·.variant) CartRecord.variantId variant quantity attributes

end KeptCart

namespace Shop

/-! ### Finding and keeping -/

/-- The raw identifier of a cart and the cart, if there is one. -/
def findCart (id : Value) : Act Shop (Option (String × KeptCart)) := do
  let id ← Gid.decodeValue id
  if !id.truthy then return none
  let id ← id.asText
  return ((← find? Gid.cartPrefix (.text id)).bind KeptCart.ofEntity?).map ((id, ·))

/-- Whether there is a cart under an identifier. -/
def hasCart (id : Value) : Act Shop Bool := do
  let id ← Gid.decodeValue id
  if !id.truthy then return false
  has Gid.cartPrefix (← id.asKey)

/-- Keeps a cart. -/
def keepCart (id : String) (c : KeptCart) : Act Shop Unit :=
  keep Gid.cartPrefix (.text id) c.toEntity

/-! ### Repricing -/

/-- What has been priced of a cart: the lines so far, of whatever kind, and their sum. -/
structure Priced (α : Type) where
  lines : List α
  net : Float

/-- The price of a piece and the amount for a quantity of a variant. -/
def amountsOf (market : Market) (variant : Key) (quantity : Except Fault Value) :
    Act Shop (Float × Float) := do
  let unit ← market.priceOf (← priceOf variant)
  return (unit, unit * (← (← quantity).number))

/-- Prices one more line for a market. -/
def priceLine (market : Market) (sofar : Priced Line) (l : Line) : Act Shop (Priced Line) := do
  let (unit, amount) ← amountsOf market (.text l.variant) (.ok (.int l.quantity))
  let money := Money.of amount market.currency
  let priced :=
    { l with subtotal := money, total := money, price := Money.of unit market.currency }
  return ⟨sofar.lines ++ [priced], sofar.net + amount⟩

/-- Prices the line of one more edge for a market. -/
def priceEdge (market : Market) (sofar : Priced Value) (edge : Value) :
    Act Shop (Priced Value) := do
  let line ← CartRecord.lineOf edge
  let variant ← (← CartRecord.variantId edge).asKey
  let (unit, amount) ← amountsOf market variant (line.item "quantity")
  let priced ← CartRecord.pricedLine line unit amount market.currency
  return ⟨sofar.lines ++ [← edge.withItem "node" priced], sofar.net + amount⟩

/-- The total, subtotal and tax of a net amount in a market. -/
def costsOf (market : Market) (net : Float) : Money × Money × Money :=
  let tax := net * market.vat
  (Money.of (net + tax) market.currency, Money.of net market.currency,
    Money.of tax market.currency)

/-- The cart priced for the market of a country. -/
def priced (country : Key) : KeptCart → Act Shop KeptCart
  | .made c => do
    let market := Market.ofKey country
    let ⟨lines, net⟩ ← c.lines.foldlM (priceLine market) ⟨[], 0⟩
    let (total, subtotal, tax) := costsOf market net
    return .made { c with country, lines, total, subtotal, tax := some tax }
  | .given v => do
    let market := Market.ofKey country
    let cart ← CartRecord.withCountry v country
    let edges ← CartRecord.edges cart
    let ⟨lines, net⟩ ← (← edges.elements).foldlM (priceEdge market) ⟨[], 0⟩
    -- What holds no lines may be other than a list, and stays so.
    let cart ← if lines.isEmpty then pure cart else liftM (CartRecord.withEdges cart (.list lines))
    let (total, subtotal, tax) := costsOf market net
    return .given (← CartRecord.withCosts cart total subtotal tax)

/-- Reprices the kept cart for the market of a country, or for its own if none is named. -/
def repriceCart (id : String) (country : Value) : Act Shop (Option KeptCart) := do
  match ← findCart (.text id) with
  | none => return none
  | some (id, cart) =>
    let cart ← priced (← cart.countryFor country) cart
    keepCart id cart
    return some cart

/-- Keeps a changed cart and reprices it. -/
def commit (id : String) (cart : KeptCart) (country : Value) : Act Shop (Option KeptCart) := do
  let now ← timestamp
  -- The cart stays changed even if it cannot be repriced.
  keepCart id (← cart.changedAt now)
  repriceCart id country

/-- Changes a cart that has to exist.  What the request lists is read first; a change that gives no
cart rejects the request. -/
def editCart (id country : Value) (listed : Except Fault (List Value))
    (change : List Value → KeptCart → Act Shop (Option KeptCart)) : Act Shop (Option KeptCart) := do
  let found ← findCart id
  let listed ← listed
  match found with
  | none => return none
  | some (id, cart) =>
    match ← change listed cart with
    | none => return none
    | some changed => commit id changed country

/-! ### Making and reading -/

/-- Makes an empty cart for a country, which has to have a market. -/
def createCart (country given : Value) : Act Shop (Option Cart) := do
  let country ← country.asKey
  if !Market.hasKey country then return none
  let id ← Gid.decodeValue given
  let id ← if id.truthy then id.asText else freshId Gid.cartPrefix
  discard <| Gid.encodeText id
  let now ← timestamp
  let currency := (Market.ofKey country).currency
  let base := (← get).context.shopBaseUrl.display
  let cart : Cart :=
    { id, createdAt := now, updatedAt := now
      checkoutUrl := "https://" ++ base ++ "/cart/c/" ++ Gid.dropStart Gid.cartPrefix id
      country, attributes := [], discount := none, note := "", lines := []
      total := Money.zero currency, subtotal := Money.zero currency, tax := none }
  keepCart id (.made cart)
  return some cart

/-- Moves a cart to the market of a country, or reprices it for its own. -/
def setCountry (id country : Value) : Act Shop (Option KeptCart) := do
  if !(← hasCart id) then return none
  repriceCart (← (← Gid.decodeValue id).asText) country

/-- Reads a cart in the market of a country, or in its own. -/
def getCart (id country : Value) : Act Shop (Option KeptCart) := setCountry id country

/-! ### Lines -/

/-- The number of pieces that a line asks for; zero if it cannot be read. -/
def quantityOf (line : Value) : Except Fault Int := do
  match ((← line.member "quantity").orElse (.int 0)).wholeNumber with
  | .ok n => return n
  | .error .infiniteWhole => throw .infiniteWhole
  | .error _ => return 0

/-- A line of a request whose identifier and quantity have been checked. -/
structure LineRequest where
  id : Value
  quantity : Int
  attributes : Value

/-- The lines of a request, if each has an identifier under the given name and asks for at least one
piece. -/
def lineRequests (idName : String) : List Value → Except Fault (Option (List LineRequest))
  | [] => .ok (some [])
  | line :: lines => do
    let id ← line.member idName
    if !id.truthy then return none
    let quantity ← quantityOf line
    if quantity < 1 then return none
    let attributes ← line.member "attributes"
    return (← lineRequests idName lines).map (⟨id, quantity, attributes⟩ :: ·)

/-- The lines of a request that has any, if they are in order. -/
def requestsOf (idName : String) (lines : List Value) : Except Fault (Option (List LineRequest)) :=
  if lines.isEmpty then .ok none else lineRequests idName lines

/-- A new line for a variant; its costs are still to be computed. -/
def newLine (variant : String) (quantity : Int) (attributes : Value) (currency : String) :
    Act Shop Line := do
  let record ← variantRecord variant
  let image ← pictureOf record
  let id ← freshId Gid.cartLinePrefix
  discard <| Gid.encodeText id
  let attributes ← attributes.elements
  discard <| Gid.encodeText variant
  let product ← Gid.encodeValue (← record.item "product_id")
  let zero := Money.zero currency
  return { id, attributes, quantity, subtotal := zero, total := zero, variant, price := zero
           product, title := ← record.item "title", image }

/-- The cart with one more line, of a variant that it does not have yet. -/
def withNewLine (currency : String) (cart : KeptCart) (variant : String) (quantity : Int)
    (attributes : Value) : Act Shop KeptCart :=
  match cart with
  | .made c => do
    return .made { c with lines := c.lines ++ [← newLine variant quantity attributes currency] }
  | .given v => do
    -- Nothing is made up for a cart that cannot take the line.
    discard <| (← CartRecord.edges v).asList
    return .given (← CartRecord.withLine v (← newLine variant quantity attributes currency).toValue)

/-- Adds one line of a request: a variant that the cart has already gets more pieces. -/
def addRequest (currency : String) (cart : KeptCart) (r : LineRequest) : Act Shop KeptCart := do
  let variant ← (← Gid.decodeValue r.id).asText
  let attributes := r.attributes.orElse (.list [])
  match ← cart.extendVariant? variant r.quantity attributes with
  | some cart => return cart
  | none => withNewLine currency cart variant r.quantity attributes

/-- The cart with the lines of a request added, if these are in order. -/
def withAdditions (country : Value) (lines : List Value) (cart : KeptCart) :
    Act Shop (Option KeptCart) := do
  match ← requestsOf "merchandiseId" lines with
  | none => return none
  | some requests =>
    -- All requests are in order: only now are variants made up for those that are not known.
    let currency := (Market.ofKey (← cart.countryFor country)).currency
    return some (← requests.foldlM (addRequest currency) cart)

/-- Adds lines to a cart. -/
def addLines (id country lines : Value) : Act Shop (Option KeptCart) :=
  editCart id country lines.elementsOrNone (withAdditions country)

/-- Adds the pieces and attributes of one line of a request to the line that it names, if any. -/
def updateRequest (cart : KeptCart) (r : LineRequest) : Except Fault KeptCart := do
  let id ← (← Gid.decodeValue r.id).asText
  return (← cart.extendLine? id r.quantity (r.attributes.orElse (.list []))).getD cart

/-- The cart after the requests to update its lines. -/
def updated (cart : KeptCart) (requests : List LineRequest) : Except Fault KeptCart :=
  requests.foldlM updateRequest cart

/-- The cart with the lines of a request updated, if these are in order. -/
def withUpdates (lines : List Value) (cart : KeptCart) : Except Fault (Option KeptCart) := do
  match ← requestsOf "id" lines with
  | none => return none
  | some requests => return some (← updated cart requests)

/-- Adds pieces and attributes to lines of a cart. -/
def updateLines (id country lines : Value) : Act Shop (Option KeptCart) :=
  editCart id country lines.elementsOrNone fun lines cart => withUpdates lines cart

/-- The cart without the lines that are named, if any is and none is named by a falsy value. -/
def withRemovals (lineIds : List Value) (cart : KeptCart) : Except Fault (Option KeptCart) := do
  if lineIds.isEmpty || !lineIds.all (·.truthy) then return none
  let removed ← lineIds.mapM fun v => do (← Gid.decodeValue v).asText
  return some (← cart.without removed)

/-- Removes lines from a cart. -/
def removeLines (id country lineIds : Value) : Act Shop (Option KeptCart) :=
  editCart id country lineIds.elementsOrNone fun lineIds cart => withRemovals lineIds cart

/-- Removes all lines from a cart; the answer is whether there were any. -/
def emptyCart (id country : Value) : Act Shop Bool := do
  match ← getCart id country with
  | none => return false
  | some cart =>
    let lineIds ← cart.lineIds
    if lineIds.isEmpty then return false
    return (← removeLines id country (.list lineIds)).isSome

/-! ### Notes, attributes and discount codes -/

/-- Sets the note of a cart. -/
def setNote (id country note : Value) : Act Shop (Option KeptCart) :=
  editCart id country (.ok []) fun _ cart => some <$> cart.withNote (note.orElse "")

/-- The cart with an attribute set, if both its key and its value are truthy. -/
def withAttribute (key value : Value) (cart : KeptCart) : Except Fault (Option KeptCart) := do
  if !key.truthy || !value.truthy then return none
  return some (← cart.withAttribute ⟨key, value⟩)

/-- Sets an attribute of a cart; key and value have to be truthy. -/
def setAttribute (id country key value : Value) : Act Shop (Option KeptCart) :=
  editCart id country (.ok []) fun _ cart => withAttribute key value cart

/-- The cart with the first of some discount codes, if there is any. -/
def withDiscount (codes : List Value) (cart : KeptCart) : Except Fault (Option KeptCart) :=
  match codes with
  | [] => return none
  | code :: _ => some <$> cart.withDiscount ⟨code, Discount.isAccepted code⟩

/-- Sets the discount code of a cart: the first of those given. -/
def setDiscount (id country codes : Value) : Act Shop (Option KeptCart) :=
  editCart id country codes.elementsOrNone fun codes cart => withDiscount codes cart

end Shop
end Storefront
