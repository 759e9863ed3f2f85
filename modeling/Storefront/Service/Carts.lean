import Storefront.CartView
import Storefront.Document.Catalogue
import Storefront.Service

/-! # The cart service

Operations on carts as a customer's client performs them.  A mutation answers with the raw
identifier of the cart, or with null if it was rejected; the errors of all calls are collected. -/

namespace Storefront.Service

/-- Collects the last error of the client, or the given error if there is none, unless that is
falsy. -/
def collectError (o : Operation) (error : Value) : Act Service Unit := do
  let error := (← get).client.lastError.orElse error
  if error.truthy then
    collect [error]
    inNetwork <| Network.record .warning "Shopify Cart error"
      [("endpoint", .text o.signature), ("error", error)]

/-- Sends a mutation; the answer is the identifier of the cart. -/
def mutate (o : Operation) (document : String) (vars : Value) : Act Service Value := do
  let data := (← ask document vars).orElse (.record [])
  let payload := (← data.member o.root).orElse (.record [])
  collectError o (← payload.member "userErrors")
  Gid.decodeValue (← ((← payload.member "cart").orElse (.record [])).member "id")

/-! ### Making and reading carts -/

/-- Makes a cart for a country. -/
def newCart (country : Value) : Act Service Value :=
  mutate .cartCreate Document.cartCreate
    (.ofFields [("input", .ofFields [("buyerIdentity", .ofFields [("countryCode", country)])])])

/-- Moves a cart to a country; further members of the buyer's identity are sent as they are. -/
def setBuyerIdentity (cartId country identity : Value) : Act Service Value := do
  let cartId ← Gid.encodeValue cartId
  let identity ← (identity.orElse (.record [])).asRecord
  mutate .cartBuyerIdentityUpdate Document.cartBuyerIdentityUpdate
    (.ofFields [("cartId", cartId),
      ("buyerIdentity", (Value.record identity).put "countryCode" country)])

/-- Reads a cart in the market of a country. -/
def cart (cartId country withAllocation : Value) : Act Service Value := do
  let allocation := if withAllocation.truthy then Document.sellingPlanAllocation else ""
  let id ← Gid.encodeValue cartId
  let data ← ask (Document.cartGet allocation)
    (.ofFields [("cartId", id), ("countryCode", country)])
  let cart ← (data.orElse (.record [])).member "cart"
  -- No cart is an error even where the shop answers without one.
  if !cart.truthy then
    collectError .cartGet (.text ("Cart " ++ cartId.display ++ " not found"))
  return cart

/-- Whether there is a cart. -/
def cartExists (cartId country : Value) : Act Service Bool := do
  if !cartId.truthy then return false
  return !(← cart cartId country (.bool false)).isNull

/-- Where a cart is paid for. -/
def checkoutUrl (cartId country : Value) : Act Service Value := do
  let cart ← cart cartId country (.bool false)
  if cart.truthy then cart.member "checkoutUrl" else return .null

/-! ### Lines -/

/-- What is sent to add one line. -/
def additionOf (planId : Value) (variant : Key) (line : Value) : Except Fault Value := do
  let input ← LineInput.coerce line
  let variant ← variant.toValue.written
  let merchandise ← Gid.encodeText (Gid.normalise Gid.variantPrefix variant)
  let plan ← Gid.encodeValue planId
  return (← LineAddition.check [(.text "merchandiseId", .text merchandise),
    (.text "quantity", .int input.quantity),
    (.text "attributes", .list (input.attributes.map (·.toValue))),
    (.text "sellingPlanId", plan)]).toValue

/-- Adds lines, given by their variants. -/
def addLines (cartId lines planId : Value) : Act Service Value := do
  let additions ← (← lines.asRecord).mapM fun (variant, line) =>
    liftM (additionOf planId variant line)
  mutate .cartLinesAdd Document.cartLinesAdd
    (.ofFields [("cartId", ← Gid.encodeValue cartId), ("lines", .list additions)])

/-- Adds one line. -/
def addLine (cartId variant line planId : Value) : Act Service Value := do
  addLines cartId (.record [(← variant.asKey, line)]) planId

/-- What is sent to update one line. -/
def changeOf (lineId : Key) (line : Value) : Except Fault Value := do
  let input ← LineInput.coerce line
  let id ← Gid.encodeValue lineId.toValue
  return (← LineChange.check [(.text "id", id), (.text "quantity", .int input.quantity),
    (.text "attributes", .list (input.attributes.map (·.toValue)))]).toValue

/-- Adds pieces and attributes to lines, given by their identifiers. -/
def updateLines (cartId lines : Value) : Act Service Value := do
  let changes ← (← lines.asRecord).mapM fun (id, line) => liftM (changeOf id line)
  mutate .cartLinesUpdate Document.cartLinesUpdate
    (.ofFields [("cartId", ← Gid.encodeValue cartId), ("lines", .list changes)])

/-- Adds pieces and attributes to one line. -/
def updateLine (cartId lineId line : Value) : Act Service Value := do
  updateLines cartId (.record [(← lineId.asKey, line)])

/-- Removes lines. -/
def removeLines (cartId lineIds : Value) : Act Service Value := do
  let id ← Gid.encodeValue cartId
  let lineIds ← (← lineIds.elements).mapM fun v => liftM (Gid.encodeValue v)
  mutate .cartLinesRemove Document.cartLinesRemove
    (.ofFields [("cartId", id), ("lineIds", .list lineIds)])

/-- Removes one line. -/
def removeLine (cartId lineId : Value) : Act Service Value := removeLines cartId (.list [lineId])

/-- The identifiers of a received cart's lines. -/
def lineIdsOf (cart : Value) : Except Fault (List Value) := do
  let edges ← (← (← cart.item "lines").item "edges").elements
  edges.mapM fun edge => do Gid.decodeValue (← (← edge.item "node").item "id")

/-- Removes all lines; the answer is whether there were any. -/
def emptyCart (cartId country : Value) : Act Service Bool := do
  let cart ← cart cartId country (.bool false)
  if !cart.truthy then return false
  let lineIds ← lineIdsOf cart
  if lineIds.isEmpty then return false
  return !(← removeLines cartId (.list lineIds)).isNull

/-! ### Notes, attributes and discount codes -/

/-- Sets the note. -/
def setNote (cartId note : Value) : Act Service Value := do
  mutate .cartNoteUpdate Document.cartNoteUpdate
    (.ofFields [("cartId", ← Gid.encodeValue cartId), ("note", note)])

/-- Sets an attribute. -/
def setAttribute (cartId key value : Value) : Act Service Value := do
  mutate .cartAttributesUpdate Document.cartAttributesUpdate
    (.ofFields [("cartId", ← Gid.encodeValue cartId),
      ("attributes", .list [.ofFields [("key", key), ("value", value)]])])

/-- Sets the discount codes. -/
def setDiscountCodes (cartId codes : Value) : Act Service Value := do
  let id ← Gid.encodeValue cartId
  mutate .cartDiscountCodesUpdate Document.cartDiscountCodesUpdate
    (.ofFields [("cartId", id), ("discountCodes", .list (← codes.elements))])

end Storefront.Service
