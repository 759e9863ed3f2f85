import Storefront.Calendar.Reading
import Storefront.Decimal.Fixed
import Storefront.Gid
import Storefront.Value.Same

/-! # Views of a cart for display

A `CartView` shows a cart, in whatever state of completeness it was received, as texts and line
items for display.  What is absent or empty is shown by a fixed substitute; what has the wrong
shape is a fault. -/

namespace Storefront

/-- A cart as it was received, to be displayed. -/
structure CartView where
  cart : Value

namespace CartView

/-- The view of a received cart; anything falsy counts as an empty cart. -/
def of (cart : Value) : CartView := ⟨cart.orElse (.record [])⟩

/-- The short names of the months. -/
def monthNames : List String :=
  ["Jan", "Feb", "Mar", "Apr", "May", "Jun", "Jul", "Aug", "Sep", "Oct", "Nov", "Dec"]

/-- A moment for display, such as `Jan 5, 2023 at 2:03pm`. -/
def momentText (m : Calendar.Moment) : String :=
  let hour := if m.hour % 12 = 0 then 12 else m.hour % 12
  monthNames.getD (m.month - 1) "" ++ " " ++ Decimal.whole m.day ++ ", " ++ Decimal.whole m.year ++
    " at " ++ Decimal.whole hour ++ ":" ++ String.ofList (Decimal.padded 2 m.minute) ++
    (if m.hour < 12 then "am" else "pm")

/-- A date for display, empty where there is none. -/
def dateText (date : Value) : Except Fault String :=
  if date.truthy then do
    match Calendar.Moment.read (← date.asText) with
    | .ok m => return momentText m
    | .error e => throw (.value (.date e))
  else .ok ""

/-- What is shown for a price that is not known. -/
def noPrice : String := "N/A"

/-- A price for display: its currency and its amount with two places. -/
def priceText (price : Value) : Except Fault String :=
  if price.truthy then do
    let currency ← price.memberOr "currencyCode" ""
    let amount ← ((← price.member "amount").orElse (.int 0)).realNumber
    return (← currency.written) ++ " " ++ Decimal.fixed 2 amount
  else .ok noPrice

/-- The raw identifier of the cart. -/
def id (v : CartView) : Except Fault Value := do Gid.decodeValue (← v.cart.member "id")

/-- The token of the cart's identifier. -/
def token (v : CartView) : Except Fault Value := do
  return (← Gid.stripValue (← v.id) Gid.cartPrefix).orElse ""

/-- A member of the cart, the substitute if it is falsy. -/
def memberOrElse (v : CartView) (name : String) (substitute : Value) : Except Fault Value := do
  return (← v.cart.member name).orElse substitute

/-- The country that the cart is priced for. -/
def country (v : CartView) : Except Fault Value := do
  return (← (← v.memberOrElse "buyerIdentity" (.record [])).member "countryCode").orElse ""

/-- When the cart was made. -/
def createdAt (v : CartView) : Except Fault String := do dateText (← v.cart.member "createdAt")

/-- When the cart was last changed. -/
def updatedAt (v : CartView) : Except Fault String := do dateText (← v.cart.member "updatedAt")

/-- Where the cart is paid for. -/
def checkoutUrl (v : CartView) : Except Fault Value := v.memberOrElse "checkoutUrl" ""

/-- The note of the cart. -/
def note (v : CartView) : Except Fault Value := v.memberOrElse "note" ""

/-- The attributes of the cart. -/
def attributes (v : CartView) : Except Fault Value := v.memberOrElse "attributes" (.list [])

/-- The discount codes of the cart. -/
def discountCodes (v : CartView) : Except Fault Value := v.memberOrElse "discountCodes" (.list [])

/-- The costs of a cart for display, each under its name. -/
def costs (v : CartView) : Except Fault (List (String × String)) := do
  let cost ← v.memberOrElse "estimatedCost" (.record [])
  let net ← priceText (← cost.member "subtotalAmount")
  let tax ← priceText (← cost.member "totalTaxAmount")
  let total ← priceText (← cost.member "totalAmount")
  return [("net", net), ("tax", tax), ("total", total)]

/-- A line of a cart for display. -/
structure Item where
  id : Value
  title : Value
  productId : Value
  variantId : Value
  quantity : Value
  price : String
  image : Value

/-- An item as a record. -/
def Item.toValue (i : Item) : Value :=
  .ofFields [("id", i.id), ("title", i.title), ("product_id", i.productId),
    ("variant_id", i.variantId), ("quantity", i.quantity), ("price", i.price), ("image", i.image)]

/-- The first node of a connection, if the connection has any. -/
def firstNode? (owner : Value) (connection : String) : Except Fault (Option Value) := do
  let edges ← ((← owner.member connection).orElse (.record [])).member "edges"
  if edges.truthy then return some (← (← edges.head).item "node") else return none

/-- A line for display, with its product, variant and image if asked for. -/
def item? (detailed : Bool) (edge : Value) : Except Fault (Option Item) := do
  let node ← edge.member "node"
  if !node.truthy then return none
  let merchandise := (← node.member "merchandise").orElse (.record [])
  let product := (← merchandise.member "product").orElse (.record [])
  let plain : Item :=
    { id := ← Gid.decodeValue (← node.member "id")
      title := ← product.memberOr "title" ""
      productId := .null
      variantId := .null
      quantity := ← node.memberOr "quantity" (.int 0)
      price := ← priceText (← merchandise.member "priceV2")
      image := .null }
  if !detailed then return some plain
  let productId ← Gid.decodeValue (← product.member "id")
  let variantId ← match ← firstNode? product "variants" with
    | some variant => Gid.decodeValue (← variant.member "id")
    | none => pure .null
  let image ← match ← firstNode? product "images" with
    | some image => image.member "src"
    | none => pure .null
  return some { plain with productId := productId, variantId := variantId, image := image }

/-- The lines of the cart as they were received. -/
def edges (v : CartView) : Except Fault (List Value) := do
  let edges ← (← v.memberOrElse "lines" (.record [])).member "edges"
  edges.elementsOrNone

/-- The lines of the cart for display; a line without content is left out. -/
def items (v : CartView) (detailed : Bool) : Except Fault (List Item) := do
  return (← (← v.edges).mapM (item? detailed)).filterMap fun i => i

/-- The first of the lines under an identifier. -/
def findEdge? (id : Value) : List Value → Except Fault (Option Value)
  | [] => .ok none
  | edge :: edges => do
    let node := (← edge.member "node").orElse (.record [])
    if (← Gid.decodeValue (← node.member "id")).same id then return some edge
    findEdge? id edges

/-- The line under an identifier for display. -/
def item (v : CartView) (id : Value) (detailed : Bool) : Except Fault (Option Item) := do
  match ← findEdge? (← Gid.decodeValue id) (← v.edges) with
  | some edge => item? detailed edge
  | none => return none

/-- The whole cart as indented JSON. -/
def json (v : CartView) : Except Fault String := Json.written (.indented 4) v.cart

end CartView

namespace CostText

/-- The symbols of currencies. -/
def symbols : List (Key × String) :=
  [(.text "AUD", "$"), (.text "CHF", "CHF"), (.text "CNY", "¥"), (.text "EUR", "€"),
    (.text "JPY", "¥"), (.text "GBP", "£"), (.text "NZD", "$"), (.text "SGD", "$"),
    (.text "ZAR", "R"), (.text "USD", "$")]

/-- The symbol of a currency; an unknown currency is its own symbol. -/
def symbol (currency : Value) : Except Fault Value := do
  let key ← currency.asKey
  match Assoc.get? symbols key with
  | some s => return .text s
  | none => return currency

/-- The total of a cart for display, empty where there is none. -/
def estimated (cart : Value) : Except Fault String := do
  let cart := cart.orElse (.record [])
  let total ← ((← cart.member "estimatedCost").orElse (.record [])).member "totalAmount"
  if total.truthy then
    let symbol ← symbol (← total.memberOr "currencyCode" "")
    let amount ← (← total.memberOr "amount" "").written
    return (← symbol.asText) ++ amount
  else return ""

end CostText
end Storefront
