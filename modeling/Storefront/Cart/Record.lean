import Storefront.Cart

/-! # Records that are used as carts

A cart that was put in from outside is a record of any shape.  An operation on it looks only at the
members that it needs, fails where one of them is absent or unfit, and leaves all others, and the
order of all, as they are. -/

namespace Storefront.CartRecord

/-- The country that a cart is priced in. -/
def country (cart : Value) : Except Fault Value := do
  (← cart.item "buyerIdentity").item "countryCode"

/-- The cart with its country set. -/
def withCountry (cart : Value) (country : Key) : Except Fault Value :=
  cart.modifyItem "buyerIdentity" (·.withItem "countryCode" country.toValue)

/-- The lines of a cart, each within its edge, whatever holds them. -/
def edges (cart : Value) : Except Fault Value := do (← cart.item "lines").item "edges"

/-- The cart with other lines. -/
def withEdges (cart : Value) (edges : Value) : Except Fault Value :=
  cart.modifyItem "lines" (·.withItem "edges" edges)

/-- The line of an edge. -/
def lineOf (edge : Value) : Except Fault Value := edge.item "node"

/-- The raw identifier of the line of an edge. -/
def lineId (edge : Value) : Except Fault Value := do
  Gid.decodeValue (← (← lineOf edge).item "id")

/-- The raw identifier of the variant of the line of an edge. -/
def variantId (edge : Value) : Except Fault Value := do
  Gid.decodeValue (← (← (← lineOf edge).item "merchandise").item "id")

/-- The identifiers of the lines as the cart has them. -/
def lineIds (cart : Value) : Except Fault (List Value) := do
  (← (← edges cart).elements).mapM fun edge => do (← lineOf edge).item "id"

/-! ### Quantities and costs -/

/-- A quantity to which a whole number is added. -/
def moreThan (quantity : Value) (more : Int) : Except Fault Value :=
  match quantity with
  | .bool b => .ok (.int ((if b then 1 else 0) + more))
  | .int n => .ok (.int (n + more))
  | .float x => return .float (x + (← Value.doubleOfInt more))
  | _ => .error .shape

/-- A line with more pieces and more attributes. -/
def extended (line : Value) (quantity : Int) (attributes : Value) : Except Fault Value := do
  let line ← line.withItem "quantity" (← moreThan (← line.item "quantity") quantity)
  let known ← line.item "attributes"
  let more ← attributes.elements
  line.withItem "attributes" (.list ((← known.asList) ++ more))

/-- A line priced in a currency: the price of a piece and the amount for all. -/
def pricedLine (line : Value) (unit amount : Float) (currency : String) : Except Fault Value := do
  let money := (Money.of amount currency).toValue
  let line ← line.modifyItem "estimatedCost" fun cost => do
    (← cost.withItem "subtotalAmount" money).withItem "totalAmount" money
  line.modifyItem "merchandise" (·.withItem "priceV2" (Money.of unit currency).toValue)

/-- The cart with its costs set. -/
def withCosts (cart : Value) (total subtotal tax : Money) : Except Fault Value :=
  cart.modifyItem "estimatedCost" fun cost => do
    let cost ← cost.withItem "totalAmount" total.toValue
    let cost ← cost.withItem "subtotalAmount" subtotal.toValue
    cost.withItem "totalTaxAmount" tax.toValue

/-! ### Lines -/

/-- The edges before the first whose identifier is the given one, that edge, and those after. -/
def splitAt (idOf : Value → Except Fault Value) (id : String) :
    List Value → Except Fault (Option (List Value × Value × List Value))
  | [] => .ok none
  | edge :: rest => do
    if (← idOf edge) == .text id then return some ([], edge, rest)
    return (← splitAt idOf id rest).map fun (before, found, after) => (edge :: before, found, after)

/-- The cart with the first line of an identifier extended, if it has such a line. -/
def extend? (cart : Value) (idOf : Value → Except Fault Value) (id : String) (quantity : Int)
    (attributes : Value) : Except Fault (Option Value) := do
  match ← splitAt idOf id (← (← edges cart).elements) with
  | none => return none
  | some (before, edge, after) =>
    let edge ← edge.modifyItem "node" (extended · quantity attributes)
    return some (← withEdges cart (.list (before ++ edge :: after)))

/-- The cart with one more line. -/
def withLine (cart : Value) (line : Value) : Except Fault Value := do
  let known ← (← edges cart).asList
  withEdges cart (.list (known ++ [.ofFields [("node", line)]]))

/-- The cart without the lines of some identifiers. -/
def without (cart : Value) (ids : List String) : Except Fault Value := do
  let kept ← (← (← edges cart).elements).filterM fun edge => do
    let id ← (← lineId edge).asKey
    return !ids.any (Key.text · == id)
  withEdges cart (.list kept)

/-! ### Notes, attributes and discount codes -/

/-- The place of the first attribute whose key satisfies a condition. -/
def findKey (p : Value → Bool) : List Value → Except Fault (Option Nat)
  | [] => .ok none
  | row :: rows => do
    if p (← row.item "key") then return some 0
    return (← findKey p rows).map (· + 1)

/-- The cart with an attribute set: it replaces the first whose key satisfies a condition, or goes
last. -/
def withAttribute (cart : Value) (sameKey : Value → Bool) (entry : Value) :
    Except Fault Value :=
  cart.modifyItem "attributes" fun attributes => do
    let rows ← attributes.asList
    match ← findKey sameKey rows with
    | some i => return .list (rows.set i entry)
    | none => return .list (rows ++ [entry])

end Storefront.CartRecord
