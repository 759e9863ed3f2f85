import Storefront.CommandLine.Command
import Storefront.Service.Carts

/-! # Carrying out commands

`run` carries out a command with a cart service and tells what the program writes and which code it
ends with.  A cart command writes either the cart or what went wrong. -/

namespace Storefront.CommandLine

/-- What the program does in the end. -/
structure Outcome where
  code : Nat
  /-- The lines for the reader. -/
  output : List String
  /-- The lines about what went wrong. -/
  errors : List String
  /-- The host and port that the server is to run on. -/
  serve : Option (Value × Value)

/-- The program ends well. -/
def Outcome.done (output : List String) : Outcome := ⟨0, output, [], none⟩

/-- How the program is called. -/
def usage : String := "usage: " ++ program ++ " [-h] \x7bserve,cart\x7d ..."

/-- The line about an error. -/
def errorLine (message : String) : String := "error: " ++ message

/-- What the program does with a command line that it does not carry out. -/
def Refusal.outcome : Refusal → Except Fault Outcome
  | .helpAsked => .ok (.done [usage])
  | .misuse program message => .ok ⟨2, [], [program ++ ": " ++ errorLine message], none⟩
  | .fault cause => .error cause

/-- The program ends with the errors that the service collected. -/
def failed : Act Service Outcome :=
  return ⟨1, [], (← get).errors.map fun e => errorLine e.display, none⟩

/-- A text filled up with spaces on the right. -/
def padRight (width : Nat) (s : String) : String :=
  s ++ String.ofList (List.replicate (width - s.length) ' ')

/-- A cart for reading, line by line. -/
def cartLines (cart : Value) : Except Fault (List String) := do
  let view := CartView.of cart
  let id ← view.id
  let country ← view.country
  let updated ← view.updatedAt
  let items ← view.items false
  let costs ← view.costs
  let checkout ← view.checkoutUrl
  return ["Cart:     " ++ id.display, "Country:  " ++ country.display, "Updated:  " ++ updated] ++
    (items.map fun i => "  " ++ i.quantity.display ++ " x " ++ i.title.display ++ "  " ++ i.price ++
      "  (" ++ i.id.display ++ ")") ++
    (costs.map fun (name, cost) => padRight 10 (Text.capitalise name ++ ":") ++ cost) ++
    ["Checkout: " ++ checkout.display]

/-- Shows a cart. -/
def showCart (cartId country : Value) (json : Bool) : Act Service Outcome := do
  let cart ← Service.cart cartId country (.bool false)
  if cart.isNull then failed
  else if json then return .done [Json.write (.indented 2) cart]
  else return .done (← cartLines cart)

/-- The attribute of an argument of the form `KEY=VALUE`; any other text is refused with
a message. -/
def attributeOf (pair : Value) : ExceptT String (Except Fault) (Key × Value) := do
  match cutAtEquals (← pair.asText) with
  | (key, some value) => return (.text key, .text value)
  | (_, none) => throw ("Expected KEY=VALUE, got " ++ pair.quoted)

/-- The attributes of arguments. -/
def attributesOf (pairs : List Value) : ExceptT String (Except Fault) Value := do
  return .record (Assoc.ofPairs (← pairs.mapM attributeOf))

/-- Shows the cart that a mutation answered with. -/
def afterMutation (cartId country : Value) (json : Bool) : Act Service Outcome :=
  if cartId.truthy then showCart cartId country json else failed

/-- Performs a mutation with a line whose attributes are given as arguments. -/
def withLine (quantity : Value) (pairs : List Value) (country : Value) (json : Bool)
    (mutation : (line : Value) → Act Service Value) : Act Service Outcome := do
  match ← (attributesOf pairs).run with
  | .error message => return ⟨2, [], [errorLine message], none⟩
  | .ok attributes =>
    let line := Value.ofFields [("quantity", quantity), ("attributes", attributes)]
    afterMutation (← mutation line) country json

/-- Acts on a cart. -/
def runCart (country : Value) (json : Bool) : CartAction → Act Service Outcome
  | .create => do
    let cartId ← Service.newCart country
    if !cartId.truthy then failed
    else if json then showCart cartId country true
    else return .done [cartId.display]
  | .showCart cartId => showCart cartId country json
  | .empty cartId => do
    if ← Service.emptyCart cartId country then showCart cartId country json else failed
  | .add cartId variant quantity pairs =>
    withLine quantity pairs country json fun line => Service.addLine cartId variant line .null
  | .update cartId line quantity pairs =>
    withLine quantity pairs country json fun input => Service.updateLine cartId line input
  | .remove cartId lines => do
    afterMutation (← Service.removeLines cartId (.list lines)) country json
  | .note cartId note => do afterMutation (← Service.setNote cartId note) country json
  | .attribute cartId key value => do
    afterMutation (← Service.setAttribute cartId key value) country json
  | .discount cartId codes => do
    afterMutation (← Service.setDiscountCodes cartId (.list codes)) country json

/-- Carries out a command. -/
def run (settings : Settings) : Command → Act Service Outcome
  | .serve host port =>
    let address := host.display ++ ":" ++ port.display
    let url := "http://" ++ address ++ "/api/" ++ settings.apiVersion ++ "/graphql.json"
    return ⟨0, ["Starting mock GraphQL server on " ++ address, "Storefront API: " ++ url], [],
      some (host, port)⟩
  | .cart country json action => runCart country json action

end Storefront.CommandLine
