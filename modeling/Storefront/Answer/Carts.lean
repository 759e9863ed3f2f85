import Storefront.Document.Reader
import Storefront.Factory
import Storefront.Operation
import Storefront.UserError

/-! # Answering the operations on carts

Each answer is a record under the root field of its operation.  A mutation answers with the cart or,
if it is rejected, with user errors and no cart. -/

namespace Storefront.Answer

open Shop

/-- The answer of a mutation: a cart, or none and the errors. -/
def cartPayload (o : Operation) (cart : Option KeptCart) (errors : List Value) : Value :=
  .ofFields [(o.root, .ofFields [("cart", Value.ofOption (cart.map (·.toValue))),
    ("userErrors", .list errors)])]

/-- The answer of a rejected mutation, with a single error. -/
def rejectedCart (o : Operation) (field : List String) (message : String) : Act Shop Value := do
  return cartPayload o none [← userError (.texts field) message .null]

/-- The answer of a mutation that rejects by not giving a cart. -/
def mutated (o : Operation) (cart : Option KeptCart) (field message : String) : Act Shop Value :=
  match cart with
  | some c => return cartPayload o (some c) []
  | none => rejectedCart o [field] message

/-- What is said when there is no such cart. -/
def noCart : String := "The specified cart does not exist."

/-- The country of the document's directive; without one, a cart stays in its market. -/
def countryOf (p : Document.Parsed) : Value := p.contextValue "country"

/-- The identifier of the cart that the variables name, raw. -/
def cartIdOf (vars : Value) : Except Fault Value := do
  Gid.decodeValue (← vars.member "cartId")

/-- Answers a mutation of a cart that has to exist. -/
def forKnownCart (o : Operation) (document : String) (vars : Value)
    (mutate : (cartId country : Value) → Act Shop Value) : Act Shop Value := do
  let parsed ← Document.parse (some document) vars
  let cartId ← cartIdOf vars
  if ← hasCart cartId then mutate cartId (countryOf parsed)
  else rejectedCart o ["cartId"] noCart

/-- Makes a cart for the country of the buyer. -/
def cartCreate (vars : Value) : Act Shop Value := do
  let input := (← vars.member "input").orElse (.record [])
  let buyer ← input.member "buyerIdentity"
  let buyer ← if buyer.truthy then pure buyer else liftM (vars.member "buyerIdentity")
  let country := (← (buyer.orElse (.record [])).member "countryCode").orElse Market.home
  match ← createCart country .null with
  | some cart => return cartPayload .cartCreate (some (.made cart)) []
  | none =>
    rejectedCart .cartCreate ["input", "buyerIdentity", "countryCode"]
      ("Country code " ++ (← country.written) ++ " is not a valid market.")

/-- Moves a cart to the country of the buyer.  A cart that is not known is made first, if there is a
factory. -/
def cartBuyerIdentityUpdate (factory : Option Factory) (vars : Value) : Act Shop Value := do
  let cartId ← cartIdOf vars
  let buyer := (← vars.member "buyerIdentity").orElse (.record [])
  let country := (← buyer.member "countryCode").orElse Market.home
  if !(← hasCart cartId) then
    match factory with
    | some f => discard <| f.call (.text Factory.cartHook) [cartId, country]
    | none => pure ()
  mutated .cartBuyerIdentityUpdate (← setCountry cartId country) "cartId" noCart

/-- Reads a cart in the market of the document's directive. -/
def cartGet (document : String) (vars : Value) : Act Shop Value := do
  let parsed ← Document.parse (some document) vars
  let cart ← getCart (← cartIdOf vars) (countryOf parsed)
  return .ofFields [("cart", Value.ofOption (cart.map (·.toValue)))]

/-- Adds lines to a cart. -/
def cartLinesAdd (document : String) (vars : Value) : Act Shop Value :=
  forKnownCart .cartLinesAdd document vars fun cartId country => do
    mutated .cartLinesAdd (← addLines cartId country (← vars.member "lines")) "lines"
      "Every line needs a merchandise id and a quantity of at least 1."

/-- Adds pieces and attributes to lines of a cart. -/
def cartLinesUpdate (document : String) (vars : Value) : Act Shop Value :=
  forKnownCart .cartLinesUpdate document vars fun cartId country => do
    mutated .cartLinesUpdate (← updateLines cartId country (← vars.member "lines")) "lines"
      "Every line needs an id and a quantity of at least 1."

/-- Removes lines from a cart. -/
def cartLinesRemove (document : String) (vars : Value) : Act Shop Value :=
  forKnownCart .cartLinesRemove document vars fun cartId country => do
    mutated .cartLinesRemove (← removeLines cartId country (← vars.member "lineIds")) "lineIds"
      "Line ids cannot be empty."

/-- Sets the note of a cart. -/
def cartNoteUpdate (document : String) (vars : Value) : Act Shop Value := do
  let parsed ← Document.parse (some document) vars
  let cartId ← cartIdOf vars
  let note := (← vars.member "note").orElse ""
  mutated .cartNoteUpdate (← setNote cartId (countryOf parsed) note) "cartId" noCart

/-- Whether every row has a truthy key and a truthy value. -/
def allComplete : List Value → Except Fault Bool
  | [] => .ok true
  | row :: rows => do
    if (← row.member "key").truthy then
      if (← row.member "value").truthy then allComplete rows else return false
    else return false

/-- The attributes that the variables list; a single record stands for a list of itself. -/
def attributeRows (vars : Value) : Except Fault (List Value) := do
  severalRows ((← vars.member "attributes").orElse (.list []))
where
  /-- Several rows, or one record that stands for itself. -/
  severalRows : Value → Except Fault (List Value)
    | .record fields => .ok [.record fields]
    | v => v.elements

/-- Sets attributes of a cart one after the other; the answer shows the cart after the last. -/
def setRows (cartId country : Value) : List Value → Option KeptCart → Act Shop (Option KeptCart)
  | [], cart => return cart
  | row :: rows, _ => do
    setRows cartId country rows
      (← setAttribute cartId country (← row.item "key") (← row.item "value"))

/-- Sets attributes of a cart, unless one of them lacks its key or its value. -/
def cartAttributesUpdate (document : String) (vars : Value) : Act Shop Value :=
  forKnownCart .cartAttributesUpdate document vars fun cartId country => do
    let rows ← attributeRows vars
    if rows.isEmpty || !(← allComplete rows) then
      rejectedCart .cartAttributesUpdate ["attributes"] "Attributes need a non-empty key and value."
    else
      return cartPayload .cartAttributesUpdate (← setRows cartId country rows none) []

/-- Sets the discount code of a cart. -/
def cartDiscountCodesUpdate (document : String) (vars : Value) : Act Shop Value :=
  forKnownCart .cartDiscountCodesUpdate document vars fun cartId country => do
    mutated .cartDiscountCodesUpdate
      (← setDiscount cartId country (← vars.member "discountCodes")) "discountCodes"
      "Discount codes cannot be empty."

end Storefront.Answer
