import Storefront.Document.Reader
import Storefront.Operation
import Storefront.Shop.Groups
import Storefront.UserError

/-! # Answering the operations on selling plan groups

Each answer is a record under the root field of its operation.  A rejected request is answered with
user errors; any other fault is left to whoever asked. -/

namespace Storefront.Answer

open Shop

/-- What an action answers, or the user errors if it is rejected. -/
def orErrors (act : Act Shop Value) : Act Shop (Except (List Value) Value) :=
  tryCatch (Except.ok <$> act) fun fault =>
    if fault.isRejection then Except.error <$> faultErrors fault else throw fault

/-- The answer of a mutation: what it did under a name, or nothing and the errors. -/
def groupPayload (o : Operation) (name : String) (outcome : Except (List Value) Value) : Value :=
  .ofFields [(o.root, match outcome with
    | .ok v => .ofFields [(name, v), ("userErrors", .list [])]
    | .error errors => .ofFields [(name, .null), ("userErrors", .list errors)])]

/-- Reads a group. -/
def groupGet (vars : Value) : Act Shop Value := do
  let id ← Gid.decodeValue (← vars.member "sellingPlanGroupId")
  match ← orErrors (group id) with
  | .ok v => return .ofFields [("sellingPlanGroup", v)]
  | .error errors =>
    return .ofFields [("sellingPlanGroup", .ofFields [("userErrors", .list errors)])]

/-- Reads a page of groups, as edges if the document asks for edges. -/
def groupsList (document : String) (vars : Value) : Act Shop Value := do
  let parsed ← Document.parse (some document) vars
  let offset ← ((← vars.member "offset").orElse (.int 0)).wholeNumber
  let page ← groups (.int offset) (← vars.member "first")
  if !parsed.hasField "edges" then
    return .ofFields [("sellingPlanGroups", .list page)]
  let cursor ← supplied (Supply.draw 1111111 22222222)
  let edges := page.map fun g => Value.ofFields [("cursor", .int cursor), ("node", g)]
  return .ofFields [("sellingPlanGroups", .ofFields [("edges", .list edges)])]

/-- Makes a group. -/
def groupCreate (vars : Value) : Act Shop Value := do
  let input := (← vars.member "input").orElse (.record [])
  return groupPayload .groupCreate "sellingPlanGroup" (← orErrors (createGroup input .null))

/-- Attaches products to a group. -/
def groupAddProducts (vars : Value) : Act Shop Value := do
  let id ← Gid.decodeValue (← vars.member "id")
  let ids := (← vars.member "productIds").orElse (.list [])
  return groupPayload .groupAddProducts "sellingPlanGroup" (← orErrors (addProducts id ids))

/-- Attaches variants to a group. -/
def groupAddProductVariants (vars : Value) : Act Shop Value := do
  let id ← Gid.decodeValue (← vars.member "id")
  let ids := (← vars.member "productVariantIds").orElse (.list [])
  return groupPayload .groupAddProductVariants "sellingPlanGroup" (← orErrors (addVariants id ids))

/-- Deletes a group; the answer repeats the identifier. -/
def groupDelete (vars : Value) : Act Shop Value := do
  let given ← vars.member "id"
  let id ← Gid.decodeValue given
  let deletion : Act Shop Value := do
    if ← deleteGroup id then return given else throw (.rejected ["id"])
  return groupPayload .groupDelete "deletedSellingPlanGroupId" (← orErrors deletion)

end Storefront.Answer
