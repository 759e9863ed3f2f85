import Storefront.Document.Catalogue
import Storefront.SellingPlan
import Storefront.Service

/-! # The selling plan group service

Operations on selling plan groups as the client of a shop's owner performs them.  Each call starts
with no errors collected. -/

namespace Storefront.Service

/-- The text that a plan of a group is offered with. -/
def planOption : String := "Purchase Options with deposit"

/-- The plan that charges a deposit at the checkout and the remaining balance later. -/
def planOf (options : Value) : Except Fault Value := do
  return .ofFields [
    ("name", ← options.member "name"),
    ("category", SellingPlan.category),
    ("options", planOption),
    ("billingPolicy", .ofFields [("fixed", .ofFields [
      ("checkoutCharge", .ofFields [("type", "PERCENTAGE"),
        ("value", .ofFields [("percentage", ← options.member "deposit")])]),
      ("remainingBalanceChargeExactTime", ← options.member "remainingBalanceChargeTime"),
      ("remainingBalanceChargeTrigger", ← options.member "remainingBalanceChargeTrigger")])]),
    ("deliveryPolicy", .ofFields [("fixed", .ofFields [
      ("fulfillmentTrigger", ← options.member "fulfillmentTrigger")])]),
    ("inventoryPolicy", .ofFields [("reserve", ← options.member "inventoryReserve")])]

/-- The group that options describe, with one plan that charges a deposit at the checkout. -/
def groupInput (options : Value) : Except Fault Value := do
  let merchant ← ((← options.member "merchantCode").orElse "").written
  let description ← options.member "description"
  let position ← options.member "position"
  let group := Value.ofFields [
    ("name", ← options.member "name"),
    ("merchantCode", merchant),
    ("options", .texts [Text.capitalise merchant]),
    ("sellingPlansToCreate", .list [← planOf options])]
  let group := if description.truthy then group.put "description" description else group
  if position.isNull then return group
  return group.put "position" (.int (← position.wholeNumber))

/-- Sends a document and takes what is under a field of the answer.  What goes wrong is collected,
and the answer is then null. -/
def askFor (document : String) (vars : Value) (field : String) : Act Service Value := do
  modify fun s => { s with errors := [] }
  let data ← ask document vars
  if data.isNull then
    collect [(← get).client.lastError]
    return .null
  let payload ← data.member field
  if !payload.truthy then
    collect [.text ("Missing " ++ field ++ " in response")]
    return .null
  let userErrors := (payload.get? "userErrors").getD .null
  if userErrors.truthy then
    collect (← userErrors.elements)
    inNetwork <| Network.record .warning ("SellingPlanGroupService." ++ field ++ " failed")
      [("userErrors", userErrors)]
    return .null
  return payload

/-- The member of an answer, null if there is no answer. -/
def memberOfAnswer (payload : Value) (name : String) : Except Fault Value :=
  if payload.truthy then payload.member name else .ok .null

/-- Identifiers of a kind, some of which may be bare tokens. -/
def normalisedIds (start : String) (ids : Value) : Except Fault (List Value) := do
  return (← (← ids.elements).mapM (·.written)).map fun id => .text (Gid.normalise start id)

/-- Attaches products to a group. -/
def addProducts (groupId productIds : Value) : Act Service Value := do
  let payload ← askFor Document.sellingPlanGroupAddProducts
    (.ofFields [("id", groupId),
      ("productIds", .list (← normalisedIds Gid.productPrefix productIds))])
    Operation.groupAddProducts.root
  memberOfAnswer payload "sellingPlanGroup"

/-- Attaches variants to a group. -/
def addProductVariants (groupId variantIds : Value) : Act Service Value := do
  let payload ← askFor Document.sellingPlanGroupAddProductVariants
    (.ofFields [("id", groupId),
      ("productVariantIds", .list (← normalisedIds Gid.variantPrefix variantIds))])
    Operation.groupAddProductVariants.root
  memberOfAnswer payload "sellingPlanGroup"

/-- Makes a group and attaches products and variants to it; the answer is its encoded identifier. -/
def createGroup (options : Value) : Act Service Value := do
  let payload ← askFor Document.sellingPlanGroupCreate
    (.ofFields [("input", ← groupInput options)]) Operation.groupCreate.root
  let group ← memberOfAnswer payload "sellingPlanGroup"
  if !group.truthy then return .null
  let id ← group.item "id"
  let productIds ← options.member "productIds"
  if productIds.truthy then
    if !(← addProducts id productIds).truthy then return .null
  let variantIds ← options.member "productVariantIds"
  if variantIds.truthy then
    if !(← addProductVariants id variantIds).truthy then return .null
  return id

/-- Deletes a group; the answer is its identifier. -/
def removeGroup (groupId : Value) : Act Service Value := do
  let payload ← askFor Document.sellingPlanGroupDelete
    (.ofFields [("id", ← Gid.encodeValue groupId)]) Operation.groupDelete.root
  memberOfAnswer payload "deletedSellingPlanGroupId"

/-- Reads a group. -/
def group (groupId : Value) : Act Service Value := do
  askFor Document.sellingPlanGroupGet
    (.ofFields [("sellingPlanGroupId", ← Gid.encodeValue groupId)]) "sellingPlanGroup"

/-- Reads a page of groups. -/
def groups (first offset : Value) : Act Service Value := do
  let payload ← askFor Document.sellingPlanGroupsList
    (.ofFields [("first", first), ("offset", offset)]) "sellingPlanGroups"
  if !payload.truthy then return .list []
  let edges ← (← payload.member "edges").elementsOrNone
  return .list (← edges.mapM fun edge => liftM (edge.item "node"))

end Storefront.Service
