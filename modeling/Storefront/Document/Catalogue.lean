import Storefront.Document.Selection

/-! # The documents that the services send

One operation a document, the field that it asks for on a line of its own. -/

namespace Storefront.Document

/-- What a rejected mutation reports. -/
def userErrors : Selection := group "userErrors" (fields ["field", "message"])

/-- Only the identifier of an entity. -/
def idOf (entity : String) : Selection := group entity (fields ["id"])

/-- A mutation that answers with the identifier of an entity. -/
def mutationFor (entity header root : String) : String :=
  operation ("mutation " ++ header) (group root [idOf entity, userErrors])

/-- Makes a cart. -/
def cartCreate : String :=
  mutationFor "cart" "cartCreate($input: CartInput)" "cartCreate(input: $input)"

/-- Moves a cart to the market of its buyer. -/
def cartBuyerIdentityUpdate : String :=
  operation
    "mutation cartBuyerIdentityUpdate($cartId: ID!, $buyerIdentity: CartBuyerIdentityInput!)"
    (group "cartBuyerIdentityUpdate(cartId: $cartId, buyerIdentity: $buyerIdentity)"
      [group "cart"
        [.field "id",
          group "buyerIdentity" (fields ["countryCode"]),
          group "estimatedCost" [group "totalTaxAmount" (fields ["amount", "currencyCode"])]],
        userErrors])

/-- What asks for the selling plan of a line. -/
def sellingPlanAllocation : String :=
  continuation
    ((group "sellingPlanAllocation" [group "sellingPlan" (fields ["id"])]).lines 12)

/-- Where a cart document has room for more fields of a line. -/
def allocationRoom : String := "\x7bselling_plan_allocation\x7d"

/-- An amount and its currency. -/
def money (name : String) : Selection := group name (fields ["amount", "currencyCode"])

/-- The merchandise of a line. -/
def merchandise : Selection :=
  group "merchandise"
    [group "... on ProductVariant"
      [.field "id", .field "title", money "priceV2",
        group "product"
          [.field "id", .field "availableForSale",
            group "variants(first: 6)" [group "edges" [group "node" (fields ["id"])]],
            .field "title",
            group "images(first: 1)"
              [group "edges" [group "node" (fields ["id", "src", "altText"])]]]]]

/-- The whole cart; `allocation` continues the line of the quantity. -/
def cartGet (allocation : String) : String :=
  directed "query cart($cartId: ID!, $countryCode: CountryCode!)"
    "@inContext(country: $countryCode)"
    (group "cart( id: $cartId )"
      [.field "id", .field "createdAt", .field "updatedAt", .field "checkoutUrl",
        group "buyerIdentity" (fields ["countryCode", "email"]),
        group "attributes" (fields ["key", "value"]),
        group "discountCodes" (fields ["code", "applicable"]),
        .field "note",
        group "lines(first: 25, reverse: true)"
          [group "edges"
            [group "node"
              [.field "id",
                group "attributes" (fields ["key", "value"]),
                .field ("quantity" ++ allocation),
                group "discountAllocations" [money "discountedAmount"],
                group "estimatedCost"
                  [group "subtotalAmount" (fields ["amount"]),
                    group "totalAmount" (fields ["amount"])],
                merchandise]]],
        group "estimatedCost"
          [money "totalAmount", money "subtotalAmount", money "totalTaxAmount",
            money "totalDutyAmount"]])

/-- Adds lines to a cart. -/
def cartLinesAdd : String :=
  mutationFor "cart" "cartLinesAdd($lines: [CartLineInput!]!, $cartId: ID!)"
    "cartLinesAdd( lines: $lines, cartId: $cartId )"

/-- Changes lines of a cart. -/
def cartLinesUpdate : String :=
  mutationFor "cart" "cartLinesUpdate($cartId: ID!, $lines: [CartLineUpdateInput!]!)"
    "cartLinesUpdate(cartId: $cartId, lines: $lines)"

/-- Removes lines from a cart. -/
def cartLinesRemove : String :=
  mutationFor "cart" "cartLinesRemove($cartId: ID!, $lineIds: [ID!]!)"
    "cartLinesRemove(cartId: $cartId, lineIds: $lineIds)"

/-- Sets the note of a cart. -/
def cartNoteUpdate : String :=
  mutationFor "cart" "cartNoteUpdate($cartId: ID!, $note: String)"
    "cartNoteUpdate(cartId: $cartId, note: $note)"

/-- Sets attributes of a cart. -/
def cartAttributesUpdate : String :=
  mutationFor "cart" "cartAttributesUpdate($attributes: [AttributeInput!]!, $cartId: ID!)"
    "cartAttributesUpdate(attributes: $attributes, cartId: $cartId)"

/-- Sets the discount codes of a cart. -/
def cartDiscountCodesUpdate : String :=
  mutationFor "cart" "cartDiscountCodesUpdate($cartId: ID!, $discountCodes: [String!]!)"
    "cartDiscountCodesUpdate(discountCodes: $discountCodes, cartId: $cartId)"

/-- The fields of a selling plan. -/
def planFields : List Selection :=
  [.field "id",
    group "billingPolicy"
      [group "... on SellingPlanFixedBillingPolicy"
        [group "checkoutCharge"
          [.field "type",
            group "value"
              [group "... on SellingPlanCheckoutChargePercentageValue" (fields ["percentage"])]],
          .field "remainingBalanceChargeExactTime",
          .field "remainingBalanceChargeTrigger"]],
    .field "category", .field "createdAt",
    group "deliveryPolicy"
      [group "... on SellingPlanFixedDeliveryPolicy" (fields ["fulfillmentTrigger"])],
    group "inventoryPolicy" (fields ["reserve"]),
    .field "name", .field "options"]

/-- The fields of a selling plan as a part of a document. -/
def sellingPlanFields : String := continuation (linesOf 12 planFields)

/-- Makes a selling plan group. -/
def sellingPlanGroupCreate : String :=
  mutationFor "sellingPlanGroup" "sellingPlanGroupCreate($input: SellingPlanGroupInput!)"
    "sellingPlanGroupCreate(input: $input)"

/-- Attaches products to a group. -/
def sellingPlanGroupAddProducts : String :=
  mutationFor "sellingPlanGroup" "sellingPlanGroupAddProducts($id: ID!, $productIds: [ID!]!)"
    "sellingPlanGroupAddProducts(id: $id, productIds: $productIds)"

/-- Attaches variants to a group. -/
def sellingPlanGroupAddProductVariants : String :=
  mutationFor "sellingPlanGroup"
    "sellingPlanGroupAddProductVariants($id: ID!, $productVariantIds: [ID!]!)"
    "sellingPlanGroupAddProductVariants(id: $id, productVariantIds: $productVariantIds)"

/-- Deletes a group. -/
def sellingPlanGroupDelete : String :=
  operation "mutation sellingPlanGroupDelete($id: ID!)"
    (group "sellingPlanGroupDelete(id: $id)" [.field "deletedSellingPlanGroupId", userErrors])

/-- The identifier and the title of each of a connection's nodes. -/
def titles (connection : String) : Selection :=
  group connection [group "edges" [group "node" (fields ["id", "title"])]]

/-- Reads a group. -/
def sellingPlanGroupGet : String :=
  operation "query SellingPlanGroup($sellingPlanGroupId: ID!)"
    (group "sellingPlanGroup(id: $sellingPlanGroupId)"
      (fields ["id", "createdAt", "merchantCode", "name", "description", "options", "position",
          "productCount", "productVariantCount", "summary"] ++
        [titles "products(first: 10)", titles "productVariants(first: 10)",
          group "sellingPlans(first: 10)" [group "edges" [.nested 4 "node" planFields]]]))

/-- Reads a page of groups. -/
def sellingPlanGroupsList : String :=
  operation "query SellingPlanGroupsList($first: Int!, $offset: Int)"
    (group "sellingPlanGroups(first: $first)"
      [group "edges"
        [.field "cursor",
          group "node"
            (fields ["id", "createdAt", "merchantCode", "name", "description", "options",
                "position", "productCount", "summary"] ++
              [group "sellingPlans(first: 10)" [group "edges" [.nested 0 "node" planFields]]])]])

end Storefront.Document
