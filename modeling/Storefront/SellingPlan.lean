import Storefront.Gid

/-! # Selling plans

A selling plan says how a product is billed and delivered; a selling plan group offers plans under
the name of a merchant.  What a group is related to is kept elsewhere. -/

namespace Storefront

/-- A selling plan. -/
structure SellingPlan where
  id : String
  createdAt : String
  updatedAt : String
  /-- The members that its creator determines, under their names. -/
  terms : List (Key × Value)
  deriving BEq

/-- A selling plan group. -/
structure SellingPlanGroup where
  id : String
  createdAt : String
  updatedAt : String
  appId : Value
  description : Value
  merchantCode : Value
  name : Value
  options : Value
  position : Value
  summary : Value
  deriving BEq

namespace SellingPlan

/-- The category of all selling plans. -/
def category : String := "PRE_ORDER"

/-- The members of a plan that its creator determines. -/
def termNames : List String :=
  ["billingPolicy", "deliveryPolicy", "description", "inventoryPolicy", "name", "options",
    "position", "pricingPolicies"]

/-- Whether a member is determined by the creator of a plan. -/
def isTerm (name : Key) : Bool := termNames.any fun t => Key.text t = name

/-- A plan as a record. -/
def toValue (p : SellingPlan) : Value :=
  .record ([(.text "id", .text (Gid.encode p.id)), (.text "createdAt", .text p.createdAt),
    (.text "updatedAt", .text p.updatedAt), (.text "category", .text category)] ++ p.terms)

/-- The terms among the given options, null where there is none. -/
def termsOf (options : Value) : Except Fault (List (Key × Value)) :=
  termNames.mapM fun name => return (.text name, ← options.member name)

/-- Puts those of the given members that are terms into a record. -/
def withTerms (fields : List (Key × Value)) (changes : List (Key × Value)) : List (Key × Value) :=
  (changes.filter (isTerm ·.1)).foldl (fun m (k, v) => Assoc.put m k v) fields

end SellingPlan

namespace SellingPlanGroup

/-- A group as a record, before it is joined with what it is related to. -/
def toValue (g : SellingPlanGroup) : Value :=
  .ofFields [
    ("id", Gid.encode g.id),
    ("createdAt", g.createdAt),
    ("updatedAt", g.updatedAt),
    ("appId", g.appId),
    ("appliesToProduct", .bool false),
    ("appliesToProductVariant", .bool false),
    ("appliesToProductVariants", .bool false),
    ("description", g.description),
    ("merchantCode", g.merchantCode),
    ("name", g.name),
    ("options", g.options),
    ("position", g.position),
    ("productCount", .int 0),
    ("productVariantCount", .int 0),
    ("summary", g.summary)]

end SellingPlanGroup
end Storefront
