import Storefront.Attribute
import Storefront.Gid
import Storefront.Money

/-! # Carts

A cart holds lines, each a number of one product variant, and what its owner noted with it.  Every
line keeps a snapshot of its product as it was when the line was added, and the costs as they were
last computed.  Identifiers are kept raw and shown encoded. -/

namespace Storefront

/-- A line of a cart. -/
structure Line where
  id : String
  attributes : List Value
  quantity : Int
  subtotal : Money
  total : Money
  /-- The identifier of the variant. -/
  variant : String
  /-- The price of one piece. -/
  price : Money
  /-- The identifier of the product, as it is shown. -/
  product : Value
  title : Value
  image : Value
  deriving BEq

/-- A discount code of a cart. -/
structure AppliedCode where
  code : Value
  applicable : Bool
  deriving BEq

/-- A cart. -/
structure Cart where
  id : String
  createdAt : String
  updatedAt : String
  checkoutUrl : String
  /-- The country whose market the cart is priced in. -/
  country : Key
  attributes : List Attribute
  discount : Option AppliedCode
  note : Value
  lines : List Line
  total : Money
  subtotal : Money
  /-- The tax, once it has been computed. -/
  tax : Option Money
  deriving BEq

/-- A list in the form of a connection: every item is the node of an edge. -/
def edgesOf (nodes : List Value) : Value :=
  .ofFields [("edges", .list (nodes.map fun n => .ofFields [("node", n)]))]

namespace Line

/-- A line as a record. -/
def toValue (l : Line) : Value :=
  .ofFields [
    ("id", Gid.encode l.id),
    ("attributes", .list l.attributes),
    ("quantity", .int l.quantity),
    ("discountAllocations", .list []),
    ("estimatedCost", .ofFields [("subtotalAmount", l.subtotal.toValue),
      ("totalAmount", l.total.toValue)]),
    ("merchandise", .ofFields [
      ("id", Gid.encode l.variant),
      ("title", "Default Title"),
      ("priceV2", l.price.toValue),
      ("product", .ofFields [
        ("id", l.product),
        ("availableForSale", .bool true),
        ("variants", edgesOf [.ofFields [("id", Gid.encode l.variant)]]),
        ("title", l.title),
        ("images", edgesOf [l.image])])])]

end Line

namespace Cart

/-- The record of what a cart costs. -/
def costValue (c : Cart) : Value :=
  .ofFields [("totalAmount", c.total.toValue), ("subtotalAmount", c.subtotal.toValue),
    ("totalTaxAmount", Value.ofOption (c.tax.map (·.toValue))), ("totalDutyAmount", .null)]

/-- A discount code as a record. -/
def codeValue (d : AppliedCode) : Value :=
  .ofFields [("code", d.code), ("applicable", .bool d.applicable)]

/-- A cart as a record. -/
def toValue (c : Cart) : Value :=
  .ofFields [
    ("id", Gid.encode c.id),
    ("createdAt", c.createdAt),
    ("updatedAt", c.updatedAt),
    ("checkoutUrl", c.checkoutUrl),
    ("buyerIdentity", .ofFields [("countryCode", c.country.toValue)]),
    ("attributes", .list (c.attributes.map (·.toValue))),
    ("discountCodes", .list (c.discount.toList.map codeValue)),
    ("note", c.note),
    ("lines", edgesOf (c.lines.map (·.toValue))),
    ("estimatedCost", c.costValue)]

end Cart
end Storefront
