import Storefront.Value.Access

/-! # The catalogue's records

Products and the variants in which they are sold. -/

namespace Storefront

/-- The picture of a variant. -/
structure Image where
  id : String
  src : String
  deriving BEq

/-- A variant of a product. -/
structure Variant where
  id : Value
  title : String
  productId : Value
  price : Value
  image : Image
  deriving BEq

/-- A product with the variants it is sold in. -/
structure Product where
  id : Value
  title : String
  variants : List Variant
  deriving BEq

/-- A picture as a record. -/
def Image.toValue (i : Image) : Value :=
  .ofFields [("id", i.id), ("src", i.src), ("altText", .null)]

/-- A variant as a record. -/
def Variant.toValue (v : Variant) : Value :=
  .ofFields [("id", v.id), ("title", v.title), ("product_id", v.productId), ("price", v.price),
    ("currency", "EUR"), ("images", .list [v.image.toValue])]

/-- A product as a record. -/
def Product.toValue (p : Product) : Value :=
  .ofFields [("id", p.id), ("title", p.title), ("variants", .list (p.variants.map (·.toValue)))]

end Storefront
