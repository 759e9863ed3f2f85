import Storefront.Cart
import Storefront.Catalogue
import Storefront.SellingPlan

/-! # Entities

What the store of a shop holds: carts, catalogue records, selling plans and their groups, the links
between them, and values that were put in from outside. -/

namespace Storefront

/-- What the store holds under an identifier. -/
inductive Entity where
  | cart (c : Cart)
  | variant (v : Variant)
  | product (p : Product)
  | plan (p : SellingPlan)
  | group (g : SellingPlanGroup)
  /-- What an entity is linked to under one relation, each identifier under itself. -/
  | links (members : List (Key × Value))
  /-- A value that was put in from outside. -/
  | record (v : Value)
  deriving BEq

namespace Entity

/-- An entity as a value. -/
def toValue : Entity → Value
  | cart c => c.toValue
  | variant v => v.toValue
  | product p => p.toValue
  | plan p => p.toValue
  | group g => g.toValue
  | links members => .record members
  | record v => v

/-- The entity that a value put in from outside makes; null makes none. -/
def ofValue? : Value → Option Entity
  | .null => none
  | v => some (.record v)

end Entity
end Storefront
