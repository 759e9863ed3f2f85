import Storefront.Document.Signature

/-! # Operations

The operations that the shop answers, each under the type and the name of its document. -/

namespace Storefront

/-- An operation of the shop. -/
inductive Operation where
  | cartGet
  | cartCreate
  | cartBuyerIdentityUpdate
  | cartLinesAdd
  | cartLinesUpdate
  | cartLinesRemove
  | cartNoteUpdate
  | cartAttributesUpdate
  | cartDiscountCodesUpdate
  | groupGet
  | groupsList
  | groupCreate
  | groupAddProducts
  | groupAddProductVariants
  | groupDelete
  deriving DecidableEq, Repr

namespace Operation

/-- All operations. -/
def all : List Operation :=
  [cartGet, cartCreate, cartBuyerIdentityUpdate, cartLinesAdd, cartLinesUpdate, cartLinesRemove,
    cartNoteUpdate, cartAttributesUpdate, cartDiscountCodesUpdate, groupGet, groupsList,
    groupCreate, groupAddProducts, groupAddProductVariants, groupDelete]

/-- Whether an operation changes the shop. -/
def isMutation : Operation → Bool
  | cartGet | groupGet | groupsList => false
  | _ => true

/-- The name in the signature of an operation, which is also the field that its answer is under. -/
def root : Operation → String
  | cartGet => "cart"
  | cartCreate => "cartCreate"
  | cartBuyerIdentityUpdate => "cartBuyerIdentityUpdate"
  | cartLinesAdd => "cartLinesAdd"
  | cartLinesUpdate => "cartLinesUpdate"
  | cartLinesRemove => "cartLinesRemove"
  | cartNoteUpdate => "cartNoteUpdate"
  | cartAttributesUpdate => "cartAttributesUpdate"
  | cartDiscountCodesUpdate => "cartDiscountCodesUpdate"
  | groupGet => "SellingPlanGroup"
  | groupsList => "SellingPlanGroupsList"
  | groupCreate => "sellingPlanGroupCreate"
  | groupAddProducts => "sellingPlanGroupAddProducts"
  | groupAddProductVariants => "sellingPlanGroupAddProductVariants"
  | groupDelete => "sellingPlanGroupDelete"

/-- The type and the name of an operation. -/
def signature (o : Operation) : String :=
  (if o.isMutation then "mutation " else "query ") ++ o.root

/-- The operation with a signature. -/
def ofSignature? (signature : String) : Option Operation := all.find? (·.signature = signature)

/-- The operation that a document asks for. -/
def ofDocument? (document : Option String) : Option Operation :=
  (Document.signature? document).bind ofSignature?

theorem mem_all (o : Operation) : o ∈ all := by cases o <;> decide

theorem ofSignature?_signature (o : Operation) : ofSignature? o.signature = some o := by
  cases o <;> decide

end Operation
end Storefront
