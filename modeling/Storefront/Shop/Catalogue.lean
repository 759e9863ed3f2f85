import Storefront.Shop
import Storefront.Text.Case

/-! # The catalogue of a shop

The shop sells everything: a product or variant that is asked for and not known is made up and kept,
so that it is the same ever after. -/

namespace Storefront.Shop

/-- The words that product names are made of. -/
def nameWords : List (List String) :=
  [["dry", "cold", "icy", "hot", "strong", "light", "heavy", "sweet", "bitter", "fresh"],
    ["red", "yellow", "white", "pale", "pink", "golden", "black", "brown", ""],
    ["whiskey", "gin", "beer", "cognac", "rum", "ale", "brandy", "vodka", "tequila", "aquavit"]]

/-- A text in which two spaces in a row have become one. -/
def singleSpaced : List Char → List Char
  | ' ' :: ' ' :: cs => ' ' :: singleSpaced cs
  | c :: cs => c :: singleSpaced cs
  | [] => []

/-- Makes up the name of a product. -/
def makeName : Act Shop String := do
  let words ← nameWords.zipIdx.mapM fun (words, i) => supplied (Supply.pick i words)
  return Text.capitalise (String.ofList (singleSpaced (Text.joined " " words).toList))

/-- Makes up the address of a picture. -/
def makePictureAddress : Act Shop String := do
  let a ← supplied (Supply.draw 1111 9999)
  let b ← supplied (Supply.draw 1111 9999)
  let c ← supplied (Supply.draw 1111 9999)
  let folder ← supplied (Supply.draw 1 9)
  let file ← supplied Supply.fileName
  let now := (← get).supply.now
  return "https://cdn.shopify.com/s/files/" ++ Decimal.whole folder ++ "/" ++
    Text.joined "/" [Decimal.whole a, Decimal.whole b, Decimal.whole c] ++ "/products/" ++ file ++
    ".png?v=" ++ Decimal.whole now

/-- Makes up a variant of a product; a falsy identifier is replaced by a new one. -/
def makeVariant (product : Key) (variant : Key) : Act Shop Variant := do
  let id ← if variant.toValue.truthy then pure variant.toValue
    else Value.text <$> freshId Gid.variantPrefix
  let title ← makeName
  let cents ← supplied (Supply.draw 1000 20000)
  let imageId ← freshId Gid.imagePrefix
  let src ← makePictureAddress
  return { id, title, productId := product.toValue, price := .float (Float.ofInt cents / 100)
           image := ⟨imageId, src⟩ }

/-- The record of a variant.  One that is not known is made up first, unless it is not to be. -/
def variant (id : Key) (make : Bool) : Act Shop (Option Entity) := do
  if make && !(← has Gid.variantPrefix id) then
    let product ← freshId Gid.productPrefix
    keep Gid.variantPrefix id (.variant (← makeVariant (.text product) id))
  find? Gid.variantPrefix id

/-- The record of a product.  One that is not known is made up first, unless it is not to be. -/
def product (id : Key) (make : Bool) : Act Shop (Option Entity) := do
  if make && !(← has Gid.productPrefix id) then
    let title ← makeName
    let variant ← makeVariant id .null
    keep Gid.productPrefix id (.product ⟨id.toValue, title, [variant]⟩)
  find? Gid.productPrefix id

/-- The price of a variant, which is made up if it is not known. -/
def priceOf (id : Key) : Act Shop Value := do
  match ← variant id true with
  | some (.variant v) => return v.price
  | some e => e.toValue.item "price"
  | none => throw .shape

/-- The record of a variant, which is made up if it is not known. -/
def variantRecord (id : String) : Act Shop Value := do
  match ← variant (.text id) true with
  | some e => return e.toValue
  | none => throw .shape

/-- The picture of a variant's record, its identifier encoded. -/
def pictureOf (record : Value) : Except Fault Value := do
  let picture ← (← (← record.item "images").head).toRecord
  let id ← Gid.encodeValue (← (Value.record picture).item "id")
  return (Value.record picture).put "id" id

end Storefront.Shop
