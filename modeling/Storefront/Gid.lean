import Storefront.Gid.Base64
import Storefront.Value.Access

/-! # Global identifiers

Every entity has a raw identifier such as `gid://shopify/Cart/1`.  Outside the shop it travels
encoded in base 64.  `encode` leaves all but raw identifiers alone, and `decode` all but encoded raw
identifiers, so that both may be applied to an identifier of either form. -/

namespace Storefront.Gid

/-- What every raw identifier starts with. -/
def mark : String := "gid:"

/-- The identifiers of a kind of entity start with `gid://shopify/`, its name and a slash. -/
def kindPrefix (kind : String) : String := "gid://shopify/" ++ kind ++ "/"

/-- What the identifiers of carts start with. -/
def cartPrefix : String := kindPrefix "Cart"

/-- What the identifiers of the lines of carts start with. -/
def cartLinePrefix : String := kindPrefix "CartLine"

/-- What the identifiers of products start with. -/
def productPrefix : String := kindPrefix "Product"

/-- What the identifiers of the variants of products start with. -/
def variantPrefix : String := kindPrefix "ProductVariant"

/-- What the identifiers of pictures start with. -/
def imagePrefix : String := kindPrefix "ProductImage"

/-- What the identifiers of selling plans start with. -/
def planPrefix : String := kindPrefix "SellingPlan"

/-- What the identifiers of selling plan groups start with. -/
def groupPrefix : String := kindPrefix "SellingPlanGroup"

/-- Whether a text begins with another. -/
def startsWith (s start : String) : Bool := start.toList.isPrefixOf s.toList

/-- Whether an identifier is raw. -/
def isRaw (id : String) : Bool := startsWith id mark

/-- A text without the given start, if it has it. -/
def dropStart (start s : String) : String :=
  if startsWith s start then String.ofList (s.toList.drop start.length) else s

/-- The text whose bytes are written in base 64, if there is one. -/
def readText? (s : String) : Option String := do
  let bytes ← Base64.read? s.toList
  String.fromUTF8? ⟨bytes.toArray⟩

/-- The form in which a raw identifier travels. -/
def encode (id : String) : String :=
  if isRaw id then String.ofList (Base64.write id.toUTF8.data.toList) else id

/-- The raw form of an identifier. -/
def decode (id : String) : String :=
  if isRaw id then id
  else match readText? id with
    | some raw => if isRaw raw then raw else id
    | none => id

/-- Makes a bare token an identifier of a kind. -/
def normalise (start id : String) : String := if isRaw id then id else start ++ id

/-- Applies a function to the text of an identifier; a falsy value stands for no identifier. -/
def onText (f : String → Except Fault String) (v : Value) : Except Fault Value :=
  match v with
  | .text s => (f s).map .text
  | v => if v.truthy then .error .shape else .ok v

/-- The form in which an identifier travels.  A raw identifier travels only if all of its characters
can be sent. -/
def encodeText (id : String) : Except Fault String :=
  match if isRaw id then Text.unencodable? id.toList else none with
  | some lacking => .error (.value (.characters lacking))
  | none => .ok (encode id)

/-- The form in which an identifier travels; no identifier stays none. -/
def encodeValue (v : Value) : Except Fault Value := onText encodeText v

/-- The raw form of an identifier; no identifier stays none. -/
def decodeValue (v : Value) : Except Fault Value := onText (.ok ∘ decode) v

/-- Makes a bare token an identifier of a kind. -/
def normaliseValue (id start : Value) : Except Fault Value := do
  let id ← id.asText
  if isRaw id then return .text id
  return .text ((← start.asText) ++ id)

/-- The identifier without the given start; no identifier stays none. -/
def stripValue (id start : Value) : Except Fault Value :=
  if id.truthy then do
    let s ← id.asText
    return .text (dropStart (← start.asText) s)
  else .ok id

/-- What is not a raw identifier is left alone when it is encoded. -/
theorem encode_of_not_isRaw {id : String} (h : isRaw id = false) : encode id = id := by
  simp [encode, h]

/-- A raw identifier is left alone when it is decoded. -/
theorem decode_of_isRaw {id : String} (h : isRaw id = true) : decode id = id := by
  simp [decode, h]

@[simp] theorem decodeValue_text (s : String) :
    decodeValue (.text s) = .ok (.text (decode s)) := rfl

@[simp] theorem decodeValue_null : decodeValue .null = .ok .null := rfl

end Storefront.Gid
