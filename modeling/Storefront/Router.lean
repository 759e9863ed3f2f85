import Storefront.Answer.Carts
import Storefront.Answer.Groups

/-! # Dispatching documents

A router answers a document by the handler that is registered under its signature.  A fault of a
handler becomes an answer with user errors, except for a document without body and for the failure
to find new identifiers, which are left to the caller. -/

namespace Storefront

/-- What answers a document under the variables sent with it. -/
abbrev Handler := (document : String) → (vars : Value) → Act Shop Value

/-- Handlers by signature, and the factory that the shop's own handlers may use. -/
structure Router where
  /-- The handlers that were registered in addition, or in place of the shop's own. -/
  registered : List (Key × Handler)
  factory : Option Factory

namespace Router

/-- A router with the shop's own handlers only. -/
def standard (factory : Option Factory) : Router := ⟨[], factory⟩

/-- The shop's own handler of an operation. -/
def ownHandler (factory : Option Factory) : Operation → Handler
  | .cartGet => Answer.cartGet
  | .cartCreate => fun _ => Answer.cartCreate
  | .cartBuyerIdentityUpdate => fun _ => Answer.cartBuyerIdentityUpdate factory
  | .cartLinesAdd => Answer.cartLinesAdd
  | .cartLinesUpdate => Answer.cartLinesUpdate
  | .cartLinesRemove => Answer.cartLinesRemove
  | .cartNoteUpdate => Answer.cartNoteUpdate
  | .cartAttributesUpdate => Answer.cartAttributesUpdate
  | .cartDiscountCodesUpdate => Answer.cartDiscountCodesUpdate
  | .groupGet => fun _ => Answer.groupGet
  | .groupsList => Answer.groupsList
  | .groupCreate => fun _ => Answer.groupCreate
  | .groupAddProducts => fun _ => Answer.groupAddProducts
  | .groupAddProductVariants => fun _ => Answer.groupAddProductVariants
  | .groupDelete => fun _ => Answer.groupDelete

/-- The signatures that have a handler, the shop's own first, then in order of registration. -/
def signatures (r : Router) : List Key :=
  let own := Operation.all.map fun o => Key.text o.signature
  own ++ (Assoc.keys r.registered).filter fun k => !own.any (· == k)

/-- Registers a handler. -/
def register (r : Router) (signature : Key) (handler : Handler) : Router :=
  { r with registered := Assoc.put r.registered signature handler }

/-- The handler under a signature. -/
def handler? (r : Router) (signature : String) : Option Handler :=
  match Assoc.get? r.registered (.text signature) with
  | some h => some h
  | none => (Operation.ofSignature? signature).map (ownHandler r.factory)

/-- The signature of a document, if it has a handler. -/
def resolve (r : Router) (document : Option String) : Option String := do
  let signature ← Document.signature? document
  if (r.handler? signature).isSome then some signature else none

/-- The name at the end of a signature. -/
def signatureName (signature : String) : String :=
  match Text.cutAt ' ' signature.toList with
  | (_, some name) => String.ofList name
  | (name, none) => String.ofList name

/-- Whether a fault is left to the caller. -/
def isHard : Fault → Bool
  | .emptyDocument | .emptyPrefix | .exhausted => true
  | _ => false

/-- What a handler answers; null is no answer. -/
def answerOf (v : Value) : Option Value := if v.isNull then none else some v

/-- Answers a document, or none if there is no handler for it. -/
def dispatch (r : Router) (document : Option String) (vars : Value) :
    Act Shop (Option Value) := do
  let vars := vars.orElse (.record [])
  let parsed ← Document.parse document vars
  match Document.signature? document with
  | none => return none
  | some signature =>
    match r.handler? signature with
    | none => return none
    | some handler =>
      tryCatch (answerOf <$> handler (document.getD "") vars) fun fault => do
        if isHard fault then throw fault
        -- What the handler did before it failed stays done.
        let root := parsed.rootField.getD (signatureName signature)
        return some (.ofFields [(root, .ofFields [("userErrors",
          .list (← Shop.faultErrors fault))])])

end Router
end Storefront
