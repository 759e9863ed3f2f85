import Storefront.Attribute

/-! # Checked input of cart lines

A caller gives a line as a bare quantity or as a record with a quantity and attributes;
`LineInput.coerce` tells the two apart.  What is sent for a line is checked member by member, and
all defects are reported together, each with its place. -/

namespace Storefront

/-- The outcome of a check: a value, or every defect found. -/
abbrev Checked (α : Type) := Except (List Issue) α

namespace Checked

/-- Both outcomes; the defects of both are kept. -/
def both {α β γ : Type} (f : α → β → γ) : Checked α → Checked β → Checked γ
  | .ok a, .ok b => .ok (f a b)
  | .ok _, .error js => .error js
  | .error is, .ok _ => .error is
  | .error is, .error js => .error (is ++ js)

/-- A single defect. -/
def issue {α : Type} (path : List PathStep) (kind : IssueKind) : Checked α := .error [⟨path, kind⟩]

/-- The checked value, or the fault that holds its defects. -/
def orFault {α : Type} : Checked α → Except Fault α
  | .ok a => .ok a
  | .error issues => .error (.invalid issues)

/-- Checks a value that has to be a text. -/
def text (path : List PathStep) : Value → Checked String
  | .text s => .ok s
  | _ => issue path .textExpected

/-- Checks a value that has to be a text or null. -/
def text? (path : List PathStep) : Value → Checked (Option String)
  | .null => .ok none
  | v => (text path v).map some

/-- The magnitude from which on doubles are not read as whole numbers. -/
def wholeBound : Float := 9223372036854775808

/-- Checks a value that has to be a whole number, or a number or text that stands for one. -/
def whole (path : List PathStep) : Value → Checked Int
  | .bool b => .ok (if b then 1 else 0)
  | .int n => .ok n
  | .float x =>
    match Decimal.truncate x with
    | .infinite | .nan => issue path .notFinite
    | .whole n =>
      if !Decimal.isWhole x then issue path .wholeFractional
      else if -wholeBound < x ∧ x < wholeBound then .ok n
      else issue path .wholeTooLarge
  | .text s =>
    if (Text.unencodable? s.toList).isSome then issue path .textUnsendable
    else match Decimal.readCount s with
    | .ok n => .ok n
    | .error .malformed => issue path .wholeMalformed
    | .error (.tooLong _) => issue path .wholeTooLarge
  | _ => issue path .wholeExpected

/-- Checks a member of a record; `default` stands in for an absent one that is not required. -/
def field {α : Type} (fields : List (Key × Value)) (name : String)
    (check : List PathStep → Value → Checked α) (default : Option α) : Checked α :=
  match Assoc.get? fields (.text name), default with
  | some v, _ => check [.name name] v
  | none, some a => .ok a
  | none, none => issue [.name name] .missing

/-- The members of a model, all of which have to have text names. -/
def members (fields : List (Key × Value)) : Except Fault (List (Key × Value)) :=
  if fields.all fun (k, _) => k.isText then .ok fields else .error .shape

/-- Checks every item of a list, each under its place. -/
def items {α : Type} (path : List PathStep) (check : List PathStep → Value → Checked α)
    (vs : List Value) : Checked (List α) :=
  vs.zipIdx.foldr (fun (v, i) rest => both List.cons (check (path ++ [.index i]) v) rest) (.ok [])

end Checked

/-- A checked attribute of a line. -/
structure LineAttribute where
  key : String
  value : Value
  deriving Inhabited, BEq

namespace LineAttribute

/-- Checks an attribute given as a record. -/
def check (path : List PathStep) (v : Value) : Checked LineAttribute :=
  match v with
  | .record fields =>
    Checked.both LineAttribute.mk
      (match Assoc.get? fields (.text "key") with
        | some k => Checked.text (path ++ [.name "key"]) k
        | none => Checked.issue (path ++ [.name "key"]) .missing)
      (match Assoc.get? fields (.text "value") with
        | some w => .ok w
        | none => Checked.issue (path ++ [.name "value"]) .missing)
  | _ => Checked.issue path .modelExpected

/-- Checks a list of attributes. -/
def checkAll (path : List PathStep) (v : Value) : Checked (List LineAttribute) :=
  match v with
  | .list vs => Checked.items path check vs
  | _ => Checked.issue path .listExpected

/-- A checked attribute as it was given. -/
def given (a : LineAttribute) : Attribute := ⟨a.key, a.value⟩

/-- An attribute as a record. -/
def toValue (a : LineAttribute) : Value := a.given.toValue

/-- An attribute as a record without a null value. -/
def toValueSparse (a : LineAttribute) : Value := a.given.toValueSparse

end LineAttribute

/-- A line as a caller gives it: how many, and with which attributes. -/
structure LineInput where
  quantity : Int
  attributes : List LineAttribute
  deriving Inhabited

/-- The line that a value stands for: a record with quantity and attributes, or a bare quantity. -/
def LineInput.coerce (v : Value) : Except Fault LineInput :=
  match v with
  | .record _ => do
    let quantity ← v.member "quantity"
    let attributes ← Attribute.format ((← v.member "attributes").orElse (.record []))
    Checked.orFault <| Checked.both LineInput.mk
      (Checked.whole [.name "quantity"] (quantity.orElse (.int 0)))
      (LineAttribute.checkAll [.name "attributes"] (.list (attributes.map Attribute.toValue)))
  | v => do return ⟨← v.wholeNumber, []⟩

/-- A line as a record. -/
def LineInput.toValue (l : LineInput) : Value :=
  .ofFields [("quantity", .int l.quantity), ("attributes", .list (l.attributes.map (·.toValue)))]

/-- What is sent to add a line. -/
structure LineAddition where
  merchandiseId : String
  quantity : Int
  attributes : List LineAttribute
  sellingPlanId : Option String

namespace LineAddition

/-- Checks the members of an addition. -/
def check (fields : List (Key × Value)) : Except Fault LineAddition := do
  let fields ← Checked.members fields
  Checked.orFault <|
    Checked.both (fun (merchandise, quantity) (attributes, plan) =>
        (⟨merchandise, quantity, attributes, plan⟩ : LineAddition))
      (Checked.both Prod.mk (Checked.field fields "merchandiseId" Checked.text none)
        (Checked.field fields "quantity" Checked.whole none))
      (Checked.both Prod.mk (Checked.field fields "attributes" LineAttribute.checkAll (some []))
        (Checked.field fields "sellingPlanId" Checked.text? (some none)))

/-- An addition as a record; what is null is left out. -/
def toValue (l : LineAddition) : Value :=
  .ofFields
    ([("merchandiseId", .text l.merchandiseId), ("quantity", .int l.quantity),
        ("attributes", .list (l.attributes.map (·.toValueSparse)))] ++
      match l.sellingPlanId with
      | some plan => [("sellingPlanId", .text plan)]
      | none => [])

end LineAddition

/-- What is sent to update a line. -/
structure LineChange where
  id : String
  quantity : Int
  attributes : List LineAttribute

namespace LineChange

/-- Checks the members of a change. -/
def check (fields : List (Key × Value)) : Except Fault LineChange := do
  let fields ← Checked.members fields
  Checked.orFault <|
    Checked.both (fun (id, quantity) attributes => (⟨id, quantity, attributes⟩ : LineChange))
      (Checked.both Prod.mk (Checked.field fields "id" Checked.text none)
        (Checked.field fields "quantity" Checked.whole none))
      (Checked.field fields "attributes" LineAttribute.checkAll (some []))

/-- A change as a record. -/
def toValue (l : LineChange) : Value :=
  .ofFields [("id", .text l.id), ("quantity", .int l.quantity),
    ("attributes", .list (l.attributes.map (·.toValue)))]

end LineChange
end Storefront
