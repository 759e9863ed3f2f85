import Storefront.Value.Access

/-! # Attributes

An attribute is a key with a value, attached to a cart or to one of its lines.  Callers may give
attributes as a record, as a list of `key`/`value` records, or as a list of bare values, whose keys
are then their places; `Attribute.format` brings all these into one form. -/

namespace Storefront

/-- A key with a value. -/
structure Attribute where
  key : Value
  value : Value
  deriving Inhabited, BEq

namespace Attribute

/-- An attribute as a record. -/
def toValue (a : Attribute) : Value := .ofFields [("key", a.key), ("value", a.value)]

/-- An attribute as a record without a null value. -/
def toValueSparse (a : Attribute) : Value :=
  .ofFields (("key", a.key) :: if a.value.isNull then [] else [("value", a.value)])

theorem toValueSparse_eq_iff (a : Attribute) :
    a.toValueSparse = a.toValue ↔ a.value.isNull = false := by
  rw [toValueSparse, toValue]
  cases a.value.isNull <;> simp [Value.ofFields]

/-- The attribute that one entry stands for: a nested record has to hold both key and value. -/
def ofEntry (key : Key) (value : Value) : Except Fault Attribute :=
  match value with
  | .record fields =>
    match Assoc.get? fields (.text "key"), Assoc.get? fields (.text "value") with
    | some k, some v => .ok ⟨k, v⟩
    | _, _ => .error (.value (.attribute key value))
  | value => .ok ⟨key.toValue, value⟩

/-- The entries of the attributes that a caller gives: the members of a record, or the elements of
any other value under their places. -/
def entries (v : Value) : Except Fault (List (Key × Value)) :=
  match v with
  | .record fields => .ok fields
  | v => do
    let elements ← v.elements
    return elements.zipIdx.map fun (w, i) => (.int i, w)

/-- The attributes that a caller gives, in the order given. -/
def format (v : Value) : Except Fault (List Attribute) := do
  (← entries v).mapM fun (k, w) => ofEntry k w

end Attribute
end Storefront
