import Storefront.Fault

/-! # Taking values apart

Operations that need a value of a certain shape take it apart with these functions; a value of any
other shape is a `Fault.shape`.  What is written of a value has to be writable. -/

namespace Storefront

/-- A value as JSON; it has to be writable. -/
def Json.written (layout : Layout) (v : Value) : Except Fault String :=
  if v.isWritable then .ok (write layout v) else .error (.value .unwritable)

namespace Value

/-- The member of a record, null where there is none. -/
def member (v : Value) (name : String) : Except Fault Value :=
  match v with
  | .record fields => .ok ((Assoc.get? fields (.text name)).getD .null)
  | _ => .error .shape

/-- The member of a record, `default` where there is none. -/
def memberOr (v : Value) (name : String) (default : Value) : Except Fault Value :=
  match v with
  | .record fields => .ok ((Assoc.get? fields (.text name)).getD default)
  | _ => .error .shape

/-- The member of a record that has to be there. -/
def item (v : Value) (name : String) : Except Fault Value :=
  match v with
  | .record fields =>
    match Assoc.get? fields (.text name) with
    | some w => .ok w
    | none => .error (.missingKey (.text name))
  | _ => .error .shape

/-- The record with one member put in; no other value takes members. -/
def withItem (v : Value) (name : String) (w : Value) : Except Fault Value :=
  match v with
  | .record fields => .ok (.record (Assoc.put fields (.text name) w))
  | _ => .error .shape

/-- The record with a member, which has to be there, changed. -/
def modifyItem (v : Value) (name : String) (f : Value → Except Fault Value) :
    Except Fault Value := do
  v.withItem name (← f (← v.item name))

/-- What a value holds one after the other: the items of a list, the keys of a record, the
characters of a text. -/
def elements (v : Value) : Except Fault (List Value) :=
  match v with
  | .list items => .ok items
  | .record fields => .ok (fields.map (·.1.toValue))
  | .text s => .ok (s.toList.map fun c => .text c.toString)
  | _ => .error .shape

/-- What a value holds, nothing if it is falsy. -/
def elementsOrNone (v : Value) : Except Fault (List Value) :=
  if v.truthy then v.elements else .ok []

/-- The first of what a value holds. -/
def head (v : Value) : Except Fault Value :=
  match v with
  | .list (w :: _) => .ok w
  | .text s =>
    match s.toList with
    | c :: _ => .ok (.text c.toString)
    | [] => .error .shape
  | .record fields =>
    match Assoc.get? fields (.int 0) with
    | some w => .ok w
    | none => .error (.missingKey (.int 0))
  | _ => .error .shape

/-- A value that has to be a text. -/
def asText (v : Value) : Except Fault String :=
  match v with
  | .text s => .ok s
  | _ => .error .shape

/-- The text that a message shows of a value, which has to be writable. -/
def written (v : Value) : Except Fault String :=
  if v.isWritable then .ok v.display else .error (.value .unwritable)

/-- A value that has to be a list. -/
def asList (v : Value) : Except Fault (List Value) :=
  match v with
  | .list items => .ok items
  | _ => .error .shape

/-- A value that has to be a scalar, as a key. -/
def asKey (v : Value) : Except Fault Key :=
  match v.toKey? with
  | some k => .ok k
  | none => .error .shape

/-- A value that has to be a record. -/
def asRecord (v : Value) : Except Fault (List (Key × Value)) :=
  match v with
  | .record fields => .ok fields
  | _ => .error .shape

/-- The member that an entry with two elements stands for. -/
def asPair (entry : Value) (place : Nat) : Except Fault (Key × Value) := do
  match ← entry.elements with
  | [k, v] => return (← k.asKey, v)
  | es => .error (.value (.notPair place es.length))

/-- A record that a value stands for: itself, or the members that its entries stand for. -/
def toRecord (v : Value) : Except Fault (List (Key × Value)) :=
  match v with
  | .record fields => .ok fields
  | v => do
    let pairs ← (← v.elements).zipIdx.mapM fun (entry, i) => asPair entry i
    return Assoc.ofPairs pairs

/-- The whole number of a value: numbers are cut off towards zero, texts are read. -/
def wholeNumber (v : Value) : Except Fault Int :=
  match v with
  | .bool b => .ok (if b then 1 else 0)
  | .int n => .ok n
  | .float x =>
    match Decimal.truncate x with
    | .whole n => .ok n
    | .infinite => .error .infiniteWhole
    | .nan => .error (.value .notANumber)
  | .text s =>
    match Decimal.readWhole s with
    | .ok n => .ok n
    | .error .malformed => .error (.value (.notWhole s))
    | .error (.tooLong count) => .error (.value (.tooManyDigits count))
  | _ => .error .shape

/-- The double of a whole number, unless it is too large for one. -/
def doubleOfInt (n : Int) : Except Fault Float :=
  match Decimal.ofInt? n with
  | some x => .ok x
  | none => .error .tooLarge

/-- The double of a number: no other value is one. -/
def number (v : Value) : Except Fault Float :=
  match v with
  | .bool b => .ok (if b then 1 else 0)
  | .int n => doubleOfInt n
  | .float x => .ok x
  | _ => .error .shape

/-- The double of a number or of the text of one. -/
def realNumber (v : Value) : Except Fault Float :=
  match v with
  | .text s =>
    match Decimal.readReal? s with
    | some x => .ok x
    | none => .error (.value (.notReal s))
  | v => v.number

@[simp] theorem member_record (fields : List (Key × Value)) (name : String) :
    (Value.record fields).member name = .ok ((Assoc.get? fields (.text name)).getD .null) := rfl

@[simp] theorem elements_list (items : List Value) : (Value.list items).elements = .ok items := rfl

theorem elementsOrNone_list (items : List Value) : (Value.list items).elementsOrNone =
    .ok items := by
  cases items <;> rfl

/-- A value is taken for the key that shows as this value. -/
theorem toValue_of_asKey {v : Value} {k : Key} (h : v.asKey = .ok k) : k.toValue = v := by
  cases v with
  | list _ | record _ => cases h
  | _ =>
    obtain rfl := Except.ok.inj h
    rfl

@[simp] theorem asText_text (s : String) : (Value.text s).asText = .ok s := rfl

@[simp] theorem written_text (s : String) : (Value.text s).written = .ok s := rfl

theorem written_of_isWritable {v : Value} (h : v.isWritable = true) : v.written = .ok v.display :=
  if_pos h

/-- What is written of a value is its text. -/
theorem written_eq_ok {v : Value} {s : String} (h : v.written = .ok s) : s = v.display := by
  unfold written at h
  split at h
  · exact (Except.ok.inj h).symm
  · cases h

theorem written_of_not_isWritable {v : Value} (h : v.isWritable = false) :
    v.written = .error (.value .unwritable) := if_neg (by simp [h])

/-- Values are written one by one, or one of them is not writable. -/
theorem mapM_written (vs : List Value) : vs.mapM (·.written) =
    if allWritable vs then .ok (vs.map display) else .error (.value .unwritable) := by
  induction vs with
  | nil => rfl
  | cons v vs ih =>
    rw [List.mapM_cons, ih, allWritable]
    cases hv : v.isWritable with
    | false => rw [written_of_not_isWritable hv]; rfl
    | true =>
      rw [written_of_isWritable hv]
      cases allWritable vs <;> rfl

theorem allWritable_append (vs ws : List Value) :
    allWritable (vs ++ ws) = (allWritable vs && allWritable ws) := by
  induction vs with
  | nil => rfl
  | cons v vs ih => rw [List.cons_append, allWritable, allWritable, ih, Bool.and_assoc]

@[simp] theorem wholeNumber_int (n : Int) : (Value.int n).wholeNumber = .ok n := rfl

end Value
end Storefront
