import Storefront.Assoc
import Storefront.Decimal.Exact

/-! # Dynamic values

Variables, answers and entities put in from outside carry values whose shape nobody has promised.
A `Value` is null, a truth value, an exact integer, a double, a text, a list, or a record whose
members keep the order of their first insertion.  A `Key` names a member of a record or an entity of
the store: any scalar can do so.  Two keys name the same, `==`, if they are the same text or stand
for the same number; `=` tells their spellings apart.

`Value.truthy` is the one notion of emptiness: null, false, zero, the empty text, the empty list and
the empty record are falsy, all else is truthy. -/

namespace Storefront

/-- A scalar that names a member of a record or an entity of the store. -/
inductive Key where
  | null
  | bool (b : Bool)
  | int (n : Int)
  | float (x : Float)
  | text (s : String)
  deriving DecidableEq, Inhabited

namespace Key

/-- Whether a key is a text. -/
def isText : Key → Bool
  | .text _ => true
  | _ => false

/-- The one spelling of all keys that name the same: a truth value counts as zero or one, and a
double without a fraction as a whole number. -/
def standard : Key → Key
  | .bool b => .int (if b then 1 else 0)
  | .float x => match Decimal.whole? x with
    | some n => .int n
    | none => .float x
  | k => k

/-- Whether two keys name the same. -/
instance : BEq Key := ⟨fun a b => a.standard = b.standard⟩

theorem beq_iff {a b : Key} : (a == b) = true ↔ a.standard = b.standard := decide_eq_true_iff

instance : EquivBEq Key where
  rfl := beq_iff.2 rfl
  symm h := beq_iff.2 (beq_iff.1 h).symm
  trans h h' := beq_iff.2 ((beq_iff.1 h).trans (beq_iff.1 h'))

@[simp] theorem text_beq_text (s t : String) : (Key.text s == Key.text t) = (s == t) := by
  rw [Bool.eq_iff_iff, beq_iff]
  simp [standard]

/-- Only a text is the same as a text. -/
theorem text_beq_iff {s : String} {k : Key} : (Key.text s == k) = true ↔ k = .text s := by
  rw [beq_iff]
  cases k with
  | float x =>
    simp only [standard]
    split <;> simp
  | _ => simp [standard, eq_comm]

end Key

/-- A value of unknown shape. -/
inductive Value where
  | null
  | bool (b : Bool)
  | int (n : Int)
  | float (x : Float)
  | text (s : String)
  | list (items : List Value)
  | record (fields : List (Key × Value))
  deriving Inhabited, BEq

/-- A text stands for the value that it is. -/
instance : Coe String Value := ⟨.text⟩

/-- A key as a value. -/
def Key.toValue : Key → Value
  | .null => .null
  | .bool b => .bool b
  | .int n => .int n
  | .float x => .float x
  | .text s => .text s

namespace Value

/-- The key that a value can serve as: every scalar can, a list or a record cannot. -/
def toKey? : Value → Option Key
  | .null => some .null
  | .bool b => some (.bool b)
  | .int n => some (.int n)
  | .float x => some (.float x)
  | .text s => some (.text s)
  | .list _ | .record _ => none

@[simp] theorem toKey?_toValue (k : Key) : k.toValue.toKey? = some k := by cases k <;> rfl

/-- A record with text names, the pairs put in one after the other. -/
def ofFields (fields : List (String × Value)) : Value :=
  .record (fields.map fun (name, v) => (Key.text name, v))

/-- A list of texts. -/
def texts (ss : List String) : Value := .list (ss.map .text)

/-- A text, or null where there is none. -/
def ofText? : Option String → Value
  | some s => .text s
  | none => .null

/-- The value, or null where there is none. -/
def ofOption : Option Value → Value
  | some v => v
  | none => .null

/-- Whether a value counts as something rather than nothing. -/
def truthy : Value → Bool
  | .null => false
  | .bool b => b
  | .int n => n ≠ 0
  | .float x => !(x == 0)
  | .text s => s ≠ ""
  | .list items => !items.isEmpty
  | .record fields => !fields.isEmpty

/-- The value if it is truthy, else the alternative. -/
def orElse (v w : Value) : Value := if v.truthy then v else w

/-- Whether a value is null. -/
def isNull : Value → Bool
  | .null => true
  | _ => false

/-- Whether a value is a record. -/
def isRecord : Value → Bool
  | .record _ => true
  | _ => false

/-- The member of a record under a text name. -/
def get? (v : Value) (name : String) : Option Value :=
  match v with
  | .record fields => Assoc.get? fields (.text name)
  | _ => none

/-- The record with one member put in; any other value stays as it is. -/
def put (v : Value) (name : String) (w : Value) : Value :=
  match v with
  | .record fields => .record (Assoc.put fields (.text name) w)
  | v => v

@[simp] theorem truthy_null : truthy .null = false := rfl
@[simp] theorem truthy_bool (b : Bool) : truthy (.bool b) = b := rfl
@[simp] theorem truthy_text (s : String) : truthy (.text s) = decide (s ≠ "") := rfl
@[simp] theorem truthy_list (vs : List Value) : truthy (.list vs) = !vs.isEmpty := rfl
@[simp] theorem truthy_record (fs : List (Key × Value)) : truthy (.record fs) = !fs.isEmpty := rfl

theorem get?_put_self {fields : List (Key × Value)} (name : String) (w : Value) :
    (put (.record fields) name w).get? name = some w := by
  simp [put, get?]

theorem get?_put_of_ne {fields : List (Key × Value)} {name other : String} (h : other ≠ name)
    (w : Value) : (put (.record fields) name w).get? other = (Value.record fields).get? other := by
  have : (Key.text other == Key.text name) = false := by simpa using h
  simp [put, get?, Assoc.get?_put_of_ne _ this]

end Value
end Storefront
