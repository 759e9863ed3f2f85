import Storefront.Value
import Storefront.Decimal.Literal
import Storefront.Decimal.Shortest
import Storefront.Text.Quoted

/-! # Values as texts

`Value.display` is the text of a value inside a message: a text stands for itself, a number is
written in full, and inside a list or a record every text is quoted.  Only a writable value has this
text: a whole number with too many digits, wherever it stands in a value, is not written. -/

namespace Storefront

/-- The words for the values that have no digits of their own. -/
structure Wording where
  null : String
  yes : String
  no : String

/-- The words of messages. -/
def plainWording : Wording := ⟨"None", "True", "False"⟩

/-- Texts with a separator between them. -/
def Text.joined (separator : String) : List String → String
  | [] => ""
  | [s] => s
  | s :: ss => s ++ separator ++ Text.joined separator ss

/-- A key inside a list or a record. -/
def Key.quoted : Key → String
  | .null => plainWording.null
  | .bool b => if b then plainWording.yes else plainWording.no
  | .int n => Decimal.whole n
  | .float x => Decimal.plain x
  | .text s => Text.quoted s

/-- A key on its own. -/
def Key.display : Key → String
  | .text s => s
  | k => k.quoted

/-- Whether a key can be written. -/
def Key.isWritable : Key → Bool
  | .int n => Decimal.isWritable n
  | _ => true

namespace Value

mutual

/-- A value inside a list or a record. -/
def quoted : Value → String
  | .null => plainWording.null
  | .bool b => if b then plainWording.yes else plainWording.no
  | .int n => Decimal.whole n
  | .float x => Decimal.plain x
  | .text s => Text.quoted s
  | .list vs => "[" ++ Text.joined ", " (quotedAll vs) ++ "]"
  | .record fs => "\x7b" ++ Text.joined ", " (quotedFields fs) ++ "\x7d"

/-- The items of a list. -/
def quotedAll : List Value → List String
  | [] => []
  | v :: vs => v.quoted :: quotedAll vs

/-- The members of a record, each with its key. -/
def quotedFields : List (Key × Value) → List String
  | [] => []
  | (k, v) :: fs => (k.quoted ++ ": " ++ v.quoted) :: quotedFields fs

end

/-- A value as the text that a message shows. -/
def display : Value → String
  | .text s => s
  | v => v.quoted

@[simp] theorem display_text (s : String) : display (.text s) = s := rfl

mutual

/-- Whether every whole number in a value can be written, the keys of records included. -/
def isWritable : Value → Bool
  | .int n => Decimal.isWritable n
  | .list vs => allWritable vs
  | .record fs => fieldsWritable fs
  | _ => true

/-- Whether all items of a list can be written. -/
def allWritable : List Value → Bool
  | [] => true
  | v :: vs => v.isWritable && allWritable vs

/-- Whether all members of a record can be written, each with its key. -/
def fieldsWritable : List (Key × Value) → Bool
  | [] => true
  | (k, v) :: fs => k.isWritable && v.isWritable && fieldsWritable fs

end

@[simp] theorem isWritable_text (s : String) : isWritable (.text s) = true := rfl

@[simp] theorem isWritable_toValue (k : Key) : k.toValue.isWritable = k.isWritable := by
  cases k <;> rfl

@[simp] theorem display_toValue (k : Key) : k.toValue.display = k.display := by cases k <;> rfl

end Value
end Storefront
