import Storefront.Text.Encoding
import Storefront.Value.Display

/-! # Writing JSON

`Json.write` writes a value as JSON: in ASCII, on one line or indented, or with all characters as
they are and no spaces.  A key that is not a text is written as the text of the scalar; a number
that is not finite has a name of its own.

Whole numbers are taken to have at most `Decimal.digitLimit` digits, as all have that arrived as
JSON.  Where a number may come from elsewhere, `Json.written` checks it first. -/

namespace Storefront.Json

/-- How the items of a list and the members of a record are set apart. -/
inductive Layout where
  /-- All on one line. -/
  | line
  /-- Each on a line of its own, indented by a number of spaces a level. -/
  | indented (width : Nat)
  /-- As it is sent: without spaces, and with characters outside ASCII as they are. -/
  | sent
  deriving DecidableEq, Repr

/-- What stands between the name and the value of a member. -/
def Layout.colon : Layout → String
  | .sent => ":"
  | _ => ": "

/-- The escape of one code unit. -/
def unitEscape (n : Nat) : List Char := '\\' :: 'u' :: Text.hex 4 n

/-- A character inside a JSON text. -/
def escaped (layout : Layout) (c : Char) : List Char :=
  if c = '"' then ['\\', '"']
  else if c = '\\' then ['\\', '\\']
  else if c = '\n' then ['\\', 'n']
  else if c = '\r' then ['\\', 'r']
  else if c = '\t' then ['\\', 't']
  else if c = '\x08' then ['\\', 'b']
  else if c = '\x0c' then ['\\', 'f']
  else if 32 ≤ c.toNat ∧ (c.toNat < 127 ∨ layout = .sent) then [c]
  else if c.toNat < 0x10000 then unitEscape c.toNat
  else if let some n := Text.halfUnit? c then unitEscape n
  else
    let n := c.toNat - 0x10000
    unitEscape (0xd800 + n / 0x400) ++ unitEscape (0xdc00 + n % 0x400)

/-- A text as JSON. -/
def text (layout : Layout) (s : String) : String :=
  String.ofList ('"' :: s.toList.flatMap (escaped layout) ++ ['"'])

/-- A double as JSON. -/
def float (x : Float) : String :=
  match Decimal.Exact.ofFloat x with
  | .nan => "NaN"
  | .infinite negative => if negative then "-Infinity" else "Infinity"
  | .finite negative m e => String.ofList (Decimal.plainFinite negative m e)

/-- The text that a key is written as. -/
def keyText : Key → String
  | .null => "null"
  | .bool b => if b then "true" else "false"
  | .int n => Decimal.whole n
  | .float x => float x
  | .text s => s

/-- A line break with the indentation of a level. -/
def lineBreak (width level : Nat) : String :=
  String.ofList ('\n' :: List.replicate (width * level) ' ')

/-- Writes items between brackets. -/
def bracketed (layout : Layout) (level : Nat) (left right : String) (items : List String) :
    String :=
  if items.isEmpty then left ++ right
  else match layout with
    | .line => left ++ Text.joined ", " items ++ right
    | .sent => left ++ Text.joined "," items ++ right
    | .indented width =>
      let inner := lineBreak width (level + 1)
      left ++ inner ++ Text.joined ("," ++ inner) items ++ lineBreak width level ++ right

mutual

/-- Writes a value at a level of nesting. -/
def writeAt (layout : Layout) (level : Nat) : Value → String
  | .null => "null"
  | .bool b => if b then "true" else "false"
  | .int n => Decimal.whole n
  | .float x => float x
  | .text s => text layout s
  | .list vs => bracketed layout level "[" "]" (writeAll layout (level + 1) vs)
  | .record fs => bracketed layout level "\x7b" "\x7d" (writeFields layout (level + 1) fs)

/-- Writes the items of a list. -/
def writeAll (layout : Layout) (level : Nat) : List Value → List String
  | [] => []
  | v :: vs => writeAt layout level v :: writeAll layout level vs

/-- Writes the members of a record. -/
def writeFields (layout : Layout) (level : Nat) : List (Key × Value) → List String
  | [] => []
  | (k, v) :: fs =>
    (text layout (keyText k) ++ layout.colon ++ writeAt layout level v) ::
      writeFields layout level fs

end

/-- A value as JSON. -/
def write (layout : Layout) (v : Value) : String := writeAt layout 0 v

mutual

/-- The value that is read back from the JSON of a value: every key has become a text. -/
def wire : Value → Value
  | .list vs => .list (wireAll vs)
  | .record fs => .record (Assoc.ofPairs (wireFields fs))
  | v => v

/-- The items of a list, as read back. -/
def wireAll : List Value → List Value
  | [] => []
  | v :: vs => wire v :: wireAll vs

/-- The members of a record, as read back. -/
def wireFields : List (Key × Value) → List (Key × Value)
  | [] => []
  | (k, v) :: fs => (.text (keyText k), wire v) :: wireFields fs

end

mutual

/-- Whether every number in a value is finite. -/
def allFinite : Value → Bool
  | .float x => x.isFinite
  | .list vs => allFiniteItems vs
  | .record fs => allFiniteFields fs
  | _ => true

/-- Whether every number in a list is finite. -/
def allFiniteItems : List Value → Bool
  | [] => true
  | v :: vs => allFinite v && allFiniteItems vs

/-- Whether every number in the members of a record is finite, and every one that names a member. -/
def allFiniteFields : List (Key × Value) → Bool
  | [] => true
  | (.float x, v) :: fs => x.isFinite && allFinite v && allFiniteFields fs
  | (_, v) :: fs => allFinite v && allFiniteFields fs

end

/-- Why a value cannot be sent. -/
inductive SendError where
  /-- A number is not finite. -/
  | notFinite
  /-- The JSON of the value has no octets. -/
  | encoding (u : Text.Unencodable)
  deriving DecidableEq, Repr

/-- A value as it arrives where it is sent to, or why it cannot be sent.  Whatever is sent makes the
round trip, so its whole numbers are taken not to be too long. -/
def sent (v : Value) : Except SendError Value :=
  if !allFinite v then .error .notFinite
  else match Text.unencodable? (write .sent v).toList with
    | some u => .error (.encoding u)
    | none => .ok (wire v)

end Storefront.Json
