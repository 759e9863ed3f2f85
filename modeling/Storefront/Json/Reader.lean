import Storefront.Decimal.Literal
import Storefront.Text.Encoding
import Storefront.Value

/-! # Reading JSON

`Json.read` reads a text as one value.  A number without a fraction and an exponent is an exact
integer, any other number a double; three names stand for the doubles that are not finite.  Of two
members of one name the later value counts, at the place of the earlier one.  The error tells what
was expected, and where.

Reading works on the list of characters.  Every reader of a part returns the rest of the list; the
position of an error is the number of characters before it, which is the length of the whole list
less that of the rest. -/

namespace Storefront.Json

/-- What is wrong with a text that is not JSON. -/
inductive Malformed where
  | valueExpected
  | nameExpected
  | colonExpected
  | commaExpected
  | unterminated
  | controlCharacter
  | badEscape
  | badCodeUnit
  | extraData
  /-- An integer has too many digits. -/
  | tooLong (count : Nat)
  /-- Lists or records are nested too deeply; it is a list that is one too many, or a record. -/
  | tooDeep (isList : Bool)
  deriving DecidableEq, Repr

/-- A defect and the rest of the text from the place of the defect on. -/
structure Defect where
  cause : Malformed
  rest : List Char

/-- What a reader of a part gives: a value and the rest of the text. -/
abbrev Part (α : Type) := Except Defect (α × List Char)

/-- Whether a character may stand between the tokens. -/
def isSpace (c : Char) : Bool := c == ' ' || c == '\t' || c == '\n' || c == '\r'

/-- The text without the white space at its start. -/
def skipSpace (cs : List Char) : List Char := cs.dropWhile isSpace

/-- The code unit of four hexadecimal digits. -/
def codeUnit? (a b c d : Char) : Option Nat := do
  let high := (← Text.hexDigit? a) * 16 + (← Text.hexDigit? b)
  some (high * 256 + (← Text.hexDigit? c) * 16 + (← Text.hexDigit? d))

/-- The character that an escape letter stands for. -/
def escapeLetter? (c : Char) : Option Char :=
  match c with
  | '"' => some '"'
  | '\\' => some '\\'
  | '/' => some '/'
  | 'b' => some '\x08'
  | 'f' => some '\x0c'
  | 'n' => some '\n'
  | 'r' => some '\r'
  | 't' => some '\t'
  | _ => none

/-- A pair of code units as one character: only a high and a low surrogate make one. -/
def pairChar? (high low : Nat) : Option Char :=
  if 0xd800 ≤ high ∧ high < 0xdc00 ∧ 0xdc00 ≤ low ∧ low < 0xe000 then
    some (Char.ofNat (0x10000 + (high - 0xd800) * 0x400 + (low - 0xdc00)))
  else none

/-- The character of a high surrogate and the escape of a low one behind it, with something behind
that. -/
def lowHalf? (high : Nat) : List Char → Option Char
  | '\\' :: 'u' :: a :: b :: c :: d :: _ :: _ => (codeUnit? a b c d).bind (pairChar? high)
  | _ => none

/-- Reads a text behind its opening quotation mark, which is the first character of `start`.  An
escape of a code unit has something behind it, be it only the closing quotation mark. -/
def readText (start : List Char) (acc : List Char) : List Char → Part String
  | [] => .error ⟨.unterminated, start⟩
  | '"' :: cs => .ok (String.ofList acc.reverse, cs)
  | '\\' :: 'u' :: a :: b :: c :: d :: e :: cs =>
    match codeUnit? a b c d with
    | none => .error ⟨.badCodeUnit, 'u' :: a :: b :: c :: d :: e :: cs⟩
    | some high =>
      -- Two escapes may stand for one character.
      match lowHalf? high (e :: cs) with
      | some x => readText start (x :: acc) (cs.drop 5)
      | none => readText start (Text.unitChar high :: acc) (e :: cs)
  | '\\' :: 'u' :: cs => .error ⟨.badCodeUnit, 'u' :: cs⟩
  | '\\' :: c :: cs =>
    match escapeLetter? c with
    | some x => readText start (x :: acc) cs
    | none => .error ⟨.badEscape, '\\' :: c :: cs⟩
  | c :: cs =>
    if c = '\\' then .error ⟨.unterminated, start⟩
    else if c.toNat < 32 then .error ⟨.controlCharacter, c :: cs⟩
    else readText start (c :: acc) cs
termination_by cs => cs.length
decreasing_by all_goals (simp only [List.length_cons, List.length_drop]; omega)

/-- A run of digits at the start of a text. -/
def digitRun (cs : List Char) : List Char := cs.takeWhile Char.isDigit

/-- The fraction at the start of a text: a point and at least one digit. -/
def fraction (cs : List Char) : List Char :=
  match cs with
  | '.' :: r => if digitRun r = [] then [] else digitRun r
  | _ => []

/-- The exponent at the start of a text: its value and the number of its characters. -/
def exponent (cs : List Char) : Option (Int × Nat) :=
  match cs with
  | c :: r =>
    if c = 'e' ∨ c = 'E' then
      let (negative, ds) := Decimal.splitSign r
      let run := digitRun ds
      if run = [] then none
      else
        let n : Int := Decimal.ofDigits run
        some (if negative then -n else n, 1 + (r.length - ds.length) + run.length)
    else none
  | [] => none

/-- Reads a number whose sign has been read off. -/
def readUnsigned (start : List Char) (negative : Bool) (cs : List Char) : Part Value :=
  let run := match cs with
    | '0' :: _ => ['0']
    | cs => digitRun cs
  if run = [] then .error ⟨.valueExpected, start⟩
  else
    let rest := cs.drop run.length
    let places := fraction rest
    let rest := if places = [] then rest else rest.drop (places.length + 1)
    match places, exponent rest with
    | [], none =>
      if Decimal.digitLimit < run.length then .error ⟨.tooLong run.length, start⟩
      else
        let n : Int := Decimal.ofDigits run
        .ok (.int (if negative then -n else n), rest)
    | _, e =>
      let (power, used) := e.getD (0, 0)
      let x := Decimal.ofScientific (Decimal.ofDigits (run ++ places)) (power - places.length)
      .ok (.float (if negative then -x else x), rest.drop used)

/-- Reads a number. -/
def readNumber (cs : List Char) : Part Value :=
  match cs with
  | '-' :: r => readUnsigned cs true r
  | _ => readUnsigned cs false cs

/-- The words that stand for values. -/
def words : List (List Char × Value) :=
  [("null".toList, .null), ("true".toList, .bool true), ("false".toList, .bool false),
    ("NaN".toList, .float (Float.ofBits 0x7ff8000000000000)),
    ("Infinity".toList, .float (Float.ofBits 0x7ff0000000000000)),
    ("-Infinity".toList, .float (Float.ofBits 0xfff0000000000000))]

/-- Reads a word or a number. -/
def readScalar (cs : List Char) : Part Value :=
  match words.find? fun (w, _) => w.isPrefixOf cs with
  | some (w, v) => .ok (v, cs.drop w.length)
  | none => readNumber cs

mutual

/-- Reads a value within which lists and records may be nested `depth` times; `fuel` bounds the
nesting and the number of items. -/
def readValue (fuel depth : Nat) (cs : List Char) : Except Defect (Value × List Char) :=
  match fuel with
  | 0 => .error ⟨.valueExpected, cs⟩
  | fuel + 1 =>
    match cs, depth with
    | [], _ => .error ⟨.valueExpected, []⟩
    | '"' :: r, _ => do
      let (s, rest) ← readText cs [] r
      return (.text s, rest)
    | '[' :: _, 0 => .error ⟨.tooDeep true, cs⟩
    | '\x7b' :: _, 0 => .error ⟨.tooDeep false, cs⟩
    | '[' :: r, depth + 1 =>
      match skipSpace r with
      | ']' :: rest => .ok (.list [], rest)
      | r => readItems fuel depth [] r
    | '\x7b' :: r, depth + 1 =>
      match skipSpace r with
      | '\x7d' :: rest => .ok (.record [], rest)
      | r => readMembers fuel depth [] r
    | cs, _ => readScalar cs

/-- Reads the items of a list from the next item on; `acc` holds the earlier ones, last first. -/
def readItems (fuel depth : Nat) (acc : List Value) (cs : List Char) :
    Except Defect (Value × List Char) :=
  match fuel with
  | 0 => .error ⟨.valueExpected, cs⟩
  | fuel + 1 => do
    let (v, rest) ← readValue fuel depth cs
    match skipSpace rest with
    | ']' :: rest => return (.list (v :: acc).reverse, rest)
    | ',' :: rest => readItems fuel depth (v :: acc) (skipSpace rest)
    | rest => throw ⟨.commaExpected, rest⟩

/-- Reads the members of a record from the next member on; `acc` holds the earlier ones. -/
def readMembers (fuel depth : Nat) (acc : List (Key × Value)) (cs : List Char) :
    Except Defect (Value × List Char) :=
  match fuel with
  | 0 => .error ⟨.valueExpected, cs⟩
  | fuel + 1 =>
    match cs with
    | '"' :: r => do
      let (name, rest) ← readText cs [] r
      match skipSpace rest with
      | ':' :: rest =>
        let (v, rest) ← readValue fuel depth (skipSpace rest)
        let acc := Assoc.put acc (.text name) v
        match skipSpace rest with
        | '\x7d' :: rest => return (.record acc, rest)
        | ',' :: rest => readMembers fuel depth acc (skipSpace rest)
        | rest => throw ⟨.commaExpected, rest⟩
      | rest => throw ⟨.colonExpected, rest⟩
    | cs => throw ⟨.nameExpected, cs⟩

end

/-- What is wrong with a text, and where: line and column count from one, the offset from zero. -/
structure ReadError where
  cause : Malformed
  line : Nat
  column : Nat
  offset : Nat
  deriving DecidableEq, Repr

/-- The place of a defect within the whole text. -/
def ReadError.locate (whole : List Char) (d : Defect) : ReadError :=
  let before := whole.take (whole.length - d.rest.length)
  { cause := d.cause
    line := before.count '\n' + 1
    column := (before.reverse.takeWhile (· ≠ '\n')).length + 1
    offset := before.length }

/-- What was expected, in words. -/
def Malformed.message : Malformed → String
  | .valueExpected => "Expecting value"
  | .nameExpected => "Expecting property name enclosed in double quotes"
  | .colonExpected => "Expecting ':' delimiter"
  | .commaExpected => "Expecting ',' delimiter"
  | .unterminated => "Unterminated string starting at"
  | .controlCharacter => "Invalid control character at"
  | .badEscape => "Invalid \\escape"
  | .badCodeUnit => "Invalid \\uXXXX escape"
  | .extraData => "Extra data"
  | .tooLong _ => "Number too long"
  | .tooDeep true => "Too many nested lists"
  | .tooDeep false => "Too many nested records"

/-- Reads characters as one value within which lists and records may be nested `depth` times. -/
def readChars (depth : Nat) (cs : List Char) : Except ReadError Value :=
  match readValue (2 * cs.length + 2) depth (skipSpace cs) with
  | .error d => .error (ReadError.locate cs d)
  | .ok (v, rest) =>
    match skipSpace rest with
    | [] => .ok v
    | rest => .error (ReadError.locate cs ⟨.extraData, rest⟩)

/-- Reads a text as one value within which lists and records may be nested `depth` times. -/
def read (depth : Nat) (s : String) : Except ReadError Value := readChars depth s.toList

/-- Why what arrived is not JSON. -/
inductive ArrivalError where
  | encoding (e : Text.DecodeError)
  | text (e : ReadError)
  deriving DecidableEq, Repr

/-- Reads what arrived as the octets of a text. -/
def readArrived (depth : Nat) (s : String) : Except ArrivalError Value := do
  let cs ← (Text.arrived s).mapError .encoding
  (readChars depth cs).mapError .text

end Storefront.Json
