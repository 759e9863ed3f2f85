import Storefront.Decimal.Exact
import Storefront.Text.Half
import Storefront.Text.Percent

/-! # Encodings of texts

What arrives as a JSON text is a sequence of octets.  They are UTF-8 unless zero octets among the
first four tell that the characters are two or four octets wide: every JSON text begins with a
character of ASCII, and all but the shortest with two.

* `arrived` : the characters of what arrived
* `unencodable?` : the first characters that an encoding lacks -/

namespace Storefront.Text

/-- An encoding by code units of a fixed width. -/
structure Wide where
  /-- Whether a unit has four octets, rather than two. -/
  isFour : Bool
  /-- Whether the octet of the greatest weight comes first. -/
  isBig : Bool
  deriving DecidableEq, Repr

/-- The number of octets of a unit. -/
def Wide.width (w : Wide) : Nat := if w.isFour then 4 else 2

/-- The name of an encoding. -/
def Wide.name (w : Wide) : String :=
  (if w.isFour then "utf-32" else "utf-16") ++ (if w.isBig then "-be" else "-le")

/-- The wide encoding that the first octets tell, unless they are UTF-8. -/
def Wide.detect? : List Nat → Option Wide
  | 0 :: 0 :: _ :: _ :: _ => some ⟨true, true⟩
  | 0 :: _ :: _ :: _ :: _ => some ⟨false, true⟩
  | _ :: 0 :: 0 :: 0 :: _ => some ⟨true, false⟩
  | _ :: 0 :: _ :: _ :: _ => some ⟨false, false⟩
  | [0, _] => some ⟨false, true⟩
  | [_, 0] => some ⟨false, false⟩
  | _ => none

/-- Why octets are no text. -/
inductive DecodeError where
  /-- The last unit lacks octets. -/
  | truncated (encoding : String) (position : Nat) (octets : List Nat)
  /-- A unit is no code point. -/
  | outOfRange (encoding : String) (position : Nat)
  deriving DecidableEq, Repr

/-- A place among octets, or a run of places, in words. -/
def DecodeError.message : DecodeError → String
  | .truncated encoding position [n] =>
    "'" ++ encoding ++ "' codec can't decode byte 0x" ++ String.ofList (hex 2 n) ++
      " in position " ++ Decimal.whole position ++ ": truncated data"
  | .truncated encoding position ns =>
    "'" ++ encoding ++ "' codec can't decode bytes in position " ++ Decimal.whole position ++ "-" ++
      Decimal.whole (position + ns.length - 1) ++ ": truncated data"
  | .outOfRange encoding position =>
    "'" ++ encoding ++ "' codec can't decode bytes in position " ++ Decimal.whole position ++ "-" ++
      Decimal.whole (position + 3) ++ ": code point not in range(0x110000)"

/-- The number that octets make, the one of the greatest weight first. -/
def unitOf (ns : List Nat) : Nat := ns.foldl (fun m n => 256 * m + n) 0

/-- Puts code units of two octets together: two halves of a pair are one character. -/
def ofUnits : List Nat → List Char
  | [] => []
  | [m] => [unitChar m]
  | m :: n :: ns =>
    if 0xd800 ≤ m ∧ m < 0xdc00 ∧ 0xdc00 ≤ n ∧ n < 0xe000 then
      Char.ofNat (0x10000 + (m - 0xd800) * 0x400 + (n - 0xdc00)) :: ofUnits ns
    else unitChar m :: ofUnits (n :: ns)

/-- The units of octets, the first of which is at a position. -/
def Wide.units (w : Wide) (position : Nat) : List Nat → Except DecodeError (List Nat)
  | [] => .ok []
  | n :: ns =>
    let octets := (n :: ns).take w.width
    if octets.length < w.width then .error (.truncated w.name position octets)
    else
      let unit := unitOf (if w.isBig then octets else octets.reverse)
      if 0x10ffff < unit then .error (.outOfRange w.name position)
      else return unit :: (← w.units (position + w.width) (ns.drop (w.width - 1)))
termination_by ns => ns.length
decreasing_by exact Nat.lt_succ_of_le (List.length_drop ▸ Nat.sub_le _ _)

/-- The characters of octets in a wide encoding. -/
def Wide.read (w : Wide) (ns : List Nat) : Except DecodeError (List Char) := do
  let units ← w.units 0 ns
  return if w.isFour then units.map unitChar else ofUnits units

/-- The characters that the octets of a text stand for, as a JSON text that arrived.  A byte-order
mark is none of them. -/
def arrived (s : String) : Except DecodeError (List Char) :=
  match s.toList with
  | '\ufeff' :: cs => .ok cs
  | cs =>
    match Wide.detect? ((cs.take 4).flatMap octets) with
    | some w => w.read (cs.flatMap octets)
    | none => .ok cs

/-! ### Characters that an encoding lacks -/

/-- A run of characters that an encoding lacks, and where it begins. -/
structure Unencodable where
  encoding : String
  reason : String
  position : Nat
  run : List Char
  deriving DecidableEq, Repr

/-- The number by which a character is named: that of the half that it stands for, if any. -/
def unitOrPoint (c : Char) : Nat := (halfUnit? c).getD c.toNat

/-- What an encoding lacks, in words. -/
def Unencodable.message (u : Unencodable) : String :=
  let place := match u.run with
    | [c] =>
      let n := unitOrPoint c
      "character '\\" ++ String.ofList (if n < 0x100 then 'x' :: hex 2 n
        else if n < 0x10000 then 'u' :: hex 4 n else 'U' :: hex 8 n) ++ "' in position " ++
        Decimal.whole u.position
    | run =>
      "characters in position " ++ Decimal.whole u.position ++ "-" ++
        Decimal.whole (u.position + run.length - 1)
  "'" ++ u.encoding ++ "' codec can't encode " ++ place ++ ": " ++ u.reason

/-- The first run of characters that satisfy a condition, and where it begins. -/
def firstRun? (p : Char → Bool) (cs : List Char) : Option (Nat × List Char) :=
  let before := cs.takeWhile fun c => !p c
  match (cs.drop before.length).takeWhile p with
  | [] => none
  | run => some (before.length, run)

/-- Whether a character stands for half of a surrogate pair. -/
def isStandIn (c : Char) : Bool := (halfUnit? c).isSome

/-- The first characters of a text that UTF-8 lacks. -/
def unencodable? (cs : List Char) : Option Unencodable :=
  (firstRun? isStandIn cs).map fun (position, run) =>
    ⟨"utf-8", "surrogates not allowed", position, run⟩

/-- The first characters of a text that ASCII lacks. -/
def unencodableAscii? (cs : List Char) : Option Unencodable :=
  (firstRun? (fun c => 128 ≤ c.toNat) cs).map fun (position, run) =>
    ⟨"ascii", "ordinal not in range(128)", position, run⟩

end Storefront.Text
