import Storefront.Text.Quoted

/-! # Percent encoding

A character that an address cannot hold is written by its octets, each as a percent sign and two
hexadecimal digits.  `percentEncode` leaves what is written so already alone; `percentDecode` reads
octets back, those that make no character as the replacement character. -/

namespace Storefront.Text

/-- The value of a hexadecimal digit. -/
def hexDigit? (c : Char) : Option Nat :=
  if c.isDigit then some (c.toNat - 48)
  else if 'a' ≤ c ∧ c ≤ 'f' then some (c.toNat - 87)
  else if 'A' ≤ c ∧ c ≤ 'F' then some (c.toNat - 55)
  else none

/-- Whether a character never needs to be encoded. -/
def isUnreserved (c : Char) : Bool := c.isAlphanum || "-._~".toList.contains c

/-- The octets of a character. -/
def octets (c : Char) : List Nat := (String.utf8EncodeChar c).map UInt8.toNat

/-- A character written by its octets. -/
def percentOctets (c : Char) : List Char :=
  (octets c).flatMap fun n => '%' :: (hex 2 n).map Char.toUpper

/-- Writes every character by its octets that is neither to be kept nor part of such an octet. -/
def percentEncode (keep : Char → Bool) : List Char → List Char
  | [] => []
  | '%' :: a :: b :: cs =>
    if (hexDigit? a).isSome && (hexDigit? b).isSome then '%' :: a :: b :: percentEncode keep cs
    else (if keep '%' then ['%'] else percentOctets '%') ++ percentEncode keep (a :: b :: cs)
  | c :: cs => (if keep c then [c] else percentOctets c) ++ percentEncode keep cs

/-! ### Decoding -/

/-- How many octets follow the first one of a character, and the range of the next one. -/
def followers? (n : Nat) : Option (Nat × Nat × Nat) :=
  if n < 0xc2 then none
  else if n < 0xe0 then some (1, 0x80, 0xbf)
  else if n = 0xe0 then some (2, 0xa0, 0xbf)
  else if n = 0xed then some (2, 0x80, 0x9f)
  else if n < 0xf0 then some (2, 0x80, 0xbf)
  else if n = 0xf0 then some (3, 0x90, 0xbf)
  else if n < 0xf4 then some (3, 0x80, 0xbf)
  else if n = 0xf4 then some (3, 0x80, 0x8f)
  else none

/-- The first octet's share of the code point. -/
def leading (more n : Nat) : Nat := n % Nat.pow 2 (6 - more)

/-- Reads the octets that follow the first one: the code point, unless one is missing, and how many
were read. -/
def readFollowers : (more lo hi point used : Nat) → List Nat → Option Nat × Nat
  | 0, _, _, point, used, _ => (some point, used)
  | _ + 1, _, _, _, used, [] => (none, used)
  | more + 1, lo, hi, point, used, n :: ns =>
    if lo ≤ n ∧ n ≤ hi then readFollowers more 0x80 0xbf (64 * point + n % 64) (used + 1) ns
    else (none, used)

/-- The characters of octets; whatever makes none is replaced. -/
def ofOctets : List Nat → List Char
  | [] => []
  | n :: ns =>
    if n < 128 then Char.ofNat n :: ofOctets ns
    else match followers? n with
      | none => '\ufffd' :: ofOctets ns
      | some (more, lo, hi) =>
        match readFollowers more lo hi (leading more n) 0 ns with
        | (some point, used) => Char.ofNat point :: ofOctets (ns.drop used)
        | (none, used) => '\ufffd' :: ofOctets (ns.drop used)
termination_by ns => ns.length
decreasing_by all_goals (simp only [List.length_cons, List.length_drop]; omega)

/-- The octets of a text in ASCII, in which some are written out. -/
def writtenOctets : List Char → List Nat
  | '%' :: a :: b :: cs =>
    match hexDigit? a, hexDigit? b with
    | some m, some n => (16 * m + n) :: writtenOctets cs
    | _, _ => 37 :: writtenOctets (a :: b :: cs)
  | c :: cs => c.toNat :: writtenOctets cs
  | [] => []

/-- Reads octets back wherever they are written out.  Those of one character stand side by side. -/
def percentDecode (cs : List Char) : List Char :=
  let isAscii := fun c : Char => decide (c.toNat < 128)
  (cs.splitBy fun a b => isAscii a == isAscii b).flatMap fun run =>
    if run.all isAscii then ofOctets (writtenOctets run) else run

end Storefront.Text
