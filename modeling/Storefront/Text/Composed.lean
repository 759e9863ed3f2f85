import Storefront.Text.CompositionTable

/-! # Composed texts

A letter with its marks can often be written as one character or as several.  A text is composed if
it is what remains when every character is taken apart, the marks on each letter are put in order,
and everything that has a character of its own is put together again. -/

namespace Storefront.Text

/-- The combining class of a character: zero for all that does not combine. -/
def combiningClass (c : Char) : Nat :=
  match combiningRuns.find? fun (lo, hi, _) => lo ≤ c.toNat && c.toNat ≤ hi with
  | some (_, _, k) => k
  | none => 0

/-- The two characters that a character is together. -/
def parts? (c : Char) : Option (Char × Char) :=
  (compositions.find? fun (_, _, n) => n == c.toNat).map fun (a, b, _) =>
    (Char.ofNat a, Char.ofNat b)

/-- The character that two characters are together. -/
def composition? (a b : Char) : Option Char :=
  (compositions.find? fun (m, n, _) => m == a.toNat && n == b.toNat).map fun (_, _, n) =>
    Char.ofNat n

/-- A character taken apart, its first part at most a number of times. -/
def apart : Nat → Char → List Char
  | 0, c => [c]
  | depth + 1, c =>
    match parts? c with
    | some (a, b) => apart depth a ++ [b]
    | none => [c]

/-- How often a character can be taken apart. -/
def maxParts : Nat := 4

/-- Puts a character behind others, the nearest first: a mark goes before marks of a
higher class. -/
def insertMark (c : Char) : List Char → List Char
  | [] => [c]
  | d :: ds =>
    if combiningClass c ≠ 0 ∧ combiningClass c < combiningClass d then d :: insertMark c ds
    else c :: d :: ds

/-- A text with the marks on each letter in order. -/
def ordered (cs : List Char) : List Char :=
  (cs.foldl (fun before c => insertMark c before) []).reverse

/-- Puts a text together behind a letter and the marks on it that have stayed apart, the nearest
first. -/
def composeFrom (letter : Char) (marks : List Char) : List Char → List Char
  | [] => letter :: marks.reverse
  | c :: cs =>
    -- A mark of the same class or a higher one stands between.
    let reaches := match marks with
      | [] => true
      | m :: _ => combiningClass m < combiningClass c
    match if reaches then composition? letter c else none with
    | some joined => composeFrom joined marks cs
    | none =>
      if combiningClass c = 0 then letter :: marks.reverse ++ composeFrom c [] cs
      else composeFrom letter (c :: marks) cs

/-- A text with everything put together that has a character of its own. -/
def compose : List Char → List Char
  | [] => []
  | c :: cs =>
    if combiningClass c = 0 then composeFrom c [] cs
    else c :: compose cs

/-- Whether a text is composed. -/
def isComposed (cs : List Char) : Bool := compose (ordered (cs.flatMap (apart maxParts))) == cs

end Storefront.Text
