import Storefront.Host.LabelTable
import Storefront.Host.Punycode
import Storefront.Text.Case
import Storefront.Text.Composed

/-! # Labels of international host names

A label is what stands between two dots of a host name.  `Label.isValid` says which labels of any
characters there are; `Label.encode?` gives the form in ASCII in which one is sent. -/

namespace Storefront.Host.Label

open Text

/-- Whether a character belongs to a table of ranges. -/
def isIn (table : Array (Nat × Nat)) (c : Char) : Bool := inRanges table c.toNat

/-- Whether hyphens stand at one of the ends of a label, or at its third and fourth place. -/
def hasMisplacedHyphen (cs : List Char) : Bool :=
  cs.head? == some '-' || cs.getLast? == some '-' || (cs.drop 2).take 2 == ['-', '-']

/-! ### Characters that are allowed in some company -/

/-- Whether letters on both sides join across a place; the ones before it are given
nearest first. -/
def joins (before after : List Char) : Bool :=
  let nearest := fun cs : List Char => (cs.dropWhile (isIn transparentRanges)).head?
  (nearest before).any (isIn joinsNextRanges) && (nearest after).any (isIn joinsPreviousRanges)

/-- Whether a character of a label may stand behind the ones before it, given nearest first, and
before the ones after it. -/
def fits (label before after : List Char) (c : Char) : Bool :=
  let follows := fun p : Char → Bool => before.head?.any p
  match c.toNat with
  | 0x200c => follows (isIn viramaRanges) || joins before after
  | 0x200d => follows (isIn viramaRanges)
  | 0xb7 => follows (· == 'l') && after.head? == some 'l'
  | 0x375 => after.head?.any (isIn greekRanges)
  | 0x5f3 | 0x5f4 => follows (isIn hebrewRanges)
  | 0x30fb =>
    label.any fun d => d ≠ c && (isIn hiraganaRanges d || isIn katakanaRanges d || isIn hanRanges d)
  | n =>
    -- The two sets of Arabic digits are not mixed.
    if 0x660 ≤ n ∧ n ≤ 0x669 then !label.any (isIn #[(0x6f0, 0x6f9)])
    else if 0x6f0 ≤ n ∧ n ≤ 0x6f9 then !label.any (isIn #[(0x660, 0x669)])
    else true

/-- Whether every character may stand where it does, from some place on. -/
def fitsFrom (label before : List Char) : List Char → Bool
  | [] => true
  | c :: after =>
    isIn labelRanges c && fits label before after c && fitsFrom label (c :: before) after

/-! ### Direction -/

/-- How a character is written. -/
inductive Direction where
  | leftToRight
  | rightToLeft
  | arabicDigit
  | plainDigit
  /-- A mark takes the direction of what it stands on. -/
  | mark
  | neutral
  deriving DecidableEq, Repr

/-- The direction of a character. -/
def direction (c : Char) : Direction :=
  if isIn rightToLeftRanges c then .rightToLeft
  else if isIn arabicDigitRanges c then .arabicDigit
  else if isIn plainDigitRanges c then .plainDigit
  else if isIn nonspacingRanges c then .mark
  else if isIn neutralRanges c then .neutral
  else .leftToRight

/-- The last direction other than that of marks. -/
def lastDirection? (ds : List Direction) : Option Direction := (ds.filter (· ≠ .mark)).getLast?

/-- Whether directions go together in one label: they do if none is from right to left; else all
have to follow the first. -/
def isUniform (ds : List Direction) : Bool :=
  let last := lastDirection? ds
  if !ds.any fun d => d == .rightToLeft || d == .arabicDigit then true
  else match ds.head? with
    | some .rightToLeft =>
      !ds.contains .leftToRight && !(ds.contains .arabicDigit && ds.contains .plainDigit) &&
        (last == some .rightToLeft || last == some .arabicDigit || last == some .plainDigit)
    | some .leftToRight =>
      !ds.contains .rightToLeft && !ds.contains .arabicDigit &&
        (last == some .leftToRight || last == some .plainDigit)
    | _ => false

/-! ### Labels -/

/-- Whether characters make a label. -/
def isValid (cs : List Char) : Bool :=
  !cs.isEmpty && isComposed cs && !hasMisplacedHyphen cs && !cs.head?.any (isIn markRanges) &&
    fitsFrom cs [] cs && isUniform (cs.map direction)

/-- What the written form of a label that is not ASCII starts with. -/
def mark : List Char := ['x', 'n', '-', '-']

/-- Whether a label in ASCII is one, or is the written form of one. -/
def isValidAscii (cs : List Char) : Bool :=
  let cs := cs.map Char.toLower
  if mark.isPrefixOf cs then
    match cs.drop mark.length with
    | [] => false
    | written => written.getLast? ≠ some '-' && (Punycode.read? written).any isValid
  else isValid cs

/-- The greatest length of a label in ASCII. -/
def maxLength : Nat := 63

/-- The form of a label in ASCII, if it has one. -/
def encode? (cs : List Char) : Option (List Char) :=
  let encoded :=
    if cs.all fun c => c.toNat < 128 then if isValidAscii cs then some cs else none
    else if isValid cs then some (mark ++ Punycode.write cs) else none
  encoded.filter (·.length ≤ maxLength)

end Storefront.Host.Label
