import Storefront.Decimal.Exact
import Storefront.Text.Blank
import Storefront.Text.Digit

/-! # Numbers written as texts

Two readers for whole numbers and one for doubles.

* `readWhole` is generous: decimal digits of any script, a sign, and single underscores between
  digits, between spacing.  At most `digitLimit` digits are read.
* `readCount` reads what an order form may hold: ASCII digits with a sign, leading zeros,
  underscores and a fraction of zeros.
* `readReal?` reads a double: the digits of any script, a point, an exponent, or the name of a value
  that is not finite. -/

namespace Storefront.Decimal

open Text

/-- A text with the digits of every script replaced by ASCII digits. -/
def asciiDigits (cs : List Char) : List Char :=
  cs.map fun c => match digitValue? c with
    | some d => Char.ofNat (48 + d)
    | none => c

/-- The number that a list of ASCII digits stands for. -/
def ofDigits (ds : List Char) : Nat := ds.foldl (fun n c => 10 * n + (c.toNat - 48)) 0

/-- Splits an optional sign off. -/
def splitSign : List Char → Bool × List Char
  | '-' :: cs => (true, cs)
  | '+' :: cs => (false, cs)
  | cs => (false, cs)

/-- Whether a character can stand in a run of digits. -/
def isDigitOrBar (c : Char) : Bool := c.isDigit || c == '_'

/-- Whether underscores stand only between digits; `prev` tells whether a digit came before. -/
def barsBetweenDigits (prev : Bool) : List Char → Bool
  | [] => prev
  | c :: cs => if c = '_' then prev && barsBetweenDigits false cs else barsBetweenDigits true cs

/-- The number of a run of digits with single underscores between them. -/
def readRun? (cs : List Char) : Option (List Char) :=
  if barsBetweenDigits false cs then some (cs.filter (· ≠ '_')) else none

/-- The most digits that a whole number is read from, and that it is written with. -/
def digitLimit : Nat := 4300

/-- Whether a whole number can be written with that many digits. -/
def isWritable (n : Int) : Bool := n.natAbs < Nat.pow 10 digitLimit

/-- Why a text is not read as a whole number. -/
inductive WholeError where
  /-- The text is not a whole number. -/
  | malformed
  /-- It is one, but with too many digits. -/
  | tooLong (count : Nat)
  deriving DecidableEq, Repr

/-- A whole number as a text, generously read. -/
def readWhole (s : String) : Except WholeError Int :=
  let (negative, cs) := splitSign (asciiDigits (trimSpacing s.toList))
  let run := cs.takeWhile isDigitOrBar
  match readRun? run with
  | none => .error .malformed
  | some ds =>
    if digitLimit < ds.length then .error (.tooLong ds.length)
    else if run.length < cs.length then .error .malformed
    else
      let n : Int := ofDigits ds
      .ok (if negative then -n else n)

/-- A count without a fraction of zeros, if it has one. -/
def dropZeroFraction (cs : List Char) : List Char :=
  let zeros := (cs.dropWhile (· ≠ '.')).drop 1
  if zeros ≠ [] ∧ zeros.all (· == '0') then cs.takeWhile (· ≠ '.') else cs

/-- Whether no two underscores stand side by side and none at the end. -/
def barsStandAlone : List Char → Bool
  | [] => true
  | '_' :: cs => cs ≠ [] && cs.head? ≠ some '_' && barsStandAlone cs
  | _ :: cs => barsStandAlone cs

/-- A count without its underscores, if they stand one by one and neither in front nor at the
end. -/
def dropBars (cs : List Char) : List Char :=
  if cs.head? ≠ some '_' ∧ barsStandAlone cs then cs.filter (· ≠ '_') else cs

/-- Whether a character is a digit other than zero, or a minus. -/
def isSignificant (c : Char) : Bool := ('1' ≤ c && c ≤ '9') || c == '-'

/-- Passes over zeros and underscores, of which `last` is the latest: the rest begins with a
significant character, or with the last zero before a point or the end. -/
def passZeros (last : Char) : List Char → Option (List Char)
  | [] => some [last]
  | c :: cs =>
    if c = '0' ∨ c = '_' then passZeros c cs
    else if isSignificant c then some (c :: cs)
    else if c = '.' then some (last :: c :: cs)
    else none

/-- A count without leading zeros; `none` if it does not begin like one. -/
def dropZeros : List Char → Option (List Char)
  | [] => none
  | c :: cs =>
    if c = '0' then passZeros c cs
    else if isSignificant c then some (c :: cs)
    else none

/-- A count in its bare form: without spacing around it, a plus sign, leading zeros, a fraction of
zeros, and underscores. -/
def bareCount? (cs : List Char) : Option (List Char) :=
  (significant? (trimSpacing cs)).map fun cs => dropBars (dropZeroFraction cs)
where
  /-- The count from its sign or its first significant digit on. -/
  significant? : List Char → Option (List Char)
    | '+' :: '-' :: _ => none
    | '+' :: cs => dropZeros cs
    | '-' :: cs => (dropZeros cs).map ('-' :: ·)
    | cs => dropZeros cs

/-- Reads a count in its bare form: ASCII digits without leading zeros, behind an optional minus. -/
def readBareCount (cs : List Char) : Except WholeError Int :=
  let (negative, ds) := match cs with
    | '-' :: ds => (true, ds)
    | ds => (false, ds)
  let run := ds.takeWhile Char.isDigit
  if run = ['0'] ∧ ds = run then .ok 0
  else if run = [] ∨ run.head? = some '0' then .error .malformed
  else if digitLimit < run.length then .error (.tooLong run.length)
  else if run.length < ds.length then .error .malformed
  else
    let n : Int := ofDigits run
    .ok (if negative then -n else n)

/-- A whole number as an order form may hold it: in its bare form or in one that can be brought
into it.  Too many digits are noticed before anything is taken away. -/
def readCount (s : String) : Except WholeError Int :=
  match readBareCount s.toList with
  | .ok n => .ok n
  | .error (.tooLong count) => .error (.tooLong count)
  | .error .malformed =>
    match bareCount? s.toList with
    | some cs => readBareCount cs
    | none => .error .malformed

/-- The double nearest to `coefficient * 10 ^ exponent`; far out of range it is zero or infinite. -/
def ofScientific (coefficient : Nat) (exponent : Int) : Float :=
  let magnitude : Int := (digits coefficient).length + exponent
  if coefficient = 0 ∨ magnitude < -330 then 0
  else if 310 < magnitude then Float.ofBits 0x7ff0000000000000
  else Float.ofScientific coefficient (exponent < 0) exponent.natAbs

/-- The exponent part of a double: nothing, or a letter, a sign and a run of digits. -/
def readExponent? : List Char → Option Int
  | [] => some 0
  | c :: cs =>
    if c = 'e' ∨ c = 'E' then
      let (negative, ds) := splitSign cs
      if ds.all isDigitOrBar then
        (readRun? ds).map fun ds => if negative then -(ofDigits ds : Int) else ofDigits ds
      else none
    else none

/-- The unsigned part of a double. -/
def readMagnitude? (cs : List Char) : Option Float :=
  let word := cs.map Char.toLower
  if word = "inf".toList ∨ word = "infinity".toList then some (Float.ofBits 0x7ff0000000000000)
  else if word = "nan".toList then some (Float.ofBits 0x7ff8000000000000)
  else
    let whole := cs.takeWhile isDigitOrBar
    let rest := cs.drop whole.length
    let (fraction, rest) := match rest with
      | '.' :: r => (r.takeWhile isDigitOrBar, r.dropWhile isDigitOrBar)
      | r => ([], r)
    if whole = [] ∧ fraction = [] then none
    else do
      let ds ← if whole = [] then some [] else readRun? whole
      let fs ← if fraction = [] then some [] else readRun? fraction
      let e ← readExponent? rest
      some (ofScientific (ofDigits (ds ++ fs)) (e - fs.length))

/-- A double written as a text: `none` if the text is anything else. -/
def readReal? (s : String) : Option Float :=
  let (negative, cs) := splitSign (asciiDigits (trimSpacing s.toList))
  (readMagnitude? cs).map fun x => if negative then -x else x

end Storefront.Decimal
