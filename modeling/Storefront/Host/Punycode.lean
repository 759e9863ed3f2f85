import Storefront.Text.Split

/-! # Punycode

A label in ASCII for a label of any characters: the ASCII characters in order, a hyphen, and then,
by code point and place, all others.  Each is written as the number of steps of a counter that runs
through all places and code points, in digits whose weights follow the sizes of the numbers before.

* `Punycode.write`, `Punycode.read?` : the written form of a label, and the label of a
  written form -/

namespace Storefront.Host.Punycode

/-- The number of digits. -/
def base : Nat := 36

/-- The lowest code point that is not ASCII. -/
def firstOther : Nat := 128

/-- The threshold of the digit at a place, counted from zero, under a bias. -/
def threshold (bias place : Nat) : Nat := min 26 (max 1 (base * (place + 1) - bias))

theorem threshold_pos (bias place : Nat) : 1 ≤ threshold bias place := by
  unfold threshold
  omega

/-- Divides a number until it is small, and tells the bias that goes with it. -/
def settle (shift delta : Nat) : Nat :=
  if 455 < delta then settle (shift + base) (delta / 35)
  else shift + base * delta / (delta + 38)
termination_by delta
decreasing_by exact Nat.div_lt_self (by omega) (by omega)

/-- The bias after a number was written among so many characters. -/
def adapt (delta count : Nat) (isFirst : Bool) : Nat :=
  let delta := if isFirst then delta / 700 else delta / 2
  let delta := delta + delta / count
  settle 0 delta

/-- A digit: letters, then figures. -/
def digit (n : Nat) : Char := if n < 26 then Char.ofNat (97 + n) else Char.ofNat (22 + n)

/-- The value of a digit. -/
def value? (c : Char) : Option Nat :=
  if 'a' ≤ c ∧ c ≤ 'z' then some (c.toNat - 97)
  else if '0' ≤ c ∧ c ≤ '9' then some (c.toNat - 22)
  else none

/-- Every digit stands for the value it was written for. -/
theorem value?_digit {n : Nat} (h : n < base) : value? (digit n) = some n := by
  revert n
  decide

/-- Writes a number from the digit at a place on. -/
def writeNumber (bias place n : Nat) : List Char :=
  let t := threshold bias place
  if n < t then [digit n]
  else digit (t + (n - t) % (base - t)) :: writeNumber bias (place + 1) ((n - t) / (base - t))
termination_by n
decreasing_by
  have := threshold_pos bias place
  exact Nat.lt_of_le_of_lt (Nat.div_le_self _ _) (by omega)

/-- What has been written: the counter, the bias, how many characters there are, and whether none
but ASCII characters are among them. -/
structure Progress where
  delta : Nat
  bias : Nat
  count : Nat
  isFirst : Bool
  written : List Char

/-- Passes one character of the label while the characters of a code point are written. -/
def pass (n : Nat) (p : Progress) (c : Char) : Progress :=
  if c.toNat < n then { p with delta := p.delta + 1 }
  else if c.toNat = n then
    { delta := 0
      bias := adapt p.delta (p.count + 1) p.isFirst
      count := p.count + 1
      isFirst := false
      written := p.written ++ writeNumber p.bias 0 p.delta }
  else p

/-- Writes the characters of each of some code points, which ascend from `n` on. -/
def writeOthers (label : List Char) : List Nat → Nat → Progress → List Char
  | [], _, p => p.written
  | m :: ms, n, p =>
    let p := { p with delta := p.delta + (m - n) * (p.count + 1) }
    let p := label.foldl (pass m) p
    writeOthers label ms (m + 1) { p with delta := p.delta + 1 }

/-- The code points of a label that are not ASCII, each once, ascending. -/
def others (label : List Char) : List Nat :=
  ((label.map Char.toNat).filter (firstOther ≤ ·)).mergeSort.eraseDups

/-- The written form of a label. -/
def write (label : List Char) : List Char :=
  let plain := label.filter fun c => c.toNat < firstOther
  let start := if plain = [] then [] else plain ++ ['-']
  start ++ writeOthers label (others label) firstOther ⟨0, 72, plain.length, true, []⟩

/-- Reads a number from the digit at a place on, and the rest. -/
def readNumber (bias : Nat) : (place n weight : Nat) → List Char → Option (Nat × List Char)
  | _, _, _, [] => none
  | place, n, weight, c :: cs => do
    let d ← value? c
    let t := threshold bias place
    let n := n + d * weight
    if d < t then some (n, cs) else readNumber bias (place + 1) n (weight * (base - t)) cs

/-- Puts the characters of the numbers into a label; `counter` is the place after the last one, and
there are no more numbers than digits. -/
def readOthers : (fuel code counter bias : Nat) → Bool → List Char → List Char → Option (List Char)
  | _, _, _, _, _, label, [] => some label
  | 0, _, _, _, _, _, _ => none
  | fuel + 1, code, counter, bias, isFirst, label, cs => do
    let (delta, rest) ← readNumber bias 0 0 1 cs
    let counter := counter + delta
    let count := label.length + 1
    let code := code + counter / count
    if 0x10ffff < code then none
    let place := counter % count
    let label := label.insertIdx place (Char.ofNat code)
    readOthers fuel code (place + 1) (adapt delta count isFirst) false label rest

/-- The label of a written form in lower case. -/
def read? (cs : List Char) : Option (List Char) :=
  let last := (cs.reverse.dropWhile (· ≠ '-')).reverse
  if last = [] then readOthers cs.length firstOther 0 72 true [] cs
  else readOthers cs.length firstOther 0 72 true last.dropLast (cs.drop last.length)

end Storefront.Host.Punycode
