/-! # Blank characters

Which characters count as white space when a text is trimmed, and the trimming itself.

* `trim_eq_of_not_blank` : a text without blank ends is its own trimmed form. -/

namespace Storefront.Text

/-- Whether all characters of a list meet a condition is decided from those, and never by going
through all characters that there are. -/
instance (priority := high) decidableForallMem {p : Char → Prop} [DecidablePred p]
    (cs : List Char) : Decidable (∀ c ∈ cs, p c) := List.decidableBAll p cs

/-- White space: the separators and the control characters that separate lines, words and records.
The zero-width characters and the byte-order mark are not blank. -/
def isBlank (c : Char) : Bool :=
  let n := c.toNat
  (9 ≤ n && n ≤ 13) || (28 ≤ n && n ≤ 32) || n == 0x85 || n == 0xa0 || n == 0x1680 ||
    (0x2000 ≤ n && n ≤ 0x200a) || n == 0x2028 || n == 0x2029 || n == 0x202f || n == 0x205f ||
    n == 0x3000

/-- A list of characters without the blanks at its start. -/
def trimStart (cs : List Char) : List Char := cs.dropWhile isBlank

/-- A list of characters without the blanks at its two ends. -/
def trimChars (cs : List Char) : List Char :=
  (trimStart (trimStart cs).reverse).reverse

/-- White space in the narrower sense: without the control characters that separate records. -/
def isSpacing (c : Char) : Bool := isBlank c && !(28 ≤ c.toNat && c.toNat ≤ 31)

/-- A list of characters without the spacing at its two ends. -/
def trimSpacing (cs : List Char) : List Char :=
  ((cs.dropWhile isSpacing).reverse.dropWhile isSpacing).reverse

/-- A text without the blanks at its two ends. -/
def trim (s : String) : String := String.ofList (trimChars s.toList)

theorem trimStart_of_head {c : Char} {cs : List Char} (h : isBlank c = false) :
    trimStart (c :: cs) = c :: cs := by
  simp [trimStart, List.dropWhile, h]

/-- A text without blank ends is its own trimmed form. -/
theorem trim_eq_of_not_blank {cs : List Char} (hfirst : ∀ c, cs.head? = some c → isBlank c = false)
    (hlast : ∀ c, cs.getLast? = some c → isBlank c = false) : trimChars cs = cs := by
  have key : ∀ ds : List Char, (∀ c, ds.head? = some c → isBlank c = false) →
      trimStart ds = ds := by
    intro ds h
    cases ds with
    | nil => rfl
    | cons d ds => exact trimStart_of_head (h d rfl)
  unfold trimChars
  rw [key cs hfirst, key cs.reverse (by simpa using hlast), List.reverse_reverse]

end Storefront.Text
