/-! # Cutting texts

Texts as lists of characters, cut at a character or freed of a phrase.

* `joined_splitAt` : the pieces put together again give back the text -/

namespace Storefront.Text

/-- The pieces of a text between the occurrences of a character; there is always at least one. -/
def splitAt (mark : Char) : List Char → List (List Char)
  | [] => [[]]
  | c :: cs =>
    if c = mark then [] :: splitAt mark cs
    else match splitAt mark cs with
      | piece :: pieces => (c :: piece) :: pieces
      | [] => [[c]]

/-- The text before the first occurrence of a character and, if there is one, the text after it. -/
def cutAt (mark : Char) (cs : List Char) : List Char × Option (List Char) :=
  let before := cs.takeWhile (· ≠ mark)
  match cs.drop before.length with
  | [] => (before, none)
  | _ :: after => (before, some after)

/-- A text without any occurrence of a phrase, looked for from the left; `skip` characters of an
occurrence are still to be passed over. -/
def withoutFrom (phrase : List Char) (skip : Nat) : List Char → List Char
  | [] => []
  | c :: cs =>
    match skip with
    | skip + 1 => withoutFrom phrase skip cs
    | 0 =>
      if phrase.isPrefixOf (c :: cs) then withoutFrom phrase (phrase.length - 1) cs
      else c :: withoutFrom phrase 0 cs

/-- A text without any occurrence of a phrase. -/
def without (phrase : String) (cs : List Char) : List Char := withoutFrom phrase.toList 0 cs

theorem splitAt_ne_nil (mark : Char) (cs : List Char) : splitAt mark cs ≠ [] := by
  cases cs with
  | nil => simp [splitAt]
  | cons c cs =>
    simp only [splitAt]
    split
    · simp
    · split <;> simp

/-- The pieces put together again give back the text. -/
theorem joined_splitAt (mark : Char) (cs : List Char) :
    List.intercalate [mark] (splitAt mark cs) = cs := by
  induction cs with
  | nil => rfl
  | cons c cs ih =>
    simp only [splitAt]
    cases h : splitAt mark cs with
    | nil => exact absurd h (splitAt_ne_nil mark cs)
    | cons piece pieces =>
      rw [h] at ih
      split
      · rename_i hc
        subst hc
        cases pieces <;> simp_all [List.intercalate, List.intersperse]
      · cases pieces <;> simp_all [List.intercalate, List.intersperse]

end Storefront.Text
