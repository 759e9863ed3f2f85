import Mathlib.Data.List.TakeWhile
import Mathlib.Tactic.SplitIfs
import Storefront.Calendar.Civil
import Storefront.Gid
import Storefront.Money
import Storefront.Text.Case
import Storefront.Value.Display

/-! # Texts that can be sent

A text can be sent unless it holds one half of a surrogate pair.  Nothing that the shop makes of a
text that can be sent, nor anything it writes itself, holds one: numbers, times, identifiers in the
form in which they travel, quoted texts, and texts in another case.

* `unencodable?_eq_none` : a text without halves has octets
* `sendable_whole`, `sendable_fixed`, `sendable_timestamp` : what is written in digits
* `sendable_quoted`, `sendable_display` : what stands in messages
* `sendable_capitalise` : another case -/

namespace Storefront

namespace Text

/-- No character stands for half of a surrogate pair. -/
def Sendable (cs : List Char) : Prop := ∀ c ∈ cs, isStandIn c = false

/-- The test that decides it. -/
instance (cs : List Char) : Decidable (Sendable cs) := List.decidableBAll _ cs

/-- A stand-in is one of a range of code points. -/
theorem isStandIn_iff {c : Char} :
    isStandIn c = true ↔ firstStandIn ≤ c.toNat ∧ c.toNat < firstStandIn + halfCount := by
  rw [isStandIn, halfUnit?]
  split <;> simp_all

/-- The characters before the first stand-in stand for themselves. -/
theorem isStandIn_of_lt {c : Char} (h : c.toNat < firstStandIn) : isStandIn c = false := by
  rw [← Bool.not_eq_true, isStandIn_iff]
  omega

/-- A text that can be sent has octets. -/
theorem unencodable?_eq_none {cs : List Char} (h : Sendable cs) : unencodable? cs = none := by
  -- No character stops the search.
  have all : cs.takeWhile (fun c => !isStandIn c) = cs := by
    induction cs with
    | nil => rfl
    | cons c cs ih =>
      obtain ⟨hc, hcs⟩ := List.forall_mem_cons.1 h
      rw [List.takeWhile_cons_of_pos (by simp [hc]), ih hcs]
  rw [unencodable?, firstRun?, all, List.drop_length]
  rfl

/-- A text that has octets can be sent. -/
theorem sendable_of_unencodable? {cs : List Char} (h : unencodable? cs = none) : Sendable cs := by
  intro c hc
  by_contra hs
  have hs : isStandIn c = true := by simpa using hs
  -- Of the stand-ins there is a first one, before which all characters stand for themselves.
  obtain ⟨before, d, after, hsplit, hbefore, hd⟩ :
      ∃ before d after, cs = before ++ d :: after ∧ (∀ e ∈ before, isStandIn e = false) ∧
        isStandIn d = true := by
    clear h
    induction cs with
    | nil => cases hc
    | cons e cs ih =>
      by_cases he : isStandIn e = true
      · exact ⟨[], e, cs, rfl, fun _ hm => absurd hm List.not_mem_nil, he⟩
      · have he : isStandIn e = false := by simpa using he
        rcases List.mem_cons.1 hc with rfl | hc
        · rw [he] at hs; cases hs
        · obtain ⟨before, d, after, rfl, hb, hd⟩ := ih hc
          exact ⟨e :: before, d, after, rfl, List.forall_mem_cons.2 ⟨he, hb⟩, hd⟩
  have first : cs.takeWhile (fun c => !isStandIn c) = before := by
    rw [hsplit, List.takeWhile_append_of_pos fun e he => by simp [hbefore e he],
      List.takeWhile_cons_of_neg (by simp [hd]), List.append_nil]
  rw [unencodable?, firstRun?, first, hsplit, List.drop_left,
    List.takeWhile_cons_of_pos hd] at h
  cases h

namespace Sendable

variable {cs ds : List Char}

/-- The empty text can be sent. -/
theorem nil : Sendable [] := fun _ h => absurd h List.not_mem_nil

/-- What is put together of two rows that can be sent can be sent. -/
theorem append (hc : Sendable cs) (hd : Sendable ds) : Sendable (cs ++ ds) := fun c h =>
  (List.mem_append.1 h).elim (hc c) (hd c)

/-- A character that is no stand-in may be put in front. -/
theorem cons {c : Char} (hc : isStandIn c = false) (hd : Sendable ds) : Sendable (c :: ds) :=
  List.forall_mem_cons.2 ⟨hc, hd⟩

/-- Fewer characters can be sent as well. -/
theorem of_subset (h : Sendable ds) (hs : cs ⊆ ds) : Sendable cs := fun c hc => h c (hs hc)

/-- A row of one character, over and over. -/
theorem replicate (n : Nat) {c : Char} (hc : isStandIn c = false) :
    Sendable (List.replicate n c) := fun _ hd => (List.eq_of_mem_replicate hd).symm ▸ hc

/-- What each character becomes can be sent. -/
theorem flatMap {f : Char → List Char} (h : ∀ c ∈ cs, Sendable (f c)) :
    Sendable (cs.flatMap f) := by
  intro d hd
  obtain ⟨c, hc, hd⟩ := List.mem_flatMap.1 hd
  exact h c hc d hd

/-- Two texts put together. -/
theorem append_text {s t : String} (hs : Sendable s.toList) (ht : Sendable t.toList) :
    Sendable (s ++ t).toList := by
  rw [String.toList_append]
  exact hs.append ht

end Sendable

/-- A text made of characters that can be sent. -/
theorem sendable_ofList {cs : List Char} (h : Sendable cs) :
    Sendable (String.ofList cs).toList := by
  rwa [String.toList_ofList]

/-- Texts with a separator between them. -/
theorem sendable_joined {separator : String} (hsep : Sendable separator.toList)
    {ss : List String} (h : ∀ s ∈ ss, Sendable s.toList) :
    Sendable (joined separator ss).toList := by
  fun_induction joined separator ss with
  | case1 => exact .nil
  | case2 s => exact h s (.head _)
  | case3 s ss _ ih =>
    exact ((h s (.head _)).append_text hsep).append_text (ih fun t ht => h t (.tail _ ht))

/-! ### Digits -/

/-- Digits of a base up to sixteen can be sent. -/
theorem sendable_toDigits {base : Nat} (h : 1 < base) (hb : base ≤ 16) (n : Nat) :
    Sendable (Nat.toDigits base n) := by
  have digit : ∀ n < 16, isStandIn (Nat.digitChar n) = false := by decide
  -- The induction is on the number: without its last digit it is smaller.
  induction n using Nat.strongRecOn with
  | ind n ih =>
    rw [Nat.toDigits_eq_if h]
    split
    · exact .cons (digit n (by omega)) .nil
    · have smaller : n / base < n := Nat.div_lt_self (by omega) h
      have last : n % base < base := Nat.mod_lt n (by omega)
      exact (ih _ smaller).append (.cons (digit _ (by omega)) .nil)

/-- A number in hexadecimal digits. -/
theorem sendable_hex (width n : Nat) : Sendable (hex width n) :=
  (Sendable.replicate _ (by decide)).append (sendable_toDigits (by decide) (by decide) n)

end Text

open Text (Sendable)

namespace Decimal

/-- Decimal digits can be sent. -/
theorem sendable_digits (n : Nat) : Sendable (digits n) := Text.sendable_toDigits (by decide)
    (by decide) n

/-- Zeros in front can be sent as well. -/
theorem sendable_padded (width n : Nat) : Sendable (padded width n) :=
  (Sendable.replicate _ (by decide)).append (sendable_digits n)

/-- A whole number with its sign. -/
theorem sendable_whole (n : Int) : Sendable (whole n).toList := by
  refine Text.sendable_ofList (.append ?_ (sendable_digits _))
  split
  · exact .cons (by decide) .nil
  · exact .nil

/-- A sign, if there is one. -/
theorem sendable_sign (negative : Bool) : Sendable (if negative then ['-'] else []) := by
  cases negative
  · exact .nil
  · exact .cons (by decide) .nil

/-- Two parts of a row of digits with a point between them. -/
theorem sendable_pointed {ds : List Char} (h : Sendable ds) (n : Nat) :
    Sendable (ds.take n ++ '.' :: ds.drop n) :=
  (h.of_subset (List.take_subset n ds)).append
    (.cons (by decide) (h.of_subset (List.drop_subset n ds)))

/-- A number with a fixed number of places, or one of the three names of those that are not finite.
-/
theorem sendable_fixed (places : Nat) (x : Float) : Sendable (fixed places x).toList := by
  rw [fixed]
  split
  · decide
  · split <;> decide
  · exact Text.sendable_ofList ((sendable_sign _).append (sendable_pointed (sendable_padded _ _) _))

/-- A number laid out with or without an exponent. -/
theorem sendable_layOut (layout : Layout) (s : Scientific) : Sendable (s.layOut layout) := by
  -- Only zeros at the end are left out.
  have zeros : ∀ n, Sendable (List.replicate n '0') := fun n => .replicate n (by decide)
  have significant : Sendable ((digits s.coefficient).reverse.dropWhile (· = '0')).reverse := by
    refine (sendable_digits s.coefficient).of_subset fun c hc => ?_
    exact List.mem_reverse.1 ((List.dropWhile_sublist _).subset (List.mem_reverse.1 hc))
  unfold Scientific.layOut
  extract_lets ds place e fraction
  have fractional : Sendable fraction := by
    have tail : Sendable ds.tail := significant.of_subset ds.tail_sublist.subset
    dsimp only [fraction]
    split
    · exact .nil
    · exact .cons (by decide) tail
  split
  · -- The point stands among the digits, or zeros fill the gap.
    split
    · exact (Sendable.append (by decide) (zeros _)).append significant
    · split
      · exact (significant.append (zeros _)).append (by decide)
      · exact sendable_pointed significant _
  · -- The exponent has a mark, a sign and two digits at least.
    refine (((significant.of_subset (List.take_subset 1 ds)).append fractional).append ?_).append
      (sendable_padded _ _)
    refine .cons (by decide) (.cons ?_ .nil)
    split <;> decide

/-- A finite number in its shortest form. -/
theorem sendable_plainFinite (negative : Bool) (m : Nat) (e : Int) :
    Sendable (plainFinite negative m e) := by
  refine (sendable_sign negative).append ?_
  split
  · decide
  · exact sendable_layOut _ _

/-- A number in its shortest form, or one of the three names of those that are not finite. -/
theorem sendable_plain (x : Float) : Sendable (plain x).toList := by
  rw [plain]
  split
  · decide
  · split <;> decide
  · exact Text.sendable_ofList (sendable_plainFinite _ _ _)

end Decimal

/-- A time is written in digits, with marks between them. -/
theorem Calendar.sendable_timestamp (seconds : Int) :
    Sendable (timestamp seconds).toList := by
  have two : ∀ n, Sendable (Decimal.padded 2 n) := Decimal.sendable_padded 2
  have mark : ∀ {c : Char} {cs ds : List Char}, Text.isStandIn c = false → Sendable cs →
      Sendable ds → Sendable (cs ++ c :: ds) := fun hc hcs hds => hcs.append (.cons hc hds)
  refine Text.sendable_ofList (.append ?_ (.cons (by decide) .nil))
  refine mark (by decide) (mark (by decide) ?_ (two _)) (two _)
  refine mark (by decide) (mark (by decide) ?_ (two _)) (two _)
  exact mark (by decide) (Decimal.sendable_padded _ _) (two _)

/-! ### Identifiers -/

namespace Gid

/-- A digit of the encoding is a character of ASCII. -/
theorem isStandIn_digit {n : Nat} (h : n < 64) : Text.isStandIn (Base64.digit n) = false := by
  revert n
  decide

/-- By the recursion of the encoding, three octets at a time. -/
theorem sendable_write (bytes : List UInt8) : Sendable (Base64.write bytes) := by
  -- The cases are those of the writer: three bytes at a time, then two or one with padding.
  fun_induction Base64.write bytes with
  | case1 a b c bytes n ih =>
    have := a.toNat_lt
    have := b.toNat_lt
    have := c.toNat_lt
    refine .cons (isStandIn_digit ?_) (.cons (isStandIn_digit ?_) (.cons (isStandIn_digit ?_)
      (.cons (isStandIn_digit ?_) ih))) <;> omega
  | case2 a b n =>
    have := a.toNat_lt
    have := b.toNat_lt
    refine .cons (isStandIn_digit ?_) (.cons (isStandIn_digit ?_) (.cons (isStandIn_digit ?_)
      (.cons (by decide) .nil))) <;> omega
  | case3 a n =>
    have := a.toNat_lt
    refine .cons (isStandIn_digit ?_) (.cons (isStandIn_digit ?_) (.cons (by decide)
      (.cons (by decide) .nil))) <;> omega
  | case4 => exact .nil

/-- A raw identifier travels in characters of ASCII. -/
theorem sendable_encode_of_isRaw {id : String} (h : isRaw id = true) :
    Sendable (encode id).toList := by
  rw [encode, if_pos h]
  exact Text.sendable_ofList (sendable_write _)

/-- A text that can be sent can be sent in the form in which it travels, raw or not. -/
theorem sendable_encode {id : String} (h : Sendable id.toList) : Sendable (encode id).toList := by
  cases hr : isRaw id with
  | true => exact sendable_encode_of_isRaw hr
  | false => rwa [encode_of_not_isRaw hr]

/-- Only what is raw in the end is changed by decoding. -/
theorem decode_eq_self {id : String} (h : isRaw (decode id) = false) : decode id = id := by
  unfold decode at h ⊢
  split
  · rfl
  · split
    · split
      · simp_all
      · rfl
    · rfl

/-- What is left of a text after its start. -/
theorem sendable_dropStart {s : String} (start : String) (h : Sendable s.toList) :
    Sendable (dropStart start s).toList := by
  rw [dropStart]
  split
  · exact Text.sendable_ofList (h.of_subset (List.drop_subset _ _))
  · exact h

end Gid

/-! ### Messages -/

namespace Text

/-- A character that is printed as it is does not stand for a half. -/
theorem isStandIn_of_isPrintable {c : Char} (h : isPrintable c = true) : isStandIn c = false := by
  rw [← Bool.not_eq_true, isStandIn_iff]
  intro hs
  -- The stand-ins lie in the last of the ranges.
  have last : unprintableRanges.back? = some (918000, 1114111) := by decide +kernel
  rw [isPrintable, Bool.not_eq_true', Array.any_eq_false'] at h
  have outside := h _ (Array.mem_of_back? last)
  unfold firstStandIn halfCount at hs
  simp only [Bool.and_eq_true, decide_eq_true_eq] at outside
  omega

/-- A character in quotes: as it is, or escaped by a letter or by its number. -/
theorem sendable_quotedChar {delimiter : Char} (hd : isStandIn delimiter = false) (c : Char) :
    Sendable (quotedChar delimiter c) := by
  have escape : ∀ {d : Char} {cs : List Char}, isStandIn d = false → Sendable cs →
      Sendable ('\\' :: d :: cs) := fun hd hcs => .cons (by decide) (.cons hd hcs)
  unfold quotedChar
  split
  · -- The quotation mark itself, or a backslash.
    rename_i hmark
    refine escape ?_ .nil
    rcases hmark with rfl | rfl
    · exact hd
    · decide
  · split
    · exact escape (by decide) .nil
    · split
      · exact escape (by decide) .nil
      · split
        · exact escape (by decide) .nil
        · split
          · rename_i hprint
            exact .cons (isStandIn_of_isPrintable hprint) .nil
          -- What cannot be printed is written by its number, in one of four ways.
          · split
            · exact escape (by decide) (sendable_hex _ _)
            · split
              · exact escape (by decide) (sendable_hex _ _)
              · split <;> exact escape (by decide) (sendable_hex _ _)

/-- A text in quotes can always be sent: what cannot is escaped. -/
theorem sendable_quoted (s : String) : Sendable (quoted s).toList := by
  have delimited : isStandIn (delimiter s.toList) = false := by
    unfold delimiter
    split <;> decide
  refine sendable_ofList (.append (.cons delimited (.flatMap fun c _ => ?_)) (.cons delimited .nil))
  exact sendable_quotedChar delimited c

end Text

/-- What is said about characters that an encoding lacks names them by their numbers. -/
theorem Text.Unencodable.sendable_message {u : Unencodable} (he : Sendable u.encoding.toList)
    (hr : Sendable u.reason.toList) : Sendable u.message.toList := by
  obtain ⟨encoding, reason, position, run⟩ := u
  have coded : ∀ n, Sendable (if n < 0x100 then 'x' :: hex 2 n
      else if n < 0x10000 then 'u' :: hex 4 n else 'U' :: hex 8 n) := by
    intro n
    split
    · exact .cons (by decide) (sendable_hex _ _)
    · split <;> exact .cons (by decide) (sendable_hex _ _)
  -- The number of the one character that is lacking.
  have one : ∀ c : Char, Sendable ("character '\\" ++ String.ofList
      (if unitOrPoint c < 0x100 then 'x' :: hex 2 (unitOrPoint c)
        else if unitOrPoint c < 0x10000 then 'u' :: hex 4 (unitOrPoint c)
        else 'U' :: hex 8 (unitOrPoint c)) ++ "' in position " ++
      Decimal.whole position).toList := fun c =>
    .append_text (.append_text (.append_text (by decide) (sendable_ofList (coded _))) (by decide))
      (Decimal.sendable_whole _)
  -- The positions of several.
  have several : ∀ n : Int, Sendable ("characters in position " ++ Decimal.whole position ++ "-" ++
      Decimal.whole n).toList := fun n =>
    .append_text (.append_text (.append_text (by decide) (Decimal.sendable_whole _)) (by decide))
      (Decimal.sendable_whole _)
  have around : ∀ place : String, Sendable place.toList → Sendable ("'" ++ encoding ++
      "' codec can't encode " ++ place ++ ": " ++ reason).toList := fun place hplace =>
    .append_text (.append_text
      (.append_text (.append_text (.append_text (by decide) he) (by decide)) hplace) (by decide)) hr
  rcases run with _ | ⟨c, _ | ⟨d, run⟩⟩
  · exact around _ (several _)
  · exact around _ (one c)
  · exact around _ (several _)

/-- A key in quotes can always be sent. -/
theorem Key.sendable_quoted (k : Key) : Sendable k.quoted.toList := by
  cases k with
  | null => decide
  | bool b => cases b <;> decide
  | int n => exact Decimal.sendable_whole n
  | float x => exact Decimal.sendable_plain x
  | text s => exact Text.sendable_quoted s

namespace Value

mutual

/-- Inside a list or a record every text is quoted, so that nothing there holds a half. -/
theorem sendable_quoted : ∀ v : Value, Sendable v.quoted.toList
  | .null => by decide
  | .bool b => by cases b <;> decide
  | .int n => Decimal.sendable_whole n
  | .float x => Decimal.sendable_plain x
  | .text s => Text.sendable_quoted s
  | .list vs => by
    refine .append_text (.append_text (by decide) ?_) (by decide)
    exact Text.sendable_joined (by decide) (sendable_quotedAll vs)
  | .record fs => by
    refine .append_text (.append_text (by decide) ?_) (by decide)
    exact Text.sendable_joined (by decide) (sendable_quotedFields fs)

/-- Every item in quotes can be sent. -/
theorem sendable_quotedAll : ∀ vs : List Value, ∀ s ∈ quotedAll vs, Sendable s.toList
  | [], _, hs => absurd hs List.not_mem_nil
  | v :: vs, s, hs => by
    rcases List.mem_cons.1 hs with rfl | hs
    · exact sendable_quoted v
    · exact sendable_quotedAll vs s hs

/-- Every member in quotes can be sent. -/
theorem sendable_quotedFields : ∀ fs : List (Key × Value), ∀ s ∈ quotedFields fs, Sendable s.toList
  | [], _, hs => absurd hs List.not_mem_nil
  | (k, v) :: fs, s, hs => by
    rcases List.mem_cons.1 hs with rfl | hs
    · exact .append_text (.append_text k.sendable_quoted (by decide))
        (sendable_quoted v)
    · exact sendable_quotedFields fs s hs

end

end Value

/-! ### Case -/

namespace Text

/-- A character made of a code point below the stand-ins. -/
theorem isStandIn_ofNat {n : Nat} (h : n < firstStandIn) : isStandIn (Char.ofNat n) = false := by
  refine isStandIn_of_lt ?_
  by_cases valid : n.isValidChar
  · rwa [toNat_ofNat valid]
  · rw [Char.ofNat, dif_neg valid]
    unfold firstStandIn
    decide

/-- A character in upper case: ASCII, one of a table of several, one of a run that is shifted, or
itself. -/
theorem sendable_upperChar {c : Char} (h : isStandIn c = false) : Sendable (upperChar c) := by
  unfold upperChar
  split
  · rename_i hascii
    refine .cons (isStandIn_of_lt ?_) .nil
    have small : ∀ n < 128, (Char.ofNat n).toUpper.toNat < firstStandIn := by decide +kernel
    have := small c.toNat hascii
    rwa [Char.ofNat_toNat] at this
  · unfold mapCase
    -- Some characters become several.
    split
    · rename_i found
      intro d hd
      obtain ⟨n, hn, rfl⟩ := List.mem_map.1 hd
      have table : ∀ p ∈ upperSeveral.toList, ∀ n ∈ p.2, n < firstStandIn := by decide +kernel
      have listed := Array.mem_toList_iff.2 (Array.mem_of_find?_eq_some found)
      exact isStandIn_ofNat (table _ listed n hn)
    · -- Others are shifted, by the same for a whole run.
      split
      · rename_i r found
        have table : ∀ r ∈ upperRuns.toList, (r.last : Int) + r.shift < firstStandIn := by
          decide +kernel
        have bound := table r (Array.mem_toList_iff.2 (Array.mem_of_find?_eq_some found))
        have covers := Array.find?_some found
        refine .cons (isStandIn_ofNat ?_) .nil
        simp only [CaseRun.covers, Bool.and_eq_true, decide_eq_true_eq] at covers
        unfold firstStandIn at bound ⊢
        omega
      · exact .cons h .nil

/-- A text with its first character in upper case. -/
theorem sendable_capitalise {s : String} (h : Sendable s.toList) :
    Sendable (capitalise s).toList := by
  unfold capitalise
  split
  · exact .nil
  · rename_i c cs hs
    rw [hs] at h
    obtain ⟨hc, hcs⟩ := List.forall_mem_cons.1 h
    exact sendable_ofList ((sendable_upperChar hc).append hcs)

end Text
end Storefront
