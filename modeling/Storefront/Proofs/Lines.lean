import Mathlib.Data.List.TakeWhile
import Storefront.Document.Reader

/-! # Lines of a text

A text is a list of rows, and most of its rows hold a line: some text with blanks before and after
it.  `LaidOut rows lines` says which lines the rows hold, with any number of blank rows between
them.  However the lines are laid out, a reader that trims the rows and drops the blank ones gets
the same lines back.

* `splitAt_append`, `splitAt_of_not_mem` : cutting a text at its first mark
* `trimChars_padded` : trimming takes away the blanks around a line
* `trimmedLines_of_laidOut` : the lines that are read are the lines that were laid out -/

namespace Storefront.Text

/-! ### Cutting -/

/-- A text without a mark is its only piece. -/
theorem splitAt_of_not_mem {mark : Char} {cs : List Char} (h : mark ∉ cs) :
    splitAt mark cs = [cs] := by
  induction cs with
  | nil => rfl
  | cons c cs ih =>
    have hc : c ≠ mark := fun e => h (by simp [e])
    have hcs : mark ∉ cs := fun m => h (List.mem_cons_of_mem _ m)
    rw [splitAt, if_neg hc, ih hcs]

/-- A mark separates the pieces before it from the pieces after it. -/
theorem splitAt_append_mark (mark : Char) (cs rest : List Char) :
    splitAt mark (cs ++ mark :: rest) = splitAt mark cs ++ splitAt mark rest := by
  induction cs with
  | nil => simp [splitAt]
  | cons c cs ih =>
    obtain ⟨piece, pieces, hcs⟩ := List.exists_cons_of_ne_nil (splitAt_ne_nil mark cs)
    rw [List.cons_append, splitAt, splitAt, ih, hcs]
    split <;> rfl

/-- What stands before the first mark is the first piece. -/
theorem splitAt_append {mark : Char} {cs : List Char} (h : mark ∉ cs) (rest : List Char) :
    splitAt mark (cs ++ mark :: rest) = cs :: splitAt mark rest := by
  rw [splitAt_append_mark, splitAt_of_not_mem h, List.singleton_append]

/-- Pieces without a mark, put together and cut again, are the same pieces. -/
theorem splitAt_intercalate {mark : Char} {pieces : List (List Char)} (hne : pieces ≠ [])
    (h : ∀ piece ∈ pieces, mark ∉ piece) :
    splitAt mark (List.intercalate [mark] pieces) = pieces := by
  induction pieces with
  | nil => exact absurd rfl hne
  | cons piece pieces ih =>
    have hpiece := h piece (.head _)
    cases pieces with
    | nil => rw [List.intercalate_singleton, splitAt_of_not_mem hpiece]
    | cons other pieces =>
      rw [List.intercalate_cons_cons, List.append_assoc, List.singleton_append,
        splitAt_append hpiece, ih (List.cons_ne_nil _ _) fun p hp => h p (.tail _ hp)]

/-- The first mark separates the two parts of a cut. -/
theorem cutAt_append {mark : Char} {cs : List Char} (h : mark ∉ cs) (rest : List Char) :
    cutAt mark (cs ++ mark :: rest) = (cs, some rest) := by
  have before : (cs ++ mark :: rest).takeWhile (· ≠ mark) = cs := by
    rw [List.takeWhile_append_of_pos]
    · simp
    · exact fun c hc => decide_eq_true fun e => h (e ▸ hc)
  simp only [cutAt, before, List.drop_left]

/-- A phrase is not found where one of its characters is missing. -/
theorem withoutFrom_of_not_mem {phrase : List Char} {c : Char} (hc : c ∈ phrase) {cs : List Char}
    (h : c ∉ cs) : withoutFrom phrase 0 cs = cs := by
  induction cs with
  | nil => rfl
  | cons d ds ih =>
    have hnot : ¬ phrase.isPrefixOf (d :: ds) = true := by
      intro hp
      exact h ((List.isPrefixOf_iff_prefix.1 hp).subset hc)
    rw [withoutFrom, if_neg hnot, ih fun m => h (List.mem_cons_of_mem _ m)]

/-- The characters of an occurrence are passed over. -/
theorem withoutFrom_skip (phrase ds cs : List Char) :
    withoutFrom phrase ds.length (ds ++ cs) = withoutFrom phrase 0 cs := by
  induction ds with
  | nil => rfl
  | cons d ds ih => simpa only [List.length_cons, List.cons_append, withoutFrom] using ih

/-- A phrase at the start of a text is taken away. -/
theorem withoutFrom_append {phrase : List Char} (hne : phrase ≠ []) (cs : List Char) :
    withoutFrom phrase 0 (phrase ++ cs) = withoutFrom phrase 0 cs := by
  obtain ⟨d, ds, rfl⟩ := List.exists_cons_of_ne_nil hne
  have found : (d :: ds).isPrefixOf (d :: (ds ++ cs)) = true :=
    List.isPrefixOf_iff_prefix.2 (List.prefix_append (d :: ds) cs)
  rw [List.cons_append, withoutFrom, if_pos found]
  exact withoutFrom_skip (d :: ds) ds cs

/-! ### Trimming -/

/-- Blanks that do not end a row. -/
def IsPad (cs : List Char) : Prop := ∀ c ∈ cs, isBlank c = true ∧ c ≠ '\n'

/-- What a row can hold as its line: it is not blank, has no blank ends and no line break. -/
structure IsLine (cs : List Char) : Prop where
  ne_nil : cs ≠ []
  trimmed : trimChars cs = cs
  unbroken : '\n' ∉ cs

/-- Blanks before a text are trimmed. -/
theorem trimStart_append {pad : List Char} (h : ∀ c ∈ pad, isBlank c = true) (cs : List Char) :
    trimStart (pad ++ cs) = trimStart cs := by
  induction pad with
  | nil => rfl
  | cons c pad ih =>
    rw [List.cons_append, trimStart, List.dropWhile_cons_of_pos (h c (.head _))]
    exact ih fun d hd => h d (.tail _ hd)

/-- A text that is more than its blank start ends as it did. -/
theorem trimStart_append_of_ne_nil {cs : List Char} (h : trimStart cs ≠ []) (rest : List Char) :
    trimStart (cs ++ rest) = trimStart cs ++ rest := by
  induction cs with
  | nil => exact absurd rfl h
  | cons c cs ih =>
    -- a blank is dropped, and so are those after it
    by_cases hc : isBlank c = true
    · have drop : ∀ ds, trimStart (c :: ds) = trimStart ds := fun ds =>
        List.dropWhile_cons_of_pos hc
      rw [drop] at h
      rw [List.cons_append, drop, drop, ih h]
    · -- the first other character ends it, and all that follows is kept
      have keep : ∀ ds, trimStart (c :: ds) = c :: ds := fun ds =>
        List.dropWhile_cons_of_neg hc
      rw [List.cons_append, keep, keep, List.cons_append]

/-- A trimmed text starts with no blank. -/
theorem trimStart_of_trimmed {cs : List Char} (h : trimChars cs = cs) : trimStart cs = cs := by
  have short : ∀ ds : List Char, (trimStart ds).length ≤ ds.length := fun ds =>
    (List.dropWhile_sublist _).length_le
  have whole : cs.length ≤ (trimStart cs).length :=
    calc cs.length = (trimChars cs).length := by rw [h]
      _ = (trimStart (trimStart cs).reverse).length := List.length_reverse
      _ ≤ (trimStart cs).length := by simpa using short (trimStart cs).reverse
  exact (List.dropWhile_sublist _).eq_of_length_le whole

/-- Of blanks only, nothing is left at the front. -/
theorem trimStart_eq_nil {cs : List Char} (h : ∀ c ∈ cs, isBlank c = true) : trimStart cs = [] :=
  List.dropWhile_eq_nil_iff.2 h

/-- And nothing at all when the end is trimmed as well. -/
theorem trimChars_eq_nil {cs : List Char} (h : ∀ c ∈ cs, isBlank c = true) : trimChars cs = [] := by
  rw [trimChars, trimStart_eq_nil h]
  rfl

/-- Trimming takes away the blanks around a line. -/
theorem trimChars_padded {before after cs : List Char} (hb : ∀ c ∈ before, isBlank c = true)
    (ha : ∀ c ∈ after, isBlank c = true) (hcs : trimChars cs = cs) :
    trimChars (before ++ cs ++ after) = cs := by
  -- Without anything between the padding there are only blanks.
  by_cases hne : cs = []
  · subst hne
    rw [List.append_nil]
    exact trimChars_eq_nil fun c hc => (List.mem_append.1 hc).elim (hb c) (ha c)
  · have start := trimStart_of_trimmed hcs
    rw [trimChars, List.append_assoc, trimStart_append hb,
      trimStart_append_of_ne_nil (start.symm ▸ hne), start, List.reverse_append,
      trimStart_append fun c hc => ha c (List.mem_reverse.1 hc)]
    rw [trimChars, start] at hcs
    exact hcs

/-- A text whose first and last characters are no blanks is trimmed. -/
theorem trimmed_of_ends {c d : Char} {cs : List Char} (hc : isBlank c = false)
    (hd : isBlank d = false) : trimChars (c :: (cs ++ [d])) = c :: (cs ++ [d]) := by
  apply trim_eq_of_not_blank
  · rintro e ⟨⟩
    exact hc
  · intro e he
    rw [← List.cons_append, List.getLast?_concat] at he
    cases he
    exact hd

/-- A line that starts and ends with a character that is no blank. -/
theorem isLine_of_ends {c d : Char} {cs : List Char} (hc : isBlank c = false)
    (hd : isBlank d = false) (h : '\n' ∉ c :: (cs ++ [d])) : IsLine (c :: (cs ++ [d])) :=
  ⟨List.cons_ne_nil _ _, trimmed_of_ends hc hd, h⟩

/-- A line starts with a character that is no blank. -/
theorem IsLine.exists_cons {cs : List Char} (h : IsLine cs) :
    ∃ c rest, cs = c :: rest ∧ isBlank c = false := by
  obtain ⟨c, rest, rfl⟩ := List.exists_cons_of_ne_nil h.ne_nil
  refine ⟨c, rest, rfl, ?_⟩
  by_contra hc
  have start := trimStart_of_trimmed h.trimmed
  rw [trimStart, List.dropWhile_cons_of_pos (by simpa using hc)] at start
  have := congrArg List.length start
  have short := (List.dropWhile_sublist (l := rest) isBlank).length_le
  simp only [List.length_cons] at this
  omega

/-- A lower-case letter is a letter. -/
theorem isAlpha_of_isLower {c : Char} (h : c.isLower = true) : c.isAlpha = true := by
  unfold Char.isAlpha
  rw [h, Bool.or_true]

/-- A letter is no blank. -/
theorem isBlank_of_isAlpha {c : Char} (h : c.isAlpha = true) : isBlank c = false := by
  have range : 65 ≤ c.toNat ∧ c.toNat ≤ 122 := by
    have value : c.toNat = c.val.toNat := rfl
    have ends : 'A'.val.toNat = 65 ∧ 'Z'.val.toNat = 90 ∧ 'a'.val.toNat = 97 ∧
      'z'.val.toNat = 122 :=
      ⟨rfl, rfl, rfl, rfl⟩
    unfold Char.isAlpha Char.isUpper Char.isLower at h
    simp only [Bool.or_eq_true, Bool.and_eq_true, decide_eq_true_eq, ge_iff_le,
      UInt32.le_iff_toNat_le] at h
    omega
  simp only [isBlank, Bool.or_eq_false_iff, Bool.and_eq_false_iff, decide_eq_false_iff_not,
    beq_eq_false_iff_ne]
  omega

/-- What is read at the start of a text is still there after trimming, up to its last character
that is no blank. -/
theorem trimChars_append_last {cs : List Char} (rest : List Char) {d : Char}
    (h : trimStart (cs ++ [d]) = cs ++ [d])
    (hd : isBlank d = false) : ∃ rest', trimChars (cs ++ d :: rest) = cs ++ d :: rest' := by
  have start : trimStart (cs ++ d :: rest) = cs ++ d :: rest := by
    rw [List.append_cons, trimStart_append_of_ne_nil (by simp [h]), h]
  -- What comes after the character may be all blanks, or have something that stays.
  rw [trimChars, start, List.reverse_append, List.reverse_cons]
  by_cases hrest : trimStart rest.reverse = []
  · refine ⟨[], ?_⟩
    have blank : ∀ c ∈ rest.reverse, isBlank c = true := List.dropWhile_eq_nil_iff.1 hrest
    rw [List.append_assoc, trimStart_append blank, List.singleton_append, trimStart_of_head hd]
    simp
  · refine ⟨(trimStart rest.reverse).reverse, ?_⟩
    rw [List.append_assoc, trimStart_append_of_ne_nil hrest]
    simp

/-! ### Laying out -/

/-- Rows that hold lines in order, each with blanks around it, and blank rows between them. -/
inductive LaidOut : List (List Char) → List (List Char) → Prop
  | done : LaidOut [] []
  | blank {row : List Char} {rows lines : List (List Char)} (hrow : IsPad row)
      (rest : LaidOut rows lines) : LaidOut (row :: rows) lines
  | line {before line after : List Char} {rows lines : List (List Char)} (hbefore : IsPad before)
      (hafter : IsPad after) (rest : LaidOut rows lines) :
      LaidOut ((before ++ line ++ after) :: rows) (line :: lines)

namespace LaidOut

variable {rows lines : List (List Char)}

/-- Lines that are all indented in the same way. -/
theorem indented {pad : List Char} (h : IsPad pad) (lines : List (List Char)) :
    LaidOut (lines.map (pad ++ ·)) lines := by
  induction lines with
  | nil => exact .done
  | cons line lines ih =>
    have row : LaidOut ((pad ++ line ++ []) :: lines.map (pad ++ ·)) (line :: lines) :=
      .line h (fun _ hc => absurd hc List.not_mem_nil) ih
    rwa [List.append_nil] at row

/-- The rows of lines that have no break have none either, for the padding has none. -/
theorem unbroken (h : LaidOut rows lines) (hlines : ∀ line ∈ lines, '\n' ∉ line) :
    ∀ row ∈ rows, '\n' ∉ row := by
  have pad : ∀ cs, IsPad cs → '\n' ∉ cs := fun cs hcs hm => (hcs _ hm).2 rfl
  induction h with
  | done => exact fun _ hm => absurd hm List.not_mem_nil
  | blank hrow rest ih => exact List.forall_mem_cons.2 ⟨pad _ hrow, ih hlines⟩
  | line hbefore hafter rest ih =>
    obtain ⟨hline, hlines⟩ := List.forall_mem_cons.1 hlines
    refine List.forall_mem_cons.2 ⟨?_, ih hlines⟩
    simpa only [List.mem_append, not_or] using ⟨⟨pad _ hbefore, hline⟩, pad _ hafter⟩

/-- The rows, trimmed and freed of blank ones, are the lines. -/
theorem trimmed (h : LaidOut rows lines) (hlines : ∀ line ∈ lines, IsLine line) :
    (rows.map trimChars).filter (· ≠ []) = lines := by
  have pad : ∀ cs, IsPad cs → ∀ c ∈ cs, isBlank c = true := fun cs hcs c hc => (hcs c hc).1
  induction h with
  | done => rfl
  | blank hrow rest ih =>
    rw [List.map_cons, trimChars_eq_nil (pad _ hrow)]
    exact ih hlines
  | line hbefore hafter rest ih =>
    obtain ⟨hline, hlines⟩ := List.forall_mem_cons.1 hlines
    rw [List.map_cons, trimChars_padded (pad _ hbefore) (pad _ hafter) hline.trimmed,
      List.filter_cons_of_pos (by simpa using hline.ne_nil), ih hlines]

/-- The first line, after blanks, starts the text. -/
theorem starts {line : List Char} (h : LaidOut rows (line :: lines)) :
    ∃ pad rest, (∀ c ∈ pad, isBlank c = true) ∧
      List.intercalate ['\n'] rows = pad ++ line ++ rest := by
  -- The rows before the first line are blank, and each of them becomes a part of its padding.
  generalize hall : line :: lines = all at h
  induction h with
  | done => cases hall
  | @blank row rows _ hrow rest ih =>
    obtain ⟨pad, tail, hpad, htext⟩ := ih hall
    cases rows with
    | nil => cases hall ▸ rest
    | cons next rows =>
      refine ⟨row ++ '\n' :: pad, tail, ?_, ?_⟩
      · intro c hc
        rcases List.mem_append.1 hc with hc | hc
        · exact (hrow c hc).1
        · rcases List.mem_cons.1 hc with rfl | hc
          · decide
          · exact hpad c hc
      · rw [List.intercalate_cons_cons, htext]
        simp
  | @line before _ after rows _ hbefore hafter rest ih =>
    cases hall
    have pad : ∀ c ∈ before, isBlank c = true := fun c hc => (hbefore c hc).1
    cases rows with
    | nil => exact ⟨before, after, pad, by simp⟩
    | cons next rows =>
      refine ⟨before, after ++ ['\n'] ++ List.intercalate ['\n'] (next :: rows), pad, ?_⟩
      rw [List.intercalate_cons_cons]
      simp

end LaidOut
end Storefront.Text

namespace Storefront.Document

open Text

/-- The lines that are read in a document are the lines that its rows hold. -/
theorem trimmedLines_of_laidOut {rows lines : List (List Char)} (h : LaidOut rows lines)
    (hne : rows ≠ []) (hlines : ∀ line ∈ lines, IsLine line) :
    trimmedLines (String.ofList (List.intercalate ['\n'] rows)) = lines := by
  rw [trimmedLines, String.toList_ofList,
    splitAt_intercalate hne (h.unbroken fun line hline => (hlines line hline).unbroken),
    h.trimmed hlines]

end Storefront.Document
