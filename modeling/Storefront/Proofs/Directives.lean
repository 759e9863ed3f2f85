import Mathlib.Data.List.Forall2
import Storefront.Proofs.Lines

/-! # Directives

A directive lists keys, each with a variable or a word, and blanks may stand around all of them.
Its reader takes the mark of a variable off a value and then looks up the rest, whether or not there
was a mark: a word is looked up as if it were the name of a variable.

* `Source` : a variable or a word
* `IsDirective.directiveEntries` : what is read of a line that lists keys with their sources
* `IsDirective.readContext` : their values -/

namespace Storefront.Document

open Text

/-! ### Writing -/

/-- A name in a directive: no blanks and none of the marks that the entries are separated by. -/
def IsSimple (s : String) : Prop :=
  ∀ c ∈ s.toList, isBlank c = false ∧ c ∉ [',', ':', '(', ')', '\x7b']

/-- Where an entry of a directive has its value from. -/
inductive Source where
  | reference (name : String)
  | literal (word : String)

namespace Source

/-- The name of a variable, or the word. -/
def name : Source → String
  | .reference name => name
  | .literal word => word

/-- How a source is written. -/
def text : Source → List Char
  | .reference name => '$' :: name.toList
  | .literal word => word.toList

/-- A source that can be told from the other kind. -/
def IsPlain : Source → Prop
  | .reference _ => True
  | .literal word => word.toList.head? ≠ some '$'

/-- The value of what is looked up under the name of a source, null where nothing is. -/
def lookedUp (vars : List (Key × Value)) (s : Source) : Value :=
  (Assoc.get? vars (.text s.name)).getD .null

/-- The value that is written: that of the variable, or the word itself. -/
def asWritten (vars : List (Key × Value)) : Source → Value
  | .reference name => (Assoc.get? vars (.text name)).getD .null
  | .literal word => .text word

end Source

/-- An entry as it is written, with blanks around its key and its source. -/
inductive Spells : List Char → String × Source → Prop
  | entry {a b c d : List Char} {key : String} {source : Source}
      (ha : ∀ x ∈ a, isBlank x = true) (hb : ∀ x ∈ b, isBlank x = true)
      (hc : ∀ x ∈ c, isBlank x = true) (hd : ∀ x ∈ d, isBlank x = true)
      (key_simple : IsSimple key) (source_simple : IsSimple source.name) (plain : source.IsPlain) :
      Spells ((a ++ key.toList ++ b) ++ ':' :: (c ++ source.text ++ d)) (key, source)

/-- A line that lists entries; the brace of the selection may follow. -/
inductive IsDirective : List Char → List (String × Source) → Prop
  | line {pieces : List (List Char)} {entries : List (String × Source)} {after : List Char}
      (spelled : List.Forall₂ Spells pieces entries)
      (blank : ∀ x ∈ after, isBlank x = true ∨ x = '\x7b') :
      IsDirective ((directive ++ "(").toList ++ List.intercalate [','] pieces ++ ')' :: after)
        entries

/-! ### Reading entries -/

/-- A text without blanks is not trimmed. -/
theorem trimmed_of_no_blank {cs : List Char} (h : ∀ c ∈ cs, isBlank c = false) :
    trimChars cs = cs :=
  trim_eq_of_not_blank (fun c hc => h c (List.mem_of_head? hc))
    fun c hc => h c (List.mem_of_getLast? hc)

/-- A simple text has none of the marks. -/
theorem IsSimple.not_mem {s : String} (h : IsSimple s) {c : Char}
    (hc : c ∈ [',', ':', '(', ')', '\x7b']) : c ∉ s.toList := fun hm => (h c hm).2 hc

/-- A simple text has no blanks, so trimming leaves it. -/
theorem IsSimple.trimmed {s : String} (h : IsSimple s) : trimChars s.toList = s.toList :=
  trimmed_of_no_blank fun c hc => (h c hc).1

namespace Source

variable {source : Source}

/-- A source is written without blanks. -/
theorem trimmed (h : IsSimple source.name) : trimChars source.text = source.text := by
  cases source with
  | reference name =>
    exact trimmed_of_no_blank (List.forall_mem_cons.2 ⟨by decide, fun c hc => (h c hc).1⟩)
  | literal word => exact h.trimmed

/-- No mark occurs in a source's text, the sigil of a reference being none of them. -/
theorem not_mem_text (h : IsSimple source.name) {c : Char}
    (hc : c ∈ [',', ':', '(', ')', '\x7b']) : c ∉ source.text := by
  cases source with
  | reference name =>
    intro hm
    rcases List.mem_cons.1 hm with rfl | hm
    · exact absurd hc (by decide)
    · exact h.not_mem hc hm
  | literal word => exact h.not_mem hc

end Source

/-- A blank is none of the marks. -/
theorem ne_of_isBlank {c d : Char} (h : isBlank c = true)
    (hd : d ∈ [',', ':', '(', ')', '\x7b']) : c ≠ d := by
  have marks : ∀ d ∈ [',', ':', '(', ')', '\x7b'], isBlank d = false := by decide
  rintro rfl
  cases h.symm.trans (marks c hd)

/-- So a text of blanks has none of them. -/
theorem not_mem_of_blank {cs : List Char} (h : ∀ c ∈ cs, isBlank c = true) {d : Char}
    (hd : d ∈ [',', ':', '(', ')', '\x7b']) : d ∉ cs :=
  fun hm => ne_of_isBlank (h d hm) hd rfl

namespace Spells

variable {piece : List Char} {entry : String × Source}

/-- Nothing that separates entries from each other, or from what stands around them, is in one. -/
theorem not_mem (h : Spells piece entry) {mark : Char} (hm : mark ∈ [',', '(', ')', '\x7b']) :
    mark ∉ piece := by
  obtain ⟨ha, hb, hc, hd, key_simple, source_simple, -⟩ := h
  have listed : mark ∈ [',', ':', '(', ')', '\x7b'] ∧ mark ≠ ':' := by
    revert mark
    decide
  obtain ⟨listed, ne⟩ := listed
  simp only [List.mem_append, List.mem_cons, not_or]
  exact ⟨⟨⟨not_mem_of_blank ha listed, key_simple.not_mem listed⟩, not_mem_of_blank hb listed⟩, ne,
    ⟨not_mem_of_blank hc listed, Source.not_mem_text source_simple listed⟩,
    not_mem_of_blank hd listed⟩

/-- An entry is read as its key and the name of its source. -/
theorem directiveEntry? (h : Spells piece entry) :
    Document.directiveEntry? piece = some (entry.1, entry.2.name) := by
  obtain @⟨a, b, c, d, key, source, ha, hb, hc, hd, key_simple, source_simple, plain⟩ := h
  have before : ':' ∉ a ++ key.toList ++ b := by
    simp only [List.mem_append, not_or]
    exact ⟨⟨not_mem_of_blank ha (by decide), key_simple.not_mem (by decide)⟩,
      not_mem_of_blank hb (by decide)⟩
  have trimmedKey : trimChars (a ++ key.toList ++ b) = key.toList :=
    trimChars_padded ha hb key_simple.trimmed
  have trimmedSource : trimChars (c ++ source.text ++ d) = source.text :=
    trimChars_padded hc hd (Source.trimmed source_simple)
  rw [Document.directiveEntry?, cutAt_append before]
  dsimp only
  rw [trimmedKey, trimmedSource, String.ofList_toList]
  refine congrArg (fun name => some (key, name)) ?_
  cases source with
  | reference name => exact String.ofList_toList
  | literal word =>
    -- A word has no mark that could be taken off.
    split
    · rename_i name text
      exact absurd (congrArg List.head? text) plain
    · exact String.ofList_toList

end Spells

section

variable {pieces : List (List Char)} {entries : List (String × Source)}
  (h : List.Forall₂ Spells pieces entries)

include h

/-- No spelled entry has a comma, a bracket or a brace; the colon is the only mark in it. -/
theorem not_mem_spelled {mark : Char} (hm : mark ∈ [',', '(', ')', '\x7b']) :
    ∀ piece ∈ pieces, mark ∉ piece := by
  induction h with
  | nil => exact List.forall_mem_nil _
  | cons first _ ih => exact List.forall_mem_cons.2 ⟨first.not_mem hm, ih⟩

/-- No other mark stands between the entries. -/
theorem not_mem_intercalate {mark : Char} (hm : mark ∈ ['(', ')', '\x7b']) :
    mark ∉ List.intercalate [','] pieces := by
  -- The commas that join the pieces are none of the other marks.
  have ne : mark ≠ ',' := by
    revert mark
    decide
  -- The pieces are free of the mark by what they spell, after which the spelling is not needed.
  have free := not_mem_spelled h (List.mem_cons_of_mem ',' hm)
  clear h hm
  induction pieces with
  | nil => exact List.not_mem_nil
  | cons piece pieces ih =>
    obtain ⟨first, later⟩ := List.forall_mem_cons.1 free
    cases pieces with
    | nil => rwa [List.intercalate_singleton]
    | cons other pieces =>
      rw [List.intercalate_cons_cons]
      simp only [List.mem_append, List.mem_singleton, not_or]
      exact ⟨⟨first, ne⟩, ih later⟩

/-- The entries of a line, read one by one. -/
theorem filterMap_spelled :
    (splitAt ',' (List.intercalate [','] pieces)).filterMap directiveEntry? =
      entries.map fun (key, source) => (key, source.name) := by
  -- Each piece gives back its own entry.
  have each : pieces.filterMap directiveEntry? =
      entries.map fun (key, source) => (key, source.name) := by
    induction h with
    | nil => rfl
    | cons first _ ih => rw [List.filterMap_cons_some first.directiveEntry?, ih, List.map_cons]
  -- Joined by commas they are split again; without any piece the split gives one empty text, which
  -- spells nothing.
  cases pieces with
  | nil =>
    cases h
    rfl
  | cons piece pieces =>
    rw [splitAt_intercalate (List.cons_ne_nil _ _) (not_mem_spelled h (.head _)), each]

end

/-- Filtering out a character that does not occur changes nothing. -/
theorem filter_ne_of_not_mem {c : Char} {cs : List Char} (h : c ∉ cs) : cs.filter (· ≠ c) = cs :=
  List.filter_eq_self.2 fun _ hd => decide_eq_true fun same => h (same ▸ hd)

/-- A line that lists entries is freed of all that stands around them. -/
theorem IsDirective.directiveEntries {line : List Char} {entries : List (String × Source)}
    (h : IsDirective line entries) :
    Document.directiveEntries line = entries.map fun (key, source) => (key, source.name) := by
  obtain @⟨pieces, _, after, spelled, blank⟩ := h
  generalize hinner : List.intercalate [','] pieces = inner
  have noBrace : '\x7b' ∉ inner := hinner ▸ not_mem_intercalate spelled (by decide)
  have noOpening : '(' ∉ inner := hinner ▸ not_mem_intercalate spelled (by decide)
  have noClosing : ')' ∉ inner := hinner ▸ not_mem_intercalate spelled (by decide)
  -- The brace and the blanks after it go, and what is left begins and ends with its own marks.
  have trimmed : withoutOpening ((directive ++ "(").toList ++ inner ++ ')' :: after) =
      (directive ++ "(").toList ++ (inner ++ [')']) := by
    have start : (directive ++ "(").toList.filter (· ≠ '\x7b') = (directive ++ "(").toList := by
      decide
    have filtered : ((directive ++ "(").toList ++ inner ++ ')' :: after).filter (· ≠ '\x7b') =
        [] ++ ((directive ++ "(").toList ++ (inner ++ [')'])) ++ after.filter (· ≠ '\x7b') := by
      rw [List.filter_append, List.filter_append, start, filter_ne_of_not_mem noBrace]
      simp
    have blanks : ∀ c ∈ after.filter (· ≠ '\x7b'), isBlank c = true := by
      intro c hc
      obtain ⟨hc, ne⟩ := List.mem_filter.1 hc
      exact (blank c hc).resolve_right (of_decide_eq_true ne)
    rw [withoutOpening, filtered]
    refine trimChars_padded (List.forall_mem_nil _) blanks ?_
    have ends : trimChars ('@' :: (("inContext(".toList ++ inner) ++ [')'])) = _ :=
      trimmed_of_ends (by decide) (by decide)
    rwa [List.append_assoc] at ends
  -- The directive's name goes, and so does the bracket that closes it.
  have body : (without (directive ++ "(") ((directive ++ "(").toList ++ (inner ++ [')']))).filter
      (· ≠ ')') = inner := by
    have noPhrase : '(' ∉ inner ++ [')'] := by
      rw [List.mem_append, not_or]
      exact ⟨noOpening, by decide⟩
    rw [without, withoutFrom_append (by decide),
      withoutFrom_of_not_mem (c := '(') (by decide) noPhrase, List.filter_append,
      filter_ne_of_not_mem noClosing]
    exact List.append_nil _
  rw [Document.directiveEntries, trimmed, body, ← hinner]
  exact filterMap_spelled spelled

/-! ### Looking up -/

/-- A key that is not listed is not found. -/
theorem has_eq_false {α : Type} {m : List (String × α)} {key : String}
    (h : key ∉ m.map Prod.fst) : Assoc.has m key = false := by
  rw [Assoc.has_iff, List.any_eq_false]
  intro k hk e
  exact h (beq_iff_eq.1 e ▸ hk)

/-- A new key comes last. -/
theorem put_of_fresh {α : Type} {m : List (String × α)} {key : String} (h : key ∉ m.map Prod.fst)
    (a : α) : Assoc.put m key a = m ++ [(key, a)] :=
  Assoc.put_of_not_has (has_eq_false h) a

/-- The entries of a directive are put one after the other, each under a new name. -/
theorem foldlM_member {entries : List (String × String)} {context : List (String × Value)}
    (hnew : (context.map Prod.fst ++ entries.map Prod.fst).Nodup) (vars : List (Key × Value)) :
    entries.foldlM (fun context (p : String × String) =>
        return Assoc.put context p.1 (← (Value.record vars).member p.2)) context =
      (Except.ok (context ++ entries.map fun (key, source) =>
        (key, (Assoc.get? vars (.text source)).getD .null)) : Except Fault _) := by
  -- The context grows by an entry at the end, its key being new, so the induction generalises it.
  induction entries generalizing context with
  | nil => rw [List.map_nil, List.append_nil]; rfl
  | cons p entries ih =>
    have fresh : p.1 ∉ context.map Prod.fst := fun hm =>
      (List.nodup_append.1 hnew).2.2 _ hm _ (.head _) rfl
    rw [List.foldlM_cons]
    simp only [Value.member_record, put_of_fresh fresh]
    refine (ih ?_).trans ?_
    · simpa using hnew
    · simp

/-- The values of a directive: every source is looked up by its name. -/
theorem IsDirective.readContext {line : List Char} {entries : List (String × Source)}
    (h : IsDirective line entries) (distinct : (entries.map Prod.fst).Nodup)
    (vars : List (Key × Value)) :
    Document.readContext line (.record vars) =
      .ok (entries.map fun (key, source) => (key, source.lookedUp vars)) := by
  -- Looking the keys up does not change their names.
  have keys : (entries.map fun (key, source) => (key, source.name)).map Prod.fst =
      entries.map Prod.fst := by
    simp
  have start : (([] : List (String × Value)).map Prod.fst ++
      (entries.map fun (key, source) => (key, source.name)).map Prod.fst).Nodup := by
    rw [keys]
    exact distinct
  rw [Document.readContext, h.directiveEntries]
  refine (foldlM_member start vars).trans ?_
  rw [List.map_map]
  rfl

end Storefront.Document
