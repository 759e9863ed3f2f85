import Storefront.Document.Signature
import Storefront.Proofs.TwoLevel

/-! # Reading back a document of two levels

A document of two levels is read with its type, its root field, the values of its directive and its
selection, however its lines are laid out.  The reader takes closing lines away by their place: one
for the operation, one for a directive and one for the root field.  In the style with a directive
there are only two of them, so the brace of a last group goes in place of the root's, which the
selection does not notice.

* `TwoLevel.WellFormed.lines_isLine` : every line of a document survives trimming
* `TwoLevel.WellFormed.parse_of_trimmedLines` : what is read of the lines
* `TwoLevel.WellFormed.signature?_of_starts` : what the signature of the document is
* `parse_laidOut` : both, for every way of laying out the lines -/

namespace Storefront.Document

open Text

/-- The signature of a document ends where its arguments start. -/
theorem signature?_of_head {text signature : String} {pad rest : List Char}
    (hpad : ∀ c ∈ pad, isBlank c = true)
    (hletters : ∀ c ∈ signature.toList, isSignatureChar c = true) (hline : IsLine signature.toList)
    (htext : text.toList = pad ++ (signature.toList ++ '(' :: rest)) :
    signature? (some text) = some signature := by
  -- The signature ends where the bracket stands, so trimming the text cuts nothing off it.
  have kept : trimStart (signature.toList ++ ['(']) = signature.toList ++ ['('] := by
    have start := trimStart_of_trimmed hline.trimmed
    rw [trimStart_append_of_ne_nil (start.symm ▸ hline.ne_nil), start]
  obtain ⟨rest', htrim⟩ := trimChars_append_last rest kept (by decide)
  have trimmed : trimChars text.toList = signature.toList ++ '(' :: rest' := by
    rw [htext, ← htrim, trimChars, trimStart_append hpad]
    rfl
  -- Its letters are all taken, and the bracket is not one of them.
  have before : (trimChars text.toList).takeWhile isSignatureChar = signature.toList := by
    rw [trimmed, List.takeWhile_append_of_pos hletters, List.takeWhile_cons_of_neg (by decide),
      List.append_nil]
  rw [signature?, Option.getD_some]
  simp only [before, hline.trimmed, String.ofList_toList]
  rw [trimmed, List.drop_left]
  exact if_pos (.inl rfl)

/-- The line that opens a group. -/
theorem isLine_opening {name : String} (h : IsLine name.toList) :
    IsLine (name ++ opening).toList := by
  obtain ⟨c, rest, hc, blank⟩ := h.exists_cons
  have unbroken := h.unbroken
  have text : (name ++ opening).toList = c :: ((rest ++ [' ']) ++ ['\x7b']) := by
    simp [opening, hc]
  rw [text]
  refine isLine_of_ends blank (by decide) ?_
  rw [hc] at unbroken
  simpa using unbroken

namespace TwoLevel.WellFormed

variable {d : TwoLevel} (h : d.WellFormed)

include h

/-- The type starts with a letter. -/
theorem exists_type_cons : ∃ c rest, d.type.toList = c :: rest ∧ isBlank c = false := by
  have ne : d.type.toList ≠ [] := fun e => h.type_ne (String.toList_eq_nil_iff.1 e)
  obtain ⟨c, rest, hc⟩ := List.exists_cons_of_ne_nil ne
  have lower : c.isLower = true := h.type_lower c (hc ▸ .head _)
  exact ⟨c, rest, hc, isBlank_of_isAlpha (isAlpha_of_isLower lower)⟩

/-- The first line is one line: neither the type, the name nor the arguments break it. -/
theorem signature_unbroken : '\n' ∉ d.signature.toList := by
  have type : '\n' ∉ d.type.toList := fun hm => absurd (h.type_lower _ hm) (by decide)
  have name : '\n' ∉ d.name.toList := fun hm => absurd (h.name_letters _ hm) (by decide)
  simp [TwoLevel.signature, type, name, h.args_unbroken]

/-- So is the line that asks for the root field. -/
theorem endpoint_unbroken : '\n' ∉ d.endpoint.toList := by
  simp [TwoLevel.endpoint, h.root_line.unbroken, h.rootArgs_marks.2]

/-- The signature, alone on its line or with the brace behind it. -/
theorem signature_line : IsLine d.signature.toList ∧ IsLine (d.signature ++ opening).toList := by
  obtain ⟨c, rest, htype, hc⟩ := h.exists_type_cons
  have text : d.signature.toList =
      c :: ((rest ++ ' ' :: d.name.toList ++ '(' :: d.args.toList) ++ [')']) := by
    simp [TwoLevel.signature, htype]
  have line : IsLine d.signature.toList := by
    rw [text]
    exact isLine_of_ends hc (by decide) (text ▸ h.signature_unbroken)
  exact ⟨line, isLine_opening line⟩

/-- A root field's line begins with a letter and ends with a bracket or a brace, so trimming leaves
it. -/
theorem endpoint_line : IsLine d.endpoint.toList ∧ IsLine (d.endpoint ++ opening).toList := by
  obtain ⟨c, rest, hroot, hc⟩ := h.root_line.exists_cons
  have text : d.endpoint.toList = c :: ((rest ++ '(' :: d.rootArgs.toList) ++ [')']) := by
    simp [TwoLevel.endpoint, hroot]
  have line : IsLine d.endpoint.toList := by
    rw [text]
    exact isLine_of_ends hc (by decide) (text ▸ h.endpoint_unbroken)
  exact ⟨line, isLine_opening line⟩

/-- And so is the line of the directive. -/
theorem directive_line {entries : List (String × String)} (he : d.entries? = some entries) :
    IsLine (directive ++ "(" ++ written entries ++ ")" ++ opening).toList := by
  have simple : ∀ p ∈ entries, IsSimple p.1 ∧ IsSimple p.2 := by
    simpa [he] using h.entries_simple
  -- A line break is not among the characters an entry may have.
  have unbroken : '\n' ∉ (written entries).toList := by
    intro hm
    have blank : ∀ s, IsSimple s → ∀ c ∈ s.toList, c ≠ '\n' := by
      rintro s hs c hc rfl
      exact absurd (hs _ hc).1 (by decide)
    exact forall_written (P := (· ≠ '\n')) (by decide)
      (fun p hp => ⟨blank _ (simple p hp).1, blank _ (simple p hp).2⟩) _ hm rfl
  -- The line begins with an at sign and ends with a brace.
  have text : (directive ++ "(" ++ written entries ++ ")" ++ opening).toList =
      '@' :: (("inContext(".toList ++ (written entries).toList ++ [')', ' ']) ++ ['\x7b']) := by
    simp [directive, opening]
  rw [text]
  refine isLine_of_ends (by decide) (by decide) ?_
  simp [unbroken]

/-- The line of the root field is no directive. -/
theorem root_not_prefix (rest : List Char) :
    directive.toList.isPrefixOf (d.root.toList ++ '(' :: rest) = false := by
  rw [← Bool.not_eq_true, List.isPrefixOf_iff_prefix]
  intro hp
  rcases List.prefix_or_prefix_of_prefix hp (List.prefix_append d.root.toList _) with hr | hr
  · exact h.root_not_directive hr
  · -- The name of the directive would go on with the parenthesis that follows the root.
    obtain ⟨more, hmore⟩ := hr
    rw [← hmore, List.prefix_append_right_inj] at hp
    cases more with
    | nil => exact h.root_not_directive ⟨[], by rw [List.append_nil, ← hmore, List.append_nil]⟩
    | cons c more =>
      obtain rfl : c = '(' := (List.cons_prefix_cons.1 hp).1
      have : '(' ∈ directive.toList := hmore ▸ List.mem_append_right _ (.head _)
      exact absurd this (by decide)

/-- The line of the root field without its brace. -/
theorem withoutOpening_root :
    withoutOpening (d.endpoint ++ opening).toList = d.endpoint.toList := by
  have noBrace : d.endpoint.toList.filter (· ≠ '\x7b') = d.endpoint.toList := by
    refine List.filter_eq_self.2 fun c hc => decide_eq_true ?_
    rintro rfl
    simp [TwoLevel.endpoint, h.root_marks.1, h.rootArgs_marks.1] at hc
  have padded : trimChars ([] ++ d.endpoint.toList ++ [' ']) = d.endpoint.toList :=
    trimChars_padded (by simp) (by decide) h.endpoint_line.1.trimmed
  rw [withoutOpening, String.toList_append, List.filter_append, noBrace]
  exact padded

/-- The type is what the header starts with in lower case. -/
theorem takeWhile_header (rest : List Char) :
    String.ofList ((d.signature.toList ++ rest).takeWhile Char.isLower) = d.type := by
  have text : d.signature.toList ++ rest =
      d.type.toList ++ ' ' :: (d.name.toList ++ '(' :: (d.args.toList ++ ')' :: rest)) := by
    simp [TwoLevel.signature]
  rw [text, List.takeWhile_append_of_pos h.type_lower,
    List.takeWhile_cons_of_neg (by decide), List.append_nil, String.ofList_toList]

/-- Every line that is written is a line that can be read. -/
theorem lines_isLine : ∀ line ∈ d.lines, IsLine line.toList := by
  have brace : IsLine closing.toList := ⟨by decide, by decide, by decide⟩
  -- the lines of the selection: a bare field, or a group with its children and its brace
  have parts : ∀ p : Part, p.WellFormed → ∀ line ∈ p.lines, IsLine line.toList := by
    rintro (text | ⟨name, children⟩) hp line hline
    · obtain rfl := List.mem_singleton.1 hline
      exact hp.toIsLine
    · obtain ⟨hname, hchildren⟩ := hp
      rcases List.mem_append.1 hline with hline | hline
      · rcases List.mem_cons.1 hline with rfl | hline
        · exact isLine_opening hname
        · exact (hchildren line hline).toIsLine
      · exact List.mem_singleton.1 hline ▸ brace
  -- the lines before the root field: with the directive on one of them, or without it
  have header : ∀ line ∈ d.headerLines, IsLine line.toList := by
    intro line hline
    unfold TwoLevel.headerLines at hline
    split at hline
    · exact List.mem_singleton.1 hline ▸ h.signature_line.2
    · rename_i entries he
      rcases List.mem_cons.1 hline with rfl | hline
      · exact h.signature_line.1
      · exact List.mem_singleton.1 hline ▸ h.directive_line he
  intro line hline
  -- The document is these four kinds of lines.
  simp only [TwoLevel.lines, partLines, List.mem_append, List.mem_flatMap] at hline
  rcases hline with ((hline | hline) | ⟨p, hp, hline⟩) | hline
  · exact header line hline
  · exact List.mem_singleton.1 hline ▸ h.endpoint_line.2
  · exact parts p (h.parts_wellFormed p hp) line hline
  · have : line = closing := by simpa using hline
    exact this ▸ brace

/-! #### The parts of what is read -/

/-- The body: the line of the root field and the selection, whether or not a closing brace was
left at its end. -/
theorem readBody_lines {selection : List (List Char)}
    (hselection : readSelection selection = d.parts.map Part.read)
    (context : List (String × Value)) (vars : Value) :
    readBody d.type context vars ((d.endpoint ++ opening).toList :: selection) =
      .ok ⟨some d.type, some d.endpoint, context, d.parts.map Part.read, vars⟩ := by
  rw [readBody, h.withoutOpening_root, String.ofList_toList, readSelection_withoutClosing,
    hselection]

/-- The name of the root field is what stands before its arguments. -/
theorem rootField_eq {p : Parsed} (hp : p.endpoint = some d.endpoint) :
    p.rootField = some d.root := by
  have text : d.endpoint.toList = d.root.toList ++ '(' :: (d.rootArgs.toList ++ [')']) := by
    simp [TwoLevel.endpoint]
  have ne : d.root ≠ "" := fun e => h.root_line.ne_nil (by rw [e]; rfl)
  rw [Parsed.rootField, hp]
  simp only [Option.bind_eq_bind, Option.bind_some]
  rw [text, cutAt_append h.root_marks.2, trim, String.toList_ofList, h.root_line.trimmed,
    String.ofList_toList, if_neg ne]

/-- The lines of a document, read one after the other. -/
theorem parse_of_trimmedLines {text : String}
    (htext : trimmedLines text = d.lines.map String.toList) {vars : Value}
    {fields : List (Key × Value)} (hvars : vars.orElse (.record []) = .record fields) :
    parse (some text) vars =
      .ok ⟨some d.type, some d.endpoint, d.context fields, d.parts.map Part.read,
        .record fields⟩ := by
  have selection := readSelection_lines h.parts_wellFormed h.parts_distinct
  have closed : readSelection ((partLines d.parts).map String.toList ++ [closing.toList]) =
      d.parts.map Part.read := (readSelection_closing _).trans selection
  simp only [parse, Option.getD_some, htext, hvars]
  cases he : d.entries? with
  | none =>
    -- The last of the two closing lines goes with the header, the other one with the root.
    have lines : d.lines.map String.toList =
        (d.signature.toList ++ opening.toList) :: ((d.endpoint ++ opening).toList ::
          ((partLines d.parts).map String.toList ++ [closing.toList]) ++ [closing.toList]) := by
      simp [TwoLevel.lines, TwoLevel.headerLines, he]
    have root : directive.toList.isPrefixOf (d.endpoint ++ opening).toList = false := by
      have := h.root_not_prefix (d.rootArgs.toList ++ ')' :: opening.toList)
      rw [← this]
      simp [TwoLevel.endpoint]
    rw [lines]
    simp only [List.dropLast_concat, h.takeWhile_header, root]
    have context : d.context fields = [] := by simp [TwoLevel.context, he]
    rw [context]
    exact h.readBody_lines closed _ _
  | some entries =>
    -- The brace of the directive is the one that the second closing line stands for.
    have simple : ∀ p ∈ entries, IsSimple p.1 ∧ IsSimple p.2 := by
      simpa [he] using h.entries_simple
    have distinct : (entries.map Prod.fst).Nodup := by simpa [he] using h.entries_distinct
    have lines : d.lines.map String.toList = d.signature.toList ::
        ((directive ++ "(" ++ written entries ++ ")" ++ opening).toList ::
          ((d.endpoint ++ opening).toList :: ((partLines d.parts).map String.toList ++
            [closing.toList])) ++ [closing.toList]) := by
      simp [TwoLevel.lines, TwoLevel.headerLines, he]
    have found : directive.toList.isPrefixOf
        (directive ++ "(" ++ written entries ++ ")" ++ opening).toList = true := by
      rw [List.isPrefixOf_iff_prefix]
      simp
    have body : withoutClosing ((d.endpoint ++ opening).toList ::
        ((partLines d.parts).map String.toList ++ [closing.toList])) =
        (d.endpoint ++ opening).toList :: (partLines d.parts).map String.toList := by
      rw [← List.cons_append, withoutClosing, List.getLast?_concat]
      exact (if_pos rfl).trans List.dropLast_concat
    have type := h.takeWhile_header []
    rw [List.append_nil] at type
    rw [lines]
    simp only [List.dropLast_concat, type, found, body, readContext_written simple distinct]
    rw [TwoLevel.context_eq he]
    exact h.readBody_lines selection _ _

/-- The signature ends where the arguments start. -/
theorem signature?_of_starts {text : String} {pad rest : List Char}
    (hpad : ∀ c ∈ pad, isBlank c = true)
    (htext : text.toList = pad ++ (d.signature.toList ++ rest)) :
    signature? (some text) = some (d.type ++ " " ++ d.name) := by
  obtain ⟨c, more, htype, hc⟩ := h.exists_type_cons
  have ne : d.name.toList ≠ [] := fun e => h.name_ne (String.toList_eq_nil_iff.1 e)
  -- The signature begins with a letter and ends with one, so nothing of it is trimmed.
  have head : (d.type ++ " " ++ d.name).toList =
      c :: ((more ++ ' ' :: d.name.toList.dropLast) ++ [d.name.toList.getLast ne]) := by
    simp [htype, List.dropLast_concat_getLast]
  -- Each of its characters is one a signature may have.
  have letters : ∀ c ∈ (d.type ++ " " ++ d.name).toList, isSignatureChar c = true := by
    intro c hc
    simp only [String.toList_append, List.mem_append] at hc
    rcases hc with (hc | hc) | hc
    · have : c.isAlpha = true := isAlpha_of_isLower (h.type_lower c hc)
      simp [isSignatureChar, this]
    · obtain rfl : c = ' ' := by simpa using hc
      decide
    · simp [isSignatureChar, h.name_letters c hc]
  have line : IsLine (d.type ++ " " ++ d.name).toList := by
    have unbroken : '\n' ∉ (d.type ++ " " ++ d.name).toList := fun hm =>
      absurd (letters _ hm) (by decide)
    rw [head] at unbroken ⊢
    exact isLine_of_ends hc (isBlank_of_isAlpha (h.name_letters _ (List.getLast_mem ne))) unbroken
  have head : text.toList = pad ++ ((d.type ++ " " ++ d.name).toList ++
      '(' :: (d.args.toList ++ ')' :: rest)) := by
    rw [htext]
    simp [TwoLevel.signature]
  exact signature?_of_head hpad letters line head

end TwoLevel.WellFormed

/-- Reading inverts writing: however the lines of a document of two levels are laid out, it is read
with its type, its root field, the values of its directive and its selection in order, and its
signature is its type and its name. -/
theorem parse_laidOut {d : TwoLevel} (h : d.WellFormed) {rows : List (List Char)}
    (hrows : LaidOut rows (d.lines.map String.toList)) {vars : Value} {fields : List (Key × Value)}
    (hvars : vars.orElse (.record []) = .record fields) :
    ∃ p, parse (some (String.ofList (List.intercalate ['\n'] rows))) vars = .ok p ∧
      p.type = some d.type ∧ p.endpoint = some (d.root ++ "(" ++ d.rootArgs ++ ")") ∧
      p.rootField = some d.root ∧ p.context = d.context fields ∧
      p.fields = d.parts.map Part.read ∧ p.vars = .record fields ∧
      signature? (some (String.ofList (List.intercalate ['\n'] rows))) =
        some (d.type ++ " " ++ d.name) := by
  have lines : ∀ line ∈ d.lines.map String.toList, IsLine line := by
    intro line hline
    obtain ⟨text, htext, rfl⟩ := List.mem_map.1 hline
    exact h.lines_isLine text htext
  have hne : rows ≠ [] := by
    rintro rfl
    generalize hall : d.lines.map String.toList = all at hrows
    cases hrows
    simp [TwoLevel.lines] at hall
  have read := h.parse_of_trimmedLines (trimmedLines_of_laidOut hrows hne lines) hvars
  -- The header is the first line, with or without its brace.
  obtain ⟨rest, rows', header⟩ : ∃ rest more,
      d.lines.map String.toList = (d.signature.toList ++ rest) :: more := by
    unfold TwoLevel.lines TwoLevel.headerLines
    cases d.entries? with
    | none => exact ⟨opening.toList, _, by simp; rfl⟩
    | some entries => exact ⟨[], _, by simp; rfl⟩
  obtain ⟨pad, tail, hpad, htext⟩ := (header ▸ hrows).starts
  have text : (String.ofList (List.intercalate ['\n'] rows)).toList =
      pad ++ (d.signature.toList ++ (rest ++ tail)) := by
    rw [String.toList_ofList, htext, List.append_assoc, List.append_assoc]
  have signature := h.signature?_of_starts hpad text
  exact ⟨_, read, rfl, rfl, h.rootField_eq rfl, rfl, rfl, rfl, signature⟩

/-- A query for a part of a cart in the market of a country. -/
def TwoLevel.sample : TwoLevel where
  type := "query"
  name := "cart"
  args := "$cartId: ID!, $countryCode: CountryCode!"
  entries? := some [("country", "countryCode")]
  root := "cart"
  rootArgs := " id: $cartId "
  parts := [.field "id", .group "buyerIdentity" ["countryCode"]]

/-- The sample, indented, is read with the country of its variables; its last group is closed by
the brace of the root. -/
theorem parse_laidOut_sample :
    let rows := TwoLevel.sample.lines.map fun line => [' ', ' '] ++ line.toList
    TwoLevel.sample.WellFormed ∧ LaidOut rows (TwoLevel.sample.lines.map String.toList) ∧
    ∃ p, parse (some (String.ofList (List.intercalate ['\n'] rows)))
        (.record [(.text "countryCode", .text "IE")]) = .ok p ∧
      p.rootField = some "cart" ∧ p.context = [("country", .text "IE")] ∧
      p.fields = [("id", none), ("buyerIdentity", some ["countryCode"])] := by
  intro rows
  -- Each condition on the sample is about a given text and is decided.
  have plain : IsPlain "id" ∧ IsPlain "countryCode" :=
    ⟨⟨⟨by decide, by decide, by decide⟩, by decide, by decide⟩,
      ⟨⟨by decide, by decide, by decide⟩, by decide, by decide⟩⟩
  have wellFormed : TwoLevel.sample.WellFormed := {
    type_ne := by decide
    type_lower := by decide
    name_ne := by decide
    name_letters := by decide
    args_unbroken := by decide
    entries_simple := by
      intro p hp
      obtain rfl := List.mem_singleton.1 hp
      exact ⟨by unfold IsSimple; decide, by unfold IsSimple; decide⟩
    entries_distinct := by decide
    root_line := ⟨by decide, by decide, by decide⟩
    root_marks := by decide
    root_not_directive := by decide
    rootArgs_marks := by decide
    parts_wellFormed := by
      refine List.forall_mem_cons.2 ⟨plain.1, List.forall_mem_singleton.2 ⟨?_, ?_⟩⟩
      · exact ⟨by decide, by decide, by decide⟩
      · exact List.forall_mem_singleton.2 plain.2
    parts_distinct := by decide }
  -- Every line is indented by two blanks.
  have laidOut : LaidOut rows (TwoLevel.sample.lines.map String.toList) := by
    have pad : IsPad [' ', ' '] := by unfold IsPad; decide
    have indented := LaidOut.indented pad (TwoLevel.sample.lines.map String.toList)
    rwa [List.map_map] at indented
  have vars : (Value.record [(.text "countryCode", .text "IE")]).orElse (.record []) =
      .record [(.text "countryCode", .text "IE")] := rfl
  obtain ⟨p, hp, -, -, root, context, fields, -⟩ := parse_laidOut wellFormed laidOut vars
  exact ⟨wellFormed, laidOut, p, hp, root, context, fields⟩

end Storefront.Document
