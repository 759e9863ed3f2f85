import Storefront.Proofs.Selections

/-! # Documents without a body

A document is refused only if it has nothing between the lines that open it and the line that closes
it; there are four ways to be like that.  Every other document that is not blank is read, whatever
its lines are, and what is read of it are lines of the document.

The lines of a group are put into a list that was made when the group was opened.  The reader takes
for granted that the list is still there, and here it is shown to be: `readSelectionStrict` fails
where there is none, and never does.

* `IsBodiless` : the documents that have no body, by their lines
* `Selecting.Sound` : what holds while a selection is read
* `readSelectionStrict_eq` : the list of an open group is always there
* `Parsed.ReadFrom` : what is read of a document
* `parse_settled` : what comes of any document -/

namespace Storefront.Document

open Text

/-! ### Reading a selection -/

/-- Reads one line of a selection.  A line inside a group needs a list to go to: the group has to be
known, and not as a plain field. -/
def Selecting.stepStrict (s : Selecting) (line : List Char) : Except Fault Selecting :=
  if line.getLast? = some '\x7b' ∨ line = ['\x7d'] then .ok (s.step line)
  else match s.current with
    | none => .ok (s.step line)
    | some name =>
      match Assoc.get? s.fields name with
      | some (some lines) =>
        .ok ⟨Assoc.put s.fields name (some (lines ++ [String.ofList line])), s.current⟩
      | some none => .error .shape
      | none => .error (.missingKey (.text name))

/-- Reads the lines of a selection, where the lines of a group need a list to go to. -/
def readSelectionStrict (lines : List (List Char)) :
    Except Fault (List (String × Option (List String))) :=
  (·.fields) <$> lines.foldlM Selecting.stepStrict ⟨[], none⟩

namespace Selecting

variable {source : List (List Char)} {s : Selecting}

/-- A group that is open has a list, all lists hold lines of the source, and no name
occurs twice. -/
structure Sound (source : List (List Char)) (s : Selecting) : Prop where
  collects : ∀ name, s.current = some name →
    ∃ lines, Assoc.get? s.fields name = some (some lines)
  lines : ∀ name lines, (name, some lines) ∈ s.fields → ∀ line ∈ lines, line.toList ∈ source
  distinct : (Assoc.keys s.fields).Nodup

/-- Before the first line nothing is recorded and no group is open. -/
theorem sound_start (source : List (List Char)) : Sound source ⟨[], none⟩ :=
  ⟨nofun, nofun, List.nodup_nil⟩

/-- The lists stay lists of lines of the source when one of them is put in. -/
theorem Sound.lines_put (h : Sound source s) (name : String) {entry : Option (List String)}
    (hentry : ∀ lines, entry = some lines → ∀ line ∈ lines, line.toList ∈ source) :
    ∀ other lines, (other, some lines) ∈ Assoc.put s.fields name entry →
      ∀ line ∈ lines, line.toList ∈ source := by
  intro other lines mem
  rcases Assoc.mem_put mem with mem | ⟨same, -⟩
  · exact h.lines other lines mem
  · exact hentry lines same.symm

/-- What holds while a selection is read holds after one more of its lines, and the line went to a
list if it belongs to a group. -/
theorem Sound.step (h : Sound source s) {line : List Char} (hline : line ∈ source) :
    Sound source (s.step line) ∧ s.stepStrict line = .ok (s.step line) := by
  have text : (String.ofList line).toList ∈ source := by rwa [String.toList_ofList]
  by_cases opens : line.getLast? = some '\x7b'
  · refine ⟨?_, if_pos (.inl opens)⟩
    rw [Selecting.step, if_pos opens]
    refine ⟨fun name hname => ⟨[], ?_⟩, h.lines_put _ ?_, Assoc.nodup_keys_put h.distinct _ _⟩
    · -- The group that is open now is the one that was just put in.
      dsimp only at hname ⊢
      split at hname
      · cases hname
      · rw [← Option.some.inj hname, Assoc.get?_put_self]
    · rintro _ ⟨⟩
      exact List.forall_mem_nil _
  by_cases closes : line = ['\x7d']
  · refine ⟨?_, if_pos (.inr closes)⟩
    rw [Selecting.step, if_neg opens, if_pos closes]
    exact ⟨by simp, h.lines, h.distinct⟩
  have plain : ¬ (line.getLast? = some '\x7b' ∨ line = ['\x7d']) := not_or.2 ⟨opens, closes⟩
  rw [stepStrict, if_neg plain, Selecting.step, if_neg opens, if_neg closes]
  cases current : s.current with
  | none =>
    exact ⟨⟨by simp, h.lines_put _ (by simp), Assoc.nodup_keys_put h.distinct _ _⟩, rfl⟩
  | some name =>
    obtain ⟨lines, collected⟩ := h.collects name current
    simp only [collected, Option.getD_some]
    refine ⟨⟨fun other hother => ?_, h.lines_put _ ?_, Assoc.nodup_keys_put h.distinct _ _⟩,
      trivial⟩
    · obtain rfl := Option.some.inj hother
      exact ⟨_, Assoc.get?_put_self _ _ _⟩
    · rintro _ ⟨⟩ other mem
      obtain ⟨k, -, known⟩ := Assoc.mem_of_get? collected
      rcases List.mem_append.1 mem with mem | mem
      · exact h.lines k lines known other mem
      · rwa [List.mem_singleton.1 mem]

/-- The same after any number of lines. -/
theorem Sound.run (h : Sound source s) {lines : List (List Char)} (hlines : lines ⊆ source) :
    Sound source (lines.foldl Selecting.step s) ∧
      lines.foldlM stepStrict s = .ok (lines.foldl Selecting.step s) := by
  induction lines generalizing s with
  | nil => exact ⟨h, rfl⟩
  | cons line lines ih =>
    obtain ⟨hline, hrest⟩ := List.cons_subset.1 hlines
    obtain ⟨sound, strict⟩ := h.step hline
    obtain ⟨sound, rest⟩ := ih sound hrest
    refine ⟨sound, ?_⟩
    rw [List.foldlM_cons, strict]
    exact rest

end Selecting

/-- Every line inside a group goes to a list that is there. -/
theorem readSelectionStrict_eq (lines : List (List Char)) :
    readSelectionStrict lines = .ok (readSelection lines) := by
  rw [readSelectionStrict, ((Selecting.sound_start lines).run (List.Subset.refl lines)).2]
  rfl

/-! ### Reading a document -/

/-- The lines of a document that has no body: it has no more than a header and a closing line, or no
more than these, a directive and the closing brace that belongs to it. -/
inductive IsBodiless : List (List Char) → Prop
  | header (header : List Char) : IsBodiless [header]
  | closed (header last : List Char) : IsBodiless [header, last]
  | directive (header : List Char) {line : List Char} (h : directive.toList <+: line)
      (last : List Char) : IsBodiless [header, line, last]
  | closedDirective (header : List Char) {line : List Char} (h : directive.toList <+: line)
      (last : List Char) : IsBodiless [header, line, ['\x7d'], last]

/-- What is read of a document: the line of a root field, a type that goes as far as there are small
letters, and a selection whose groups hold lines of the document. -/
structure Parsed.ReadFrom (lines : List (List Char)) (p : Parsed) : Prop where
  endpoint : ∃ root ∈ lines, p.endpoint = some (String.ofList (withoutOpening root))
  type : ∃ type header rest, lines = (type ++ header) :: rest ∧ p.type = some (String.ofList type) ∧
    (∀ c ∈ type, 'a' ≤ c ∧ c ≤ 'z') ∧ ∀ c, header.head? = some c → ¬ ('a' ≤ c ∧ c ≤ 'z')
  fields : ∀ name entry, (name, entry) ∈ p.fields →
    entry = none ∨ ∃ children, entry = some children ∧ ∀ child ∈ children, child.toList ∈ lines
  names_distinct : p.fieldNames.Nodup

/-- A lower-case letter is one from a to z. -/
theorem isLower_iff {c : Char} : c.isLower = true ↔ 'a' ≤ c ∧ c ≤ 'z' := by
  show (decide ('a' ≤ c) && decide (c ≤ 'z')) = true ↔ _
  rw [Bool.and_eq_true, decide_eq_true_iff, decide_eq_true_iff]

/-- Every line left is one of the lines. -/
theorem withoutClosing_subset (lines : List (List Char)) : withoutClosing lines ⊆ lines := by
  rw [withoutClosing]
  split
  · exact List.dropLast_subset lines
  · exact List.Subset.refl lines

/-- Without its closing brace nothing is left of an empty body and of one that is only the brace. -/
theorem withoutClosing_eq_nil_iff {lines : List (List Char)} :
    withoutClosing lines = [] ↔ lines = [] ∨ lines = [['\x7d']] := by
  rw [withoutClosing]
  split
  · rename_i last
    obtain ⟨init, rfl⟩ := List.getLast?_eq_some_iff.1 last
    rw [List.dropLast_concat]
    simp
  · rename_i last
    refine ⟨.inl, ?_⟩
    rintro (rfl | rfl)
    · rfl
    · exact absurd rfl last

/-- Of three lines or more there is no body just if a directive leaves none. -/
theorem isBodiless_iff {header first last : List Char} {rows : List (List Char)} :
    IsBodiless (header :: (first :: rows ++ [last])) ↔
      directive.toList <+: first ∧ withoutClosing rows = [] := by
  constructor
  · intro h
    -- A document of at least three lines has no body in two of the four ways only.
    generalize hlines : header :: (first :: rows ++ [last]) = lines at h
    cases h with
    | header => simp at hlines
    | closed => simp at hlines
    | directive header' directed last' =>
      obtain ⟨-, rfl, rest⟩ : header = header' ∧ first = _ ∧ rows ++ [last] = [] ++ [last'] := by
        simpa using hlines
      obtain ⟨rfl, -⟩ := List.append_inj' rest rfl
      exact ⟨directed, rfl⟩
    | closedDirective header' directed last' =>
      obtain ⟨-, rfl, rest⟩ :
          header = header' ∧ first = _ ∧ rows ++ [last] = [['\x7d']] ++ [last'] := by
        simpa using hlines
      obtain ⟨rfl, -⟩ := List.append_inj' rest rfl
      exact ⟨directed, rfl⟩
  · -- Conversely the body is empty in two ways, each a way of having none.
    rintro ⟨directed, empty⟩
    rcases withoutClosing_eq_nil_iff.1 empty with rfl | rfl
    · exact .directive header directed last
    · exact .closedDirective header directed last

variable {header : List Char} {rest body : List (List Char)}

/-- A body that has a line is read, and what is read of it are its lines. -/
theorem readBody_readFrom (hne : body ≠ []) (hbody : body ⊆ header :: rest)
    (context : List (String × Value)) (vars : Value) :
    ∃ p, readBody (String.ofList (header.takeWhile Char.isLower)) context vars body = .ok p ∧
      p.ReadFrom (header :: rest) := by
  obtain ⟨root, rows, rfl⟩ := List.exists_cons_of_ne_nil hne
  obtain ⟨hroot, hrows⟩ := List.cons_subset.1 hbody
  -- The names recorded come from the body's lines, by the invariant of the scanner.
  have selection := ((Selecting.sound_start (header :: rest)).run
    (List.Subset.trans (withoutClosing_subset rows) hrows)).1
  refine ⟨_, rfl, ⟨root, hroot, rfl⟩, ?_, fun name entry mem => ?_, selection.distinct⟩
  · -- the endpoint: the letters of the header up to the first that is not lower case
    refine ⟨header.takeWhile Char.isLower, header.dropWhile Char.isLower, rest, ?_, rfl, ?_, ?_⟩
    · rw [List.takeWhile_append_dropWhile]
    · exact fun c hc => isLower_iff.1 (List.mem_takeWhile_imp hc)
    · intro c hc lower
      have first := List.head?_dropWhile_not Char.isLower header
      rw [hc] at first
      simp [isLower_iff.2 lower] at first
  · -- the fields: each with no children, or with children taken from the lines
    cases entry with
    | none => exact .inl rfl
    | some children => exact .inr ⟨children, rfl, selection.lines name children mem⟩

/-- What comes of a document: a blank one is read as such, one without a body is refused, and of any
other one its lines are read. -/
theorem parse_cases (document : Option String) (vars : List (Key × Value)) :
    (trimmedLines (document.getD "") = [] ∧
      parse document (.record vars) = .ok (.blank (.record vars))) ∨
    (IsBodiless (trimmedLines (document.getD "")) ∧
      parse document (.record vars) = .error .emptyDocument) ∨
    (trimmedLines (document.getD "") ≠ [] ∧ ¬ IsBodiless (trimmedLines (document.getD "")) ∧
      ∃ p, parse document (.record vars) = .ok p ∧
        p.ReadFrom (trimmedLines (document.getD ""))) := by
  -- The variables are an object, so no default takes their place.
  have hvars : (Value.record vars).orElse (.record []) = .record vars := by
    cases vars <;> rfl
  simp only [parse, hvars]
  rcases trimmedLines (document.getD "") with _ | ⟨header, lines⟩
  · exact .inl ⟨rfl, rfl⟩
  -- Split the lines into the header, the first, the rows and the last; the shorter documents have
  -- no body.
  right
  rcases List.eq_nil_or_concat lines with rfl | ⟨inner, last, rfl⟩
  · exact .inl ⟨.header header, rfl⟩
  rw [List.concat_eq_append]
  rcases inner with _ | ⟨first, rows⟩
  · exact .inl ⟨.closed header last, rfl⟩
  have inside : rows ⊆ header :: (first :: rows ++ [last]) := fun row mem => by simp [mem]
  simp only [List.dropLast_concat]
  rw [isBodiless_iff]
  -- with a directive the body is the rows, without it the first line as well
  by_cases directed : directive.toList <+: first
  · have found : directive.toList.isPrefixOf first = true := List.isPrefixOf_iff_prefix.2 directed
    obtain ⟨context, read⟩ := exists_readContext first vars
    simp only [found, read]
    by_cases empty : withoutClosing rows = []
    · exact .inl ⟨⟨directed, empty⟩, by rw [empty]; rfl⟩
    · have lines := List.Subset.trans (withoutClosing_subset rows) inside
      exact .inr ⟨List.cons_ne_nil _ _, fun h => empty h.2, readBody_readFrom empty lines _ _⟩
  · have found : directive.toList.isPrefixOf first = false :=
      Bool.eq_false_iff.2 fun h => directed (List.isPrefixOf_iff_prefix.1 h)
    have lines : first :: rows ⊆ header :: (first :: rows ++ [last]) :=
      List.cons_subset.2 ⟨by simp, inside⟩
    simp only [found]
    exact .inr ⟨List.cons_ne_nil _ _, fun h => directed h.1,
      readBody_readFrom (List.cons_ne_nil _ _) lines _ _⟩

/-- A document, or none, is refused just if it has no body, and read as blank just if it
has no lines; of every other document its lines are read.  No line is read into a group
that has no list. -/
theorem parse_settled (document : Option String) (vars : Option (List (Key × Value))) :
    let lines := trimmedLines (document.getD "")
    let outcome := parse document (vars.elim .null .record)
    (outcome = .error .emptyDocument ↔ IsBodiless lines) ∧
      (outcome = .ok (.blank (.record (vars.getD []))) ↔ lines = []) ∧
      (IsBodiless lines ∨ lines = [] ∨ ∃ p, outcome = .ok p ∧ p.ReadFrom lines) ∧
      ∀ rows, readSelectionStrict rows = .ok (readSelection rows) := by
  intro lines outcome
  have same : outcome = parse document (.record (vars.getD [])) := by
    cases vars <;> rfl
  rw [same]
  rcases parse_cases document (vars.getD []) with ⟨blank, read⟩ | ⟨bodiless, refused⟩ |
    ⟨hne, body, p, read, readFrom⟩
  · have notBodiless : ¬ IsBodiless lines := fun h => by
      rw [show lines = [] from blank] at h
      cases h
    rw [read]
    exact ⟨iff_of_false nofun notBodiless, iff_of_true rfl blank, .inr (.inl blank),
      readSelectionStrict_eq⟩
  · have ne_nil : lines ≠ [] := fun h => by
      rw [show trimmedLines _ = [] from h] at bodiless
      cases bodiless
    rw [refused]
    exact ⟨iff_of_true rfl bodiless, iff_of_false nofun ne_nil, .inl bodiless,
      readSelectionStrict_eq⟩
  · -- What is read has a type, and so it is not what is read of a blank document.
    have notBlank : p ≠ .blank (.record (vars.getD [])) := by
      rintro rfl
      obtain ⟨_, _, _, -, type, -⟩ := readFrom.type
      cases type
    rw [read]
    exact ⟨iff_of_false nofun body, iff_of_false (fun h => notBlank (Except.ok.inj h)) hne,
      .inr (.inr ⟨p, rfl, readFrom⟩), readSelectionStrict_eq⟩

end Storefront.Document
