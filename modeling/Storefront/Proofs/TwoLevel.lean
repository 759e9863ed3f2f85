import Storefront.Document.Selection
import Storefront.Proofs.Directives

/-! # Documents of two levels

The documents that are read have a header, a root field and a selection of two levels: fields, and
groups with the lines that stand in them.  `TwoLevel` is such a document as data and
`TwoLevel.lines` is how it is written.  The selection and the directive are read back as they were
written.

* `readSelection_lines` : a written selection is read back in the order of the document
* `isDirective_written` : a written directive lists its entries
* `readContext_written` : under the variables they are the values of the directive -/

namespace Storefront.Document

open Text

/-! ### Writing -/

/-- A part of a selection of two levels. -/
inductive Part where
  | field (text : String)
  | group (name : String) (children : List String)

/-- A document of two levels. -/
structure TwoLevel where
  type : String
  name : String
  args : String
  /-- The entries of the directive, names with the variables that they take their values from; a
  document without a directive has none. -/
  entries? : Option (List (String × String))
  root : String
  rootArgs : String
  parts : List Part

namespace Part

/-- What a part is called in the selection that is read. -/
def name : Part → String
  | field text => text
  | group name _ => name

/-- The lines of a part. -/
def lines : Part → List String
  | field text => [text]
  | group name children => (name ++ opening) :: children ++ [closing]

/-- What is to be read of a part. -/
def read : Part → String × Option (List String)
  | field text => (text, none)
  | group name children => (name, some children)

end Part

namespace TwoLevel

/-- The type, the name and the arguments of the operation. -/
def signature (d : TwoLevel) : String := d.type ++ " " ++ d.name ++ "(" ++ d.args ++ ")"

/-- The root field with its arguments. -/
def endpoint (d : TwoLevel) : String := d.root ++ "(" ++ d.rootArgs ++ ")"

/-- The entries of a directive, one after the other. -/
def written (entries : List (String × String)) : String :=
  ", ".intercalate (entries.map fun (key, source) => key ++ ": $" ++ source)

/-- The lines before the root field: the brace that opens the operation stands at the end of the
header or at the end of the directive. -/
def headerLines (d : TwoLevel) : List String :=
  match d.entries? with
  | none => [d.signature ++ opening]
  | some entries => [d.signature, directive ++ "(" ++ written entries ++ ")" ++ opening]

/-- The lines of the selection. -/
def partLines (parts : List Part) : List String := parts.flatMap Part.lines

/-- The lines of a document. The root field and the operation are closed in both styles. -/
def lines (d : TwoLevel) : List String :=
  d.headerLines ++ [d.endpoint ++ opening] ++ partLines d.parts ++ [closing, closing]

/-- The values of the directive under the given variables, null for a variable that is not there. -/
def context (d : TwoLevel) (vars : List (Key × Value)) : List (String × Value) :=
  (d.entries?.getD []).map fun (key, source) => (key, (Assoc.get? vars (.text source)).getD .null)

/-- The values of a directive that is there. -/
theorem context_eq {d : TwoLevel} {entries : List (String × String)} (h : d.entries? = some entries)
    (vars : List (Key × Value)) : d.context vars =
      entries.map fun (key, source) => (key, (Assoc.get? vars (.text source)).getD .null) := by
  rw [context, h]
  rfl

end TwoLevel

/-! ### What can be written -/

/-- A line of a selection that neither opens nor closes a group. -/
structure IsPlain (s : String) : Prop extends IsLine s.toList where
  not_opening : s.toList.getLast? ≠ some '\x7b'
  not_closing : s ≠ closing

/-- A part that can be written on its lines. -/
def Part.WellFormed : Part → Prop
  | .field text => IsPlain text
  | .group name children => IsLine name.toList ∧ ∀ child ∈ children, IsPlain child

/-- A document that can be written on its lines. -/
structure TwoLevel.WellFormed (d : TwoLevel) : Prop where
  type_ne : d.type ≠ ""
  type_lower : ∀ c ∈ d.type.toList, c.isLower = true
  name_ne : d.name ≠ ""
  name_letters : ∀ c ∈ d.name.toList, c.isAlpha = true
  args_unbroken : '\n' ∉ d.args.toList
  entries_simple : ∀ p ∈ d.entries?.getD [], IsSimple p.1 ∧ IsSimple p.2
  entries_distinct : ((d.entries?.getD []).map Prod.fst).Nodup
  root_line : IsLine d.root.toList
  root_marks : '\x7b' ∉ d.root.toList ∧ '(' ∉ d.root.toList
  root_not_directive : ¬ directive.toList <+: d.root.toList
  rootArgs_marks : '\x7b' ∉ d.rootArgs.toList ∧ '\n' ∉ d.rootArgs.toList
  parts_wellFormed : ∀ p ∈ d.parts, p.WellFormed
  parts_distinct : (d.parts.map Part.name).Nodup

/-! ### Reading a selection -/

/-- A key that is the last one has its value overwritten in place. -/
theorem put_last {α : Type} {m : List (String × α)} {key : String} (h : key ∉ m.map Prod.fst)
    (a b : α) : Assoc.put (m ++ [(key, a)]) key b = m ++ [(key, b)] := by
  induction m with
  | nil => simp [Assoc.put]
  | cons p m ih =>
    obtain ⟨k, c⟩ := p
    have hk : (k == key) = false := beq_false_of_ne fun e => h (by simp [e])
    have hm : key ∉ m.map Prod.fst := fun hm => h (.tail _ hm)
    simp [Assoc.put, hk, ih hm]

/-- The key that comes last and is new is found there. -/
theorem get?_last {α : Type} {m : List (String × α)} {key : String} (h : key ∉ m.map Prod.fst)
    (a : α) : Assoc.get? (m ++ [(key, a)]) key = some a := by
  rw [← put_of_fresh h, Assoc.get?_put_self]

namespace Selecting

variable {fields : List (String × Option (List String))} {current : Option String}

/-- A closing brace closes the group. -/
theorem step_closing : step ⟨fields, current⟩ closing.toList = ⟨fields, none⟩ := by
  have last : closing.toList.getLast? ≠ some '\x7b' := by decide
  rw [step, if_neg last]
  exact if_pos rfl

/-- A line that opens a group. -/
theorem step_opened {s : Selecting} {name : String} (h : IsLine name.toList) :
    step s (name ++ opening).toList = ⟨Assoc.put s.fields name (some []), some name⟩ := by
  -- The line ends with a brace, and before it stands the name and a blank.
  have text : (name ++ opening).toList = (name.toList ++ [' ']) ++ ['\x7b'] := by
    rw [String.toList_append, List.append_assoc]
    rfl
  -- The name is a line of its own, so trimming takes the blank only.
  have trimmed : String.ofList (trimChars (name.toList ++ [' '])) = name := by
    have padded : trimChars ([] ++ name.toList ++ [' ']) = name.toList :=
      trimChars_padded (by simp) (by decide) h.trimmed
    rw [List.nil_append] at padded
    rw [padded, String.ofList_toList]
  have ne : name ≠ "" := fun e => h.ne_nil (by rw [e]; rfl)
  rw [text, step, if_pos (List.getLast?_concat ..)]
  simp only [List.dropLast_concat, trimmed, if_neg ne]

/-- A group that is new is recorded last and without children. -/
theorem step_opening {name : String} (h : IsLine name.toList) (hnew : name ∉ fields.map Prod.fst) :
    step ⟨fields, current⟩ (name ++ opening).toList = ⟨fields ++ [(name, some [])], some name⟩ := by
  rw [step_opened h, put_of_fresh hnew]

/-- A field that is new is recorded last. -/
theorem step_field {text : String} (h : IsPlain text) (hnew : text ∉ fields.map Prod.fst) :
    step ⟨fields, none⟩ text.toList = ⟨fields ++ [(text, none)], none⟩ := by
  have notClosing : text.toList ≠ ['\x7d'] := fun e => h.not_closing (String.toList_inj.1 e)
  rw [step, if_neg h.not_opening, if_neg notClosing]
  simp only [String.ofList_toList, put_of_fresh hnew]

/-- A line inside a group is one more child of it. -/
theorem step_child {name text : String} {children : List String} (h : IsPlain text)
    (hnew : name ∉ fields.map Prod.fst) :
    step ⟨fields ++ [(name, some children)], some name⟩ text.toList =
      ⟨fields ++ [(name, some (children ++ [text]))], some name⟩ := by
  have notClosing : text.toList ≠ ['\x7d'] := fun e => h.not_closing (String.toList_inj.1 e)
  rw [step, if_neg h.not_opening, if_neg notClosing]
  simp only [String.ofList_toList, get?_last hnew, put_last hnew, Option.getD_some]

/-- The lines of an open group are collected under its name. -/
theorem foldl_children {name : String} {children : List String}
    (h : ∀ child ∈ children, IsPlain child) (hnew : name ∉ fields.map Prod.fst)
    (before : List String) :
    (children.map String.toList).foldl step ⟨fields ++ [(name, some before)], some name⟩ =
      ⟨fields ++ [(name, some (before ++ children))], some name⟩ := by
  induction children generalizing before with
  | nil => rw [List.append_nil]; rfl
  | cons child children ih =>
    obtain ⟨hchild, hrest⟩ := List.forall_mem_cons.1 h
    rw [List.map_cons, List.foldl_cons, step_child hchild hnew, ih hrest, List.append_assoc]
    rfl

/-- The lines of a part put what is to be read of it at the end and leave no group open. -/
theorem foldl_part {p : Part} (h : p.WellFormed) (hnew : p.name ∉ fields.map Prod.fst) :
    (p.lines.map String.toList).foldl step ⟨fields, none⟩ = ⟨fields ++ [p.read], none⟩ := by
  cases p with
  | field text => exact step_field h hnew
  | group name children =>
    obtain ⟨hname, hchildren⟩ := h
    change name ∉ _ at hnew
    rw [Part.lines, List.cons_append, List.map_cons, List.foldl_cons, step_opening hname hnew,
      List.map_append, List.foldl_append, foldl_children hchildren hnew, List.nil_append]
    exact step_closing

/-- The same for the lines of a whole selection. -/
theorem foldl_parts {parts : List Part} (h : ∀ p ∈ parts, p.WellFormed)
    (hnew : (fields.map Prod.fst ++ parts.map Part.name).Nodup) :
    ((TwoLevel.partLines parts).map String.toList).foldl step ⟨fields, none⟩ =
      ⟨fields ++ parts.map Part.read, none⟩ := by
  -- Each part is new to the fields read before it, so it is recorded after them.
  induction parts generalizing fields with
  | nil => simp [TwoLevel.partLines]
  | cons p parts ih =>
    obtain ⟨hp, hrest⟩ := List.forall_mem_cons.1 h
    have read_name : p.read.1 = p.name := by cases p <;> rfl
    have fresh : p.name ∉ fields.map Prod.fst := by
      intro hm
      exact (List.nodup_append.1 hnew).2.2 _ hm _ (.head _) rfl
    have later : ((fields ++ [p.read]).map Prod.fst ++ parts.map Part.name).Nodup := by
      rw [List.map_append, List.map_singleton, read_name, List.append_assoc]
      exact hnew
    rw [TwoLevel.partLines, List.flatMap_cons, List.map_append, List.foldl_append,
      foldl_part hp fresh]
    exact (ih hrest later).trans (by rw [List.append_assoc]; rfl)

end Selecting

/-- A written selection is read back in the order of the document. -/
theorem readSelection_lines {parts : List Part} (h : ∀ p ∈ parts, p.WellFormed)
    (hdistinct : (parts.map Part.name).Nodup) :
    readSelection ((TwoLevel.partLines parts).map String.toList) = parts.map Part.read := by
  rw [readSelection, Selecting.foldl_parts h (by simpa using hdistinct)]
  rfl

/-- A closing brace at the end of a selection only closes what is open. -/
theorem readSelection_closing (lines : List (List Char)) :
    readSelection (lines ++ [closing.toList]) = readSelection lines := by
  rw [readSelection, List.foldl_append, List.foldl_cons, Selecting.step_closing]
  rfl

/-- So it makes no difference that the brace of a last group is taken for the brace of the root. -/
theorem readSelection_withoutClosing (lines : List (List Char)) :
    readSelection (withoutClosing lines) = readSelection lines := by
  rw [withoutClosing]
  split
  · rename_i last
    obtain ⟨init, rfl⟩ := List.getLast?_eq_some_iff.1 last
    rw [List.dropLast_concat]
    exact (readSelection_closing init).symm
  · rfl

/-! ### Reading a directive -/

/-- Every character of written entries stands in a name or belongs to their marks. -/
theorem forall_written {P : Char → Prop} (hmarks : ∀ c ∈ [',', ' ', ':', '$'], P c)
    {entries : List (String × String)}
    (h : ∀ p ∈ entries, (∀ c ∈ p.1.toList, P c) ∧ ∀ c ∈ p.2.toList, P c) :
    ∀ c ∈ (TwoLevel.written entries).toList, P c := by
  -- An entry consists of its key, its source and the marks between them.
  have one : ∀ p : String × String, (∀ c ∈ p.1.toList, P c) ∧ (∀ c ∈ p.2.toList, P c) →
      ∀ c ∈ (p.1 ++ ": $" ++ p.2).toList, P c := by
    rintro p ⟨hkey, hsource⟩ c hc
    simp only [String.toList_append, List.mem_append] at hc
    rcases hc with (hc | hc) | hc
    · exact hkey c hc
    · exact hmarks c ((by decide : ∀ c ∈ ": $".toList, c ∈ [',', ' ', ':', '$']) c hc)
    · exact hsource c hc
  -- The entries are joined by a comma and a blank, so the induction looks at two at a time.
  induction entries with
  | nil => exact fun c hc => absurd hc List.not_mem_nil
  | cons p entries ih =>
    obtain ⟨hp, hrest⟩ := List.forall_mem_cons.1 h
    cases entries with
    | nil => simpa [TwoLevel.written] using one p hp
    | cons q entries =>
      intro c hc
      rw [TwoLevel.written, List.map_cons, List.map_cons, String.intercalate_cons_cons,
        String.toList_append, String.toList_append, List.mem_append, List.mem_append] at hc
      rcases hc with (hc | hc) | hc
      · exact one p hp c hc
      · exact hmarks c ((by decide : ∀ c ∈ ", ".toList, c ∈ [',', ' ', ':', '$']) c hc)
      · exact ih hrest c hc

/-- An entry as it is written spells its key and a reference to its source. -/
theorem spells_written {key source : String} (hkey : IsSimple key) (hsource : IsSimple source)
    {pad : List Char} (hpad : ∀ c ∈ pad, isBlank c = true) :
    Spells (pad ++ (key ++ ": $" ++ source).toList) (key, .reference source) := by
  have text : pad ++ (key ++ ": $" ++ source).toList =
      (pad ++ key.toList ++ []) ++ ':' :: ([' '] ++ (Source.reference source).text ++ []) := by
    simp [Source.text]
  rw [text]
  exact .entry hpad (List.forall_mem_nil _) (by decide) (List.forall_mem_nil _) hkey hsource trivial

/-- Written entries are spelled one after the other, all but the first with a blank before it. -/
theorem spelled_written {p : String × String} {entries : List (String × String)}
    (h : ∀ q ∈ p :: entries, IsSimple q.1 ∧ IsSimple q.2) {pad : List Char}
    (hpad : ∀ c ∈ pad, isBlank c = true) : ∃ pieces,
      List.Forall₂ Spells pieces
          ((p :: entries).map fun (key, source) => (key, .reference source)) ∧
        pad ++ (TwoLevel.written (p :: entries)).toList = List.intercalate [','] pieces := by
  -- The blank after each comma belongs to the next entry, so it is carried as that entry's padding.
  induction entries generalizing p pad with
  | nil =>
    obtain ⟨hkey, hsource⟩ := h p (.head _)
    refine ⟨_, .cons (spells_written hkey hsource hpad) .nil, ?_⟩
    simp [TwoLevel.written]
  | cons q entries ih =>
    obtain ⟨⟨hkey, hsource⟩, hrest⟩ := List.forall_mem_cons.1 h
    have blank : ∀ c ∈ [' '], isBlank c = true := by decide
    obtain ⟨pieces, spelled, written⟩ := ih hrest blank
    refine ⟨_, .cons (spells_written hkey hsource hpad) spelled, ?_⟩
    obtain ⟨piece, pieces, rfl⟩ : ∃ piece rest, pieces = piece :: rest := by
      cases spelled
      exact ⟨_, _, rfl⟩
    rw [List.intercalate_cons_cons, ← written, TwoLevel.written, List.map_cons, List.map_cons,
      String.intercalate_cons_cons, String.toList_append, String.toList_append]
    simp [TwoLevel.written]

/-- A written directive lists its entries. -/
theorem isDirective_written {entries : List (String × String)}
    (h : ∀ p ∈ entries, IsSimple p.1 ∧ IsSimple p.2) :
    IsDirective (directive ++ "(" ++ TwoLevel.written entries ++ ")" ++ opening).toList
      (entries.map fun (key, source) => (key, .reference source)) := by
  -- Without any entry there is no piece at all.
  have lists : ∃ pieces,
      List.Forall₂ Spells pieces (entries.map fun (key, source) => (key, .reference source)) ∧
        (TwoLevel.written entries).toList = List.intercalate [','] pieces := by
    cases entries with
    | nil => exact ⟨[], .nil, rfl⟩
    | cons p entries => exact spelled_written h (List.forall_mem_nil _)
  obtain ⟨pieces, spelled, written⟩ := lists
  have text : (directive ++ "(" ++ TwoLevel.written entries ++ ")" ++ opening).toList =
      (directive ++ "(").toList ++ List.intercalate [','] pieces ++ ')' :: opening.toList := by
    rw [← written]
    simp
  rw [text]
  exact .line spelled (by decide)

/-- The values of a written directive. -/
theorem readContext_written {entries : List (String × String)}
    (h : ∀ p ∈ entries, IsSimple p.1 ∧ IsSimple p.2) (hdistinct : (entries.map Prod.fst).Nodup)
    (vars : List (Key × Value)) :
    readContext (directive ++ "(" ++ TwoLevel.written entries ++ ")" ++ opening).toList
        (.record vars) =
      .ok (entries.map fun (key, source) =>
        (key, (Assoc.get? vars (.text source)).getD .null)) := by
  have keys : ((entries.map fun (key, source) => (key, Source.reference source)).map Prod.fst) =
      entries.map Prod.fst := by
    simp
  rw [(isDirective_written h).readContext (keys ▸ hdistinct) vars, List.map_map]
  rfl

end Storefront.Document
