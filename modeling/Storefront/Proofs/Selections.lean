import Storefront.Proofs.Paging

/-! # Selections of any depth

A selection is a tree, but its reader keeps only one group open and takes every closing brace for
the end of that group.  So it finds more than the names at the root of a tree: the names of groups
at any depth, and the fields behind a group that is nested, where no group seems to be open.

* `foundIn` : the names that are found in a tree
* `readSelection_rowsOf` : they are the names that are read
* `mem_foundIn` : where a name that is found may stand
* `Written.readsNames` : what is found in a document, and in which shape groups are listed -/

namespace Storefront
namespace Document

open Text

namespace Selection

/-- The line of a selection, without its brace. -/
def name : Selection → String
  | field text => text
  | nested _ text _ => text

/-- It has no selection of its own. -/
def isField : Selection → Bool
  | field _ => true
  | nested .. => false

end Selection

mutual

/-- The lines of a selection, without their indentation. -/
def Selection.rows : Selection → List String
  | .field text => [text]
  | .nested _ text children => (text ++ opening) :: rowsOf children ++ [closing]

/-- The lines of a list of selections. -/
def rowsOf : List Selection → List String
  | [] => []
  | s :: rest => s.rows ++ rowsOf rest

end

mutual

/-- The names that are found in a selection; a plain field is not one of them if a group is open. -/
def Selection.found (isOpen : Bool) : Selection → List String
  | .field text => if isOpen then [] else [text]
  | .nested _ text children => text :: foundIn true children

/-- The names that are found in a list of selections: the first group in it closes what was open. -/
def foundIn (isOpen : Bool) : List Selection → List String
  | [] => []
  | s :: rest => s.found isOpen ++ foundIn (isOpen && s.isField) rest

end

mutual

/-- The lists of selections that are nested in a selection, at any depth. -/
def Selection.inner : Selection → List (List Selection)
  | .field _ => []
  | .nested _ _ children => children :: innerOf children

/-- The lists of selections that are nested in one of a list. -/
def innerOf : List Selection → List (List Selection)
  | [] => []
  | s :: rest => s.inner ++ innerOf rest

end

mutual

/-- The names in a selection can be written on lines. -/
def Selection.IsWritable : Selection → Prop
  | .field text => IsPlain text
  | .nested _ text children => IsLine text.toList ∧ AreWritable children

/-- The names in a list of selections can be written on lines. -/
def AreWritable : List Selection → Prop
  | [] => True
  | s :: rest => s.IsWritable ∧ AreWritable rest

end

/-! ### Reading -/

/-- Names that are distinct stay as they are. -/
theorem eraseDups_of_nodup {names : List String} (h : names.Nodup) : names.eraseDups = names := by
  induction names with
  | nil => rfl
  | cons name names ih =>
    obtain ⟨fresh, distinct⟩ := List.nodup_cons.1 h
    have others : names.filter (fun other => !other == name) = names := by
      refine List.filter_eq_self.2 fun other mem => ?_
      simpa using fun same : other = name => fresh (same ▸ mem)
    rw [List.eraseDups_cons, others, ih distinct]

/-- A name that is put goes last among the distinct names, unless it is one of them. -/
theorem keys_put {α : Type} {m : List (String × α)} {names : List String}
    (h : Assoc.keys m = names.eraseDups) (name : String) (a : α) :
    Assoc.keys (Assoc.put m name a) = (names ++ [name]).eraseDups := by
  have known : Assoc.has m name = true ↔ name ∈ names := by
    rw [Assoc.has_iff, h, List.any_beq', List.contains_iff_mem, List.mem_eraseDups]
  rw [List.eraseDups_append]
  by_cases mem : name ∈ names
  · rw [Assoc.keys_put_of_has (known.2 mem), h]
    simp [List.removeAll, mem]
  · rw [Assoc.keys_put_of_not_has (by simpa using mt known.1 mem), h]
    simp [List.removeAll, mem, List.eraseDups_cons]

/-- A reader that has found names; where a group is open, it is one of these. -/
structure Selecting.Found (s : Selecting) (names : List String) (isOpen : Bool) : Prop where
  keys : Assoc.keys s.fields = names.eraseDups
  isOpen_eq : isOpen = s.current.isSome
  current : ∀ name ∈ s.current, name ∈ names

namespace Selecting

variable {s : Selecting} {names : List String} {isOpen : Bool}

/-- Nothing is found at the start, and no group is open. -/
theorem found_start : Found ⟨[], none⟩ [] false := ⟨rfl, rfl, nofun⟩

/-- A line that closes closes whatever is open. -/
theorem Found.closing (h : Found s names isOpen) :
    Found (s.step closing.toList) names false := by
  have step : s.step Document.closing.toList = ⟨s.fields, none⟩ := step_closing
  rw [step]
  exact ⟨h.keys, rfl, nofun⟩

/-- A line that opens a group finds its name. -/
theorem Found.opening {name : String} (h : Found s names isOpen) (line : IsLine name.toList) :
    Found (s.step (name ++ opening).toList) (names ++ [name]) true := by
  have step : s.step (name ++ Document.opening).toList =
      ⟨Assoc.put s.fields name (some []), some name⟩ := step_opened line
  rw [step]
  refine ⟨keys_put h.keys name _, rfl, ?_⟩
  rintro _ ⟨⟩
  exact List.mem_append_right _ (.head _)

/-- A plain line is found as a field, unless a group is open, which then takes it. -/
theorem Found.field {text : String} (h : Found s names isOpen) (plain : IsPlain text) :
    Found (s.step text.toList) (names ++ if isOpen then [] else [text]) isOpen := by
  have notClosing : text.toList ≠ ['\x7d'] := fun e => plain.not_closing (String.toList_inj.1 e)
  obtain ⟨fields, current⟩ := s
  obtain ⟨keys, rfl, known⟩ := h
  rw [step, if_neg plain.not_opening, if_neg notClosing, String.ofList_toList]
  cases current with
  | none => exact ⟨keys_put keys text _, rfl, by rintro _ ⟨⟩⟩
  | some name =>
    -- The line is put under the name of the open group, which was found before.
    have put := keys_put keys name (some (((Assoc.get? fields name).getD none).getD [] ++ [text]))
    have same : (names ++ [name]).eraseDups = names.eraseDups := by
      simp [List.eraseDups_append, List.removeAll, known name rfl]
    refine ⟨?_, rfl, ?_⟩
    · rw [same] at put
      rw [if_pos (by rfl), List.append_nil]
      -- The lines inside are read while the group is open, and its last line closes it.
      exact put
    · rw [if_pos (by rfl), List.append_nil]
      exact known

end Selecting

mutual

/-- A reader that was given the lines of a selection has found its names, and a group that was open
is still open unless the selection is a group. -/
theorem Selection.reads {s : Selecting} {names : List String} {isOpen : Bool} :
    (c : Selection) → c.IsWritable → s.Found names isOpen →
      ((c.rows.map String.toList).foldl Selecting.step s).Found (names ++ c.found isOpen)
        (isOpen && c.isField)
  -- a bare field: one row, and the state it leaves is the one before with the name
  | .field text, writable, h => by
    rw [Selection.isField, Bool.and_true]
    exact h.field writable
  -- a field with children: its opening row, the rows of the children, its closing row
  | .nested _ text children, writable, h => by
    have inside := readsIn children writable.2 (h.opening writable.1)
    rw [Selection.rows, List.cons_append, List.map_cons, List.foldl_cons, List.map_append,
      List.foldl_append, Selection.found, List.append_cons]
    rw [Selection.isField, Bool.and_false]
    exact inside.closing

/-- The same for a list of selections. -/
theorem readsIn {s : Selecting} {names : List String} {isOpen : Bool} :
    (children : List Selection) → AreWritable children → s.Found names isOpen →
      ((rowsOf children).map String.toList |>.foldl Selecting.step s).Found
        (names ++ foundIn isOpen children) (isOpen && children.all Selection.isField)
  | [], _, h => by
    simpa [rowsOf, foundIn] using h
  | c :: rest, writable, h => by
    have first := c.reads writable.1 h
    have later := readsIn rest writable.2 first
    rw [rowsOf, List.map_append, List.foldl_append, foundIn, ← List.append_assoc, List.all_cons,
      ← Bool.and_assoc]
    exact later

end

/-- The names that are read in the lines of a tree are those that are found in it, each once. -/
theorem readSelection_rowsOf {children : List Selection} (writable : AreWritable children) :
    Assoc.keys (readSelection ((rowsOf children).map String.toList)) =
      (foundIn false children).eraseDups :=
  (readsIn children writable Selecting.found_start).keys

/-! ### What is found -/

/-- The selections from the first group on. -/
def fromGroup (children : List Selection) : List Selection :=
  children.dropWhile Selection.isField

/-- A group in a list ends the run of fields that an open group would take. -/
theorem foundIn_nested (isOpen : Bool) (k : Nat) (text : String) (children rest : List Selection) :
    foundIn isOpen (.nested k text children :: rest) =
      text :: (foundIn true children ++ foundIn false rest) := by
  rw [foundIn, Selection.isField, Bool.and_false]
  rfl

/-- A group starts at itself. -/
theorem fromGroup_nested (k : Nat) (text : String) (children rest : List Selection) :
    fromGroup (.nested k text children :: rest) = .nested k text children :: rest := rfl

/-- Nested in a list are the children of a group, and what is nested in them. -/
theorem innerOf_nested (k : Nat) (text : String) (children rest : List Selection) :
    innerOf (.nested k text children :: rest) =
      children :: (innerOf children ++ innerOf rest) := rfl

/-- A name is found at the root, or behind the first group in a list that is nested; where a group
is open, the fields before the first group at the root are not found. -/
theorem mem_foundIn {name : String} {isOpen : Bool} : (children : List Selection) →
    (name ∈ foundIn isOpen children ↔
      name ∈ (if isOpen then fromGroup children else children).map Selection.name ∨
        ∃ inner ∈ innerOf children, name ∈ (fromGroup inner).map Selection.name)
  -- The two scanners' states differ in whether a group is open, so each case is split on it.
  | [] => by
    cases isOpen <;> simp [foundIn, innerOf, fromGroup]
  | .field text :: rest => by
    have later : name ∈ foundIn isOpen rest ↔ _ := mem_foundIn rest
    cases isOpen with
    | true => exact later
    | false =>
      have found : foundIn false (.field text :: rest) = text :: foundIn false rest := rfl
      rw [found, List.mem_cons, later, if_neg Bool.false_ne_true, if_neg Bool.false_ne_true,
        List.map_cons, List.mem_cons, or_assoc]
      rfl
  -- The names inside a group are found with it open; those after it with it closed, whatever it was
  -- before.
  | .nested k text children :: rest => by
    rw [foundIn_nested, List.mem_cons, List.mem_append, mem_foundIn children, mem_foundIn rest,
      fromGroup_nested, ite_self, innerOf_nested]
    simp only [Selection.name, List.map_cons, List.mem_cons, List.mem_append, or_and_right,
      exists_or, exists_eq_left, if_true, if_false, Bool.false_eq_true]
    simp only [or_assoc, or_left_comm]

/-- In a tree of two levels, nothing but the names at the root is found. -/
theorem foundIn_flat {isOpen : Bool} : (children : List Selection) →
    (∀ inner ∈ innerOf children, fromGroup inner = []) →
      foundIn isOpen children = (if isOpen then fromGroup children else children).map Selection.name
  -- When no inner selection has a group of its own, what follows the first group of each level is
  -- all there is.
  | [], _ => by
    cases isOpen <;> rfl
  | .field text :: rest, flat => by
    have later : foundIn isOpen rest = _ := foundIn_flat rest flat
    cases isOpen with
    | true => exact later
    | false =>
      have found : foundIn false (.field text :: rest) = text :: foundIn false rest := rfl
      rw [found, later]
      rfl
  | .nested k text children :: rest, flat => by
    rw [innerOf_nested, List.forall_mem_cons, List.forall_mem_append] at flat
    obtain ⟨none, flatChildren, flatRest⟩ := flat
    -- inside this group there is no group, so nothing more is found there
    have nothing : foundIn true children = [] := by
      rw [foundIn_flat children flatChildren, if_pos rfl, none]
      rfl
    rw [foundIn_nested, nothing, foundIn_flat rest flatRest, fromGroup_nested, ite_self]
    rfl

/-! ### Documents -/

/-- A document whose root field has a selection.  The last line closes the operation, or what the
directive opened; the line before it closes the root field. -/
inductive Written (document : String) (children : List Selection) : Prop
  | plain {header root : List Char} (other : directive.toList.isPrefixOf root = false)
      (lines : trimmedLines document = header :: (root :: ((rowsOf children).map String.toList ++
        [closing.toList]) ++ [closing.toList]))
  | directed {header line root : List Char} (directive : directive.toList.isPrefixOf line = true)
      (lines : trimmedLines document = header :: (line :: (root ::
        (rowsOf children).map String.toList ++ [closing.toList]) ++ [closing.toList]))

/-- Under a record of variables, every directive can be read. -/
theorem exists_readContext (line : List Char) (vars : List (Key × Value)) :
    ∃ context, readContext line (.record vars) = .ok context := by
  have all : ∀ (entries : List (String × String)) (context : List (String × Value)), ∃ context',
      entries.foldlM (fun context (p : String × String) =>
        return Assoc.put context p.1 (← (Value.record vars).member p.2)) context =
        (.ok context' : Except Fault _) := by
    intro entries
    induction entries with
    | nil => exact fun context => ⟨context, rfl⟩
    | cons p entries ih => exact fun context => ih _
  exact all _ []

/-- A document is read with the names that are found in its selection, each once. -/
theorem Written.parse {document : String} {children : List Selection}
    (h : Written document children) (writable : AreWritable children) {vars : Value}
    {fields : List (Key × Value)} (hvars : vars.orElse (.record []) = .record fields) :
    ∃ p, Document.parse (some document) vars = .ok p ∧
      p.fieldNames = (foundIn false children).eraseDups := by
  -- The names of the selection are the same with the directive and without it.
  have names := readSelection_rowsOf writable
  cases h with
  -- the header is followed by the root field
  | @plain header root other lines =>
    simp only [Document.parse, Option.getD_some, lines, List.dropLast_concat, hvars, other]
    refine ⟨_, rfl, ?_⟩
    rw [← names, Parsed.fieldNames]
    dsimp only
    rw [readSelection_withoutClosing, readSelection_closing]
  -- the directive stands between them, and the closing brace of the root's group ends the body
  | @directed header line root directive lines =>
    obtain ⟨context, read⟩ := exists_readContext line fields
    have body : withoutClosing (root :: (rowsOf children).map String.toList ++ [closing.toList]) =
        root :: (rowsOf children).map String.toList := by
      rw [withoutClosing, List.getLast?_concat]
      exact (if_pos rfl).trans List.dropLast_concat
    simp only [Document.parse, Option.getD_some, lines, List.dropLast_concat, hvars, directive,
      read, body]
    refine ⟨_, rfl, ?_⟩
    rw [← names, Parsed.fieldNames]
    dsimp only
    rw [readSelection_withoutClosing]

/-! ### How a selection is written -/

mutual

/-- The lines of a selection, without their indentation. -/
theorem Selection.trimmedLines_lines : (c : Selection) → (column : Nat) → c.IsWritable →
    trimmedLines (unlines (c.lines column)) = c.rows.map String.toList
  | .field text, column, writable => by
    rw [Selection.lines, trimmedLines_unlines_cons, trimmedLines_indented writable.toIsLine]
    rfl
  | .nested k text children, column, writable => by
    have none : trimmedLines (unlines []) = [] := by decide
    rw [Selection.lines, List.cons_append, trimmedLines_unlines_cons, trimmedLines_unlines_append,
      trimmedLines_indented (isLine_opening writable.1), trimmedLines_unlines_cons,
      trimmedLines_indented isLine_closing, trimmedLines_linesOf children _ writable.2, none]
    simp [Selection.rows]

/-- The same for a list of selections. -/
theorem trimmedLines_linesOf : (children : List Selection) → (column : Nat) →
    AreWritable children →
      trimmedLines (unlines (linesOf column children)) = (rowsOf children).map String.toList
  | [], _, _ => rfl
  | c :: rest, column, writable => by
    rw [linesOf, trimmedLines_unlines_append, c.trimmedLines_lines column writable.1,
      trimmedLines_linesOf rest column writable.2, rowsOf, List.map_append]

end

/-- Every operation is written so. -/
theorem written_operation {header root : String} {children : List Selection}
    (headerLine : IsLine header.toList) (rootLine : IsLine root.toList)
    (other : directive.toList.isPrefixOf (root ++ opening).toList = false)
    (writable : AreWritable children) :
    Written (operation header (group root children)) children := by
  -- The selection's lines do not depend on how deep the group is indented once they are trimmed.
  have body : linesOf 2 [group root children] = (group root children).lines 2 := List.append_nil _
  have lines : trimmedLines (operation header (group root children)) = (header ++ opening).toList ::
      ((root ++ opening).toList :: ((rowsOf children).map String.toList ++ [closing.toList]) ++
        [closing.toList]) := by
    rw [operation, trimmedLines_newline, trimmedLines_group (isLine_opening headerLine), body,
      trimmedLines_group (isLine_opening rootLine), trimmedLines_linesOf children _ writable]
    rfl
  exact .plain other lines

/-- So is every operation with a directive. -/
theorem written_directed {header line root : String} {children : List Selection}
    (headerLine : IsLine header.toList) (directiveLine : IsLine line.toList)
    (isDirective : directive.toList.isPrefixOf (line ++ opening).toList = true)
    (rootLine : IsLine root.toList) (writable : AreWritable children) :
    Written (directed header line (group root children)) children := by
  -- The header is a line of its own, and so is the last brace.
  have first : trimmedLines header = [header.toList] := by
    simpa [indented] using trimmedLines_indented headerLine 0
  have last : trimmedLines (unlines [closing]) = [closing.toList] := by decide
  have lines : trimmedLines (directed header line (group root children)) = header.toList ::
      ((line ++ opening).toList :: ((root ++ opening).toList ::
        (rowsOf children).map String.toList ++ [closing.toList]) ++ [closing.toList]) := by
    rw [directed, trimmedLines_newline, List.cons_append, List.cons_append,
      trimmedLines_unlines_cons, trimmedLines_unlines_cons, trimmedLines_unlines_append, first,
      trimmedLines_indented (isLine_opening directiveLine),
      trimmedLines_group (isLine_opening rootLine), trimmedLines_linesOf children _ writable, last]
    rfl
  exact .directed isDirective lines

end Document

/-! ### Listing groups -/

namespace Answer

open Shop

/-- The page that is asked for. -/
def pageAsked (vars : Value) : Act Shop (List Value) := do
  let offset ← ((← vars.member "offset").orElse (.int 0)).wholeNumber
  groups (.int offset) (← vars.member "first")

/-- A page as it is answered, with edges or without. -/
def listed (edged : Bool) (page : List Value) : Act Shop Value := do
  if edged then
    let cursor ← supplied (Supply.draw 1111111 22222222)
    return .ofFields [("sellingPlanGroups", onEdges cursor page)]
  else return .ofFields [("sellingPlanGroups", .list page)]

/-- Groups are listed with edges or without, as the document has them. -/
theorem groupsList_listed {document : String} {vars : Value} {p : Document.Parsed}
    (hp : Document.parse (some document) vars = .ok p) (s : Shop) :
    Act.on (groupsList document vars) s =
      Act.on (pageAsked vars >>= listed (p.hasField "edges")) s := by
  rw [groupsList, hp, Act.on_bind_of_ok (Act.on_lift _ s), pageAsked]
  simp only [bind_assoc]
  cases p.hasField "edges" <;> rfl

end Answer

namespace Document

open Text

variable {document : String} {children : List Selection}

/-- Of a document the names at its root are read and, of every group in it, the names from the first
group in that group on.  Groups are listed on edges if edges are found. -/
theorem Written.readsNames (h : Written document children) (writable : AreWritable children)
    {vars : Value} {fields : List (Key × Value)}
    (hvars : vars.orElse (.record []) = .record fields) :
    ∃ p, Document.parse (some document) vars = .ok p ∧
      p.fieldNames = (foundIn false children).eraseDups ∧
      (∀ name, p.hasField name = true ↔ name ∈ children.map Selection.name ∨
        ∃ inner ∈ innerOf children, name ∈ (fromGroup inner).map Selection.name) ∧
      ((∀ inner ∈ innerOf children, fromGroup inner = []) →
        (children.map Selection.name).Nodup → p.fieldNames = children.map Selection.name) ∧
      ∀ s, Act.on (Answer.groupsList document vars) s =
        Act.on (Answer.pageAsked vars >>= Answer.listed (p.hasField "edges")) s := by
  obtain ⟨p, read, names⟩ := h.parse writable hvars
  refine ⟨p, read, names, fun name => ?_, fun flat distinct => ?_, Answer.groupsList_listed read⟩
  · -- A name is found at the root or behind a group that is nested.
    rw [Parsed.hasField, Assoc.has_iff, List.any_beq', List.contains_iff_mem,
      show Assoc.keys p.fields = _ from names, List.mem_eraseDups, mem_foundIn children,
      if_neg Bool.false_ne_true]
  · -- In a document of two levels, nothing but the root is found.
    rw [names, foundIn_flat children flat, if_neg Bool.false_ne_true, eraseDups_of_nodup distinct]

/-- The fields of groups that are listed without edges; only the plans of each stand on edges. -/
def flatSelection : List Selection :=
  [.field "id", group "sellingPlans(first: 10)" [group "edges" [group "node" [.field "id"]]]]

/-- A document that lists groups without edges. -/
def flatDocument : String :=
  operation "query SellingPlanGroupsList($first: Int!)"
    (group "sellingPlanGroups(first: $first)" flatSelection)

/-- The names of the sample can be written on lines. -/
theorem writable_flatSelection : AreWritable flatSelection := by
  have id : IsPlain "id" :=
    ⟨⟨by decide, by decide, by decide⟩, by decide, by decide⟩
  have plans : IsLine "sellingPlans(first: 10)".toList :=
    ⟨by decide +kernel, by decide +kernel, by decide +kernel⟩
  have edges : IsLine "edges".toList := ⟨by decide, by decide, by decide⟩
  have node : IsLine "node".toList := ⟨by decide, by decide, by decide⟩
  exact ⟨id, ⟨plans, ⟨edges, ⟨node, id, trivial⟩, trivial⟩, trivial⟩, trivial⟩

/-- The document of the sample is written with them. -/
theorem written_flatDocument : Written flatDocument flatSelection :=
  written_operation ⟨by decide +kernel, by decide +kernel, by decide +kernel⟩
    ⟨by decide +kernel, by decide +kernel, by decide +kernel⟩ (by decide +kernel)
    writable_flatSelection

/-- A document whose plans stand on edges, though its groups do not. -/
theorem Written.readsNames_sample :
    Written flatDocument flatSelection ∧ AreWritable flatSelection ∧
      (Value.record []).orElse (.record []) = .record [] ∧
      ∃ p, Document.parse (some flatDocument) (.record []) = .ok p ∧
        p.fieldNames = (foundIn false flatSelection).eraseDups ∧
        (∀ name, p.hasField name = true ↔ name ∈ flatSelection.map Selection.name ∨
          ∃ inner ∈ innerOf flatSelection, name ∈ (fromGroup inner).map Selection.name) ∧
        ((∀ inner ∈ innerOf flatSelection, fromGroup inner = []) →
          (flatSelection.map Selection.name).Nodup →
            p.fieldNames = flatSelection.map Selection.name) ∧
        ∀ s, Act.on (Answer.groupsList flatDocument (.record [])) s =
          Act.on (Answer.pageAsked (.record []) >>= Answer.listed (p.hasField "edges")) s :=
  ⟨written_flatDocument, writable_flatSelection, rfl,
    written_flatDocument.readsNames writable_flatSelection rfl⟩

/-- The edges of the plans are taken for edges of the groups. -/
theorem nested_edges_found : Written flatDocument flatSelection ∧
    flatSelection.map Selection.name = ["id", "sellingPlans(first: 10)"] ∧
    ∃ p, Document.parse (some flatDocument) (.record []) = .ok p ∧
      p.fieldNames = ["id", "sellingPlans(first: 10)", "edges", "node"] := by
  have none : (Value.record []).orElse (.record []) = .record [] := rfl
  obtain ⟨p, read, names⟩ := written_flatDocument.parse writable_flatSelection none
  exact ⟨written_flatDocument, rfl, p, read, names⟩

end Document
end Storefront
