import Storefront.Document.Catalogue
import Storefront.Operation
import Storefront.Proofs.ReadBack

/-! # The documents of the services

What is read in a document depends on its lines alone, so blanks around a document change nothing.
A document that the services send is read as the operation that it is meant for, and the line of its
root field names the field that the answer is under, whatever its selection is and whatever the
variables hold.

* `parse_trim`, `signature?_trim` : blanks around a document
* `parse_operation`, `parse_directed` : reading the start of a document
* `Operation.document_isFor` : what is read in the documents of the services -/

namespace Storefront

namespace Text

variable {mark : Char} {cs : List Char}

/-- Only the last piece goes on if a text without a mark follows. -/
theorem splitAt_append_of_not_mem {rest : List Char} (h : mark ∉ rest) :
    ∃ pieces last, splitAt mark cs = pieces ++ [last] ∧
      splitAt mark (cs ++ rest) = pieces ++ [last ++ rest] := by
  -- A mark starts a new piece wherever it stands, so only the piece that is open at the end can
  -- grow.
  induction cs with
  | nil => exact ⟨[], [], rfl, splitAt_of_not_mem h⟩
  | cons c cs ih =>
    obtain ⟨pieces, last, hcs, hrest⟩ := ih
    rw [List.cons_append, splitAt, splitAt, hcs, hrest]
    split
    · exact ⟨[] :: pieces, last, rfl, rfl⟩
    · cases pieces with
      | nil => exact ⟨[], c :: last, rfl, rfl⟩
      | cons piece pieces => exact ⟨(c :: piece) :: pieces, last, rfl, rfl⟩

/-- A blank before a text is trimmed away. -/
theorem trimChars_cons_blank {c : Char} (h : isBlank c = true) (cs : List Char) :
    trimChars (c :: cs) = trimChars cs := by
  have start : trimStart (c :: cs) = trimStart cs := List.dropWhile_cons_of_pos h
  rw [trimChars, start, trimChars]

/-- A blank after a text is trimmed away. -/
theorem trimChars_concat_blank {c : Char} (h : isBlank c = true) (cs : List Char) :
    trimChars (cs ++ [c]) = trimChars cs := by
  -- What comes before the blank is nothing but blanks, or it has a last character to stop at.
  by_cases hcs : trimStart cs = []
  · have blank : ∀ d ∈ cs, isBlank d = true := List.dropWhile_eq_nil_iff.1 hcs
    rw [trimChars_eq_nil blank, trimChars_eq_nil]
    exact List.forall_mem_append.2 ⟨blank, List.forall_mem_singleton.2 h⟩
  · have last : trimStart (c :: (trimStart cs).reverse) = trimStart (trimStart cs).reverse :=
      List.dropWhile_cons_of_pos h
    rw [trimChars, trimStart_append_of_ne_nil hcs, List.reverse_concat, last, trimChars]

/-- Trimming takes away nothing but blanks. -/
theorem exists_eq_trimChars (cs : List Char) : ∃ before after,
    (∀ c ∈ before, isBlank c = true) ∧ (∀ c ∈ after, isBlank c = true) ∧
      cs = before ++ trimChars cs ++ after := by
  have whole : ∀ ds : List Char, ds.takeWhile isBlank ++ trimStart ds = ds := fun ds =>
    List.takeWhile_append_dropWhile
  refine ⟨cs.takeWhile isBlank, ((trimStart cs).reverse.takeWhile isBlank).reverse, ?_, ?_, ?_⟩
  · exact fun c hc => List.mem_takeWhile_imp hc
  · exact fun c hc => List.mem_takeWhile_imp (List.mem_reverse.1 hc)
  · have inner : trimChars cs ++ ((trimStart cs).reverse.takeWhile isBlank).reverse =
        trimStart cs := by
      rw [trimChars, ← List.reverse_append, whole, List.reverse_reverse]
    rw [List.append_assoc, inner, whole]

/-- What does not depend on the blanks at the ends of a text does not depend on trimming. -/
theorem eq_trimChars {β : Type} {f : List Char → β}
    (hfirst : ∀ c cs, isBlank c = true → f (c :: cs) = f cs)
    (hlast : ∀ c cs, isBlank c = true → f (cs ++ [c]) = f cs) (cs : List Char) :
    f (trimChars cs) = f cs := by
  -- Blanks are taken away one by one, first those before the text, then those after it.
  have start : ∀ before ds : List Char, (∀ c ∈ before, isBlank c = true) →
      f (before ++ ds) = f ds := by
    intro before ds h
    induction before with
    | nil => rfl
    | cons c before ih =>
      obtain ⟨hc, h⟩ := List.forall_mem_cons.1 h
      rw [List.cons_append, hfirst c _ hc, ih h]
  have rest : ∀ after ds : List Char, (∀ c ∈ after, isBlank c = true) →
      f (ds ++ after) = f ds := by
    intro after ds h
    induction after generalizing ds with
    | nil => rw [List.append_nil]
    | cons c after ih =>
      obtain ⟨hc, h⟩ := List.forall_mem_cons.1 h
      rw [List.append_cons, ih _ h, hlast c ds hc]
  obtain ⟨before, after, hbefore, hafter, hcs⟩ := exists_eq_trimChars cs
  calc f (trimChars cs) = f (trimChars cs ++ after) := (rest after _ hafter).symm
    _ = f (before ++ (trimChars cs ++ after)) := (start before _ hbefore).symm
    _ = f cs := by rw [← List.append_assoc, ← hcs]

/-- Trimming twice is trimming once. -/
theorem trimChars_trimChars (cs : List Char) : trimChars (trimChars cs) = trimChars cs :=
  eq_trimChars (fun _ cs h => trimChars_cons_blank h cs) (fun _ cs h => trimChars_concat_blank h cs)
    cs

end Text

namespace Document

open Text

/-! ### Blanks around a document -/

/-- A blank before a document is no line. -/
theorem trimmedLines_cons_blank {c : Char} (h : isBlank c = true) (cs : List Char) :
    trimmedLines (String.ofList (c :: cs)) = trimmedLines (String.ofList cs) := by
  simp only [trimmedLines, String.toList_ofList]
  -- The blank is a line break, and the piece before it is empty; or it stands in the first piece.
  obtain ⟨piece, pieces, hcs⟩ := List.exists_cons_of_ne_nil (splitAt_ne_nil '\n' cs)
  rw [splitAt, hcs]
  split
  · rfl
  · rw [List.map_cons, List.map_cons, trimChars_cons_blank h]

/-- A blank after a document is no line. -/
theorem trimmedLines_concat_blank {c : Char} (h : isBlank c = true) (cs : List Char) :
    trimmedLines (String.ofList (cs ++ [c])) = trimmedLines (String.ofList cs) := by
  simp only [trimmedLines, String.toList_ofList]
  -- A line break closes the last piece, and the piece after it is empty; any other blank belongs to
  -- the last piece.
  by_cases hc : c = '\n'
  · rw [hc, splitAt_append_mark, List.map_append, List.filter_append]
    exact List.append_nil _
  · have unbroken : '\n' ∉ [c] := fun hm => hc (List.mem_singleton.1 hm).symm
    obtain ⟨pieces, last, hcs, hrest⟩ : ∃ pieces last, splitAt '\n' cs = pieces ++ [last] ∧
        splitAt '\n' (cs ++ [c]) = pieces ++ [last ++ [c]] := splitAt_append_of_not_mem unbroken
    rw [hcs, hrest, List.map_append, List.map_append, List.map_singleton, List.map_singleton,
      trimChars_concat_blank h]

/-- Blanks around a document are no lines. -/
theorem trimmedLines_trim (document : String) :
    trimmedLines (trim document) = trimmedLines document := by
  have := eq_trimChars (f := fun cs => trimmedLines (String.ofList cs))
    (fun _ cs h => trimmedLines_cons_blank h cs) (fun _ cs h => trimmedLines_concat_blank h cs)
    document.toList
  rwa [String.ofList_toList] at this

/-- A document is read as it is without the blanks around it. -/
theorem parse_trim (document : String) (vars : Value) :
    parse (some (trim document)) vars = parse (some document) vars := by
  simp only [parse, Option.getD_some, trimmedLines_trim]

/-- The signature of a document is that without the blanks around it. -/
theorem signature?_trim (document : String) :
    signature? (some (trim document)) = signature? (some document) := by
  simp only [signature?, Option.getD_some, trim, String.toList_ofList, trimChars_trimChars]

/-! ### The start of a document -/

/-- The lines of two texts on lines of their own are those of both. -/
theorem trimmedLines_append (s t : String) :
    trimmedLines (s ++ "\n" ++ t) = trimmedLines s ++ trimmedLines t := by
  have text : (s ++ "\n" ++ t).toList = s.toList ++ '\n' :: t.toList := by simp
  simp only [trimmedLines, text, splitAt_append_mark, List.map_append, List.filter_append]

/-- The empty line that a document starts with does not count. -/
theorem trimmedLines_newline (t : String) : trimmedLines ("\n" ++ t) = trimmedLines t := by
  have none : trimmedLines "" = [] := by decide
  have := trimmedLines_append "" t
  rwa [String.empty_append, none, List.nil_append] at this

/-- Lines are read one after the other. -/
theorem trimmedLines_unlines_cons (line : String) (lines : List String) :
    trimmedLines (unlines (line :: lines)) = trimmedLines line ++ trimmedLines (unlines lines) :=
  trimmedLines_append line (unlines lines)

/-- Of two lists of lines, the first are read before the second. -/
theorem trimmedLines_unlines_append (before after : List String) :
    trimmedLines (unlines (before ++ after)) =
      trimmedLines (unlines before) ++ trimmedLines (unlines after) := by
  induction before with
  | nil => rfl
  | cons line before ih =>
    rw [List.cons_append, trimmedLines_unlines_cons, ih, trimmedLines_unlines_cons,
      List.append_assoc]

/-- Indentation does not count. -/
theorem trimmedLines_indented {line : String} (h : IsLine line.toList) (column : Nat) :
    trimmedLines (indented column line) = [line.toList] := by
  -- Padding is blank and breaks no line.
  have pad : ∀ c ∈ List.replicate column ' ', isBlank c = true ∧ c ≠ '\n' := by
    intro c hc
    obtain rfl := List.eq_of_mem_replicate hc
    decide
  have text : (indented column line).toList = List.replicate column ' ' ++ line.toList := by
    simp [indented]
  have unbroken : '\n' ∉ List.replicate column ' ' ++ line.toList := by
    rw [List.mem_append, not_or]
    exact ⟨fun hm => (pad _ hm).2 rfl, h.unbroken⟩
  have trimmed : trimChars (List.replicate column ' ' ++ line.toList ++ []) = line.toList :=
    trimChars_padded (fun c hc => (pad c hc).1) (fun _ hc => absurd hc List.not_mem_nil) h.trimmed
  rw [List.append_nil] at trimmed
  rw [trimmedLines, text, splitAt_of_not_mem unbroken, List.map_singleton, trimmed,
    List.filter_cons_of_pos (by simpa using h.ne_nil), List.filter_nil]

/-- A closing bracket is a line. -/
theorem isLine_closing : IsLine closing.toList := ⟨by decide, by decide, by decide⟩

/-- What was found in a selection stays found. -/
theorem Selecting.has_step {name : String} {s : Selecting} (h : Assoc.has s.fields name = true)
    (line : List Char) : Assoc.has (s.step line).fields name = true := by
  -- No step takes a name away again.
  have put : ∀ (other : String) (a : Option (List String)),
      Assoc.has (Assoc.put s.fields other a) name = true := fun other a => by
    rw [Assoc.has_put, h, Bool.true_or]
  rw [step]
  split
  · exact put _ _
  split
  · exact h
  dsimp only
  split
  · exact put _ _
  · exact put _ _

/-- The first group of a selection is found. -/
theorem has_readSelection {name : String} (h : IsLine name.toList) (lines : List (List Char)) :
    Assoc.has (readSelection ((name ++ opening).toList :: lines)) name = true := by
  have kept : ∀ (lines : List (List Char)) (s : Selecting), Assoc.has s.fields name = true →
      Assoc.has (lines.foldl Selecting.step s).fields name = true := by
    intro lines
    induction lines with
    | nil => exact fun _ hs => hs
    | cons line lines ih => exact fun s hs => ih _ (Selecting.has_step hs line)
  rw [readSelection, List.foldl_cons, Selecting.step_opening h List.not_mem_nil]
  exact kept lines _ (by simp [Assoc.has, Assoc.get?])

/-- The line that opens a selection, the lines in it and the line that closes it. -/
theorem trimmedLines_group {text : String} (h : IsLine (text ++ opening).toList) (column : Nat)
    (children : List Selection) :
    trimmedLines (unlines ((group text children).lines column)) =
      (text ++ opening).toList :: trimmedLines (unlines (linesOf (column + 2) children)) ++
        [closing.toList] := by
  rw [group, Selection.lines, List.cons_append, trimmedLines_unlines_cons,
    trimmedLines_unlines_append, trimmedLines_indented h, trimmedLines_unlines_cons,
    trimmedLines_indented isLine_closing]
  rfl

variable {d : TwoLevel} (h : d.WellFormed)

include h

/-- The first lines of an operation, the lines of its selection, and the lines that close it. -/
theorem TwoLevel.WellFormed.trimmedLines_operation (children : List Selection) :
    trimmedLines (operation d.signature (group d.endpoint children)) =
      (d.signature ++ opening).toList :: ((d.endpoint ++ opening).toList ::
        (trimmedLines (unlines (linesOf 4 children)) ++ [closing.toList]) ++ [closing.toList]) := by
  have body : linesOf 2 [group d.endpoint children] = (group d.endpoint children).lines 2 :=
    List.append_nil _
  rw [operation, trimmedLines_newline, trimmedLines_group h.signature_line.2, body,
    trimmedLines_group h.endpoint_line.2]
  rfl

/-- The same if there is a directive, whose selection is closed by the line before the last. -/
theorem TwoLevel.WellFormed.trimmedLines_directed {entries : List (String × String)}
    (he : d.entries? = some entries) (children : List Selection) :
    ∃ more, trimmedLines (directed d.signature (directive ++ "(" ++ written entries ++ ")")
        (group d.endpoint children)) =
      d.signature.toList :: ((directive ++ "(" ++ written entries ++ ")" ++ opening).toList ::
        ((d.endpoint ++ opening).toList :: more ++ [closing.toList]) ++ [closing.toList]) := by
  refine ⟨trimmedLines (unlines (linesOf 6 children)), ?_⟩
  -- The header and the directive are lines of their own, and the rest is the group of the root
  -- field.
  have first : trimmedLines d.signature = [d.signature.toList] := by
    simpa [indented] using trimmedLines_indented h.signature_line.1 0
  have last : trimmedLines (unlines [closing]) = [closing.toList] := by decide
  rw [directed, trimmedLines_newline, List.cons_append, List.cons_append,
    trimmedLines_unlines_cons, trimmedLines_unlines_cons, trimmedLines_unlines_append, first,
    trimmedLines_indented (h.directive_line he), trimmedLines_group h.endpoint_line.2, last]
  rfl

/-- What is read in a body whose first line is that of the root field. -/
theorem TwoLevel.WellFormed.exists_readBody (context : List (String × Value)) (vars : Value)
    (more : List (List Char)) :
    ∃ p, readBody d.type context vars ((d.endpoint ++ opening).toList :: more) = .ok p ∧
      p.rootField = some d.root ∧ p.context = context ∧ p.fields = readSelection more := by
  refine ⟨_, rfl, h.rootField_eq ?_, rfl, readSelection_withoutClosing more⟩
  exact congrArg some (by rw [h.withoutOpening_root, String.ofList_toList])

/-- A document without a directive is read as its root field, with nothing in context. -/
theorem TwoLevel.WellFormed.parse_operation (children : List Selection) (vars : Value) :
    ∃ p, parse (some (operation d.signature (group d.endpoint children))) vars = .ok p ∧
      p.rootField = some d.root ∧ p.context = [] ∧
      p.fields = readSelection (trimmedLines (unlines (linesOf 4 children))) := by
  have lines := h.trimmedLines_operation children
  -- The second line is that of the root field, which is no directive.
  have root : directive.toList.isPrefixOf (d.endpoint ++ opening).toList = false := by
    have := h.root_not_prefix (d.rootArgs.toList ++ ')' :: opening.toList)
    rw [← this]
    simp [TwoLevel.endpoint]
  have type : String.ofList ((d.signature ++ opening).toList.takeWhile Char.isLower) = d.type := by
    rw [String.toList_append, h.takeWhile_header]
  simp only [parse, Option.getD_some, lines, type, List.dropLast_concat, root]
  rw [← readSelection_closing]
  exact h.exists_readBody [] _ _

/-- A document with a directive is read as its root field, with the entries of the directive in
context. -/
theorem TwoLevel.WellFormed.parse_directed {entries : List (String × String)}
    (he : d.entries? = some entries) (children : List Selection) {vars : Value}
    {fields : List (Key × Value)} (hvars : vars.orElse (.record []) = .record fields) :
    ∃ p, parse (some (directed d.signature (directive ++ "(" ++ written entries ++ ")")
        (group d.endpoint children))) vars = .ok p ∧
      p.rootField = some d.root ∧ p.context = d.context fields := by
  obtain ⟨more, lines⟩ := h.trimmedLines_directed he children
  have simple : ∀ p ∈ entries, IsSimple p.1 ∧ IsSimple p.2 := by
    simpa [he] using h.entries_simple
  have distinct : (entries.map Prod.fst).Nodup := by simpa [he] using h.entries_distinct
  -- The second line is the directive, and the body starts after it.
  have found : directive.toList.isPrefixOf
      (directive ++ "(" ++ written entries ++ ")" ++ opening).toList = true := by
    rw [List.isPrefixOf_iff_prefix]
    simp
  have type := h.takeWhile_header []
  rw [List.append_nil] at type
  -- The last line closes the directive's selection and is not part of the body.
  have body : withoutClosing ((d.endpoint ++ opening).toList :: more ++ [closing.toList]) =
      (d.endpoint ++ opening).toList :: more := by
    rw [withoutClosing, List.getLast?_concat]
    exact (if_pos rfl).trans List.dropLast_concat
  simp only [parse, Option.getD_some, hvars, lines, type, List.dropLast_concat, found, body,
    readContext_written simple distinct, TwoLevel.context_eq he]
  obtain ⟨p, hp, hroot, hcontext, -⟩ := h.exists_readBody _ _ more
  exact ⟨p, hp, hroot, hcontext⟩

/-- The signature is read in the header, in either style. -/
theorem TwoLevel.WellFormed.signature?_operation (root : Selection) :
    signature? (some (operation d.signature root)) = some (d.type ++ " " ++ d.name) := by
  have starts : (operation d.signature root).toList = ['\n'] ++ (d.signature.toList ++
      (opening.toList ++ '\n' ::
        (unlines (linesOf 2 [root] ++ [indented 0 closing])).toList)) := by
    simp [operation, group, Selection.lines, unlines, indented]
  exact h.signature?_of_starts (by decide) starts

/-- A directive on the line after it changes nothing in the header. -/
theorem TwoLevel.WellFormed.signature?_directed (line : String) (root : Selection) :
    signature? (some (directed d.signature line root)) = some (d.type ++ " " ++ d.name) := by
  have starts : (directed d.signature line root).toList = ['\n'] ++ (d.signature.toList ++ '\n' ::
      (unlines (indented 2 (line ++ opening) :: root.lines 4 ++ [closing])).toList) := by
    simp [directed, unlines]
  exact h.signature?_of_starts (by decide) starts

end Document

/-! ### The documents that are sent -/

namespace Operation

open Document (TwoLevel)

/-- The document that the services send for an operation; `allocation` is what the document for a
whole cart is completed with. -/
def document (allocation : String) : Operation → String
  | .cartGet => Document.cartGet allocation
  | .cartCreate => Document.cartCreate
  | .cartBuyerIdentityUpdate => Document.cartBuyerIdentityUpdate
  | .cartLinesAdd => Document.cartLinesAdd
  | .cartLinesUpdate => Document.cartLinesUpdate
  | .cartLinesRemove => Document.cartLinesRemove
  | .cartNoteUpdate => Document.cartNoteUpdate
  | .cartAttributesUpdate => Document.cartAttributesUpdate
  | .cartDiscountCodesUpdate => Document.cartDiscountCodesUpdate
  | .groupGet => Document.sellingPlanGroupGet
  | .groupsList => Document.sellingPlanGroupsList
  | .groupCreate => Document.sellingPlanGroupCreate
  | .groupAddProducts => Document.sellingPlanGroupAddProducts
  | .groupAddProductVariants => Document.sellingPlanGroupAddProductVariants
  | .groupDelete => Document.sellingPlanGroupDelete

/-- The field that the services read in the answer to an operation. -/
def field : Operation → String
  | .cartGet => "cart"
  | .groupGet => "sellingPlanGroup"
  | .groupsList => "sellingPlanGroups"
  | o => o.root

/-- No answer to an operation is taken for a report of errors. -/
theorem field_ne (o : Operation) : o.field ≠ "errors" ∧ o.field ≠ "userErrors" := by
  cases o <;> exact ⟨by decide +kernel, by decide +kernel⟩

/-- The arguments in the header of an operation's document, and those of its root field. -/
def arguments : Operation → String × String
  | .cartGet => ("$cartId: ID!, $countryCode: CountryCode!", " id: $cartId ")
  | .cartCreate => ("$input: CartInput", "input: $input")
  | .cartBuyerIdentityUpdate => ("$cartId: ID!, $buyerIdentity: CartBuyerIdentityInput!",
      "cartId: $cartId, buyerIdentity: $buyerIdentity")
  | .cartLinesAdd => ("$lines: [CartLineInput!]!, $cartId: ID!", " lines: $lines, cartId: $cartId ")
  | .cartLinesUpdate => ("$cartId: ID!, $lines: [CartLineUpdateInput!]!",
      "cartId: $cartId, lines: $lines")
  | .cartLinesRemove => ("$cartId: ID!, $lineIds: [ID!]!", "cartId: $cartId, lineIds: $lineIds")
  | .cartNoteUpdate => ("$cartId: ID!, $note: String", "cartId: $cartId, note: $note")
  | .cartAttributesUpdate => ("$attributes: [AttributeInput!]!, $cartId: ID!",
      "attributes: $attributes, cartId: $cartId")
  | .cartDiscountCodesUpdate => ("$cartId: ID!, $discountCodes: [String!]!",
      "discountCodes: $discountCodes, cartId: $cartId")
  | .groupGet => ("$sellingPlanGroupId: ID!", "id: $sellingPlanGroupId")
  | .groupsList => ("$first: Int!, $offset: Int", "first: $first")
  | .groupCreate => ("$input: SellingPlanGroupInput!", "input: $input")
  | .groupAddProducts => ("$id: ID!, $productIds: [ID!]!", "id: $id, productIds: $productIds")
  | .groupAddProductVariants => ("$id: ID!, $productVariantIds: [ID!]!",
      "id: $id, productVariantIds: $productVariantIds")
  | .groupDelete => ("$id: ID!", "id: $id")

/-- What the document of an operation is without its selection. -/
def head (o : Operation) : TwoLevel where
  type := if o.isMutation then "mutation" else "query"
  name := o.root
  args := o.arguments.1
  entries? := if o = .cartGet then some [("country", "countryCode")] else none
  root := o.field
  rootArgs := o.arguments.2
  parts := []

/-- The heads of all documents are well formed, by looking at each. -/
theorem head_wellFormed (o : Operation) : o.head.WellFormed := by
  -- Each condition is about the texts of one operation, and is decided for every one of them.
  constructor
  case type_ne => cases o <;> decide +kernel
  case type_lower => cases o <;> decide +kernel
  case name_ne => cases o <;> decide +kernel
  case name_letters => cases o <;> decide +kernel
  case args_unbroken => cases o <;> decide +kernel
  case entries_simple =>
    unfold Document.IsSimple
    cases o <;> decide +kernel
  case entries_distinct => cases o <;> decide +kernel
  case root_line => cases o <;> exact ⟨by decide +kernel, by decide +kernel, by decide +kernel⟩
  case root_marks => cases o <;> decide +kernel
  case root_not_directive => cases o <;> decide +kernel
  case rootArgs_marks => cases o <;> decide +kernel
  case parts_wellFormed => exact fun _ hp => absurd hp List.not_mem_nil
  case parts_distinct => exact List.nodup_nil

/-- The type and the name in a header are the signature of its operation. -/
theorem head_signature (o : Operation) : o.head.type ++ " " ++ o.head.name = o.signature := by
  cases o <;> decide

/-- A document is for an operation: it has the signature of the operation, and whatever the
variables hold, the line of its root field names the field of the operation.  Mutations name
no country. -/
structure IsFor (o : Operation) (document : String) : Prop where
  signature : Document.signature? (some document) = some o.signature
  parse : ∀ {vars : Value} {fields : List (Key × Value)},
    vars.orElse (.record []) = .record fields → ∃ p, Document.parse (some document) vars = .ok p ∧
      p.rootField = some o.field ∧ (o.isMutation = true → p.context = [])

/-- A document for an operation is not empty: it has a signature. -/
theorem IsFor.ne_empty {o : Operation} {document : String} (h : o.IsFor document) :
    document ≠ "" := by
  rintro rfl
  have none : Document.signature? (some "") = none := by decide +kernel
  cases none.symm.trans h.signature

/-- Blanks around a document do not count. -/
theorem IsFor.trim {o : Operation} {document : String} (h : o.IsFor document) :
    o.IsFor (Text.trim document) where
  signature := (Document.signature?_trim document).trans h.signature
  parse hvars := by
    rw [Document.parse_trim]
    exact h.parse hvars

/-- What is written without a directive, with the header and root field of an operation, is for it.
-/
theorem isFor_operation (o : Operation) {header root : String} (hheader : header = o.head.signature)
    (hroot : root = o.head.endpoint) (children : List Document.Selection) :
    o.IsFor (Document.operation header (Document.group root children)) := by
  subst hheader hroot
  have h := o.head_wellFormed
  refine ⟨(h.signature?_operation _).trans (congrArg some o.head_signature), fun _ => ?_⟩
  obtain ⟨p, hp, hroot, hcontext, -⟩ := h.parse_operation children _
  exact ⟨p, hp, hroot, fun _ => hcontext⟩

/-- The first group of a document's selection is found in it. -/
theorem hasField_operation (o : Operation) {header root name : String}
    (hheader : header = o.head.signature) (hroot : root = o.head.endpoint)
    (hname : Text.IsLine name.toList) (hline : Text.IsLine (name ++ Document.opening).toList)
    (inner children : List Document.Selection) {vars : Value} {p : Document.Parsed}
    (hp : Document.parse (some (Document.operation header
      (Document.group root (Document.group name inner :: children)))) vars = .ok p) :
    p.hasField name = true := by
  subst hheader hroot
  -- The document is read to the fields of the root's group, of which this one is the first.
  obtain ⟨p', hp', -, -, fields⟩ :=
    o.head_wellFormed.parse_operation (Document.group name inner :: children) vars
  obtain rfl := Except.ok.inj (hp.symm.trans hp')
  rw [Document.Parsed.hasField, fields, Document.linesOf, Document.trimmedLines_unlines_append,
    Document.trimmedLines_group hline]
  exact Document.has_readSelection hname _

/-- What is read of a document with a directive. -/
theorem parse_directed (o : Operation) {header line root : String}
    (hheader : header = o.head.signature) {entries : List (String × String)}
    (he : o.head.entries? = some entries)
    (hline : line = Document.directive ++ "(" ++ TwoLevel.written entries ++ ")")
    (hroot : root = o.head.endpoint) (children : List Document.Selection) {vars : Value}
    {fields : List (Key × Value)} (hvars : vars.orElse (.record []) = .record fields) :
    ∃ p, Document.parse (some (Document.directed header line (Document.group root children))) vars =
      .ok p ∧ p.rootField = some o.field ∧ p.context = o.head.context fields := by
  subst hheader hline hroot
  exact o.head_wellFormed.parse_directed he children hvars

/-- What is written with a directive is for the operation too; such an operation is a query. -/
theorem isFor_directed (o : Operation) {header line root : String}
    (hheader : header = o.head.signature) {entries : List (String × String)}
    (he : o.head.entries? = some entries)
    (hline : line = Document.directive ++ "(" ++ TwoLevel.written entries ++ ")")
    (hroot : root = o.head.endpoint) (hquery : o.isMutation = false)
    (children : List Document.Selection) :
    o.IsFor (Document.directed header line (Document.group root children)) := by
  refine ⟨?_, fun hvars => ?_⟩
  · subst hheader
    exact (o.head_wellFormed.signature?_directed _ _).trans (congrArg some o.head_signature)
  · obtain ⟨p, hp, hfield, -⟩ := o.parse_directed hheader he hline hroot children hvars
    exact ⟨p, hp, hfield, fun hm => absurd (hm.symm.trans hquery) nofun⟩

/-- What the services send for an operation is for that operation. -/
theorem isFor_document (o : Operation) (allocation : String) :
    o.IsFor (o.document allocation) := by
  -- Only the document that reads a cart has a directive.
  cases o with
  | cartGet =>
    exact isFor_directed _ (by decide +kernel) rfl (by decide +kernel) (by decide +kernel) rfl _
  | _ => exact isFor_operation _ (by decide +kernel) (by decide +kernel) _

/-- The document that reads a cart names the country of the variables. -/
theorem parse_cartGet (allocation : String) {vars : Value} {fields : List (Key × Value)}
    (hvars : vars.orElse (.record []) = .record fields) :
    ∃ p, Document.parse (some (Document.cartGet allocation)) vars = .ok p ∧
      p.rootField = some cartGet.field ∧
      p.context = [("country", (Assoc.get? fields (.text "countryCode")).getD .null)] :=
  cartGet.parse_directed (by decide +kernel) rfl (by decide +kernel) (by decide +kernel) _ hvars

end Operation
end Storefront
