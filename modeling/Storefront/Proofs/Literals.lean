import Storefront.Proofs.Serving

/-! # Words in a directive

A directive may give a key a variable or a word.  Both are looked up in the variables, so a word
stands for itself only if it happens to be the name of a variable that holds it; otherwise its key
has the value of that variable, or null if there is none.  A document whose country is a word is
dispatched as if the word had the mark of a variable, and a cart that it reads stays in its market
where there is no such variable.

* `HasDirective.parse_eq` : a document with a directive
* `HasDirective.values_lookedUp` : the values of its entries, and when they are what is written
* `literal_country_lost` : a country that is lost -/

namespace Storefront.Document

open Text

/-- A document with a directive on its second line; the selection follows it. -/
structure HasDirective (document : String) (header : List Char) (entries : List (String × Source))
    (rest : List (List Char)) : Prop where
  lines : ∃ line, trimmedLines document = header :: line :: rest ∧ IsDirective line entries
  distinct : (entries.map Prod.fst).Nodup

/-- The values that are looked up for the entries of a directive. -/
def lookedUp (vars : List (Key × Value)) (entries : List (String × Source)) :
    List (String × Value) :=
  entries.map fun (key, source) => (key, source.lookedUp vars)

/-- The values that are written in the entries of a directive. -/
def asWritten (vars : List (Key × Value)) (entries : List (String × Source)) :
    List (String × Value) :=
  entries.map fun (key, source) => (key, source.asWritten vars)

/-- A reference is looked up as it is written, a word only if a variable of its name holds it. -/
theorem Source.lookedUp_eq_asWritten_iff (source : Source) (vars : List (Key × Value)) :
    source.lookedUp vars = source.asWritten vars ↔
      ∀ word, source = .literal word → Assoc.get? vars (.text word) = some (.text word) := by
  cases source with
  | reference name => exact ⟨fun _ => nofun, fun _ => rfl⟩
  | literal word =>
    -- A literal that is not among the variables is null, which it never is as it is written.
    have found : (Assoc.get? vars (.text word)).getD .null = .text word ↔
        Assoc.get? vars (.text word) = some (.text word) := by
      cases Assoc.get? vars (.text word) with
      | none => exact ⟨nofun, nofun⟩
      | some v => exact ⟨congrArg some, Option.some.inj⟩
    constructor
    · rintro same _ ⟨⟩
      exact found.1 same
    · exact fun h => found.2 (h word rfl)

/-- Looking values up gives them as written exactly when every literal is its own value. -/
theorem lookedUp_eq_asWritten_iff (vars : List (Key × Value)) (entries : List (String × Source)) :
    lookedUp vars entries = asWritten vars entries ↔
      ∀ key word, (key, .literal word) ∈ entries →
        Assoc.get? vars (.text word) = some (.text word) := by
  rw [lookedUp, asWritten, List.map_inj_left]
  constructor
  · intro same key word mem
    have value := (Prod.mk.inj (same _ mem)).2
    exact (Source.lookedUp_eq_asWritten_iff _ vars).1 value word rfl
  · rintro held ⟨key, source⟩ mem
    refine congrArg (Prod.mk key) ((source.lookedUp_eq_asWritten_iff vars).2 ?_)
    rintro word rfl
    exact held key word mem

/-- The value that is found under the key of an entry. -/
theorem get?_lookedUp {vars : List (Key × Value)} {entries : List (String × Source)}
    (distinct : (entries.map Prod.fst).Nodup) {key : String} {source : Source}
    (h : (key, source) ∈ entries) :
    Assoc.get? (lookedUp vars entries) key = some (source.lookedUp vars) := by
  induction entries with
  | nil => cases h
  | cons entry entries ih =>
    obtain ⟨fresh, later⟩ := List.nodup_cons.1 distinct
    rw [lookedUp, List.map_cons, Assoc.get?_cons]
    -- the entry itself, or one after it whose key is another
    rcases List.mem_cons.1 h with rfl | h
    · exact if_pos (beq_self_eq_true key)
    · have ne : ¬ (entry.1 == key) = true := by
        intro same
        exact fresh (eq_of_beq same ▸ List.mem_map_of_mem h)
      exact (if_neg ne).trans (ih later h)

/-- A line with the directive begins with its name. -/
theorem IsDirective.isPrefix {line : List Char} {entries : List (String × Source)}
    (h : IsDirective line entries) : directive.toList.isPrefixOf line = true := by
  cases h
  rw [List.isPrefixOf_iff_prefix, String.toList_append, List.append_assoc, List.append_assoc]
  exact List.prefix_append _ _

namespace HasDirective

variable {document document' : String} {header : List Char}
  {entries entries' : List (String × Source)} {rest : List (List Char)} {vars : Value}
  {fields : List (Key × Value)}

/-- A document with a directive is read with the values that are looked up. -/
theorem parse_eq (h : HasDirective document header entries rest)
    (hvars : vars.orElse (.record []) = .record fields) :
    parse (some document) vars = readBody (String.ofList (header.takeWhile Char.isLower))
      (lookedUp fields entries) (.record fields) (withoutClosing rest.dropLast) := by
  obtain ⟨⟨line, lines, directive⟩, distinct⟩ := h
  simp only [parse, Option.getD_some, lines, hvars]
  cases rest with
  | nil => rfl
  | cons root more =>
    rw [List.dropLast_cons_cons]
    simp only [directive.isPrefix, directive.readContext distinct]
    rfl

/-- Documents that give the same keys the same values are read as the same. -/
theorem parse_congr (h : HasDirective document header entries rest)
    (h' : HasDirective document' header entries' rest)
    (hvars : vars.orElse (.record []) = .record fields)
    (same : lookedUp fields entries' = lookedUp fields entries) :
    parse (some document') vars = parse (some document) vars := by
  rw [h.parse_eq hvars, h'.parse_eq hvars, same]

/-- In a directive, a word is looked up as if it were the name of a variable: the values that are
read are the values that are written just if every word is held by the variable of its name.  A
document is dispatched as any other that gives the keys of its directive the same values. -/
theorem values_lookedUp (h : HasDirective document header entries rest)
    (hvars : vars.orElse (.record []) = .record fields) :
    (withoutClosing rest.dropLast = [] ∧ parse (some document) vars = .error .emptyDocument ∨
      ∃ p, parse (some document) vars = .ok p ∧ p.context = lookedUp fields entries ∧
        (p.context = asWritten fields entries ↔ ∀ key word, (key, .literal word) ∈ entries →
          Assoc.get? fields (.text word) = some (.text word)) ∧
        ∀ source, ("country", source) ∈ entries →
          Answer.countryOf p = source.lookedUp fields) ∧
    ∀ document' entries', HasDirective document' header entries' rest →
      signature? (some document') = signature? (some document) →
      lookedUp fields entries' = lookedUp fields entries → ∀ factory,
        (Router.standard factory).dispatch (some document') vars =
          (Router.standard factory).dispatch (some document) vars := by
  refine ⟨?_, fun document' entries' h' signature same factory => ?_⟩
  · -- what the document is read as, and what the values are
    have read := h.parse_eq hvars
    cases body : withoutClosing rest.dropLast with
    | nil =>
      rw [body] at read
      exact .inl ⟨rfl, read⟩
    | cons root more =>
      rw [body] at read
      refine .inr ⟨_, read, rfl, lookedUp_eq_asWritten_iff fields entries, fun source mem => ?_⟩
      rw [Answer.countryOf, Parsed.contextValue]
      dsimp only
      rw [get?_lookedUp h.distinct mem]
      rfl
  · -- another document with the same values: nothing else of it is read
    have again : (vars.orElse (.record [])).orElse (.record []) = .record fields := by
      rw [hvars, Value.orElse_record]
    exact Router.dispatch_congr factory signature (h.parse_congr h' again same)

end HasDirective

/-- A document that reads a cart in the market of a country that is a word. -/
def literalDocument : String :=
  directed "query cart($cartId: ID!)" "@inContext(country: FR)"
    (group "cart(id: $cartId)" [.field "id"])

/-- The document of the sample has a literal for its country. -/
theorem hasDirective_literalDocument :
    HasDirective literalDocument "query cart($cartId: ID!)".toList [("country", .literal "FR")]
      ["cart(id: $cartId) \x7b".toList, "id".toList, closing.toList, closing.toList] where
  lines := by
    have simple : IsSimple "country" ∧ IsSimple (Source.literal "FR").name := by
      unfold IsSimple
      -- Whether the words are simple is decided character by character.
      decide
    have plain : (Source.literal "FR").IsPlain := by
      show "FR".toList.head? ≠ some '$'
      decide
    have spelled : Spells ("country: FR".toList) ("country", .literal "FR") :=
      Spells.entry (a := []) (b := []) (c := [' ']) (d := [])
        (by decide) (by decide) (by decide) (by decide) simple.1 simple.2 plain
    have after : ∀ x ∈ [' ', '\x7b'], isBlank x = true ∨ x = '\x7b' := by decide
    have line : IsDirective "@inContext(country: FR) \x7b".toList [("country", .literal "FR")] :=
      .line (.cons spelled .nil) after
    exact ⟨_, by decide +kernel, line⟩
  distinct := by decide

/-- A word is the name of a variable that holds another word. -/
theorem HasDirective.values_lookedUp_sample :
    let vars : List (Key × Value) := [(.text "cartId", "gid://shopify/Cart/1"), (.text "FR", "IE")]
    let header := "query cart($cartId: ID!)".toList
    let entries := [("country", Source.literal "FR")]
    let rest := ["cart(id: $cartId) \x7b".toList, "id".toList, closing.toList, closing.toList]
    HasDirective literalDocument header entries rest ∧
      (Value.record vars).orElse (.record []) = .record vars ∧
      ((withoutClosing rest.dropLast = [] ∧
          parse (some literalDocument) (.record vars) = .error .emptyDocument ∨
        ∃ p, parse (some literalDocument) (.record vars) = .ok p ∧
          p.context = lookedUp vars entries ∧
          (p.context = asWritten vars entries ↔ ∀ key word, (key, .literal word) ∈ entries →
            Assoc.get? vars (.text word) = some (.text word)) ∧
          ∀ source, ("country", source) ∈ entries →
            Answer.countryOf p = source.lookedUp vars) ∧
      ∀ document' entries', HasDirective document' header entries' rest →
        signature? (some document') = signature? (some literalDocument) →
        lookedUp vars entries' = lookedUp vars entries → ∀ factory,
          (Router.standard factory).dispatch (some document') (.record vars) =
            (Router.standard factory).dispatch (some literalDocument) (.record vars)) := by
  intro vars header entries rest
  have same : (Value.record vars).orElse (.record []) = .record vars := rfl
  exact ⟨hasDirective_literalDocument, same, hasDirective_literalDocument.values_lookedUp same⟩

/-- The country is a word, and null is read for it. -/
theorem literal_country_lost :
    let vars : List (Key × Value) := [(.text "cartId", "gid://shopify/Cart/1")]
    asWritten vars [("country", .literal "FR")] = [("country", Value.text "FR")] ∧
      ∃ p, parse (some literalDocument) (.record vars) = .ok p ∧ p.context = [("country", .null)] ∧
        Answer.countryOf p = .null := by
  intro vars
  have same : (Value.record vars).orElse (.record []) = .record vars := rfl
  exact ⟨rfl, _, hasDirective_literalDocument.parse_eq same, rfl, rfl⟩

end Storefront.Document
