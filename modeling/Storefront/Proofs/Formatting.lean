import Storefront.Proofs.Attributes
import Storefront.Proofs.LineAttributes

/-! # Formatting attributes

Attributes may be given as a mapping, as a list of rows that hold a key and a value, or as a list of
bare values.  Formatting makes one attribute of each entry and keeps their order; it fails only for
an entry that is a record without a key or a value.  Rows stand for the attributes that they hold
wherever they are in a list, so that attributes in rows are formatted already, and a list of rows is
formatted piece by piece.

A line takes formatted attributes as they are, as long as their keys are texts; the place of a bare
value is a number, and a line with such a key is refused.

* `Attribute.StandsFor` : the attribute that an entry stands for
* `Attribute.mapM_ofEntry` : what comes of a list of entries
* `Attribute.format_rows` : rows are formatted already
* `Checked.items_error` : the defects of an item are among those of the list
* `LineInput.coerce_ok_iff` : a line with formatted attributes
* `CartCall.sendsLines_formatted` : lines with formatted attributes that are added and updated
* `Attribute.format_projects` : formatting, and where formatted attributes go -/

namespace Storefront

namespace Attribute

/-! ### Entries -/

/-- A record that is no attribute. -/
def Malformed (v : Value) : Prop :=
  v.isRecord = true ∧ (v.get? "key" = none ∨ v.get? "value" = none)

/-- The attribute that an entry stands for: the one that a row holds, or a bare value under the key
of the entry. -/
inductive StandsFor : Key × Value → Attribute → Prop
  | row {key : Key} {v : Value} {a : Attribute} (h : a.IsRow v) : StandsFor (key, v) a
  | bare {key : Key} {v : Value} (h : v.isRecord = false) : StandsFor (key, v) ⟨key.toValue, v⟩

/-- One entry either stands for an attribute or is a row without its key or its value. -/
theorem ofEntry_cases (key : Key) (v : Value) :
    (Malformed v ∧ ofEntry key v = .error (.value (.attribute key v))) ∨
      ¬ Malformed v ∧ ∃ a, StandsFor (key, v) a ∧ ofEntry key v = .ok a := by
  cases v with
  | record fields =>
    -- a row is malformed as soon as either of its two parts is missing
    cases hkey : Assoc.get? fields (.text "key") with
    | none => exact .inl ⟨⟨rfl, .inl hkey⟩, by simp [ofEntry, hkey]⟩
    | some k =>
      cases hvalue : Assoc.get? fields (.text "value") with
      | none => exact .inl ⟨⟨rfl, .inr hvalue⟩, by simp [ofEntry, hkey, hvalue]⟩
      | some w =>
        refine .inr ⟨?_, ⟨k, w⟩, .row ⟨by simp [Value.item, hkey], by simp [Value.item, hvalue]⟩,
          by simp [ofEntry, hkey, hvalue]⟩
        rintro ⟨-, missing⟩
        simp [Value.get?, hkey, hvalue] at missing
  | _ => exact .inr ⟨fun h => Bool.false_ne_true h.1, _, .bare rfl, rfl⟩

/-- Each entry comes to the attribute that it stands for, unless one is malformed; the first of them
is what it fails with. -/
theorem mapM_ofEntry (es : List (Key × Value)) :
    ((∀ e ∈ es, ¬ Malformed e.2) ∧
      ∃ as, List.Forall₂ StandsFor es as ∧ (es.mapM fun e => ofEntry e.1 e.2) = .ok as) ∨
    ∃ before e after, es = before ++ e :: after ∧ (∀ b ∈ before, ¬ Malformed b.2) ∧
      Malformed e.2 ∧ (es.mapM fun e => ofEntry e.1 e.2) = .error
        (.value (.attribute e.1 e.2)) := by
  -- The first malformed entry is the one that is reported, so the induction splits on the head.
  induction es with
  | nil => exact .inl ⟨List.forall_mem_nil _, [], .nil, rfl⟩
  | cons e es ih =>
    rw [List.mapM_cons]
    obtain ⟨malformed, hfail⟩ | ⟨sound, a, ha, hok⟩ := ofEntry_cases e.1 e.2
    · -- the head itself: nothing comes before it
      exact .inr ⟨[], e, es, rfl, List.forall_mem_nil _, malformed, by rw [hfail]; rfl⟩
    · obtain ⟨rest, as, has, hall⟩ | ⟨before, f, after, rfl, rest, malformed, hfail⟩ := ih
      · exact .inl ⟨List.forall_mem_cons.2 ⟨sound, rest⟩, a :: as, .cons ha has,
          by rw [hok, hall]; rfl⟩
      · -- further on: the head is sound, so it joins what comes before
        exact .inr ⟨e :: before, f, after, rfl, List.forall_mem_cons.2 ⟨sound, rest⟩, malformed,
          by rw [hok, hfail]; rfl⟩

/-- A row holds its attribute under any key. -/
theorem ofEntry_row {a : Attribute} {v : Value} (h : a.IsRow v) (key : Key) :
    ofEntry key v = .ok a := by
  obtain ⟨hkey, hvalue⟩ := h
  -- Only an object has the two items of a row.
  cases v with
  | record fields =>
    rw [Value.item] at hkey hvalue
    cases hk : Assoc.get? fields (.text "key") with
    | none => simp [hk] at hkey
    | some k =>
      cases hw : Assoc.get? fields (.text "value") with
      | none => simp [hw] at hvalue
      | some w =>
        obtain rfl : k = a.key := by simpa [hk] using hkey
        obtain rfl : w = a.value := by simpa [hw] using hvalue
        simp [ofEntry, hk, hw]
  | _ => cases hkey

/-- An attribute's own value is a row of it. -/
theorem isRow_toValue (a : Attribute) : a.IsRow a.toValue := by
  simp [IsRow, toValue, Value.ofFields, Value.item, Assoc.get?]

/-- A list of attributes gives the list of their rows. -/
theorem forall₂_isRow_toValue (as : List Attribute) :
    List.Forall₂ IsRow as (as.map toValue) := by
  rw [List.forall₂_map_right_iff, List.forall₂_same]
  exact fun a _ => a.isRow_toValue

/-- Rows are formatted already: they come to the attributes that they hold. -/
theorem format_rows {as : List Attribute} {rows : List Value} (h : List.Forall₂ IsRow as rows) :
    format (.list rows) = .ok as := by
  show (rows.zipIdx.map fun p => (Key.int p.2, p.1)).mapM (fun e => ofEntry e.1 e.2) = _
  -- A row stands for the same at any place, so they may be counted from anywhere.
  generalize 0 = start
  induction h generalizing start with
  | nil => rfl
  | cons ha _ ih =>
    rw [List.zipIdx_cons, List.map_cons, List.mapM_cons, ih, ofEntry_row ha]
    rfl

/-! ### What is given -/

/-- What formatting does to a value with some entries: it fails just if an entry is malformed, and
names the first such entry then; else each entry comes to the attribute that it stands for, in
order, and the attributes come to themselves. -/
structure Projects (given : Value) (entries : List (Key × Value)) : Prop where
  fails_iff : (∃ fault, format given = .error fault) ↔ ∃ e ∈ entries, Malformed e.2
  fault : ∀ fault, format given = .error fault →
    ∃ before e after, entries = before ++ e :: after ∧ (∀ b ∈ before, ¬ Malformed b.2) ∧
      Malformed e.2 ∧ fault = .value (.attribute e.1 e.2)
  each : ∀ as, format given = .ok as → List.Forall₂ StandsFor entries as
  again : ∀ as, format given = .ok as → format (.list (as.map toValue)) = .ok as

/-- Reading the entries one by one projects whatever they are the entries of. -/
theorem projects_of_entries {given : Value} {es : List (Key × Value)} (h : entries given = .ok es) :
    Projects given es := by
  have run : format given = es.mapM fun e => ofEntry e.1 e.2 := by
    rw [format, h]
    rfl
  -- What is read is rows again, and rows are read as themselves.
  have again (as : List Attribute) (_ : format given = .ok as) :
      format (.list (as.map toValue)) = .ok as := format_rows (forall₂_isRow_toValue as)
  -- Either every entry is sound or a first one is not; in each case three of the four parts hold
  -- because their premise fails.
  obtain ⟨sound, as, has, hok⟩ | ⟨before, e, after, rfl, sound, malformed, hfail⟩ := mapM_ofEntry es
  · rw [← run] at hok
    refine ⟨⟨?_, ?_⟩, ?_, ?_, again⟩
    · rintro ⟨fault, hfault⟩
      cases hok.symm.trans hfault
    · rintro ⟨e, he, malformed⟩
      exact absurd malformed (sound e he)
    · exact fun fault hfault => nomatch hok.symm.trans hfault
    · intro as' has'
      obtain rfl := Except.ok.inj (hok.symm.trans has')
      exact has
  · rw [← run] at hfail
    have mem : e ∈ before ++ e :: after := List.mem_append_right _ List.mem_cons_self
    refine ⟨⟨fun _ => ⟨e, mem, malformed⟩, fun _ => ⟨_, hfail⟩⟩, ?_, ?_, again⟩
    · intro fault hfault
      exact ⟨before, e, after, rfl, sound, malformed,
        (Except.error.inj (hfail.symm.trans hfault)).symm⟩
    · exact fun as has => nomatch hfail.symm.trans has

end Attribute

/-! ### Lines with formatted attributes -/

/-- The defects of an item are among those of the list. -/
theorem Checked.items_error {α : Type} {path : List PathStep}
    {check : List PathStep → Value → Checked α} {vs : List Value} {i : Nat} {v : Value}
    {found : List Issue} (hv : vs[i]? = some v)
    (h : check (path ++ [PathStep.index i]) v = .error found) :
    ∃ issues, items path check vs = .error issues ∧ found ⊆ issues := by
  unfold items
  -- The item is looked for `i` places after the first, whatever the place of the first is.
  suffices ∀ start, check (path ++ [PathStep.index (start + i)]) v = .error found →
      ∃ issues, (vs.zipIdx start).foldr
        (fun p rest => both List.cons (check (path ++ [PathStep.index p.2]) p.1) rest) (.ok []) =
          .error issues ∧ found ⊆ issues from
    this 0 (by rwa [Nat.zero_add])
  clear h
  intro start h
  induction vs generalizing start i with
  | nil => cases hv
  | cons w ws ih =>
    rw [List.zipIdx_cons, List.foldr_cons]
    cases i with
    | zero =>
      obtain rfl := Option.some.inj hv
      rw [Nat.add_zero] at h
      dsimp only
      rw [h]
      cases (ws.zipIdx (start + 1)).foldr _ _ with
      | ok _ => exact ⟨_, rfl, List.Subset.refl _⟩
      | error others => exact ⟨_, rfl, List.subset_append_left _ _⟩
    | succ i =>
      obtain ⟨issues, hrest, sub⟩ := ih hv (start + 1) (by rwa [Nat.add_right_comm])
      dsimp only
      rw [hrest]
      cases check (path ++ [PathStep.index start]) w with
      | ok _ => exact ⟨_, rfl, sub⟩
      | error first => exact ⟨_, rfl, List.Subset.trans sub (List.subset_append_right _ _)⟩

/-- The defect of an attribute whose key is no text. -/
theorem LineAttribute.check_key {a : Attribute} (h : ∀ key, a.key ≠ .text key)
    (path : List PathStep) :
    check path a.toValue = .error [⟨path ++ [.name "key"], .textExpected⟩] := by
  obtain ⟨k, v⟩ := a
  have text : Checked.text (path ++ [.name "key"]) k =
      .error [⟨path ++ [.name "key"], .textExpected⟩] := by
    unfold Checked.text
    split
    · exact absurd rfl (h _)
    · rfl
  simp [check, Attribute.toValue, Value.ofFields, Assoc.get?, text, Checked.both]

namespace LineInput

/-- How many a line given as a record is of. -/
def countOf (line : Value) : Checked Int :=
  Checked.whole [.name "quantity"] (((line.get? "quantity").getD .null).orElse (.int 0))

/-- The attributes of a line are given in rows. -/
def GivenRows (line : Value) (as : List Attribute) : Prop :=
  line.get? "attributes" = some (.list (as.map Attribute.toValue))

variable {line : Value} {as : List Attribute}

/-- Of a line whose attributes are formatted already, the quantity and each attribute
are checked. -/
theorem coerce_rows (h : GivenRows line as) :
    coerce line = Checked.orFault (Checked.both LineInput.mk (countOf line)
      (Checked.items [.name "attributes"] LineAttribute.check (as.map Attribute.toValue))) := by
  unfold GivenRows Value.get? at h
  split at h
  · -- An empty list is falsy and an absent one in effect, so both give no rows.
    rename_i fields
    have formatted : Attribute.format
      ((Value.list (as.map Attribute.toValue)).orElse (.record [])) =
        .ok as := by
      cases as with
      | nil => rfl
      | cons a as => exact Attribute.format_rows (Attribute.forall₂_isRow_toValue (a :: as))
    simp only [coerce, Value.member_record, h, Option.getD_some, bind, Except.bind, formatted]
    rfl
  · cases h

/-- A line is read with the attributes that are given for it, formatted already. -/
theorem coerce_ok_iff (h : GivenRows line as) {input : LineInput} :
    coerce line = .ok input ↔
      countOf line = .ok input.quantity ∧ input.attributes.map (·.given) = as := by
  rw [coerce_rows h]
  constructor
  · intro hok
    obtain ⟨n, checked, hn, hchecked, rfl⟩ := Checked.both_eq_ok (Checked.orFault_eq_ok hok)
    exact ⟨hn, (Checked.items_given LineAttribute.check_given hchecked).symm⟩
  · rintro ⟨hn, rfl⟩
    have passes := Checked.items_map LineAttribute.check_toValue [.name "attributes"]
      input.attributes
    rw [hn, List.map_map]
    exact congrArg (fun x => Checked.orFault (Checked.both LineInput.mk (.ok input.quantity) x))
      passes

/-- A line is refused for an attribute whose key is no text, and that is said of it. -/
theorem coerce_key (h : GivenRows line as) {i : Nat} {a : Attribute} (ha : as[i]? = some a)
    (hkey : ∀ key, a.key ≠ .text key) :
    ∃ issues, coerce line = .error (.invalid issues) ∧
      ⟨[.name "attributes", .index i, .name "key"], .textExpected⟩ ∈ issues := by
  have hrow : (as.map Attribute.toValue)[i]? = some a.toValue := by rw [List.getElem?_map, ha]; rfl
  obtain ⟨issues, hitems, sub⟩ := Checked.items_error hrow
    (LineAttribute.check_key hkey ([.name "attributes"] ++ [.index i]))
  rw [coerce_rows h, hitems]
  have mem := sub List.mem_cons_self
  cases countOf line with
  | ok n => exact ⟨_, rfl, mem⟩
  | error others => exact ⟨_, rfl, List.mem_append_right others mem⟩

/-- The line is of a number of pieces, and its attributes are formatted already, with texts
for keys. -/
structure Formatted (line : Value) (as : List Attribute) : Prop where
  counted : ∃ n, countOf line = .ok n
  rows : GivenRows line as
  keyed : ∀ a ∈ as, ∃ key, a.key = .text key

/-- A formatted line passes the check, and its attributes are those it was formatted from. -/
theorem Formatted.coerce (h : Formatted line as) :
    ∃ input, LineInput.coerce line = .ok input ∧ input.attributes.map (·.given) = as := by
  obtain ⟨⟨n, hn⟩, rows, keyed⟩ := h
  obtain ⟨checked, rfl⟩ : ∃ checked : List LineAttribute, checked.map (·.given) = as := by
    -- The keys are texts, so each attribute is a checked one.
    clear rows
    induction as with
    | nil => exact ⟨[], rfl⟩
    | cons a as ih =>
      obtain ⟨⟨key, hkey⟩, others⟩ := List.forall_mem_cons.1 keyed
      obtain ⟨checked, rfl⟩ := ih others
      refine ⟨⟨key, a.value⟩ :: checked, ?_⟩
      rw [List.map_cons, LineAttribute.given, ← hkey]
  exact ⟨⟨n, checked⟩, (coerce_ok_iff rows).2 ⟨hn, rfl⟩, rfl⟩

/-- Lines with formatted attributes are read, with these attributes. -/
theorem Formatted.mapM_coerce {lines : List Value} {formatted : List (List Attribute)}
    (h : List.Forall₂ Formatted lines formatted) :
    ∃ inputs, lines.mapM LineInput.coerce = .ok inputs ∧
      inputs.map (fun input => input.attributes.map (·.given)) = formatted := by
  induction h with
  | nil => exact ⟨[], rfl, rfl⟩
  | cons hline _ ih =>
    obtain ⟨input, hinput, rfl⟩ := hline.coerce
    obtain ⟨inputs, hinputs, rfl⟩ := ih
    exact ⟨input :: inputs, by rw [List.mapM_cons, hinput, hinputs]; rfl, rfl⟩

end LineInput

/-- Lines with formatted attributes are updated with these attributes as they are, and so they are
added if no value is null. -/
theorem CartCall.sendsLines_formatted {lines : List (String × Value)}
    {formatted : List (List Attribute)}
    (h : List.Forall₂ LineInput.Formatted (lines.map Prod.snd) formatted) (cartId : String) :
    (updateLines lines).SendsLines cartId .cartLinesUpdate Document.cartLinesUpdate
        (formatted.map fun as => .list (as.map Attribute.toValue)) ∧
      ((∀ as ∈ formatted, ∀ a ∈ as, a.value.isNull = false) → ∀ plan,
        (addLines lines plan).SendsLines cartId .cartLinesAdd Document.cartLinesAdd
          (formatted.map fun as => .list (as.map Attribute.toValue))) := by
  obtain ⟨inputs, hinputs, rfl⟩ := LineInput.Formatted.mapM_coerce h
  refine ⟨?_, fun nonnull plan => ?_⟩
  · simpa only [List.map_map, Function.comp_def] using updateLines_sendsLines cartId hinputs
  · -- With no null among them, what additions leave out is nothing.
    have whole : inputs.map (fun input =>
          Value.list (input.attributes.map (·.given.toValueSparse))) =
        (inputs.map fun input => input.attributes.map (·.given)).map
          fun as => .list (as.map Attribute.toValue) := by
      rw [List.map_map]
      refine List.map_congr_left fun input hinput => congrArg Value.list ?_
      rw [← (Attribute.map_toValueSparse_eq_iff _).2 (nonnull _ (List.mem_map_of_mem hinput)),
        List.map_map]
      rfl
    exact whole ▸ addLines_sendsLines cartId plan hinputs

/-! ### Formatting -/

namespace Attribute

/-- Formatting what is given as a mapping or as a list fails just for a malformed entry, makes one
attribute of each entry, in order, and leaves formatted attributes as they are; lists of rows are
formatted piece by piece.  A line with formatted attributes whose keys are texts is read with just
these; an attribute with any other key is pointed out as a defect.  Lines that are read are updated
with their attributes unchanged, and added so if no value is null. -/
theorem format_projects :
    (∀ fields, Projects (.record fields) fields) ∧
    (∀ items : List Value,
      Projects (.list items) (items.zipIdx.map fun (v, i) => (.int i, v))) ∧
    (∀ (as bs : List Attribute) (xs ys : List Value),
      List.Forall₂ IsRow as xs → List.Forall₂ IsRow bs ys →
        format (.list xs) = .ok as ∧ format (.list ys) = .ok bs ∧
          format (.list (xs ++ ys)) = .ok (as ++ bs)) ∧
    (∀ line as, LineInput.Formatted line as → ∃ input, LineInput.coerce line = .ok input ∧
      input.attributes.map (·.toValue) = as.map toValue) ∧
    (∀ line as, LineInput.GivenRows line as → ∀ (i : Nat) (a : Attribute), as[i]? = some a →
      (∀ key, a.key ≠ .text key) →
        ∃ issues, LineInput.coerce line = .error (.invalid issues) ∧
          ⟨[.name "attributes", .index i, .name "key"], .textExpected⟩ ∈ issues) ∧
    ∀ (lines : List (String × Value)) (formatted : List (List Attribute)) (cartId : String),
      List.Forall₂ LineInput.Formatted (lines.map Prod.snd) formatted →
        (CartCall.updateLines lines).SendsLines cartId .cartLinesUpdate Document.cartLinesUpdate
            (formatted.map fun as => .list (as.map toValue)) ∧
          ((∀ as ∈ formatted, ∀ a ∈ as, a.value.isNull = false) → ∀ plan,
            (CartCall.addLines lines plan).SendsLines cartId .cartLinesAdd Document.cartLinesAdd
              (formatted.map fun as => .list (as.map toValue))) := by
  -- Objects and lists are the two shapes with entries of their own; the other parts are about
  -- lines.
  refine ⟨fun fields => projects_of_entries rfl, fun items => projects_of_entries rfl,
    fun as bs xs ys hxs hys =>
      ⟨format_rows hxs, format_rows hys, format_rows (List.rel_append hxs hys)⟩,
    fun line as h => ?_, fun line as h i a => LineInput.coerce_key h,
    fun lines formatted cartId h => CartCall.sendsLines_formatted h cartId⟩
  obtain ⟨input, hinput, rfl⟩ := h.coerce
  exact ⟨input, hinput, by rw [List.map_map]; rfl⟩

/-- A line of two pieces with an attribute. -/
theorem format_projects_sample :
    let as : List Attribute := [⟨"gift", "yes"⟩]
    let line : Value := .ofFields [("quantity", .int 2), ("attributes", .list (as.map toValue))]
    List.Forall₂ LineInput.Formatted ([("1", line)].map Prod.snd) [as] ∧
      (∃ input, LineInput.coerce line = .ok input ∧
        input.attributes.map (·.toValue) = as.map toValue) ∧
      (CartCall.addLines [("1", line)] none).SendsLines sampleId .cartLinesAdd
        Document.cartLinesAdd [.list (as.map toValue)] := by
  intro as line
  have formatted : LineInput.Formatted line as :=
    ⟨⟨2, rfl⟩, rfl, fun a ha => ⟨"gift", by rw [List.mem_singleton.1 ha]⟩⟩
  have lines : List.Forall₂ LineInput.Formatted ([("1", line)].map Prod.snd) [as] :=
    .cons formatted .nil
  have nonnull : ∀ as' ∈ [as], ∀ a ∈ as', a.value.isNull = false := by simp [as, Value.isNull]
  obtain ⟨-, -, -, reads, -, sends⟩ := format_projects
  exact ⟨lines, reads line as formatted, (sends _ _ sampleId lines).2 nonnull none⟩

/-- A bare value is formatted under its place.  The attribute comes to itself, but a line with it is
refused. -/
theorem place_refused :
    let row : Attribute := ⟨.int 0, "x"⟩
    format (.list ["x"]) = .ok [row] ∧ format (.list [row.toValue]) = .ok [row] ∧
      LineInput.coerce (.ofFields [("quantity", .int 1), ("attributes", .list [row.toValue])]) =
        .error (.invalid [⟨[.name "attributes", .index 0, .name "key"], .textExpected⟩]) :=
  ⟨rfl, rfl, rfl⟩

end Attribute
end Storefront
