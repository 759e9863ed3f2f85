import Mathlib.Algebra.Order.BigOperators.Group.List
import Mathlib.Data.List.Perm.Basic
import Storefront.Proofs.Batches
import Storefront.Proofs.SideBySide

/-! # What a batch asks for

Each line of a batch that is in order asks for a portion: so many pieces, with these attributes, for
a line that the cart has, or for a variant.  Several portions may be for the same.  Done one after
the other, they come to what they ask for in total: a line that is there is topped up by all that is
for it, and what is for a variant without a line is put together in one new line.

* `Portion.AskedBy` : the portion that a line of a batch asks for
* `Line.topped` : a line with all that some portions ask for it
* `updated_portions` : updating lines tops them up
* `Cart.Merged`, `addRequests_portions` : adding lines tops up those that are there, and appends the
  others -/

namespace Storefront

open Shop

/-- So many pieces and such attributes, for a line or a variant. -/
structure Portion where
  id : String
  quantity : Int
  attributes : List Value

namespace Portion

/-- A line of a batch asks for a portion: its identifier, under the given name, is that of
the portion in any form, its quantity reads as one piece or more, and its attributes are a
list or missing. -/
structure AskedBy (idName : String) (line : Value) (p : Portion) : Prop where
  id : ∃ id, line.member idName = .ok (.text id) ∧ id ≠ "" ∧ Gid.decode id = p.id
  quantity : ∃ q, line.member "quantity" = .ok q ∧ q.wholeNumber = .ok p.quantity
  positive : 1 ≤ p.quantity
  attributes : line.member "attributes" = .ok (.list p.attributes) ∨
    line.member "attributes" = .ok .null ∧ p.attributes = []

/-- The pieces that are asked for under an identifier. -/
def pieces (ps : List Portion) (id : String) : Int :=
  ((ps.filter (·.id = id)).map (·.quantity)).sum

/-- The attributes that are asked for under an identifier, in order. -/
def attributesFor (ps : List Portion) (id : String) : List Value :=
  (ps.filter (·.id = id)).flatMap (·.attributes)

/-- All that is asked for under an identifier, as one portion. -/
def total (ps : List Portion) (id : String) : Portion := ⟨id, pieces ps id, attributesFor ps id⟩

/-- The identifiers that are asked for and not among some, in the order of their first
appearance. -/
def others (ps : List Portion) (known : List String) : List String :=
  ((ps.map (·.id)).filter (· ∉ known)).eraseDups

/-- The portion with all that others ask for it. -/
def topped (p : Portion) (ps : List Portion) : Portion :=
  ⟨p.id, p.quantity + pieces ps p.id, p.attributes ++ attributesFor ps p.id⟩

variable {p : Portion} {ps ps' : List Portion} {id : String}

/-- Without portions no piece is asked for. -/
@[simp] theorem pieces_nil (id : String) : pieces [] id = 0 := rfl

/-- And no attribute. -/
@[simp] theorem attributesFor_nil (id : String) : attributesFor [] id = [] := rfl

/-- The pieces that two lists of portions ask for add up. -/
theorem pieces_append (ps ps' : List Portion) (id : String) :
    pieces (ps ++ ps') id = pieces ps id + pieces ps' id := by
  simp [pieces]

/-- The attributes that two lists of portions ask for follow one another. -/
theorem attributesFor_append (ps ps' : List Portion) (id : String) :
    attributesFor (ps ++ ps') id = attributesFor ps id ++ attributesFor ps' id := by
  simp [attributesFor]

/-- A portion asks for pieces under its own identifier only. -/
theorem pieces_singleton (p : Portion) (id : String) :
    pieces [p] id = if p.id = id then p.quantity else 0 := by
  by_cases h : p.id = id <;> simp [pieces, h]

/-- A portion asks for attributes under its own identifier only. -/
theorem attributesFor_singleton (p : Portion) (id : String) :
    attributesFor [p] id = if p.id = id then p.attributes else [] := by
  by_cases h : p.id = id <;> simp [attributesFor, h]

/-- The order of portions does not matter for how many pieces they ask for. -/
theorem pieces_perm (h : ps.Perm ps') (id : String) : pieces ps id = pieces ps' id :=
  ((h.filter _).map _).sum_eq

/-- No portion is for an identifier that none of them has. -/
theorem filter_id_of_not_mem (h : id ∉ ps.map (·.id)) : ps.filter (·.id = id) = [] := by
  rw [List.filter_eq_nil_iff]
  intro p hp
  simpa using fun same => h (List.mem_map.2 ⟨p, hp, same⟩)

/-- Portions ask for no fewer than no pieces. -/
theorem pieces_nonneg (h : ∀ p ∈ ps, 1 ≤ p.quantity) (id : String) : 0 ≤ pieces ps id := by
  refine List.sum_nonneg fun n hn => ?_
  obtain ⟨p, hp, rfl⟩ := List.mem_map.1 hn
  have := h p (List.mem_filter.1 hp).1
  omega

/-- What more portions ask for is put on top of the total. -/
theorem total_append (ps ps' : List Portion) (id : String) :
    total (ps ++ ps') id = (total ps id).topped ps' := by
  rw [total, pieces_append, attributesFor_append]
  rfl

/-- A portion under another identifier changes no total. -/
theorem total_concat_of_ne (ps : List Portion) (h : id ≠ p.id) :
    total (ps ++ [p]) id = total ps id := by
  have missing : ¬ p.id = id := Ne.symm h
  rw [total, pieces_append, attributesFor_append, pieces_singleton, attributesFor_singleton,
    if_neg missing, if_neg missing, Int.add_zero, List.append_nil, total]

/-- The first portion under an identifier is all that is asked for there. -/
theorem total_concat_self (h : p.id ∉ ps.map (·.id)) : total (ps ++ [p]) p.id = p := by
  rw [total, pieces_append, attributesFor_append, pieces_singleton, attributesFor_singleton,
    pieces, attributesFor, filter_id_of_not_mem h]
  simp

/-- One more portion is for one of the others, or for a new one. -/
theorem others_concat (ps : List Portion) (p : Portion) (known : List String) :
    others (ps ++ [p]) known =
      if p.id ∈ known ∨ p.id ∈ others ps known then others ps known
      else others ps known ++ [p.id] := by
  -- One identifier without those that are known is none or itself.
  have single : ∀ known : List String,
      ([p.id].removeAll known).eraseDups = if p.id ∈ known then [] else [p.id] := by
    intro known
    by_cases h : p.id ∈ known <;> simp [List.removeAll, List.eraseDups_cons, h]
  rw [others, List.map_append, List.filter_append, List.eraseDups_append, ← others,
    List.map_singleton]
  by_cases hk : p.id ∈ known
  · rw [List.filter_cons_of_neg (by simpa using hk), if_pos (.inl hk)]
    exact List.append_nil _
  · rw [List.filter_cons_of_pos (by simpa using hk), List.filter_nil, single]
    by_cases ho : p.id ∈ others ps known
    · rw [if_pos (List.mem_eraseDups.1 ho), if_pos (.inr ho), List.append_nil]
    · rw [if_neg (mt List.mem_eraseDups.2 ho), if_neg (not_or.2 ⟨hk, ho⟩)]

end Portion

/-! ### Lines that are topped up -/

/-- A line with all that some portions ask for under an identifier. -/
def Line.topped (l : Line) (ps : List Portion) (id : String) : Line :=
  Cart.extended l (Portion.pieces ps id) (Portion.attributesFor ps id)

/-- What a line holds of its variant, as a portion. -/
def Line.portion (l : Line) : Portion := ⟨l.variant, l.quantity, l.attributes⟩

namespace Line

/-- No portions leave a line as it is. -/
theorem topped_nil (l : Line) (id : String) : l.topped [] id = l := by
  simp [topped, Cart.extended]

/-- Topping a line up with two lists of portions is topping it up twice. -/
theorem topped_append (l : Line) (ps ps' : List Portion) (id : String) :
    l.topped (ps ++ ps') id = (l.topped ps id).topped ps' id := by
  simp [topped, Cart.extended, Portion.pieces_append, Portion.attributesFor_append, Int.add_assoc]

/-- A portion extends the line it is for, and leaves any other. -/
theorem topped_singleton (l : Line) (p : Portion) (id : String) :
    l.topped [p] id = if id = p.id then Cart.extended l p.quantity p.attributes else l := by
  rw [topped, Portion.pieces_singleton, Portion.attributesFor_singleton]
  by_cases h : p.id = id
  · simp [h]
  · rw [if_neg h, if_neg h, if_neg (Ne.symm h)]
    simp [Cart.extended]

/-- Nothing is asked for under an identifier that no portion has. -/
theorem topped_of_not_mem {ps : List Portion} {id : String} (h : id ∉ ps.map (·.id)) (l : Line) :
    l.topped ps id = l := by
  rw [topped, Portion.pieces, Portion.attributesFor, Portion.filter_id_of_not_mem h]
  exact topped_nil l id

/-- Lines stay as they are where no portion is for any of them. -/
theorem map_topped_of_forall_not_mem {idOf : Line → String} {ps : List Portion} {ls : List Line}
    (h : ∀ p ∈ ps, p.id ∉ ls.map idOf) : ls.map (fun l => l.topped ps (idOf l)) = ls := by
  refine (List.map_congr_left fun l hl => ?_).trans (List.map_id' _)
  refine topped_of_not_mem (fun asked => ?_) l
  obtain ⟨p, hp, same⟩ := List.mem_map.1 asked
  exact h p hp (List.mem_map.2 ⟨l, hl, same.symm⟩)

end Line

namespace Cart

/-- Where no two lines have the same identifier, all lines with one are the first with it. -/
theorem replaceFirst_eq_map {idOf : Line → String} {ls : List Line} (h : (ls.map idOf).Nodup)
    (id : String) (f : Line → Line) :
    replaceFirst (idOf · = id) f ls = ls.map fun l => if idOf l = id then f l else l := by
  induction ls with
  | nil => rfl
  | cons l ls ih =>
    rw [List.map_cons, List.nodup_cons] at h
    rw [replaceFirst, List.map_cons]
    by_cases hl : idOf l = id
    · rw [if_pos (decide_eq_true hl), if_pos hl]
      -- The lines after the first have other identifiers, so they stay as they are.
      have rest : ∀ l' ∈ ls, (if idOf l' = id then f l' else l') = l' := by
        intro l' hl'
        exact if_neg fun same => h.1 (List.mem_map.2 ⟨l', hl', same.trans hl.symm⟩)
      rw [List.map_congr_left rest, List.map_id']
    · rw [if_neg (by simpa using hl), if_neg hl, ih h.2]

end Cart

namespace Portion

/-- A request that was read from a batch asks for a portion. -/
structure ReadFrom (r : LineRequest) (p : Portion) : Prop where
  id : Gid.decodeValue r.id = .ok (.text p.id)
  quantity : r.quantity = p.quantity
  attributes : (r.attributes.orElse (.list [])).elements = .ok p.attributes

/-- A request asks for one portion at most. -/
theorem ReadFrom.unique : Relator.RightUnique ReadFrom := by
  rintro r ⟨id, quantity, attributes⟩ ⟨id', quantity', attributes'⟩ h h'
  obtain rfl := Value.text.inj (Except.ok.inj (h.id.symm.trans h'.id))
  obtain rfl := h.quantity.symm.trans h'.quantity
  obtain rfl := Except.ok.inj (h.attributes.symm.trans h'.attributes)
  rfl

variable {idName : String} {line : Value} {lines : List Value} {p : Portion} {ps : List Portion}

/-- A line of a batch that asks for a portion is read as a request for it. -/
theorem AskedBy.exists_request (h : AskedBy idName line p) : ∃ r, ReadFrom r p ∧
    ∀ lines, lineRequests idName (line :: lines) =
      (lineRequests idName lines).map (Option.map (r :: ·)) := by
  obtain ⟨⟨id, hid, hne, hdecoded⟩, ⟨q, hq, hread⟩, hpos, hattributes⟩ := h
  -- A quantity that reads as a whole number and is positive is that number for the batch too.
  have quantity : quantityOf line = .ok p.quantity := by
    obtain ⟨x, rfl, hx⟩ | ⟨n, hn, hiff⟩ := quantityOf_cases hq
    · rw [Value.wholeNumber, (Decimal.truncate_eq_infinite_iff x).2 hx] at hread
      cases hread
    · rw [hn, (hiff _ hpos).1 hread]
  have decoded : Gid.decodeValue (.text id) = .ok (.text p.id) := by
    rw [Gid.decodeValue_text, hdecoded]
  -- Attributes that are missing are read as an empty list.
  obtain has | ⟨has, hnone⟩ := hattributes
  · refine ⟨⟨.text id, p.quantity, .list p.attributes⟩, ⟨decoded, rfl, ?_⟩,
      lineRequests_cons hid hne quantity hpos has⟩
    cases p.attributes <;> rfl
  · refine ⟨⟨.text id, p.quantity, .null⟩, ⟨decoded, rfl, ?_⟩,
      lineRequests_cons hid hne quantity hpos has⟩
    rw [hnone]
    rfl

/-- Lines that ask for portions are read as requests for them, and leave the checks to the lines
after them. -/
theorem exists_lineRequests_append (h : List.Forall₂ (AskedBy idName) lines ps) :
    ∃ rs, List.Forall₂ ReadFrom rs ps ∧ ∀ more, lineRequests idName (lines ++ more) =
      (lineRequests idName more).map (Option.map (rs ++ ·)) := by
  induction h with
  | nil =>
    refine ⟨[], .nil, fun more => ?_⟩
    -- The requests read so far are put before those of the rest, whatever becomes of that.
    rw [List.nil_append]
    rcases lineRequests idName more with _ | _ | _ <;> rfl
  | cons hline _ ih =>
    obtain ⟨r, hr, hcons⟩ := hline.exists_request
    obtain ⟨rs, hreads, happend⟩ := ih
    refine ⟨r :: rs, .cons hr hreads, fun more => ?_⟩
    rw [List.cons_append, hcons, happend]
    rcases lineRequests idName more with _ | _ | _ <;> rfl

/-- A batch of lines that leave the checks to the lines after them is read as their requests. -/
theorem requestsOf_of_append {rs : List LineRequest} (hne : lines ≠ [])
    (happend : ∀ more, lineRequests idName (lines ++ more) =
      (lineRequests idName more).map (Option.map (rs ++ ·))) :
    requestsOf idName lines = .ok (some rs) := by
  have read : lineRequests idName lines = .ok (some (rs ++ [])) := by
    rw [← List.append_nil lines, happend]
    rfl
  rw [requestsOf, if_neg (by simpa using hne), read, List.append_nil]

/-- A batch whose lines ask for portions is read as requests for them. -/
theorem exists_requestsOf (hne : lines ≠ []) (h : List.Forall₂ (AskedBy idName) lines ps) :
    ∃ rs, List.Forall₂ ReadFrom rs ps ∧ requestsOf idName lines = .ok (some rs) := by
  obtain ⟨rs, hrs, happend⟩ := exists_lineRequests_append h
  exact ⟨rs, hrs, requestsOf_of_append hne happend⟩

/-- Two batches in one are read as the requests of the first and then those of the second. -/
theorem exists_requestsOf_append {lines' : List Value} {ps' : List Portion} (hne : lines ≠ [])
    (hne' : lines' ≠ []) (h : List.Forall₂ (AskedBy idName) lines ps)
    (h' : List.Forall₂ (AskedBy idName) lines' ps') : ∃ rs rs', List.Forall₂ ReadFrom rs ps ∧
      List.Forall₂ ReadFrom rs' ps' ∧ requestsOf idName lines = .ok (some rs) ∧
      requestsOf idName lines' = .ok (some rs') ∧
      requestsOf idName (lines ++ lines') = .ok (some (rs ++ rs')) := by
  obtain ⟨rs, hrs, happend⟩ := exists_lineRequests_append h
  obtain ⟨rs', hrs', happend'⟩ := exists_lineRequests_append h'
  -- One batch is followed by the other, and that one by nothing.
  refine ⟨rs, rs', hrs, hrs', requestsOf_of_append hne happend, requestsOf_of_append hne' happend',
    requestsOf_of_append (by simp [hne]) fun more => ?_⟩
  rw [List.append_assoc, happend, happend']
  rcases lineRequests idName more with _ | _ | _ <;> simp [Except.map]

/-- Portions may be cut where the lines are that ask for them. -/
theorem exists_of_askedBy_append {lines' : List Value}
    (h : List.Forall₂ (AskedBy idName) (lines ++ lines') ps) : ∃ first rest,
      List.Forall₂ (AskedBy idName) lines first ∧ List.Forall₂ (AskedBy idName) lines' rest ∧
      ps = first ++ rest :=
  ⟨_, _, (List.forall₂_take_append ps lines lines' h.flip).flip,
    (List.forall₂_drop_append ps lines lines' h.flip).flip, (List.take_append_drop ..).symm⟩

/-- Portions that are asked for have a piece or more. -/
theorem positive_of_askedBy (h : List.Forall₂ (AskedBy idName) lines ps) :
    ∀ p ∈ ps, 1 ≤ p.quantity := by
  intro p hp
  induction h with
  | nil => cases hp
  | cons hline _ ih =>
    obtain rfl | hp := List.mem_cons.1 hp
    · exact hline.positive
    · exact ih hp

end Portion

/-! ### Working portions into a cart -/

namespace Shop

open Portion (ReadFrom)

variable {r : LineRequest} {p : Portion} {rs : List LineRequest} {ps ps' : List Portion} {c : Cart}
  {currency : String} {s s' : Shop} {kc : KeptCart}

/-- The only line with an identifier is topped up by a portion for it. -/
theorem extend?_portion (hr : ReadFrom r p) {idOf : Line → String} (h : (c.lines.map idOf).Nodup)
    (idOfEdge : Value → Except Fault Value) :
    (KeptCart.made c).extend? idOf idOfEdge p.id r.quantity (r.attributes.orElse (.list [])) =
      .ok (if p.id ∈ c.lines.map idOf then
        some (.made { c with lines := c.lines.map fun l => l.topped [p] (idOf l) }) else none) := by
  simp only [KeptCart.extend?, hr.attributes, hr.quantity]
  by_cases known : p.id ∈ c.lines.map idOf
  · have found : ¬ (!c.lines.any (idOf · = p.id)) = true := by simpa using known
    have replaced : Cart.replaceFirst (idOf · = p.id) (Cart.extended · p.quantity p.attributes)
        -- By the distinct identifiers, extending the first line is topping up all of them.
        c.lines = c.lines.map fun l => l.topped [p] (idOf l) := by
      rw [Cart.replaceFirst_eq_map h]
      simp only [Line.topped_singleton]
    rw [if_neg found, if_pos known, ← replaced]
    rfl
  · have missing : (!c.lines.any (idOf · = p.id)) = true := by simpa using known
    rw [if_pos missing, if_neg known]
    rfl

/-- A request to update a line tops up the line of its portion, and no line if there is none. -/
theorem updateRequest_portion (hr : ReadFrom r p) (h : (c.lines.map (·.id)).Nodup) :
    updateRequest (.made c) r =
      .ok (.made { c with lines := c.lines.map fun l => l.topped [p] l.id }) := by
  have extended := extend?_portion hr h CartRecord.lineId
  rw [updateRequest, hr.id]
  show ((KeptCart.made c).extend? (·.id) CartRecord.lineId p.id r.quantity
    (r.attributes.orElse (.list [])) >>= fun found => pure (found.getD (.made c))) = _
  rw [extended]
  by_cases known : p.id ∈ c.lines.map (·.id)
  · rw [if_pos known]
    rfl
  · -- No line has the identifier, so topping up leaves all of them as they are.
    have same : c.lines.map (fun l => l.topped [p] l.id) = c.lines :=
      Line.map_topped_of_forall_not_mem (List.forall_mem_singleton.2 known)
    rw [if_neg known, same]
    rfl

/-- Updating the lines of a cart tops each of them up by all that is asked for under its
identifier. -/
theorem updated_portions (hrs : List.Forall₂ ReadFrom rs ps) (h : (c.lines.map (·.id)).Nodup) :
    updated (.made c) rs =
      .ok (.made { c with lines := c.lines.map fun l => l.topped ps l.id }) := by
  -- Topping up changes no identifier, so the lines stay distinct for the requests that follow.
  induction hrs generalizing c with
  | nil => simp only [updated, List.foldlM_nil, Line.topped_nil, List.map_id']; rfl
  | @cons r p rs ps hr hrs ih =>
    have ids : (c.lines.map fun l => l.topped [p] l.id).map (·.id) = c.lines.map (·.id) := by
      rw [List.map_map]
      rfl
    have rest := ih (c := { c with lines := c.lines.map fun l => l.topped [p] l.id }) (ids ▸ h)
    have both : (c.lines.map fun l => l.topped [p] l.id).map (fun l => l.topped ps l.id) =
        c.lines.map fun l => l.topped (p :: ps) l.id := by
      rw [List.map_map]
      exact List.map_congr_left fun l _ => (Line.topped_append l [p] ps l.id).symm
    rw [updated, List.foldlM_cons, updateRequest_portion hr h]
    exact rest.trans (by rw [both])

/-- A new line has the attributes that it is made with. -/
theorem attributes_of_newLine {variant : String} {quantity : Int} {attributes : Value} {l : Line}
    (h : Act.on (newLine variant quantity attributes currency) s = (.ok l, s')) :
    attributes.elements = .ok l.attributes := by
  simp only [newLine, Act.on_bind_eq_ok, Act.on_lift, Act.on_discard_eq_ok, Act.on_pure,
    Prod.mk.injEq, Except.ok.injEq] at h
  obtain ⟨_, _, -, _, _, -, _, _, -, _, _, -, as, _, ⟨has, rfl⟩, _, _, -, _, _, -, _, _, -, _, _, -,
    rfl, rfl⟩ := h
  exact has

/-- Adding one line tops up the line of its variant, or appends one. -/
theorem addRequest_portion (h : (c.lines.map (·.variant)).Nodup)
    (hadd : Act.on (addRequest currency (.made c) r) s = (.ok kc, s')) : ∃ p, ReadFrom r p ∧
      (p.id ∈ c.lines.map (·.variant) ∧
        kc = .made { c with lines := c.lines.map fun l => l.topped [p] l.variant } ∨
      p.id ∉ c.lines.map (·.variant) ∧
        ∃ l, l.portion = p ∧ kc = .made { c with lines := c.lines ++ [l] }) := by
  unfold addRequest at hadd
  obtain ⟨id, hdecoded, hadd⟩ := Act.on_lift_bind_eq_ok.1 hadd
  obtain ⟨variant, htext, hadd⟩ := Act.on_lift_bind_eq_ok.1 hadd
  -- The variant is looked for under its decoded identifier.
  have named : Gid.decodeValue r.id = .ok (.text variant) := asText_decodeValue hdecoded htext
  obtain ⟨found, hextend, hadd⟩ := Act.on_lift_bind_eq_ok.1 hadd
  rw [KeptCart.extendVariant?] at hextend
  cases found with
  | none =>
    -- No line is for the variant: a new one is made, with what the request asks for.
    have missing := extend?_eq_none hextend
    obtain ⟨l, s₁, hl, hadd⟩ := Act.on_bind_eq_ok.1 hadd
    obtain ⟨hkc, rfl⟩ := Prod.mk.inj hadd
    obtain ⟨hv, hq, -⟩ := newLine_ok hl
    refine ⟨l.portion, ⟨?_, hq.symm, attributes_of_newLine hl⟩, .inr ⟨?_, l, rfl, ?_⟩⟩
    · rw [named, Line.portion, hv]
    · rw [Line.portion, hv]
      simpa using missing
    · exact (Except.ok.inj hkc).symm
  | some extended =>
    obtain ⟨hkc, rfl⟩ := Prod.mk.inj hadd
    obtain rfl := Except.ok.inj hkc
    -- The attributes were read, or the line could not have been extended.
    obtain ⟨as, has⟩ : ∃ as, (r.attributes.orElse (.list [])).elements = .ok as := by
      rw [KeptCart.extend?] at hextend
      split at hextend
      · cases hextend
      · obtain ⟨as, has, -⟩ := Act.except_bind_eq_ok.1 hextend
        exact ⟨as, has⟩
    have reads : ReadFrom r ⟨variant, r.quantity, as⟩ := ⟨named, rfl, has⟩
    rw [extend?_portion reads h, Except.ok.injEq] at hextend
    by_cases known : variant ∈ c.lines.map (·.variant)
    · rw [if_pos known] at hextend
      exact ⟨_, reads, .inl ⟨known, (Option.some.inj hextend).symm⟩⟩
    · rw [if_neg known] at hextend
      cases hextend

end Shop

/-! ### Merging portions by variant -/

namespace Cart

/-- The lines are others of a cart, topped up by some portions, and then new ones with all else that
is asked for, one for each variant, in the order in which these were first asked for. -/
structure Merged (old : List Line) (ps : List Portion) (ls : List Line) : Prop where
  intro ::
  exists_added : ∃ added, ls = old.map (fun l => l.topped ps l.variant) ++ added ∧
    added.map Line.portion = (Portion.others ps (old.map (·.variant))).map (Portion.total ps)

namespace Merged

variable {old ls : List Line} {ps : List Portion} {p : Portion}

/-- Nothing is asked for yet, and no line is new. -/
theorem start (old : List Line) : Merged old [] old :=
  ⟨[], by simp [Line.topped_nil], rfl⟩

/-- The variants of the lines are those of the old ones and the others that are asked for. -/
theorem variants (h : Merged old ps ls) :
    ls.map (·.variant) = old.map (·.variant) ++ Portion.others ps (old.map (·.variant)) := by
  obtain ⟨added, rfl, hadded⟩ := h
  -- The new lines are for the others that are asked for, in order.
  have new : added.map (·.variant) = Portion.others ps (old.map (·.variant)) := by
    have ids := congrArg (List.map Portion.id) hadded
    rw [List.map_map, List.map_map] at ids
    exact ids.trans (List.map_id' _)
  rw [List.map_append, new, List.map_map]
  rfl

/-- No old line has fewer pieces than before. -/
theorem exists_le (h : Merged old ps ls) (hpos : ∀ p ∈ ps, 1 ≤ p.quantity) {l : Line}
    (hl : l ∈ old) :
    ∃ l' ∈ ls, l.quantity ≤ l'.quantity := by
  obtain ⟨added, rfl, -⟩ := h
  refine ⟨l.topped ps l.variant, List.mem_append_left _ (List.mem_map_of_mem hl), ?_⟩
  exact Int.le_add_of_nonneg_right (Portion.pieces_nonneg hpos l.variant)

/-- A portion for a variant with a line tops that line up. -/
theorem top (h : Merged old ps ls) (known : p.id ∈ ls.map (·.variant)) :
    Merged old (ps ++ [p]) (ls.map fun l => l.topped [p] l.variant) := by
  -- The line is an old one or a new one; topping up reaches both in the same way.
  rw [h.variants, List.mem_append] at known
  obtain ⟨added, rfl, hadded⟩ := h
  refine ⟨added.map fun l => l.topped [p] l.variant, ?_, ?_⟩
  · rw [List.map_append, List.map_map]
    congr 1
    exact List.map_congr_left fun l _ => (Line.topped_append l ps [p] l.variant).symm
  · have toppedUp : (added.map fun l => l.topped [p] l.variant).map Line.portion =
        (added.map Line.portion).map fun q => q.topped [p] := by
      rw [List.map_map, List.map_map]
      rfl
    rw [toppedUp, hadded, Portion.others_concat, if_pos known, List.map_map]
    exact List.map_congr_left fun id _ => (Portion.total_append ps [p] id).symm

/-- A portion for a variant without a line gets a new one. -/
theorem append (h : Merged old ps ls) {l : Line} (hl : l.portion = p)
    (new : p.id ∉ ls.map (·.variant)) : Merged old (ps ++ [p]) (ls ++ [l]) := by
  rw [h.variants, List.mem_append, not_or] at new
  obtain ⟨notOld, notOther⟩ := new
  obtain ⟨added, rfl, hadded⟩ := h
  refine ⟨added ++ [l], ?_, ?_⟩
  · have same : old.map (fun l => l.topped (ps ++ [p]) l.variant) =
        old.map fun l => l.topped ps l.variant := by
      refine List.map_congr_left fun l' hl' => ?_
      rw [Line.topped_append, Line.topped_singleton,
        if_neg fun same => notOld (List.mem_map.2 ⟨l', hl', same⟩)]
    rw [same, List.append_assoc]
  · -- Had the variant been asked for before, there would be a line for it.
    have first : p.id ∉ ps.map (·.id) := by
      intro asked
      refine notOther (List.mem_eraseDups.2 (List.mem_filter.2 ⟨asked, ?_⟩))
      exact decide_eq_true notOld
    have before : (Portion.others ps (old.map (·.variant))).map (Portion.total (ps ++ [p])) =
        (Portion.others ps (old.map (·.variant))).map (Portion.total ps) :=
      List.map_congr_left fun id hid =>
        Portion.total_concat_of_ne ps fun same => notOther (same ▸ hid)
    rw [Portion.others_concat, if_neg (not_or.2 ⟨notOld, notOther⟩), List.map_append,
      List.map_append, before, hadded, List.map_singleton, List.map_singleton, hl,
      Portion.total_concat_self first]

end Merged
end Cart

namespace Shop

variable {c : Cart} {currency : String} {s s' : Shop} {kc : KeptCart} {rs : List LineRequest}
  {ps : List Portion}

/-- Adding the lines of a request to lines that have been merged with portions merges
more of them. -/
theorem addRequests_merged {old : List Line} (hm : Cart.Merged old ps c.lines)
    (hn : (c.lines.map (·.variant)).Nodup)
    (h : Act.on (rs.foldlM (addRequest currency) (.made c)) s = (.ok kc, s')) :
    ∃ ps' ls, List.Forall₂ Portion.ReadFrom rs ps' ∧ kc = .made { c with lines := ls } ∧
      Cart.Merged old (ps ++ ps') ls := by
  -- The portions of the requests so far are what the lines have been merged with.
  induction rs generalizing c ps s with
  | nil =>
    obtain ⟨hkc, -⟩ := Prod.mk.inj h
    exact ⟨[], c.lines, .nil, (Except.ok.inj hkc).symm, by rwa [List.append_nil]⟩
  | cons r rs ih =>
    rw [List.foldlM_cons] at h
    obtain ⟨kc₁, s₁, hadd, h⟩ := Act.on_bind_eq_ok.1 h
    obtain ⟨p, hp, ⟨known, rfl⟩ | ⟨new, l, hl, rfl⟩⟩ := addRequest_portion hn hadd
    · -- The line of the variant is topped up, and no line is added.
      have variants : (c.lines.map fun l => l.topped [p] l.variant).map (·.variant) =
          c.lines.map (·.variant) := by
        rw [List.map_map]
        rfl
      obtain ⟨ps', ls, hrs, rfl, merged⟩ := ih (hm.top known) (variants ▸ hn) h
      exact ⟨p :: ps', ls, .cons hp hrs, rfl, by rwa [List.append_cons]⟩
    · -- A line is added for a variant that has none, so the variants stay distinct.
      have variant : l.variant = p.id := congrArg Portion.id hl
      have distinct : ((c.lines ++ [l]).map (·.variant)).Nodup := by
        rw [List.map_append, List.map_singleton, variant, List.nodup_append]
        refine ⟨hn, List.pairwise_singleton _ _, fun v hv v' hv' same => new ?_⟩
        rwa [← List.mem_singleton.1 hv', ← same]
      obtain ⟨ps', ls, hrs, rfl, merged⟩ := ih (hm.append hl new) distinct h
      exact ⟨p :: ps', ls, .cons hp hrs, rfl, by rwa [List.append_cons]⟩

/-- Adding the lines of a request merges the portions that it asks for into the cart. -/
theorem addRequests_portions (hn : (c.lines.map (·.variant)).Nodup)
    (h : Act.on (rs.foldlM (addRequest currency) (.made c)) s = (.ok kc, s')) :
    ∃ ps ls, List.Forall₂ Portion.ReadFrom rs ps ∧ kc = .made { c with lines := ls } ∧
      Cart.Merged c.lines ps ls :=
  addRequests_merged (.start c.lines) hn h

end Shop
end Storefront
