import Storefront.Proofs.AnswerSpec
import Storefront.Proofs.CartCalls
import Storefront.Service.Groups

/-! # Clean requests

Given clean arguments, what the services send is clean: the lines that are added or changed, with
their attributes in one form, and the group that is made.  Besides, the identifiers that a shop
keeps in their raw form can be sent in that form.

* `Ensures` : what a check gives, if it gives anything
* `LineInput.coerce_ensures` : the lines that a caller gives
* `Service.additionOf_ensures`, `Service.changeOf_ensures`, `Service.groupInput_ensures` : what
  is sent -/

namespace Storefront

open Text (Sendable)

/-! ### What checks give -/

/-- What a check gives satisfies `P`, if it gives anything. -/
def Ensures {ε α : Type} (e : Except ε α) (P : α → Prop) : Prop := ∀ a, e = .ok a → P a

namespace Ensures

variable {ε α β γ : Type} {e : Except ε α} {f : α → Except ε β} {P : α → Prop} {Q : β → Prop}
  {R : γ → Prop}

/-- What a check yields, it ensures. -/
theorem of_yields {e : Except Fault α} (h : Yields True e P) : Ensures e P := by
  rintro a rfl
  exact h

/-- A check that passes. -/
protected theorem ok {a : α} (h : P a) : Ensures (.ok a : Except ε α) P :=
  fun _ ha => Except.ok.inj ha ▸ h

/-- A check that fails ensures anything. -/
protected theorem error (x : ε) : Ensures (.error x) P := nofun

/-- To ask for less. -/
theorem mono {P' : α → Prop} (h : Ensures e P) (hP : ∀ a, P a → P' a) : Ensures e P' :=
  fun a ha => hP a (h a ha)

/-- A sequence of checks ensures what the last one does, given what the first one does. -/
protected theorem bind (h : Ensures e P) (hf : ∀ a, P a → Ensures (f a) Q) :
    Ensures (e >>= f) Q := by
  cases e with
  | error x => exact nofun
  | ok a => exact hf a (h a rfl)

/-- What becomes of what a check gives. -/
theorem map {g : α → β} (h : Ensures e P) (hg : ∀ a, P a → Q (g a)) : Ensures (e.map g) Q := by
  cases e with
  | error x => exact nofun
  | ok a => exact .ok (hg a (h a rfl))

/-- A list of checks ensures of each what its check does. -/
theorem mapM {as : List α} (h : ∀ a ∈ as, Ensures (f a) Q) :
    Ensures (as.mapM f) fun bs => ∀ b ∈ bs, Q b := by
  induction as with
  | nil => exact .ok fun _ hb => absurd hb List.not_mem_nil
  | cons a as ih =>
    obtain ⟨ha, has⟩ := List.forall_mem_cons.1 h
    rw [List.mapM_cons]
    exact ha.bind fun b hb => (ih has).bind fun bs hbs => .ok (List.forall_mem_cons.2 ⟨hb, hbs⟩)

/-- Two checks whose complaints are put together. -/
theorem both {c : Checked α} {d : Checked β} {g : α → β → γ} (hc : Ensures c P) (hd : Ensures d Q)
    (hg : ∀ a b, P a → Q b → R (g a b)) : Ensures (Checked.both g c d) R := by
  cases c with
  | error is => cases d <;> exact nofun
  | ok a =>
    cases d with
    | error js => exact nofun
    | ok b => exact .ok (hg a b (hc a rfl) (hd b rfl))

/-- Complaints become one fault. -/
theorem orFault {c : Checked α} (hc : Ensures c P) : Ensures c.orFault P := by
  cases c with
  | error is => exact nofun
  | ok a => exact .ok (hc a rfl)

/-- A check of each item, with its path, whose complaints are put together. -/
theorem items {check : List PathStep → Value → Checked α} {vs : List Value}
    (h : ∀ path, ∀ v ∈ vs, Ensures (check path v) P) (path : List PathStep) :
    Ensures (Checked.items path check vs) fun as => ∀ a ∈ as, P a := by
  unfold Checked.items
  -- The induction is over the items, for any number that the first one has.
  generalize 0 = start
  induction vs generalizing start with
  | nil => exact .ok fun _ ha => absurd ha List.not_mem_nil
  | cons v vs ih =>
    rw [List.zipIdx_cons, List.foldr_cons]
    refine (h _ v List.mem_cons_self).both
      (ih (fun path w hw => h path w (List.mem_cons_of_mem _ hw))
      (start + 1)) fun a as ha has => List.forall_mem_cons.2 ⟨ha, has⟩

end Ensures

/-! ### Attributes -/

namespace Attribute

/-- An attribute is an entry's key and value, or what the entry itself names as such. -/
theorem ofEntry_ensures {key : Key} {v : Value} (hk : key.toValue.Clean) (hv : v.Clean) :
    Ensures (ofEntry key v) Attribute.Clean := by
  unfold ofEntry
  split
  · split
    · rename_i k w hk hw
      exact .ok ⟨hv.get? hk, hv.get? hw⟩
    · exact .error _
  · exact .ok ⟨hk, hv⟩

/-- A record lists its names; a list numbers its items. -/
theorem entries_ensures {v : Value} (hv : v.Clean) :
    Ensures (entries v) fun ps => ∀ p ∈ ps, p.1.toValue.Clean ∧ p.2.Clean := by
  unfold entries
  split
  · exact .ok fun p hp => ⟨hv.name hp, hv.values p hp⟩
  · refine (Ensures.of_yields (Value.Fit.elements fun _ => hv)).bind fun ws hws => .ok ?_
    intro p hp
    obtain ⟨q, hq, rfl⟩ := List.mem_map.1 hp
    exact ⟨.int _, hws q.1 (List.fst_mem_of_mem_zipIdx hq) trivial⟩

/-- Attributes in one form are clean if they were before. -/
theorem format_ensures {v : Value} (hv : v.Clean) :
    Ensures (format v) fun as => ∀ a ∈ as, a.Clean :=
  (entries_ensures hv).bind fun _ hps => .mapM fun p hp => ofEntry_ensures (hps p hp).1 (hps p hp).2

end Attribute

/-- A checked attribute that is clean. -/
structure LineAttribute.Clean (a : LineAttribute) : Prop where
  key : Sendable a.key.toList
  value : a.value.Clean

namespace LineAttribute

/-- A clean attribute shows a clean record. -/
theorem Clean.toValue {a : LineAttribute} (h : a.Clean) : a.toValue.Clean :=
  Value.clean_ofFields ["key", "value"] rfl (by decide) (by decide) ⟨.text h.key, h.value⟩

/-- Without a value that is null, it is clean as well. -/
theorem Clean.toValueSparse {a : LineAttribute} (h : a.Clean) : a.toValueSparse.Clean := by
  unfold LineAttribute.toValueSparse Attribute.toValueSparse
  split
  · exact Value.clean_single (by decide) (.text h.key)
  · exact h.toValue

/-- A checked attribute has a text for its key. -/
theorem check_ensures {v : Value} (hv : v.Clean) (path : List PathStep) :
    Ensures (check path v) LineAttribute.Clean := by
  unfold check
  split
  · -- Both parts are looked up in the object; what is missing or of another type is an error.
    refine Ensures.both (P := fun s => Sendable s.toList) (Q := Value.Clean) ?_ ?_
      fun _ _ hk hw => ⟨hk, hw⟩
    · split
      · rename_i k hk
        cases k with
        | text s => exact .ok (hv.get? hk).sendable
        | _ => exact .error _
      · exact .error _
    · split
      · rename_i w hw
        exact .ok (hv.get? hw)
      · exact .error _
  · exact .error _

/-- A list is checked item by item. -/
theorem checkAll_ensures {v : Value} (hv : v.Clean) (path : List PathStep) :
    Ensures (checkAll path v) fun as => ∀ a ∈ as, a.Clean := by
  cases v with
  | list vs => exact .items (fun path w hw => check_ensures (hv.items w hw) path) path
  | _ => exact .error _

end LineAttribute

/-- The attributes of a line that is given by a clean value are clean. -/
theorem LineInput.coerce_ensures {v : Value} (hv : v.Clean) :
    Ensures (coerce v) fun input => ∀ a ∈ input.attributes, a.Clean := by
  have fit : v.Fit True := fun _ => hv
  unfold coerce
  split
  · refine (Ensures.of_yields (fit.member "quantity")).bind fun quantity _ => ?_
    refine (Ensures.of_yields (fit.member "attributes")).bind fun given hgiven => ?_
    refine (Attribute.format_ensures (hgiven.orElse Value.fit_emptyRecord trivial)).bind
      fun attributes hattributes => .orFault ?_
    have clean : Value.Clean (.list (attributes.map Attribute.toValue)) := .list fun w hw => by
      obtain ⟨a, ha, rfl⟩ := List.mem_map.1 hw
      exact (hattributes a ha).toValue
    -- What becomes of the quantity does not matter here: it is a number.
    exact .both (P := fun _ => True) (fun _ _ => trivial)
      (LineAttribute.checkAll_ensures clean _) fun _ _ _ has => has
  · refine Ensures.bind (P := fun _ => True) (fun _ _ => trivial) fun _ _ => .ok ?_
    exact fun _ ha => absurd ha List.not_mem_nil

/-! ### Identifiers -/

namespace Gid

/-- An identifier with the start of its kind can be sent if it could before. -/
theorem sendable_normalise {start id : String} (hs : Sendable start.toList)
    (h : Sendable id.toList) : Sendable (normalise start id).toList := by
  unfold normalise
  split
  · exact h
  · exact .append_text hs h

/-- An identifier with the start of its kind is raw. -/
theorem isRaw_normalise (kind id : String) : isRaw (normalise (kindPrefix kind) id) = true := by
  unfold normalise
  split
  · assumption
  · exact isRaw_kindPrefix_append kind id

/-- An identifier that was decoded is clean again when it is encoded. -/
theorem encodeValue_ensures {v w : Value} (hv : v.Clean) (hw : decodeValue v = .ok w) :
    Ensures (encodeValue w) (Value.Fit True) := by
  have decoded := Ensures.of_yields (yields_decodeValue v) w hw
  -- A text was decoded; whatever else there is is falsy and left alone.
  rcases decoded with ⟨s, rfl, rfl⟩ | ⟨-, rfl⟩
  · intro u hu
    rw [encodeValue, onText] at hu
    obtain ⟨t, ht, rfl⟩ := Act.except_map_eq_ok.1 hu
    obtain ⟨rfl, hraw⟩ := encodeText_eq_ok ht
    refine Value.fit_text fun _ => sendable_encode ?_
    cases raw : isRaw (decode s) with
    | true => exact hraw raw
    | false => exact (decode_eq_self raw).symm ▸ hv.sendable
  · exact .of_yields (yields_encodeValue fun _ => hv)

end Gid

/-- What a message shows of a clean key can be sent. -/
theorem Key.sendable_display {k : Key} (h : k.toValue.Clean) : Sendable k.display.toList := by
  cases k with
  | text s => exact h.sendable
  | _ => exact Key.sendable_quoted _

/-! ### What is sent -/

namespace Service

/-- A text that is checked is the one that was given. -/
theorem text_ensures {v : Value} (hv : v.Clean) (path : List PathStep) :
    Ensures (Checked.text path v) fun s => Sendable s.toList := by
  cases v with
  | text s => exact .ok hv.sendable
  | _ => exact .error _

/-- A text that may be missing. -/
theorem text?_ensures {v : Value} (hv : v.Clean) (path : List PathStep) :
    Ensures (Checked.text? path v) fun s => ∀ t, s = some t → Sendable t.toList := by
  unfold Checked.text?
  split
  · exact .ok nofun
  · exact (text_ensures hv path).map fun s hs t ht => Option.some.inj ht ▸ hs

/-- An addition is clean, and so is the raw form of the variant that it names. -/
theorem additionOf_ensures {plan line : Value} {variant : Key} (hplan : plan.Clean)
    (hvariant : Sendable variant.display.toList) (hline : line.Clean) :
    Ensures (additionOf plan variant line) fun v => v.Clean ∧
      ∀ s, v.get? "merchandiseId" = some (.text s) → Sendable (Gid.decode s).toList := by
  let id := Gid.normalise Gid.variantPrefix variant.display
  have sendable : Sendable id.toList := Gid.sendable_normalise (by decide) hvariant
  have decoded : Gid.decode id = id := Gid.decode_of_isRaw (Gid.isRaw_normalise _ _)
  have written : Ensures variant.toValue.written fun text => text = variant.display := by
    intro text htext
    rw [Value.written_eq_ok htext, Value.display_toValue]
  refine (LineInput.coerce_ensures hline).bind fun input hinput => written.bind ?_
  rintro _ rfl
  refine (Ensures.of_yields (Gid.yields_encodeText id)).bind fun merchandise hm => ?_
  obtain rfl := hm.1
  refine (Ensures.of_yields (Gid.yields_encodeValue fun _ => hplan)).bind fun planId hp => ?_
  rw [LineAddition.check_members]
  refine ((text?_ensures (hp trivial) _).map (Q := fun l => ∃ p, (∀ t, p = some t →
    Sendable t.toList) ∧ l = ⟨Gid.encode id, input.quantity, input.attributes, p⟩)
    fun p hp => ⟨p, hp, rfl⟩).orFault.bind ?_
  rintro _ ⟨p, hp, rfl⟩
  have merchandise : Value.Clean (Gid.encode id) := .text (Gid.sendable_encode sendable)
  have attributes : Value.Clean (.list (input.attributes.map (·.toValueSparse))) :=
    .list fun w hw => by
      obtain ⟨a, ha, rfl⟩ := List.mem_map.1 hw
      exact (hinput a ha).toValueSparse
  refine .ok ⟨?_, fun s hs => ?_⟩
  · -- Without a plan the member is left out.
    cases p with
    | none =>
      exact Value.clean_ofFields ["merchandiseId", "quantity", "attributes"] rfl (by decide)
        (by decide) ⟨merchandise, .int _, attributes⟩
    | some plan =>
      exact Value.clean_ofFields ["merchandiseId", "quantity", "attributes", "sellingPlanId"] rfl
        (by decide) (by decide) ⟨merchandise, .int _, attributes, .text (hp plan rfl)⟩
  · have first : s = Gid.encode id := by
      simpa [LineAddition.toValue, Value.ofFields, Value.get?, Assoc.get?, eq_comm] using hs
    rw [first, Gid.decode_encode, decoded]
    exact sendable

/-- A change of a line is clean. -/
theorem changeOf_ensures {id : Key} {line : Value} (hid : id.toValue.Clean) (hline : line.Clean) :
    Ensures (changeOf id line) Value.Clean := by
  refine (LineInput.coerce_ensures hline).bind fun input hinput => ?_
  refine (Ensures.of_yields (Gid.yields_encodeValue fun _ => hid)).bind fun lineId hl => ?_
  rw [LineChange.check_members]
  refine ((text_ensures (hl trivial) _).map (Q := fun l => ∃ s, Sendable s.toList ∧
    l = ⟨s, input.quantity, input.attributes⟩) fun s hs => ⟨s, hs, rfl⟩).orFault.bind ?_
  rintro _ ⟨s, hs, rfl⟩
  refine .ok (Value.clean_ofFields ["id", "quantity", "attributes"] rfl (by decide) (by decide)
    ⟨.text hs, .int _, .list fun w hw => ?_⟩)
  obtain ⟨a, ha, rfl⟩ := List.mem_map.1 hw
  exact (hinput a ha).toValue

/-- Identifiers of a kind are clean, and so is their raw form. -/
theorem normalisedIds_ensures {kind : String} (hkind : Sendable kind.toList) {ids : Value}
    (hids : ids.Clean) : Ensures (normalisedIds (Gid.kindPrefix kind) ids) fun vs =>
      ∀ v ∈ vs, v.Clean ∧ ∀ s, v = .text s → Sendable (Gid.decode s).toList := by
  -- First the elements of the list are read, then each is read as a text.
  refine (Ensures.of_yields (Value.Fit.elements fun _ => hids)).bind fun ws hws =>
    (Ensures.mapM fun w hw => .of_yields (hws w hw).written).bind fun texts htexts => .ok ?_
  intro v hv
  obtain ⟨text, htext, rfl⟩ := List.mem_map.1 hv
  -- What is normalised is a raw id, so decoding returns it as it is.
  have sendable : Sendable (Gid.normalise (Gid.kindPrefix kind) text).toList :=
    Gid.sendable_normalise (.append_text (.append_text (by decide) hkind) (by decide))
      (htexts text htext trivial)
  refine ⟨.text sendable, fun s hs => ?_⟩
  obtain rfl := Value.text.inj hs
  rwa [Gid.decode_of_isRaw (Gid.isRaw_normalise _ _)]

/-- The record of a plan is put together from members of the options. -/
theorem planOf_ensures {options : Value} (h : options.Clean) :
    Ensures (planOf options) Value.Clean := by
  -- Each member read is clean, and the rest of the plan is made of fixed texts.
  have member : ∀ name, Ensures (options.member name) (Value.Fit True) := fun name =>
    .of_yields (Value.Fit.member (fun _ => h) name)
  refine (member _).bind fun name hname => (member _).bind fun deposit hdeposit =>
    (member _).bind fun time htime => (member _).bind fun balance hbalance =>
    (member _).bind fun fulfilment hfulfilment => (member _).bind fun reserve hreserve => .ok ?_
  have single : ∀ {name : String} {v : Value}, IsMemberName name → v.Clean →
    (Value.ofFields [(name, v)]).Clean := Value.clean_single
  have charge : (Value.ofFields [("type", "PERCENTAGE"),
      ("value", .ofFields [("percentage", deposit)])]).Clean :=
    Value.clean_ofFields ["type", "value"] rfl (by decide) (by decide)
      ⟨.text (by decide), single (by decide) (hdeposit trivial)⟩
  -- The policies are built from the inside out.
  have billing : (Value.ofFields [
      ("checkoutCharge", .ofFields [("type", "PERCENTAGE"),
        ("value", .ofFields [("percentage", deposit)])]),
      ("remainingBalanceChargeExactTime", time),
      ("remainingBalanceChargeTrigger", balance)]).Clean :=
    Value.clean_ofFields ["checkoutCharge", "remainingBalanceChargeExactTime",
      "remainingBalanceChargeTrigger"] rfl (by decide) (by decide)
      ⟨charge, htime trivial, hbalance trivial⟩
  exact Value.clean_ofFields ["name", "category", "options", "billingPolicy", "deliveryPolicy",
    "inventoryPolicy"] rfl (by decide) (by decide)
    ⟨hname trivial, .text (by decide), .text (by decide), single (by decide) billing,
      single (by decide) (single (by decide) (hfulfilment trivial)),
      single (by decide) (hreserve trivial)⟩

/-- A clean record for a new group: it changes no plans in passing. -/
structure IsNewGroup (v : Value) : Prop where
  clean : v.Clean
  plain : v.get? "sellingPlansToUpdate" = none

/-- Another member may be put in. -/
theorem IsNewGroup.put {v w : Value} (h : IsNewGroup v) {name : String}
    (hname : IsMemberName name) (hne : "sellingPlansToUpdate" ≠ name) (hw : w.Clean) :
    IsNewGroup (v.put name w) := by
  cases v with
  | record fields => exact ⟨h.clean.put hname hw, (Value.get?_put_of_ne hne w).trans h.plain⟩
  | _ => exact h

/-- The record of a new group is clean, and names no plans to be changed. -/
theorem groupInput_ensures {options : Value} (h : options.Clean) :
    Ensures (groupInput options) IsNewGroup := by
  -- The members are read in the order the code reads them.
  have member : ∀ name, Ensures (options.member name) (Value.Fit True) := fun name =>
    .of_yields (Value.Fit.member (fun _ => h) name)
  refine (member _).bind fun merchant hmerchant =>
    (Ensures.of_yields (hmerchant.orElse (Value.fit_const (by decide))).written).bind
      fun code hcode =>
    (member _).bind fun description hdescription => (member _).bind fun position _ =>
    (member _).bind fun name hname => (planOf_ensures h).bind fun plan hplan => ?_
  -- The group is made without its description and its position, and each of them is added when it
  -- is given.
  extract_lets group group'
  have hgroup : IsNewGroup group := ⟨Value.clean_ofFields ["name", "merchantCode", "options",
    "sellingPlansToCreate"] rfl (by decide) (by decide) ⟨hname trivial, .text (hcode trivial),
      Value.clean_texts (List.forall_mem_singleton.2 (Text.sendable_capitalise (hcode trivial))),
      .list (List.forall_mem_singleton.2 hplan)⟩, rfl⟩
  have hgroup' : IsNewGroup group' := by
    unfold group'
    split
    · exact hgroup.put (by decide) (by decide) (hdescription trivial)
    · exact hgroup
  split
  · exact .ok hgroup'
  · exact Ensures.bind (P := fun _ => True) (fun _ _ => trivial) fun _ _ =>
      .ok (hgroup'.put (by decide) (by decide) (.int _))

end Service
end Storefront
