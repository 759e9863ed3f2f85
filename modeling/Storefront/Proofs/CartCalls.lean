import Mathlib.Data.List.Forall2
import Storefront.Proofs.EditFollows
import Storefront.Proofs.Sendable

/-! # Calls of the cart service

A call of the cart service that edits a cart checks what it is given, writes a request with encoded
identifiers and sends the document of the edit.  Where the router is asked itself, the call does
what the engine of carts does for the same arguments: `CartCall.run_follows`.

Only a raw identifier that holds half of a surrogate pair cannot be encoded.  A call with such an
identifier fails, while the engine would just not know it: `CartCall.unencodable_fails`. -/

namespace Storefront

open Shop

/-! ### Checked lines -/

namespace Act

/-- Checks that are made one after the other change no state. -/
theorem on_mapM_lift {σ α β : Type} (f : α → Except Fault β) (as : List α) (s : σ) :
    on (as.mapM fun a => (liftM (f a) : Act σ β)) s = (as.mapM f, s) := by
  induction as with
  | nil => rfl
  | cons a as ih =>
    rw [List.mapM_cons, List.mapM_cons, on_bind, on_lift]
    cases f a with
    | error e => rfl
    | ok b =>
      dsimp only
      rw [on_bind, ih]
      cases as.mapM f <;> rfl

/-- Where a check gives the value of a function for each item, it gives all their values. -/
theorem mapM_eq_ok {α β : Type} {f : α → Except Fault β} {g : α → β} {as : List α}
    (h : ∀ a ∈ as, f a = .ok (g a)) : as.mapM f = .ok (as.map g) := by
  induction as with
  | nil => rfl
  | cons a as ih =>
    obtain ⟨ha, has⟩ := List.forall_mem_cons.1 h
    rw [List.mapM_cons, ha, ih has]
    rfl

/-- If one check gives a value wherever another does, it does so for all items of a list. -/
theorem mapM_forall₂ {α β γ : Type} {f : α → Except Fault β} {g : α → Except Fault γ}
    {R : β → γ → Prop} {as : List α}
    (h : ∀ a ∈ as, ∀ b, f a = .ok b → ∃ c, g a = .ok c ∧ R b c) {bs : List β}
    (hbs : as.mapM f = .ok bs) : ∃ cs, as.mapM g = .ok cs ∧ List.Forall₂ R bs cs := by
  -- One element after the other; the second function succeeds wherever the first does.
  induction as generalizing bs with
  | nil =>
    obtain rfl := Except.ok.inj hbs
    exact ⟨[], rfl, .nil⟩
  | cons a as ih =>
    obtain ⟨ha, has⟩ := List.forall_mem_cons.1 h
    rw [List.mapM_cons] at hbs
    obtain ⟨b, hb, hbs⟩ := except_bind_eq_ok.1 hbs
    obtain ⟨bs, hbs', hbs⟩ := except_bind_eq_ok.1 hbs
    obtain rfl := Except.ok.inj hbs
    obtain ⟨c, hc, hbc⟩ := ha b hb
    obtain ⟨cs, hcs, hrel⟩ := ih has hbs'
    exact ⟨c :: cs, by rw [List.mapM_cons, hc, hcs]; rfl, .cons hbc hrel⟩

end Act

/-- Where a check accepts what an item is sent as, it accepts the list of what all items are sent
as. -/
theorem Checked.items_map {α : Type} {check : List PathStep → Value → Checked α}
    {toValue : α → Value}
    (h : ∀ path a, check path (toValue a) = .ok a) (path : List PathStep) (as : List α) :
    Checked.items path check (as.map toValue) = .ok as := by
  unfold Checked.items
  -- The check counts the items; the induction needs any count to start from.
  generalize 0 = start
  induction as generalizing start with
  | nil => rfl
  | cons a as ih =>
    rw [List.map_cons, List.zipIdx_cons, List.foldr_cons]
    dsimp only
    rw [h, ih]
    rfl

/-- An attribute that was checked passes the check again. -/
theorem LineAttribute.check_toValue (path : List PathStep) (a : LineAttribute) :
    LineAttribute.check path a.toValue = .ok a := by
  simp [LineAttribute.check, toValue, given, Attribute.toValue, Value.ofFields, Assoc.get?,
    Checked.text, Checked.both]

/-- Attributes that were checked pass the check again. -/
theorem LineAttribute.checkAll_map (path : List PathStep) (as : List LineAttribute) :
    LineAttribute.checkAll path (.list (as.map (·.toValue))) = .ok as :=
  Checked.items_map LineAttribute.check_toValue path as

/-- A text or null passes the check of an optional text. -/
theorem Checked.text?_ofText? (path : List PathStep) (s : Option String) :
    Checked.text? path (Value.ofText? s) = .ok s := by
  cases s <;> rfl

/-- Of what is sent to add a line, only the selling plan is yet to be checked. -/
theorem LineAddition.check_members (merchandise : String) (input : LineInput) (plan : Value) :
    check [(.text "merchandiseId", .text merchandise), (.text "quantity", .int input.quantity),
      (.text "attributes", .list (input.attributes.map (·.toValue))),
      (.text "sellingPlanId", plan)] =
      Checked.orFault ((Checked.text? [.name "sellingPlanId"] plan).map fun plan =>
        ⟨merchandise, input.quantity, input.attributes, plan⟩) := by
  cases h : Checked.text? [.name "sellingPlanId"] plan <;>
    simp [check, Checked.members, Checked.field, Assoc.get?, Key.isText, Checked.text,
      Checked.whole, LineAttribute.checkAll_map, Checked.both, Checked.orFault, h, bind,
      Except.bind, Except.map]

/-- Of what is sent to update a line, only its identifier is yet to be checked. -/
theorem LineChange.check_members (id : Value) (input : LineInput) :
    check [(.text "id", id), (.text "quantity", .int input.quantity),
      (.text "attributes", .list (input.attributes.map (·.toValue)))] =
      Checked.orFault ((Checked.text [.name "id"] id).map fun id =>
        ⟨id, input.quantity, input.attributes⟩) := by
  cases h : Checked.text [.name "id"] id <;>
    simp [check, Checked.members, Checked.field, Assoc.get?, Key.isText, Checked.whole,
      LineAttribute.checkAll_map, Checked.both, Checked.orFault, h, bind, Except.bind, Except.map]

/-! ### Identifiers -/

namespace Gid

/-- An identifier can be encoded: none of its characters is half of a surrogate pair, or it is not
raw and left alone. -/
def Encodable (id : String) : Prop := isRaw id = true → Text.Sendable id.toList

/-- Whether an identifier can be encoded is decided by its characters. -/
instance (id : String) : Decidable (Encodable id) :=
  inferInstanceAs (Decidable (isRaw id = true → Text.Sendable id.toList))

/-- An identifier that can be encoded is encoded without a failure. -/
theorem encodeText_of_encodable {id : String} (h : Encodable id) :
    encodeText id = .ok (encode id) := by
  unfold encodeText
  by_cases hraw : isRaw id = true
  · rw [if_pos hraw, Text.unencodable?_eq_none (h hraw)]
  · rw [if_neg hraw]

/-- A text that can be encoded is sent as the text of its code. -/
theorem encodeValue_of_encodable {id : String} (h : Encodable id) :
    encodeValue (.text id) = .ok (.text (encode id)) := by
  rw [encodeValue, onText, encodeText_of_encodable h]
  rfl

/-- An identifier that cannot be encoded fails. -/
theorem encodeText_of_not_encodable {id : String} (h : ¬ Encodable id) :
    ∃ fault, encodeText id = .error fault := by
  obtain ⟨hraw, lacking⟩ := Classical.not_imp.1 h
  unfold encodeText
  rw [if_pos hraw]
  cases found : Text.unencodable? id.toList with
  | none => exact absurd (Text.sendable_of_unencodable? found) lacking
  | some lacking => exact ⟨_, rfl⟩

/-- A step gives a result of some kind, or fails because one of some identifiers cannot be
encoded. -/
def Encodes {α : Type} (ids : List String) (x : Except Fault α) (P : α → Prop) : Prop :=
  (∃ a, x = .ok a ∧ P a) ∨ (∃ fault, x = .error fault) ∧ ∃ id ∈ ids, ¬ Encodable id

namespace Encodes

variable {α β : Type} {ids : List String} {x : Except Fault α} {P : α → Prop} {Q : β → Prop}

/-- A result of the kind is there without any identifier to encode. -/
theorem ok {a : α} (h : P a) : Encodes ids (.ok a) P := .inl ⟨a, rfl, h⟩

/-- Two steps made one after the other encode the same identifiers. -/
theorem bind {f : α → Except Fault β} (hx : Encodes ids x P)
    (hf : ∀ a, P a → Encodes ids (f a) Q) : Encodes ids (x >>= f) Q := by
  rcases hx with ⟨a, rfl, ha⟩ | ⟨⟨fault, rfl⟩, lacking⟩
  · exact hf a ha
  · exact .inr ⟨⟨fault, rfl⟩, lacking⟩

/-- What is made of a result afterwards needs no identifier. -/
theorem map {f : α → β} (hx : Encodes ids x P) (hf : ∀ a, P a → Q (f a)) :
    Encodes ids (x.map f) Q := by
  rcases hx with ⟨a, rfl, ha⟩ | ⟨⟨fault, rfl⟩, lacking⟩
  · exact .inl ⟨_, rfl, hf a ha⟩
  · exact .inr ⟨⟨fault, rfl⟩, lacking⟩

/-- More identifiers may be blamed, and less may be said of the result. -/
theorem mono {ids' : List String} (hx : Encodes ids x P) (h : ∀ id ∈ ids, id ∈ ids')
    {P' : α → Prop} (hP : ∀ a, P a → P' a) : Encodes ids' x P' := by
  rcases hx with ⟨a, hx, ha⟩ | ⟨hx, id, mem, lacking⟩
  · exact .inl ⟨a, hx, hP a ha⟩
  · exact .inr ⟨hx, id, h id mem, lacking⟩

/-- Where all identifiers can be encoded, there is a result. -/
theorem of_encodable (hx : Encodes ids x P) (h : ∀ id ∈ ids, Encodable id) :
    ∃ a, x = .ok a ∧ P a := by
  rcases hx with given | ⟨-, id, mem, lacking⟩
  · exact given
  · exact absurd (h id mem) lacking

end Encodes

/-- Encoding one of the identifiers gives its code, or fails because of it. -/
theorem encodeText_encodes {id : String} {ids : List String} (h : id ∈ ids) :
    Encodes ids (encodeText id) (· = encode id) := by
  by_cases encodable : Encodable id
  · exact .inl ⟨_, encodeText_of_encodable encodable, rfl⟩
  · exact .inr ⟨encodeText_of_not_encodable encodable, id, h, encodable⟩

/-- Encoding the value of an identifier does the same. -/
theorem encodeValue_encodes {id : String} {ids : List String} (h : id ∈ ids) :
    Encodes ids (encodeValue (.text id)) (· = .text (encode id)) := by
  rw [encodeValue, onText]
  exact (encodeText_encodes h).map fun _ encoded => congrArg Value.text encoded

end Gid

/-! ### What is sent for a line -/

/-- What the engine is given for a line. -/
def LineInput.request (idName id : String) (input : LineInput) : Value :=
  .ofFields [(idName, .text id), ("quantity", .int input.quantity),
    ("attributes", .list (input.attributes.map (·.toValue)))]

/-- The line that is sent for a line has its identifier encoded; what else is sent with it is not
looked at. -/
theorem LineInput.sent_request {idName : String} (hq : idName ≠ "quantity")
    (ha : idName ≠ "attributes") (id : String) (input : LineInput) (rest : List (String × Value)) :
    Sent idName (input.request idName id)
      (.ofFields ([(idName, .text (Gid.encode id)), ("quantity", .int input.quantity),
        ("attributes", .list (input.attributes.map (·.toValue)))] ++ rest)) where
  id := ⟨id, by simp [request, Value.ofFields, Assoc.get?], by simp [Value.ofFields, Assoc.get?]⟩
  quantity := by simp [request, Value.ofFields, Assoc.get?, hq]
  attributes := by simp [request, Value.ofFields, Assoc.get?, ha]

namespace Service

/-- What is sent to add a line: its variant is made an identifier. -/
theorem additionOf_encodes {plan : Option String} {variant : String} {line : Value}
    {input : LineInput} (hline : LineInput.coerce line = .ok input) :
    Gid.Encodes (Gid.normalise Gid.variantPrefix variant :: plan.toList)
      (additionOf (Value.ofText? plan) (.text variant) line)
      (· = LineAddition.toValue ⟨Gid.encode (Gid.normalise Gid.variantPrefix variant),
        input.quantity, input.attributes, plan.map Gid.encode⟩) := by
  -- A selling plan is optional, and null is sent as null.
  have planId : Gid.Encodes (Gid.normalise Gid.variantPrefix variant :: plan.toList)
      (Gid.encodeValue (Value.ofText? plan)) (· = Value.ofText? (plan.map Gid.encode)) := by
    cases plan with
    | none => exact .ok rfl
    | some p => exact Gid.encodeValue_encodes (List.mem_cons_of_mem _ List.mem_cons_self)
  unfold additionOf
  rw [hline]
  -- The variant is encoded first, then the plan; the check that follows finds nothing wrong.
  refine (Gid.encodeText_encodes List.mem_cons_self).bind fun merchandise hmerchandise => ?_
  refine planId.bind fun planId hplanId => ?_
  subst hmerchandise hplanId
  rw [LineAddition.check_members, Checked.text?_ofText?]
  exact .ok rfl

/-- What is sent to update a line. -/
theorem changeOf_encodes {id : String} {line : Value} {input : LineInput}
    (hline : LineInput.coerce line = .ok input) :
    Gid.Encodes [id] (changeOf (.text id) line)
      (· = LineChange.toValue ⟨Gid.encode id, input.quantity, input.attributes⟩) := by
  unfold changeOf
  rw [hline]
  refine (Gid.encodeValue_encodes List.mem_cons_self).bind fun lineId hlineId => ?_
  subst hlineId
  rw [LineChange.check_members]
  exact .ok rfl

/-- A line that is to be added is sent, with its variant made an identifier. -/
theorem additionOf_sent {plan : Option String} (hplan : ∀ p ∈ plan, Gid.Encodable p)
    {variant : String} (hid : Gid.Encodable (Gid.normalise Gid.variantPrefix variant))
    {line : Value}
    {input : LineInput} (hline : LineInput.coerce line = .ok input)
    (hnull : ∀ a ∈ input.attributes, a.value.isNull = false) :
    ∃ sent, additionOf (Value.ofText? plan) (.text variant) line = .ok sent ∧
      Sent "merchandiseId"
        (input.request "merchandiseId" (Gid.normalise Gid.variantPrefix variant)) sent := by
  -- The attributes are sent without their nulls, and none of them is null.
  have sparse : input.attributes.map (·.toValueSparse) = input.attributes.map (·.toValue) :=
    List.map_congr_left fun a ha => a.given.toValueSparse_eq_iff.2 (hnull a ha)
  have encodable : ∀ id ∈ Gid.normalise Gid.variantPrefix variant :: plan.toList,
      Gid.Encodable id :=
    List.forall_mem_cons.2 ⟨hid, fun p hp => hplan p (Option.mem_toList.1 hp)⟩
  obtain ⟨_, hsent, rfl⟩ := (additionOf_encodes hline).of_encodable encodable
  refine ⟨_, hsent, ?_⟩
  rw [LineAddition.toValue, sparse]
  exact input.sent_request (by decide) (by decide) _ _

/-- A line that is to be updated is sent. -/
theorem changeOf_sent {id : String} (hid : Gid.Encodable id) {line : Value}
    {input : LineInput} (hline : LineInput.coerce line = .ok input) :
    ∃ sent, changeOf (.text id) line = .ok sent ∧ Sent "id" (input.request "id" id) sent := by
  obtain ⟨_, hsent, rfl⟩ := (changeOf_encodes hline).of_encodable (List.forall_mem_singleton.2 hid)
  exact ⟨_, hsent, input.sent_request (by decide) (by decide) _ []⟩

end Service

/-! ### Calls -/

/-- A call of the cart service that edits a cart. -/
inductive CartCall where
  /-- Lines to be added are given by their variants, and may share a selling plan. -/
  | addLines (lines : List (String × Value)) (plan : Option String)
  | updateLines (lines : List (String × Value))
  | removeLines (lineIds : List String)
  | setNote (note : Value)
  | setAttribute (key value : Value)
  | setDiscount (codes : Value)

namespace CartCall

/-- Calls the service for a cart. -/
def run (cartId : String) : CartCall → Act Service Value
  | addLines lines plan => Service.addLines (.text cartId) (.ofFields lines) (Value.ofText? plan)
  | updateLines lines => Service.updateLines (.text cartId) (.ofFields lines)
  | removeLines lineIds => Service.removeLines (.text cartId) (Value.texts lineIds)
  | setNote note => Service.setNote (.text cartId) note
  | setAttribute key value => Service.setAttribute (.text cartId) key value
  | setDiscount codes => Service.setDiscountCodes (.text cartId) codes

/-- The edit that a call stands for: variants are made identifiers, and lines are read as quantities
with attributes. -/
def edit : CartCall → Except Fault CartEdit
  | addLines lines _ => do
    let lines ← lines.mapM fun (variant, line) => do
      let input ← LineInput.coerce line
      return input.request "merchandiseId" (Gid.normalise Gid.variantPrefix variant)
    return .addLines (.list lines)
  | updateLines lines => do
    let lines ← lines.mapM fun (id, line) => do
      let input ← LineInput.coerce line
      return input.request "id" id
    return .updateLines (.list lines)
  | removeLines lineIds => return .removeLines (Value.texts lineIds)
  | setNote note => return .setNote note
  | setAttribute key value => return .setAttribute key value
  | setDiscount codes => return .setDiscount (.list (← codes.elements))

/-- The identifiers that a call names besides that of the cart. -/
def ids : CartCall → List String
  | addLines lines plan => lines.map (Gid.normalise Gid.variantPrefix ·.1) ++ plan.toList
  | updateLines lines => lines.map (·.1)
  | removeLines lineIds => lineIds
  | _ => []

/-- No attribute of a line that is to be added has the value null, which would not be sent. -/
def LacksNull : CartCall → Prop
  | addLines lines _ => ∀ p ∈ lines, ∀ input, LineInput.coerce p.2 = .ok input →
      ∀ a ∈ input.attributes, a.value.isNull = false
  | _ => True

variable {call : CartCall} {cartId : String} {e : CartEdit}

/-- A call sends the document of an edit that does the same for the cart as `e`. -/
def Sends (call : CartCall) (cartId : String) (e : CartEdit) : Prop :=
  ∃ (sent : CartEdit) (l : List Value), sent.listed = .ok l ∧
    (∀ v, Act.on (call.run cartId) v = Act.on (Service.mutate sent.operation
      (sent.operation.document "") (sent.vars (Gid.encode cartId))) v) ∧
    ∀ s, Act.on (sent.run (.text (Gid.encode cartId)) .null) s =
      Act.on (e.run (.text cartId) .null) s

/-- The cart is the same for the engine whether its identifier is sent raw or encoded. -/
theorem decodeValue_encode (cartId : String) :
    Gid.decodeValue (.text (Gid.encode cartId)) = Gid.decodeValue (.text cartId) := by
  simp

/-- Where each line is sent as what it is read as, all lines are. -/
theorem mapM_sent {lines : List (String × Value)} {raw : List Value} {field : String}
    (named : String → String) (send : Key → Value → Except Fault Value)
    (each : ∀ p ∈ lines, ∀ input, LineInput.coerce p.2 = .ok input →
      ∃ sent, send (.text p.1) p.2 = .ok sent ∧ Sent field (input.request field (named p.1)) sent)
    (hraw : (lines.mapM fun (name, line) => do
      let input ← LineInput.coerce line
      return input.request field (named name)) = .ok raw) :
    ∃ sent, List.Forall₂ (Sent field) raw sent ∧ ∀ v,
      Act.on ((lines.map fun p => (Key.text p.1, p.2)).mapM fun p =>
        (liftM (send p.1 p.2) : Act Service Value)) v = (.ok sent, v) := by
  -- The lines that are read and the lines that are sent come from the same list, item by item.
  obtain ⟨sent, hsent, same⟩ := Act.mapM_forall₂ (g := fun p : String × Value =>
    send (.text p.1) p.2) (R := Sent field)
    (fun p hp b hb => by
      obtain ⟨input, hinput, hb⟩ := Act.except_bind_eq_ok.1 hb
      obtain rfl := Except.ok.inj hb
      exact each p hp input hinput) hraw
  refine ⟨sent, same, fun v => ?_⟩
  rw [List.mapM_map, ← hsent]
  exact Act.on_mapM_lift _ lines v

/-- Adding lines sends the document of an addition of the same lines. -/
theorem addLines_sends {lines : List (String × Value)} {plan : Option String}
    (he : (addLines lines plan).edit = .ok e) (hcart : Gid.Encodable cartId)
    (hids : ∀ id ∈ (addLines lines plan).ids, Gid.Encodable id)
    (hnull : (addLines lines plan).LacksNull) : (addLines lines plan).Sends cartId e := by
  obtain ⟨raw, hraw, he⟩ := Act.except_bind_eq_ok.1 he
  obtain rfl := Except.ok.inj he
  obtain ⟨hvariants, hplan⟩ := List.forall_mem_append.1 hids
  obtain ⟨sent, same, additions⟩ := mapM_sent (Gid.normalise Gid.variantPrefix)
    (Service.additionOf (Value.ofText? plan)) (fun p hp input hinput =>
      Service.additionOf_sent (fun id hid => hplan id (Option.mem_toList.2 hid))
        (hvariants _ (List.mem_map_of_mem hp)) hinput (hnull p hp input hinput)) hraw
  -- The engine adds what is sent as it adds what was read: the lines differ in nothing it looks at.
  refine ⟨.addLines (.list sent), sent, Value.elementsOrNone_list _, fun v => ?_,
    CartEdit.run_congr (decodeValue_encode cartId) (Value.elementsOrNone_list _)
      (Value.elementsOrNone_list _) fun kc => withAdditions_sent same _ kc⟩
  -- The call checks the lines, encodes the cart, and only then asks.
  rw [run, Service.addLines, Value.ofFields, Value.asRecord, Act.on_bind_of_ok (Act.on_lift _ v),
    Act.on_bind_of_ok (additions v), Gid.encodeValue_of_encodable hcart,
    Act.on_bind_of_ok (Act.on_lift _ v)]
  rfl

/-- Updating lines sends the document of an update of the same lines. -/
theorem updateLines_sends {lines : List (String × Value)}
    (he : (updateLines lines).edit = .ok e) (hcart : Gid.Encodable cartId)
    (hids : ∀ id ∈ (updateLines lines).ids, Gid.Encodable id) :
    (updateLines lines).Sends cartId e := by
  obtain ⟨raw, hraw, he⟩ := Act.except_bind_eq_ok.1 he
  obtain rfl := Except.ok.inj he
  obtain ⟨sent, same, changes⟩ := mapM_sent (fun id => id) Service.changeOf
    (fun p hp input hinput => Service.changeOf_sent (hids _ (List.mem_map_of_mem hp)) hinput) hraw
  refine ⟨.updateLines (.list sent), sent, Value.elementsOrNone_list _, fun v => ?_,
    CartEdit.run_congr (decodeValue_encode cartId) (Value.elementsOrNone_list _)
      (Value.elementsOrNone_list _) fun kc => congrArg liftM (withUpdates_sent same kc)⟩
  -- As for an addition, the lines come before the cart.
  rw [run, Service.updateLines, Value.ofFields, Value.asRecord,
    Act.on_bind_of_ok (Act.on_lift _ v), Act.on_bind_of_ok (changes v),
    Gid.encodeValue_of_encodable hcart, Act.on_bind_of_ok (Act.on_lift _ v)]
  rfl

/-- Removing lines sends the document of a removal of the same lines, with encoded identifiers. -/
theorem removeLines_sends {lineIds : List String} (hcart : Gid.Encodable cartId)
    (hids : ∀ id ∈ lineIds, Gid.Encodable id) :
    (removeLines lineIds).Sends cartId (.removeLines (Value.texts lineIds)) := by
  refine ⟨.removeLines (.list (lineIds.map fun id => .text (Gid.encode id))), _,
    Value.elementsOrNone_list _, fun v => ?_,
    CartEdit.run_congr (decodeValue_encode cartId) (Value.elementsOrNone_list _)
      (Value.elementsOrNone_list _) fun kc => congrArg liftM (withRemovals_encode lineIds kc)⟩
  -- The cart is encoded first here, then each line.
  have encoded : Act.on ((lineIds.map Value.text).mapM fun v =>
      (liftM (Gid.encodeValue v) : Act Service Value)) v =
      (.ok (lineIds.map fun id => .text (Gid.encode id)), v) := by
    have each : ∀ id ∈ lineIds, (Gid.encodeValue ∘ Value.text) id = .ok (.text (Gid.encode id)) :=
      fun id hid => Gid.encodeValue_of_encodable (hids id hid)
    rw [Act.on_mapM_lift, List.mapM_map, Act.mapM_eq_ok each]
  rw [run, Service.removeLines, Gid.encodeValue_of_encodable hcart,
    Act.on_bind_of_ok (Act.on_lift _ v), Value.texts, Value.elements_list,
    Act.on_bind_of_ok (Act.on_lift _ v), Act.on_bind_of_ok encoded]
  rfl

/-- A call sends the document of an edit that does the same as the one it stands for. -/
theorem run_sends (he : call.edit = .ok e) (hcart : Gid.Encodable cartId)
    (hids : ∀ id ∈ call.ids, Gid.Encodable id) (hnull : call.LacksNull) :
    call.Sends cartId e := by
  -- The other edits send what they are given as it is, and only the cart is encoded.
  have cart := Gid.encodeValue_of_encodable hcart
  have sameCart := decodeValue_encode cartId
  cases call with
  | addLines lines plan => exact addLines_sends he hcart hids hnull
  | updateLines lines => exact updateLines_sends he hcart hids
  | removeLines lineIds =>
    obtain rfl := Except.ok.inj he
    exact removeLines_sends hcart hids
  | setNote note =>
    obtain rfl := Except.ok.inj he
    refine ⟨.setNote note, [], rfl, fun v => ?_, CartEdit.run_congr sameCart rfl rfl fun _ => rfl⟩
    rw [run, Service.setNote, cart, Act.on_bind_of_ok (Act.on_lift _ v)]
    rfl
  | setAttribute key value =>
    obtain rfl := Except.ok.inj he
    refine ⟨.setAttribute key value, [], rfl, fun v => ?_,
      CartEdit.run_congr sameCart rfl rfl fun _ => rfl⟩
    rw [run, Service.setAttribute, cart, Act.on_bind_of_ok (Act.on_lift _ v)]
    rfl
  | setDiscount codes =>
    obtain ⟨cs, hcs, he⟩ := Act.except_bind_eq_ok.1 he
    obtain rfl := Except.ok.inj he
    refine ⟨.setDiscount (.list cs), cs, Value.elementsOrNone_list _, fun v => ?_,
      CartEdit.run_congr sameCart (Value.elementsOrNone_list _) (Value.elementsOrNone_list _)
        fun _ => rfl⟩
    rw [run, Service.setDiscountCodes, cart, Act.on_bind_of_ok (Act.on_lift _ v), hcs,
      Act.on_bind_of_ok (Act.on_lift _ v)]
    rfl

/-- A call that sends the document of an edit does the edit at a router that is asked itself. -/
theorem Sends.follows {v : Service} (sends : call.Sends cartId e)
    (h : Reachable v.client.network.shop) (hroute : v.client.network.route = .inProcess)
    {hasFactory : Bool} (hrouter : v.client.network.router = .standard (factoryOf hasFactory)) :
    v.Follows cartId (Act.on (call.run cartId) v)
      (Act.on (e.run (.text cartId) .null) v.client.network.shop) := by
  obtain ⟨sent, l, hl, sent_eq, same⟩ := sends
  have follows := Service.mutate_follows (Gid.encode cartId) (factoryOf_cases hasFactory) h hroute
    hrouter hl
  rw [← sent_eq, same] at follows
  exact ⟨Gid.decode_encode cartId ▸ follows.answered, follows.refused⟩

/-- A call of the cart service that asks the router itself does what the engine of carts does for
the same cart in its own market: the shop is left as the engine leaves it, and the call answers with
the raw identifier of the cart where the engine answers with a cart, and with null and one more
error where it rejects or fails. -/
theorem run_follows {v : Service} (h : Reachable v.client.network.shop)
    (hroute : v.client.network.route = .inProcess) {hasFactory : Bool}
    (hrouter : v.client.network.router = .standard (factoryOf hasFactory)) (he : call.edit = .ok e)
    (hcart : Gid.Encodable cartId) (hids : ∀ id ∈ call.ids, Gid.Encodable id)
    (hnull : call.LacksNull) :
    v.Follows cartId (Act.on (call.run cartId) v)
      (Act.on (e.run (.text cartId) .null) v.client.network.shop) :=
  (run_sends he hcart hids hnull).follows h hroute hrouter

/-- A service that asks the router of a shop itself. -/
def serviceOf (shop : Shop) : Service :=
  .new (.new shop (.standard (factoryOf true)) .inProcess .normal) true

/-- The shop of such a service is the shop it is made for. -/
theorem serviceOf_shop (shop : Shop) : (serviceOf shop).client.network.shop = shop := rfl

/-- A call that adds a piece of a variant. -/
def sampleCall : CartCall := .addLines [("1", .int 1)] none

/-- The edit that the sample call stands for. -/
def sampleEdit : CartEdit := .addLines
  (.list [LineInput.request "merchandiseId" (Gid.variantPrefix ++ "1") ⟨1, []⟩])

/-- The call of the sample does what the engine does with a line for an identifier. -/
theorem run_follows_sample :
    Reachable (serviceOf sample).client.network.shop ∧
      (serviceOf sample).client.network.route = .inProcess ∧
      (serviceOf sample).client.network.router = .standard (factoryOf true) ∧
      sampleCall.edit = .ok sampleEdit ∧ Gid.Encodable sampleId ∧
      (∀ id ∈ sampleCall.ids, Gid.Encodable id) ∧ sampleCall.LacksNull ∧
      (serviceOf sample).Follows sampleId (Act.on (sampleCall.run sampleId) (serviceOf sample))
        (Act.on (sampleEdit.run (.text sampleId) .null)
          (serviceOf sample).client.network.shop) := by
  have reached : Reachable (serviceOf sample).client.network.shop := by
    rw [serviceOf_shop]
    exact reachable_sample
  -- What the call reads from its arguments is computed; the rest is the general theorem.
  have edit : sampleCall.edit = .ok sampleEdit := by
    have variant : Gid.normalise Gid.variantPrefix "1" = Gid.variantPrefix ++ "1" := by
      decide +kernel
    have one : LineInput.coerce (.int 1) = .ok ⟨1, []⟩ := rfl
    simp only [sampleCall, CartCall.edit, List.mapM_cons, List.mapM_nil, one, variant]
    rfl
  have cart : Gid.Encodable sampleId := by decide +kernel
  have ids : ∀ id ∈ sampleCall.ids, Gid.Encodable id := by decide +kernel
  have lacksNull : sampleCall.LacksNull := by
    intro p hp input hinput
    obtain rfl := List.mem_singleton.1 hp
    obtain rfl := Except.ok.inj hinput
    exact nofun
  exact ⟨reached, rfl, rfl, edit, cart, ids, lacksNull,
    run_follows (v := serviceOf sample) reached rfl rfl edit cart ids lacksNull⟩

/-- A raw identifier with half of a surrogate pair in it. -/
def unencodableId : String := "gid:" ++ String.ofList [Text.standIn 0xd800]

/-- The engine knows no cart of such an identifier and answers with none, but the call of the
service fails before anything is sent, and collects no error. -/
theorem unencodable_fails :
    let called := Act.on ((setNote "Thanks").run unencodableId) (serviceOf sample)
    Reachable (serviceOf sample).client.network.shop ∧
      (setNote "Thanks").edit = .ok (.setNote "Thanks") ∧
      Act.on ((CartEdit.setNote "Thanks").run (.text unencodableId) .null) sample =
        (.ok none, sample) ∧
      called.1 ≠ .ok .null ∧ called.2.errors = (serviceOf sample).errors := by
  have reached : Reachable (serviceOf sample).client.network.shop := by
    rw [serviceOf_shop]
    exact reachable_sample
  -- The identifier is raw and names no cart of the shop.
  have missing : Act.on (findCart (.text unencodableId)) sample = (.ok none, sample) := by
    have unknown : (Act.on (hasCart (.text unencodableId)) sample).1.toOption = some false := by
      decide +kernel
    rcases hasCart_cases reachable_sample.kept unencodableId with ⟨-, missing⟩ | ⟨known, -⟩
    · exact missing
    · rw [known] at unknown
      cases unknown
  -- Encoding it fails before a request is made.
  obtain ⟨fault, unencodable⟩ : ∃ fault, Gid.encodeValue (.text unencodableId) = .error fault := by
    have lacks : (Gid.encodeText unencodableId).toBool = false := by decide +kernel
    rw [Gid.encodeValue, Gid.onText]
    cases hf : Gid.encodeText unencodableId with
    | error fault => exact ⟨fault, rfl⟩
    | ok t => rw [hf] at lacks; cases lacks
  have failed : Act.on ((setNote "Thanks").run unencodableId) (serviceOf sample) =
      (.error fault, serviceOf sample) := by
    rw [run, Service.setNote, unencodable]
    rfl
  dsimp only
  rw [failed]
  exact ⟨reached, rfl, Answer.on_run_of_not_found (e := .setNote "Thanks") rfl missing,
    (fun h => by cases h), rfl⟩

end CartCall
end Storefront
