import Storefront.Proofs.CartCalls

/-! # Attributes that are sent with lines

A line that is to be added or updated is sent with the attributes that are given for it, in their
order.  An update sends the key and the value of each.  An addition leaves a value out where it is
null, so that the two send the same attributes just if no value is null.

* `LineInput.attributes_given` : the attributes of a line that is read are those that are given
* `CartCall.addLines_sendsLines`, `CartCall.updateLines_sendsLines` : what the two calls send
* `CartCall.attributes_sent` : what they send for the same lines
* `CartCall.null_left_out` : a value that is left out -/

namespace Storefront

open Shop

/-! ### Given attributes -/

/-- Leaving nulls out changes nothing exactly when there is none. -/
theorem Attribute.map_toValueSparse_eq_iff (as : List Attribute) :
    as.map toValueSparse = as.map toValue ↔ ∀ a ∈ as, a.value.isNull = false := by
  rw [List.map_inj_left]
  exact forall₂_congr fun a _ => a.toValueSparse_eq_iff

/-- Both checks passed when their combination did. -/
theorem Checked.both_eq_ok {α β γ : Type} {f : α → β → γ} {x : Checked α} {y : Checked β} {c : γ}
    (h : both f x y = .ok c) : ∃ a b, x = .ok a ∧ y = .ok b ∧ f a b = c := by
  cases x <;> cases y <;> cases h
  exact ⟨_, _, rfl, rfl, rfl⟩

/-- A fault for failed checks is raised only when one failed. -/
theorem Checked.orFault_eq_ok {α : Type} {x : Checked α} {a : α} (h : x.orFault = .ok a) :
    x = .ok a := by
  cases x <;> cases h
  rfl

/-- Where a check gives what it was given, so does that of all items of a list. -/
theorem Checked.items_given {α β : Type} {check : List PathStep → Value → Checked α}
    {toValue : β → Value} {given : α → β}
    (each : ∀ path b a, check path (toValue b) = .ok a → b = given a) {path : List PathStep}
    {bs : List β} {as : List α} (h : Checked.items path check (bs.map toValue) = .ok as) :
    bs = as.map given := by
  unfold Checked.items at h
  -- The places of the items count on from any start; what is given does not depend on them.
  generalize 0 = start at h
  induction bs generalizing start as with
  | nil =>
    obtain rfl := Except.ok.inj h
    rfl
  | cons b bs ih =>
    rw [List.map_cons, List.zipIdx_cons, List.foldr_cons] at h
    obtain ⟨a, as', ha, has, rfl⟩ := Checked.both_eq_ok h
    rw [List.map_cons, ← each _ b a ha, ← ih _ has]

/-- The value of a text field is a text. -/
theorem Checked.text_eq_ok {path : List PathStep} {v : Value} {s : String}
    (h : text path v = .ok s) : v = .text s := by
  unfold text at h
  split at h <;> cases h
  rfl

/-- A checked attribute is the one that was given. -/
theorem LineAttribute.check_given (path : List PathStep) (a : Attribute) (checked : LineAttribute)
    (h : check path a.toValue = .ok checked) : a = checked.given := by
  obtain ⟨key, value, hkey, hvalue, rfl⟩ := Checked.both_eq_ok h
  obtain ⟨k, v⟩ := a
  have key_eq : k = .text key := Checked.text_eq_ok hkey
  have value_eq : v = value := Except.ok.inj hvalue
  rw [key_eq, value_eq]
  rfl

/-- The attributes that a caller gives for a line; a bare quantity has none. -/
def LineInput.given (line : Value) : Except Fault (List Attribute) :=
  match line with
  | .record _ => do Attribute.format ((← line.member "attributes").orElse (.record []))
  | _ => .ok []

/-- The attributes of a line that is read are those that are given for it. -/
theorem LineInput.attributes_given {line : Value} {input : LineInput}
    (h : coerce line = .ok input) : given line = .ok (input.attributes.map (·.given)) := by
  unfold coerce at h
  split at h
  · obtain ⟨quantity, -, h⟩ := Act.except_bind_eq_ok.1 h
    obtain ⟨attributes, hattributes, h⟩ := Act.except_bind_eq_ok.1 h
    obtain ⟨formatted, hformatted, h⟩ := Act.except_bind_eq_ok.1 h
    obtain ⟨n, checked, -, hchecked, rfl⟩ := Checked.both_eq_ok (Checked.orFault_eq_ok h)
    have same : formatted = checked.map (·.given) :=
      Checked.items_given LineAttribute.check_given hchecked
    rw [given, hattributes]
    exact hformatted.trans (congrArg Except.ok same)
  · -- A bare quantity; no other value has members to look for.
    rename_i bare
    obtain ⟨n, -, h⟩ := Act.except_bind_eq_ok.1 h
    obtain rfl := Except.ok.inj h
    unfold given
    split
    · exact absurd rfl (bare _)
    · rfl

/-- The attributes of lines that are read are those that are given for them. -/
theorem LineInput.mapM_given {lines : List Value} {inputs : List LineInput}
    (h : lines.mapM coerce = .ok inputs) :
    lines.mapM given = .ok (inputs.map fun input => input.attributes.map (·.given)) := by
  obtain ⟨attributes, hattributes, same⟩ := Act.mapM_forall₂ (g := given)
    (R := fun input as => input.attributes.map (·.given) = as)
    (fun line _ input hinput => ⟨_, attributes_given hinput, rfl⟩) h
  rw [hattributes]
  rw [← List.forall₂_map_left_iff, List.forall₂_eq_eq_eq] at same
  exact congrArg Except.ok same.symm

/-! ### Lines that are sent -/

namespace CartCall

/-- A call sends lines with some attributes, unless one of its identifiers cannot be encoded; it
fails then, before anything is sent. -/
def SendsLines (call : CartCall) (cartId : String) (o : Operation) (document : String)
    (attributes : List Value) : Prop :=
  ∃ vars : Except Fault Value,
    (∀ s, Act.on (call.run cartId) s = Act.on (liftM vars >>= Service.mutate o document) s) ∧
    Gid.Encodes (cartId :: call.ids) vars fun vars => ∃ lines : List Value,
      vars = .ofFields [("cartId", .text (Gid.encode cartId)), ("lines", .list lines)] ∧
      lines.mapM (·.member "attributes") = .ok attributes

variable {lines : List (String × Value)} {inputs : List LineInput}

/-- Where each line is sent with some attributes, all lines are. -/
theorem encodes_mapM {ids : List String} {send : String × Value → Except Fault Value}
    {attributes : LineInput → Value}
    (each : ∀ p ∈ lines, ∀ input, LineInput.coerce p.2 = .ok input →
      Gid.Encodes ids (send p) fun sent => sent.member "attributes" = .ok (attributes input))
    (hinputs : (lines.map Prod.snd).mapM LineInput.coerce = .ok inputs) :
    Gid.Encodes ids (lines.mapM send) fun sent =>
      sent.mapM (·.member "attributes") = .ok (inputs.map attributes) := by
  -- Line by line; the encoding may fail at any of them, and then nothing is sent.
  induction lines generalizing inputs with
  | nil =>
    obtain rfl := Except.ok.inj hinputs
    exact .ok rfl
  | cons p lines ih =>
    obtain ⟨first, others⟩ := List.forall_mem_cons.1 each
    rw [List.map_cons, List.mapM_cons] at hinputs
    obtain ⟨input, hinput, hinputs⟩ := Act.except_bind_eq_ok.1 hinputs
    obtain ⟨inputs, hothers, hinputs⟩ := Act.except_bind_eq_ok.1 hinputs
    obtain rfl := Except.ok.inj hinputs
    rw [List.mapM_cons]
    refine (first input hinput).bind fun sent hsent => (ih others hothers).bind fun more hmore => ?_
    refine .ok ?_
    rw [List.mapM_cons, hsent, hmore]
    rfl

/-- Preparing lines reads nothing of the service and leaves it. -/
theorem on_mapM_fields (send : Key → Value → Except Fault Value) (lines : List (String × Value))
    (s : Service) :
    Act.on ((lines.map fun (name, line) => (Key.text name, line)).mapM
      fun (name, line) => (liftM (send name line) : Act Service Value)) s =
      (lines.mapM fun p => send (.text p.1) p.2, s) := by
  rw [List.mapM_map]
  exact Act.on_mapM_lift _ lines s

/-- A call that sends each line with some attributes sends all lines with theirs. -/
theorem sendsLines_of_each {call : CartCall} {cartId : String} {o : Operation} {document : String}
    {attributes : LineInput → Value} (send : Key → Value → Except Fault Value)
    (run_eq : call.run cartId = do
      let sent ← (← (Value.ofFields lines).asRecord).mapM fun (name, line) =>
        liftM (send name line)
      Service.mutate o document
        (.ofFields [("cartId", ← Gid.encodeValue (.text cartId)), ("lines", .list sent)]))
    (each : ∀ p ∈ lines, ∀ input, LineInput.coerce p.2 = .ok input →
      Gid.Encodes call.ids (send (.text p.1) p.2) fun sent =>
        sent.member "attributes" = .ok (attributes input))
    (hinputs : (lines.map Prod.snd).mapM LineInput.coerce = .ok inputs) :
    call.SendsLines cartId o document (inputs.map attributes) := by
  refine ⟨do
    let sent ← lines.mapM fun p => send (.text p.1) p.2
    return .ofFields [("cartId", ← Gid.encodeValue (.text cartId)), ("lines", .list sent)], ?_, ?_⟩
  · -- Nothing is sent before all lines and then the cart are encoded.
    intro s
    rw [run_eq, Value.ofFields, Value.asRecord, Act.on_bind_of_ok (Act.on_lift _ s),
      Act.on_bind, on_mapM_fields, Act.on_bind, Act.on_lift]
    cases lines.mapM fun p => send (.text p.1) p.2 with
    | error fault => rfl
    | ok sent =>
      dsimp only
      rw [Act.on_bind, Act.on_lift]
      cases Gid.encodeValue (.text cartId) <;> rfl
  · refine ((encodes_mapM each hinputs).mono (fun _ => List.mem_cons_of_mem _) fun _ h => h).bind
      fun sent hsent => (Gid.encodeValue_encodes List.mem_cons_self).bind fun cart hcart => ?_
    subst hcart
    exact .ok ⟨sent, rfl, hsent⟩

/-- Lines are added without the values of attributes that are null. -/
theorem addLines_sendsLines (cartId : String) (plan : Option String)
    (hinputs : (lines.map Prod.snd).mapM LineInput.coerce = .ok inputs) :
    (addLines lines plan).SendsLines cartId .cartLinesAdd Document.cartLinesAdd
      (inputs.map fun input => .list (input.attributes.map (·.given.toValueSparse))) := by
  refine sendsLines_of_each (Service.additionOf (Value.ofText? plan)) rfl
    (fun p hp input hinput => ?_) hinputs
  refine (Service.additionOf_encodes hinput).mono (fun id hid => ?_) fun sent hsent => hsent ▸ rfl
  rcases List.mem_cons.1 hid with rfl | hid
  · exact List.mem_append_left _ (List.mem_map_of_mem hp)
  · exact List.mem_append_right _ hid

/-- Lines are updated with all that is given. -/
theorem updateLines_sendsLines (cartId : String)
    (hinputs : (lines.map Prod.snd).mapM LineInput.coerce = .ok inputs) :
    (updateLines lines).SendsLines cartId .cartLinesUpdate Document.cartLinesUpdate
      (inputs.map fun input => .list (input.attributes.map (·.given.toValue))) := by
  refine sendsLines_of_each Service.changeOf rfl (fun p hp input hinput => ?_) hinputs
  refine (Service.changeOf_encodes hinput).mono (fun id hid => ?_) fun sent hsent => hsent ▸ rfl
  obtain rfl := List.mem_singleton.1 hid
  exact List.mem_map_of_mem hp

/-- Lines that are added and updated with the same are sent with the same attributes just if no
value that is given is null: both calls send the keys that are given, in order, an update each with
its value, an addition with its value unless that is null. -/
theorem attributes_sent {lines : List Value} {inputs : List LineInput}
    (hinputs : lines.mapM LineInput.coerce = .ok inputs) {added updated : List (String × Value)}
    (hadded : added.map Prod.snd = lines) (hupdated : updated.map Prod.snd = lines)
    (cartId : String) (plan : Option String) :
    ∃ given : List (List Attribute), lines.mapM LineInput.given = .ok given ∧
      (addLines added plan).SendsLines cartId .cartLinesAdd Document.cartLinesAdd
        (given.map fun as => .list (as.map Attribute.toValueSparse)) ∧
      (updateLines updated).SendsLines cartId .cartLinesUpdate Document.cartLinesUpdate
        (given.map fun as => .list (as.map Attribute.toValue)) ∧
      ∀ as ∈ given, as.map Attribute.toValueSparse = as.map Attribute.toValue ↔
        ∀ a ∈ as, a.value.isNull = false := by
  refine ⟨_, LineInput.mapM_given hinputs, ?_, ?_,
    fun as _ => Attribute.map_toValueSparse_eq_iff as⟩
  · -- additions leave nulls out
    simpa only [List.map_map, Function.comp_def] using
      addLines_sendsLines cartId plan (hadded ▸ hinputs)
  · -- updates do not
    simpa only [List.map_map, Function.comp_def] using
      updateLines_sendsLines cartId (hupdated ▸ hinputs)

/-- A line of one piece with an attribute. -/
def giftLine (value : Value) : Value :=
  .ofFields [("quantity", .int 1), ("attributes", .ofFields [("gift", value)])]

/-- A line that is added for a variant, and to another line of a cart. -/
theorem attributes_sent_sample :
    let lines := [giftLine "yes", .int 2]
    let inputs : List LineInput := [⟨1, [⟨"gift", "yes"⟩]⟩, ⟨2, []⟩]
    let added := [("1", giftLine "yes"), ("2", .int 2)]
    let updated := [("gid://shopify/CartLine/1", giftLine "yes"),
      ("gid://shopify/CartLine/2", .int 2)]
    lines.mapM LineInput.coerce = .ok inputs ∧ added.map Prod.snd = lines ∧
      updated.map Prod.snd = lines ∧
      ∃ given : List (List Attribute), lines.mapM LineInput.given = .ok given ∧
        (addLines added none).SendsLines sampleId .cartLinesAdd Document.cartLinesAdd
          (given.map fun as => .list (as.map Attribute.toValueSparse)) ∧
        (updateLines updated).SendsLines sampleId .cartLinesUpdate Document.cartLinesUpdate
          (given.map fun as => .list (as.map Attribute.toValue)) ∧
        ∀ as ∈ given, as.map Attribute.toValueSparse = as.map Attribute.toValue ↔
          ∀ a ∈ as, a.value.isNull = false := by
  intro lines inputs added updated
  have accepted : lines.mapM LineInput.coerce = .ok inputs := rfl
  have sameAdded : added.map Prod.snd = lines := rfl
  have sameUpdated : updated.map Prod.snd = lines := rfl
  exact ⟨accepted, sameAdded, sameUpdated,
    attributes_sent accepted sameAdded sameUpdated sampleId none⟩

/-- The value of an attribute is null, and only the update sends it. -/
theorem null_left_out :
    LineInput.given (giftLine .null) = .ok [⟨"gift", .null⟩] ∧
      (addLines [("1", giftLine .null)] none).SendsLines sampleId .cartLinesAdd
        Document.cartLinesAdd [.list [.ofFields [("key", "gift")]]] ∧
      (updateLines [("gid://shopify/CartLine/1", giftLine .null)]).SendsLines sampleId
        .cartLinesUpdate Document.cartLinesUpdate
        [.list [.ofFields [("key", "gift"), ("value", .null)]]] ∧
      (∀ id ∈ sampleId :: (addLines [("1", giftLine .null)] none).ids, Gid.Encodable id) ∧
      ∀ id ∈ sampleId :: (updateLines [("gid://shopify/CartLine/1", giftLine .null)]).ids,
        Gid.Encodable id := by
  have added : ([("1", giftLine .null)].map Prod.snd).mapM LineInput.coerce =
      .ok [⟨1, [⟨"gift", .null⟩]⟩] := rfl
  have updated : ([("gid://shopify/CartLine/1", giftLine .null)].map Prod.snd).mapM
      LineInput.coerce = .ok [⟨1, [⟨"gift", .null⟩]⟩] := rfl
  -- Every id can be encoded, so both calls do send their lines.
  have variants : ∀ id ∈ sampleId :: (addLines [("1", giftLine .null)] none).ids,
      Gid.Encodable id := by decide +kernel
  have ids : ∀ id ∈ sampleId ::
      (updateLines [("gid://shopify/CartLine/1", giftLine .null)]).ids, Gid.Encodable id := by
    decide +kernel
  exact ⟨rfl, addLines_sendsLines sampleId none added, updateLines_sendsLines sampleId updated,
    variants, ids⟩

end CartCall
end Storefront
