import Mathlib.Data.List.Forall2
import Storefront.Proofs.Requests

/-! # One identifier in several forms

An identifier is raw, or encoded, or encoded in a way that only the decoder accepts.  Whatever names
an entity is decoded before anything is done with it, so that its form does not matter: two requests
that differ in nothing but the forms of their identifiers are the same action.

* `Value.SameId`, `Value.SameMember` : a value and a record in which an identifier has another form
* `Alike` : checks that come out alike
* `EngineRequest.Same` : requests that differ in the forms of their identifiers
* `EngineRequest.answered_alike` : they are answered alike, and leave the same shop behind -/

namespace Storefront

open Shop

/-! ### Checks that come out alike -/

/-- Two checks come out alike: with the same fault, or with results in a relation. -/
inductive Alike {α β : Type} (R : α → β → Prop) : Except Fault α → Except Fault β → Prop
  | error (e : Fault) : Alike R (.error e) (.error e)
  | ok {a : α} {b : β} (h : R a b) : Alike R (.ok a) (.ok b)

namespace Alike

variable {α β γ δ : Type} {R : α → β → Prop} {S : γ → δ → Prop} {x : Except Fault α}
  {y : Except Fault β}

/-- What is equal comes out alike, whatever is asked of two results that are. -/
theorem of_eq {R : α → α → Prop} (hR : ∀ a, R a a) {x y : Except Fault α} (h : x = y) :
    Alike R x y := by
  subst h
  cases x with
  | error e => exact .error e
  | ok a => exact .ok (hR a)

/-- What follows checks that come out alike comes out alike, if it does for related results. -/
theorem bind (h : Alike R x y) {f : α → Except Fault γ} {g : β → Except Fault δ}
    (hf : ∀ a b, R a b → Alike S (f a) (g b)) : Alike S (x >>= f) (y >>= g) := by
  cases h with
  | error e => exact .error e
  | ok h => exact hf _ _ h

/-- What follows checks that come out alike is the same, if it is the same for related results. -/
theorem bind_eq (h : Alike R x y) {f : α → Except Fault γ} {g : β → Except Fault γ}
    (hf : ∀ a b, R a b → f a = g b) : (x >>= f) = (y >>= g) := by
  cases h with
  | error e => rfl
  | ok h => exact hf _ _ h

/-- An action that begins with a check is the same for checks that come out alike. -/
theorem liftM_bind_eq (h : Alike R x y) {f : α → Act Shop γ} {g : β → Act Shop γ}
    (hf : ∀ a b, R a b → f a = g b) :
    ((liftM x : Act Shop α) >>= f) = ((liftM y : Act Shop β) >>= g) := by
  cases h with
  | error e => rfl
  | ok h => exact hf _ _ h

end Alike

/-! ### Batches -/

section

variable {α β γ : Type} {m : Type → Type} [Monad m] {R : α → β → Prop} {as : List α} {bs : List β}

/-- Work on entries that are related one by one is the same work. -/
theorem forM_eq_of_forall₂ (h : List.Forall₂ R as bs) {f : α → m Unit} {g : β → m Unit}
    (hf : ∀ a b, R a b → f a = g b) : as.forM f = bs.forM g := by
  induction h with
  | nil => rfl
  -- The heads do the same, and by induction the rests do.
  | @cons a b as bs hab _ ih =>
    show (f a >>= fun _ => as.forM f) = (g b >>= fun _ => bs.forM g)
    rw [hf a b hab, ih]

/-- So are the answers to it. -/
theorem mapM_eq_of_forall₂ [LawfulMonad m] (h : List.Forall₂ R as bs) {f : α → m γ} {g : β → m γ}
    (hf : ∀ a b, R a b → f a = g b) : as.mapM f = bs.mapM g := by
  induction h with
  | nil => rfl
  | cons hab _ ih => rw [List.mapM_cons, List.mapM_cons, hf _ _ hab, ih]

/-- So is a result that is threaded through it. -/
theorem foldlM_eq_of_forall₂ (h : List.Forall₂ R as bs) {f : γ → α → m γ} {g : γ → β → m γ}
    (hf : ∀ c a b, R a b → f c a = g c b) (c : γ) : as.foldlM f c = bs.foldlM g c := by
  -- The result changes with each entry, so it is general in the induction.
  induction h generalizing c with
  | nil => rfl
  | cons hab _ ih =>
    rw [List.foldlM_cons, List.foldlM_cons, hf _ _ _ hab]
    simp only [ih]

end

/-! ### Identifiers in another form -/

/-- Decoding leaves a text as it is, or finds a raw identifier in it. -/
theorem Gid.decode_cases (id : String) : decode id = id ∨ isRaw (decode id) = true := by
  by_cases hraw : isRaw id = true
  · exact .inl (decode_of_isRaw hraw)
  · cases hread : readText? id with
    | none => simp [decode, hraw, hread]
    | some raw => by_cases hraw' : isRaw raw = true <;> simp [decode, hraw, hread, hraw']

/-- Only the empty text is decoded to the empty text. -/
theorem Gid.decode_eq_empty_iff {id : String} : decode id = "" ↔ id = "" := by
  constructor
  · intro h
    obtain same | raw := decode_cases id
    · rw [← same, h]
    · rw [h] at raw
      exact absurd raw (by decide)
  · -- The empty text has no encoded form to look into.
    rintro rfl
    decide +kernel

namespace Value

/-- Two values are the same identifier: one value, or two texts that decode to the same. -/
inductive SameId : Value → Value → Prop
  | refl (v : Value) : SameId v v
  | text {s t : String} (h : Gid.decode s = Gid.decode t) : SameId (.text s) (.text t)

/-- Two values are the same but for the form of the identifier under a name. -/
inductive SameMember (name : String) : Value → Value → Prop
  | refl (v : Value) : SameMember name v v
  | replaced {fields : List (Key × Value)} {v w : Value} (h : (record fields).get? name = some v)
      (hw : SameId v w) : SameMember name (record fields) ((record fields).put name w)

/-- Two values name the same plan: by its identifier, or by a record with its identifier. -/
inductive SamePlan : Value → Value → Prop
  | id {v w : Value} (h : SameId v w) : SamePlan v w
  | record {v w : Value} (h : SameMember "id" v w) : SamePlan v w

namespace SameId

variable {v w : Value}

/-- Two forms of an identifier have one raw form. -/
theorem decodeValue_eq (h : SameId v w) : Gid.decodeValue v = Gid.decodeValue w := by
  cases h with
  | refl v => rfl
  | text h => rw [Gid.decodeValue_text, Gid.decodeValue_text, h]

/-- Either both forms of an identifier are empty or neither is. -/
theorem truthy_eq (h : SameId v w) : v.truthy = w.truthy := by
  cases h with
  | refl v => rfl
  | @text s t h =>
    have empty : s = "" ↔ t = "" := by
      rw [← Gid.decode_eq_empty_iff, h, Gid.decode_eq_empty_iff]
    simp [empty]

/-- A form of an identifier is a text, unless it is the same value. -/
theorem isRecord_eq (h : SameId v w) : v.isRecord = w.isRecord := by
  cases h with
  | refl v => rfl
  | text h => rfl

end SameId

namespace SameMember

variable {name : String} {v w : Value}

/-- A record is still a record with another form in it. -/
theorem isRecord_eq (h : SameMember name v w) : v.isRecord = w.isRecord := by
  cases h with
  | refl v => rfl
  | replaced _ _ => rfl

/-- The member that was replaced is there in both records. -/
theorem item_alike (h : SameMember name v w) : Alike SameId (v.item name) (w.item name) := by
  cases h with
  | refl v => exact .of_eq SameId.refl rfl
  -- The record has the one form, and the other where it was replaced.
  | @replaced fields v w hv hw =>
    have before : (record fields).item name = .ok v := by
      rw [get?] at hv
      rw [item, hv]
    have after : ((record fields).put name w).item name = .ok w := by simp [put, item]
    rw [before, after]
    exact .ok hw

/-- The same holds where a missing member counts as null. -/
theorem member_alike (h : SameMember name v w) : Alike SameId (v.member name) (w.member name) := by
  cases h with
  | refl v => exact .of_eq SameId.refl rfl
  | @replaced fields v w hv hw =>
    have before : (record fields).member name = .ok v := by
      rw [get?] at hv
      rw [member, hv, Option.getD_some]
    have after : ((record fields).put name w).member name = .ok w := by simp [put]
    rw [before, after]
    exact .ok hw

/-- The other members are not touched. -/
theorem member_eq_of_ne (h : SameMember name v w) {other : String} (hne : other ≠ name) :
    v.member other = w.member other := by
  cases h with
  | refl v => rfl
  | replaced _ _ =>
    have apart : (Key.text other == Key.text name) = false := by simpa using hne
    simp [put, Assoc.get?_put_of_ne _ apart]

end SameMember

/-- Two lines of a request are the same, as far as they are looked at, but for the form of the
identifier under a name. -/
structure SameLine (idName : String) (line line' : Value) : Prop where
  id : Alike SameId (line.member idName) (line'.member idName)
  quantity : line.member "quantity" = line'.member "quantity"
  attributes : line.member "attributes" = line'.member "attributes"

/-- A line of a batch names its quantity and its attributes other than its identifier. -/
theorem SameMember.sameLine {idName : String} {v w : Value} (h : SameMember idName v w)
    (hquantity : "quantity" ≠ idName) (hattributes : "attributes" ≠ idName) :
    SameLine idName v w where
  id := h.member_alike
  quantity := h.member_eq_of_ne hquantity
  attributes := h.member_eq_of_ne hattributes

end Value

/-- What two values hold, one after the other, matches item by item. -/
def SameItems (R : Value → Value → Prop) : Except Fault (List Value) → Except Fault (List Value) →
    Prop := Alike (List.Forall₂ R)

/-- A list and a list of the same length are both read as their items. -/
theorem sameItems_elementsOrNone_list {R : Value → Value → Prop} {vs ws : List Value}
    (h : List.Forall₂ R vs ws) :
    SameItems R (Value.list vs).elementsOrNone (Value.list ws).elementsOrNone := by
  -- The empty list is falsy, and read as having no items.
  cases h with
  | nil => exact .ok .nil
  | cons hv hvs => exact .ok (.cons hv hvs)

/-! ### Selling plans -/

/-- An identifier is none of the terms that are kept of a record. -/
theorem SellingPlan.filter_isTerm_put (fields : List (Key × Value)) (v : Value) :
    (Assoc.put fields (.text "id") v).filter (isTerm ·.1) = fields.filter (isTerm ·.1) := by
  have id_not_term : isTerm (.text "id") = false := by decide
  induction fields with
  | nil => simp [Assoc.put, id_not_term]
  | cons p fields ih =>
    -- Going along the members: it is put in at the first place where it stands already, else at the
    -- end.
    obtain ⟨k, w⟩ := p
    by_cases hk : (k == Key.text "id") = true
    · obtain rfl := Key.text_beq_iff.1 (BEq.symm hk)
      simp [Assoc.put, id_not_term]
    · simp [Assoc.put, hk, List.filter_cons, ih]

namespace Shop

variable {v w id id' options options' : Value}

open Value (SameId SameMember SamePlan SameLine)

/-- The identifier among the options of a plan is none of its terms. -/
theorem termsOf_congr (h : SameMember "id" options options') :
    SellingPlan.termsOf options = SellingPlan.termsOf options' := by
  -- No term is called `id`, so each is the same member of both options.
  have names : List.Forall₂ (fun a b : String => a = b ∧ b ≠ "id") SellingPlan.termNames
      SellingPlan.termNames := by
    rw [List.forall₂_same]
    decide
  refine mapM_eq_of_forall₂ names fun name _ hname => ?_
  obtain ⟨rfl, hne⟩ := hname
  rw [h.member_eq_of_ne hne]

/-- A plan is made with the same terms, under the same raw identifier. -/
theorem createPlan_congr (h : SameMember "id" options options') (hid : SameId id id') :
    createPlan options id = createPlan options' id' := by
  simp only [createPlan, givenOrFreshId, hid.decodeValue_eq, termsOf_congr h]

/-- What is changed of a plan are its terms, and none of these is the identifier. -/
theorem changedPlan_congr (h : SameMember "id" options options') (entity : Entity) (now : String) :
    changedPlan entity options now = changedPlan entity options' now := by
  -- Both options are records, with the same terms in them, or they fail alike.
  have terms : Alike (fun fields fields' => ∀ known,
      SellingPlan.withTerms known fields = SellingPlan.withTerms known fields')
      options.asRecord options'.asRecord := by
    cases h with
    | refl v => exact .of_eq (fun _ _ => rfl) rfl
    | replaced _ _ =>
      refine .ok fun known => ?_
      rw [SellingPlan.withTerms, SellingPlan.withTerms, SellingPlan.filter_isTerm_put]
  cases entity with
  | plan p => exact terms.bind_eq fun fields fields' same => by simp only [same]
  | _ => exact bind_congr fun known => terms.bind_eq fun fields fields' same => by simp only [same]

/-- A plan is looked up by its raw identifier. -/
theorem plan?_congr (hid : SameId id id') : plan? id = plan? id' := by
  rw [plan?, plan?, hid.decodeValue_eq]

/-- A plan is changed under its raw identifier. -/
theorem updatePlan_congr (hid : SameId id id') (h : SameMember "id" options options') :
    updatePlan id options = updatePlan id' options' := by
  simp only [updatePlan, hid.decodeValue_eq, changedPlan_congr h]

/-- A plan is deleted under its raw identifier. -/
theorem deletePlan_congr (hid : SameId id id') : deletePlan id = deletePlan id' := by
  rw [deletePlan, deletePlan, hid.decodeValue_eq]

/-! ### Groups -/

/-- A group is known by its raw identifier. -/
theorem groupId_congr (hid : SameId id id') : groupId id = groupId id' := by
  rw [groupId, groupId, hid.decodeValue_eq]

/-- A group is read by its raw identifier. -/
theorem group_congr (hid : SameId id id') : group id = group id' := by
  rw [group, group, groupId_congr hid]

/-- A group is deleted by its raw identifier. -/
theorem deleteGroup_congr (hid : SameId id id') : deleteGroup id = deleteGroup id' := by
  rw [deleteGroup, deleteGroup, groupId_congr hid]

/-- What is attached to a group is attached under its raw identifier. -/
theorem relate_congr (relation : Key) {ids ids' : Value} (hid : SameId id id')
    (hids : SameItems SameId ids.elementsOrNone ids'.elementsOrNone) :
    relate relation id ids = relate relation id' ids' := by
  rw [relate, relate, groupId_congr hid]
  refine bind_congr fun key => bind_congr fun owner => ?_
  refine hids.liftM_bind_eq fun vs ws hvs => ?_
  -- Each entry of the batch is decoded before it is linked.
  rw [forM_eq_of_forall₂ hvs fun v w h => ?_]
  rw [h.decodeValue_eq]

/-- A plan that is added gets an identifier of its own; the one among its options does not count. -/
theorem addPlan_congr (owner : String) (h : SameMember "id" v w) :
    addPlan owner v = addPlan owner w := by
  rw [addPlan, addPlan, createPlan_congr h (.refl _)]

/-- A plan may be dropped by its identifier or by a record that holds it. -/
theorem dropPlan_congr (owner : String) (h : SamePlan v w) : dropPlan owner v =
    dropPlan owner w := by
  unfold dropPlan
  extract_lets drop
  -- Either way the plan is deleted and unlinked under the raw form.
  have hdrop : ∀ a b, SameId a b → drop a = drop b := by
    intro a b hab
    simp only [drop, hab.decodeValue_eq]
  cases h with
  | id h =>
    cases h with
    | refl v => rfl
    | text h => exact hdrop _ _ (.text h)
  | record h =>
    -- Either both are records with an identifier, or they are the same value.
    rw [h.isRecord_eq]
    split
    · exact h.item_alike.liftM_bind_eq hdrop
    · rename_i plain
      cases h with
      | refl v => rfl
      | replaced _ _ => exact absurd rfl plain

/-- A plan that is changed is named among its own options. -/
theorem changePlan_congr (owner : String) (h : SameMember "id" v w) :
    changePlan owner v = changePlan owner w := by
  rw [changePlan, changePlan]
  refine h.member_alike.liftM_bind_eq fun given given' hgiven => ?_
  rw [hgiven.decodeValue_eq]
  refine bind_congr fun id => ?_
  rw [updatePlan_congr (.refl id) h]

/-- The options of a group under which selling plans are listed. -/
def planLists : List String :=
  ["sellingPlansToCreate", "sellingPlansToDelete", "sellingPlansToUpdate"]

/-- Two descriptions of a group are the same but for the forms of the identifiers of the selling
plans that they list. -/
structure SameOptions (options options' : Value) : Prop where
  created : SameItems (SameMember "id") (options.member "sellingPlansToCreate" >>= severalOf)
    (options'.member "sellingPlansToCreate" >>= severalOf)
  deleted : SameItems SamePlan (options.member "sellingPlansToDelete" >>= severalOf)
    (options'.member "sellingPlansToDelete" >>= severalOf)
  updated : SameItems (SameMember "id") (options.member "sellingPlansToUpdate" >>= severalOf)
    (options'.member "sellingPlansToUpdate" >>= severalOf)
  others : ∀ name, name ∉ planLists → options.member name = options'.member name

/-- The description of a group has no identifiers in it. -/
theorem groupOf_congr (h : SameOptions options options') (gid now : String) :
    groupOf options gid now = groupOf options' gid now := by
  simp only [groupOf, h.others "appId" (by decide), h.others "description" (by decide),
    h.others "merchantCode" (by decide), h.others "name" (by decide),
    h.others "options" (by decide), h.others "position" (by decide),
    h.others "summary" (by decide)]

/-- What is listed under a name is worked off alike, if each entry is. -/
theorem forM_listed_congr {R : Value → Value → Prop} {x y : Except Fault Value} {α : Type}
    (h : SameItems R (x >>= severalOf) (y >>= severalOf)) {work : Value → Act Shop Unit}
    (hwork : ∀ v w, R v w → work v = work w) {rest rest' : Act Shop α} (hrest : rest = rest') :
    (do (← severalOf (← x)).forM work; rest : Act Shop α) =
      (do (← severalOf (← y)).forM work; rest') := by
  -- A list that is read in two steps may be read in one.
  have lifted : ∀ (x : Except Fault Value) (f : List Value → Act Shop α),
      (liftM x >>= fun v => liftM (severalOf v) >>= f) = (liftM (x >>= severalOf) >>= f) := by
    intro x f
    cases x <;> rfl
  rw [lifted, lifted, hrest]
  exact h.liftM_bind_eq fun vs ws hvs => by rw [forM_eq_of_forall₂ hvs hwork]

/-- A group is made with the same plans, in the same order, under the same raw identifier. -/
theorem createGroup_congr (h : SameOptions options options') (hid : SameId id id') :
    createGroup options id = createGroup options' id' := by
  rw [createGroup, createGroup]
  refine bind_congr fun now => ?_
  rw [groupOf_congr h]
  refine bind_congr fun draft => ?_
  extract_lets missing make make'
  -- What is done once the description is accepted goes through the three lists one after the other.
  have same : make = make' := by
    funext _
    simp only [make, make', givenOrFreshId, hid.decodeValue_eq]
    refine bind_congr fun gid => bind_congr fun _ => bind_congr fun _ => ?_
    exact forM_listed_congr h.created (fun _ _ => addPlan_congr gid)
      (forM_listed_congr h.deleted (fun _ _ => dropPlan_congr gid)
        (forM_listed_congr h.updated (fun _ _ => changePlan_congr gid) rfl))
  rw [same]

/-! ### Carts -/

/-- Two checked lines of a request are the same but for the forms of their identifiers. -/
structure LineRequest.Same (r r' : LineRequest) : Prop where
  id : SameId r.id r'.id
  quantity : r.quantity = r'.quantity
  attributes : r.attributes = r'.attributes

variable {idName : String} {lines lines' : List Value}

/-- Lines that are the same are checked alike: they are all in order, or one is not, or the check
fails. -/
theorem lineRequests_congr (h : List.Forall₂ (SameLine idName) lines lines') :
    Alike (Option.Rel (List.Forall₂ LineRequest.Same)) (lineRequests idName lines)
      (lineRequests idName lines') := by
  induction h with
  | nil => exact .ok (.some .nil)
  | @cons line line' lines lines' hline _ ih =>
    rw [lineRequests, lineRequests, quantityOf, quantityOf, hline.quantity, hline.attributes]
    -- The checks of a line come in this order: its identifier, its quantity, its attributes.
    refine hline.id.bind fun given given' hgiven => ?_
    rw [hgiven.truthy_eq]
    split
    · exact .ok .none
    · refine (Alike.of_eq (R := Eq) (fun _ => rfl) rfl).bind fun quantity _ same => ?_
      subst same
      split
      · exact .ok .none
      · refine (Alike.of_eq (R := Eq) (fun _ => rfl) rfl).bind fun attributes _ same => ?_
        subst same
        refine ih.bind fun rs rs' hrs => .ok ?_
        cases hrs with
        | none => exact .none
        | some hrs => exact .some (.cons ⟨hgiven, rfl, rfl⟩ hrs)

/-- A batch without lines is no request. -/
theorem requestsOf_congr (h : List.Forall₂ (SameLine idName) lines lines') :
    Alike (Option.Rel (List.Forall₂ LineRequest.Same)) (requestsOf idName lines)
      (requestsOf idName lines') := by
  cases h with
  | nil => exact .ok .none
  | cons hline hlines => exact lineRequests_congr (.cons hline hlines)

/-- A new line is looked for, and priced, by the raw identifier of its variant. -/
theorem addRequest_congr (currency : String) (cart : KeptCart) {r r' : LineRequest}
    (h : r.Same r') : addRequest currency cart r = addRequest currency cart r' := by
  rw [addRequest, addRequest, h.id.decodeValue_eq, h.quantity, h.attributes]

/-- A line is topped up by its raw identifier. -/
theorem updateRequest_congr (cart : KeptCart) {r r' : LineRequest} (h : r.Same r') :
    updateRequest cart r = updateRequest cart r' := by
  rw [updateRequest, updateRequest, h.id.decodeValue_eq, h.quantity, h.attributes]

/-- Batches that are the same are added alike. -/
theorem withAdditions_congr (country : Value) (cart : KeptCart)
    (h : List.Forall₂ (SameLine "merchandiseId") lines lines') :
    withAdditions country lines cart = withAdditions country lines' cart := by
  rw [withAdditions, withAdditions]
  refine (requestsOf_congr h).liftM_bind_eq fun rs rs' hrs => ?_
  cases hrs with
  | none => rfl
  -- The lines are added one after the other, each to the cart that the one before left.
  | some hrs =>
    refine bind_congr fun key => ?_
    extract_lets currency
    have added : ∀ (cart : KeptCart) (r r' : LineRequest), r.Same r' →
        addRequest currency cart r = addRequest currency cart r' :=
      fun cart _ _ => addRequest_congr currency cart
    rw [foldlM_eq_of_forall₂ hrs added]

/-- Batches that are the same top up alike. -/
theorem withUpdates_congr (cart : KeptCart) (h : List.Forall₂ (SameLine "id") lines lines') :
    withUpdates lines cart = withUpdates lines' cart := by
  rw [withUpdates, withUpdates]
  refine (requestsOf_congr h).bind_eq fun rs rs' hrs => ?_
  cases hrs with
  | none => rfl
  | some hrs =>
    dsimp only
    rw [updated, updated, foldlM_eq_of_forall₂ hrs fun cart _ _ => updateRequest_congr cart]

/-- The same lines are taken away, whatever forms their identifiers have. -/
theorem withRemovals_congr (cart : KeptCart) (h : List.Forall₂ SameId lines lines') :
    withRemovals lines cart = withRemovals lines' cart := by
  -- A batch is rejected if it is empty or has an empty identifier in it.
  have truthy : lines.all (·.truthy) = lines'.all (·.truthy) := by
    induction h with
    | nil => rfl
    | cons hid _ ih => rw [List.all_cons, List.all_cons, hid.truthy_eq, ih]
  have empty : lines.isEmpty = lines'.isEmpty := by cases h <;> rfl
  -- The lines are compared by raw identifiers.
  have read : (lines.mapM fun v => Gid.decodeValue v >>= Value.asText) =
      lines'.mapM fun v => Gid.decodeValue v >>= Value.asText :=
    mapM_eq_of_forall₂ h fun v w hvw => by rw [hvw.decodeValue_eq]
  rw [withRemovals, withRemovals, truthy, empty, read]

/-- A cart is looked for by its raw identifier. -/
theorem hasCart_congr (hid : SameId id id') : hasCart id = hasCart id' := by
  rw [hasCart, hasCart, hid.decodeValue_eq]

/-- A cart is made under its raw identifier. -/
theorem createCart_congr (country : Value) (hid : SameId id id') :
    createCart country id = createCart country id' := by
  rw [createCart, createCart, hid.decodeValue_eq]

/-- A cart is moved to another market under its raw identifier. -/
theorem setCountry_congr (country : Value) (hid : SameId id id') :
    setCountry id country = setCountry id' country := by
  rw [setCountry, setCountry, hasCart_congr hid, hid.decodeValue_eq]

/-- A cart is found by its raw identifier. -/
theorem findCart_congr (hid : Gid.decodeValue id = Gid.decodeValue id') :
    findCart id = findCart id' := by
  rw [findCart, findCart, hid]

/-- Changes of the same cart do the same, if they make the same of what they list. -/
theorem editCart_congr (country : Value) (hid : SameId id id') {R : Value → Value → Prop}
    {listed listed' : Except Fault (List Value)} (hlisted : SameItems R listed listed')
    {change change' : List Value → KeptCart → Act Shop (Option KeptCart)}
    (hchange : ∀ l l' cart, List.Forall₂ R l l' → change l cart = change' l' cart) :
    editCart id country listed change = editCart id' country listed' change' := by
  rw [editCart, editCart, findCart_congr hid.decodeValue_eq]
  -- The same cart is found, and the same is listed for it.
  refine bind_congr fun found => hlisted.liftM_bind_eq fun l l' hl => ?_
  cases found with
  | none => rfl
  | some found => simp only [hchange l l' found.2 hl]

/-- Changes that list no identifiers do the same for the same cart. -/
theorem editCart_congr_id (country : Value) (hid : SameId id id')
    (listed : Except Fault (List Value))
    (change : List Value → KeptCart → Act Shop (Option KeptCart)) :
    editCart id country listed change = editCart id' country listed change := by
  rw [editCart, editCart, findCart_congr hid.decodeValue_eq]

/-- A cart is emptied of the lines that it is read with. -/
theorem emptyCart_congr (country : Value) (hid : SameId id id') :
    emptyCart id country = emptyCart id' country := by
  have removed : ∀ lineIds, removeLines id country lineIds = removeLines id' country lineIds :=
    fun lineIds => editCart_congr_id country hid _ _
  simp only [emptyCart, getCart, setCountry_congr country hid, removed]

end Shop

/-! ### Requests -/

/-- A request to the engines for carts, for selling plans or for their groups, with the kind of its
answers. -/
inductive EngineRequest : Type → Type
  | hasCart (id : Value) : EngineRequest Bool
  | createCart (country id : Value) : EngineRequest (Option Cart)
  | getCart (id country : Value) : EngineRequest (Option KeptCart)
  | setCountry (id country : Value) : EngineRequest (Option KeptCart)
  | addLines (id country lines : Value) : EngineRequest (Option KeptCart)
  | updateLines (id country lines : Value) : EngineRequest (Option KeptCart)
  | removeLines (id country lineIds : Value) : EngineRequest (Option KeptCart)
  | emptyCart (id country : Value) : EngineRequest Bool
  | setNote (id country note : Value) : EngineRequest (Option KeptCart)
  | setAttribute (id country key value : Value) : EngineRequest (Option KeptCart)
  | setDiscount (id country codes : Value) : EngineRequest (Option KeptCart)
  | createPlan (options id : Value) : EngineRequest SellingPlan
  | getPlan (id : Value) : EngineRequest (Option Entity)
  | updatePlan (id options : Value) : EngineRequest (Option Entity)
  | deletePlan (id : Value) : EngineRequest Bool
  | createGroup (options id : Value) : EngineRequest Value
  | getGroup (id : Value) : EngineRequest Value
  | addProducts (id ids : Value) : EngineRequest Value
  | addVariants (id ids : Value) : EngineRequest Value
  | deleteGroup (id : Value) : EngineRequest Bool
  | listGroups (start limit : Value) : EngineRequest (List Value)

/-- Answers a request. -/
def EngineRequest.run {α : Type} : EngineRequest α → Act Shop α
  | hasCart id => Shop.hasCart id
  | createCart country id => Shop.createCart country id
  | getCart id country => Shop.getCart id country
  | setCountry id country => Shop.setCountry id country
  | addLines id country lines => Shop.addLines id country lines
  | updateLines id country lines => Shop.updateLines id country lines
  | removeLines id country lineIds => Shop.removeLines id country lineIds
  | emptyCart id country => Shop.emptyCart id country
  | setNote id country note => Shop.setNote id country note
  | setAttribute id country key value => Shop.setAttribute id country key value
  | setDiscount id country codes => Shop.setDiscount id country codes
  | createPlan options id => Shop.createPlan options id
  | getPlan id => plan? id
  | updatePlan id options => Shop.updatePlan id options
  | deletePlan id => Shop.deletePlan id
  | createGroup options id => Shop.createGroup options id
  | getGroup id => group id
  | addProducts id ids => Shop.addProducts id ids
  | addVariants id ids => Shop.addVariants id ids
  | deleteGroup id => Shop.deleteGroup id
  | listGroups start limit => groups start limit

open Value (SameId SameMember SamePlan SameLine)

/-- Two requests are the same but for the forms of the identifiers among their arguments, alone or
within a batch. -/
inductive EngineRequest.Same : {α : Type} → EngineRequest α → EngineRequest α → Prop
  | hasCart {id id' : Value} (hid : SameId id id') : Same (.hasCart id) (.hasCart id')
  | createCart {id id' : Value} (hid : SameId id id') (country : Value) :
      Same (.createCart country id) (.createCart country id')
  | getCart {id id' : Value} (hid : SameId id id') (country : Value) :
      Same (.getCart id country) (.getCart id' country)
  | setCountry {id id' : Value} (hid : SameId id id') (country : Value) :
      Same (.setCountry id country) (.setCountry id' country)
  | addLines {id id' lines lines' : Value} (hid : SameId id id') (country : Value)
      (h : SameItems (SameLine "merchandiseId") lines.elementsOrNone lines'.elementsOrNone) :
      Same (.addLines id country lines) (.addLines id' country lines')
  | updateLines {id id' lines lines' : Value} (hid : SameId id id') (country : Value)
      (h : SameItems (SameLine "id") lines.elementsOrNone lines'.elementsOrNone) :
      Same (.updateLines id country lines) (.updateLines id' country lines')
  | removeLines {id id' lineIds lineIds' : Value} (hid : SameId id id') (country : Value)
      (h : SameItems SameId lineIds.elementsOrNone lineIds'.elementsOrNone) :
      Same (.removeLines id country lineIds) (.removeLines id' country lineIds')
  | emptyCart {id id' : Value} (hid : SameId id id') (country : Value) :
      Same (.emptyCart id country) (.emptyCart id' country)
  | setNote {id id' : Value} (hid : SameId id id') (country note : Value) :
      Same (.setNote id country note) (.setNote id' country note)
  | setAttribute {id id' : Value} (hid : SameId id id') (country key value : Value) :
      Same (.setAttribute id country key value) (.setAttribute id' country key value)
  | setDiscount {id id' : Value} (hid : SameId id id') (country codes : Value) :
      Same (.setDiscount id country codes) (.setDiscount id' country codes)
  | createPlan {id id' options options' : Value} (hid : SameId id id')
      (h : SameMember "id" options options') :
      Same (.createPlan options id) (.createPlan options' id')
  | getPlan {id id' : Value} (hid : SameId id id') : Same (.getPlan id) (.getPlan id')
  | updatePlan {id id' options options' : Value} (hid : SameId id id')
      (h : SameMember "id" options options') :
      Same (.updatePlan id options) (.updatePlan id' options')
  | deletePlan {id id' : Value} (hid : SameId id id') : Same (.deletePlan id) (.deletePlan id')
  | createGroup {id id' options options' : Value} (hid : SameId id id')
      (h : SameOptions options options') :
      Same (.createGroup options id) (.createGroup options' id')
  | getGroup {id id' : Value} (hid : SameId id id') : Same (.getGroup id) (.getGroup id')
  | addProducts {id id' ids ids' : Value} (hid : SameId id id')
      (h : SameItems SameId ids.elementsOrNone ids'.elementsOrNone) :
      Same (.addProducts id ids) (.addProducts id' ids')
  | addVariants {id id' ids ids' : Value} (hid : SameId id id')
      (h : SameItems SameId ids.elementsOrNone ids'.elementsOrNone) :
      Same (.addVariants id ids) (.addVariants id' ids')
  | deleteGroup {id id' : Value} (hid : SameId id id') : Same (.deleteGroup id) (.deleteGroup id')
  | listGroups (start limit : Value) : Same (.listGroups start limit) (.listGroups start limit)

/-- Each request comes down to the same action, by the lemma on its operation. -/
theorem EngineRequest.Same.run_eq {α : Type} {r r' : EngineRequest α} (h : r.Same r') :
    r.run = r'.run := by
  -- Each request reads its identifiers decoded, and of a batch only what two lines agree about.
  cases h with
  | hasCart hid => exact hasCart_congr hid
  | createCart hid country => exact createCart_congr country hid
  | getCart hid country => exact setCountry_congr country hid
  | setCountry hid country => exact setCountry_congr country hid
  | addLines hid country h =>
    exact editCart_congr country hid h fun _ _ => withAdditions_congr country
  | updateLines hid country h =>
    exact editCart_congr country hid h fun _ _ cart hl => by rw [withUpdates_congr cart hl]
  | removeLines hid country h =>
    exact editCart_congr country hid h fun _ _ cart hl => by rw [withRemovals_congr cart hl]
  | emptyCart hid country => exact emptyCart_congr country hid
  | setNote hid country note => exact editCart_congr_id country hid _ _
  | setAttribute hid country key value => exact editCart_congr_id country hid _ _
  | setDiscount hid country codes => exact editCart_congr_id country hid _ _
  | createPlan hid h => exact createPlan_congr h hid
  | getPlan hid => exact plan?_congr hid
  | updatePlan hid h => exact updatePlan_congr hid h
  | deletePlan hid => exact deletePlan_congr hid
  | createGroup hid h => exact createGroup_congr h hid
  | getGroup hid => exact group_congr hid
  | addProducts hid h => exact relate_congr productRelation hid h
  | addVariants hid h => exact relate_congr variantRelation hid h
  | deleteGroup hid => exact deleteGroup_congr hid
  | listGroups start limit => rfl

/-- Requests that differ in nothing but the forms of their identifiers are answered alike, or fail
alike, and leave the same shop behind. -/
theorem EngineRequest.answered_alike {α : Type} {r r' : EngineRequest α} (h : r.Same r')
    (s : Shop) :
    Act.on r.run s = Act.on r'.run s := by
  rw [h.run_eq]

/-- A request for one more piece of the variant that the cart of the sample has. -/
def sampleAsked : EngineRequest (Option KeptCart) :=
  .addLines sampleId .null (.list [lineFor "1" 1])

/-- The same request, the variant encoded and the cart encoded with bits that the decoder drops. -/
def sampleAskedAnew : EngineRequest (Option KeptCart) :=
  .addLines "Z2lkOi8vc2hvcGlmeS9DYXJ0LzF=" .null
    (.list [(lineFor "1" 1).put "merchandiseId" (Gid.encode (Gid.variantPrefix ++ "1"))])

/-- The cart and the variant are named by their encoded identifiers the second time. -/
theorem same_sampleAsked : sampleAsked.Same sampleAskedAnew := by
  have cart : SameId sampleId "Z2lkOi8vc2hvcGlmeS9DYXJ0LzF=" := .text (by decide +kernel)
  have variant : SameId (Gid.variantPrefix ++ "1" : String)
      (Gid.encode (Gid.variantPrefix ++ "1") : String) := .text (Gid.decode_encode _).symm
  have line : SameMember "merchandiseId" (lineFor "1" 1)
      ((lineFor "1" 1).put "merchandiseId" (Gid.encode (Gid.variantPrefix ++ "1"))) :=
    .replaced rfl variant
  exact .addLines cart .null
    (sameItems_elementsOrNone_list (.cons (line.sameLine (by decide) (by decide)) .nil))

/-- The two requests are different, and still answered alike. -/
theorem EngineRequest.answered_alike_sample : sampleAsked.Same sampleAskedAnew ∧
    Act.on sampleAsked.run sample = Act.on sampleAskedAnew.run sample :=
  ⟨same_sampleAsked, EngineRequest.answered_alike same_sampleAsked sample⟩

end Storefront
