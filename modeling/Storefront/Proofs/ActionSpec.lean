import Storefront.Proofs.Act
import Storefront.Proofs.Clean

/-! # What actions give and how they fail

`Gives strict x P` says of an action on a shop that whatever state it starts in, as long as that
state is sound, it ends in a sound state, that what it answers satisfies `P`, and that it only fails
with tame faults: never for lack of a document or of a kind of identifier, and never with a
rejection that names no reason.  If `strict` holds, all values are asked to be clean as well, so
that answers and messages arrive as they were sent; without it nothing is asked of values.  There is
one rule for each way of making an action, and `Yields` is the same for checks, which touch no
state.

* `Fault.Tame` : the faults that a handler may fail with
* `Value.Fit.member` and its kin : reading a value that is fit
* `Act.Gives.bind`, `Act.Gives.tryCatch`, `Act.Gives.mapM` : actions made of actions -/

namespace Storefront

open Text (Sendable)

/-! ### Faults -/

/-- The fault of a handler: it is none of those that a router leaves to its caller except that no
identifier is left, a rejection names a reason, and if `strict` holds, what it says can be sent. -/
structure Fault.Tame (strict : Prop) (f : Fault) : Prop where
  not_document : f ≠ .emptyDocument
  not_prefix : f ≠ .emptyPrefix
  listed : f.isRejection = true → f.failures ≠ []
  message : strict → Sendable f.message.toList
  failures : strict → ∀ v ∈ f.failures, v.Clean

namespace Fault

variable {strict : Prop}

/-- A fault that is no rejection. -/
theorem Tame.of_message {f : Fault} (hd : f ≠ .emptyDocument) (hp : f ≠ .emptyPrefix)
    (hr : f.isRejection = false) (hm : strict → Sendable f.message.toList) : f.Tame strict where
  not_document := hd
  not_prefix := hp
  listed h := by rw [hr] at h; cases h
  message := hm
  failures _ := by
    -- Only rejections list failures, and `hr` rules both kinds of them out.
    cases f with
    | rejected failures => cases hr
    | notFound field message => cases hr
    | _ => exact fun _ h => absurd h List.not_mem_nil

/-- A value of the wrong shape is reported in fixed words. -/
theorem tame_shape : Tame strict .shape :=
  .of_message nofun nofun rfl fun _ => by decide

/-- Lack of identifiers is reported in fixed words. -/
theorem tame_exhausted : Tame strict .exhausted :=
  .of_message nofun nofun rfl fun _ => by decide

/-- A missing key is quoted, so whatever it holds can be sent. -/
theorem tame_missingKey (k : Key) : Tame strict (.missingKey k) :=
  .of_message nofun nofun rfl fun _ => k.sendable_quoted

/-- A number that is too large is reported in fixed words. -/
theorem tame_tooLarge : Tame strict .tooLarge :=
  .of_message nofun nofun rfl fun _ => by decide

/-- Infinity, where a whole number is asked for, is reported in fixed words. -/
theorem tame_infiniteWhole : Tame strict .infiniteWhole :=
  .of_message nofun nofun rfl fun _ => by decide

/-- A fault of values is tame as soon as its message can be sent: it is no rejection. -/
theorem tame_value {cause : BadValue} (h : strict → Sendable cause.message.toList) :
    Tame strict (.value cause) := .of_message nofun nofun rfl h

/-- A text that is no whole number is quoted in the message. -/
theorem tame_notWhole (text : String) : Tame strict (.value (.notWhole text)) :=
  tame_value fun _ => .append_text (by decide) (Text.sendable_quoted text)

/-- The words for the digit limit can be sent, whether or not they tell how many digits
there are. -/
theorem sendable_digitLimitMessage (count : Option Nat) :
    Sendable (digitLimitMessage count).toList := by
  unfold digitLimitMessage
  refine .append_text (.append_text (.append_text (.append_text (by decide)
    (Decimal.sendable_whole _)) (by decide)) ?_) (by decide)
  cases count with
  | none => exact .nil
  | some count =>
    exact .append_text (.append_text (by decide) (Decimal.sendable_whole _)) (by decide)

/-- A text with too many digits is reported by their number. -/
theorem tame_tooManyDigits (count : Nat) : Tame strict (.value (.tooManyDigits count)) :=
  tame_value fun _ => by
    rw [BadValue.message_tooManyDigits]
    exact sendable_digitLimitMessage _

/-- So is a number that has too many digits to be written. -/
theorem tame_unwritable : Tame strict (.value .unwritable) :=
  tame_value fun _ => by
    rw [BadValue.message_unwritable]
    exact sendable_digitLimitMessage _

/-- What is not a number is reported in fixed words. -/
theorem tame_notANumber : Tame strict (.value .notANumber) := tame_value fun _ => by decide

/-- The message about a half of a character shows the half by its code, so it can be sent itself. -/
theorem tame_characters {cs : List Char} {u : Text.Unencodable}
    (h : Text.unencodable? cs = some u) :
    Tame strict (.value (.characters u)) := by
  refine tame_value fun _ => ?_
  obtain ⟨⟨position, run⟩, -, rfl⟩ := Option.map_eq_some_iff.1 h
  exact Text.Unencodable.sendable_message (by decide : Sendable "utf-8".toList)
    (by decide : Sendable "surrogates not allowed".toList)

/-- A rejection is tame if it names a reason, and if the reasons can be sent. -/
theorem tame_rejected {failures : List Value} (hne : failures ≠ [])
    (h : strict → ∀ v ∈ failures, v.Clean) : Tame strict (.rejected failures) where
  not_document := nofun
  not_prefix := nofun
  listed _ := hne
  message _ := (by decide : Sendable "Validation failed".toList)
  failures := h

/-- That an identifier is not known is a rejection whose one reason is fixed. -/
theorem tame_unknownId : Tame strict .unknownId where
  not_document := nofun
  not_prefix := nofun
  listed _ := List.cons_ne_nil _ _
  message _ := by decide
  failures _ := List.forall_mem_singleton.2 <|
    Value.clean_ofFields ["field", "message"] rfl (by decide) (by decide)
      ⟨.text (by decide), .text (by decide)⟩

end Fault

/-! ### Checks -/

/-- What a check gives satisfies `P`, and it only fails with tame faults. -/
def Yields {α : Type} (strict : Prop) (e : Except Fault α) (P : α → Prop) : Prop :=
  match e with
  | .ok a => P a
  | .error f => f.Tame strict

namespace Yields

variable {α β : Type} {strict : Prop} {e : Except Fault α} {P : α → Prop} {Q : β → Prop}

/-- What a check gives may be described by less. -/
theorem mono {P' : α → Prop} (h : Yields strict e P) (hP : ∀ a, P a → P' a) :
    Yields strict e P' := by
  cases e with
  | error f => exact h
  | ok a => exact hP a h

/-- A check after another needs only what the first one gives. -/
theorem bind {g : α → Except Fault β} (h : Yields strict e P)
    (hg : ∀ a, P a → Yields strict (g a) Q) : Yields strict (e >>= g) Q := by
  cases e with
  | error f => exact h
  | ok a => exact hg a h

/-- A result that is changed afterwards is described by what the change makes of it. -/
theorem map {g : α → β} (h : Yields strict e P) (hg : ∀ a, P a → Q (g a)) :
    Yields strict (g <$> e) Q := by
  cases e with
  | error f => exact h
  | ok a => exact hg a h

/-- If every item passes a check well, then so does the list. -/
theorem mapM {as : List α} {g : α → Except Fault β} (h : ∀ a ∈ as, Yields strict (g a) Q) :
    Yields strict (as.mapM g) fun bs => ∀ b ∈ bs, Q b := by
  -- By induction on the list: the head passes, and then the rest does.
  induction as with
  | nil => exact fun _ hb => absurd hb List.not_mem_nil
  | cons a as ih =>
    obtain ⟨ha, has⟩ := List.forall_mem_cons.1 h
    rw [List.mapM_cons]
    exact ha.bind fun b hb => (ih has).bind fun bs hbs => List.forall_mem_cons.2 ⟨hb, hbs⟩

/-- Checks that thread a result keep what holds of it. -/
theorem foldlM {as : List α} {g : β → α → Except Fault β} {b : β} (hb : Q b)
    (h : ∀ a ∈ as, ∀ b, Q b → Yields strict (g b a) Q) : Yields strict (as.foldlM g b) Q := by
  -- The result that is threaded changes from item to item, so it is general in the induction.
  induction as generalizing b with
  | nil => exact hb
  | cons a as ih =>
    obtain ⟨ha, has⟩ := List.forall_mem_cons.1 h
    rw [List.foldlM_cons]
    exact (ha b hb).bind fun b hb => ih hb has

end Yields

/-! ### Values that are fit -/

/-- The value is clean if values are asked to be. -/
def Value.Fit (strict : Prop) (v : Value) : Prop := strict → v.Clean

namespace Value

variable {strict : Prop} {v : Value}

/-- A value that is fit and not null. -/
structure Present (strict : Prop) (v : Value) : Prop where
  fit : v.Fit strict
  not_null : v.isNull = false

/-- A record is not null. -/
theorem isNull_of_isRecord (h : v.isRecord = true) : v.isNull = false := by
  cases v with
  | null => cases h
  | _ => rfl

/-- Null is fit in either reading. -/
theorem fit_null : Fit strict .null := fun _ => .null

/-- So is every whole number. -/
theorem fit_int (n : Int) : Fit strict (.int n) := fun _ => .int n

/-- A text is fit if it can be sent, or if nothing is asked of values. -/
theorem fit_text {s : String} (h : strict → Sendable s.toList) : Fit strict (.text s) :=
  fun hs => .text (h hs)

/-- A fixed text that can be sent is fit in either reading. -/
theorem fit_const {s : String} (h : Sendable s.toList) : Fit strict (.text s) :=
  fun _ => .text h

/-- A list is fit if its items are. -/
theorem fit_list {vs : List Value} (h : ∀ v ∈ vs, v.Fit strict) : Fit strict (.list vs) :=
  fun hs => .list fun v hv => h v hv hs

/-- The empty record is fit in either reading. -/
theorem fit_emptyRecord : Fit strict (.record []) := fun _ => clean_record_nil

/-- A record with different names that can be sent is fit if its members are. -/
theorem fit_ofFields {fields : List (String × Value)} (names : List String)
    (hnames : fields.map Prod.fst = names) (hall : ∀ name ∈ names, IsMemberName name)
    (hdistinct : names.Nodup) (h : fields.Forall fun p => p.2.Fit strict) :
    Fit strict (.ofFields fields) :=
  fun hs => clean_ofFields names hnames hall hdistinct (h.imp fun _ hp => hp hs)

/-- Whichever of two values is taken, it is fit. -/
theorem Fit.orElse (h : v.Fit strict) {w : Value} (hw : w.Fit strict) :
    (v.orElse w).Fit strict := by
  unfold Value.orElse
  split
  · exact h
  · exact hw

/-- A member of a record that is fit is fit. -/
theorem Fit.get? {fs : List (Key × Value)} (h : Fit strict (.record fs)) {k : Key} {w : Value}
    (hw : Assoc.get? fs k = some w) : w.Fit strict := fun hs => (h hs).get? hw

/-- A record stays fit when a fit member is put into it. -/
theorem Fit.put {fs : List (Key × Value)} (h : Fit strict (.record fs)) {name : String}
    (hname : IsMemberName name) {w : Value} (hw : w.Fit strict) :
    Fit strict ((Value.record fs).put name w) := fun hs => (h hs).put hname (hw hs)

/-- What stands in for a missing member has to be fit as well. -/
theorem Fit.memberOr (h : v.Fit strict) (name : String) {d : Value} (hd : d.Fit strict) :
    Yields strict (v.memberOr name d) (Fit strict) := by
  cases v with
  | record fs =>
    show Fit strict ((Assoc.get? fs (.text name)).getD d)
    cases hw : Assoc.get? fs (.text name) with
    | none => exact hd
    | some w => exact h.get? hw
  | _ => exact Fault.tame_shape

/-- A missing member counts as null, which is fit. -/
theorem Fit.member (h : v.Fit strict) (name : String) :
    Yields strict (v.member name) (Fit strict) := by
  cases v with
  | record fs => exact h.memberOr name fit_null
  | _ => exact Fault.tame_shape

/-- Other than `Value.member`, this fails where the member is missing. -/
theorem Fit.item (h : v.Fit strict) (name : String) :
    Yields strict (v.item name) (Fit strict) := by
  cases v with
  | record fs =>
    simp only [Value.item]
    split
    · rename_i w hw
      exact h.get? hw
    · exact Fault.tame_missingKey _
  | _ => exact Fault.tame_shape

/-- Of any value at all, taking a member fails only tamely. -/
theorem yields_item (v : Value) (name : String) : Yields strict (v.item name) fun _ => True := by
  cases v with
  | record fs =>
    simp only [Value.item]
    split
    · trivial
    · exact Fault.tame_missingKey _
  | _ => exact Fault.tame_shape

/-- A name in a clean record is a clean text. -/
theorem Clean.name {fs : List (Key × Value)} (h : Clean (.record fs)) {p : Key × Value}
    (hp : p ∈ fs) : p.1.toValue.Clean := by
  obtain ⟨name, hk, hname⟩ := h.names p hp
  rw [hk]
  exact .text hname.1

/-- The elements of a value are fit: the items of a list, the names of a record, or the characters
of a text. -/
theorem Fit.elements (h : v.Fit strict) :
    Yields strict v.elements fun ws => ∀ w ∈ ws, w.Fit strict := by
  cases v with
  | list vs => exact fun w hw hs => (h hs).items w hw
  | record fs =>
    -- A record is read as the list of its names.
    intro w hw hs
    obtain ⟨p, hp, rfl⟩ := List.mem_map.1 hw
    exact (h hs).name hp
  | text s =>
    intro w hw hs
    -- Each character of a text that can be sent can be sent by itself.
    obtain ⟨c, hc, rfl⟩ := List.mem_map.1 hw
    refine .text ?_
    rw [Char.toString_eq_singleton, String.toList_singleton]
    exact .cons ((h hs).sendable c hc) .nil
  | _ => exact Fault.tame_shape

/-- A falsy value has no elements, and everything holds of these. -/
theorem Fit.elementsOrNone (h : v.Fit strict) :
    Yields strict v.elementsOrNone fun ws => ∀ w ∈ ws, w.Fit strict := by
  unfold Value.elementsOrNone
  split
  · exact h.elements
  · exact fun _ hw => absurd hw List.not_mem_nil

/-- A value that is taken for a text is one, and can be sent if the value is clean. -/
theorem Fit.asText (h : v.Fit strict) :
    Yields strict v.asText fun s => v = .text s ∧ (strict → Sendable s.toList) := by
  cases v with
  | text s => exact ⟨rfl, fun hs => (h hs).sendable⟩
  | _ => exact Fault.tame_shape

/-- What is written of a value can be sent if the value is clean. -/
theorem Fit.written (h : v.Fit strict) :
    Yields strict v.written fun s => strict → Sendable s.toList := by
  unfold Value.written
  split
  · exact fun hs => (h hs).sendable_display
  · exact Fault.tame_unwritable

/-- A value that is taken for a text is one. -/
theorem yields_asText (v : Value) : Yields strict v.asText fun s => v = .text s := by
  cases v with
  | text s => rfl
  | _ => exact Fault.tame_shape

/-- A value that is taken for a key is shown as the key is. -/
theorem yields_asKey (v : Value) : Yields strict v.asKey fun k => k.toValue = v := by
  cases v with
  | list _ => exact Fault.tame_shape
  | record _ => exact Fault.tame_shape
  | _ => rfl

/-- A value that is taken for a record is one. -/
theorem yields_asRecord (v : Value) : Yields strict v.asRecord fun fs => v = .record fs := by
  cases v with
  | record fs => rfl
  | _ => exact Fault.tame_shape

/-- Reading a whole number fails only tamely, whatever is read. -/
theorem yields_wholeNumber (v : Value) : Yields strict v.wholeNumber fun _ => True := by
  cases v with
  | bool b => trivial
  | int n => trivial
  -- A double may be infinite or no number.
  | float x =>
    simp only [Value.wholeNumber]
    split
    · trivial
    · exact Fault.tame_infiniteWhole
    · exact Fault.tame_notANumber
  -- A text may hold something else than digits, or too many of them.
  | text s =>
    simp only [Value.wholeNumber]
    split
    · trivial
    · exact Fault.tame_notWhole s
    · exact Fault.tame_tooManyDigits _
  | _ => exact Fault.tame_shape

/-- Reading a number fails only tamely, whatever is read. -/
theorem yields_number (v : Value) : Yields strict v.number fun _ => True := by
  cases v with
  -- Not every whole number is in the range of doubles.
  | int n =>
    simp only [Value.number, Value.doubleOfInt]
    split
    · trivial
    · exact Fault.tame_tooLarge
  | bool b => trivial
  | float x => trivial
  | _ => exact Fault.tame_shape

end Value

/-! ### Identifiers -/

namespace Gid

variable {strict : Prop} {v : Value}

/-- What is no text stands for no identifier, if it is falsy. -/
theorem onText_of_not_text {f : String → Except Fault String} (h : ¬ ∃ s, v = .text s) :
    onText f v = if v.truthy then .error .shape else .ok v := by
  cases v with
  | text s => exact absurd ⟨s, rfl⟩ h
  | _ => rfl

/-- Decoding gives the decoded text, or what was given if it is falsy. -/
theorem yields_decodeValue (v : Value) : Yields strict (decodeValue v) fun w =>
    (∃ s, v = .text s ∧ w = .text (decode s)) ∨ (v.truthy = false ∧ w = v) := by
  -- A text is decoded; anything else passes as it is if it is falsy, and is refused otherwise.
  by_cases ht : ∃ s, v = .text s
  · obtain ⟨s, rfl⟩ := ht
    exact .inl ⟨s, rfl, rfl⟩
  · rw [decodeValue, onText_of_not_text ht]
    split
    · exact Fault.tame_shape
    · rename_i h
      exact .inr ⟨by simpa using h, rfl⟩

/-- The raw form of an identifier can be sent, if values are asked to be clean. -/
def FitId (strict : Prop) (v : Value) : Prop :=
  strict → ∀ s, v = .text s → Sendable (decode s).toList

/-- Null names nothing, so there is nothing to ask of what it names. -/
theorem fitId_null : FitId strict .null := fun _ _ h => by cases h

/-- An identifier whose raw form can be sent decodes to a value that is fit. -/
theorem FitId.decoded (h : FitId strict v) (hv : v.Fit strict) :
    Yields strict (decodeValue v) (Value.Fit strict) := by
  refine (yields_decodeValue v).mono fun w hw => ?_
  rcases hw with ⟨s, rfl, rfl⟩ | ⟨-, rfl⟩
  · exact Value.fit_text fun hs => h hs s rfl
  · exact hv

/-- An identifier that can travel; a raw one holds nothing that cannot be sent. -/
theorem encodeText_eq_ok {id t : String} (h : encodeText id = .ok t) :
    t = encode id ∧ (isRaw id = true → Sendable id.toList) := by
  unfold encodeText at h
  split at h
  · cases h
  · rename_i hnone
    refine ⟨(Except.ok.inj h).symm, fun hr => ?_⟩
    rw [if_pos hr] at hnone
    exact Text.sendable_of_unencodable? hnone

/-- Encoding fails only on characters that cannot be sent, and then tamely. -/
theorem yields_encodeText (id : String) :
    Yields strict (encodeText id) fun t => t = encode id ∧
      (isRaw id = true → Sendable id.toList) := by
  cases h : encodeText id with
  | ok t => exact encodeText_eq_ok h
  | error f =>
    unfold encodeText at h
    split at h
    · -- The one defect that there may be is that of a raw identifier.
      rename_i u hu
      obtain rfl := Except.error.inj h
      split at hu
      · exact Fault.tame_characters hu
      · cases hu
    · cases h

/-- The encoded form of a value that is fit is fit. -/
theorem yields_encodeValue (h : v.Fit strict) :
    Yields strict (encodeValue v) (Value.Fit strict) := by
  -- Only texts are encoded; anything else passes as it is if it is falsy.
  by_cases ht : ∃ s, v = .text s
  · obtain ⟨s, rfl⟩ := ht
    have travels : Yields strict (encodeText s) _ := yields_encodeText s
    rw [encodeValue, onText]
    cases hs : encodeText s with
    | error f =>
      rw [hs] at travels
      exact travels
    | ok t =>
      rw [hs] at travels
      obtain ⟨rfl, -⟩ := travels
      -- What is encoded is in base 64, or it is the text itself.
      exact Value.fit_text fun hs => sendable_encode (h hs).sendable
  · rw [encodeValue, onText_of_not_text ht]
    split
    · exact Fault.tame_shape
    · exact h

end Gid

/-! ### Actions -/

namespace Act

variable {σ α β : Type} {I : σ → Prop} {strict : Prop} {x : Act σ α} {f : α → Act σ β}
  {P : α → Prop} {Q : β → Prop}

/-- From a sound state the action leads to a sound state; what it answers satisfies `P`, and it only
fails with tame faults. -/
def Gives (I : σ → Prop) (strict : Prop) (x : Act σ α) (P : α → Prop) : Prop :=
  ∀ s, I s → I (on x s).2 ∧ Yields strict (on x s).1 P

/-- The same, said of a single state to start in. -/
def GivesFrom (I : σ → Prop) (strict : Prop) (s : σ) (x : Act σ α) (P : α → Prop) : Prop :=
  I (on x s).2 ∧ Yields strict (on x s).1 P

namespace GivesFrom

variable {s : σ}

/-- What follows may rest on how the state was left. -/
protected theorem bind (hx : GivesFrom I strict s x P)
    (hf : ∀ a s', on x s = (.ok a, s') → I s' → P a → GivesFrom I strict s' (f a) Q) :
    GivesFrom I strict s (x >>= f) Q := by
  obtain ⟨hs', ha⟩ := hx
  rw [GivesFrom, on_bind]
  rcases h : on x s with ⟨e | a, s'⟩ <;> rw [h] at hs' ha
  · exact ⟨hs', ha⟩
  · exact hf a s' h hs' ha

/-- A check leaves the state as it is. -/
theorem bind_lift {e : Except Fault α} (hs : I s) (he : Yields strict e P)
    (hf : ∀ a, e = .ok a → P a → GivesFrom I strict s (f a) Q) :
    GivesFrom I strict s (liftM e >>= f) Q := by
  refine GivesFrom.bind ⟨hs, he⟩ fun a s' h _ ha => ?_
  obtain ⟨given, rfl⟩ := Prod.mk.inj h
  exact hf a given ha

end GivesFrom

namespace Gives

/-- What an action answers may be described by less. -/
theorem mono {P' : α → Prop} (h : Gives I strict x P) (hP : ∀ a, P a → P' a) :
    Gives I strict x P' := fun s hs => ⟨(h s hs).1, (h s hs).2.mono hP⟩

/-- An answer that is at hand changes nothing. -/
protected theorem pure {a : α} (h : P a) : Gives I strict (pure a) P := fun _ hs => ⟨hs, h⟩

/-- A fault that is tame may be raised anywhere. -/
protected theorem throw {e : Fault} (h : e.Tame strict) : Gives I strict (throw e) P :=
  fun _ hs => ⟨hs, h⟩

/-- A check within an action touches no state. -/
protected theorem lift {e : Except Fault α} (h : Yields strict e P) :
    Gives I strict (liftM e) P := fun _ hs => ⟨hs, h⟩

/-- The state that is looked at is sound. -/
protected theorem get : Gives I strict (get : Act σ σ) I := fun _ hs => ⟨hs, hs⟩

/-- The state may be changed if soundness is kept. -/
protected theorem modify {g : σ → σ} (h : ∀ s, I s → I (g s)) :
    Gives I strict (modify g) fun _ => True := fun s hs => ⟨h s hs, trivial⟩

/-- An action that follows another starts in the state that this left, with what it answered. -/
protected theorem bind (hx : Gives I strict x P) (hf : ∀ a, P a → Gives I strict (f a) Q) :
    Gives I strict (x >>= f) Q := by
  intro s hs
  obtain ⟨hs', ha⟩ := hx s hs
  rw [on_bind]
  -- Where the first action fails, the second does not take place.
  rcases h : on x s with ⟨e | a, s'⟩ <;> rw [h] at hs' ha
  · exact ⟨hs', ha⟩
  · exact hf a ha s' hs'

/-- An answer that is changed afterwards is described by what the change makes of it. -/
protected theorem map {g : α → β} (hx : Gives I strict x P) (hg : ∀ a, P a → Q (g a)) :
    Gives I strict (g <$> x) Q := by
  rw [map_eq_pure_bind]
  exact hx.bind fun a ha => .pure (hg a ha)

/-- Whatever is answered is let go. -/
theorem discard (hx : Gives I strict x P) :
    Gives I strict (Functor.discard x) fun _ => True := hx.map fun _ _ => trivial

/-- A failure may be handled: the handler is given a tame fault, and has to do as well as the
action. -/
protected theorem tryCatch {h : Fault → Act σ α} (hx : Gives I strict x P)
    (hh : ∀ e, e.Tame strict → Gives I strict (h e) P) : Gives I strict (tryCatch x h) P := by
  intro s hs
  obtain ⟨hs', ha⟩ := hx s hs
  rw [on_tryCatch]
  rcases hr : on x s with ⟨e | a, s'⟩ <;> rw [hr] at hs' ha
  · -- The handler starts in the state in which the failure left the shop.
    exact hh e ha s' hs'
  · exact ⟨hs', ha⟩

/-- Actions one after the other, with all their answers. -/
theorem mapM {as : List α} (h : ∀ a ∈ as, Gives I strict (f a) Q) :
    Gives I strict (as.mapM f) fun bs => ∀ b ∈ bs, Q b := by
  -- By induction on the list; each action leaves a sound state to the next one.
  induction as with
  | nil => exact .pure fun _ hb => absurd hb List.not_mem_nil
  | cons a as ih =>
    obtain ⟨ha, has⟩ := List.forall_mem_cons.1 h
    rw [List.mapM_cons]
    exact ha.bind fun b hb => (ih has).bind fun bs hbs => .pure (List.forall_mem_cons.2 ⟨hb, hbs⟩)

/-- Actions one after the other, without answers. -/
theorem forM {as : List α} {f : α → Act σ Unit}
    (h : ∀ a ∈ as, Gives I strict (f a) fun _ => True) :
    Gives I strict (as.forM f) fun _ => True := by
  induction as with
  | nil => exact .pure trivial
  | cons a as ih =>
    obtain ⟨ha, has⟩ := List.forall_mem_cons.1 h
    exact ha.bind fun _ _ => ih has

/-- Actions that thread a result keep what holds of it. -/
theorem foldlM {as : List α} {f : β → α → Act σ β} {b : β} (hb : Q b)
    (h : ∀ a ∈ as, ∀ b, Q b → Gives I strict (f b a) Q) : Gives I strict (as.foldlM f b) Q := by
  -- The result that is threaded changes from item to item, so it is general in the induction.
  induction as generalizing b with
  | nil => exact .pure hb
  | cons a as ih =>
    obtain ⟨ha, has⟩ := List.forall_mem_cons.1 h
    rw [List.foldlM_cons]
    exact (ha b hb).bind fun b hb => ih hb has

end Gives
end Act
end Storefront
