import Storefront.Assoc

/-! # The entity store

Entities are kept by kind and, within a kind, by identifier, both in the order in which they were
first put in.  A slot may hold nothing: it keeps its place and is counted, but counts as absent.  A
kind stays known after its last entity was erased.

* `get?_set_self`, `get?_set_of_ne` : look-up after `set`
* `set_set`, `set_of_get?` : what is set again
* `set_comm_of_get?` : what is set in either order
* `get?_delete_self`, `get?_delete_of_ne` : look-up after `delete` -/

namespace Storefront

/-- Entities by kind and identifier, in the order in which they were first put in. -/
structure Store (κ : Type) (α : Type) where
  kinds : List (κ × List (κ × Option α)) := []

namespace Store

variable {κ : Type} {α : Type} [BEq κ]

/-- The store that holds nothing. -/
def empty : Store κ α := ⟨[]⟩

/-- The slots of a kind. -/
def slots (s : Store κ α) (kind : κ) : List (κ × Option α) := (Assoc.get? s.kinds kind).getD []

/-- Puts an entity, or nothing, under an identifier. -/
def set (s : Store κ α) (kind id : κ) (entity : Option α) : Store κ α :=
  ⟨Assoc.put s.kinds kind (Assoc.put (s.slots kind) id entity)⟩

/-- The entity under an identifier. -/
def get? (s : Store κ α) (kind id : κ) : Option α := (Assoc.get? (s.slots kind) id).join

/-- Whether there is an entity under an identifier. -/
def has (s : Store κ α) (kind id : κ) : Bool := (s.get? kind id).isSome

/-- Erases an entity, if there is one. -/
def delete (s : Store κ α) (kind id : κ) : Store κ α :=
  if s.has kind id then ⟨Assoc.put s.kinds kind (Assoc.erase (s.slots kind) id)⟩ else s

/-- What the slots of a kind hold, in order. -/
def all (s : Store κ α) (kind : κ) : List (Option α) := Assoc.values (s.slots kind)

/-- The number of slots of every kind. -/
def counts (s : Store κ α) : List (κ × Nat) := s.kinds.map fun (k, slots) => (k, slots.length)

/-- A kind with an entity is known. -/
theorem known_of_has {s : Store κ α} {kind id : κ} (h : s.has kind id = true) :
    Assoc.has s.kinds kind = true := by
  cases hk : Assoc.get? s.kinds kind with
  | none => simp [has, get?, slots, hk] at h
  | some slots => simp [Assoc.has, hk]

variable [EquivBEq κ]

theorem slots_set_self (s : Store κ α) (kind id : κ) (e : Option α) :
    (s.set kind id e).slots kind = Assoc.put (s.slots kind) id e := by
  simp [set, slots]

theorem slots_set_of_ne (s : Store κ α) {kind other : κ} (h : (other == kind) = false) (id : κ)
    (e : Option α) : (s.set kind id e).slots other = s.slots other := by
  simp [set, slots, Assoc.get?_put_of_ne _ h]

theorem slots_congr (s : Store κ α) {kind other : κ} (h : (kind == other) = true) :
    s.slots kind = s.slots other := by
  rw [slots, Assoc.get?_congr _ h, slots]

theorem get?_congr (s : Store κ α) (kind : κ) {id other : κ} (h : (id == other) = true) :
    s.get? kind id = s.get? kind other := by
  rw [get?, Assoc.get?_congr _ h, get?]

@[simp] theorem get?_set_self (s : Store κ α) (kind id : κ) (e : Option α) :
    (s.set kind id e).get? kind id = e := by
  simp [get?, slots_set_self]

theorem get?_set_of_ne (s : Store κ α) {kind id kind' id' : κ}
    (h : (kind' == kind) = false ∨ (id' == id) = false) (e : Option α) :
    (s.set kind id e).get? kind' id' = s.get? kind' id' := by
  by_cases hk : (kind' == kind) = true
  · rcases h with h | h
    · simp [hk] at h
    · simp [get?, slots_congr _ hk, slots_set_self, Assoc.get?_put_of_ne _ h]
  · simp [get?, slots_set_of_ne s (by simpa using hk)]

/-- Of two entities that are put under one identifier, the second stays. -/
theorem set_set (s : Store κ α) (kind id : κ) (e e' : Option α) :
    (s.set kind id e).set kind id e' = s.set kind id e' := by
  rw [set, slots_set_self, Assoc.put_put, set, Assoc.put_put, set]

/-- Entities of different kinds may be put in either order, if the one replaces another. -/
theorem set_comm_of_get? {s : Store κ α} {kind id : κ} {e₀ : α} (h : s.get? kind id = some e₀)
    {other : κ} (hne : (other == kind) = false) (id' : κ) (e e' : Option α) :
    (s.set kind id e).set other id' e' = (s.set other id' e').set kind id e := by
  have hne' : (kind == other) = false := by rw [BEq.comm]; exact hne
  have known : Assoc.has s.kinds kind = true := known_of_has (by rw [has, h]; rfl)
  have first : (s.set kind id e).set other id' e' = ⟨Assoc.put (Assoc.put s.kinds kind
      (Assoc.put (s.slots kind) id e)) other (Assoc.put (s.slots other) id' e')⟩ := by
    rw [set, slots_set_of_ne s hne]
    rfl
  have second : (s.set other id' e').set kind id e = ⟨Assoc.put (Assoc.put s.kinds other
      (Assoc.put (s.slots other) id' e')) kind (Assoc.put (s.slots kind) id e)⟩ := by
    rw [set, slots_set_of_ne s hne']
    rfl
  rw [first, second, Assoc.put_comm_of_has known hne]

omit [EquivBEq κ] in
/-- Putting an entity where it is already changes nothing. -/
theorem set_of_get? {s : Store κ α} {kind id : κ} {e : α} (h : s.get? kind id = some e) :
    s.set kind id (some e) = s := by
  have slot : Assoc.get? (s.slots kind) id = some (some e) := by
    rw [get?] at h
    exact Option.join_eq_some_iff.1 h
  -- A kind with an entity is known, so its slots are what is kept for it.
  have kept : Assoc.get? s.kinds kind = some (s.slots kind) := by
    unfold slots at slot ⊢
    cases hk : Assoc.get? s.kinds kind with
    | none => simp [hk] at slot
    | some slots => rfl
  rw [set, Assoc.put_of_get? slot, Assoc.put_of_get? kept]

@[simp] theorem get?_delete_self (s : Store κ α) (kind id : κ) :
    (s.delete kind id).get? kind id = none := by
  unfold delete
  split
  · simp [get?, slots]
  · rename_i h
    simpa [has] using h

theorem get?_delete_of_ne (s : Store κ α) {kind id kind' id' : κ}
    (h : (kind' == kind) = false ∨ (id' == id) = false) :
    (s.delete kind id).get? kind' id' = s.get? kind' id' := by
  unfold delete
  split
  · by_cases hk : (kind' == kind) = true
    · rcases h with h | h
      · simp [hk] at h
      · simp only [get?, slots_congr _ hk]
        simp [slots, Assoc.get?_erase_of_ne _ h]
    · simp [get?, slots, Assoc.get?_put_of_ne _ (show (kind' == kind) = false by simpa using hk)]
  · rfl

theorem slots_delete_of_ne (s : Store κ α) {kind other : κ} (h : (other == kind) = false) (id : κ) :
    (s.delete kind id).slots other = s.slots other := by
  unfold delete
  split
  · simp [slots, Assoc.get?_put_of_ne _ h]
  · rfl

end Store
end Storefront
