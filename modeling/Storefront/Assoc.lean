/-! # Ordered maps as lists of pairs

An association list stands for a map that remembers the order of first insertion: `put` overwrites
in place or appends, `erase` drops every pair of a key.  Which keys are the same is what `==` says,
which may be coarser than equality; a key that is put in again keeps its first spelling.  The view
is the list itself; the lemmas say what each operation does to look-up and to the list of keys.

* `get?_put_self`, `get?_put_of_ne` : look-up after `put`
* `put_of_get?`, `put_put` : what is put in again
* `put_comm_of_has` : two keys, one of them present, in either order
* `keys_put_of_has`, `keys_put_of_not_has` : a known key keeps its place, a new one goes last
* `has_put` : the keys that are present after `put`
* `nodup_keys_put` : no key occurs twice
* `get?_erase_self`, `get?_erase_of_ne`, `keys_erase` : look-up and keys after `erase` -/

namespace Storefront.Assoc

variable {κ : Type _} {α : Type _} [BEq κ]

/-- The value of the first pair with the given key. -/
def get? : List (κ × α) → κ → Option α
  | [], _ => none
  | (k, a) :: m, key => if k == key then some a else get? m key

/-- Overwrites the value of a key in place, or appends a new pair. -/
def put : List (κ × α) → κ → α → List (κ × α)
  | [], key, a => [(key, a)]
  | (k, b) :: m, key, a => if k == key then (k, a) :: m else (k, b) :: put m key a

/-- Drops the pairs of a key. -/
def erase (m : List (κ × α)) (key : κ) : List (κ × α) := m.filter (!·.1 == key)

/-- The keys, in order of first insertion. -/
def keys (m : List (κ × α)) : List κ := m.map (·.1)

/-- The values, in order of first insertion of their keys. -/
def values (m : List (κ × α)) : List α := m.map (·.2)

/-- Whether a key is present. -/
def has (m : List (κ × α)) (key : κ) : Bool := (get? m key).isSome

/-- The map with the given pairs put in one after the other. -/
def ofPairs (pairs : List (κ × α)) : List (κ × α) :=
  pairs.foldl (fun m (k, a) => put m k a) []

@[simp] theorem get?_nil (key : κ) : get? ([] : List (κ × α)) key = none := rfl

theorem get?_cons (k : κ) (a : α) (m : List (κ × α)) (key : κ) :
    get? ((k, a) :: m) key = if k == key then some a else get? m key := rfl

theorem get?_map {β : Type _} (f : α → β) (m : List (κ × α)) (key : κ) :
    get? (m.map fun (k, a) => (k, f a)) key = (get? m key).map f := by
  induction m with
  | nil => rfl
  | cons p m ih =>
    obtain ⟨k, a⟩ := p
    rw [List.map_cons, get?_cons, get?_cons]
    split
    · rfl
    · exact ih

theorem has_iff (m : List (κ × α)) (key : κ) : has m key = (keys m).any (· == key) := by
  induction m with
  | nil => rfl
  | cons p m ih =>
    obtain ⟨k, b⟩ := p
    by_cases h : k == key <;> simp_all [has, keys, get?_cons]

theorem keys_put_of_has {m : List (κ × α)} {key : κ} (h : has m key = true) (a : α) :
    keys (put m key a) = keys m := by
  induction m with
  | nil => simp [has] at h
  | cons p m ih =>
    obtain ⟨k, b⟩ := p
    by_cases hk : k == key
    · simp [put, hk, keys]
    · have : has m key = true := by simpa [has, get?_cons, hk] using h
      simpa [put, hk, keys] using ih this

/-- A new key goes last. -/
theorem put_of_not_has {m : List (κ × α)} {key : κ} (h : has m key = false) (a : α) :
    put m key a = m ++ [(key, a)] := by
  induction m with
  | nil => rfl
  | cons p m ih =>
    obtain ⟨k, b⟩ := p
    have hk : ¬ (k == key) = true := fun e => by simp [has, get?_cons, e] at h
    have : has m key = false := by simpa [has, get?_cons, hk] using h
    simp [put, hk, ih this]

theorem keys_put_of_not_has {m : List (κ × α)} {key : κ} (h : has m key = false) (a : α) :
    keys (put m key a) = keys m ++ [key] := by
  rw [put_of_not_has h]
  simp [keys]

/-- Keys that are put in never occur twice. -/
theorem nodup_keys_put [ReflBEq κ] {m : List (κ × α)} (h : (keys m).Nodup) (key : κ) (a : α) :
    (keys (put m key a)).Nodup := by
  cases known : has m key with
  | true => exact keys_put_of_has known a ▸ h
  | false =>
    rw [keys_put_of_not_has known, List.nodup_append]
    refine ⟨h, List.pairwise_singleton _ _, fun k hk k' hk' => ?_⟩
    obtain rfl := List.mem_singleton.1 hk'
    rintro rfl
    rw [has_iff, List.any_eq_false] at known
    exact known _ hk BEq.rfl

theorem mem_of_get? {m : List (κ × α)} {key : κ} {a : α} (h : get? m key = some a) :
    ∃ k, (k == key) = true ∧ (k, a) ∈ m := by
  induction m with
  | nil => cases h
  | cons p m ih =>
    obtain ⟨k, b⟩ := p
    rw [get?_cons] at h
    split at h
    · rename_i hk
      cases h
      exact ⟨k, hk, .head _⟩
    · obtain ⟨k', hk, hm⟩ := ih h
      exact ⟨k', hk, .tail _ hm⟩

/-- A pair that was put in has the key in one of its spellings. -/
theorem mem_put {m : List (κ × α)} {key : κ} {a : α} {p : κ × α} (h : p ∈ put m key a) :
    p ∈ m ∨ (p.2 = a ∧ (p.1 = key ∨ ∃ b, (p.1, b) ∈ m)) := by
  induction m with
  | nil =>
    obtain rfl := List.mem_singleton.1 h
    exact .inr ⟨rfl, .inl rfl⟩
  | cons q m ih =>
    obtain ⟨k, b⟩ := q
    rw [put] at h
    split at h
    · rcases List.mem_cons.1 h with rfl | h
      · exact .inr ⟨rfl, .inr ⟨b, .head _⟩⟩
      · exact .inl (.tail _ h)
    · rcases List.mem_cons.1 h with rfl | h
      · exact .inl (.head _)
      · exact (ih h).imp (.tail _) fun ⟨ha, hk⟩ => ⟨ha, hk.imp id fun ⟨b, hb⟩ => ⟨b, .tail _ hb⟩⟩

theorem keys_erase (m : List (κ × α)) (key : κ) :
    keys (erase m key) = (keys m).filter (!· == key) := by
  simp [keys, erase, List.filter_map, Function.comp_def]

@[simp] theorem get?_erase_self (m : List (κ × α)) (key : κ) : get? (erase m key) key = none := by
  induction m with
  | nil => rfl
  | cons p m ih =>
    obtain ⟨k, b⟩ := p
    by_cases h : k == key
    · simpa [erase, h] using ih
    · simpa [erase, h, get?] using ih

/-- Putting in what is there already changes nothing. -/
theorem put_of_get? {m : List (κ × α)} {key : κ} {a : α} (h : get? m key = some a) :
    put m key a = m := by
  induction m with
  | nil => cases h
  | cons p m ih =>
    obtain ⟨k, b⟩ := p
    by_cases hk : k == key
    · obtain rfl : b = a := by simpa [get?_cons, hk] using h
      simp [put, hk]
    · have : get? m key = some a := by simpa [get?_cons, hk] using h
      simp [put, hk, ih this]

variable [EquivBEq κ]

/-- Keys that are the same have the same value. -/
theorem get?_congr (m : List (κ × α)) {key other : κ} (h : (key == other) = true) :
    get? m key = get? m other := by
  induction m with
  | nil => rfl
  | cons p m ih =>
    obtain ⟨k, a⟩ := p
    have : (k == key) = (k == other) := BEq.congr_right h
    simp [get?_cons, this, ih]

@[simp] theorem get?_put_self (m : List (κ × α)) (key : κ) (a : α) :
    get? (put m key a) key = some a := by
  induction m with
  | nil => simp [put, get?]
  | cons p m ih =>
    obtain ⟨k, b⟩ := p
    by_cases h : k == key <;> simp [put, get?, h, ih]

theorem get?_put_of_ne (m : List (κ × α)) {key other : κ} (h : (other == key) = false) (a : α) :
    get? (put m key a) other = get? m other := by
  have h' : (key == other) = false := by rw [BEq.comm]; exact h
  induction m with
  | nil => simp [put, get?, h']
  | cons p m ih =>
    obtain ⟨k, b⟩ := p
    by_cases hk : k == key
    · have : (k == other) = false := by rw [BEq.congr_left hk]; exact h'
      simp [put, get?, hk, this]
    · simp [put, get?, hk, ih]

theorem has_put (m : List (κ × α)) (key other : κ) (a : α) :
    has (put m key a) other = (has m other || key == other) := by
  cases same : key == other with
  | true => rw [has, ← get?_congr _ same, get?_put_self, Bool.or_true, Option.isSome_some]
  | false => rw [has, get?_put_of_ne _ (by rwa [BEq.comm]), has, Bool.or_false]

/-- Of two values that are put in under one key, the second stays. -/
theorem put_put (m : List (κ × α)) (key : κ) (a b : α) :
    put (put m key a) key b = put m key b := by
  induction m with
  | nil => simp [put]
  | cons p m ih =>
    obtain ⟨k, c⟩ := p
    by_cases hk : k == key <;> simp [put, hk, ih]

/-- What is put under a key that is present stays in its place, so it may as well be put in after
another key. -/
theorem put_comm_of_has {m : List (κ × α)} {key other : κ} (h : has m key = true)
    (hne : (other == key) = false) (a b : α) :
    put (put m key a) other b = put (put m other b) key a := by
  induction m with
  | nil => simp [has] at h
  | cons p m ih =>
    obtain ⟨k, c⟩ := p
    by_cases hk : k == key
    · have ho : (k == other) = false := by rw [BEq.congr_left hk, BEq.comm]; exact hne
      simp [put, hk, ho]
    · have hm : has m key = true := by simpa [has, get?_cons, hk] using h
      by_cases ho : k == other
      · simp [put, hk, ho]
      · simp [put, hk, ho, ih hm]

theorem get?_erase_of_ne (m : List (κ × α)) {key other : κ} (h : (other == key) = false) :
    get? (erase m key) other = get? m other := by
  have h' : (key == other) = false := by rw [BEq.comm]; exact h
  induction m with
  | nil => rfl
  | cons p m ih =>
    obtain ⟨k, b⟩ := p
    by_cases hk : k == key
    · have : (k == other) = false := by rw [BEq.congr_left hk]; exact h'
      simpa [erase, get?, hk, this] using ih
    · by_cases ho : k == other
      · simp [erase, get?, hk, ho]
      · simpa [erase, get?, hk, ho] using ih

end Storefront.Assoc
