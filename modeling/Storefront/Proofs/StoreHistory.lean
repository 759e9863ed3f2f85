import Mathlib.Data.List.Induction
import Mathlib.Order.Nat
import Storefront.Proofs.LinkSets
import Storefront.Proofs.Paging

/-! # The store as an ordered map

Entities are put into the store, deleted and cleared in any order, for any kinds.  What the store
holds after that is told by the calls alone: an entity is what the last call about its identifier
put there, and the entities of a kind are listed by the calls that put each in first since it was
taken out.  An identifier under which nothing was put is listed like any other, but there is nothing
to delete under it, so it is not taken out.

* `Lasts` : what starts at a place of a history and is not ended after it
* `Store.lastSet`, `Store.IsPlace` : an entity and its place, by the calls
* `Store.Ordered` : identifiers in the order of their places
* `Store.get?_after`, `Store.ordered_after` : what is found and listed after any calls
* `Store.known_after` : the kinds that are known after any calls
* `Store.ordered_map` : the store after any calls -/

namespace Storefront

/-! ### What lasts -/

section

variable {β : Type} (starts : β → Prop) (ends : List β → β → Prop)

/-- Something starts at a place of a history and does not end after it; whether a call ends it may
depend on the calls before. -/
def Lasts (h : List β) (i : Nat) : Prop :=
  (∃ c, h[i]? = some c ∧ starts c) ∧ ∀ j c, i < j → h[j]? = some c → ¬ ends (h.take j) c

variable {starts ends}

/-- What lasts has started in the history. -/
theorem Lasts.lt {h : List β} {i : Nat} (hi : Lasts starts ends h i) : i < h.length := by
  obtain ⟨⟨c, hc, -⟩, -⟩ := hi
  exact (List.getElem?_eq_some_iff.1 hc).1

/-- Nothing lasts in an empty history. -/
theorem not_lasts_nil (i : Nat) : ¬ Lasts starts ends [] i := fun hi => absurd hi.lt (by simp)

/-- After one more call there is what that call does not end, and what it starts. -/
theorem lasts_concat {h : List β} {c : β} {i : Nat} :
    Lasts starts ends (h ++ [c]) i ↔
      Lasts starts ends h i ∧ ¬ ends h c ∨ i = h.length ∧ starts c := by
  have last : (h ++ [c])[h.length]? = some c := List.getElem?_concat_length
  have whole : (h ++ [c]).take h.length = h := List.take_left
  constructor
  · -- A call of the longer history is one of the shorter, or the last one.
    intro hi
    have hle : i < h.length ∨ i = h.length := by
      have := hi.lt
      simp at this
      omega
    obtain ⟨⟨d, hd, started⟩, lasting⟩ := hi
    -- What started before the last call must not be ended by it.
    obtain hlt | rfl := hle
    · rw [List.getElem?_append_left hlt] at hd
      refine .inl ⟨⟨⟨d, hd, started⟩, fun j e hij he => ?_⟩, ?_⟩
      · have hj := (List.getElem?_eq_some_iff.1 he).1
        have := lasting j e hij (by rwa [List.getElem?_append_left hj])
        rwa [List.take_append_of_le_length hj.le] at this
      · have := lasting _ c hlt last
        rwa [whole] at this
    · obtain rfl := Option.some.inj (last.symm.trans hd)
      exact .inr ⟨rfl, started⟩
  · -- What lasted so far and is not ended lasts on; what starts with the last call has nothing
    -- after it.
    rintro (⟨hi, goes⟩ | ⟨rfl, started⟩)
    · have hlt := hi.lt
      obtain ⟨⟨d, hd, started⟩, lasting⟩ := hi
      refine ⟨⟨d, by rwa [List.getElem?_append_left hlt], started⟩, fun j e hij he => ?_⟩
      obtain hj | hj := Nat.lt_or_ge j h.length
      · rw [List.getElem?_append_left hj] at he
        rw [List.take_append_of_le_length hj.le]
        exact lasting j e hij he
      · have bound := (List.getElem?_eq_some_iff.1 he).1
        obtain rfl : j = h.length := by simp at bound; omega
        obtain rfl := Option.some.inj (last.symm.trans he)
        rwa [whole]
    · refine ⟨⟨c, last, started⟩, fun j e hij he => ?_⟩
      have bound := (List.getElem?_eq_some_iff.1 he).1
      simp at bound
      omega

end

/-- Where no two keys are the same, each finds its own value. -/
theorem Assoc.map_get?_keys {α : Type} {m : List (Key × α)} (h : KeySet.Distinct (keys m)) :
    (keys m).map (get? m) = (values m).map some := by
  induction m with
  | nil => rfl
  | cons p m ih =>
    obtain ⟨k, a⟩ := p
    -- The first key finds its own value, and no other key finds that one.
    obtain ⟨new, distinct⟩ := List.pairwise_cons.1 h
    have others : (keys m).map (get? ((k, a) :: m)) = (keys m).map (get? m) :=
      List.map_congr_left fun k' hk' => by rw [get?_cons, if_neg (by simp [new k' hk'])]
    show get? ((k, a) :: m) k :: (keys m).map (get? ((k, a) :: m)) = some a :: (values m).map some
    rw [others, ih distinct, get?_cons, if_pos BEq.rfl]

namespace Store

variable {α : Type}

/-! ### Histories -/

/-- A call that changes a store. -/
inductive Edit (α : Type) where
  | set (kind id : Key) (entity : Option α)
  | delete (kind id : Key)
  | clear

namespace Edit

/-- Makes the call. -/
def apply (s : Store Key α) : Edit α → Store Key α
  | set kind id entity => s.set kind id entity
  | delete kind id => s.delete kind id
  | clear => empty

/-- The kind that the call is for, unless it is for all. -/
def kind? : Edit α → Option Key
  | set kind _ _ | delete kind _ => some kind
  | clear => none

/-- Whether the call is about an identifier of a kind; clearing is about all. -/
def isAbout (kind id : Key) : Edit α → Bool
  | set k d _ | delete k d => k == kind && d == id
  | clear => true

/-- The call puts something, or nothing, under an identifier. -/
def Sets (kind id : Key) : Edit α → Prop
  | set k d _ => (k == kind) = true ∧ (d == id) = true
  | _ => False

/-- The call puts something, or nothing, under an identifier of the kind. -/
def SetsOf (kind : Key) : Edit α → Prop
  | set k _ _ => (k == kind) = true
  | _ => False

/-- The call clears the store. -/
def Clears : Edit α → Prop
  | clear => True
  | _ => False

end Edit

/-- The store after some calls, empty at the start. -/
def after (h : List (Edit α)) : Store Key α := h.foldl Edit.apply empty

/-- The entity that the last call about an identifier put there, if that is what it did. -/
def lastSet (h : List (Edit α)) (kind id : Key) : Option α :=
  match h.reverse.find? (·.isAbout kind id) with
  | some (.set _ _ entity) => entity
  | _ => none

/-- After some calls, the next one takes an identifier out: it clears the store, or deletes an
entity that is there. -/
def Edit.Removes (kind id : Key) (before : List (Edit α)) : Edit α → Prop
  | set _ _ _ => False
  | delete k d => (k == kind) = true ∧ (d == id) = true ∧ (lastSet before kind id).isSome = true
  | clear => True

/-- The place of an identifier in a history: the first call that set it since it was taken out. -/
def IsPlace (h : List (Edit α)) (kind id : Key) (i : Nat) : Prop :=
  IsLeast {i | Lasts (Edit.Sets kind id) (Edit.Removes kind id) h i} i

/-- The identifiers of a kind that have a place in a history, ordered by their places. -/
structure Ordered (h : List (Edit α)) (kind : Key) (ids : List Key) : Prop where
  placed : ∀ id, ids.any (· == id) = true ↔ ∃ i, IsPlace h kind id i
  ordered : ids.Pairwise fun a b => ∀ i j, IsPlace h kind a i → IsPlace h kind b j → i < j

/-- The last call is made last. -/
theorem after_concat (h : List (Edit α)) (c : Edit α) : after (h ++ [c]) = c.apply (after h) :=
  List.foldl_concat ..

/-! ### What is found -/

/-- The last call decides about what it is about, and leaves the rest. -/
theorem lastSet_concat (h : List (Edit α)) (c : Edit α) (kind id : Key) :
    lastSet (h ++ [c]) kind id =
      if c.isAbout kind id then
        match c with
        | .set _ _ entity => entity
        | _ => none
      else lastSet h kind id := by
  rw [lastSet, List.reverse_append, List.reverse_singleton, List.singleton_append, List.find?_cons]
  cases about : c.isAbout kind id with
  | false => rfl
  | true => cases c <;> rfl

/-- What a call is not about differs in its kind or in its identifier. -/
theorem ne_or_ne_of_not_about {k d kind id : Key} (h : ¬ (k == kind && d == id) = true) :
    (kind == k) = false ∨ (id == d) = false := by
  rw [Bool.and_eq_true, Decidable.not_and_iff_not_or_not] at h
  simpa [BEq.comm (a := kind), BEq.comm (a := id)] using h

/-- What is found under an identifier is what the last call about it put there. -/
theorem get?_after (h : List (Edit α)) (kind id : Key) :
    (after h).get? kind id = lastSet h kind id := by
  -- The history grows at its end, where calls are made.
  induction h using List.reverseRecOn with
  | nil => rfl
  | append_singleton h c ih =>
    rw [after_concat, lastSet_concat, ← ih]
    cases c with
    -- A call about the identifier under another spelling is about it as well.
    | set k d entity =>
      rw [Edit.isAbout, Edit.apply]
      split
      · rename_i about
        obtain ⟨hk, hd⟩ := Bool.and_eq_true_iff.1 about
        rw [← get?_congr _ _ hd, get?, ← slots_congr _ hk, ← get?, get?_set_self]
      · rename_i other
        exact get?_set_of_ne _ (ne_or_ne_of_not_about other) entity
    | delete k d =>
      rw [Edit.isAbout, Edit.apply]
      split
      · rename_i about
        obtain ⟨hk, hd⟩ := Bool.and_eq_true_iff.1 about
        rw [← get?_congr _ _ hd, get?, ← slots_congr _ hk, ← get?, get?_delete_self]
      · rename_i other
        exact get?_delete_of_ne _ (ne_or_ne_of_not_about other)
    | clear => rfl

/-- Identifiers that are the same were set to the same. -/
theorem lastSet_congr (h : List (Edit α)) (kind : Key) {id other : Key}
    (same : (id == other) = true) :
    lastSet h kind id = lastSet h kind other := by
  rw [← get?_after, ← get?_after, get?_congr _ _ same]

/-! ### Places -/

variable {h : List (Edit α)} {c : Edit α} {kind id : Key} {i : Nat}

/-- A place is in the history. -/
theorem IsPlace.lt (hi : IsPlace h kind id i) : i < h.length := hi.1.lt

/-- A call that neither sets nor removes an identifier leaves its place. -/
theorem isPlace_iff_of_not (sets : ¬ c.Sets kind id) (removes : ¬ c.Removes kind id h) :
    IsPlace (h ++ [c]) kind id i ↔ IsPlace h kind id i := by
  simp [IsPlace, lasts_concat, sets, removes]

/-- What is removed has no place. -/
theorem not_isPlace_of_removes (removes : c.Removes kind id h) :
    ¬ IsPlace (h ++ [c]) kind id i := by
  rintro ⟨hi, -⟩
  obtain ⟨-, stays⟩ | ⟨-, sets⟩ := lasts_concat.1 hi
  · exact stays removes
  · cases c with
    | set => exact removes
    | delete => exact sets
    | clear => exact sets

/-- What lasts from anywhere has a first place that it lasts from. -/
theorem exists_isPlace (hi : Lasts (Edit.Sets kind id) (Edit.Removes kind id) h i) :
    ∃ j, IsPlace h kind id j := by
  classical
  exact ⟨_, Nat.isLeast_find ⟨i, hi⟩⟩

/-- A call does not set and remove at once. -/
theorem not_removes_of_sets (sets : c.Sets kind id) : ¬ c.Removes kind id h := by
  cases c with
  | set => exact False.elim
  | delete => exact sets.elim
  | clear => exact sets.elim

/-- An identifier that is set keeps the place it has. -/
theorem IsPlace.of_sets (hi : IsPlace h kind id i) (sets : c.Sets kind id) :
    IsPlace (h ++ [c]) kind id i := by
  refine ⟨lasts_concat.2 (.inl ⟨hi.1, not_removes_of_sets sets⟩), fun j hj => ?_⟩
  obtain ⟨hj, -⟩ | ⟨rfl, -⟩ := lasts_concat.1 hj
  · exact hi.2 hj
  · exact hi.lt.le

/-- An identifier without a place gets the last one when it is set. -/
theorem isPlace_length (new : ∀ j, ¬ IsPlace h kind id j) (sets : c.Sets kind id) :
    IsPlace (h ++ [c]) kind id h.length := by
  refine ⟨lasts_concat.2 (.inr ⟨rfl, sets⟩), fun j hj => ?_⟩
  obtain ⟨hj, -⟩ | ⟨rfl, -⟩ := lasts_concat.1 hj
  · obtain ⟨i, hi⟩ := exists_isPlace hj
    exact absurd hi (new i)
  · exact le_rfl

/-- There is one place at most. -/
theorem IsPlace.unique {j : Nat} (hi : IsPlace h kind id i) (hj : IsPlace h kind id j) : i = j :=
  IsLeast.unique hi hj

/-- What is set under an identifier is set under all spellings of it. -/
theorem Edit.sets_congr {other : Key} (same : (id == other) = true) :
    c.Sets kind id ↔ c.Sets kind other := by
  cases c with
  | set k d entity => rw [Sets, Sets, BEq.congr_right same]
  | _ => rfl

/-- What is removed under an identifier is removed under all spellings of it. -/
theorem Edit.removes_congr {other : Key} (same : (id == other) = true) (before : List (Edit α)) :
    c.Removes kind id before ↔ c.Removes kind other before := by
  cases c with
  | delete k d => rw [Removes, Removes, BEq.congr_right same, lastSet_congr before kind same]
  | _ => rfl

/-- Identifiers that are the same have the same place. -/
theorem isPlace_congr {other : Key} (same : (id == other) = true) :
    IsPlace h kind id i ↔ IsPlace h kind other i := by
  simp only [IsPlace, Lasts, Edit.sets_congr same, Edit.removes_congr same]

/-! ### What is listed -/

namespace Ordered

variable {ids : List Key}

/-- Nothing is listed at the start. -/
theorem nil : Ordered ([] : List (Edit α)) kind [] where
  placed id := by
    refine ⟨nofun, fun ⟨i, hi⟩ => absurd hi.1 (not_lasts_nil i)⟩
  ordered := .nil

/-- What is listed has a place. -/
theorem exists_of_mem (hids : Ordered h kind ids) (hid : id ∈ ids) : ∃ i, IsPlace h kind id i :=
  (hids.placed id).1 (List.any_eq_true.2 ⟨id, hid, BEq.rfl⟩)

/-- Identifiers in different places are different. -/
theorem distinct (hids : Ordered h kind ids) : KeySet.Distinct ids := by
  refine hids.ordered.imp_of_mem fun {a b} ha _ before => ?_
  obtain ⟨i, hi⟩ := hids.exists_of_mem ha
  by_contra same
  exact absurd (before i i hi ((isPlace_congr (by simpa using same)).1 hi)) (Nat.lt_irrefl i)

/-- A call that changes no place of the kind leaves the identifiers as they are. -/
theorem same (hids : Ordered h kind ids)
    (places : ∀ id i, IsPlace (h ++ [c]) kind id i ↔ IsPlace h kind id i) :
    Ordered (h ++ [c]) kind ids where
  placed id := by
    rw [hids.placed]
    exact exists_congr fun i => (places id i).symm
  ordered := hids.ordered.imp fun {a b} before i j hi hj =>
    before i j ((places a i).1 hi) ((places b j).1 hj)

/-- Nothing is listed after clearing. -/
theorem clear : Ordered (h ++ [.clear]) kind [] where
  placed _ := ⟨nofun, fun ⟨_, hi⟩ => absurd hi (not_isPlace_of_removes trivial)⟩
  ordered := .nil

/-- A call sets an identifier: it stays where it is, or goes last. -/
theorem add (hids : Ordered h kind ids) {k d : Key} (hk : (k == kind) = true) (entity : Option α) :
    Ordered (h ++ [.set k d entity]) kind (KeySet.add ids d) := by
  have sets {id : Key} (hid : (d == id) = true) : (Edit.set k d entity).Sets kind id := ⟨hk, hid⟩
  have others {id : Key} (hid : (d == id) = false) (i : Nat) :
      IsPlace (h ++ [.set k d entity]) kind id i ↔ IsPlace h kind id i :=
    isPlace_iff_of_not (fun sets => by simp [Edit.Sets, hid] at sets) False.elim
  rw [KeySet.add]
  split
  · -- The identifier has a place, and keeps it.
    rename_i known
    obtain ⟨j, hj⟩ := (hids.placed d).1 known
    refine hids.same fun id i => ?_
    cases hid : d == id with
    | false => exact others hid i
    | true =>
      have before := (isPlace_congr hid).1 hj
      have now := before.of_sets (sets hid)
      exact ⟨fun hi => hi.unique now ▸ before, fun hi => hi.unique before ▸ now⟩
  · -- The identifier had no place, so it gets the last, after those of all others.
    rename_i unknown
    have new {id : Key} (hid : (d == id) = true) (j : Nat) : ¬ IsPlace h kind id j :=
      fun hj => unknown ((hids.placed d).2 ⟨j, (isPlace_congr hid).2 hj⟩)
    have last {id : Key} (hid : (d == id) = true) := isPlace_length (new hid) (sets hid)
    refine ⟨fun id => ?_, ?_⟩
    · rw [List.any_append, Bool.or_eq_true, hids.placed, List.any_cons, List.any_nil, Bool.or_false]
      cases hid : d == id with
      | false => simp [others hid]
      | true => exact ⟨fun _ => ⟨_, last hid⟩, fun _ => .inr rfl⟩
    · have other {a : Key} (ha : a ∈ ids) : (d == a) = false := by
        by_contra hda
        obtain ⟨i, hi⟩ := hids.exists_of_mem ha
        exact new (by simpa using hda) i hi
      refine List.pairwise_append.2 ⟨hids.ordered.imp_of_mem fun {a b} ha hb before i j hi hj => ?_,
        List.pairwise_singleton _ _, fun a ha b hb i j hi hj => ?_⟩
      · exact before i j ((others (other ha) i).1 hi) ((others (other hb) j).1 hj)
      · obtain rfl := List.mem_singleton.1 hb
        rw [hj.unique (last BEq.rfl)]
        exact ((others (other ha) i).1 hi).lt

/-- A call takes out an identifier, and no other. -/
theorem drop (hids : Ordered h kind ids) {k d : Key} (hk : (k == kind) = true)
    (found : (lastSet h kind d).isSome = true) :
    Ordered (h ++ [.delete k d]) kind (KeySet.drop ids d) := by
  have gone {id : Key} (hid : (d == id) = true) (i : Nat) :
      ¬ IsPlace (h ++ [.delete k d]) kind id i :=
    not_isPlace_of_removes ⟨hk, hid, lastSet_congr h kind hid ▸ found⟩
  have others {id : Key} (hid : (d == id) = false) (i : Nat) :
      IsPlace (h ++ [.delete k d]) kind id i ↔ IsPlace h kind id i :=
    isPlace_iff_of_not False.elim fun removes => by simp [Edit.Removes, hid] at removes
  -- Nothing of what stays is spelled like what is taken out.
  have other {a : Key} (ha : a ∈ KeySet.drop ids d) : (d == a) = false := by
    rw [BEq.comm]
    simpa using (List.mem_filter.1 ha).2
  refine ⟨fun id => ?_, ?_⟩
  · -- What is taken out has no place any more, and all else has the place it had.
    cases hid : d == id with
    | true =>
      refine ⟨fun hany => ?_, fun ⟨i, hi⟩ => absurd hi (gone hid i)⟩
      obtain ⟨a, ha, same⟩ := List.any_eq_true.1 hany
      have := (BEq.congr_right same).trans hid
      rw [other ha] at this
      cases this
    | false =>
      rw [exists_congr (others hid), ← hids.placed, List.any_eq_true, List.any_eq_true]
      refine exists_congr fun a => and_congr_left fun same => ?_
      have stays : (a == d) = false := by rw [BEq.congr_left same, BEq.comm]; exact hid
      simp [KeySet.drop, stays]
  · refine (hids.ordered.sublist List.filter_sublist).imp_of_mem fun {a b} ha hb before i
      j hi hj => ?_
    exact before i j ((others (other ha) i).1 hi) ((others (other hb) j).1 hj)

end Ordered

/-- The identifiers of a kind are kept in the order of their places. -/
theorem ordered_after (h : List (Edit α)) (kind : Key) :
    Ordered h kind (Assoc.keys ((after h).slots kind)) := by
  -- What is kept for the kind is changed by a call exactly as its places are.
  induction h using List.reverseRecOn with
  | nil => exact .nil
  | append_singleton h c ih =>
    rw [after_concat]
    cases c with
    | clear => exact .clear
    | set k d entity =>
      rw [Edit.apply]
      cases hk : k == kind with
      | true =>
        rw [← slots_congr _ hk, slots_set_self, KeySet.keys_put, slots_congr _ hk]
        exact ih.add hk entity
      | false =>
        rw [slots_set_of_ne _ (by rwa [BEq.comm])]
        exact ih.same fun id i => isPlace_iff_of_not (by simp [Edit.Sets, hk]) False.elim
    | delete k d =>
      rw [Edit.apply]
      cases hk : k == kind with
      | false =>
        rw [slots_delete_of_ne _ (by rwa [BEq.comm])]
        exact ih.same fun id i => isPlace_iff_of_not False.elim (by simp [Edit.Removes, hk])
      | true =>
        have found : (after h).has k d = (lastSet h kind d).isSome := by
          rw [← get?_after, has, get?, slots_congr _ hk, get?]
        cases hd : (after h).has k d with
        | true =>
          rw [← slots_congr _ hk, slots_delete_self hd, Assoc.keys_erase, slots_congr _ hk]
          exact ih.drop hk (found ▸ hd)
        | false =>
          -- Nothing is there to be deleted, under any spelling of the identifier.
          rw [delete, hd, if_neg Bool.false_ne_true]
          refine ih.same fun id i => isPlace_iff_of_not False.elim ?_
          rintro ⟨-, hid, some⟩
          rw [← lastSet_congr h kind hid, ← found, hd] at some
          cases some

/-- The entities of a kind are listed in the order of their places. -/
theorem all_after (h : List (Edit α)) (kind : Key) :
    (after h).all kind = (Assoc.keys ((after h).slots kind)).map ((after h).get? kind) := by
  have found := congrArg (List.map Option.join)
    (Assoc.map_get?_keys (ordered_after h kind).distinct)
  rw [List.map_map, List.map_map] at found
  exact (List.map_id _).symm.trans found.symm

-- The first identifier is taken out and set again, and so goes last; there is nothing to take out
-- under the second, which keeps its place.
example :
    let cart := Key.text "Cart"
    (after [.set cart (.int 1) (some "a"), .set cart (.int 2) none, .set cart (.int 3) (some "b"),
      .delete cart (.int 2), .delete cart (.int 1), .set cart (.int 1) (some "c"),
      .set cart (.int 3) (some "d")]).all cart = [none, some "d", some "c"] := by
  decide

/-! ### Kinds -/

/-- No kind is counted twice. -/
theorem distinct_counts (h : List (Edit α)) : KeySet.Distinct (Assoc.keys (after h).counts) := by
  have keys (s : Store Key α) : Assoc.keys s.counts = Assoc.keys s.kinds := by
    simp [counts, Assoc.keys]
  rw [keys]
  -- A kind that is set again keeps its count, and one that is new is added.
  induction h using List.reverseRecOn with
  | nil => exact .nil
  | append_singleton h c ih =>
    rw [after_concat]
    cases c with
    | set k d entity => exact KeySet.keys_put _ k _ ▸ ih.add k
    | delete k d =>
      rw [Edit.apply, delete]
      split
      · exact KeySet.keys_put _ k _ ▸ ih.add k
      · exact ih
    | clear => exact .nil

/-- A kind is known if anything was set of it since the store was cleared. -/
theorem known_after (h : List (Edit α)) (kind : Key) :
    Assoc.has (after h).kinds kind = true ↔
      ∃ i, Lasts (Edit.SetsOf kind) (fun _ c => c.Clears) h i := by
  induction h using List.reverseRecOn with
  | nil => exact ⟨nofun, fun ⟨i, hi⟩ => absurd hi (not_lasts_nil i)⟩
  | append_singleton h c ih =>
    simp only [after_concat, lasts_concat, exists_or, exists_and_right, exists_eq, true_and, ← ih]
    cases c with
    | set k d entity => simp [Edit.apply, set, Assoc.has_put, Edit.Clears, Edit.SetsOf]
    -- Deleting keeps a kind that is known, also when nothing of it is left.
    | delete k d =>
      rw [Edit.apply, delete]
      split
      · rename_i found
        have known := known_of_has found
        cases hk : k == kind with
        | false => simp [Assoc.has_put, hk, Edit.Clears, Edit.SetsOf]
        | true =>
          rw [Assoc.has, Assoc.get?_congr _ hk, ← Assoc.has] at known
          simp [Assoc.has_put, known, Edit.Clears, Edit.SetsOf]
      · simp [Edit.Clears, Edit.SetsOf]
    | clear => simp [Edit.apply, empty, Assoc.has, Edit.Clears, Edit.SetsOf]

/-- A known kind is counted with the number of its entities. -/
theorem get?_counts (s : Store Key α) (kind : Key) :
    Assoc.get? s.counts kind =
      if Assoc.has s.kinds kind then some (s.all kind).length else none := by
  rw [counts, Assoc.get?_map, Assoc.has, all, Assoc.values, List.length_map, slots]
  cases Assoc.get? s.kinds kind <;> rfl

/-- Two stores hold the same of a kind. -/
structure AgreeOn (kind : Key) (s t : Store Key α) : Prop where
  all : s.all kind = t.all kind
  found (id : Key) : s.get? kind id = t.get? kind id
  known (id : Key) : s.has kind id = t.has kind id
  count : Assoc.get? s.counts kind = Assoc.get? t.counts kind

/-- What is kept for a kind decides all that can be asked about it. -/
theorem AgreeOn.of_kept {s t : Store Key α} {kind : Key}
    (same : Assoc.get? s.kinds kind = Assoc.get? t.kinds kind) : AgreeOn kind s t := by
  have slots : s.slots kind = t.slots kind := congrArg (Option.getD · []) same
  have found (id : Key) : s.get? kind id = t.get? kind id := by rw [get?, slots, get?]
  refine ⟨by rw [Store.all, slots, Store.all], found, fun id => by rw [has, found, has], ?_⟩
  rw [counts, counts, Assoc.get?_map, Assoc.get?_map, same]

/-- A call for one kind leaves what is held of any other. -/
theorem agreeOn_apply (s : Store Key α) {c : Edit α} {kind other : Key} (hc : c.kind? = some kind)
    (hne : (other == kind) = false) : AgreeOn other (c.apply s) s := by
  refine .of_kept ?_
  -- Whether something is set or deleted, only its own kind is written.
  cases c with
  | set k d entity =>
    obtain rfl := Option.some.inj hc
    exact Assoc.get?_put_of_ne _ hne _
  | delete k d =>
    obtain rfl := Option.some.inj hc
    rw [Edit.apply, delete]
    split
    · exact Assoc.get?_put_of_ne _ hne _
    · rfl
  | clear => cases hc

/-! ### The store -/

/-- After any calls, the entities of a kind are listed in the order in which their identifiers were
first set since they were taken out, and each is found as it was set last.  Where nothing was set,
or null, there is nothing to delete.  Each kind of which anything was set since the store was
cleared is counted once, with the number of entities that are listed of it.  A call for one kind
leaves all others, and a page is a window of the list. -/
theorem ordered_map (h : List (Edit α)) :
    (∀ kind, ∃ ids, (after h).all kind = ids.map ((after h).get? kind) ∧ Ordered h kind ids) ∧
    (∀ kind id, (after h).get? kind id = lastSet h kind id ∧
      (after h).has kind id = (lastSet h kind id).isSome ∧
      (lastSet h kind id = none → (after h).delete kind id = after h)) ∧
    KeySet.Distinct (Assoc.keys (after h).counts) ∧
    (∀ kind n, Assoc.get? (after h).counts kind = some n ↔
      (∃ i, Lasts (Edit.SetsOf kind) (fun _ c => c.Clears) h i) ∧
        n = ((after h).all kind).length) ∧
    (∀ (c : Edit α) kind other, c.kind? = some kind → (other == kind) = false →
      AgreeOn other (c.apply (after h)) (after h)) ∧
    ∀ kind (start limit : Nat), 0 < limit →
      Shop.page (.int start) (.int limit) ((after h).all kind) =
        .ok ((((after h).all kind).drop start).take limit) := by
  refine ⟨fun kind => ⟨_, all_after h kind, ordered_after h kind⟩, fun kind id => ?_,
    distinct_counts h, fun kind n => ?_, fun c kind other => agreeOn_apply _,
    fun kind start limit positive => Shop.page_window start positive _⟩
  · -- what deletion does of nothing
    have has : (after h).has kind id = (lastSet h kind id).isSome := by rw [Store.has, get?_after]
    refine ⟨get?_after h kind id, has, fun nothing => ?_⟩
    rw [nothing] at has
    rw [delete, has, if_neg (by simp)]
  · -- the counter of a kind lives as long as the kind, and counts what is in it
    rw [← known_after, get?_counts]
    split
    · simp [*, eq_comm]
    · simp [*]

end Store
end Storefront
