import Storefront.Shop.Groups
import Storefront.Proofs.Step

/-! # Links as ordered sets

What an owner is linked to under one relation is an ordered set of its own: only the calls that link
and unlink under that owner and relation have to do with it, whatever else they are mixed with.  The
sets are kept in the store like all entities, so this rests on two facts: the kind of an
owner's links is that of no other owner and of no other entity, and a set is read and written
back as a whole.

Nothing here asks for a shop in order.  A set has only to be readable at the start, and values may
be put into the store from outside under all kinds but those of links.

* `LinkCall`, `StoreCall` : the calls, and `StoreEvent.after` the shop after some of them
* `LinkCall.applyTo` : what a call makes of an ordered set
* `on_connections_step` : what one call does to the set of any owner and relation
* `connections_replay` : a set after any calls -/

namespace Storefront

/-! ### Ordered sets of keys -/

namespace KeySet

/-- The set with a key in it: one that is there already keeps its place, a new one goes last. -/
def add (ids : List Key) (id : Key) : List Key := if ids.any (· == id) then ids else ids ++ [id]

/-- The set without a key. -/
def drop (ids : List Key) (id : Key) : List Key := ids.filter (!· == id)

/-- No two keys of a list are the same. -/
def Distinct (ids : List Key) : Prop := ids.Pairwise fun a b => (a == b) = false

variable {ids : List Key}

/-- What was dropped is not there. -/
theorem any_drop_self (ids : List Key) (id : Key) : (drop ids id).any (· == id) = false := by
  simp [drop]

/-- What was dropped and is added again comes last. -/
theorem add_drop_self (ids : List Key) (id : Key) : add (drop ids id) id = drop ids id ++ [id] := by
  rw [add, any_drop_self, if_neg Bool.false_ne_true]

/-- Adding keeps the keys different. -/
theorem Distinct.add (h : Distinct ids) (id : Key) : Distinct (add ids id) := by
  rw [KeySet.add]
  split
  · exact h
  · rename_i absent
    refine List.pairwise_append.2 ⟨h, List.pairwise_singleton _ _, fun a ha b hb => ?_⟩
    rw [List.mem_singleton.1 hb]
    simpa using fun same => absent (List.any_eq_true.2 ⟨a, ha, same⟩)

/-- So does dropping. -/
theorem Distinct.drop (h : Distinct ids) (id : Key) : Distinct (drop ids id) :=
  List.Pairwise.sublist List.filter_sublist h

/-- The keys of a map with one put in. -/
theorem keys_put {α : Type} (m : List (Key × α)) (id : Key) (a : α) :
    Assoc.keys (Assoc.put m id a) = add (Assoc.keys m) id := by
  rw [add, ← Assoc.has_iff]
  split
  · rename_i known
    exact Assoc.keys_put_of_has known a
  · rename_i new
    exact Assoc.keys_put_of_not_has (by simpa using new) a

end KeySet

/-! ### Calls -/

/-- A call that links an owner to an entity under a relation, or ends the link. -/
inductive LinkCall where
  | connect (owner : String) (id relation : Key)
  | disconnect (owner : String) (id relation : Key)

namespace LinkCall

/-- The owner whose links are changed. -/
def owner : LinkCall → String
  | connect owner _ _ => owner
  | disconnect owner _ _ => owner

/-- The relation under which they are changed. -/
def relation : LinkCall → Key
  | connect _ _ relation => relation
  | disconnect _ _ relation => relation

/-- Makes the call; the answer is all that the owner is linked to now. -/
def run : LinkCall → Act Shop (List Key)
  | connect owner id relation => Shop.connect owner id relation
  | disconnect owner id relation => Shop.disconnect owner id relation

/-- What the call makes of the set of its owner and relation. -/
def applyTo (ids : List Key) : LinkCall → List Key
  | connect _ id _ => KeySet.add ids id
  | disconnect _ id _ => KeySet.drop ids id

/-- Whether the call is about an owner and a relation. -/
def isAbout (owner : String) (relation : Key) (c : LinkCall) : Bool :=
  c.owner == owner && c.relation == relation

end LinkCall

/-- A call on the store itself, for the entities of one kind. -/
inductive StoreCall where
  | keep (kind id : Key) (v : Value)
  | find (kind id : Key)
  | has (kind id : Key)
  | erase (kind id : Key)
  | list (kind : Key) (start limit : Value)

namespace StoreCall

/-- The kind of the entities that are kept, looked up or erased. -/
def kind : StoreCall → Key
  | keep kind _ _ | find kind _ | has kind _ | erase kind _ | list kind _ _ => kind

/-- Makes the call on the store of a shop. -/
def run : StoreCall → Act Shop Value
  | keep kind id v => do
    modify fun s => { s with store := s.store.set kind id (Entity.ofValue? v) }
    return .null
  | find kind id => return Shop.shown ((← get).store.get? kind id)
  | has kind id => return .bool ((← get).store.has kind id)
  | erase kind id => do
    let known := (← get).store.has kind id
    modify fun s => { s with store := s.store.delete kind id }
    return .bool known
  | list kind start limit => do
    return .list ((← Shop.page start limit ((← get).store.all kind)).map Shop.shown)

end StoreCall

/-- A call about links, or one on the store. -/
inductive StoreEvent where
  | link (c : LinkCall)
  | store (c : StoreCall)

namespace StoreEvent

/-- The shop after a call, whether or not the call succeeds. -/
def step (s : Shop) : StoreEvent → Shop
  | link c => (Act.on c.run s).2
  | store c => (Act.on c.run s).2

/-- The shop after some calls. -/
def after (events : List StoreEvent) (s : Shop) : Shop := events.foldl step s

/-- The call, if it is about the links of an owner under a relation. -/
def about? (owner : String) (relation : Key) : StoreEvent → Option LinkCall
  | link c => if c.isAbout owner relation then some c else none
  | store _ => none

/-- What is left of a set after those of the calls that are about it, one after the other. -/
def replay (owner : String) (relation : Key) (ids : List Key) (events : List StoreEvent) :
    List Key :=
  (events.filterMap (about? owner relation)).foldl LinkCall.applyTo ids

end StoreEvent

namespace Shop

/-- The kind is that of the links of some owner. -/
def IsLinkKind (kind : Key) : Prop := ∃ owner, kind = .text (connectionMark ++ owner)

variable {s : Shop} {owner : String} {relation : Key} {ids : List Key}

/-! ### Reading and writing a set -/

/-- The links that an entity stands for, whatever stands in their place. -/
def membersOf : Option Entity → Except Fault (List (Key × Value))
  | some (.links members) => .ok members
  | some e => if e.toValue.truthy then e.toValue.toRecord else .ok []
  | none => .ok []

/-- Reading the links changes nothing; it fails only where something else is kept under the mark. -/
theorem on_linksOf_eq (owner : String) (relation : Key) (s : Shop) :
    Act.on (linksOf owner relation) s =
      (membersOf (s.entity? (connectionMark ++ owner) relation), s) := by
  rw [linksOf, Act.on_bind_of_ok (on_find? s _ _)]
  cases s.entity? (connectionMark ++ owner) relation with
  | none => rfl
  | some e =>
    cases e with
    | links members => rfl
    | _ =>
      simp only [membersOf]
      split <;> rfl

/-- Reading a set changes nothing. -/
theorem on_connections_eq (owner : String) (relation : Key) (s : Shop) :
    Act.on (connections owner relation) s =
      (Assoc.keys <$> membersOf (s.entity? (connectionMark ++ owner) relation), s) := by
  rw [connections, Act.on_bind, on_linksOf_eq]
  cases membersOf (s.entity? (connectionMark ++ owner) relation) <;> rfl

/-- A set is read where the links can be. -/
theorem on_connections_iff :
    Act.on (connections owner relation) s = (.ok ids, s) ↔
      ∃ members, membersOf (s.entity? (connectionMark ++ owner) relation) = .ok members ∧
        Assoc.keys members = ids := by
  rw [on_connections_eq, Prod.mk.injEq, Act.except_map_eq_ok]
  simp

/-- What is kept instead of some links, as a call leaves them. -/
def relinkedBy (members : List (Key × Value)) : LinkCall → List (Key × Value)
  | .connect _ id _ => Assoc.put members id id.toValue
  | .disconnect _ id _ => Assoc.erase members id

/-- The keys of the members are what the call makes of the keys. -/
theorem keys_relinkedBy (members : List (Key × Value)) (c : LinkCall) :
    Assoc.keys (relinkedBy members c) = c.applyTo (Assoc.keys members) := by
  cases c with
  | connect owner id relation => exact KeySet.keys_put members id id.toValue
  | disconnect owner id relation => exact Assoc.keys_erase members id

/-- A call reads the set, writes it back as a whole and answers with it; a set that cannot be read
is left as it is. -/
theorem on_linkCall (c : LinkCall) (s : Shop) :
    Act.on c.run s = match membersOf (s.entity? (connectionMark ++ c.owner) c.relation) with
      | .error e => (.error e, s)
      | .ok members => (.ok (Assoc.keys (relinkedBy members c)),
          s.withEntity (connectionMark ++ c.owner) c.relation (.links (relinkedBy members c))) := by
  -- Both calls read the members first, and write them only if that succeeds.
  cases c with
  | connect owner id relation =>
    rw [LinkCall.run, Shop.connect, Act.on_bind, on_linksOf_eq]
    dsimp only [LinkCall.owner, LinkCall.relation]
    cases membersOf (s.entity? (connectionMark ++ owner) relation) <;> rfl
  | disconnect owner id relation =>
    rw [LinkCall.run, Shop.disconnect, Act.on_bind, on_linksOf_eq]
    dsimp only [LinkCall.owner, LinkCall.relation]
    cases membersOf (s.entity? (connectionMark ++ owner) relation) <;> rfl

/-! ### One call -/

/-- A call answers with what it makes of the set that is read, which is read from then on. -/
theorem on_linkCall_about {c : LinkCall} (about : c.isAbout owner relation = true)
    (h : Act.on (connections owner relation) s = (.ok ids, s)) :
    (Act.on c.run s).1 = .ok (c.applyTo ids) ∧
      Act.on (connections owner relation) (Act.on c.run s).2 =
        (.ok (c.applyTo ids), (Act.on c.run s).2) := by
  obtain ⟨rfl, same⟩ : c.owner = owner ∧ (c.relation == relation) = true := by
    simpa [LinkCall.isAbout] using about
  -- Keys are compared as the call compares them, so the entry read is the one of the pair itself.
  obtain ⟨members, read, rfl⟩ := on_connections_iff.1 h
  rw [← entity?_congr s _ same] at read
  rw [on_linkCall, read]
  refine ⟨congrArg Except.ok (keys_relinkedBy members c), ?_⟩
  rw [on_connections_iff, ← entity?_congr _ _ same, entity?_withEntity_self]
  exact ⟨_, rfl, keys_relinkedBy members c⟩

/-- A call that is about other links leaves what the store holds for these. -/
theorem entity?_linkCall_of_not_about {c : LinkCall} (about : c.isAbout owner relation = false)
    (s : Shop) : (Act.on c.run s).2.entity? (connectionMark ++ owner) relation =
      s.entity? (connectionMark ++ owner) relation := by
  rw [on_linkCall]
  cases membersOf (s.entity? (connectionMark ++ c.owner) c.relation) with
  | error e => rfl
  | ok members =>
    refine entity?_withEntity_of_ne s ?_ _
    rw [LinkCall.isAbout, Bool.and_eq_false_iff, beq_eq_false_iff_ne] at about
    -- The kind of the links spells out the owner.
    refine about.imp (fun other same => other ((String.append_right_inj _).1 same).symm) ?_
    rw [BEq.comm]
    exact id

/-- A call leaves all entities of other kinds. -/
theorem slots_linkCall_of_ne (c : LinkCall) {kind : Key}
    (h : kind ≠ .text (connectionMark ++ c.owner)) (s : Shop) :
    (Act.on c.run s).2.store.slots kind = s.store.slots kind := by
  rw [on_linkCall]
  cases membersOf (s.entity? (connectionMark ++ c.owner) c.relation) with
  | error e => rfl
  | ok members =>
    refine Store.slots_set_of_ne s.store ?_ _ _
    rw [BEq.comm, Bool.eq_false_iff, ne_eq, Key.text_beq_iff]
    exact h

/-- A call on the store for entities that are no links leaves all links. -/
theorem entity?_storeCall {c : StoreCall} (apart : ¬ IsLinkKind c.kind) (s : Shop) (owner : String)
    (relation : Key) : (Act.on c.run s).2.entity? (connectionMark ++ owner) relation =
      s.entity? (connectionMark ++ owner) relation := by
  have other : (Key.text (connectionMark ++ owner) == c.kind) = false := by
    rw [Bool.eq_false_iff, ne_eq, Key.text_beq_iff]
    exact fun same => apart ⟨owner, same⟩
  cases c with
  | keep kind id v => exact Store.get?_set_of_ne s.store (.inl other) _
  | erase kind id => exact Store.get?_delete_of_ne s.store (.inl other)
  | find kind id => rfl
  | has kind id => rfl
  | list kind start limit =>
    -- A page that cannot be made out fails, but changes no more than one that can.
    rw [StoreCall.run, Act.on_bind_of_ok (Act.on_get s), Act.on_bind, Act.on_lift]
    cases page start limit (s.store.all kind) <;> rfl

/-- What one call does to the set of any owner and relation. -/
theorem on_connections_step {e : StoreEvent} (apart : ∀ c, e = .store c → ¬ IsLinkKind c.kind)
    (h : Act.on (connections owner relation) s = (.ok ids, s)) :
    Act.on (connections owner relation) (e.step s) =
      (.ok (StoreEvent.replay owner relation ids [e]), e.step s) := by
  -- An event that leaves the entry leaves the keys that are read from it.
  have unmoved {s' : Shop} (same : s'.entity? (connectionMark ++ owner) relation =
      s.entity? (connectionMark ++ owner) relation) :
      Act.on (connections owner relation) s' = (.ok ids, s') := by
    rw [on_connections_iff, same]
    exact on_connections_iff.1 h
  cases e with
  | link c =>
    -- a call about the pair is one step of the replay
    by_cases about : c.isAbout owner relation = true
    · simp only [StoreEvent.replay, StoreEvent.about?, List.filterMap_cons, about, if_true,
        List.filterMap_nil, List.foldl_cons, List.foldl_nil]
      exact (on_linkCall_about about h).2
    · -- a call about another pair leaves this one
      simp only [StoreEvent.replay, StoreEvent.about?, List.filterMap_cons, about,
        Bool.false_eq_true, if_false, List.filterMap_nil, List.foldl_nil]
      exact unmoved (entity?_linkCall_of_not_about (by simpa using about) s)
  | store c => exact unmoved (entity?_storeCall (apart c rfl) s owner relation)

/-! ### Any calls -/

/-- The first event is replayed before the others. -/
theorem replay_cons (owner : String) (relation : Key) (ids : List Key) (e : StoreEvent)
    (events : List StoreEvent) : StoreEvent.replay owner relation ids (e :: events) =
      StoreEvent.replay owner relation (StoreEvent.replay owner relation ids [e]) events := by
  simp only [StoreEvent.replay, List.filterMap_cons, List.filterMap_nil]
  cases e.about? owner relation <;> rfl

/-- A replay keeps the keys different. -/
theorem replay_distinct (h : KeySet.Distinct ids) (events : List StoreEvent) :
    KeySet.Distinct (StoreEvent.replay owner relation ids events) := by
  rw [StoreEvent.replay]
  induction events.filterMap (StoreEvent.about? owner relation) generalizing ids with
  | nil => exact h
  | cons c calls ih =>
    refine ih ?_
    cases c with
    | connect _ id _ => exact h.add id
    | disconnect _ id _ => exact h.drop id

/-- After any events the connections are what the replay says. -/
theorem on_connections_after {events : List StoreEvent}
    (apart : ∀ c, .store c ∈ events → ¬ IsLinkKind c.kind)
    (h : Act.on (connections owner relation) s = (.ok ids, s)) :
    Act.on (connections owner relation) (StoreEvent.after events s) =
      (.ok (StoreEvent.replay owner relation ids events), StoreEvent.after events s) := by
  induction events generalizing s ids with
  | nil => exact h
  | cons e events ih =>
    rw [StoreEvent.after, List.foldl_cons, ← StoreEvent.after, replay_cons]
    refine ih (fun c hc => apart c (.tail _ hc)) (on_connections_step (fun c hc => ?_) h)
    exact apart c (hc ▸ .head _)

/-- After any calls, the set of an owner and a relation is what those of the calls made of it that
are about it, and no key is in it twice.  Whatever call comes next answers with the set after it if
it is about this one, and leaves this one if it is not; it leaves all entities that are not links of
its owner.  To link what is linked keeps its place, what is unlinked is gone, and goes last once it
is linked again. -/
theorem connections_replay {events : List StoreEvent}
    (start : Act.on (connections owner relation) s = (.ok ids, s))
    (apart : ∀ c, .store c ∈ events → ¬ IsLinkKind c.kind) :
    let s' := StoreEvent.after events s
    let now := StoreEvent.replay owner relation ids events
    Act.on (connections owner relation) s' = (.ok now, s') ∧
    (KeySet.Distinct ids → KeySet.Distinct now) ∧
    (∀ c : LinkCall, c.isAbout owner relation = true →
      (Act.on c.run s').1 = .ok (c.applyTo now) ∧
      (Act.on (connections owner relation) (Act.on c.run s').2).1 = .ok (c.applyTo now)) ∧
    (∀ c : LinkCall, c.isAbout owner relation = false →
      (Act.on (connections owner relation) (Act.on c.run s').2).1 = .ok now) ∧
    (∀ (c : LinkCall) (kind : Key), kind ≠ .text (connectionMark ++ c.owner) →
      (Act.on c.run s').2.store.slots kind = s'.store.slots kind) ∧
    ∀ id, (now.any (· == id) = true → (Act.on (connect owner id relation) s').1 = .ok now) ∧
      ∃ rest s'', Act.on (disconnect owner id relation) s' = (.ok rest, s'') ∧
        rest = now.filter (!· == id) ∧
        (Act.on (connect owner id relation) s'').1 = .ok (rest ++ [id]) := by
  intro s' now
  have read : Act.on (connections owner relation) s' = (.ok now, s') :=
    on_connections_after apart start
  -- To connect and to disconnect are both calls about the pair.
  have about (id : Key) : (LinkCall.connect owner id relation).isAbout owner relation = true ∧
      (LinkCall.disconnect owner id relation).isAbout owner relation = true := by
    simp [LinkCall.isAbout, LinkCall.owner, LinkCall.relation]
  refine ⟨read, fun h => replay_distinct h events, fun c hc => ?_, fun c hc => ?_,
    fun c kind hkind => slots_linkCall_of_ne c hkind s', fun id => ⟨fun known => ?_, ?_⟩⟩
  · obtain ⟨answer, later⟩ := on_linkCall_about hc read
    exact ⟨answer, congrArg Prod.fst later⟩
  · refine congrArg Prod.fst (on_connections_iff.2 ?_ : _ = (Except.ok now, _))
    rw [entity?_linkCall_of_not_about hc]
    exact on_connections_iff.1 read
  · -- the key is known, so adding it changes nothing
    exact (on_linkCall_about (about id).1 read).1.trans (congrArg Except.ok (if_pos known))
  · -- it is dropped first and then added, so it comes last
    obtain ⟨gone, unlinked⟩ := on_linkCall_about (about id).2 read
    refine ⟨KeySet.drop now id, _, Prod.ext gone rfl, rfl, ?_⟩
    exact (on_linkCall_about (about id).1 unlinked).1.trans
      (congrArg Except.ok (KeySet.add_drop_self now id))

/-- Links of two owners, mixed with an entity of another kind; one link is ended and made again, and
one is made twice in two spellings of a number. -/
def sampleLinkEvents : List StoreEvent :=
  [.link (.connect "a" (.text "x") (.text "r")),
    .store (.keep (.text "connection") (.text "a") "v"),
    .link (.connect "a" (.int 1) (.text "r")), .link (.connect "b" (.text "y") (.text "r")),
    .link (.disconnect "a" (.text "x") (.text "r")), .link (.connect "a" (.bool true) (.text "r")),
    .store (.erase (.text "connection") (.text "a")), .link (.connect "a" (.text "x") (.text "r"))]

/-- The theorem at calls about two relations and one on the store, starting from a new shop. -/
theorem connections_replay_sample :
    let new := Shop.new default (.fresh 0 0 [])
    Act.on (connections "a" (.text "r")) new = (.ok [], new) ∧
    (∀ c, .store c ∈ sampleLinkEvents → ¬ IsLinkKind c.kind) ∧
    Act.on (connections "a" (.text "r")) (StoreEvent.after sampleLinkEvents new) =
      (.ok [.int 1, .text "x"], StoreEvent.after sampleLinkEvents new) := by
  intro new
  have start : Act.on (connections "a" (.text "r")) new = (.ok [], new) := rfl
  have apart : ∀ c, .store c ∈ sampleLinkEvents → ¬ IsLinkKind c.kind := by
    have kinds : ∀ c, .store c ∈ sampleLinkEvents → c.kind = .text "connection" := by
      simp [sampleLinkEvents, StoreCall.kind]
    rintro c hc ⟨owner, same⟩
    -- The kind written by the store's own call does not begin with the mark.
    have chars := congrArg String.toList (Key.text.inj ((kinds c hc).symm.trans same))
    simp [connectionMark] at chars
  exact ⟨start, apart, (connections_replay start apart).1⟩

end Shop

end Storefront
