import Storefront.Proofs.GroupOrder

/-! # Pages of groups

A service that asks for one page of groups after the other, until a page is empty, gets every group
that is there, once and in the order in which they were made.  The products and variants that are
made up on the way change nothing of what was shown before.  Only if no identifiers are left to make
them up is a page empty before the end, and then that is the error which the service has collected.

* `Shop.page_window`, `Shop.groups_cases` : one page
* `Service.Pages` : page after page
* `Service.Pages.listed_eq` : what is listed in a run over all pages
* `GroupHistory.pages_list_groups` : the same for every history -/

namespace Storefront

open Shop

/-- The document that reads a page asks for edges. -/
theorem Document.hasField_edges {vars : Value} {p : Parsed}
    (h : parse (some sellingPlanGroupsList) vars = .ok p) : p.hasField "edges" = true :=
  Operation.groupsList.hasField_operation (by decide +kernel) (by decide +kernel)
    ⟨by decide +kernel, by decide +kernel, by decide +kernel⟩
    ⟨by decide +kernel, by decide +kernel, by decide +kernel⟩ _ _ h

/-! ### One page -/

namespace Shop

variable {s s' : Shop} {made : List String}

/-- The items of a list from one place up to another. -/
theorem between_window {α : Type} (start n : Nat) (items : List α) :
    between start (start + n) items = (items.drop start).take n := by
  -- Neither end of the window is negative, so each is cut off at the length only.
  have first : place items.length start = min start items.length := by
    rw [place, if_neg (by omega)]
    rfl
  have last : place items.length (start + n) = min (start + n) items.length := by
    rw [place, if_neg (by omega)]
    rfl
  rw [between, first, last, List.drop_take]
  rcases Nat.le_total start items.length with within | beyond
  · rw [Nat.min_eq_left within, List.take_eq_take_iff, List.length_drop]
    omega
  · rw [Nat.min_eq_right beyond, List.drop_eq_nil_of_le beyond, List.drop_eq_nil_of_le
      (Nat.le_refl _)]
    simp

/-- A page of a positive size is a window of the list. -/
theorem page_window {α : Type} (start : Nat) {n : Nat} (hn : 0 < n) (items : List α) :
    page (.int start) (.int n) items = .ok ((items.drop start).take n) := by
  have truthy : (Value.int n).truthy = true := by
    simp [Value.truthy]
    omega
  rw [page, if_neg (by simp [truthy])]
  exact congrArg Except.ok (between_window start n items)

/-- All groups that were made and not deleted can be read. -/
structure AllReadable (made : List String) (s : Shop) : Prop where
  filed : Filed made s
  readable : ∀ id ∈ made, s.Readable id

/-- What is readable stays so when only drawing was done. -/
theorem AllReadable.restocked (h : AllReadable made s) (restocked : Restocked s s') :
    AllReadable made s' where
  filed := h.filed.of_slots (restocked.groups.slots _ (.inl rfl))
  readable id hid := (h.readable id hid).restocked restocked

/-- An entry of the store is read as the group of its identifier. -/
theorem joined_entry {g : SellingPlanGroup} (decoded : Gid.decode g.id = g.id) :
    (do joined (← (← Gid.decodeValue (← (shown (some (.group g))).item "id")).asKey) :
      Act Shop Value) = joined (.text g.id) := by
  have item : (shown (some (.group g))).item "id" = .ok (.text (Gid.encode g.id)) := rfl
  rw [item]
  show (do joined (← (← Gid.decodeValue (.text (Gid.encode g.id))).asKey) : Act Shop Value) = _
  rw [Gid.decodeValue_text, Gid.decode_encode, decoded]
  rfl

/-- The groups of a page are read one after the other. -/
theorem on_groups (h : Filed made s) (start : Nat) {n : Nat} (hn : 0 < n) :
    Act.on (groups (.int start) (.int n)) s =
      Act.on (((made.drop start).take n).mapM fun id => joined (.text id)) s := by
  have entries : List.Forall₂ (fun id (e : Option Entity) => ∃ g : SellingPlanGroup,
      g.id = id ∧ Gid.decode id = id ∧ e = some (.group g)) made
      (s.store.all (.text Gid.groupPrefix)) := by
    rw [Store.all, Assoc.values, List.forall₂_map_right_iff]
    -- The groups of the store stand in the order of their identifiers in the history.
    refine h.slots.imp fun id slot ⟨named, g, hg, hslot⟩ => ⟨g, hg, named.decoded, ?_⟩
    rw [hslot]
  have window := List.forall₂_take n (List.forall₂_drop start entries)
  rw [groups, Act.on_bind_of_ok (Act.on_get s)]
  dsimp only
  rw [page_window start hn, Act.on_bind_of_ok (Act.on_lift _ s)]
  congr 1
  -- Each entry of the window is joined under its own identifier.
  refine (mapM_eq_of_forall₂ window fun id e entry => ?_).symm
  obtain ⟨g, rfl, decoded, rfl⟩ := entry
  exact (joined_entry decoded).symm

/-- A page shows the groups in its window as they are known when all were read, or there are no
identifiers left to make up what they are linked to. -/
theorem groups_cases (h : AllReadable made s) (start : Nat) {n : Nat} (hn : 0 < n) :
    ∃ s', Restocked s s' ∧
      (¬ s.Endless ∧ Act.on (groups (.int start) (.int n)) s = (.error .exhausted, s') ∨
        (∀ id ∈ (made.drop start).take n, s'.Stocks id) ∧
        Act.on (groups (.int start) (.int n)) s =
          (.ok (((made.drop start).take n).map s'.shownGroup), s')) := by
  rw [on_groups h.filed start hn]
  -- Whatever is on the page is one of the groups there are.
  have known : ∀ id ∈ (made.drop start).take n, id ∈ made :=
    fun id hid => List.mem_of_mem_drop (List.mem_of_mem_take hid)
  exact mapM_restocked (P := AllReadable made)
    (fun id hid s hs => (hs.readable id (known id hid)).joined_cases)
    AllReadable.restocked
    (fun id hid s s' hs restocked stocked => ⟨restocked.stocks stocked,
      (hs.readable id (known id hid)).shownGroup_restocked restocked stocked⟩) h

end Shop

/-! ### One page of a service -/

namespace Answer

variable {start n : Nat} {s s' : Shop}

/-- What a page is asked for with. -/
def pageVars (start n : Nat) : List (Key × Value) :=
  [(.text "first", .int n), (.text "offset", .int start)]

/-- A page as it is answered: each group at an edge. -/
def onEdges (cursor : Int) (page : List Value) : Value :=
  .ofFields [("edges", .list (page.map fun g => .ofFields [("cursor", .int cursor), ("node", g)]))]

/-- The offset that is read is the one that is sent, zero included. -/
theorem offset_pageVars (start n : Nat) : (do
    ((← (Value.record (pageVars start n)).member "offset").orElse (.int 0)).wholeNumber) =
      .ok (start : Int) := by
  have member : (Value.record (pageVars start n)).member "offset" = .ok (.int start) := rfl
  rw [member]
  show ((Value.int start).orElse (.int 0)).wholeNumber = _
  -- Zero is falsy, so the default takes its place, which is zero again.
  rw [Value.orElse]
  split
  · rfl
  · rename_i falsy
    have zero : (start : Int) = 0 := by simpa [Value.truthy] using falsy
    rw [zero]
    rfl

/-- The handler of pages reads one and puts it on edges. -/
theorem on_groupsList : Act.on (groupsList Document.sellingPlanGroupsList
    (.record (pageVars start n))) s = Act.on (do
      let page ← groups (.int start) (.int n)
      let cursor ← supplied (Supply.draw 1111111 22222222)
      return Value.ofFields [("sellingPlanGroups", onEdges cursor page)]) s := by
  -- The document asks for edges, so the groups are answered on them.
  obtain ⟨p, hp, -, -⟩ := (Operation.groupsList.isFor_document "").parse
    (Value.orElse_record (pageVars start n))
  have offset := offset_pageVars start n
  have first : (Value.record (pageVars start n)).member "first" = .ok (.int n) := rfl
  obtain ⟨given, hgiven, offset⟩ := Act.except_bind_eq_ok.1 offset
  rw [groupsList, show Document.parse (some Document.sellingPlanGroupsList) _ = _ from hp,
    Act.on_bind_of_ok (Act.on_lift _ s), hgiven, Act.on_bind_of_ok (Act.on_lift _ s), offset,
    Act.on_bind_of_ok (Act.on_lift _ s), first, Act.on_bind_of_ok (Act.on_lift _ s),
    Document.hasField_edges hp]
  rfl

/-- A page that is found is answered on edges with a cursor that was drawn. -/
theorem groupsList_page {page : List Value}
    (h : Act.on (groups (.int start) (.int n)) s = (.ok page, s')) : ∃ cursor supply,
    Act.on (groupsList Document.sellingPlanGroupsList (.record (pageVars start n))) s =
      (.ok (.ofFields [("sellingPlanGroups", onEdges cursor page)]), { s' with supply }) ∧
      SameTokens s' { s' with supply } := by
  rw [on_groupsList, Act.on_bind_of_ok h]
  exact ⟨_, _, rfl, rfl, rfl, rfl⟩

/-- A page that is not found is not answered. -/
theorem groupsList_exhausted
    (h : Act.on (groups (.int start) (.int n)) s = (.error .exhausted, s')) :
    Act.on (groupsList Document.sellingPlanGroupsList (.record (pageVars start n))) s =
      (.error .exhausted, s') := by
  rw [on_groupsList, Act.on_bind_of_error h]

end Answer

namespace Service

open Answer (pageVars onEdges)

variable {hasFactory : Bool} {v v' : Service} {made : List String} {start n : Nat}

/-- The groups of a page are taken off its edges. -/
theorem on_nodes (cursor : Int) (page : List Value) (v : Service) :
    Act.on (do
      let edges ← (← (onEdges cursor page).member "edges").elementsOrNone
      return .list (← edges.mapM fun edge => liftM (edge.item "node")) : Act Service Value) v =
      (.ok (.list page), v) := by
  -- The payload has one edge for each group, and its node is the group.
  have edges : (onEdges cursor page).member "edges" = .ok (.list (page.map fun g =>
    .ofFields [("cursor", .int cursor), ("node", g)])) := rfl
  have nodes : Act.on (page.mapM
      ((fun edge : Value => (liftM (edge.item "node") : Act Service Value)) ∘ fun g =>
        .ofFields [("cursor", .int cursor), ("node", g)])) v = (.ok (page.map id), v) :=
    Act.on_mapM_of_ok fun g _ => rfl
  rw [List.map_id] at nodes
  rw [edges, Act.on_bind_of_ok (Act.on_lift _ v), Value.elementsOrNone_list,
    Act.on_bind_of_ok (Act.on_lift _ v), List.mapM_map, Act.on_bind_of_ok nodes]
  rfl

/-- What the service does about a page, with the document and the variables that it sends. -/
theorem groups_eq : Service.groups (.int n) (.int start) = (do
    let payload ← askFor (Operation.groupsList.document "") (.record (pageVars start n))
      "sellingPlanGroups"
    if !payload.truthy then return .list []
    let edges ← (← payload.member "edges").elementsOrNone
    return .list (← edges.mapM fun edge => liftM (edge.item "node"))) := rfl

section

variable (hv : v.InProcess hasFactory)

include hv

/-- Without identifiers for what the groups are linked to, nothing is shown. -/
theorem on_page_exhausted {s' : Shop}
    (exhausted : Act.on (Shop.groups (.int start) (.int n)) v.client.network.shop =
      (.error .exhausted, s')) :
    ∃ v', Act.on (Service.groups (.int n) (.int start)) v = (.ok (.list []), v') ∧
      v.Left v' s' [.text Fault.exhausted.message] := by
  obtain ⟨v', asked, left⟩ := on_askFor_exhausted hv
    (Operation.groupsList.isFor_document "") "sellingPlanGroups"
    (Answer.groupsList_exhausted exhausted)
  exact ⟨v', by rw [groups_eq, Act.on_bind_of_ok asked]; rfl, left⟩

/-- A page that the shop reads is what the service shows. -/
theorem on_page_found {page : List Value} {s' : Shop}
    (found : Act.on (Shop.groups (.int start) (.int n)) v.client.network.shop = (.ok page, s')) :
    ∃ v' supply, Act.on (Service.groups (.int n) (.int start)) v = (.ok (.list page), v') ∧
      v.Left v' { s' with supply } [] ∧ SameTokens s' { s' with supply } := by
  obtain ⟨cursor, supply, handled, same⟩ := Answer.groupsList_page found
  obtain ⟨v', asked, left⟩ := on_askFor_answered hv (Operation.groupsList.isFor_document "")
    (by decide) (by decide) handled rfl rfl
  refine ⟨v', supply, ?_, left, same⟩
  rw [groups_eq, Act.on_bind_of_ok asked]
  exact on_nodes cursor page v'

/-- A page shows the groups in its window, or there are no identifiers left to make up what they are
linked to; then nothing is shown. -/
theorem on_page (h : AllReadable made v.client.network.shop) (start : Nat) (hn : 0 < n) :
    ∃ v' s', Restocked v.client.network.shop s' ∧
      (¬ v.client.network.shop.Endless ∧
        Act.on (Service.groups (.int n) (.int start)) v = (.ok (.list []), v') ∧
          v.Left v' s' [.text Fault.exhausted.message] ∨
        (∀ id ∈ (made.drop start).take n, s'.Stocks id) ∧
        Act.on (Service.groups (.int n) (.int start)) v =
          (.ok (.list (((made.drop start).take n).map s'.shownGroup)), v') ∧ v.Left v' s' []) := by
  obtain ⟨s₁, restocked, ⟨finite, exhausted⟩ | ⟨stocked, found⟩⟩ := groups_cases h start hn
  · -- an identifier could not be drawn: the service notes it and answers an empty page
    obtain ⟨v', asked⟩ := on_page_exhausted hv exhausted
    exact ⟨v', s₁, restocked, .inl ⟨finite, asked⟩⟩
  · -- the page was found; what the cursor draws comes after it
    obtain ⟨v', supply, asked, left, same⟩ := on_page_found hv found
    have drawn : Redrawn s₁ { s₁ with supply } := ⟨supply, rfl⟩
    have later : Restocked s₁ { s₁ with supply } :=
      restocked_of drawn.draws.keepsGroups drawn.draws.grows.sideSteps id (·.of_same same)
    exact ⟨v', _, IsTrans.trans _ _ _ restocked later,
      .inr ⟨fun id hid => later.stocks (stocked id hid), asked, left⟩⟩

end

/-! ### Page after page -/

/-- The service lists the groups in pages of a size from a place on, up to the first page that is
empty. -/
inductive Pages (n : Nat) : Nat → Service → List Value → Service → Prop
  | last {start : Nat} {v v' : Service}
      (empty : Act.on (Service.groups (.int n) (.int start)) v = (.ok (.list []), v')) :
      Pages n start v [] v'
  | more {start : Nat} {v v₁ v' : Service} {page rest : List Value} (nonempty : page ≠ [])
      (first : Act.on (Service.groups (.int n) (.int start)) v = (.ok (.list page), v₁))
      (next : Pages n (start + n) v₁ rest v') : Pages n start v (page ++ rest) v'

/-- The groups that were listed are the first of those that were made, each as it is read; they are
all, and no error was collected, unless there were no identifiers left. -/
structure Listed (made : List String) (start : Nat) (v v' : Service) (listed : List Value) :
    Prop where
  restocked : Restocked v.client.network.shop v'.client.network.shop
  window : ∃ count, (∀ id ∈ (made.drop start).take count, v'.client.network.shop.Stocks id) ∧
    listed = ((made.drop start).take count).map v'.client.network.shop.shownGroup ∧
    (v'.errors = [] ∧ made.length ≤ start + count ∨
      ¬ v.client.network.shop.Endless ∧ v'.errors = [.text Fault.exhausted.message])

namespace Pages

variable {listed : List Value}

/-- What is listed in a run. -/
theorem listed_eq (hv : v.InProcess hasFactory) (h : AllReadable made v.client.network.shop)
    (hn : 0 < n) (run : Pages n start v listed v') :
    v'.InProcess hasFactory ∧ Listed made start v v' listed := by
  induction run with
  | @last start v v' empty =>
    obtain ⟨v₁, s', restocked, ⟨finite, asked, left⟩ | ⟨-, asked, left⟩⟩ := on_page hv h start hn
    · obtain ⟨-, rfl⟩ := Prod.mk.inj (empty.symm.trans asked)
      exact ⟨left.inProcess hv, ⟨left.moved.shop ▸ restocked, 0, by simp, by simp,
        .inr ⟨finite, left.errors⟩⟩⟩
    · obtain ⟨same, rfl⟩ := Prod.mk.inj (empty.symm.trans asked)
      have none : (made.drop start).take n = [] := by simpa using same
      have beyond : made.length ≤ start := by
        rw [List.take_eq_nil_iff, List.drop_eq_nil_iff] at none
        omega
      exact ⟨left.inProcess hv, ⟨left.moved.shop ▸ restocked, 0, by simp, by simp,
        .inl ⟨left.errors, beyond⟩⟩⟩
  | @more start v v₁ v' page rest nonempty first _ ih =>
    obtain ⟨v₂, s', restocked, ⟨-, asked, left⟩ | ⟨stocked, asked, left⟩⟩ := on_page hv h start hn
    · obtain ⟨same, -⟩ := Prod.mk.inj (first.symm.trans asked)
      exact absurd (Value.list.inj (Except.ok.inj same)) nonempty
    obtain ⟨same, rfl⟩ := Prod.mk.inj (first.symm.trans asked)
    obtain rfl := Value.list.inj (Except.ok.inj same)
    obtain rfl := left.moved.shop
    have h₁ := h.restocked restocked
    obtain ⟨inProcess, later, count, stocked', rfl, outcome⟩ := ih (left.inProcess hv) h₁
    have joint : (made.drop start).take (n + count) =
        (made.drop start).take n ++ (made.drop (start + n)).take count := by
      rw [List.take_add, List.drop_drop]
    have known : ∀ id ∈ (made.drop start).take n, id ∈ made :=
      fun id hid => List.mem_of_mem_drop (List.mem_of_mem_take hid)
    refine ⟨inProcess, ⟨IsTrans.trans _ _ _ restocked later, n + count, ?_, ?_,
      outcome.imp (fun ⟨errors, all⟩ => ⟨errors, by omega⟩)
        fun ⟨finite, errors⟩ => ⟨finite ∘ restocked.lasts, errors⟩⟩⟩
    · rw [joint]
      exact List.forall_mem_append.2 ⟨fun id hid => later.stocks (stocked id hid), stocked'⟩
    · -- What the first page showed is shown to the end.
      rw [joint, List.map_append]
      refine congrArg (· ++ _) (List.map_congr_left fun id hid => ?_)
      exact ((h₁.readable id (known id hid)).shownGroup_restocked later (stocked id hid)).symm

/-- A run comes to an end. -/
theorem exists_run {v : Service} (hv : v.InProcess hasFactory)
    (h : AllReadable made v.client.network.shop) (hn : 0 < n) (start : Nat) : ∃ listed v',
      Pages n start v listed v' := by
  -- The run goes on from where the page ends, as long as there are groups left.
  obtain ⟨v₁, s', restocked, ⟨-, asked, -⟩ | ⟨-, asked, left⟩⟩ := on_page hv h start hn
  · exact ⟨_, _, .last asked⟩
  · -- an empty page ends the run
    by_cases empty : (made.drop start).take n = []
    · rw [empty] at asked
      exact ⟨_, _, .last asked⟩
    · -- a page with a group on it: fewer are left beyond it
      have within : start < made.length := by
        rw [List.take_eq_nil_iff, List.drop_eq_nil_iff] at empty
        omega
      obtain rfl := left.moved.shop
      obtain ⟨listed, v', run⟩ :=
        exists_run (left.inProcess hv) (h.restocked restocked) hn (start + n)
      exact ⟨_, _, .more (by simpa using empty) asked run⟩
termination_by made.length - start

end Pages

/-- The group of an identifier in either form is read as the value, without any error. -/
def Gets (v : Service) (id : String) (g : Value) : Prop :=
  ∀ sent, Sends id sent → ∃ v', Act.on (Service.group (.text sent)) v = (.ok g, v') ∧ v'.errors = []

/-- What was listed is what is read of the groups one by one. -/
theorem Listed.forall_gets {v v' : Service} {listed : List Value} (h : Listed made 0 v v' listed)
    (hv : v'.InProcess hasFactory) (readable : AllReadable made v.client.network.shop) :
    v'.errors = [] ∧ List.Forall₂ v'.Gets made listed ∨
      ¬ v.client.network.shop.Endless ∧ v'.errors = [.text Fault.exhausted.message] ∧
        ∃ count, List.Forall₂ v'.Gets (made.take count) listed := by
  obtain ⟨restocked, count, stocked, rfl, outcome⟩ := h
  rw [List.drop_zero] at stocked ⊢
  -- Each group that was listed is still what is read for its identifier at the end of the run.
  have gets : List.Forall₂ v'.Gets (made.take count)
      ((made.take count).map v'.client.network.shop.shownGroup) := by
    rw [List.forall₂_map_right_iff, List.forall₂_same]
    intro id hid sent hsent
    obtain ⟨v₁, read, left⟩ := on_group_again
      ((readable.restocked restocked).readable id (List.mem_of_mem_take hid)) hsent hv
      (stocked id hid)
    exact ⟨v₁, read, left.errors⟩
  -- the run came to the end of the groups
  rcases outcome with ⟨errors, all⟩ | ⟨finite, errors⟩
  · rw [Nat.zero_add] at all
    rw [List.take_of_length_le all] at gets ⊢
    exact .inl ⟨errors, gets⟩
  · -- it stopped at a page that could not be found
    exact .inr ⟨finite, errors, count, gets⟩

end Service

namespace GroupHistory

open Service (Pages overRoute)

variable {made : List String} {s : Shop}

/-- All groups of a history can be read. -/
theorem allReadable (h : GroupHistory made s) : AllReadable made s where
  filed := h.filed
  readable id hid := by
    obtain ⟨named, exists_group⟩ := h.filed.exists_group hid
    obtain ⟨gone, run⟩ := h.groupRun
    have raw : ∀ k ∈ s.linkedPlans id, ∃ plan, k = .text plan ∧ Gid.decode plan = plan := by
      intro k hk
      obtain ⟨t, -, rfl⟩ := run.settled.named k (run.settled.linked id k hk)
      exact ⟨_, rfl, Gid.decode_of_isRaw (Gid.isRaw_kindPrefix_append _ t)⟩
    exact { named, owned := run.kept.owned, exists_group, plans := raw }

/-- Page after page, up to the first that is empty, the service lists every group that was made and
not deleted, once, in the order in which they were made, and each as it is read by itself; unless
there are no identifiers left, which is then the one error that was collected. -/
theorem pages_list_groups {hasFactory : Bool} {v : Service} {n : Nat} (hv : v.InProcess hasFactory)
    (h : GroupHistory made v.client.network.shop) (hn : 0 < n) :
    made.Nodup ∧ (∀ id, id ∈ made ↔ v.client.network.shop.HasGroup id) ∧
      (∃ listed v', Pages n 0 v listed v') ∧
      ∀ listed v', Pages n 0 v listed v' →
        v'.errors = [] ∧ List.Forall₂ v'.Gets made listed ∨
        ¬ v.client.network.shop.Endless ∧ v'.errors = [.text Fault.exhausted.message] ∧
          ∃ count, List.Forall₂ v'.Gets (made.take count) listed := by
  -- Only what the history says of the store is needed for a run of pages.
  have readable := h.allReadable
  refine ⟨h.filed.distinct, fun id => h.filed.hasGroup_iff.symm, Pages.exists_run hv readable hn 0,
    fun listed v' run => ?_⟩
  obtain ⟨hv', all⟩ := run.listed_eq hv readable hn
  exact all.forall_gets hv' readable

/-- The request to make a group. -/
def sampleCreation : GroupRequest :=
  .create (.ofFields [("name", "N"), ("merchantCode", "m")]) .null

/-- The request to attach a product to the group of a token. -/
def sampleAttachment (token : String) : GroupRequest :=
  .addProducts (.text (Gid.groupPrefix ++ token)) (.texts ["gid://shopify/Product/1"])

/-- A shop with a group that is linked to a product. -/
def sampleShop (tokens : List String) (token : String) : Shop :=
  (Act.on (sampleAttachment token).side.run
    (Act.on sampleCreation.side.run (.new default (.fresh 0 0 tokens))).2).2

/-- A group made and then attached to a product, under the tokens given. -/
theorem exists_sample (tokens : List String) (token : String) :
    ∃ made, GroupHistory made (sampleShop tokens token) := by
  obtain ⟨_, -, made⟩ := (GroupHistory.new default (.fresh 0 0 tokens)).exists_request
    sampleCreation
  obtain ⟨_, -, attached⟩ := made.exists_request (sampleAttachment token)
  exact ⟨_, attached⟩

/-- The theorem at a shop with one group, where tokens can be made up without end. -/
theorem pages_list_groups_sample : ∃ made, ∃ v : Service, v.InProcess true ∧
    GroupHistory made v.client.network.shop ∧
    v.client.network.shop.HasGroup "gid://shopify/SellingPlanGroup/SellingPlanGroup-1" ∧ 0 < 1 ∧
    ∀ listed v', Pages 1 0 v listed v' → v'.errors = [] ∧ List.Forall₂ v'.Gets made listed := by
  obtain ⟨made, history⟩ := exists_sample [] "SellingPlanGroup-1"
  have kept : ((sampleShop [] "SellingPlanGroup-1").entity? Gid.groupPrefix
      (.text "gid://shopify/SellingPlanGroup/SellingPlanGroup-1")).isSome = true := by
      decide +kernel
  -- Every token in use was made up, which is why there is always another.
  have counted : ∀ t ∈ (sampleShop [] "SellingPlanGroup-1").seen,
      ∃ last ∈ (sampleShop [] "SellingPlanGroup-1").supply.tokenCounts, t = madeUp last.1 last.2 ∧
        last.2 ≤ Supply.countOf (sampleShop [] "SellingPlanGroup-1").supply.tokenCounts last.1 := by
    decide +kernel
  have endless : (sampleShop [] "SellingPlanGroup-1").Endless :=
    MakesUp.endless ⟨by decide +kernel, fun t ht =>
      let ⟨last, _, same⟩ := counted t ht
      ⟨last.1, last.2, same⟩⟩
  generalize sampleShop [] "SellingPlanGroup-1" = s at history kept endless
  have inProcess : (overRoute .inProcess s).InProcess true := ⟨rfl, rfl⟩
  exact ⟨made, _, inProcess, history, kept, by decide, fun listed v' run =>
    ((pages_list_groups inProcess history (by decide)).2.2.2 listed v' run).resolve_right
      fun exhausted => exhausted.1 endless⟩

/-- A shop with a group that is linked to a product, and no identifiers to make one up. -/
def exhaustedShop : Shop := sampleShop (List.replicate 43 "g") "g"

/-- A group is there, but the first page is empty: there are no identifiers to make up
its product. -/
theorem first_page_empty : ∃ made, ∃ v v' : Service, v.InProcess true ∧
    GroupHistory made v.client.network.shop ∧
    v.client.network.shop.HasGroup "gid://shopify/SellingPlanGroup/g" ∧ Pages 1 0 v [] v' := by
  -- The supply ends right after the group was made and attached.
  obtain ⟨made, history⟩ : ∃ made, GroupHistory made exhaustedShop := exists_sample _ _
  have kept : (exhaustedShop.entity? Gid.groupPrefix
      (.text "gid://shopify/SellingPlanGroup/g")).isSome = true := by decide +kernel
  have failed : (Act.on (Shop.groups (.int (0 : Nat)) (.int (1 : Nat))) exhaustedShop).1.toBool =
      false := by decide +kernel
  generalize exhaustedShop = s at history kept failed
  have inProcess : (overRoute .inProcess s).InProcess true := ⟨rfl, rfl⟩
  obtain ⟨s', -, ⟨-, exhausted⟩ | ⟨-, found⟩⟩ := groups_cases history.allReadable 0 Nat.one_pos
  · -- The first page cannot be joined, so it is answered empty and ends the run.
    obtain ⟨v', asked, -⟩ := Service.on_page_exhausted inProcess exhausted
    exact ⟨made, _, v', inProcess, history, kept, .last asked⟩
  · rw [found] at failed
    cases failed

end GroupHistory
end Storefront
