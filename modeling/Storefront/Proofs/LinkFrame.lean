import Storefront.Proofs.GroupOrder
import Storefront.Proofs.PreOrders

/-! # What leaves the links of a group alone

What an owner is linked to does not belong to its group: it stays when the group is deleted, and is
found again when the group is made anew.  The products and variants that an owner is linked to
change only by attaching some to its group, or by linking and unlinking the owner itself; nothing
else that is asked of a shop has to do with them.

* `LinkedTo` : the products and variants of an owner, and what is in order about its group
* `SideRequest.AddsTo`, `SideRequest.Relinks` : the requests that change what an owner is linked to
* `ShopRequest.run_linkedTo` : all others leave it -/

namespace Storefront

open Act (Within Carries)

/-- Plans are linked under a relation of their own. -/
theorem Ware.planRelation_ne (w : Ware) : Shop.planRelation ≠ w.relation := by
  cases w <;> decide

namespace Shop

variable {s s' : Shop} {owner : String} {links : Key → List (Key × Value)}

/-- What is apart from all but carts and variants keeps plans, groups and links. -/
theorem Apart.keepsGroups {named : String → Prop} (h : Apart named s s') : KeepsGroups s s' where
  seen := h.tokens.subset
  slots kind hk := by
    have other : ∀ name, ¬ IsGroupKind (Gid.kindPrefix name) →
        Key.text kind ≠ .text (Gid.kindPrefix name) := fun name hname same =>
      hname (Key.text.inj same ▸ hk)
    rw [Store.slots, h.kinds (.text kind) (other "Cart" (not_isGroupKind (by decide) (by decide)))
      (other "ProductVariant" (not_isGroupKind (by decide) (by decide))), Store.slots]

/-- An owner is linked to products and variants as listed.  If it has a group, this is kept under
its own identifier; whatever the owner is linked to as a plan may stand for an identifier. -/
structure LinkedTo (owner : String) (links : Key → List (Key × Value)) (s : Shop) : Prop where
  kept : s.Kept False
  wares : ∀ w : Ware, s.members owner w.relation = links w.relation
  group : ∀ e, s.entity? Gid.groupPrefix (.text owner) = some e →
    NamesGroup owner ∧ ∃ g : SellingPlanGroup, g.id = owner ∧ e = .group g
  plans : ∀ k ∈ s.linkedPlans owner, ∃ v, Gid.decodeValue k.toValue = .ok v

/-- In a new shop no owner is linked to anything. -/
theorem linkedTo_new (context : Context) (supply : Supply) :
    (Shop.new context supply).LinkedTo owner fun _ => [] where
  kept := ⟨owned_new context supply, False.elim⟩
  wares _ := rfl
  group _ he := by cases he
  plans k hk := by cases hk

namespace LinkedTo

variable (h : s.LinkedTo owner links)

include h

/-- A group that is there can be joined: it was kept under its own identifier, and its plans are
named by identifiers. -/
theorem joinable (has : s.HasGroup owner) : s.Joinable owner := by
  obtain ⟨e, he⟩ := Option.isSome_iff_exists.1 has
  obtain ⟨named, g, hg, rfl⟩ := h.group e he
  exact ⟨named, h.kept.owned, ⟨g, hg, he⟩, h.plans⟩

/-! ### Steps -/

/-- What keeps plans, groups and links keeps what an owner is linked to. -/
theorem keepsGroups (kept : s'.Kept False) (keeps : KeepsGroups s s') :
    s'.LinkedTo owner links where
  kept := kept
  wares w := (keeps.members_eq owner w.relation).trans (h.wares w)
  group e he := h.group e (keeps.entity?_eq (.inl rfl) _ ▸ he)
  plans k hk := by
    rw [keeps.keepsPlans.linked] at hk
    exact h.plans k hk

/-- What is drawn does not matter. -/
theorem redrawn (drawn : Redrawn s s') : s'.LinkedTo owner links := by
  obtain ⟨supply, rfl⟩ := drawn
  exact { h with kept := ⟨h.kept.owned, False.elim⟩ }

/-- A group may be kept under its own identifier, anew or not. -/
theorem withGroup {g : SellingPlanGroup} (named : NamesGroup g.id) :
    (s.withEntity Gid.groupPrefix (.text g.id) (.group g)).LinkedTo owner links where
  kept := h.kept.withEntity _ ⟨rfl, False.elim⟩
  wares w := (members_withEntity_of_ne s (group_ne_mark owner).symm _ _ _).trans (h.wares w)
  group e he := by
    -- The group is that of the owner, or the owner's group is as it was.
    obtain ⟨same, rfl⟩ | he := entity?_withEntity_cases he
    · obtain rfl := Key.text.inj same
      exact ⟨named, g, rfl, rfl⟩
    · exact h.group e he
  plans k hk := by
    rw [linkedPlans, members_withEntity_of_ne s (group_ne_mark owner).symm] at hk
    exact h.plans k hk

/-- A group may be erased; the links of its owner stay. -/
theorem withoutGroup (k : Key) : (s.withoutEntity Gid.groupPrefix k).LinkedTo owner links where
  kept := h.kept.withoutEntity _ k
  wares w := by
    rw [members, entity?_withoutEntity_of_ne s (group_ne_mark owner).symm]
    exact h.wares w
  group e he := h.group e (entity?_withoutEntity he)
  plans k' hk := by
    rw [linkedPlans, members, entity?_withoutEntity_of_ne s (group_ne_mark owner).symm] at hk
    exact h.plans k' hk

/-- A plan may be kept. -/
theorem withPlan {k : Key} {e : Entity} (he : e.IsOf Gid.planPrefix) :
    (s.withEntity Gid.planPrefix k e).LinkedTo owner links where
  kept := h.kept.withEntity _ ⟨he, False.elim⟩
  wares w := (members_withEntity_of_ne s (plan_ne_mark owner).symm _ _ _).trans (h.wares w)
  group e' he' := by
    rw [entity?_withEntity_of_ne s (.inl (by decide))] at he'
    exact h.group e' he'
  plans k hk := by
    rw [linkedPlans_withPlan] at hk
    exact h.plans k hk

/-- A plan may be erased; what was linked to it stays linked. -/
theorem withoutPlan (k : Key) : (s.withoutEntity Gid.planPrefix k).LinkedTo owner links where
  kept := h.kept.withoutEntity _ k
  wares w := by
    rw [members, entity?_withoutEntity_of_ne s (plan_ne_mark owner).symm]
    exact h.wares w
  group e he := by
    rw [entity?_withoutEntity_of_ne s (by decide)] at he
    exact h.group e he
  plans k' hk := by
    rw [linkedPlans_withoutPlan] at hk
    exact h.plans k' hk

/-- Links of another owner change, or links that are to no wares. -/
theorem withMembers {o : String} {relation : Key} {ms : List (Key × Value)}
    (hw : o = owner → ∀ w : Ware, relation ≠ w.relation)
    (hp : o = owner → relation = planRelation →
      ∀ k ∈ Assoc.keys ms, ∃ v, Gid.decodeValue k.toValue = .ok v) :
    (s.withMembers o relation ms).LinkedTo owner links := by
  -- Other links of the owner, and all links of others, are as they were.
  have others : ∀ {other : Key}, (o = owner → relation ≠ other) → (∃ name, other = .text name) →
      (s.withMembers o relation ms).members owner other = s.members owner other := by
    rintro _ hne ⟨name, rfl⟩
    refine members_withMembers_of_ne s ?_ ms
    by_cases ho : o = owner
    · right
      rw [Bool.eq_false_iff, ne_eq, Key.text_beq_iff]
      exact hne ho
    · exact .inl (Ne.symm ho)
  refine ⟨h.kept.withEntity _ ⟨⟨o, rfl⟩, False.elim⟩, fun w => ?_, fun e he => ?_, fun k hk => ?_⟩
  · have text : ∃ name, w.relation = .text name := by cases w <;> exact ⟨_, rfl⟩
    rw [others (fun ho => hw ho w) text, h.wares]
  · rw [Shop.withMembers, entity?_withEntity_of_ne s (.inl (group_ne_mark o))] at he
    exact h.group e he
  · -- The links to plans changed, or they did not.
    by_cases same : o = owner ∧ relation = planRelation
    · obtain ⟨rfl, rfl⟩ := same
      rw [linkedPlans, members_withMembers_self] at hk
      exact hp rfl rfl k hk
    · rw [linkedPlans, others (fun ho hr => same ⟨ho, hr⟩) ⟨_, rfl⟩] at hk
      exact h.plans k hk

/-- A group is linked to a plan. -/
theorem linkPlan (o : String) {k : Key} {v : Value} (hv : Gid.decodeValue k.toValue = .ok v) :
    (s.withMembers o planRelation
      (Assoc.put (s.members o planRelation) k k.toValue)).LinkedTo owner links := by
  refine h.withMembers (fun _ w => w.planRelation_ne) fun ho _ k' hk => ?_
  obtain rfl | hk := mem_keys_put hk
  · exact ⟨v, hv⟩
  · exact h.plans k' (ho ▸ hk)

end LinkedTo

/-! ### In the engine -/

/-- An action that keeps plans, groups and links, and brings in nothing from outside. -/
theorem linkedTo_of_keepsGroups {α : Type} {x : Act Shop α} (owned : KeepsOwned x)
    (keeps : Within KeepsGroups x) : Within (Carries (LinkedTo owner links)) x :=
  fun s h => h.keepsGroups (owned s h.kept) (keeps s)

/-- To draw touches no links. -/
theorem linkedTo_of_draws {α : Type} {x : Act Shop α} (h : Within Draws x) :
    Within (Carries (LinkedTo owner links)) x :=
  linkedTo_of_keepsGroups (.of_draws h) (draws_keepsGroups h)

/-- To make a plan touches no links. -/
theorem createPlan_linkedTo (options given : Value) :
    Within (Carries (LinkedTo owner links)) (createPlan options given) := by
  refine .bind (linkedTo_of_draws (givenOrFreshId_draws _ _)) fun id => ?_
  exact .bind (.map _ (.lift _)) fun _ => .bind (fun _ h => h) fun _ => .bind (.lift _) fun _ =>
    .bind (fun _ h => h.withPlan rfl) fun _ => .pure _

/-- To change a plan touches no links. -/
theorem updatePlan_linkedTo (id options : Value) :
    Within (Carries (LinkedTo owner links)) (updatePlan id options) := by
  intro s h
  have kept := (updatePlan_gives not_false id options s h.kept).1
  rcases updatePlan_cases id options s with ⟨same, -⟩ | ⟨k, e, -, -, changed⟩
  · rw [same]
    exact h
  · rw [changed] at kept ⊢
    exact h.withPlan (kept.owned _ _ _ (entity?_withEntity_self ..))

/-- To delete a plan touches no links. -/
theorem deletePlan_linkedTo (id : Value) :
    Within (Carries (LinkedTo owner links)) (deletePlan id) :=
  .bind (.lift _) fun _ => .bind (.lift _) fun k _ h => h.withoutPlan k

/-- To add a plan to a group links it as a plan, by its raw identifier. -/
theorem addPlan_linkedTo (o : String) (options : Value) :
    Within (Carries (LinkedTo owner links)) (addPlan o options) := by
  intro s h
  rcases createPlan_cases options s with ⟨f, s', made, -⟩ | ⟨plan, s₁, t, made, -, -, -⟩
  · rw [addPlan, Act.on_bind_of_error made]
    -- The plan was not made.
    exact (createPlan_linkedTo options .null).of_on made h
  · have h₁ := (createPlan_linkedTo options .null).of_on made h
    rw [addPlan, Act.on_bind_of_ok made, Act.on_discard_snd, on_connect h₁.kept.owned]
    exact h₁.linkPlan o (Gid.decodeValue_text plan.id)

/-- To drop a plan from a group leaves fewer links to plans. -/
theorem dropPlan_linkedTo (o : String) (plan : Value) :
    Within (Carries (LinkedTo owner links)) (dropPlan o plan) := by
  intro s h
  rw [on_dropPlan h.kept.owned]
  cases GroupRequest.droppedKey plan with
  | error f => exact h
  | ok k =>
    refine (h.withoutPlan k).withMembers (fun _ w => w.planRelation_ne) fun ho _ k' hk => ?_
    rw [Assoc.keys_erase, List.mem_filter] at hk
    exact h.plans k' (ho ▸ hk.1)

/-- To change a plan of a group links it as a plan, by an identifier that was decoded. -/
theorem changePlan_linkedTo (o : String) (options : Value) :
    Within (Carries (LinkedTo owner links)) (changePlan o options) := by
  refine .bind (.lift _) fun given => .bind_lift fun id hid s h => ?_
  have changed := updatePlan_linkedTo id options s h
  rcases updatePlan_cases id options s with ⟨-, none⟩ | ⟨k, e, hk, -, found⟩
  · -- There is no such plan, and nothing is linked.
    rw [Act.on_bind]
    rcases hr : Act.on (updatePlan id options) s with ⟨f | _ | e, s'⟩ <;> rw [hr] at changed none
    · exact changed
    · exact changed
    · exact absurd rfl (none e)
  · rw [found] at changed
    rw [Gid.decodeValue_decodeValue hid] at hk
    have key : id.asKey = .ok k := hk
    -- What is decoded already is left as it is when it is decoded again.
    have decodes : Gid.decodeValue k.toValue = .ok id := by
      rw [Value.toValue_of_asKey key]
      exact Gid.decodeValue_decodeValue hid
    rw [Act.on_bind_of_ok found]
    dsimp only
    rw [key, Act.on_bind_of_ok (Act.on_lift _ _), Act.on_discard_snd, on_connect changed.kept.owned]
    exact changed.linkPlan o decodes

/-- Whatever is done to the plans of a group. -/
theorem planWork_linkedTo (o : String) (w : PlanWork) :
    Within (Carries (LinkedTo owner links)) (w.run o) := by
  cases w with
  | add options => exact addPlan_linkedTo o options
  | drop plan => exact dropPlan_linkedTo o plan
  | change options => exact changePlan_linkedTo o options

/-- To join a group touches no links. -/
theorem joined_linkedTo (id : Key) : Within (Carries (LinkedTo owner links)) (joined id) :=
  linkedTo_of_keepsGroups (.of_gives (joined_gives id)) (joined_keepsGroups id)

/-- A group that is made anew keeps what its owner is linked to. -/
theorem createGroup_linkedTo (options given : Value) :
    Within (Carries (LinkedTo owner links)) (createGroup options given) := by
  rw [createGroup_eq]
  refine .bind (openGroup_within (linkedTo_of_draws (givenOrFreshId_draws _ _))
    fun _ s₁ g _ drawn sent h => h.withGroup ?_) fun id => ?_
  · -- The identifier was encoded, so that it names a group.
    obtain ⟨decoded, ne_empty⟩ := givenOrFreshId_decoded (by decide) drawn
    exact ⟨decoded, ne_empty, Gid.eq_encode_of_encodeText sent ▸ sent⟩
  · exact groupWorks_within (fun v => planWork_linkedTo id (.add v))
      (fun _ _ v _ => planWork_linkedTo id (.drop v)) (fun v => planWork_linkedTo id (.change v))
      (joined_linkedTo _)

/-- To delete a group leaves what its owner is linked to. -/
theorem deleteGroup_linkedTo (id : Value) :
    Within (Carries (LinkedTo owner links)) (deleteGroup id) :=
  .bind (groupId_unchanged id).of_eq fun k _ h => h.withoutGroup k

/-- To relate another group touches the links of another owner. -/
theorem relate_linkedTo (relation : Key) {id : Value} (hid : Gid.decodeValue id ≠ .ok (.text owner))
    (ids : Value) : Within (Carries (LinkedTo owner links)) (relate relation id ids) := by
  refine .bind_of_on (groupId_unchanged id).of_eq fun key _ s found => ?_
  refine (?_ : Within (Carries (LinkedTo owner links)) _) s
  refine .bind_lift fun o ho => .bind (.lift _) fun _ => .bind (.forM (fun v => ?_) _) fun _ =>
    joined_linkedTo _
  -- Were the owner the same, the identifier would name its group.
  have other : o ≠ owner := by
    rintro rfl
    cases key <;> cases ho
    exact hid (decodeValue_of_groupId found)
  refine .bind (.lift _) fun _ => .bind (.lift _) fun k => .map _ fun s h => ?_
  rw [on_connect h.kept.owned]
  exact h.withMembers (absurd · other) (absurd · other)

end Shop

/-! ### Requests -/

open Shop

namespace SideRequest

/-- The request is to attach something to the group of an owner. -/
def AddsTo (owner : String) : SideRequest → Prop
  | .relate _ id _ => Gid.decodeValue id = .ok (.text owner)
  | _ => False

/-- The request links or unlinks an owner and a ware, whether or not there is a group; or it links
the owner as to a plan to what can be no identifier, so that its group is not answered any more. -/
def Relinks (owner : String) : SideRequest → Prop
  | .connect o k relation => o = owner ∧ ((∃ w : Ware, relation = w.relation) ∨
    relation = planRelation ∧ ¬ ∃ v, Gid.decodeValue k.toValue = .ok v)
  | .disconnect o _ relation => o = owner ∧ ∃ w : Ware, relation = w.relation
  | _ => False

variable {owner : String} {links : Key → List (Key × Value)} {s : Shop}

/-- A request aside from carts that does not link the owner leaves what it is linked to. -/
theorem run_linkedTo {r : SideRequest} (hadd : ¬ r.AddsTo owner) (hlink : ¬ r.Relinks owner) :
    Within (Carries (LinkedTo owner links)) r.run := by
  have reads {α : Type} {x : Act Shop α} (hr : r.run = discard x) (keeps : Within KeepsGroups x) :
      Within (Carries (LinkedTo owner links)) r.run :=
    linkedTo_of_keepsGroups (SideRequest.run_keepsOwned r) (hr ▸ keeps.map _)
  cases r with
  | variant id make => exact reads rfl (variant_keepsGroups id make)
  | product id make => exact reads rfl (product_keepsGroups id make)
  | createPlan options id => exact .map _ (createPlan_linkedTo options id)
  | getPlan id => exact reads rfl (plan?_keepsGroups id)
  | updatePlan id options => exact .map _ (updatePlan_linkedTo id options)
  | deletePlan id => exact .map _ (deletePlan_linkedTo id)
  | createGroup options id => exact .map _ (createGroup_linkedTo options id)
  | getGroup id => exact reads rfl (group_keepsGroups id)
  | relate relation id ids => exact .map _ (relate_linkedTo relation hadd ids)
  | deleteGroup id => exact .map _ (deleteGroup_linkedTo id)
  | listGroups start limit => exact reads rfl (groups_keepsGroups start limit)
  | connect o k relation =>
    refine .map _ fun s h => ?_
    rw [on_connect h.kept.owned]
    refine h.withMembers (fun ho w hr => hlink ⟨ho, .inl ⟨w, hr⟩⟩) fun ho hr k' hk => ?_
    obtain rfl | hk := mem_keys_put hk
    · -- The one exception: what is linked as a plan is no identifier.
      by_contra lost
      exact hlink ⟨ho, .inr ⟨hr, lost⟩⟩
    · exact h.plans k' (by rw [linkedPlans, ← ho, ← hr]; exact hk)
  | disconnect o k relation =>
    refine .map _ fun s h => ?_
    rw [on_disconnect h.kept.owned]
    refine h.withMembers (fun ho w hr => hlink ⟨ho, w, hr⟩) fun ho hr k' hk => ?_
    rw [Assoc.keys_erase, List.mem_filter] at hk
    exact h.plans k' (by rw [linkedPlans, ← ho, ← hr]; exact hk.1)
  | connections o relation => exact reads rfl (connections_keepsGroups o relation)
  | freshId start => exact reads rfl (draws_keepsGroups (freshId_draws start))

/-- Nothing is attached to a group that there is not. -/
theorem run_addsTo {r : SideRequest} (hadd : r.AddsTo owner) (none : ¬ s.HasGroup owner) :
    (Act.on r.run s).2 = s := by
  cases r with
  | relate relation id ids =>
    rw [SideRequest.run, Act.on_discard_snd]
    -- The identifier names no group, and nothing is done.
    rcases hkey : Act.on (groupId id) s with ⟨f | key, s₁⟩
    · obtain rfl := (groupId_unchanged id).of_on hkey
      rw [Shop.relate, Act.on_bind_of_error hkey]
    · obtain ⟨hraw, found⟩ := groupId_eq_ok hkey
      have named : Gid.decodeValue id = .ok (.text owner) := hadd
      rw [named] at hraw
      obtain rfl : Key.text owner = key := Except.ok.inj hraw
      exact absurd found none
  | _ => exact hadd.elim

end SideRequest

namespace Operation.AsksFor

variable {o : Operation} {vars : Value} {r r' : SideRequest} {owner : String}

/-- Only operations on groups ask for anything aside from carts. -/
theorem isOnGroups (h : o.AsksFor vars r) : o.isOnGroups = true := by
  cases r <;> simp only [AsksFor] at h
  case relate => obtain ⟨⟨rfl, -⟩ | ⟨rfl, -⟩, -⟩ := h <;> rfl
  case createGroup => rw [h.1]; rfl
  all_goals rw [h]; rfl

/-- Whatever a document asks for to attach is to be attached to one group. -/
theorem addsTo (h : o.AsksFor vars r) (h' : o.AsksFor vars r') (adds : r.AddsTo owner) :
    r'.AddsTo owner := by
  cases r with
  | relate relation id ids =>
    obtain ⟨asked, given, hgiven, hid⟩ := h
    cases r' with
    | relate relation' id' ids' =>
      obtain ⟨-, given', hgiven', hid'⟩ := h'
      obtain rfl := Except.ok.inj (hgiven.symm.trans hgiven')
      obtain rfl := Except.ok.inj (hid.symm.trans hid')
      exact adds
    | _ => obtain ⟨rfl, -⟩ | ⟨rfl, -⟩ := asked <;> simp [AsksFor] at h'
  | _ => exact adds.elim

end Operation.AsksFor

namespace ShopRequest

variable {owner : String} {links : Key → List (Key × Value)} {s : Shop}

/-- The request is to attach something to the group of an owner, itself or by a document. -/
def AddsTo (owner : String) : ShopRequest → Prop
  | side r => r.AddsTo owner
  | dispatch _ document vars => ∃ o r, Operation.ofDocument? document = some o ∧
    o.AsksFor (vars.orElse (.record [])) r ∧ r.AddsTo owner
  | _ => False

/-- The request links or unlinks an owner other than by its group. -/
def Relinks (owner : String) : ShopRequest → Prop
  | side r => r.Relinks owner
  | _ => False

/-- What a document asks the engines for moves a shop along. -/
theorem dispatch_within {R : Shop → Shop → Prop} [Std.Refl R] [IsTrans Shop R]
    (redraws : ∀ s s', Redrawn s s' → R s s') {document : Option String} {vars : Value}
    (carts : ∀ o, Operation.ofDocument? document = some o → o.isOnGroups = false →
      ∀ r : CartRequest, Within R r.run)
    (sides : ∀ o, Operation.ofDocument? document = some o → ∀ r : SideRequest,
      o.AsksFor (vars.orElse (.record [])) r → Within R r.run) (hasFactory : Bool) :
    Within R (dispatch hasFactory document vars).run := by
  refine .map _ (Router.dispatch_within_of_operation redraws fun o asked => ?_)
  -- The document asks for one operation, which is about groups or about carts.
  cases onGroups : o.isOnGroups with
  | true => exact Router.groupHandler_within redraws onGroups (sides o asked) _
  | false =>
    have carts := carts o asked onGroups
    exact Router.cartHandler_within redraws onGroups (hook_within hasFactory fun country id s _ =>
      Within.map_iff.1 (carts (.create country id)) s) carts _

/-- A request for a cart touches no links. -/
theorem cart_linkedTo (r : CartRequest) : Within (Carries (LinkedTo owner links)) r.run :=
  fun s h => h.keepsGroups (CartRequest.run_keepsOwned r s h.kept) (r.run_apart s).keepsGroups

/-- Nothing is attached to a group that there is not; at most codes for errors are drawn. -/
theorem run_addsTo {r : ShopRequest} (hadd : r.AddsTo owner) (none : ¬ s.HasGroup owner) :
    Redrawn s (Act.on r.run s).2 := by
  -- The request is refused before anything is related, so at most an error's identifier was drawn.
  have refused : ∀ r : SideRequest, r.AddsTo owner → Within (Carries (Redrawn s)) r.run := by
    rintro r hr _ ⟨supply, rfl⟩
    exact ⟨supply, SideRequest.run_addsTo (s := { s with supply }) hr none⟩
  cases r with
  | side r => exact refused r hadd s (Std.Refl.refl s)
  | dispatch hasFactory document vars =>
    obtain ⟨o, r₀, ho, asks₀, adds₀⟩ := hadd
    refine dispatch_within (R := Carries (Redrawn s)) (fun _ _ h' h => IsTrans.trans _ _ _ h h')
      (fun o' ho' offGroups => ?_) (fun o' ho' r asks => ?_) hasFactory s (Std.Refl.refl s)
    · obtain rfl := Option.some.inj (ho.symm.trans ho')
      cases asks₀.isOnGroups.symm.trans offGroups
    · obtain rfl := Option.some.inj (ho.symm.trans ho')
      exact refused r (asks₀.addsTo asks adds₀)
  | _ => exact hadd.elim

/-- A request that does not link the owner leaves what the owner is linked to. -/
theorem run_linkedTo {r : ShopRequest} (h : s.LinkedTo owner links)
    (hadd : r.AddsTo owner → ¬ s.HasGroup owner) (hlink : ¬ r.Relinks owner) :
    (Act.on r.run s).2.LinkedTo owner links := by
  -- Attaching to a group that is not there draws codes for errors at most.
  by_cases adds : r.AddsTo owner
  · exact h.keepsGroups (ShopRequest.run_keepsOwned r s h.kept)
      (run_addsTo adds (hadd adds)).draws.keepsGroups
  have apart (named : String → Prop) (h' : Apart named s (Act.on r.run s).2) :
      (Act.on r.run s).2.LinkedTo owner links :=
    h.keepsGroups (ShopRequest.run_keepsOwned r s h.kept) h'.keepsGroups
  cases r with
  | cart r => exact Within.map _ (cart_linkedTo r) s h
  | hasCart id => exact apart (Names id) (Within.map _ (hasCart_apart id) s)
  | emptyCart id country => exact apart (Names id) (Within.map _ (emptyCart_apart id country) s)
  | side r => exact SideRequest.run_linkedTo adds hlink s h
  | dispatch hasFactory document vars =>
    refine dispatch_within (R := Carries (LinkedTo owner links))
      (fun _ _ drawn h => h.redrawn drawn) (fun _ _ _ => cart_linkedTo) (fun o ho r asks => ?_)
      hasFactory s h
    refine SideRequest.run_linkedTo (fun hr => adds ⟨o, r, ho, asks, hr⟩) fun hr => ?_
    cases r <;> first | exact asks | exact hr

end ShopRequest

end Storefront
