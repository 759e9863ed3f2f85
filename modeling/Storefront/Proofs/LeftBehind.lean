import Storefront.Proofs.Interrupted

/-! # What a failed mutation of groups leaves behind

A document that is to change groups is answered with errors if its request is rejected, and also if
it fails in the middle.  `LeftBehind` lists what may be left then, and
`Shop.Reachable.failed_mutation` says so of every document, all variables and every shop that is
reached. -/

namespace Storefront

open Shop

/-- The answer is a payload with errors. -/
def Value.ReportsErrors (v : Value) : Prop :=
  ∃ root payload errors, v = .ofFields [(root, payload)] ∧
    payload.get? "userErrors" = some (.list errors) ∧ errors ≠ []

/-- What fails is rejected and answered with errors, which are drawn, or it is left to fail. -/
theorem Answer.orErrors_cases (act : Act Shop Value) (s : Shop) :
    (∃ v s₁, Act.on act s = (.ok v, s₁) ∧ Act.on (Answer.orErrors act) s = (.ok (.ok v), s₁)) ∨
      ∃ fault s₁, Act.on act s = (.error fault, s₁) ∧
        ((∃ errors s₂, Draws s₁ s₂ ∧ Act.on (Answer.orErrors act) s = (.ok (.error errors), s₂)) ∨
          Act.on (Answer.orErrors act) s = (.error fault, s₁)) := by
  rw [Answer.orErrors, Act.on_tryCatch, Act.on_map]
  -- It either succeeds, or fails with a fault that is reported or with one that is let through.
  rcases Act.on act s with ⟨fault | v, s₁⟩
  · refine .inr ⟨fault, s₁, rfl, ?_⟩
    dsimp only [Except.map]
    split
    · obtain ⟨errors, s₂, reported⟩ := Answer.faultErrors_succeeds fault s₁
      refine .inl ⟨errors, s₂, (Answer.faultErrors_draws fault).of_on reported, ?_⟩
      rw [Act.on_map, reported]
      rfl
    · exact .inr rfl
  · exact .inl ⟨v, s₁, rfl, rfl⟩

/-- The action answers with errors, or it fails and that is reported. -/
def Act.ReportsErrors (x : Act Shop Value) (s s' : Shop) : Prop :=
  (∃ v, Act.on x s = (.ok v, s') ∧ v.ReportsErrors) ∨
    ∃ fault s₁, Act.on x s = (.error fault, s₁) ∧ Draws s₁ s'

namespace Act.ReportsErrors

variable {s s' : Shop}

/-- A check fails, or what follows it answers with errors. -/
theorem of_bind_lift {α : Type} {e : Except Fault α} {f : α → Act Shop Value}
    (h : Act.ReportsErrors (liftM e >>= f) s s') :
    Draws s s' ∨ ∃ a, e = .ok a ∧ Act.ReportsErrors (f a) s s' := by
  cases e with
  | error fault =>
    rcases h with ⟨v, hv, -⟩ | ⟨fault', s₁, hfail, drawn⟩
    · cases hv
    · obtain rfl := (Prod.mk.inj hfail).2
      exact .inl drawn
  | ok a => exact .inr ⟨a, rfl, h⟩

/-- A payload with errors is that of a failure. -/
theorem of_orErrors {o : Operation} {name : String} (hname : name ≠ "userErrors")
    {act : Act Shop Value}
    (h : Act.ReportsErrors (do return Answer.groupPayload o name (← Answer.orErrors act)) s s') :
    ∃ fault s₁, Act.on act s = (.error fault, s₁) ∧ Draws s₁ s' := by
  rw [Act.ReportsErrors] at h
  rcases Answer.orErrors_cases act s with ⟨v, s₁, hact, hor⟩ |
    ⟨fault, s₁, hact, ⟨errors, s₂, drawn, hor⟩ | hor⟩
  · -- The payload of a success has no errors.
    rw [Act.on_bind_of_ok hor] at h
    rcases h with ⟨answer, hv, root, payload, errors, rfl, hget, hne⟩ | ⟨fault, s₂, hfail, -⟩
    · have same := Except.ok.inj (Prod.mk.inj hv).1
      simp only [Answer.groupPayload, Value.ofFields, List.map_cons, List.map_nil,
        Value.record.injEq, List.cons.injEq, Prod.mk.injEq, and_true] at same
      obtain ⟨-, rfl⟩ := same
      have none : Value.list errors = .list [] := by
        simpa [Value.get?, Assoc.get?, hname] using hget.symm
      exact absurd (Value.list.inj none) hne
    · cases hfail
  · rw [Act.on_bind_of_ok hor] at h
    rcases h with ⟨v, hv, -⟩ | ⟨fault', s₃, hfail, -⟩
    · obtain rfl := (Prod.mk.inj hv).2
      exact ⟨fault, s₁, hact, drawn⟩
    · cases hfail
  · rw [Act.on_bind_of_error hor] at h
    rcases h with ⟨v, hv, -⟩ | ⟨fault', s₃, hfail, drawn⟩
    · cases hv
    · obtain rfl := (Prod.mk.inj hfail).2
      exact ⟨fault, s₁, hact, drawn⟩

end Act.ReportsErrors

/-- A document that is answered with errors is so by its handler, or its handler fails. -/
theorem Router.reportsErrors_of_dispatch {factory : Option Factory} {document : Option String}
    {o : Operation} (ho : Document.signature? document = some o.signature) {vars v : Value}
    {s s' : Shop}
    (h : Act.on ((standard factory).dispatch document vars) s = (.ok (some v), s'))
    (hv : v.ReportsErrors) :
    (ownHandler factory o (document.getD "") (vars.orElse (.record []))).ReportsErrors s s' := by
  -- A document that does not parse is not answered, so the handler was run.
  cases hp : Document.parse document (vars.orElse (.record [])) with
  | error fault => rw [on_dispatch_of_error hp] at h; cases h
  | ok p =>
    rw [on_dispatch hp ho (handler?_of_ofSignature? o.ofSignature?_signature)] at h
    rcases hr : Act.on (ownHandler factory o (document.getD "") (vars.orElse (.record []))) s with
      ⟨fault | answer, s₁⟩ <;> rw [hr] at h
    · -- the handler failed, and reporting its fault drew an id
      refine .inr ⟨fault, s₁, hr, ?_⟩
      dsimp only at h
      split at h
      · cases h
      · have drawn := Answer.faultErrors_draws fault s₁
        rwa [(Prod.mk.inj h).2] at drawn
    · -- the handler answered, and an answer is handed on unless it is null
      obtain ⟨hanswer, rfl⟩ := Prod.mk.inj h
      refine .inl ⟨v, ?_, hv⟩
      replace hanswer : (if answer.isNull then none else some answer) = some v :=
        Except.ok.inj hanswer
      split at hanswer
      · cases hanswer
      · rw [hr, Option.some.inj hanswer]

namespace Operation

/-- The relation that an operation extends a group under, and the name of the variable that lists
what is linked to it. -/
def extension? : Operation → Option (Key × String)
  | groupAddProducts => some (productRelation, "productIds")
  | groupAddProductVariants => some (variantRelation, "productVariantIds")
  | _ => none

/-- The operation changes groups. -/
def ChangesGroups (o : Operation) : Prop :=
  o = groupCreate ∨ o = groupAddProducts ∨ o = groupAddProductVariants ∨ o = groupDelete

end Operation

/-- What a request to change groups may leave behind where it fails. -/
inductive LeftBehind (vars : Value) (s : Shop) : Operation → Shop → Prop
  | nothing (o : Operation) {s' : Shop} (h : KeepsGroups s s') : LeftBehind vars s o s'
  /-- A group that has what is required is kept under an identifier that was not handed out, and of
  what is to be done with its plans a part is done. -/
  | making {input : Value} {t : String} {g : SellingPlanGroup} {s₀ s' : Shop}
      (hinput : vars.member "input" = .ok input) (ht : t ∉ s.seen)
      (hg : Drafts (input.orElse (.record [])) s.supply.timestamp (Gid.groupPrefix ++ t) g)
      (h₀ : KeepsGroups s s₀)
      (hworks : StoppedIn (PlanWork.run (Gid.groupPrefix ++ t))
        (PlanWork.all (input.orElse (.record [])))
        (s₀.withEntity Gid.groupPrefix (.text (Gid.groupPrefix ++ t)) (.group g)) s')
      (hfor : WorksFor (Gid.groupPrefix ++ t)
        (s₀.withEntity Gid.groupPrefix (.text (Gid.groupPrefix ++ t)) (.group g)) s') :
      LeftBehind vars s .groupCreate s'
  /-- A group that is known is linked to a part of what it is to be linked to. -/
  | extending {o : Operation} {relation : Key} {name owner : String} {id ids : Value}
      {vs : List Value} {s' : Shop} (ho : o.extension? = some (relation, name))
      (hid : vars.member "id" = .ok id)
      (howner : (Gid.decodeValue id >>= Value.asKey) = .ok (.text owner))
      (hgroup : (s.entity? Gid.groupPrefix (.text owner)).isSome = true)
      (hids : vars.member name = .ok ids) (hvs : (ids.orElse (.list [])).elementsOrNone = .ok vs)
      (hworks : StoppedIn (attach owner relation) vs s s') (hfor : WorksFor owner s s') :
      LeftBehind vars s o s'

variable {vars : Value} {s s' : Shop}

/-- A creation that reports errors leaves the groups as they were, or the new group with a part of
the work on its plans. -/
theorem LeftBehind.of_create (h : s.Kept False)
    (hr : (Answer.groupCreate vars).ReportsErrors s s') : LeftBehind vars s .groupCreate s' := by
  rcases hr.of_bind_lift with drawn | ⟨input, hinput, hr⟩
  · exact .nothing _ drawn.keepsGroups
  obtain ⟨fault, s₁, hfail, drawn⟩ := hr.of_orErrors (by decide)
  rcases createGroup_stopped h hfail with keeps | ⟨t, g, s₀, ht, hg, h₀, stopped⟩
  · exact .nothing _ (IsTrans.trans _ _ _ keeps drawn.keepsGroups)
  · have stopped' := stopped.drawn drawn
    exact .making hinput ht hg h₀ stopped' (stopped'.worksFor (planWork_worksFor _))

/-- A request that relates nothing changes no group; one that stops halfway has related a part of
its ids. -/
theorem LeftBehind.of_extend {o : Operation} {relation : Key} {name : String}
    (ho : o.extension? = some (relation, name)) (h : s.Kept False)
    (hr : Act.ReportsErrors (do
      let id ← Gid.decodeValue (← vars.member "id")
      let ids := (← vars.member name).orElse (.list [])
      return Answer.groupPayload o "sellingPlanGroup" (← Answer.orErrors (relate relation id ids)))
      s s') : LeftBehind vars s o s' := by
  -- Everything read before the relating stops the request with nothing done.
  rcases hr.of_bind_lift with drawn | ⟨id, hid, hr⟩
  · exact .nothing _ drawn.keepsGroups
  rcases hr.of_bind_lift with drawn | ⟨raw, hraw, hr⟩
  · exact .nothing _ drawn.keepsGroups
  rcases hr.of_bind_lift with drawn | ⟨ids, hids, hr⟩
  · exact .nothing _ drawn.keepsGroups
  obtain ⟨fault, s₁, hfail, drawn⟩ := hr.of_orErrors (by decide)
  rcases relate_stopped h hfail with keeps | ⟨owner, vs, howner, hgroup, hvs, stopped⟩
  · exact .nothing _ (IsTrans.trans _ _ _ keeps drawn.keepsGroups)
  · rw [Gid.decodeValue_decodeValue hraw, ← hraw] at howner
    have stopped' := stopped.drawn drawn
    exact .extending ho hid howner hgroup hids hvs stopped'
      (stopped'.worksFor (attach_worksFor owner relation))

/-- Deleting a group that is known does not fail. -/
theorem keepsGroups_of_delete (hr : (Answer.groupDelete vars).ReportsErrors s s') :
    KeepsGroups s s' := by
  rcases hr.of_bind_lift with drawn | ⟨given, hgiven, hr⟩
  · exact drawn.keepsGroups
  rcases hr.of_bind_lift with drawn | ⟨id, hid, hr⟩
  · exact drawn.keepsGroups
  obtain ⟨fault, s₁, hfail, drawn⟩ := hr.of_orErrors (by decide)
  -- Nothing can fail once the group is erased, so only finding it failed.
  rcases Act.on_bind_eq_error.1 hfail with hfail | ⟨erased, s₂, herased, hfail⟩
  · obtain rfl := deleteGroup_failed hfail
    exact drawn.keepsGroups
  · obtain ⟨key, s₃, hkey, herased⟩ := Act.on_bind_eq_ok.1 herased
    obtain rfl := (groupId_unchanged id).of_on hkey
    rw [on_erase, (groupId_eq_ok hkey).2] at herased
    obtain rfl := Except.ok.inj (Prod.mk.inj herased).1
    cases hfail

/-- Whatever document, variables and shop: a change of groups that is answered with errors leaves
groups, plans and links as they were, or it was stopped in the middle of making or of extending a
group; then the works before the one that failed are done, and no more.  Deleting a group leaves
everything as it was. -/
theorem Shop.Reachable.failed_mutation (h : Reachable s) (hasFactory : Bool)
    {document : Option String} {o : Operation} (ho : o.ChangesGroups)
    (hs : Document.signature? document = some o.signature) {v : Value}
    (hd : Act.on ((Router.standard (factoryOf hasFactory)).dispatch document vars) s =
      (.ok (some v), s')) (hv : v.ReportsErrors) :
    LeftBehind (vars.orElse (.record [])) s o s' ∧ (o = .groupDelete → KeepsGroups s s') := by
  have hr := Router.reportsErrors_of_dispatch hs hd hv
  rcases ho with rfl | rfl | rfl | rfl
  · exact ⟨.of_create h.kept hr, nofun⟩
  · exact ⟨.of_extend rfl h.kept hr, nofun⟩
  · exact ⟨.of_extend rfl h.kept hr, nofun⟩
  · exact ⟨.nothing _ (keepsGroups_of_delete hr), fun _ => keepsGroups_of_delete hr⟩

/-! ### A group with a plan that cannot be made -/

/-- Variables that ask for a group with two plans, the second of which is none. -/
def sampleMaking : Value :=
  .ofFields [("input", .ofFields [("name", "Pre-order"), ("merchantCode", "pre-order"),
    ("sellingPlansToCreate", .list [.ofFields [("name", "Deposit")], .int 5])])]

/-- The identifier that the group is kept under. -/
def sampleMade : Key := .text "gid://shopify/SellingPlanGroup/SellingPlanGroup-1"

/-- Whether a group that fails to be made is kept, and its failure is reported. -/
def isLeftBehind : Except Fault Value × Shop → Bool
  | (.error fault, s) =>
    !Router.isHard fault && !fault.isRejection && (s.entity? Gid.groupPrefix sampleMade).isSome
  | _ => false

/-- A refused creation of a group can leave the group. -/
theorem exists_leftBehind : ∃ v s', v.ReportsErrors ∧
    Act.on ((Router.standard (factoryOf false)).dispatch
      (some (Operation.groupCreate.document "")) sampleMaking) (.new default (.fresh 0 0 [])) =
        (.ok (some v), s') ∧ (s'.entity? Gid.groupPrefix sampleMade).isSome = true := by
  -- That the handler fails after the group is stored is decided by running it.
  have checked : isLeftBehind (Act.on (Answer.groupCreate sampleMaking)
    (.new default (.fresh 0 0 []))) = true := by decide +kernel
  rcases hr : Act.on (Answer.groupCreate sampleMaking) (.new default (.fresh 0 0 [])) with
    ⟨fault | v, s₁⟩ <;> rw [hr] at checked
  swap
  · cases checked
  simp only [isLeftBehind, Bool.and_eq_true, Bool.not_eq_true'] at checked
  obtain ⟨⟨soft, unrejected⟩, made⟩ := checked
  obtain ⟨e, s₂, reported⟩ := Answer.on_faultErrors_single unrejected s₁
  have isFor := Operation.groupCreate.isFor_document ""
  obtain ⟨fields, hfields⟩ := orElse_of_vars (.inr (rfl : sampleMaking.isRecord = true))
  refine ⟨Router.refusal Operation.groupCreate.field [e], s₂,
    ⟨_, _, [e], rfl, rfl, List.cons_ne_nil _ _⟩, ?_, ?_⟩
  · rw [Router.on_dispatch_isFor _ isFor hfields]
    -- The variables are an object with members, so they stand for themselves.
    have given : sampleMaking.orElse (.record []) = sampleMaking := if_pos rfl
    have failed : ∀ text, Act.on (Router.ownHandler (factoryOf false) .groupCreate text
        (sampleMaking.orElse (.record []))) (.new default (.fresh 0 0 [])) =
        (.error fault, s₁) := by
      intro text
      rw [given]
      exact hr
    rw [failed]
    dsimp only
    rw [soft, if_neg nofun, reported]
    rfl
  · -- Reporting the fault keeps the group the handler stored.
    have drawn : Draws s₁ s₂ := (Answer.faultErrors_draws fault).of_on reported
    have same := drawn.entity?_eq Gid.groupPrefix sampleMade
    exact (congrArg Option.isSome same).trans made

/-- In the sample, the request is stopped in the middle of making a group. -/
theorem Shop.Reachable.failed_mutation_sample : ∃ s' v,
    Shop.Reachable (.new default (.fresh 0 0 [])) ∧ Operation.groupCreate.ChangesGroups ∧
    Document.signature? (some (Operation.groupCreate.document "")) =
      some Operation.groupCreate.signature ∧
    Act.on ((Router.standard (factoryOf false)).dispatch
      (some (Operation.groupCreate.document "")) sampleMaking) (.new default (.fresh 0 0 [])) =
        (.ok (some v), s') ∧ v.ReportsErrors ∧
    LeftBehind sampleMaking (.new default (.fresh 0 0 [])) .groupCreate s' := by
  obtain ⟨v, s', reports, dispatched, -⟩ := exists_leftBehind
  have reachable : Shop.Reachable (.new default (.fresh 0 0 [])) := .new default _
  have signed := (Operation.groupCreate.isFor_document "").signature
  exact ⟨s', v, reachable, .inl rfl, signed, dispatched, reports,
    (reachable.failed_mutation false (.inl rfl) signed dispatched reports).1⟩

/-- A request that is answered with errors may leave a group behind. -/
theorem failed_making_keeps_group : ¬ ∀ (s s' : Shop) (document : Option String) (o : Operation)
    (vars v : Value), Shop.Reachable s → o.ChangesGroups →
    Document.signature? document = some o.signature →
    Act.on ((Router.standard (factoryOf false)).dispatch document vars) s = (.ok (some v), s') →
    v.ReportsErrors → KeepsGroups s s' := by
  intro keeps
  obtain ⟨v, s', reports, dispatched, made⟩ := exists_leftBehind
  have unchanged := (keeps _ _ _ .groupCreate _ _ (.new default _) (.inl rfl)
    (Operation.groupCreate.isFor_document "").signature dispatched reports).entity?_eq (.inl rfl)
    sampleMade
  rw [unchanged] at made
  cases made

end Storefront
