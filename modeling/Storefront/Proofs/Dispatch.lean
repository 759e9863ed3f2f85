import Storefront.Proofs.AnswerSpec
import Storefront.Proofs.Coherent

/-! # The boundary of the router

A document that can be read and has a handler is answered with a record of one member, or no unused
identifier was found; no other fault gets past the router, whatever the variables hold.  The member
is the field of the operation, or the root field of the document if the handler failed; for the
documents of the services the two are the same.

* `on_dispatch`, `on_dispatch_isFor` : what the router does with a document
* `dispatch_gives` : what it answers
* `Shop.Reachable.dispatch_outcome` : all outcomes of dispatching a document, and of serving it -/

namespace Storefront

open Text (Sendable)
open Act (Gives Within)
open Shop

/-! ### Reporting never fails -/

/-- The action succeeds in every state. -/
def Act.Succeeds {σ α : Type} (x : Act σ α) : Prop := ∀ s, ∃ a s', Act.on x s = (.ok a, s')

namespace Act.Succeeds

variable {σ α β : Type} {x : Act σ α} {f : α → Act σ β}

/-- To answer at once succeeds. -/
protected theorem pure (a : α) : Succeeds (pure a : Act σ α) := fun s => ⟨a, s, rfl⟩

/-- A check that passes succeeds. -/
protected theorem lift {e : Except Fault α} {a : α} (h : e = .ok a) :
    Succeeds (liftM e : Act σ α) := fun s => ⟨a, s, by rw [on_lift, h]⟩

/-- A sequence succeeds if both actions do. -/
protected theorem bind (hx : Succeeds x) (hf : ∀ a, Succeeds (f a)) : Succeeds (x >>= f) := by
  intro s
  obtain ⟨a, s₁, h⟩ := hx s
  rw [on_bind_of_ok h]
  exact hf a s₁

/-- What becomes of the answer makes no difference. -/
protected theorem map (g : α → β) (hx : Succeeds x) : Succeeds (g <$> x) := by
  intro s
  obtain ⟨a, s₁, h⟩ := hx s
  rw [on_map, h]
  exact ⟨g a, s₁, rfl⟩

/-- A list of actions succeeds if each of them does. -/
theorem mapM {as : List α} (h : ∀ a ∈ as, Succeeds (f a)) : Succeeds (as.mapM f) := by
  induction as with
  | nil => exact .pure []
  | cons a as ih =>
    obtain ⟨ha, has⟩ := List.forall_mem_cons.1 h
    rw [List.mapM_cons]
    exact ha.bind fun b => (ih has).bind fun bs => .pure _

end Act.Succeeds

namespace Answer

open Act (Succeeds)

/-- An error can always be reported, with a code of its own or one that is drawn. -/
theorem userError_succeeds (field message code : Value) :
    Succeeds (userError field message code) := by
  unfold userError
  extract_lets answer
  have hanswer : ∀ v, Succeeds (answer v) := fun _ => .pure _
  have drawn : Succeeds (supplied (Supply.draw 10000 20000)) := fun s => ⟨_, _, rfl⟩
  split
  · exact (drawn.map _).bind hanswer
  · exact hanswer code

/-- A failure can always be reported. -/
theorem failureError_succeeds (failure : Value) : Succeeds (failureError failure) := by
  unfold failureError
  split
  · exact .bind (.lift rfl) fun _ => .bind (.lift rfl) fun _ => userError_succeeds _ _ _
  · exact userError_succeeds _ _ _

/-- A fault can always be reported. -/
theorem faultErrors_succeeds (fault : Fault) : Succeeds (faultErrors fault) := by
  unfold faultErrors
  split
  · exact .mapM fun f _ => failureError_succeeds f
  · exact (userError_succeeds _ _ _).bind fun _ => .pure _

/-- What is not rejected is reported with a single error. -/
theorem on_faultErrors_single {fault : Fault} (h : fault.isRejection = false) (s : Shop) :
    ∃ e s', Act.on (faultErrors fault) s = (.ok [e], s') := by
  obtain ⟨e, s', reported⟩ := userError_succeeds "unknown" fault.message .null s
  refine ⟨e, s', ?_⟩
  rw [faultErrors, h, if_neg nofun, Act.on_bind_of_ok reported]
  rfl

end Answer

/-! ### Reading never fails but for lack of a body -/

/-- With a record as variables, reading a document fails only for lack of a body. -/
theorem Document.parse_record (document : Option String) (fields : List (Key × Value)) :
    (∃ p, Document.parse document (.record fields) = .ok p) ∨
      Document.parse document (.record fields) = .error .emptyDocument := by
  obtain ⟨fields', hfields⟩ : ∃ fields', (Value.record fields).orElse (.record []) =
      .record fields' := by
    cases fields <;> exact ⟨_, rfl⟩
  -- Without a line for the root there is no body.
  have body : ∀ type context vars lines, (∃ p, Document.readBody type context vars lines = .ok p) ∨
      Document.readBody type context vars lines = .error .emptyDocument := by
    intro type context vars lines
    cases lines with
    | nil => exact .inr rfl
    | cons root lines => exact .inl ⟨_, rfl⟩
  -- The entries of the directive are looked up one after the other, which never fails in a record.
  have context : ∀ line, ∃ c, Document.readContext line (.record fields') = .ok c := by
    intro line
    rw [Document.readContext]
    generalize Document.directiveEntries line = entries
    generalize ([] : List (String × Value)) = start
    induction entries generalizing start with
    | nil => exact ⟨start, rfl⟩
    | cons p entries ih =>
      rw [List.foldlM_cons]
      exact ih _
  rw [Document.parse, hfields]
  dsimp only
  split
  · exact .inl ⟨_, rfl⟩
  · split
    · exact .inr rfl
    · rename_i first rest _
      split
      · obtain ⟨c, hc⟩ := context first
        rw [hc]
        exact body _ _ _ _
      · exact body _ _ _ _

namespace Router

variable {strict : Prop}

/-! ### Handlers -/

/-- The handlers of a standard router are those of the operations. -/
theorem handler?_standard (factory : Option Factory) (signature : String) :
    (standard factory).handler? signature =
      (Operation.ofSignature? signature).map (ownHandler factory) := rfl

/-- The signatures that have a handler are those of the operations. -/
theorem mem_signatures_standard {factory : Option Factory} {signature : String} :
    Key.text signature ∈ (standard factory).signatures ↔
      ∃ o, Operation.ofSignature? signature = some o := by
  have own : (standard factory).signatures = Operation.all.map fun o => Key.text o.signature :=
    List.append_nil _
  rw [own, List.mem_map]
  constructor
  · rintro ⟨o, -, ho⟩
    exact ⟨o, by rw [← Key.text.inj ho, Operation.ofSignature?_signature]⟩
  · rintro ⟨o, ho⟩
    have found := List.find?_some ho
    exact ⟨o, o.mem_all, congrArg Key.text (of_decide_eq_true found)⟩

/-- What is answered for a fault under the name of a root field. -/
def refusal (root : String) (errors : List Value) : Value :=
  .ofFields [(root, .ofFields [("userErrors", .list errors)])]

/-- The name that a fault is answered under. -/
def refusalName (p : Document.Parsed) (signature : String) : String :=
  p.rootField.getD (signatureName signature)

/-- A document with a handler is answered by it; a fault of the handler is reported, unless it is
left to the caller. -/
theorem on_dispatch {r : Router} {document : Option String} {vars : Value} {p : Document.Parsed}
    {signature : String} {handler : Handler}
    (hp : Document.parse document (vars.orElse (.record [])) = .ok p)
    (hs : Document.signature? document = some signature)
    (hh : r.handler? signature = some handler) (s : Shop) :
    Act.on (r.dispatch document vars) s =
      match Act.on (handler (document.getD "") (vars.orElse (.record []))) s with
      | (.ok v, s') => (.ok (answerOf v), s')
      | (.error fault, s') =>
        if isHard fault then (.error fault, s')
        else ((Act.on (faultErrors fault) s').1.map fun errors =>
          some (refusal (refusalName p signature) errors), (Act.on (faultErrors fault) s').2) := by
  unfold dispatch
  dsimp only
  rw [hp]
  simp only [hs, hh]
  rw [Act.on_bind_of_ok (Act.on_lift _ s), Act.on_tryCatch, Act.on_map]
  -- The handler succeeds, or it fails with a fault that is left to the caller, or with one that is
  -- reported.
  rcases Act.on (handler (document.getD "") (vars.orElse (.record []))) s with ⟨fault | v, s'⟩
  · dsimp only [Except.map]
    cases hard : isHard fault with
    | true => rfl
    | false =>
      rw [if_neg nofun]
      exact Act.on_map (fun errors => some (refusal (refusalName p signature) errors))
        (faultErrors fault) s'
  · rfl

/-- Besides what the handler does, at most codes for errors are drawn. -/
theorem on_dispatch_redrawn {r : Router} {document : Option String} {vars : Value}
    {p : Document.Parsed} {signature : String} {handler : Handler}
    (hp : Document.parse document (vars.orElse (.record [])) = .ok p)
    (hs : Document.signature? document = some signature)
    (hh : r.handler? signature = some handler) (s : Shop) :
    Redrawn (Act.on (handler (document.getD "") (vars.orElse (.record []))) s).2
      (Act.on (r.dispatch document vars) s).2 := by
  rw [on_dispatch hp hs hh]
  -- Only reporting a fault goes on after the handler, and it draws an id for the report.
  rcases Act.on (handler (document.getD "") (vars.orElse (.record []))) s with ⟨fault | v, s'⟩
  · dsimp only
    split
    · exact Std.Refl.refl s'
    · exact Answer.faultErrors_redraws fault s'
  · exact Std.Refl.refl s'

/-- The signature of an operation has the handler of the operation. -/
theorem handler?_of_ofSignature? {factory : Option Factory} {signature : String} {o : Operation}
    (ho : Operation.ofSignature? signature = some o) :
    (standard factory).handler? signature = some (ownHandler factory o) := by
  rw [handler?_standard, ho]
  rfl

/-- A document that asks for an operation has its handler. -/
theorem handler?_of_ofDocument? (factory : Option Factory) {document : Option String}
    {o : Operation}
    (ho : Operation.ofDocument? document = some o) :
    ∃ signature, Document.signature? document = some signature ∧
      (standard factory).handler? signature = some (ownHandler factory o) := by
  obtain ⟨signature, hs, ho⟩ := Option.bind_eq_some_iff.1 ho
  exact ⟨signature, hs, handler?_of_ofSignature? ho⟩

/-- A document moves a shop along as the handler of its operation does. -/
theorem dispatch_within_of_operation {R : Shop → Shop → Prop} [Std.Refl R] [IsTrans Shop R]
    (redraws : ∀ s s', Redrawn s s' → R s s') {factory : Option Factory} {document : Option String}
    {vars : Value}
    (h : ∀ o, Operation.ofDocument? document = some o →
      Within R (ownHandler factory o (document.getD "") (vars.orElse (.record [])))) :
    Within R ((standard factory).dispatch document vars) := by
  refine dispatch_within_of_handler redraws fun signature handler hs hh => ?_
  rw [handler?_standard, Option.map_eq_some_iff] at hh
  obtain ⟨o, ho, rfl⟩ := hh
  exact h o (by rw [Operation.ofDocument?, hs]; exact ho)

/-- The answer of the router: that of the handler, or a report of its fault. -/
def IsReply (strict : Prop) (o : Operation) (root : String) (v : Value) : Prop :=
  o.IsAnswer strict v ∨ ∃ errors, errors ≠ [] ∧ v = refusal root errors ∧ v.Fit strict

/-- A reply is a record of one member, under the field of the operation or the root of the document.
-/
theorem IsReply.exists_single {o : Operation} {root : String} {v : Value}
    (h : IsReply strict o root v) : ∃ name payload, v = .ofFields [(name, payload)] ∧
      (name = o.field ∨ name = root) := by
  rcases h with h | ⟨errors, -, rfl, -⟩
  · obtain ⟨payload, rfl, -⟩ := h.single
    exact ⟨_, payload, rfl, .inl rfl⟩
  · exact ⟨root, _, rfl, .inr rfl⟩

/-- A mutation is replied to with a result or with errors; a fault that is reported has
no result. -/
theorem IsReply.exists_settled {o : Operation} {root result : String} {v : Value}
    (h : IsReply strict o root v) (ho : o.result? = some result) :
    ∃ name payload, v = .ofFields [(name, payload)] ∧ payload.Settled result := by
  rcases h with h | ⟨errors, hne, rfl, -⟩
  · obtain ⟨payload, rfl, settled⟩ := h.single
    exact ⟨_, payload, rfl, settled result ho⟩
  · have other : result ≠ "userErrors" := by
      rintro rfl
      cases o <;> simp [Operation.result?] at ho
    refine ⟨root, _, rfl, errors, rfl, iff_of_false ?_ hne⟩
    simp [Value.ofFields, Value.get?, Assoc.get?, other.symm, Value.isNull]

/-- A reply fits if its values do. -/
theorem IsReply.fit {o : Operation} {root : String} {v : Value} (h : IsReply strict o root v) :
    v.Fit strict := by
  rcases h with h | ⟨_, -, -, h⟩
  · exact h.fit
  · exact h

/-- A report of errors fits if they do. -/
theorem fit_refusal {root : String} (hroot : strict → IsMemberName root) {errors : List Value}
    (h : ∀ e ∈ errors, e.Fit strict) : (refusal root errors).Fit strict := fun hs =>
  Value.clean_single (hroot hs) (Value.clean_single (by decide) (.list fun e he => h e he hs))

/-- A tame fault that is left to the caller says that no identifier is left. -/
theorem eq_exhausted_of_isHard {fault : Fault} (h : fault.Tame strict)
    (hard : isHard fault = true) :
    fault = .exhausted := by
  cases fault with
  | emptyDocument => exact absurd rfl h.not_document
  | emptyPrefix => exact absurd rfl h.not_prefix
  | exhausted => rfl
  | _ => cases hard

/-- A document with a handler is answered, unless no identifier is left. -/
theorem dispatch_gives {factory : Option Factory}
    (hf : factory = none ∨ factory = some Factory.standard) {document : Option String}
    {vars : Value}
    (hv : (vars.orElse (.record [])).Fit strict) {p : Document.Parsed} {signature : String}
    {o : Operation} (hp : Document.parse document (vars.orElse (.record [])) = .ok p)
    (hs : Document.signature? document = some signature)
    (ho : Operation.ofSignature? signature = some o)
    (hplain : strict → o.Plain (vars.orElse (.record [])))
    (hroot : strict → IsMemberName (refusalName p signature)) {s : Shop} (h : Kept strict s) :
    Kept strict (Act.on ((standard factory).dispatch document vars) s).2 ∧
      ((Act.on ((standard factory).dispatch document vars) s).1 = .error .exhausted ∨
        ∃ v, (Act.on ((standard factory).dispatch document vars) s).1 = .ok (some v) ∧
          IsReply strict o (refusalName p signature) v) := by
  have handled := ownHandler_gives hf o (Answer.reads_of_parse hv hp) hv hplain s h
  rw [on_dispatch hp hs (handler?_of_ofSignature? ho)]
  rcases hr : Act.on (ownHandler factory o (document.getD "") (vars.orElse (.record []))) s with
    ⟨fault | v, s'⟩
  · rw [hr] at handled
    obtain ⟨kept, tame⟩ : Kept strict s' ∧ fault.Tame strict := handled
    dsimp only
    -- The fault is left to the caller: no identifier is left.
    split
    · rename_i hard
      exact ⟨kept, .inl (congrArg Except.error (eq_exhausted_of_isHard tame hard))⟩
    · -- The fault is reported, which never fails.
      obtain ⟨errors, s'', reported⟩ := Answer.faultErrors_succeeds fault s'
      have fit := Answer.faultErrors_gives tame s' kept
      rw [reported] at fit ⊢
      obtain ⟨kept, hne, hfit⟩ : Kept strict s'' ∧ errors ≠ [] ∧ ∀ e ∈ errors, e.Fit strict := fit
      exact ⟨kept, .inr ⟨_, rfl, .inr ⟨errors, hne, rfl, fit_refusal hroot hfit⟩⟩⟩
  · rw [hr] at handled
    obtain ⟨kept, answer⟩ : Kept strict s' ∧ o.IsAnswer strict v := handled
    obtain ⟨payload, rfl, -⟩ := answer.single
    exact ⟨kept, .inr ⟨_, rfl, .inl answer⟩⟩

/-- A document asks for an operation, or it has no signature that is one of an operation. -/
theorem asks_or_unknown (document : Option String) :
    (∃ signature o, Document.signature? document = some signature ∧
      Operation.ofSignature? signature = some o) ∨
    ∀ signature, Document.signature? document = some signature →
      Operation.ofSignature? signature = none := by
  cases hs : Document.signature? document with
  | none => exact .inr nofun
  | some signature =>
    cases ho : Operation.ofSignature? signature with
    | none => exact .inr fun _ h => Option.some.inj h ▸ ho
    | some o => exact .inl ⟨signature, o, rfl, ho⟩

/-- A document without a handler is not answered. -/
theorem on_dispatch_of_unknown {factory : Option Factory} {document : Option String} {vars : Value}
    {p : Document.Parsed} (hp : Document.parse document (vars.orElse (.record [])) = .ok p)
    (h : ∀ signature, Document.signature? document = some signature →
      Operation.ofSignature? signature = none) (s : Shop) :
    Act.on ((standard factory).dispatch document vars) s = (.ok none, s) := by
  unfold dispatch
  dsimp only
  rw [hp]
  -- The document asks for nothing, or for something no handler is registered under.
  cases hs : Document.signature? document with
  | none => rfl
  | some signature =>
    have handler : (standard factory).handler? signature = none := by
      rw [handler?_standard, h signature hs]
      rfl
    simp only [handler]
    rfl

/-- A document that cannot be read is not dispatched. -/
theorem on_dispatch_of_error {r : Router} {document : Option String} {vars : Value} {fault : Fault}
    (hp : Document.parse document (vars.orElse (.record [])) = .error fault) (s : Shop) :
    Act.on (r.dispatch document vars) s = (.error fault, s) := by
  unfold dispatch
  dsimp only
  rw [hp]
  rfl

end Router

/-! ### Shops that are ever reached -/

namespace Shop

/-- The action keeps a shop without values from outside. -/
def KeepsOwned {α : Type} (x : Act Shop α) : Prop := ∀ s, Kept False s → Kept False (Act.on x s).2

/-- What gives a shop of its own kind brings in nothing from outside. -/
theorem KeepsOwned.of_gives {α : Type} {x : Act Shop α} {P : α → Prop}
    (h : Gives (Kept False) False x P) : KeepsOwned x := fun s hs => (h s hs).1

/-- What is drawn changes no entity. -/
theorem KeepsOwned.of_draws {α : Type} {x : Act Shop α} (h : Act.Within Draws x) :
    KeepsOwned x := by
  intro s hs
  refine ⟨fun kind id e he => hs.owned kind id e ?_, fun hstrict => hstrict.elim⟩
  rwa [Draws.entity?_eq (h s)] at he

/-- What becomes of the answer makes no difference. -/
theorem KeepsOwned.discard {α : Type} {x : Act Shop α} (h : KeepsOwned x) :
    KeepsOwned (discard x) := fun s hs => by
  rw [Act.on_discard_snd]
  exact h s hs

/-- Nothing is asked of values here. -/
theorem fit_false (v : Value) : v.Fit False := fun h => h.elim

/-- A change of a cart brings in nothing from outside. -/
theorem CartEdit.run_keepsOwned (id country : Value) (e : CartEdit) :
    KeepsOwned (e.run id country) := by
  have fit := fit_false
  cases e with
  | addLines lines =>
    refine .of_gives (addLines_gives id (fit _) ((fit lines).elementsOrNone.mono ?_))
    exact fun ls hls l hl => ⟨hls l hl, ((hls l hl).member _).mono fun _ _ h => h.elim⟩
  | updateLines lines => exact .of_gives (updateLines_gives id (fit _) (fit _))
  | removeLines lineIds => exact .of_gives (removeLines_gives id (fit _) (fit _))
  | setNote note => exact .of_gives (setNote_gives id (fit _) (fit _))
  | setAttribute key value => exact .of_gives (setAttribute_gives id (fit _) (fit _) (fit _))
  | setDiscount codes => exact .of_gives (setDiscount_gives id (fit _) (fit _))

/-- A request for a cart brings in nothing from outside. -/
theorem CartRequest.run_keepsOwned (r : CartRequest) : KeepsOwned r.run := by
  have fit := fit_false
  cases r with
  | create country id =>
    exact .of_gives (P := fun _ => True)
      ((createCart_gives (fit country) fun h => h.elim).map fun _ _ => trivial)
  | get id country => exact .of_gives (getCart_gives id (fit _))
  | setCountry id country => exact .of_gives (setCountry_gives id (fit _))
  | edit id country e => exact CartEdit.run_keepsOwned id country e

/-- A request aside from carts brings in nothing from outside. -/
theorem SideRequest.run_keepsOwned (r : SideRequest) : KeepsOwned r.run := by
  have fit := fit_false
  have fitId : ∀ v, Gid.FitId False v := fun _ h => h.elim
  -- Each request is a function of the engine, whose own lemma says what it leaves and returns.
  cases r with
  | variant id make => exact .discard (.of_gives (variant_gives (fit _) make))
  | product id make => exact .discard (.of_gives (product_gives (fit _) make))
  | createPlan options id => exact .discard (.of_gives (createPlan_gives (fit _) (fitId _)))
  | getPlan id => exact .discard (.of_gives (plan?_gives id))
  | updatePlan id options => exact .discard (.of_gives (updatePlan_gives not_false id options))
  | deletePlan id => exact .discard (.of_gives (deletePlan_gives id))
  | createGroup options id =>
    exact .discard (.of_gives (createGroup_gives (fit _) (fitId _) fun h => h.elim))
  | getGroup id => exact .discard (.of_gives (group_gives id))
  | relate relation id ids =>
    refine .discard (.of_gives (relate_gives relation id ((fit ids).elementsOrNone.mono ?_)))
    exact fun vs hvs v hv => ⟨hvs v hv, fitId v⟩
  | deleteGroup id => exact .discard (.of_gives (deleteGroup_gives id))
  | listGroups start limit => exact .discard (.of_gives (groups_gives start limit))
  | connect owner id relation => exact .discard (.of_gives (connect_gives owner (fit _) relation))
  | disconnect owner id relation => exact .discard (.of_gives (disconnect_gives owner id relation))
  | connections owner relation => exact .discard (.of_gives (connections_gives owner relation))
  | freshId start => exact .discard (.of_draws (freshId_draws start))

/-- Dispatching a document brings in nothing from outside, whatever becomes of it. -/
theorem dispatch_keepsOwned {factory : Option Factory}
    (hf : factory = none ∨ factory = some Factory.standard) (document : Option String)
    (vars : Value) : KeepsOwned ((Router.standard factory).dispatch document vars) := by
  intro s hs
  cases hp : Document.parse document (vars.orElse (.record [])) with
  | error fault => rwa [Router.on_dispatch_of_error hp]
  | ok p =>
    rcases Router.asks_or_unknown document with ⟨signature, o, hsig, ho⟩ | unknown
    · exact (Router.dispatch_gives hf (fit_false _) hp hsig ho (fun h => h.elim) (fun h => h.elim)
        hs).1
    · rwa [Router.on_dispatch_of_unknown hp unknown]

/-- The factory that a router may have. -/
def factoryOf (hasFactory : Bool) : Option Factory :=
  if hasFactory then some Factory.standard else none

/-- A router has no factory, or the standard one. -/
theorem factoryOf_cases (hasFactory : Bool) :
    factoryOf hasFactory = none ∨ factoryOf hasFactory = some Factory.standard := by
  cases hasFactory
  · exact .inl rfl
  · exact .inr rfl

/-- The hook of a factory that a router may have makes a cart only where there is none. -/
theorem hook_within {R : Shop → Shop → Prop} [Std.Refl R] [IsTrans Shop R] (hasFactory : Bool)
    (make : ∀ country id s, Act.on (hasCart id) s = (.ok false, s) →
      R s (Act.on (createCart country id) s).2) :
    ∀ f ∈ factoryOf hasFactory, ∀ params, Within R (f.call (.text Factory.cartHook) params) := by
  intro f hf
  obtain none | some := factoryOf_cases hasFactory
  · rw [none] at hf; cases hf
  · obtain rfl := Option.some.inj (some.symm.trans hf)
    exact Answer.call_within make

/-- No request brings in anything from outside. -/
theorem ShopRequest.run_keepsOwned (r : ShopRequest) : KeepsOwned r.run := by
  cases r with
  | cart r => exact .discard (CartRequest.run_keepsOwned r)
  | hasCart id => exact .discard (.of_gives (hasCart_gives id))
  | emptyCart id country => exact .discard (.of_gives (emptyCart_gives id (fit_false _)))
  | side r => exact SideRequest.run_keepsOwned r
  | dispatch hasFactory document vars =>
    exact .discard (dispatch_keepsOwned (factoryOf_cases hasFactory) document vars)

/-- Nothing is ever put into a shop from outside. -/
theorem Reachable.kept {s : Shop} (h : Reachable s) : Kept False s := by
  induction h with
  | new context supply => exact ⟨owned_new context supply, fun h => h.elim⟩
  | request _ r ih => exact ShopRequest.run_keepsOwned r _ ih
  | @reset s _ _ => exact ⟨owned_new s.context s.supply, fun h => h.elim⟩
  | passage _ supply ih => exact ⟨ih.owned, fun h => h.elim⟩

/-! ### Outcomes -/

/-- Variables are a record, or none are given. -/
theorem orElse_of_vars {vars : Value} (h : vars.isNull = true ∨ vars.isRecord = true) :
    ∃ fields, vars.orElse (.record []) = .record fields := by
  cases vars with
  | null => exact ⟨[], rfl⟩
  | record fields => cases fields <;> exact ⟨_, rfl⟩
  | _ => simp [Value.isNull, Value.isRecord] at h

/-- Variables that are not there are an empty record. -/
theorem parse_orElse (document : Option String) (vars : Value) :
    Document.parse document (vars.orElse (.record [])) = Document.parse document vars := by
  have twice : (vars.orElse (.record [])).orElse (.record []) = vars.orElse (.record []) := by
    unfold Value.orElse
    split
    · rfl
    · rfl
  unfold Document.parse
  rw [twice]

section

variable {s : Shop} (h : Kept False s) {factory : Option Factory}
  (hf : factory = none ∨ factory = some Factory.standard) {vars : Value}
  (hvars : vars.isNull = true ∨ vars.isRecord = true) (document : Option String)

include h hf hvars

/-- The three ways of dispatching a document: it cannot be read, it has no handler, or it is
answered. -/
theorem dispatch_cases :
    Document.parse document vars = .error .emptyDocument ∧
        (Act.on ((Router.standard factory).dispatch document vars) s).1 = .error .emptyDocument ∨
      ∃ p, Document.parse document vars = .ok p ∧
        ((∀ signature, Document.signature? document = some signature →
            Operation.ofSignature? signature = none) ∧
          (Act.on ((Router.standard factory).dispatch document vars) s).1 = .ok none ∨
        ∃ signature o, Document.signature? document = some signature ∧
          Operation.ofSignature? signature = some o ∧
          ((Act.on ((Router.standard factory).dispatch document vars) s).1 = .error .exhausted ∨
            ∃ v, (Act.on ((Router.standard factory).dispatch document vars) s).1 = .ok (some v) ∧
              Router.IsReply False o (Router.refusalName p signature) v)) := by
  obtain ⟨fields, hfields⟩ := orElse_of_vars hvars
  -- The parse is of the variables with their default, and both are objects.
  rw [← parse_orElse]
  rcases Document.parse_record document fields with ⟨p, hp⟩ | hp <;> rw [← hfields] at hp
  · -- it parses: either a registered operation answers it or none does
    refine .inr ⟨p, hp, ?_⟩
    rcases Router.asks_or_unknown document with ⟨signature, o, hsig, ho⟩ | unknown
    · exact .inr ⟨signature, o, hsig, ho, (Router.dispatch_gives hf (fit_false _) hp hsig ho
        (fun h => h.elim) (fun h => h.elim) h).2⟩
    · exact .inl ⟨unknown, by rw [Router.on_dispatch_of_unknown hp unknown]⟩
  · -- it does not: only an empty document does that
    exact .inl ⟨hp, by rw [Router.on_dispatch_of_error hp]⟩

/-- Dispatching fails for lack of a body exactly if reading does. -/
theorem dispatch_eq_emptyDocument_iff :
    (Act.on ((Router.standard factory).dispatch document vars) s).1 = .error .emptyDocument ↔
      Document.parse document vars = .error .emptyDocument := by
  rcases dispatch_cases h hf hvars document with
    ⟨hp, hout⟩ | ⟨p, hp, ⟨-, hout⟩ | ⟨_, o, -, -, hout | ⟨v, hout, -⟩⟩⟩ <;> simp [hp, hout]

/-- A document that can be read is not answered exactly if its signature is not registered. -/
theorem dispatch_eq_none_iff {p : Document.Parsed} (hp : Document.parse document vars = .ok p) :
    (Act.on ((Router.standard factory).dispatch document vars) s).1 = .ok none ↔
      ∀ signature, Document.signature? document = some signature →
        Key.text signature ∉ (Router.standard factory).signatures := by
  simp only [Router.mem_signatures_standard]
  rcases dispatch_cases h hf hvars document with
    ⟨hp', -⟩ | ⟨p', hp', ⟨unknown, hout⟩ | ⟨signature, o, hs, ho, hout⟩⟩
  · cases hp'.symm.trans hp
  · simp only [hout, true_iff]
    rintro signature hs ⟨o, ho⟩
    cases (unknown signature hs).symm.trans ho
  · -- It is answered, and its signature is that of an operation.
    have answered : (Act.on ((Router.standard factory).dispatch document vars) s).1 ≠ .ok none := by
      rcases hout with hout | ⟨v, hout, -⟩ <;> simp [hout]
    simp only [answered, false_iff, not_forall]
    exact ⟨signature, hs, fun unknown => unknown ⟨o, ho⟩⟩

/-- Besides, a document is answered with a record of one member, or no identifier is left. -/
theorem dispatch_single :
    let outcome := (Act.on ((Router.standard factory).dispatch document vars) s).1
    outcome = .error .emptyDocument ∨ outcome = .ok none ∨ outcome = .error .exhausted ∨
      ∃ name payload, outcome = .ok (some (.ofFields [(name, payload)])) := by
  rcases dispatch_cases h hf hvars document with
    ⟨-, hout⟩ | ⟨p, -, ⟨-, hout⟩ | ⟨_, o, -, -, hout | ⟨v, hout, reply⟩⟩⟩
  · exact .inl hout
  · exact .inr (.inl hout)
  · exact .inr (.inr (.inl hout))
  · obtain ⟨name, payload, rfl, -⟩ := reply.exists_single
    exact .inr (.inr (.inr ⟨name, payload, hout⟩))

/-- A document that is sent for an operation is answered under the field of the operation, whether
its handler succeeds or fails. -/
theorem dispatch_document {o : Operation} {text : String} (hd : o.IsFor text) :
    let outcome := (Act.on ((Router.standard factory).dispatch (some text) vars) s).1
    outcome = .error .exhausted ∨ ∃ payload,
      outcome = .ok (some (.ofFields [(o.field, payload)])) := by
  obtain ⟨fields, hfields⟩ := orElse_of_vars hvars
  obtain ⟨p, hp, root, -⟩ := hd.parse hfields
  rcases dispatch_cases h hf hvars (some text) with
    ⟨hp', -⟩ | ⟨p', hp', ⟨unknown, -⟩ | ⟨signature, o', hs, ho, hout | ⟨v, hout, reply⟩⟩⟩
  · cases hp'.symm.trans hp
  · cases (unknown _ hd.signature).symm.trans o.ofSignature?_signature
  · exact .inl hout
  · obtain rfl := Except.ok.inj (hp'.symm.trans hp)
    obtain rfl := Option.some.inj (hs.symm.trans hd.signature)
    obtain rfl := Option.some.inj (ho.symm.trans o.ofSignature?_signature)
    -- The name that a fault is answered under is the field as well.
    have name : Router.refusalName p' o'.signature = o'.field := by
      rw [Router.refusalName, root, Option.getD_some]
    obtain ⟨n, payload, rfl, hn⟩ := reply.exists_single
    rw [name, or_self] at hn
    exact .inr ⟨payload, hn ▸ hout⟩

/-- Serving a document answers with data, or with errors. -/
theorem execute_single {text : String} : ∃ name payload, (name = "data" ∨ name = "errors") ∧
    (Act.on (Server.execute (.standard factory) ⟨text, vars⟩) s).1 =
      .ok (.ofFields [(name, payload)]) := by
  have outcome := dispatch_single h hf hvars (some text)
  unfold Server.execute
  rw [Act.on_bind, Act.on_tryCatch, Act.on_map]
  rcases hd : Act.on ((Router.standard factory).dispatch (some text) vars) s with
    ⟨fault | data, s'⟩ <;> rw [hd] at outcome
  · -- Either fault is one that is answered as an error.
    have reported : Server.isReported fault = true := by
      rcases outcome with hout | hout | hout | ⟨_, _, hout⟩ <;> cases hout <;> rfl
    dsimp only [Except.map]
    rw [if_pos reported]
    exact ⟨"errors", _, .inr rfl, rfl⟩
  · cases data with
    | none => exact ⟨"errors", _, .inr rfl, rfl⟩
    | some data => exact ⟨"data", data, .inl rfl, rfl⟩

end

/-- Dispatching a document in a shop that is ever reached fails for lack of a body exactly if
reading it does, and then in no other way; it gives nothing exactly if the signature of the document
is not registered; else it answers with a record of one member, unless no identifier is left.  For
the documents of the services, that member is the one that is read.  So serving a document always
answers, with either data or errors. -/
theorem Reachable.dispatch_outcome {s : Shop} (h : Reachable s) (hasFactory : Bool)
    (document : Option String) {vars : Value}
    (hvars : vars.isNull = true ∨ vars.isRecord = true) :
    let router := Router.standard (factoryOf hasFactory)
    let outcome := (Act.on (router.dispatch document vars) s).1
    (outcome = .error .emptyDocument ↔ Document.parse document vars = .error .emptyDocument) ∧
    (∀ p, Document.parse document vars = .ok p →
      (outcome = .ok none ↔ ∀ signature, Document.signature? document = some signature →
        Key.text signature ∉ router.signatures)) ∧
    (outcome = .error .emptyDocument ∨ outcome = .ok none ∨ outcome = .error .exhausted ∨
      ∃ name payload, outcome = .ok (some (.ofFields [(name, payload)]))) ∧
    (∀ (o : Operation) (allocation : String), document = some (o.document allocation) →
      outcome = .error .exhausted ∨
        ∃ payload, outcome = .ok (some (.ofFields [(o.field, payload)]))) ∧
    ∀ text, document = some text → ∃ name payload, (name = "data" ∨ name = "errors") ∧
      (Act.on (Server.execute router ⟨text, vars⟩) s).1 = .ok (.ofFields [(name, payload)]) := by
  -- The five parts are lemmas of their own about any router with the standard factory or none.
  have hf := factoryOf_cases hasFactory
  refine ⟨dispatch_eq_emptyDocument_iff h.kept hf hvars document,
    fun p hp => dispatch_eq_none_iff h.kept hf hvars document hp,
    dispatch_single h.kept hf hvars document, ?_, ?_⟩
  · rintro o allocation rfl
    exact dispatch_document h.kept hf hvars (o.isFor_document allocation)
  · rintro text rfl
    exact execute_single h.kept hf hvars

/-- In the sample shop, the document that sets a note is answered under its field even without
variables. -/
theorem Reachable.dispatch_outcome_sample :
    let outcome := (Act.on ((Router.standard (factoryOf false)).dispatch
      (some (Operation.cartNoteUpdate.document "")) .null) sample).1
    Reachable sample ∧ Value.null.isNull = true ∧
      (outcome = .error .exhausted ∨
        ∃ payload, outcome = .ok (some (.ofFields [("cartNoteUpdate", payload)]))) := by
  have outcomes := reachable_sample.dispatch_outcome false
    (some (Operation.cartNoteUpdate.document "")) (.inl (rfl : Value.null.isNull = true))
  exact ⟨reachable_sample, rfl, outcomes.2.2.2.1 .cartNoteUpdate "" rfl⟩

end Shop

/-- A document for an operation is answered by the handler of the operation; a fault is reported
under the field of the operation. -/
theorem Router.on_dispatch_isFor (factory : Option Factory) {o : Operation} {document : String}
    (hd : o.IsFor document) {vars : Value} {fields : List (Key × Value)}
    (given : vars.orElse (.record []) = .record fields) (s : Shop) :
    Act.on ((standard factory).dispatch (some document) vars) s =
      match Act.on (ownHandler factory o document (vars.orElse (.record []))) s with
      | (.ok v, s') => (.ok (answerOf v), s')
      | (.error fault, s') =>
        if isHard fault then (.error fault, s')
        else ((Act.on (faultErrors fault) s').1.map fun errors =>
          some (refusal o.field errors), (Act.on (faultErrors fault) s').2) := by
  obtain ⟨p, hp, hroot, -⟩ := hd.parse given
  -- The fault is reported under the field the document asks for.
  have name : refusalName p o.signature = o.field := by
    rw [refusalName, hroot, Option.getD_some]
  rw [← Shop.parse_orElse] at hp
  rw [on_dispatch hp hd.signature (handler?_of_ofSignature? o.ofSignature?_signature), name]
  rfl

end Storefront
