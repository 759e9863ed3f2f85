import Storefront.Proofs.Scripted
import Storefront.Proofs.ServiceCalls

/-! # Failures that say nothing

A call that answers with null has failed, and what went wrong is collected: what the
client remembers of the last request, what the payload of the answer reports, or that
something is missing.  Over a script of replies it follows from the last reply whether any
of this says something.

* `Exchange.isMute` : the replies of which nothing is collected that says something
* `Service.Tells` : what a service may collect while it acts
* `ServiceCall.silent_iff` : a call that failed is silent exactly if the last reply to it is mute -/

namespace Storefront

namespace Value

variable {v : Value}

/-- Nothing is under a name in what is falsy. -/
theorem under_of_falsy (h : v.truthy = false) (name : String) : v.under name = .null := by
  cases v with
  | record fields =>
    obtain rfl : fields = [] := by simpa using h
    rfl
  | _ => rfl

/-- An empty record stands for nothing: neither has anything under a name. -/
theorem under_orElse (v : Value) (name : String) :
    (v.orElse (.record [])).under name = v.under name := by
  by_cases truthy : v.truthy = true
  · have same : v.orElse (.record []) = v := if_pos truthy
    rw [same]
  · rw [Bool.not_eq_true] at truthy
    have empty : v.orElse (.record []) = .record [] := if_neg (by simp [truthy])
    rw [empty, under_of_falsy truthy]
    rfl

end Value

/-! ### Mute replies -/

/-- Whether the data of a response without errors report nothing.  For a group there may be
no data at all, or a payload all of whose errors are falsy; for a cart, a payload without
errors, or none. -/
def Operation.isMute (o : Operation) (data : Value) : Bool :=
  let payload := data.under o.field
  let errors := payload.under "userErrors"
  if o.isOnGroups then
    data.isNull ||
      (payload.truthy && (errors.elementsOrNone.toOption.getD []).all fun e => !e.truthy)
  else !errors.truthy

/-- Whether there is nothing to say about a reply to an operation.  There always is if a cart was
asked for that is not in the answer. -/
def Reply.isMute (maxDepth : Nat) (r : Reply) (o : Operation) : Bool :=
  o ≠ .cartGet && (r.isWordless || (r.data? maxDepth).any o.isMute)

/-- A reply with data came. -/
theorem Reply.isWordless_of_data? {maxDepth : Nat} {r : Reply} {data : Value}
    (h : r.data? maxDepth = some data) : r.isWordless = false := by
  rw [data?] at h
  split at h
  · exact Client.isWordless_of_responseOf ‹_›
  · cases h

/-- Whether there is nothing to say about the reply to a request. -/
def Exchange.isMute (maxDepth : Nat) (x : Exchange) : Bool :=
  x.request.operation?.any (x.reply.isMute maxDepth)

/-- Where there are no data, nothing is reported: not for a cart, not for a group. -/
theorem Operation.isMute_null (o : Operation) : o.isMute .null = true := by
  cases o <;> rfl

/-- A request with the document of an operation asks for that operation. -/
theorem Request.operation?_of_query {r : Request} {o : Operation} {allocation : String}
    (h : r.body.get? "query" = some (.text (Text.trim (o.document allocation)))) :
    r.operation? = some o := by
  have signature := (o.isFor_document allocation).trim.signature
  rw [operation?, h]
  show (Document.signature? _).bind Operation.ofSignature? = some o
  rw [signature]
  exact o.ofSignature?_signature

namespace Service

variable {o : Operation} {allocation : String} {vars a : Value} {v v₁ v' : Service}
  {recorded recorded₁ : List Value} {fresh fresh₁ : List Exchange}

/-! ### What is said of a request -/

/-- Nothing is remembered, and there is nothing to say about the last of the exchanges. -/
def Quiet (v : Service) (fresh : List Exchange) : Prop :=
  v.client.lastError.truthy = false ∧
    ∃ x ∈ fresh.getLast?, x.isMute v.client.network.depths.response = true

/-- A service after it asked for an operation. -/
structure Replied (o : Operation) (v : Service) (a : Value) (v' : Service)
    (fresh : List Exchange) : Prop where
  route : v'.client.network.route = v.client.network.route
  depths : v'.client.network.depths = v.client.network.depths
  sent : v'.client.network.sent = v.client.network.sent ++ fresh
  unsent : fresh = [] → v'.client.lastError.truthy = true
  errors : v'.errors = v.errors
  null : v'.client.lastError.truthy = true → a = .null
  quiet_iff : v'.Quiet fresh ↔
    v'.client.lastError.truthy = false ∧ o ≠ .cartGet ∧ o.isMute a = true

/-- Whether a service is quiet depends on the last exchange alone. -/
theorem quiet_concat {x : Exchange} (asked : x.request.operation? = some o)
    (earlier : List Exchange) : v.Quiet (earlier ++ [x]) ↔
      v.client.lastError.truthy = false ∧
        x.reply.isMute v.client.network.depths.response o = true := by
  have last : (earlier ++ [x]).getLast? = some x := List.getLast?_concat
  rw [Quiet, last]
  simp [Exchange.isMute, asked]

/-- Where nothing was exchanged, the service is not quiet. -/
theorem not_quiet_nil (v : Service) : ¬v.Quiet [] := by
  rintro ⟨-, x, none, -⟩
  cases none

/-- After the last of the exchanges for an operation. -/
theorem Replied.of_exchanged {c' : Client} {x : Exchange}
    (exchanged : v.client.network.Exchanged c'.network x)
    (asked : x.request.operation? = some o) (null : c'.lastError.truthy = true → a = .null)
    (mute : c'.lastError.truthy = false →
      (x.reply.isMute v.client.network.depths.response o = true ↔ o ≠ .cartGet ∧
        o.isMute a = true)) :
    ∃ fresh, Replied o v a { v with client := c' } fresh := by
  -- What was sent so far and the exchange make up what is sent now.
  obtain ⟨earlier, sent⟩ := exchanged.sent
  refine ⟨earlier ++ [x], exchanged.route, exchanged.depths, ?_, fun none => ?_, rfl, null, ?_⟩
  · rw [← List.append_assoc]
    exact sent
  · simp at none
  · -- The exchange is the last one, and it asked for this operation.
    rw [quiet_concat asked]
    show _ ∧ x.reply.isMute c'.network.depths.response o = true ↔ _
    rw [exchanged.depths]
    exact and_congr_right mute

/-- The answer to a request, or null if there was none, tells whether the service is quiet. -/
theorem replied_ask (scripted : v.client.network.route.IsScripted)
    (h : Act.on (ask (o.document allocation) vars) v = (.ok a, v')) :
    ∃ fresh, Replied o v a v' fresh := by
  rw [on_ask] at h
  rcases answered : Act.on (Client.ask (o.document allocation) vars) v.client with ⟨outcome, c'⟩
  rw [answered] at h
  obtain ⟨rfl, rfl⟩ := Prod.mk.inj h
  cases Client.ask_scripted scripted answered with
  -- The request could not be sent: that is remembered, and nothing was exchanged.
  | unsent route depths sent remembered =>
    refine ⟨[], route, depths, ?_, fun _ => remembered, rfl, fun _ => rfl, ?_⟩
    · rw [List.append_nil]
      exact sent
    · constructor
      · intro quiet
        exact absurd quiet (not_quiet_nil _)
      · rintro ⟨forgotten, -⟩
        cases remembered.symm.trans forgotten
  -- There was a response with data, and nothing is remembered.
  | answered exchanged query data forgotten =>
    apply Replied.of_exchanged exchanged (Request.operation?_of_query query)
    · intro truthy
      rw [forgotten] at truthy
      cases truthy
    · intro _
      have worded := Reply.isWordless_of_data? data
      simp [Reply.isMute, worded, data]
  | @refused _ x exchanged query data remembered =>
    apply Replied.of_exchanged exchanged (Request.operation?_of_query query)
    · intro _
      rfl
    · intro forgotten
      -- Nothing is remembered, so nothing was said about why there was no reply.
      have wordless : x.reply.isWordless = true := by
        simpa [forgotten] using remembered
      simp [Reply.isMute, wordless, Operation.isMute_null]

/-! ### What is collected -/

/-- The service after it recorded something. -/
def recording (v : Service) (log : List LogRecord) (recorded : List Value) : Service :=
  ⟨{ v.client with network := v.client.network.withLog log }, v.errors ++ recorded⟩

/-- A service after exchanges, and what it collected on the way. -/
structure Told (v v' : Service) (recorded : List Value) (fresh : List Exchange) : Prop where
  route : v'.client.network.route = v.client.network.route
  depths : v'.client.network.depths = v.client.network.depths
  sent : v'.client.network.sent = v.client.network.sent ++ fresh
  unsent : fresh = [] → v'.client.lastError.truthy = true
  silent_iff : (∀ e ∈ recorded, e.truthy = false) ↔ v'.Quiet fresh

/-- What a service recorded is told, if it says something exactly where there was something to say.
-/
theorem Replied.told (replied : Replied o v a v₁ fresh) (log : List LogRecord)
    (silent : (∀ e ∈ recorded, e.truthy = false) ↔
      v₁.client.lastError.truthy = false ∧ o ≠ .cartGet ∧ o.isMute a = true) :
    Told v (v₁.recording log recorded) recorded fresh where
  route := replied.route
  depths := replied.depths
  sent := replied.sent
  unsent := replied.unsent
  silent_iff := silent.trans replied.quiet_iff.symm

/-- The last exchange is one of those that came later, unless nothing was sent since. -/
theorem quiet_append (unsent : fresh = [] → v.client.lastError.truthy = true) :
    v.Quiet (fresh₁ ++ fresh) ↔ v.Quiet fresh := by
  rcases List.eq_nil_or_concat fresh with rfl | ⟨earlier, x, rfl⟩
  · -- A request that could not be sent is remembered, so neither side is quiet.
    have remembered := unsent rfl
    simp [Quiet, remembered]
  · simp [Quiet]

/-- What is told one after the other; only the last exchange counts. -/
theorem Told.trans (h : Told v v₁ recorded₁ fresh₁) (h' : Told v₁ v' recorded fresh) :
    Told v v' recorded (fresh₁ ++ fresh) where
  route := h'.route.trans h.route
  depths := h'.depths.trans h.depths
  sent := by rw [h'.sent, h.sent, List.append_assoc]
  unsent none := h'.unsent (List.append_eq_nil_iff.1 none).2
  silent_iff := h'.silent_iff.trans (quiet_append h'.unsent).symm

/-- Whatever an action answers, it told what it collected; `keeps` says whether the errors before it
are kept, `idle` whether it may leave the service as it is. -/
def Tells {α : Type} (keeps : Bool) (idle : Prop) (x : Act Service α) : Prop :=
  ∀ v a v', v.client.network.route.IsScripted → Act.on x v = (.ok a, v') →
    (idle ∧ v' = v) ∨ ∃ recorded fresh,
      v'.errors = (if keeps then v.errors else []) ++ recorded ∧ Told v v' recorded fresh

namespace Tells

variable {α β : Type} {keeps : Bool} {idle : Prop} {x : Act Service α} {f : α → Act Service β}

/-- What leaves the service alone tells nothing. -/
theorem of_still (hx : Act.Within Eq x) : Tells keeps True x := by
  intro v a v' _ h
  exact .inl ⟨trivial, (hx.of_on h).symm⟩

/-- To allow for idleness asks for less. -/
theorem weaken (hx : Tells keeps False x) : Tells keeps True x := by
  intro v a v' scripted h
  obtain ⟨⟨⟩, -⟩ | told := hx v a v' scripted h
  exact .inr told

/-- What leaves the service alone may come first. -/
theorem still_bind (hx : Act.Within Eq x) (hf : ∀ a, Tells keeps idle (f a)) :
    Tells keeps idle (x >>= f) := by
  intro v b v' scripted h
  obtain ⟨a, v₁, hv₁, ha⟩ := Act.on_bind_eq_ok.1 h
  obtain rfl := hx.of_on hv₁
  exact hf a v b v' scripted ha

/-- What leaves the service alone may come last. -/
theorem bind_still (hx : Tells keeps idle x) (hf : ∀ a, Act.Within Eq (f a)) :
    Tells keeps idle (x >>= f) := by
  intro v b v' scripted h
  obtain ⟨a, v₁, hv₁, ha⟩ := Act.on_bind_eq_ok.1 h
  obtain rfl := (hf a).of_on ha
  exact hx v a v₁ scripted hv₁

/-- What was collected before is gone when the second action has told something. -/
theorem bind (hx : Tells false idle x) (hf : ∀ a, Tells false True (f a)) :
    Tells false idle (x >>= f) := by
  intro v b v' scripted h
  obtain ⟨a, v₁, hv₁, ha⟩ := Act.on_bind_eq_ok.1 h
  obtain ⟨idle, rfl⟩ | ⟨recorded₁, fresh₁, errors₁, told₁⟩ := hx v a v₁ scripted hv₁
  · -- The first action left all as it was, so the second starts from `v`.
    obtain ⟨-, same⟩ | told := hf a v₁ b v' scripted ha
    · exact .inl ⟨idle, same⟩
    · exact .inr told
  · have scripted₁ : v₁.client.network.route.IsScripted := told₁.route ▸ scripted
    obtain ⟨-, rfl⟩ | ⟨recorded, fresh, errors, told⟩ := hf a v₁ b v' scripted₁ ha
    · exact .inr ⟨recorded₁, fresh₁, errors₁, told₁⟩
    · exact .inr ⟨recorded, fresh₁ ++ fresh, errors, told₁.trans told⟩

end Tells

/-! ### Calls for carts -/

/-- Whether what is collected of an answer says something. -/
theorem collected_silent_iff (lastError error : Value) :
    (∀ e ∈ collected lastError error, e.truthy = false) ↔
      lastError.truthy = false ∧ error.truthy = false := by
  -- The value collected is truthy when one of the two is.
  have chosen : (lastError.orElse error).truthy = (lastError.truthy || error.truthy) := by
    unfold Value.orElse
    cases truthy : lastError.truthy <;> simp [truthy]
  rw [collected]
  by_cases truthy : (lastError.orElse error).truthy = true
  · rw [if_pos truthy]
    simp [← Bool.or_eq_false_iff, ← chosen]
  · rw [if_neg truthy]
    rw [Bool.not_eq_true, chosen, Bool.or_eq_false_iff] at truthy
    simp [truthy]

/-- To collect an error records what is remembered or reported, whichever comes first, if anything.
-/
theorem exists_recording_collectError (o : Operation) (error : Value) (v : Service) : ∃ log,
    Act.on (collectError o error) v =
      (.ok (), v.recording log (collected v.client.lastError error)) := by
  unfold collectError collected recording
  rw [Act.on_bind_of_ok (Act.on_get v)]
  dsimp only
  split
  · exact ⟨_, rfl⟩
  · exact ⟨v.client.network.log, by rw [List.append_nil]; rfl⟩

/-- A mutation for a cart collects what is remembered, or else what the payload reports. -/
theorem tells_mutate (o : Operation) (hread : o ≠ .cartGet) (hcart : o.isOnGroups = false)
    (vars : Value) : Tells true False (mutate o (o.document "") vars) := by
  intro v w v' scripted h
  obtain ⟨a, v₁, asked, h⟩ := Act.on_bind_eq_ok.1 h
  obtain ⟨fresh, replied⟩ := replied_ask scripted asked
  obtain ⟨payload, hpayload, h⟩ := Act.on_lift_bind_eq_ok.1 h
  obtain ⟨errors, herrors, h⟩ := Act.on_lift_bind_eq_ok.1 h
  obtain ⟨log, collects⟩ := exists_recording_collectError o errors v₁
  rw [Act.on_bind_of_ok collects] at h
  -- What is left is to read the answer.
  obtain rfl : _ = v' := by
    refine Act.Within.of_on (R := Eq) ?_ h
    exact .bind (.lift _) fun _ => .bind (.lift _) fun _ => .lift _
  -- For carts the payload is under the field that is asked for.
  have reported : errors = (a.under o.field).under "userErrors" := by
    have root : o.root = o.field := by
      cases o <;> first | rfl | cases hcart
    rw [Value.member_eq_ok herrors, Value.under_orElse, Value.member_eq_ok hpayload,
      Value.under_orElse, root]
  refine .inr ⟨_, fresh, ?_, replied.told log ?_⟩
  · rw [if_pos rfl, ← replied.errors]
    rfl
  · rw [collected_silent_iff]
    simp [Operation.isMute, hcart, hread, reported]

section

variable {cartId country : Value}

/-- No cart is always a reason to say something. -/
theorem told_cart {withAllocation : Value} (scripted : v.client.network.route.IsScripted)
    (h : Act.on (cart cartId country withAllocation) v = (.ok .null, v')) :
    ∃ recorded fresh, v'.errors = v.errors ++ recorded ∧ Told v v' recorded fresh ∧
      ∃ e ∈ recorded, e.truthy = true := by
  obtain ⟨id, -, h⟩ := Act.on_lift_bind_eq_ok.1 h
  obtain ⟨a, v₁, asked, h⟩ := Act.on_bind_eq_ok.1 h
  obtain ⟨fresh, replied⟩ := replied_ask (o := .cartGet) scripted asked
  obtain ⟨cart, -, h⟩ := Act.on_lift_bind_eq_ok.1 h
  extract_lets done at h
  -- a cart was returned, so the answer is not null
  by_cases truthy : cart.truthy = true
  · rw [if_neg (by simp [truthy])] at h
    obtain ⟨answer, -⟩ := Prod.mk.inj h
    rw [Except.ok.inj answer] at truthy
    cases truthy
  · -- no cart: the service records that it was not found, and that text is not empty
    rw [if_pos (by simp [truthy])] at h
    obtain ⟨log, collects⟩ := exists_recording_collectError .cartGet
      (.text ("Cart " ++ cartId.display ++ " not found")) v₁
    rw [Act.on_bind_of_ok collects] at h
    obtain ⟨-, rfl⟩ := Prod.mk.inj h
    have said : (Value.text ("Cart " ++ cartId.display ++ " not found")).truthy = true := by
      rw [Value.truthy_text, decide_eq_true_iff]
      exact Text.append_ne_empty _ (by decide)
    have loud : ¬∀ e ∈ collected v₁.client.lastError
        (.text ("Cart " ++ cartId.display ++ " not found")), e.truthy = false := by
      rw [collected_silent_iff, said]
      simp
    refine ⟨_, fresh, ?_, replied.told log ?_, ?_⟩
    · rw [← replied.errors]
      rfl
    · simp [loud]
    · simpa using loud

/-- A mutation for a cart that is named in the request. -/
theorem tells_mutateCart (o : Operation) (hread : o ≠ .cartGet) (hcart : o.isOnGroups = false)
    (vars : Value → Value) :
    Tells true False (do mutate o (o.document "") (vars (← Gid.encodeValue cartId))) :=
  .still_bind (.lift _) fun _ => tells_mutate o hread hcart _

/-- To add lines tells what it collects. -/
theorem tells_addLines (lines planId : Value) :
    Tells true False (addLines cartId lines planId) := by
  refine .still_bind (.lift _) fun fields => ?_
  refine .still_bind (.mapM (fun _ => .lift _) fields) fun _ => ?_
  exact tells_mutateCart .cartLinesAdd (by decide) rfl _

/-- To update lines tells what it collects. -/
theorem tells_updateLines (lines : Value) : Tells true False (updateLines cartId lines) := by
  refine .still_bind (.lift _) fun fields => ?_
  refine .still_bind (.mapM (fun _ => .lift _) fields) fun _ => ?_
  exact tells_mutateCart .cartLinesUpdate (by decide) rfl _

/-- To remove lines tells what it collects. -/
theorem tells_removeLines (lineIds : Value) : Tells true False (removeLines cartId lineIds) := by
  refine .still_bind (.lift _) fun id => .still_bind (.lift _) fun vs => ?_
  refine .still_bind (.mapM (fun _ => .lift _) vs) fun _ => ?_
  exact tells_mutate .cartLinesRemove (by decide) rfl _

end

/-! ### Calls for groups -/

/-- What is collected of an answer that there was, or of none. -/
theorem exists_recording_askFor {p : Value} (hgroup : o.isOnGroups = true)
    (scripted : v.client.network.route.IsScripted)
    (h : Act.on (askFor (o.document "") vars o.field) v = (.ok p, v')) :
    ∃ a v₁ fresh, Replied o { v with errors := [] } a v₁ fresh ∧
      ∃ log recorded, v₁.recording log recorded = v' ∧ ((∀ e ∈ recorded, e.truthy = false) ↔
        v₁.client.lastError.truthy = false ∧ o.isMute a = true) := by
  unfold askFor at h
  rw [Act.on_bind_of_ok (Act.on_modify _ v)] at h
  obtain ⟨a, v₁, asked, h⟩ := Act.on_bind_eq_ok.1 h
  obtain ⟨fresh, replied⟩ := replied_ask (v := { v with errors := [] }) scripted asked
  refine ⟨a, v₁, fresh, replied, ?_⟩
  by_cases null : a.isNull = true
  · -- There is no answer, and what is remembered is collected, whatever it is.
    rw [if_pos null] at h
    refine ⟨v₁.client.network.log, [v₁.client.lastError], (Prod.mk.inj h).2, ?_⟩
    simp [Operation.isMute, hgroup, null]
  · -- With an answer there is no last error, or the answer would be null.
    have forgotten : v₁.client.lastError.truthy = false := by
      rw [← Bool.not_eq_true]
      intro truthy
      rw [replied.null truthy] at null
      exact null rfl
    rw [if_neg null] at h
    obtain ⟨payload, hpayload, h⟩ := Act.on_lift_bind_eq_ok.1 h
    obtain rfl := Value.member_eq_ok hpayload
    by_cases missing : (a.under o.field).truthy = true
    · rw [if_neg (by simp [missing])] at h
      extract_lets errors at h
      by_cases reported : errors.truthy = true
      · rw [if_pos reported] at h
        obtain ⟨es, hes, h⟩ := Act.on_lift_bind_eq_ok.1 h
        have all : ((a.under o.field).under "userErrors").elementsOrNone = .ok es := by
          rw [Value.elementsOrNone]
          exact (if_pos reported).trans hes
        -- The payload reports a list of errors.
        refine ⟨_, es, (Prod.mk.inj h).2, ?_⟩
        simp [Operation.isMute, hgroup, null, missing, forgotten, all, Except.toOption]
      · rw [if_neg reported] at h
        -- The payload reports none.
        have none : ((a.under o.field).under "userErrors").elementsOrNone = .ok [] :=
          if_neg reported
        refine ⟨v₁.client.network.log, [], ?_, ?_⟩
        · rw [recording, List.append_nil]
          exact (Prod.mk.inj h).2
        · simp [Operation.isMute, hgroup, missing, forgotten, none, Except.toOption]
    · -- The payload is missing, which is always said.
      rw [if_pos (by simp [missing])] at h
      refine ⟨v₁.client.network.log, [.text ("Missing " ++ o.field ++ " in response")],
        (Prod.mk.inj h).2, ?_⟩
      have said : "Missing " ++ o.field ++ " in response" ≠ "" :=
        Text.append_ne_empty _ (by decide)
      simp [Operation.isMute, hgroup, null, missing, said]

/-- To ask for something of groups tells what it collects; what was collected before is dropped. -/
theorem tells_askFor (o : Operation) (hgroup : o.isOnGroups = true) (vars : Value) :
    Tells false False (askFor (o.document "") vars o.field) := by
  -- A question about groups is not one about a cart.
  have hread : o ≠ .cartGet := by
    rintro rfl
    cases hgroup
  intro v p v' scripted h
  obtain ⟨a, v₁, fresh, replied, log, recorded, rfl, silent⟩ :=
    exists_recording_askFor hgroup scripted h
  -- What is recorded and what is silent follow from the reply alone.
  have told : Told { v with errors := [] } (v₁.recording log recorded) recorded fresh :=
    replied.told log (by simpa [hread] using silent)
  refine .inr ⟨recorded, fresh, ?_, told.route, told.depths, told.sent, told.unsent,
    told.silent_iff⟩
  show v₁.errors ++ recorded = [] ++ recorded
  rw [replied.errors]

/-- Attaching entities to a group. -/
theorem tells_relate (o : Operation) (hgroup : o.isOnGroups = true) (vars : List Value → Value)
    (start : String) (ids : Value) : Tells false False (do
      let payload ← askFor (o.document "") (vars (← normalisedIds start ids)) o.field
      memberOfAnswer payload "sellingPlanGroup") :=
  .still_bind (.lift _) fun _ => .bind_still (tells_askFor o hgroup _) fun _ => .lift _

variable {groupId ids : Value}

/-- To attach products tells what it collects. -/
theorem tells_addProducts : Tells false False (addProducts groupId ids) :=
  tells_relate .groupAddProducts rfl _ _ ids

/-- To attach variants tells what it collects. -/
theorem tells_addProductVariants : Tells false False (addProductVariants groupId ids) :=
  tells_relate .groupAddProductVariants rfl _ _ ids

/-- To make a group tells what is collected by the last request that was made for it. -/
theorem tells_createGroup (options : Value) : Tells false False (createGroup options) := by
  refine .still_bind (.lift _) fun input => ?_
  refine .bind (tells_askFor .groupCreate rfl _) fun payload => ?_
  refine .still_bind (.lift _) fun group => ?_
  split
  · exact .of_still (.pure _)
  · refine .still_bind (.lift _) fun id => .still_bind (.lift _) fun productIds => ?_
    extract_lets done withVariants
    -- What is left to do once the products are attached.
    have variants : Tells false True (withVariants ()) := by
      refine .still_bind (.lift _) fun variantIds => ?_
      split
      · refine .bind (tells_addProductVariants.weaken) fun _ => ?_
        split
        · exact .of_still (.pure _)
        · exact .of_still (.pure _)
      · exact .of_still (.pure _)
    split
    · refine .bind (tells_addProducts.weaken) fun _ => ?_
      split
      · exact .of_still (.pure _)
      · exact variants
    · exact variants

/-- To remove a group tells what it collects. -/
theorem tells_removeGroup : Tells false False (removeGroup groupId) := by
  refine .still_bind (.lift _) fun id => ?_
  exact .bind_still (tells_askFor .groupDelete rfl _) fun _ => .lift _

/-- To read a group tells what it collects. -/
theorem tells_group : Tells false False (group groupId) :=
  .still_bind (.lift _) fun _ => tells_askFor .groupGet rfl _

end Service

/-! ### Calls -/

namespace ServiceCall

open Service

/-- Whether the answer is null exactly if the call failed. -/
def failsWithNull : ServiceCall → Bool
  | cartExists .. | checkoutUrl .. | emptyCart .. | groups .. => false
  | _ => true

/-- Whether what earlier calls collected is kept. -/
def keepsErrors : ServiceCall → Bool
  | createGroup .. | addProducts .. | addProductVariants .. | removeGroup .. | group ..
  | groups .. => false
  | _ => true

variable {call : ServiceCall} {v v' : Service}

/-- Every call that answers with null where it fails tells what it collects. -/
theorem tells_run (h : call.failsWithNull = true) (hread : ∀ cartId country withAllocation,
    call ≠ cart cartId country withAllocation) : Tells call.keepsErrors False call.run := by
  -- Every call that can fail with null asks one question; what comes before it only reads the
  -- arguments.
  cases call with
  | newCart country => exact tells_mutate .cartCreate (by decide) rfl _
  | setBuyerIdentity cartId country identity =>
    refine .still_bind (.lift _) fun _ => .still_bind (.lift _) fun _ => ?_
    exact tells_mutate .cartBuyerIdentityUpdate (by decide) rfl _
  | cart cartId country withAllocation => exact absurd rfl (hread _ _ _)
  | cartExists cartId country => cases h
  | checkoutUrl cartId country => cases h
  | addLines cartId lines planId => exact tells_addLines lines planId
  | addLine cartId variant line planId =>
    exact .still_bind (.lift _) fun _ => tells_addLines _ planId
  | updateLines cartId lines => exact tells_updateLines lines
  | updateLine cartId lineId line => exact .still_bind (.lift _) fun _ => tells_updateLines _
  | removeLines cartId lineIds => exact tells_removeLines lineIds
  | removeLine cartId lineId => exact tells_removeLines _
  | emptyCart cartId country => cases h
  | setNote cartId note => exact tells_mutateCart .cartNoteUpdate (by decide) rfl _
  | setAttribute cartId key value => exact tells_mutateCart .cartAttributesUpdate (by decide) rfl _
  | setDiscountCodes cartId codes =>
    refine .still_bind (.lift _) fun _ => .still_bind (.lift _) fun _ => ?_
    exact tells_mutate .cartDiscountCodesUpdate (by decide) rfl _
  | createGroup options => exact tells_createGroup options
  | addProducts groupId productIds => exact tells_addProducts
  | addProductVariants groupId variantIds => exact tells_addProductVariants
  | removeGroup groupId => exact tells_removeGroup
  | group groupId => exact tells_group
  | groups first offset => cases h

/-- Over any script of replies, a call that failed collected nothing that says anything exactly if
the client remembers no error and the last reply to the call is mute. -/
theorem silent_iff (hcall : call.failsWithNull = true)
    (scripted : v.client.network.route.IsScripted)
    (h : Act.on call.run v = (.ok .null, v')) : ∃ recorded fresh,
      v'.errors = (if call.keepsErrors then v.errors else []) ++ recorded ∧
        v'.client.network.sent = v.client.network.sent ++ fresh ∧
        ((∀ e ∈ recorded, e.truthy = false) ↔ v'.Quiet fresh) := by
  -- What is collected when a cart is read depends on the answer, which `Tells` leaves open.
  by_cases hread : ∃ cartId country withAllocation, call = cart cartId country withAllocation
  · obtain ⟨cartId, country, withAllocation, rfl⟩ := hread
    obtain ⟨recorded, fresh, errors, told, -⟩ := told_cart scripted h
    exact ⟨recorded, fresh, errors, told.sent, told.silent_iff⟩
  · have tells := tells_run hcall fun cartId country withAllocation same =>
      hread ⟨cartId, country, withAllocation, same⟩
    obtain ⟨⟨⟩, -⟩ | ⟨recorded, fresh, errors, told⟩ := tells v .null v' scripted h
    exact ⟨recorded, fresh, errors, told.sent, told.silent_iff⟩

/-- A cart that is not read is never passed over in silence. -/
theorem cart_never_silent {cartId country withAllocation : Value}
    (scripted : v.client.network.route.IsScripted)
    (h : Act.on (cart cartId country withAllocation).run v = (.ok .null, v')) :
    ∃ recorded, v'.errors = v.errors ++ recorded ∧ ∃ e ∈ recorded, e.truthy = true := by
  obtain ⟨recorded, -, errors, -, loud⟩ := told_cart scripted h
  exact ⟨recorded, errors, loud⟩

/-- What is sent to make a cart in the sample. -/
def sampleVars : Value :=
  .ofFields [("input", .ofFields [("buyerIdentity", .ofFields [("countryCode", "IE")])])]

/-- The call to make a cart. -/
def sampleCreation : ServiceCall := newCart "IE"

/-- The data of a reply that has nothing for the mutation. -/
def unansweredData : Value := .ofFields [("cartCreate", .null)]

/-- The call that makes a cart is silent if its payload is null. -/
theorem exists_on_sampleCreation {c' : Client} (forgotten : c'.lastError = .null)
    (answered : Act.on (Client.ask (.text Document.cartCreate) sampleVars) v.client =
      (.ok unansweredData, c')) :
    ∃ v', Act.on sampleCreation.run v = (.ok .null, v') ∧ v'.errors = v.errors := by
  -- The service asks its client and keeps what the client became.
  have asked : Act.on (ask Document.cartCreate sampleVars) v =
      (.ok unansweredData, { v with client := c' }) := by
    rw [on_ask, answered]
  obtain ⟨log, collects⟩ := exists_recording_collectError .cartCreate .null { v with client := c' }
  refine ⟨recording { v with client := c' } log [], ?_, List.append_nil _⟩
  show Act.on (mutate .cartCreate Document.cartCreate sampleVars) v = _
  rw [mutate, Act.on_bind_of_ok asked]
  -- The reply has the field with null under it, so there is neither a cart nor an error.
  have payload : unansweredData.member Operation.cartCreate.root = .ok .null := rfl
  have errors : (Value.record []).member "userErrors" = .ok .null := rfl
  have none : collected c'.lastError .null = [] := by rw [forgotten]; rfl
  have data : unansweredData.orElse (.record []) = unansweredData := rfl
  rw [data]
  dsimp only
  rw [payload, Act.on_bind_of_ok (Act.on_lift _ _)]
  have empty : Value.null.orElse (.record []) = .record [] := rfl
  rw [empty, errors, Act.on_bind_of_ok (Act.on_lift _ _), Act.on_bind_of_ok collects, none]
  rfl

/-- A context whose requests all go to one address, without a token. -/
def unansweredContext : Context := ⟨"", "", .null, .null, "http://shop"⟩

/-- A cart service over a script of one reply, whose data has nothing for the mutation. -/
def unanswered : Service :=
  .new { Network.new (.new unansweredContext (.fresh 0 0 [])) (.standard none) .single .normal with
    script := [.json (.ofFields [("data", unansweredData)])] } true

/-- The request to make the cart can be sent. -/
theorem exists_requestOf_sampleCreation : ∃ r, Network.requestOf unanswered.client.network.route
    unanswered.client.url unanswered.client.headers
    (Client.bodyOf Document.cartCreate (sampleVars.orElse (.record [])))
    Settings.standard.timeout = .ok r := by
  -- Every text of the request can be written as bytes.
  have document : Text.Sendable (Operation.cartCreate.document "").toList :=
    Operation.cartCreate.sendable_document (by decide)
  have vars : sampleVars.Clean := Value.clean_single (by decide) (Value.clean_single (by decide)
    (Value.clean_single (by decide) (.text (by decide))))
  have body : (Network.arriving (Client.bodyOf Document.cartCreate sampleVars)).toBool = true := by
    have sent : Json.sent (Client.bodyOf Document.cartCreate sampleVars) =
        .ok (Client.bodyOf Document.cartCreate sampleVars) :=
      (Client.clean_bodyOf (Text.sendable_trim document) vars).sent_eq
    rw [Network.arriving, sent]
    rfl
  -- The site the service stands on is a good address.
  have url : (Network.urlOf (Network.siteOf unanswered.client.network.route)
      unanswered.client.url).toBool = true := by decide +kernel
  exact Network.exists_requestOf url (by decide +kernel) body _

/-- The call fails over the one reply of the script, and nothing is collected. -/
theorem exists_run_sampleCreation :
    ∃ v', Act.on sampleCreation.run unanswered = (.ok .null, v') ∧ v'.errors = [] := by
  have route : unanswered.client.network.route.IsScripted := .inr rfl
  have script : unanswered.client.network.script =
    .json (.ofFields [("data", unansweredData)]) :: [] := rfl
  have data : (Reply.json (.ofFields [("data", unansweredData)])).data?
      unanswered.client.network.depths.response = some unansweredData := rfl
  obtain ⟨c', answered, forgotten⟩ : ∃ c',
      Act.on (Client.ask (.text Document.cartCreate) sampleVars) unanswered.client =
        (.ok unansweredData, c') ∧ c'.lastError = .null :=
    Client.ask_json route script data exists_requestOf_sampleCreation
  exact exists_on_sampleCreation forgotten answered

/-- The theorem applies to the call of the sample. -/
theorem silent_iff_sample : sampleCreation.failsWithNull = true ∧
    unanswered.client.network.route.IsScripted ∧
    ∃ v', Act.on sampleCreation.run unanswered = (.ok .null, v') ∧ ∃ recorded fresh,
      v'.errors = unanswered.errors ++ recorded ∧
        v'.client.network.sent = unanswered.client.network.sent ++ fresh ∧
        ((∀ e ∈ recorded, e.truthy = false) ↔ v'.Quiet fresh) := by
  obtain ⟨v', failed, -⟩ := exists_run_sampleCreation
  exact ⟨rfl, .inr rfl, v', failed, silent_iff rfl (.inr rfl) failed⟩

/-- A payload that is null makes a call fail, and nothing is collected. -/
theorem failure_may_be_silent : ¬∀ (call : ServiceCall) (v v' : Service),
    call.failsWithNull = true → v.client.network.route.IsScripted →
      Act.on call.run v = (.ok .null, v') → ∃ e ∈ v'.errors, e.truthy = true := by
  intro loud
  obtain ⟨v', failed, none⟩ := exists_run_sampleCreation
  obtain ⟨e, he, -⟩ := loud sampleCreation unanswered v' rfl (.inr rfl) failed
  rw [none] at he
  cases he

end ServiceCall

end Storefront
