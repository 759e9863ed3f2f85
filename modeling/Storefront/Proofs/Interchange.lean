import Storefront.Proofs.Serving
import Storefront.Service.Groups

/-! # Two ways to one shop

Two services of one shop are paired if one asks the router itself and the other asks a server in
front of it.  Given clean data, an action on paired services answers the same and leaves them
paired: `Agree` says so of an action, and there is one rule for each way of making an action.
That they agree about asking for a document is where the way to the shop counts; all else
follows from it.

* `Paired` : services that differ in their way to the shop
* `Agree.bind`, `Agree.mapM`, `Agree.lift` : actions made of actions
* `ask_agrees`, `mutate_agrees`, `askFor_agrees` : documents -/

namespace Storefront.Service

open Shop
open Text (Sendable)

/-- Two services of one shop: the first asks the router itself, the second a server in front of it
that its requests reach.  They collected as many errors, and remember an error either both or
neither. -/
structure Paired (v v' : Service) : Prop where
  shop : v'.client.network.shop = v.client.network.shop
  router : ∃ hasFactory, v.client.network.router = .standard (factoryOf hasFactory)
  sameRouter : v'.client.network.router = v.client.network.router
  inProcess : v.client.network.route = .inProcess
  server : v'.client.network.route = .server
  reaches : v'.client.Reaches
  remembered : v'.client.lastError.truthy = v.client.lastError.truthy
  collected : v'.errors.length = v.errors.length

variable {v v' v₁ v₁' : Service} {s : Shop}

/-- Services stay paired when their shop was moved on. -/
theorem Paired.moved (h : Paired v v') (hm : v.client.Moved v₁.client s)
    (hm' : v'.client.Moved v₁'.client s) (hcontext : s.context = v.client.network.shop.context)
    (hremembered : v₁'.client.lastError.truthy = v₁.client.lastError.truthy)
    (hcollected : v₁'.errors.length = v₁.errors.length) : Paired v₁ v₁' where
  shop := hm'.shop.trans hm.shop.symm
  router := hm.router ▸ h.router
  sameRouter := (hm'.router.trans h.sameRouter).trans hm.router.symm
  inProcess := hm.route.trans h.inProcess
  server := hm'.route.trans h.server
  reaches := h.reaches.congr (by rw [hm'.shop, hcontext, h.shop]) hm'.storefront
  remembered := hremembered
  collected := hcollected

/-- Two runs with the same outcome, which satisfies `P` if it is an answer: they leave services that
are paired, of a shop with clean data. -/
structure Matched {α : Type} (P : α → Prop) (r r' : Except Fault α × Service) : Prop where
  outcome : r'.1 = r.1
  answer : ∀ a, r.1 = .ok a → P a
  paired : Paired r.2 r'.2
  kept : Kept True r.2.client.network.shop

/-- The action runs the same on paired services of a shop with clean data. -/
def Agree {α : Type} (x : Act Service α) (P : α → Prop) : Prop :=
  ∀ v v', Paired v v' → Kept True v.client.network.shop → Matched P (Act.on x v) (Act.on x v')

namespace Agree

variable {α β : Type} {x : Act Service α} {f : α → Act Service β} {P : α → Prop} {Q : β → Prop}

/-- Checks touch no service. -/
protected theorem lift {e : Except Fault α} (h : ∀ a, e = .ok a → P a) : Agree (liftM e) P :=
  fun _ _ paired kept => ⟨rfl, h, paired, kept⟩

/-- What yields a value with the property agrees about it. -/
theorem of_yields {e : Except Fault α} (h : Yields True e P) : Agree (liftM e) P := by
  refine .lift fun a ha => ?_
  subst ha
  exact h

/-- Returning a value agrees about it. -/
protected theorem pure {a : α} (h : P a) : Agree (pure a) P :=
  Agree.lift fun _ ha => Except.ok.inj ha ▸ h

/-- One action after the other: the second starts from services that are still paired. -/
protected theorem bind (hx : Agree x P) (hf : ∀ a, P a → Agree (f a) Q) : Agree (x >>= f) Q := by
  intro v v' paired kept
  obtain ⟨outcome, answer, paired₁, kept₁⟩ := hx v v' paired kept
  rw [Act.on_bind, Act.on_bind]
  generalize Act.on x v = r, Act.on x v' = r' at *
  obtain ⟨fault | a, v₁⟩ := r <;> obtain ⟨_, v₁'⟩ := r' <;> obtain rfl := outcome
  · exact ⟨rfl, nofun, paired₁, kept₁⟩
  · exact hf a (answer a rfl) v₁ v₁' paired₁ kept₁

/-- What is made of an answer afterwards changes nothing of the services. -/
protected theorem map {g : α → β} (h : Agree x fun _ => True) : Agree (g <$> x) fun _ => True := by
  rw [map_eq_pure_bind]
  exact h.bind fun _ _ => .pure trivial

/-- Less may be said of the answers. -/
theorem mono {P' : α → Prop} (h : Agree x P) (hP : ∀ a, P a → P' a) : Agree x P' :=
  fun v v' paired kept =>
    have m := h v v' paired kept
    ⟨m.outcome, fun a ha => hP a (m.answer a ha), m.paired, m.kept⟩

/-- Actions one after the other, each of which agrees. -/
theorem mapM {as : List α} (h : ∀ a ∈ as, Agree (f a) Q) :
    Agree (as.mapM f) fun bs => ∀ b ∈ bs, Q b := by
  induction as with
  | nil => exact .pure fun _ hb => absurd hb List.not_mem_nil
  | cons a as ih =>
    obtain ⟨ha, has⟩ := List.forall_mem_cons.1 h
    rw [List.mapM_cons]
    exact ha.bind fun b hb => (ih has).bind fun bs hbs => .pure (List.forall_mem_cons.2 ⟨hb, hbs⟩)

end Agree

/-! ### Errors -/

/-- Both services collect as many errors more. -/
theorem collect_agrees (errors : List Value) : Agree (collect errors) fun _ => True := by
  intro v v' paired kept
  refine ⟨rfl, fun _ _ => trivial, { paired with collected := ?_ }, kept⟩
  change (v'.errors ++ errors).length = (v.errors ++ errors).length
  rw [List.length_append, List.length_append, paired.collected]

/-- Forgetting the errors leaves both services without any. -/
theorem clearErrors_agrees :
    Agree (modify fun v => { v with errors := [] } : Act Service Unit) fun _ => True := by
  intro v v' paired kept
  exact ⟨rfl, fun _ _ => trivial, { paired with collected := rfl }, kept⟩

/-- What is remembered may not be the same, but is collected as one error in either case. -/
theorem collectRemembered_agrees :
    Agree (do collect [(← get).client.lastError]) fun _ => True := by
  intro v v' paired kept
  refine ⟨rfl, fun _ _ => trivial, { paired with collected := ?_ }, kept⟩
  change (v'.errors ++ [v'.client.lastError]).length = (v.errors ++ [v.client.lastError]).length
  rw [List.length_append, List.length_append, paired.collected]
  rfl

/-- A record in the log is not part of what is compared. -/
theorem record_agrees (severity : Severity) (message : String) (details : List (String × Value)) :
    Agree (inNetwork (Network.record severity message details)) fun _ => True := by
  intro v v' paired kept
  exact ⟨rfl, fun _ _ => trivial, paired.moved ⟨rfl, rfl, rfl, rfl⟩
    ⟨paired.shop, rfl, rfl, rfl⟩ rfl paired.remembered paired.collected, kept⟩

/-- How much is collected depends on whether an error is remembered, not on which one. -/
theorem length_collected {e e' : Value} (h : e'.truthy = e.truthy) (error : Value) :
    (collected e' error).length = (collected e error).length := by
  cases he : e.truthy with
  | true =>
    rw [collected_of_truthy he, collected_of_truthy (h.trans he), List.length_singleton]; rfl
  | false => simp [collected, Value.orElse, h, he]

/-- An error is collected in the same cases, whether it is the one that is remembered or not. -/
theorem collectError_agrees (o : Operation) (error : Value) :
    Agree (collectError o error) fun _ => True := by
  intro v v' paired kept
  obtain ⟨v₁, done, moved, remembered, errors⟩ := on_collectError o error v
  obtain ⟨v₁', done', moved', remembered', errors'⟩ := on_collectError o error v'
  rw [paired.shop] at moved'
  rw [done, done']
  refine ⟨rfl, fun _ _ => trivial, paired.moved moved moved' rfl ?_ ?_, moved.shop ▸ kept⟩
  · rw [remembered, remembered', paired.remembered]
  · rw [errors, errors', List.length_append, List.length_append, paired.collected,
      length_collected paired.remembered]

/-! ### Documents -/

/-- What the services send with clean variables is answered with a clean record of one member,
unless no identifier is left. -/
theorem dispatch_document (hasFactory : Bool) (o : Operation) (allocation : String)
    {fields : List (Key × Value)} (hfields : (Value.record fields).Clean)
    (hplain : o.Plain (.record fields)) (h : Kept True s) :
    let r := Act.on ((Router.standard (factoryOf hasFactory)).dispatch
      (some (o.document allocation)) (.record fields)) s
    Kept True r.2 ∧ r.2.context = s.context ∧ (r.1 = .error .exhausted ∨
      ∃ payload, r.1 = .ok (some (.ofFields [(o.field, payload)])) ∧
        (Value.ofFields [(o.field, payload)]).Clean) := by
  have hf := factoryOf_cases hasFactory
  have isFor := o.isFor_document allocation
  have given := Value.orElse_record fields
  obtain ⟨p, hp, hroot, -⟩ := isFor.parse given
  have root : Router.refusalName p o.signature = o.field := by rw [Router.refusalName, hroot]; rfl
  -- The variables are those of a request, so no default takes their place.
  have clean : ((Value.record fields).orElse (.record [])).Fit True := fun _ => by rwa [given]
  have plain : True → o.Plain ((Value.record fields).orElse (.record [])) := fun _ => by rwa [given]
  rw [← given] at hp
  obtain ⟨kept, answered⟩ := Router.dispatch_gives hf clean hp isFor.signature
    (Operation.ofSignature?_signature o) plain (fun _ => root ▸ o.isMemberName_field) h
  -- What is answered has one field, under the name of the operation, and no reply is left over.
  refine ⟨kept, (Router.dispatch_steps hf _ _ s).context_eq, answered.imp_right ?_⟩
  rintro ⟨data, hdata, reply⟩
  obtain ⟨name, payload, rfl, hname⟩ := reply.exists_single
  obtain rfl : name = o.field := hname.elim id (·.trans root)
  exact ⟨payload, hdata, Router.IsReply.fit reply trivial⟩

/-- Both services were answered, and their shop was left the same. -/
theorem Matched.of_moved {x : Act Service Value} {P : Value → Prop} {a : Value}
    (paired : Paired v v') (hx : Act.on x v = (.ok a, v₁)) (hx' : Act.on x v' = (.ok a, v₁'))
    (moved : v.Moved v₁ s) (moved' : v'.Moved v₁' s)
    (hcontext : s.context = v.client.network.shop.context) (kept : Kept True s)
    (hremembered : v₁'.client.lastError.truthy = v₁.client.lastError.truthy) (ha : P a) :
    Matched P (Act.on x v) (Act.on x v') := by
  rw [hx, hx']
  exact ⟨rfl, fun _ h => Except.ok.inj h ▸ ha, paired.moved moved.toMoved moved'.toMoved hcontext
    hremembered (by rw [moved.errors, moved'.errors, paired.collected]), moved.shop ▸ kept⟩

/-- Asked for a document that the services send, with clean variables, the router and the server in
front of it answer the same. -/
theorem ask_agrees (o : Operation) {allocation : String} (hallocation : Sendable allocation.toList)
    {fields : List (Key × Value)} (hfields : (Value.record fields).Clean)
    (hplain : o.Plain (.record fields)) :
    Agree (ask (o.document allocation) (.record fields)) (Value.Fit True) := by
  intro v v' paired kept
  obtain ⟨hasFactory, hrouter⟩ := paired.router
  have hrouter' := paired.sameRouter.trans hrouter
  have hne := (o.isFor_document allocation).ne_empty
  have hdocument := Text.sendable_trim (o.sendable_document hallocation)
  obtain ⟨kept₁, context, answered⟩ := dispatch_document hasFactory o allocation hfields hplain kept
  rcases hd : Act.on ((Router.standard (factoryOf hasFactory)).dispatch
    (some (o.document allocation)) (.record fields)) v.client.network.shop with ⟨outcome, s⟩
  rw [hd] at kept₁ answered context
  have hd' := hd
  rw [← Router.dispatch_trim, ← hrouter', ← paired.shop] at hd'
  rw [← hrouter, ← Value.orElse_record fields] at hd
  rcases answered with hexhausted | ⟨payload, hdata, clean⟩
  · -- Either remembers the fault, in its own words.
    obtain rfl : outcome = .error .exhausted := hexhausted
    obtain ⟨v₁, asked, moved, last⟩ := ask_inProcess_failed paired.inProcess hne hd rfl
    obtain ⟨v₁', asked', moved', last'⟩ := ask_server_failed paired.reaches paired.server
      hdocument hfields hd' rfl (by decide)
    exact .of_moved paired asked asked' moved moved' context kept₁ (by rw [last, last']; rfl)
      Value.fit_null
  · obtain rfl : outcome = .ok (some _) := hdata
    obtain ⟨v₁, asked, moved, last⟩ := ask_inProcess paired.inProcess hne hd
      (Client.failureOf?_single o.field_ne.1 o.field_ne.2 payload)
    obtain ⟨v₁', asked', moved', last'⟩ := ask_server paired.reaches paired.server hdocument
      hfields hd' (Value.clean_single (by decide) clean).arrives
    exact .of_moved paired asked asked' moved moved' context kept₁ (by rw [last, last'])
      fun _ => clean

/-- Mutations of the cart service. -/
theorem mutate_agrees (o : Operation) {fields : List (Key × Value)}
    (hfields : (Value.record fields).Clean) (hplain : o.Plain (.record fields)) :
    Agree (mutate o (o.document "") (.record fields)) fun _ => True := by
  refine (ask_agrees o (by decide) hfields hplain).bind fun answer hanswer => ?_
  -- Each step reads a value that is clean since the answer was.
  have hanswer := hanswer.orElse Value.fit_emptyRecord
  refine (Agree.of_yields (hanswer.member _)).bind fun payload hpayload => ?_
  have hpayload := hpayload.orElse Value.fit_emptyRecord
  refine (Agree.of_yields (hpayload.member _)).bind fun errors _ => ?_
  refine (collectError_agrees o errors).bind fun _ _ => ?_
  refine (Agree.of_yields (hpayload.member _)).bind fun cart hcart => ?_
  have hcart := hcart.orElse Value.fit_emptyRecord
  refine (Agree.of_yields (hcart.member _)).bind fun id _ => ?_
  exact .lift fun _ _ => trivial

/-- Requests of the selling plan group service. -/
theorem askFor_agrees (o : Operation) (field : String) {fields : List (Key × Value)}
    (hfields : (Value.record fields).Clean) (hplain : o.Plain (.record fields)) :
    Agree (askFor (o.document "") (.record fields) field) (Value.Fit True) := by
  refine clearErrors_agrees.bind fun _ _ => ?_
  refine (ask_agrees o (by decide) hfields hplain).bind fun data hdata => ?_
  -- an error of the client: it is collected, and nothing is answered
  split
  · rw [← bind_assoc]
    exact collectRemembered_agrees.bind fun _ _ => .pure Value.fit_null
  · refine (Agree.of_yields (hdata.member field)).bind fun payload hpayload => ?_
    split
    · -- the field is not there
      exact (collect_agrees _).bind fun _ _ => .pure Value.fit_null
    · extract_lets userErrors
      split
      · -- errors of the shop are collected and recorded
        refine (Agree.lift (P := fun _ => True) fun _ _ => trivial).bind fun errors _ => ?_
        refine (collect_agrees errors).bind fun _ _ => ?_
        exact (record_agrees _ _ _).bind fun _ _ => .pure Value.fit_null
      · exact .pure hpayload

end Storefront.Service
