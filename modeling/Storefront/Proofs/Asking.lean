import Storefront.Proofs.Act
import Storefront.Service.Carts

/-! # Asking the router itself

A client that asks the router itself gets what the router answers; if the router fails in a way that
is reported, the client gets null and remembers why.  Either way, nothing else of the client and of
its service changes but the log and the shop, which is as the router left it.

* `Service.Moved` : a service after it was answered
* `Service.ask_inProcess`, `Service.ask_inProcess_failed` : what a service gets from the router
* `Service.on_collectError` : what it collects of the answer -/

namespace Storefront

/-- A record that is given is not replaced by an empty one. -/
theorem Value.orElse_record (fields : List (Key × Value)) :
    (Value.record fields).orElse (.record []) = .record fields := by
  cases fields <;> rfl

/-! ### Acting on a part -/

namespace Network

/-- What is done in the shop is done to the network's shop. -/
theorem on_inShop {α : Type} (x : Act Shop α) (n : Network) :
    Act.on (inShop x) n = ((Act.on x n.shop).1, { n with shop := (Act.on x n.shop).2 }) := rfl

/-- The network with another log. -/
def withLog (n : Network) (log : List LogRecord) : Network := { n with log }

/-- A record that is written grows the log. -/
theorem on_record (severity : Severity) (message : String) (details : List (String × Value))
    (n : Network) : ∃ log, Act.on (record severity message details) n = (.ok (), n.withLog log) :=
  ⟨_, rfl⟩

/-- Details are written to the log if it is to have them. -/
theorem on_recordDetail (message : String) (details : List (String × Value)) (n : Network) :
    ∃ log, Act.on (recordDetail message details) n = (.ok (), n.withLog log) := by
  unfold recordDetail
  rw [Act.on_bind_of_ok (Act.on_get n)]
  split
  · exact on_record _ _ _ n
  · exact ⟨n.log, rfl⟩

end Network

namespace Client

variable {c : Client} {shop : Shop}

/-- The client after its network was left with a shop. -/
structure Moved (c c' : Client) (shop : Shop) : Prop where
  shop : c'.network.shop = shop
  router : c'.network.router = c.network.router
  route : c'.network.route = c.network.route
  storefront : c'.storefront = c.storefront

/-- A client that is moved twice is moved. -/
theorem Moved.trans {c c₁ c' : Client} {shop₁ : Shop} (h : c.Moved c₁ shop₁)
    (h' : c₁.Moved c' shop) : c.Moved c' shop where
  shop := h'.shop
  router := h'.router.trans h.router
  route := h'.route.trans h.route
  storefront := h'.storefront.trans h.storefront

/-- What is done in the network is done to the client's network. -/
theorem on_inNetwork {α : Type} (x : Act Network α) (c : Client) :
    Act.on (inNetwork x) c =
      ((Act.on x c.network).1, { c with network := (Act.on x c.network).2 }) := rfl

/-- To note details of a request moves the client nowhere. -/
theorem moved_recordDetail (message : String) (details : List (String × Value)) (c : Client) :
    ∃ c', Act.on (inNetwork (Network.recordDetail message details)) c = (.ok (), c') ∧
      c.Moved c' c.network.shop ∧ c'.lastError = c.lastError := by
  obtain ⟨log, h⟩ := Network.on_recordDetail message details c.network
  rw [on_inNetwork, h]
  exact ⟨_, rfl, ⟨rfl, rfl, rfl, rfl⟩, rfl⟩

/-- A failure is remembered, and answered with null. -/
theorem moved_fail (source : String) (f : Failure) (c : Client) :
    ∃ c', Act.on (fail source f) c = (.ok .null, c') ∧ c.Moved c' c.network.shop ∧
      c'.lastError = f.cause :=
  ⟨_, rfl, ⟨rfl, rfl, rfl, rfl⟩, rfl⟩

/-- A response that is no failure is answered. -/
theorem moved_conclude (source : String) {response v : Value}
    (answer : Value → Except Fault Value) (hr : failureOf? response = .ok none)
    (ha : answer response = .ok v) (c : Client) :
    ∃ c', Act.on (conclude source response answer) c = (.ok v, c') ∧ c.Moved c' c.network.shop ∧
      c'.lastError = c.lastError := by
  obtain ⟨c₁, h₁, hmoved, herror⟩ := moved_recordDetail ("Graphql." ++ source ++ " result")
    [("response", response)] c
  refine ⟨c₁, ?_, hmoved, herror⟩
  unfold conclude
  rw [Act.on_bind_of_ok h₁, hr, Act.on_bind_of_ok (Act.on_lift _ c₁)]
  exact congrArg (·, c₁) ha

/-- A response that is a failure is remembered, and answered with null. -/
theorem moved_conclude_failed (source : String) {response : Value}
    (answer : Value → Except Fault Value) {f : Failure}
    (hr : failureOf? response = .ok (some f)) (c : Client) :
    ∃ c', Act.on (conclude source response answer) c = (.ok .null, c') ∧
      c.Moved c' c.network.shop ∧ c'.lastError = f.cause := by
  obtain ⟨c₁, h₁, hmoved, -⟩ := moved_recordDetail ("Graphql." ++ source ++ " result")
    [("response", response)] c
  obtain ⟨c₂, h₂, hmoved₂, herror⟩ := moved_fail source f c₁
  rw [hmoved.shop] at hmoved₂
  refine ⟨c₂, ?_, hmoved.trans hmoved₂, herror⟩
  unfold conclude
  rw [Act.on_bind_of_ok h₁, hr, Act.on_bind_of_ok (Act.on_lift _ c₁)]
  exact h₂

/-- A record of one member that reports no errors is no failure. -/
theorem failureOf?_single {name : String} (he : name ≠ "errors") (hu : name ≠ "userErrors")
    (payload : Value) : failureOf? (.ofFields [(name, payload)]) = .ok none := by
  -- Only one name is looked up successfully, and it is neither of the two.
  have absent : ∀ other, name ≠ other →
      (Value.ofFields [(name, payload)]).member other = .ok .null := by
    intro other hne
    simp [Value.ofFields, Value.member, Assoc.get?, hne]
  simp only [failureOf?, absent "errors" he, absent "userErrors" hu]
  rfl

/-- A text that is not empty is a document. -/
theorem documentOf_text {document : String} (h : document ≠ "") :
    documentOf (.text document) = .ok (some document) := by
  have truthy : (Value.text document).truthy = true := decide_eq_true h
  rw [documentOf, if_pos truthy]
  rfl

/-- The router was asked: its answer is looked at, and a failure that is reported is remembered. -/
theorem on_askRouter {document : String} (hne : document ≠ "") {vars : Value}
    {outcome : Except Fault (Option Value)}
    (hd : Act.on (c.network.router.dispatch (some document) vars) c.network.shop =
      (outcome, shop)) :
    ∃ c₁, c.Moved c₁ shop ∧ c₁.lastError = c.lastError ∧
      Act.on (askRouter (.text document) vars) c = match outcome with
        | .ok response => Act.on (conclude "mock_query" (Value.ofOption response) .ok) c₁
        | .error fault =>
          if Server.isReported fault then Act.on (fail "mock_query" (.ofMessage fault.message)) c₁
          else (.error fault, c₁) := by
  -- The request is noted before it is made, and the endpoint is told from the document alone.
  obtain ⟨c₁, h₁, hmoved, herror⟩ := moved_recordDetail "Graphql.mock_query request"
    [("endpoint", Value.ofText? (c.network.router.resolve (some document)))] c
  have asked : Act.on (inNetwork (Network.inShop
      (c.network.router.dispatch (some document) vars))) c₁ =
      (outcome, { c₁ with network := { c₁.network with shop } }) := by
    rw [on_inNetwork, Network.on_inShop, hmoved.shop, hd]
  refine ⟨{ c₁ with network := { c₁.network with shop } },
    ⟨rfl, hmoved.router, hmoved.route, hmoved.storefront⟩, herror, ?_⟩
  unfold askRouter
  rw [documentOf_text hne, Act.on_bind_of_ok (Act.on_lift _ c), Act.on_bind_of_ok (Act.on_get c),
    Act.on_bind_of_ok h₁, Act.on_bind, Act.on_tryCatch, Act.on_map, asked]
  -- What the router raises is caught here if it is to be reported.
  cases outcome with
  | ok response => rfl
  | error fault =>
    dsimp only [Except.map]
    cases Server.isReported fault <;> rfl

section

variable {document : String} (hne : document ≠ "") {vars : Value}

include hne

/-- What the router answers is handed on. -/
theorem moved_askRouter {response : Value}
    (hd : Act.on (c.network.router.dispatch (some document) vars) c.network.shop =
      (.ok (some response), shop)) (hr : failureOf? response = .ok none) :
    ∃ c', Act.on (askRouter (.text document) vars) c = (.ok response, c') ∧ c.Moved c' shop ∧
      c'.lastError = c.lastError := by
  obtain ⟨c₁, hmoved, herror, asked⟩ := on_askRouter hne hd
  obtain ⟨c₂, concluded, hmoved₂, herror₂⟩ := moved_conclude "mock_query" .ok hr rfl c₁
  rw [hmoved.shop] at hmoved₂
  exact ⟨c₂, asked.trans concluded, hmoved.trans hmoved₂, herror₂.trans herror⟩

/-- A failure of the router that is reported is remembered. -/
theorem moved_askRouter_failed {fault : Fault}
    (hd : Act.on (c.network.router.dispatch (some document) vars) c.network.shop =
      (.error fault, shop)) (hr : Server.isReported fault = true) :
    ∃ c', Act.on (askRouter (.text document) vars) c = (.ok .null, c') ∧ c.Moved c' shop ∧
      c'.lastError = .text fault.message := by
  obtain ⟨c₁, hmoved, -, asked⟩ := on_askRouter hne hd
  obtain ⟨c₂, failed, hmoved₂, herror₂⟩ := moved_fail "mock_query" (.ofMessage fault.message) c₁
  rw [hmoved.shop] at hmoved₂
  exact ⟨c₂, asked.trans ((if_pos hr).trans failed), hmoved.trans hmoved₂, herror₂⟩

end

/-- The client when it starts to ask: what it remembered is forgotten. -/
def asking (c : Client) : Client := { c with lastError := .null, lastResponse := .null }

/-- A client that asks the router itself sends a record of variables in any case. -/
theorem on_ask_inProcess (hroute : c.network.route = .inProcess) (document vars : Value) :
    Act.on (ask document vars) c =
      Act.on (askRouter document (vars.orElse (.record []))) c.asking := by
  unfold ask
  rw [Act.on_bind_of_ok (Act.on_modify _ c), Act.on_bind_of_ok (Act.on_get _), if_pos hroute]
  rfl

end Client

namespace Service

variable {v : Service} {shop : Shop} {document : String} {vars : Value}

/-- The service after its network was left with a shop; no errors were collected. -/
structure Moved (v v' : Service) (shop : Shop) : Prop extends
    Client.Moved v.client v'.client shop where
  errors : v'.errors = v.errors

/-- A service asks by way of its client. -/
theorem on_ask (document : String) (vars : Value) (v : Service) :
    Act.on (ask document vars) v =
      ((Act.on (Client.ask document vars) v.client).1,
        { v with client := (Act.on (Client.ask document vars) v.client).2 }) := rfl

/-- A service is left as its client is. -/
theorem moved_ask {answer remembered : Value} {c' : Client}
    (h : Act.on (Client.ask document vars) v.client = (.ok answer, c'))
    (hmoved : v.client.asking.Moved c' shop) (hremembered : c'.lastError = remembered) :
    ∃ v', Act.on (ask document vars) v = (.ok answer, v') ∧ v.Moved v' shop ∧
      v'.client.lastError = remembered := by
  rw [on_ask, h]
  exact ⟨_, rfl, ⟨⟨hmoved.shop, hmoved.router, hmoved.route, hmoved.storefront⟩, rfl⟩, hremembered⟩

section

variable (hroute : v.client.network.route = .inProcess) (hne : document ≠ "")

include hroute hne

/-- What the router answers is what the service gets. -/
theorem ask_inProcess {response : Value}
    (hd : Act.on (v.client.network.router.dispatch (some document) (vars.orElse (.record [])))
      v.client.network.shop = (.ok (some response), shop))
    (hr : Client.failureOf? response = .ok none) :
    ∃ v', Act.on (ask document vars) v = (.ok response, v') ∧ v.Moved v' shop ∧
      v'.client.lastError = .null := by
  obtain ⟨c', h, hmoved, herror⟩ := Client.moved_askRouter (c := v.client.asking) hne hd hr
  exact moved_ask ((Client.on_ask_inProcess hroute _ _).trans h) hmoved herror

/-- If the router fails in a way that is reported, the service gets null and remembers why. -/
theorem ask_inProcess_failed {fault : Fault}
    (hd : Act.on (v.client.network.router.dispatch (some document) (vars.orElse (.record [])))
      v.client.network.shop = (.error fault, shop))
    (hr : Server.isReported fault = true) :
    ∃ v', Act.on (ask document vars) v = (.ok .null, v') ∧ v.Moved v' shop ∧
      v'.client.lastError = .text fault.message := by
  obtain ⟨c', h, hmoved, herror⟩ := Client.moved_askRouter_failed (c := v.client.asking) hne hd hr
  exact moved_ask ((Client.on_ask_inProcess hroute _ _).trans h) hmoved herror

end

/-! ### Collecting errors -/

/-- What a service collects of an answer with errors. -/
def collected (lastError error : Value) : List Value :=
  if (lastError.orElse error).truthy then [lastError.orElse error] else []

/-- What the client remembers is collected before what was answered. -/
theorem collected_of_truthy {lastError : Value} (h : lastError.truthy = true) (error : Value) :
    collected lastError error = [lastError] := by
  have first : lastError.orElse error = lastError := if_pos h
  rw [collected, first, if_pos h]

/-- An error is collected if the client remembers none. -/
theorem collected_null_of_truthy {error : Value} (h : error.truthy = true) :
    collected .null error = [error] := if_pos h

/-- Nothing is collected of nothing. -/
theorem collected_null_of_falsy {error : Value} (h : error.truthy = false) :
    collected .null error = [] := if_neg (by simpa [Value.orElse] using h)

/-- To collect an error is to write it down, unless there is none. -/
theorem on_collectError (o : Operation) (error : Value) (v : Service) :
    ∃ v', Act.on (collectError o error) v = (.ok (), v') ∧
      v.client.Moved v'.client v.client.network.shop ∧
      v'.client.lastError = v.client.lastError ∧
      v'.errors = v.errors ++ collected v.client.lastError error := by
  unfold collectError collected
  rw [Act.on_bind_of_ok (Act.on_get v)]
  dsimp only
  split
  · exact ⟨_, rfl, ⟨rfl, rfl, rfl, rfl⟩, rfl, rfl⟩
  · exact ⟨v, rfl, ⟨rfl, rfl, rfl, rfl⟩, rfl, (List.append_nil _).symm⟩

end Service
end Storefront
