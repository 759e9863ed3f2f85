import Mathlib.Data.List.Forall2
import Storefront.Proofs.Nesting
import Storefront.Proofs.Scripted
import Storefront.Proofs.Serving

/-! # Asking question after question

A client that asks one question after the other over a script of replies takes one reply for each,
and another one only where the first did not come in time.  What it answers and what it remembers
follows from the reply that it took last; of the questions before, nothing is left.

A reply gives data, or it is refused: then the answer is null and the client remembers why.  Only a
reply in which lists or records are nested too deeply is neither, but raised to whoever asked.

* `Seen.of` : what is seen of a response, or of the fault of one that there is not
* `Client.on_question` : one question
* `Client.askAll_settled` : any number of them, and what is seen of a reply
* `Client.deep_reply_raised` : a reply that is raised -/

namespace Storefront

/-! ### What is seen of a reply -/

/-- What is truthy is not null. -/
theorem Value.ne_null_of_truthy {v : Value} (h : v.truthy = true) : v ≠ .null := by
  rintro rfl
  cases h

/-- The only record that is falsy is the empty one. -/
theorem Value.eq_empty_of_falsy {v : Value} (record : v.isRecord = true)
    (falsy : v.truthy = false) : v = .record [] := by
  cases v with
  | record fields => simpa using falsy
  | _ => cases record

/-- What is seen of a question once it was asked: its outcome, and what the client remembers. -/
structure Seen where
  outcome : Except Fault Value
  lastError : Value
  lastResponse : Value

/-- What is seen of a response, or of the fault of one that there is not.  A fault that comes from a
value is remembered in words, any other is raised. -/
def Seen.of : Except Fault Value → Seen
  | .error f =>
    if Client.isValueFault f then ⟨.ok .null, .text f.message, .null⟩ else ⟨.error f, .null, .null⟩
  | .ok v =>
    if v.isRecord = false then ⟨.ok .null, "Empty response", .null⟩
    else if v.truthy = false then ⟨.ok .null, "Empty response", v⟩
    else if (v.under "errors").truthy then ⟨.ok .null, v.under "errors", v⟩
    else if (v.under "userErrors").truthy then ⟨.ok .null, v.under "userErrors", v⟩
    else ⟨.ok (v.under "data"), .null, v⟩

/-- What arrived is too deep if its text was found so. -/
theorem Fault.ofArrivalError_eq_tooDeep {e : Json.ArrivalError} {isList : Bool}
    (h : ofArrivalError e = .tooDeep isList) :
    ∃ e', e = .text e' ∧ e'.cause = .tooDeep isList := by
  unfold ofArrivalError at h
  split at h
  · cases h
  · obtain ⟨⟩ := h
    exact ⟨_, rfl, rfl⟩
  · cases h

namespace Reply

/-- What is seen of a reply where lists and records may be nested `maxDepth` times. -/
def seen (maxDepth : Nat) (r : Reply) : Seen := .of (Client.responseOf maxDepth r)

/-- There are no data in a reply. -/
inductive Refused (maxDepth : Nat) (r : Reply) : Prop
  | late {message : String} (h : r = .timeout message)
  | unreachable {message : String} (h : r = .unreachable message)
  /-- What arrived is no JSON. -/
  | unreadable {s : String} {f : Fault} (h : r = .text s)
      (fault : Client.responseOf maxDepth r = .error f) (shallow : ∀ isList, f ≠ .tooDeep isList)
  /-- The response is no record. -/
  | other {v : Value} (h : Client.responseOf maxDepth r = .ok v) (other : v.isRecord = false)
  | empty (h : Client.responseOf maxDepth r = .ok (.record []))
  | errors {v : Value} (h : Client.responseOf maxDepth r = .ok v)
      (errors : (v.under "errors").truthy = true)
  | userErrors {v : Value} (h : Client.responseOf maxDepth r = .ok v)
      (errors : (v.under "userErrors").truthy = true)

/-- Lists or records in a reply are nested too deeply. -/
def TooDeep (maxDepth : Nat) (r : Reply) : Prop :=
  ∃ isList, Client.responseOf maxDepth r = .error (.tooDeep isList)

/-- What is seen of a reply, by whether it gives data, is refused, or is nested too deeply. -/
structure SeenSpec (maxDepth : Nat) (r : Reply) : Prop where
  refused : r.Refused maxDepth →
    (r.seen maxDepth).outcome = .ok .null ∧ (r.seen maxDepth).lastError ≠ .null
  answered : ¬ r.Refused maxDepth → ¬ r.TooDeep maxDepth →
    ∃ v, Client.responseOf maxDepth r = .ok v ∧ r.seen maxDepth = ⟨.ok (v.under "data"), .null, v⟩
  raised : (∃ f, (r.seen maxDepth).outcome = .error f) ↔ r.TooDeep maxDepth
  /-- Many lists or records are opened in a reply that is raised. -/
  opened : r.TooDeep maxDepth → ∃ s cs, r = .text s ∧ Text.arrived s = .ok cs ∧
    maxDepth < Json.opened cs

variable {maxDepth : Nat} {r : Reply} {f : Fault} {v : Value}

/-- A fault of what arrived is one of values, unless it is nested too deeply. -/
theorem fault_cases (h : Client.responseOf maxDepth r = .error f) :
    (∃ isList, f = .tooDeep isList) ∨
      Client.isValueFault f = true ∧ ∀ isList, f ≠ .tooDeep isList := by
  cases r with
  | json v => cases h
  -- A text that arrived may be read or not; all other replies are clear.
  | text s =>
    rw [Client.responseOf] at h
    cases read : Json.readArrived maxDepth s with
    | ok v => rw [read] at h; cases h
    | error e =>
      rw [read] at h
      obtain rfl := Except.error.inj h
      unfold Fault.ofArrivalError
      split
      · exact .inr ⟨rfl, by rintro _ ⟨⟩⟩
      · exact .inl ⟨_, rfl⟩
      · exact .inr ⟨rfl, by rintro _ ⟨⟩⟩
  | timeout message => cases h; exact .inr ⟨rfl, by rintro _ ⟨⟩⟩
  | unreachable message => cases h; exact .inr ⟨rfl, by rintro _ ⟨⟩⟩

/-- A reply without a response is refused, unless it is nested too deeply. -/
theorem refused_of_fault (h : Client.responseOf maxDepth r = .error f)
    (shallow : ∀ isList, f ≠ .tooDeep isList) : r.Refused maxDepth := by
  cases r with
  | json v => cases h
  | text s => exact .unreadable rfl h shallow
  | timeout message => exact .late rfl
  | unreachable message => exact .unreachable rfl

/-- Lists or records are too deep in a text that opens many of them. -/
theorem TooDeep.opened (h : r.TooDeep maxDepth) : ∃ s cs, r = .text s ∧
    Text.arrived s = .ok cs ∧ maxDepth < Json.opened cs := by
  obtain ⟨isList, deep⟩ := h
  cases r with
  | json v | timeout message | unreachable message => cases deep
  | text s =>
    obtain ⟨e, read, fault⟩ := Except.mapError_eq_error deep
    obtain ⟨e, rfl, cause⟩ := Fault.ofArrivalError_eq_tooDeep fault
    obtain ⟨cs, arrived, read⟩ := Json.readArrived_eq_text read
    exact ⟨s, cs, rfl, arrived, Json.opened_of_tooDeep read cause⟩

/-- A refused reply is not nested too deeply. -/
theorem Refused.not_tooDeep (h : r.Refused maxDepth) : ¬ r.TooDeep maxDepth := by
  rintro ⟨isList, deep⟩
  cases h with
  | late h | unreachable h => subst h; cases deep
  | unreadable _ fault shallow => exact shallow isList (Except.error.inj (fault.symm.trans deep))
  | other h | empty h | errors h | userErrors h => cases h.symm.trans deep

/-- A reply without a response is seen as the theorem says. -/
theorem seen_spec_of_fault (h : Client.responseOf maxDepth r = .error f) :
    r.SeenSpec maxDepth := by
  have seen : r.seen maxDepth = .of (.error f) := congrArg Seen.of h
  -- A fault is raised if the reply is nested too deeply, else it is told in words.
  rcases fault_cases h with ⟨isList, rfl⟩ | ⟨fromValue, shallow⟩
  · have raised : r.seen maxDepth = ⟨.error (.tooDeep isList), .null, .null⟩ := seen
    have deep : r.TooDeep maxDepth := ⟨isList, h⟩
    refine ⟨fun refused => absurd deep refused.not_tooDeep, fun _ shallow => absurd deep shallow,
      ?_, TooDeep.opened⟩
    exact ⟨fun _ => deep, fun _ => ⟨_, congrArg Seen.outcome raised⟩⟩
  · have told : r.seen maxDepth = ⟨.ok .null, .text f.message, .null⟩ :=
      seen.trans (if_pos fromValue)
    have refused := refused_of_fault h shallow
    refine ⟨fun _ => ?_, fun data _ => absurd refused data, ?_, TooDeep.opened⟩
    · rw [told]
      exact ⟨rfl, nofun⟩
    · refine ⟨fun ⟨e, raised⟩ => ?_, fun deep => absurd deep refused.not_tooDeep⟩
      rw [told] at raised
      cases raised

/-- A response is told as refused, or it has data. -/
theorem seen_of_response (h : Client.responseOf maxDepth r = .ok v) :
    (r.Refused maxDepth ∧ (r.seen maxDepth).outcome = .ok .null ∧
      (r.seen maxDepth).lastError ≠ .null) ∨
      (¬ r.Refused maxDepth ∧ r.seen maxDepth = ⟨.ok (v.under "data"), .null, v⟩) := by
  have seen : r.seen maxDepth = .of (.ok v) := congrArg Seen.of h
  -- The response is looked at in the order in which the client does it.
  rw [seen, Seen.of]
  by_cases record : v.isRecord = false
  · rw [if_pos record]
    exact .inl ⟨.other h record, rfl, nofun⟩
  rw [if_neg record]
  by_cases falsy : v.truthy = false
  · rw [if_pos falsy]
    have empty : v = .record [] := Value.eq_empty_of_falsy (by simpa using record) falsy
    exact .inl ⟨.empty (empty ▸ h), rfl, nofun⟩
  rw [if_neg falsy]
  by_cases errors : (v.under "errors").truthy = true
  · rw [if_pos errors]
    exact .inl ⟨.errors h errors, rfl, Value.ne_null_of_truthy errors⟩
  rw [if_neg errors]
  by_cases userErrors : (v.under "userErrors").truthy = true
  · rw [if_pos userErrors]
    exact .inl ⟨.userErrors h userErrors, rfl, Value.ne_null_of_truthy userErrors⟩
  rw [if_neg userErrors]
  refine .inr ⟨fun refused => ?_, rfl⟩
  -- Each way to refuse a response is one of the cases above.
  cases refused with
  | late h' | unreachable h' => subst h'; cases h
  | unreadable _ fault => cases h.symm.trans fault
  | other h' other =>
    cases h.symm.trans h'
    exact record other
  | empty h' =>
    cases h.symm.trans h'
    exact falsy rfl
  | errors h' truthy =>
    cases h.symm.trans h'
    exact errors truthy
  | userErrors h' truthy =>
    cases h.symm.trans h'
    exact userErrors truthy

/-- A response is seen as the theorem says. -/
theorem seen_spec_of_response (h : Client.responseOf maxDepth r = .ok v) :
    r.SeenSpec maxDepth := by
  -- What was read cannot be nested too deeply.
  have shallow : ¬ r.TooDeep maxDepth := by
    rintro ⟨_, deep⟩
    cases h.symm.trans deep
  rcases seen_of_response h with ⟨refused, told⟩ | ⟨data, answered⟩
  · refine ⟨fun _ => told, fun data => absurd refused data, ?_, TooDeep.opened⟩
    refine ⟨fun ⟨e, raised⟩ => ?_, fun deep => absurd deep shallow⟩
    cases told.1.symm.trans raised
  · refine ⟨fun refused => absurd refused data, fun _ _ => ⟨v, h, answered⟩, ?_,
      TooDeep.opened⟩
    refine ⟨fun ⟨e, raised⟩ => ?_, fun deep => absurd deep shallow⟩
    rw [answered] at raised
    cases raised

/-- Every reply is refused, or has data, or is raised. -/
theorem seen_spec (maxDepth : Nat) (r : Reply) : r.SeenSpec maxDepth := by
  cases h : Client.responseOf maxDepth r with
  | error f => exact seen_spec_of_fault h
  | ok v => exact seen_spec_of_response h

end Reply

/-! ### One question -/

/-- A question to a shop. -/
structure Question where
  document : String
  vars : Value

/-- Asks a question. -/
def Question.ask (q : Question) : Act Client Value := Client.ask (.text q.document) q.vars

namespace Client

variable {c : Client} {q : Question}

/-- The request that asks a question, unless it cannot be sent. -/
def requestFor (c : Client) (q : Question) : Except Fault Request :=
  Network.requestOf c.network.route c.url c.headers (bodyOf q.document (q.vars.orElse (.record [])))
    Settings.standard.timeout

/-- The client on another network, where it remembers what is seen of a question. -/
def remembering (c : Client) (n : Network) (s : Seen) : Client :=
  { c with network := n, lastError := s.lastError, lastResponse := s.lastResponse }

/-- What is looked at of a response: it counts as empty unless it is a record. -/
def looked (v : Value) : Value := if v.isRecord then v else .null

/-- A response is a failure that is seen by its cause, or its data are seen. -/
theorem seen_of_looked (v : Value) :
    (∃ f, failureOf? (looked v) = .ok (some f) ∧ Seen.of (.ok v) = ⟨.ok .null, f.cause, looked v⟩) ∨
      (failureOf? (looked v) = .ok none ∧ (looked v).member "data" = .ok (v.under "data") ∧
        Seen.of (.ok v) = ⟨.ok (v.under "data"), .null, looked v⟩) := by
  -- A reply that is no object counts as an empty one.
  by_cases record : v.isRecord = true
  · have same : looked v = v := if_pos record
    have isRecord : ¬ v.isRecord = false := by simp [record]
    rw [same, Seen.of, if_neg isRecord]
    -- an empty object is a failure of its own
    by_cases falsy : v.truthy = false
    · refine .inl ⟨.ofMessage "Empty response", ?_, if_pos falsy⟩
      rw [failureOf?, falsy]
      rfl
    rw [if_neg falsy, failureOf?_of_record record (by simpa using falsy)]
    -- then the errors of the endpoint, and then those of the shop, are looked at
    by_cases errors : (v.under "errors").truthy = true
    · rw [if_pos errors, if_pos errors]
      exact .inl ⟨_, rfl, rfl⟩
    rw [if_neg errors, if_neg errors]
    by_cases userErrors : (v.under "userErrors").truthy = true
    · rw [if_pos userErrors, if_pos userErrors]
      exact .inl ⟨_, rfl, rfl⟩
    rw [if_neg userErrors, if_neg userErrors]
    exact .inr ⟨rfl, Value.member_of_isRecord record "data", rfl⟩
  · have other : looked v = .null := if_neg record
    rw [other, Seen.of, if_pos (by simpa using record)]
    exact .inl ⟨.ofMessage "Empty response", rfl, rfl⟩

/-- A response is concluded with what is seen of it. -/
theorem on_conclude_looked (v : Value) {c : Client} (forgotten : c.lastError = .null) : ∃ log,
    Act.on (conclude "http_query" (looked v) fun r => r.member "data")
        { c with lastResponse := looked v } =
      ((Seen.of (.ok v)).outcome, c.remembering (c.network.withLog log) (.of (.ok v))) := by
  -- Either its cause is remembered, or its data are answered and nothing is remembered.
  obtain ⟨f, failed, seen⟩ | ⟨sound, data, seen⟩ := seen_of_looked v
  · rw [seen]
    exact on_conclude_failed "http_query" (fun r => r.member "data") failed _
  · obtain ⟨log, concluded⟩ := on_conclude "http_query" (fun r => r.member "data") sound
      { c with lastResponse := looked v }
    rw [data, forgotten] at concluded
    rw [seen, forgotten]
    exact ⟨log, concluded⟩

/-- A fault is remembered if it comes from a value, else it is raised. -/
theorem on_fault_seen (f : Fault) {c : Client} (forgotten : c.lastError = .null)
    (emptied : c.lastResponse = .null) : ∃ log,
    (if isValueFault f then Act.on (fail "http_query" (.ofMessage f.message)) c
      else (.error f, c)) =
      ((Seen.of (.error f)).outcome, c.remembering (c.network.withLog log) (.of (.error f))) := by
  obtain ⟨network, storefront, lastError, lastResponse⟩ := c
  obtain rfl : lastError = .null := forgotten
  obtain rfl : lastResponse = .null := emptied
  -- A fault about a value is remembered, and any other one is raised.
  by_cases fromValue : isValueFault f = true
  · have seen : Seen.of (.error f) = ⟨.ok .null, .text f.message, .null⟩ := if_pos fromValue
    rw [if_pos fromValue, seen]
    exact on_fail "http_query" (.ofMessage f.message) _
  · have seen : Seen.of (.error f) = ⟨.error f, .null, .null⟩ := if_neg fromValue
    rw [if_neg fromValue, seen]
    exact ⟨network.log, rfl⟩

/-- What is answered to a question and remembered of it is seen of the last reply that it took, or
of the fault that kept it from being sent. -/
theorem on_question (h : c.network.route.IsScripted) (q : Question) : ∃ log,
    Act.on q.ask c = match c.requestFor q with
      | .error f =>
        ((Seen.of (.error f)).outcome, c.remembering (c.network.withLog log) (.of (.error f)))
      | .ok r =>
        let seen := (Taking.of c.network.script).last.seen c.network.depths.response
        (seen.outcome, c.remembering ((c.network.took r).withLog log) seen) := by
  obtain ⟨log, asked⟩ := exists_on_askServer q.document (q.vars.orElse (.record [])) c.asking
  let c₁ : Client := { c.asking with network := c.network.withLog log }
  -- What is recorded on the way has no influence on the request.
  have requested : Act.on (request q.document (q.vars.orElse (.record []))) c₁ =
      match c.requestFor q with
      | .error f => (.error f, c₁)
      | .ok r => (responseOf c.network.depths.response (Taking.of c.network.script).last,
          { c₁ with network := c₁.network.took r }) :=
    on_request_took (c := c₁) h q.document (q.vars.orElse (.record []))
  have unchanged : { c.asking with network := c.asking.network.withLog log } = c₁ := rfl
  rw [Question.ask, on_ask_scripted h, asked, unchanged, requested]
  cases c.requestFor q with
  | error f => exact on_fault_seen f (c := c₁) rfl rfl
  | ok r =>
    let c₂ : Client := { c₁ with network := c₁.network.took r }
    dsimp only
    rw [Reply.seen]
    -- What was taken last is a response or a fault, and both are told in the same way.
    cases responseOf c.network.depths.response (Taking.of c.network.script).last with
    | error f => exact on_fault_seen f (c := c₂) rfl rfl
    | ok v => exact on_conclude_looked v (c := c₂) rfl

end Client

/-! ### Question after question -/

/-- What is seen of a question that was asked. -/
def Seen.ofRun (run : Except Fault Value × Client) : Seen :=
  ⟨run.1, run.2.lastError, run.2.lastResponse⟩

/-- What came of a question: what is seen of it, and the exchanges that were made for it. -/
structure Settled where
  seen : Seen
  exchanges : List Exchange

namespace Client

/-- Asks one question after the other, whatever comes of those before. -/
def askAll (c : Client) : List Question → List (Except Fault Value × Client)
  | [] => []
  | q :: rest => Act.on q.ask c :: (Act.on q.ask c).2.askAll rest

/-- The client after it asked questions. -/
def after (c : Client) : List Question → Client
  | [] => c
  | q :: rest => (Act.on q.ask c).2.after rest

/-- What may come of a question.  Nothing of the client matters but what its requests look like. -/
inductive Settles (c : Client) (q : Question) : Settled → Prop
  | unsent {f : Fault} (h : c.requestFor q = .error f) : Settles c q ⟨.of (.error f), []⟩
  | inTime {r : Request} {reply : Reply} (h : c.requestFor q = .ok r)
      (inTime : reply.isLate = false) :
      Settles c q ⟨reply.seen c.network.depths.response, [⟨r, reply⟩]⟩
  | late {r : Request} {first reply : Reply} (h : c.requestFor q = .ok r)
      (late : first.isLate = true) :
      Settles c q ⟨reply.seen c.network.depths.response, [⟨r, first⟩, ⟨r, reply⟩]⟩

/-- A client after exchanges.  Their replies were taken off its script. -/
structure Exchanged (c : Client) (exchanges : List Exchange) (c' : Client) : Prop where
  route : c'.network.route = c.network.route
  depths : c'.network.depths = c.network.depths
  requestFor : c'.requestFor = c.requestFor
  sent : c'.network.sent = c.network.sent ++ exchanges
  script : ∃ n, c.network.script ++ List.replicate n Reply.afterAll =
    exchanges.map Exchange.reply ++ c'.network.script

namespace Exchanged

variable {c c₁ c' : Client} {before exchanges : List Exchange}

/-- Without a question, no exchange was made. -/
theorem refl (c : Client) : c.Exchanged [] c where
  route := rfl
  depths := rfl
  requestFor := rfl
  sent := (List.append_nil _).symm
  script := ⟨0, List.append_nil _⟩

/-- Exchanges of several questions were made one after the other. -/
theorem trans (h : c.Exchanged before c₁) (h' : c₁.Exchanged exchanges c') :
    c.Exchanged (before ++ exchanges) c' where
  route := h'.route.trans h.route
  depths := h'.depths.trans h.depths
  requestFor := h'.requestFor.trans h.requestFor
  sent := by rw [h'.sent, h.sent, List.append_assoc]
  script := by
    obtain ⟨n, first⟩ := h.script
    obtain ⟨m, second⟩ := h'.script
    -- What ran out first counts for what came after it.
    refine ⟨n + m, ?_⟩
    rw [← List.replicate_append_replicate, ← List.append_assoc, first, List.append_assoc, second,
      List.map_append, List.append_assoc]

end Exchanged

variable {c : Client}

/-- One question is settled. -/
theorem question_settled (scripted : c.network.route.IsScripted) (q : Question) :
    ∃ settled, c.Settles q settled ∧ Seen.ofRun (Act.on q.ask c) = settled.seen ∧
      c.Exchanged settled.exchanges (Act.on q.ask c).2 := by
  obtain ⟨log, asked⟩ := on_question scripted q
  cases made : c.requestFor q with
  -- A request that cannot be sent takes no reply.
  | error f =>
    rw [made] at asked
    refine ⟨_, .unsent made, by rw [asked]; rfl, ?_⟩
    rw [asked]
    exact { Exchanged.refl c with }
  -- The replies that were taken are the exchanges that were made for it.
  | ok r =>
    rw [made] at asked
    obtain ⟨n, taken⟩ := Taking.of_spec c.network.script
    have seen : Seen.ofRun (Act.on q.ask c) = (Taking.of c.network.script).last.seen
        c.network.depths.response := by
      rw [asked]
      rfl
    have exchanged : c.Exchanged ((Taking.of c.network.script).replies.map (⟨r, ·⟩))
        (Act.on q.ask c).2 := by
      rw [asked]
      refine ⟨rfl, rfl, rfl, rfl, n, ?_⟩
      rw [List.map_map]
      exact taken.trans (congrArg (· ++ _) (List.map_id _).symm)
    rcases Taking.of_cases c.network.script with ⟨inTime, parts⟩ | ⟨late, parts⟩ <;>
      rw [parts] at seen exchanged
    · exact ⟨_, .inTime made inTime, seen, exchanged⟩
    · exact ⟨_, .late made late, seen, exchanged⟩

/-- What may come of a question depends on what the requests look like, and on how deep a reply may
be. -/
theorem Settles.congr {c c' : Client} {q : Question} {settled : Settled}
    (same : c'.requestFor = c.requestFor) (depths : c'.network.depths = c.network.depths)
    (h : c'.Settles q settled) : c.Settles q settled := by
  cases h with
  | unsent h => exact .unsent (same ▸ h)
  | inTime h inTime =>
    rw [depths]
    exact .inTime (same ▸ h) inTime
  | late h late =>
    rw [depths]
    exact .late (same ▸ h) late

/-- However many questions are asked over a script, each takes its replies off the script, and what
is seen of it is seen of the last of these.  A reply without data is answered with null and
remembered, unless it is nested too deeply, in which case it is raised. -/
theorem askAll_settled (scripted : c.network.route.IsScripted) (questions : List Question) :
    (∃ settled : List Settled, List.Forall₂ c.Settles questions settled ∧
      (c.askAll questions).map Seen.ofRun = settled.map Settled.seen ∧
      c.Exchanged (settled.flatMap Settled.exchanges) (c.after questions)) ∧
    ∀ (maxDepth : Nat) (reply : Reply), reply.SeenSpec maxDepth := by
  refine ⟨?_, Reply.seen_spec⟩
  -- The induction is on the questions, for whatever client is left of those before.
  induction questions generalizing c with
  | nil => exact ⟨[], .nil, rfl, .refl c⟩
  | cons q rest ih =>
    obtain ⟨first, settles, seen, exchanged⟩ := question_settled scripted q
    obtain ⟨settled, restSettles, restSeen, restExchanged⟩ :=
      ih (c := (Act.on q.ask c).2) (by rw [exchanged.route]; exact scripted)
    refine ⟨first :: settled, .cons settles ?_, ?_, exchanged.trans restExchanged⟩
    · -- The questions before have not changed what the requests look like.
      exact restSettles.imp fun _ _ h => h.congr exchanged.requestFor exchanged.depths
    · rw [askAll, List.map_cons, seen, restSeen]
      rfl

/-! ### A reply that is raised -/

/-- A question without variables. -/
def sampleQuestion : Question := ⟨"query shop \x7b\n  name\n\x7d", .record []⟩

/-- A client over a script of replies, all of whose requests go to one address. -/
def scriptedClient (script : List Reply) : Client :=
  .new { Network.new (.new ⟨"", "", .null, .null, "http://shop"⟩ (.fresh 0 0 []))
    (.standard none) .connection .normal with script } true

/-- A text in which lists are opened over and over. -/
def deepReply : Reply := .text (String.ofList (List.replicate 3000 '['))

/-- A question that did not come in time is asked again. -/
theorem askAll_settled_sample :
    let c := scriptedClient [.timeout "slow", .json (.ofFields [("data", .int 1)]), deepReply]
    let questions := [sampleQuestion, sampleQuestion]
    c.network.route.IsScripted ∧
      (∃ settled : List Settled, List.Forall₂ c.Settles questions settled ∧
        (c.askAll questions).map Seen.ofRun = settled.map Settled.seen ∧
        c.Exchanged (settled.flatMap Settled.exchanges) (c.after questions)) ∧
      ∀ (maxDepth : Nat) (reply : Reply), reply.SeenSpec maxDepth := by
  intro c questions
  have scripted : c.network.route.IsScripted := .inl rfl
  exact ⟨scripted, askAll_settled scripted questions⟩

/-- The headers of the client can be sent. -/
theorem headers_scriptedClient :
    ((scriptedClient []).headers.mapM fun (name, v) => Network.headerOf name v).toBool = true := by
  decide +kernel

/-- The question of the sample can be sent, whatever is on the script. -/
theorem exists_requestFor_sampleQuestion (script : List Reply) :
    ∃ r, (scriptedClient script).requestFor sampleQuestion = .ok r := by
  have document : Text.Sendable (Text.trim sampleQuestion.document).toList :=
    Text.sendable_trim (by decide)
  -- The body is clean, so it arrives as it is.
  have body : (Network.arriving (bodyOf sampleQuestion.document (.record []))).toBool = true := by
    have sent : Json.sent (bodyOf sampleQuestion.document (.record [])) =
        .ok (bodyOf sampleQuestion.document (.record [])) :=
      (clean_bodyOf document Value.clean_record_nil).sent_eq
    rw [Network.arriving, sent]
    rfl
  have url : (Network.urlOf (Network.siteOf .connection) (.text "http://shop")).toBool = true := by
    decide +kernel
  exact Network.exists_requestOf url headers_scriptedClient body _

/-- The reply is too deep for any stack that takes less. -/
theorem responseOf_deepReply {maxDepth : Nat} (deeper : maxDepth < 3000) :
    responseOf maxDepth deepReply = .error (.tooDeep true) := by
  obtain ⟨⟨cause, line, column, offset⟩, rfl, read⟩ :=
    Json.readArrived_opening deeper (by decide)
  rw [deepReply, responseOf, read]
  rfl

/-- Whoever asks is told by a fault of a reply that is nested too deeply, however deeply a response
may be nested. -/
theorem seen_ask_of_deepReply {c : Client} {q : Question} {r : Request} {rest : List Reply}
    (scripted : c.network.route.IsScripted) (made : c.requestFor q = .ok r)
    (script : c.network.script = deepReply :: rest)
    (deeper : c.network.depths.response < 3000) :
    Seen.ofRun (Act.on q.ask c) = ⟨.error (.tooDeep true), .null, .null⟩ := by
  obtain ⟨log, asked⟩ := on_question scripted q
  have seen : deepReply.seen c.network.depths.response =
      ⟨.error (.tooDeep true), .null, .null⟩ := by
    rw [Reply.seen, responseOf_deepReply deeper]
    rfl
  -- The reply is in time, so it is the one that counts.
  have last : (Taking.of c.network.script).last = deepReply := by
    rw [script]
    rfl
  rw [made] at asked
  rw [asked, last, seen]
  rfl

/-- With a stack of the usual size, three thousand opened lists are too many. -/
theorem deep_reply_raised :
    Seen.ofRun (Act.on sampleQuestion.ask (scriptedClient [deepReply])) =
      ⟨.error (.tooDeep true), .null, .null⟩ := by
  obtain ⟨r, made⟩ := exists_requestFor_sampleQuestion [deepReply]
  exact seen_ask_of_deepReply (.inl rfl) made rfl (by decide)

end Client
end Storefront
