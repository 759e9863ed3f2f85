import Storefront.Proofs.Asking
import Storefront.Proofs.Documents

/-! # Asking over a script of replies

A client whose way leads to a script of replies takes one reply for each request, and a second one
only where the first did not come in time.  What it answers and what it remembers as its last error
follows from the last reply; a request that cannot be sent is remembered without any reply.

* `Reply.data?`, `Reply.isWordless` : what is in a reply
* `Request.operation?` : what a request asks for
* `Taking.of` : the replies that a request takes
* `Client.ask_scripted` : all that a client may be left with -/

namespace Storefront

/-- What passed the test is a success. -/
theorem Except.exists_of_toBool {ε α : Type} {x : Except ε α} (h : x.toBool = true) :
    ∃ a, x = .ok a := by
  cases x with
  | error e => cases h
  | ok a => exact ⟨a, rfl⟩

/-! ### Members -/

/-- What is under a name in a record, null where nothing is. -/
def Value.under (v : Value) (name : String) : Value := (v.get? name).getD .null

/-- A member of a record that is not there is null. -/
theorem Value.member_of_isRecord {v : Value} (h : v.isRecord = true) (name : String) :
    v.member name = .ok (v.under name) := by
  cases v with
  | record fields => rfl
  | _ => cases h

/-- A member that is read is what is under its name. -/
theorem Value.member_eq_ok {v w : Value} {name : String} (h : v.member name = .ok w) :
    w = v.under name := by
  cases v with
  | record fields =>
    obtain rfl := Except.ok.inj h
    rfl
  | _ => cases h

/-! ### Replies and requests -/

/-- The way leads to a script of replies. -/
def Route.IsScripted (r : Route) : Prop := r = .connection ∨ r = .single

namespace Reply

/-- There was no reply, and nothing was said about why. -/
def isWordless : Reply → Bool
  | .timeout message | .unreachable message => message = ""
  | _ => false

/-- The data of a reply that is a response, nested no more than `maxDepth` times, and reports no
errors. -/
def data? (maxDepth : Nat) (r : Reply) : Option Value :=
  match Client.responseOf maxDepth r with
  | .ok v =>
    if v.isRecord && v.truthy && !(v.under "errors").truthy && !(v.under "userErrors").truthy then
      some (v.under "data")
    else none
  | .error _ => none

end Reply

/-- The operation that a request asks for. -/
def Request.operation? (r : Request) : Option Operation :=
  match r.body.get? "query" with
  | some (.text document) => Operation.ofDocument? (some document)
  | _ => none

/-! ### Faults that are remembered -/

/-- If the fault comes from a value, then there is something to say about it. -/
def Fault.Worded (f : Fault) : Prop := Client.isValueFault f = true → f.message ≠ ""

/-- What is said about a text without octets is not empty. -/
theorem Text.Unencodable.message_ne_empty (u : Text.Unencodable) : u.message ≠ "" := by
  simp [Text.Unencodable.message]

/-- A request that cannot be written says why. -/
theorem Fault.worded_ofSendError (e : Json.SendError) : (Fault.ofSendError e).Worded := by
  intro _
  cases e with
  | notFinite => decide
  | encoding u => exact u.message_ne_empty

/-- What ends in something is not empty. -/
theorem Text.append_ne_empty (s : String) {t : String} (h : t ≠ "") : s ++ t ≠ "" := by
  intro empty
  exact h (String.append_eq_empty_iff.1 empty).2

/-- JSON that cannot be read says where. -/
theorem Json.ReadError.display_ne_empty (e : Json.ReadError) : e.display ≠ "" := by
  rw [display]
  split
  · exact Text.append_ne_empty _ (by decide)
  · exact Text.append_ne_empty _ (by decide)

/-- Octets that are no text say where. -/
theorem Text.DecodeError.message_ne_empty (e : Text.DecodeError) : e.message ≠ "" := by
  unfold message
  split <;> exact Text.append_ne_empty _ (by decide)

/-- Of what arrives, JSON that is nested too deep comes from no value; all else has words. -/
theorem Fault.worded_ofArrivalError (e : Json.ArrivalError) : (Fault.ofArrivalError e).Worded := by
  intro fromValue
  unfold ofArrivalError at fromValue ⊢
  split at fromValue
  · exact Text.DecodeError.message_ne_empty _
  · cases fromValue
  · exact Json.ReadError.display_ne_empty _

/-- Whenever the check fails, there is something to say about it. -/
def WordsFaults {α : Type} (x : Except Fault α) : Prop := ∀ f, x = .error f → f.Worded

namespace WordsFaults

variable {α β : Type} {x : Except Fault α} {f : α → Except Fault β}

/-- What passes has nothing to say. -/
theorem ok (a : α) : WordsFaults (.ok a) := nofun

/-- A value of another shape is no fault of a value. -/
theorem shape : WordsFaults (.error .shape : Except Fault α) := by
  rintro _ ⟨⟩ ⟨⟩

/-- A sequence of checks has words for its faults if they do. -/
theorem bind (hx : WordsFaults x) (hf : ∀ a, WordsFaults (f a)) : WordsFaults (x >>= f) := by
  intro e he
  cases x with
  | error e' =>
    cases he
    exact hx _ rfl
  | ok a => exact hf a e he

/-- A fault that stands for an error has words if it does for each. -/
theorem mapError {ε : Type} {x : Except ε α} {g : ε → Fault} (hg : ∀ e, (g e).Worded) :
    WordsFaults (x.mapError g) := by
  intro e he
  cases x with
  | error e' =>
    obtain rfl := Except.error.inj he
    exact hg e'
  | ok a => cases he

/-- A list of checks has words for its faults if they do. -/
theorem mapM {f : α → Except Fault β} (hf : ∀ a, WordsFaults (f a)) (as : List α) :
    WordsFaults (as.mapM f) := by
  induction as with
  | nil => exact ok []
  | cons a as ih =>
    rw [List.mapM_cons]
    exact (hf a).bind fun _ => ih.bind fun _ => ok _

/-- A value that is no text is of another shape. -/
theorem asText (v : Value) : WordsFaults v.asText := by
  cases v with
  | text s => exact ok s
  | _ => exact shape

end WordsFaults

namespace Network

/-- An address that cannot be read is no fault of a value. -/
theorem words_urlOf (site : Option Url) (v : Value) : WordsFaults (urlOf site v) := by
  have address : ∀ e, (Fault.address e).Worded := fun _ => nofun
  refine (WordsFaults.asText v).bind fun s => (WordsFaults.mapError address).bind fun u => ?_
  split
  · exact .mapError address
  · exact .ok u

/-- A header that cannot be written says which character is lacking. -/
theorem words_headerOf (name : String) (v : Value) : WordsFaults (headerOf name v) := by
  refine (WordsFaults.asText v).bind fun s => ?_
  split
  · rename_i u _
    rintro _ ⟨⟩ _
    exact u.message_ne_empty
  · exact .ok _

/-- Whatever keeps a request from being sent, there is something to say about it. -/
theorem words_requestOf (route : Route) (url : Value) (headers : List (String × Value))
    (body : Value) (timeout : Float) : WordsFaults (requestOf route url headers body timeout) :=
  (words_urlOf _ _).bind fun _ => (WordsFaults.mapM (fun _ => words_headerOf _ _) _).bind fun _ =>
    (WordsFaults.mapError Fault.worded_ofSendError).bind fun _ => .ok _

end Network

/-- If there was no reply, then what is said about it is what was said; anything else that is wrong
with a reply has a message. -/
theorem Client.responseOf_eq_error {maxDepth : Nat} {r : Reply} {f : Fault}
    (h : responseOf maxDepth r = .error f) (fromValue : isValueFault f = true) : f.message ≠ "" ↔
      r.isWordless = false := by
  cases r with
  | json v => cases h
  | text s =>
    rw [responseOf] at h
    have worded : f.Worded := WordsFaults.mapError Fault.worded_ofArrivalError f h
    exact ⟨fun _ => rfl, fun _ => worded fromValue⟩
  -- The message is what was said, and it may be empty.
  | timeout message =>
    obtain rfl := Except.error.inj h
    rw [Reply.isWordless, decide_eq_false_iff_not]
    exact Iff.rfl
  | unreachable message =>
    obtain rfl := Except.error.inj h
    rw [Reply.isWordless, decide_eq_false_iff_not]
    exact Iff.rfl

/-- A reply that is a response came. -/
theorem Client.isWordless_of_responseOf {maxDepth : Nat} {r : Reply} {v : Value}
    (h : responseOf maxDepth r = .ok v) : r.isWordless = false := by
  cases r with
  | json _ => rfl
  | text _ => rfl
  | timeout _ => cases h
  | unreachable _ => cases h

/-! ### Exchanges -/

namespace Reply

/-- The reply did not come in time. -/
def isLate : Reply → Bool
  | .timeout _ => true
  | _ => false

/-- A reply that did not come in time is a timeout. -/
theorem eq_timeout_of_isLate {r : Reply} (h : r.isLate = true) :
    ∃ message, r = .timeout message := by
  cases r with
  | timeout message => exact ⟨message, rfl⟩
  | _ => cases h

/-- What is replied once a script is over. -/
def afterAll : Reply := .json (.record [])

/-- The next reply of a script, and the script after it. -/
def next : List Reply → Reply × List Reply
  | [] => (afterAll, [])
  | reply :: rest => (reply, rest)

/-- Once a script is over, it goes on with the same reply. -/
theorem next_spec (script : List Reply) :
    ∃ n, script ++ List.replicate n afterAll = (next script).1 :: (next script).2 := by
  cases script with
  | nil => exact ⟨1, rfl⟩
  | cons reply rest => exact ⟨0, List.append_nil _⟩

end Reply

/-- What a question takes of a script: a reply that did not come in time, the reply that counts, and
what is left of the script. -/
structure Taking where
  late : List Reply
  last : Reply
  rest : List Reply

namespace Taking

/-- A reply is taken, and one more if it did not come in time. -/
def of (script : List Reply) : Taking :=
  let (first, rest) := Reply.next script
  if first.isLate then ⟨[first], (Reply.next rest).1, (Reply.next rest).2⟩ else ⟨[], first, rest⟩

/-- All replies that were taken. -/
def replies (t : Taking) : List Reply := t.late ++ [t.last]

/-- One reply is taken, or two. -/
theorem of_cases (script : List Reply) :
    (Reply.next script).1.isLate = false ∧
        of script = ⟨[], (Reply.next script).1, (Reply.next script).2⟩ ∨
      (Reply.next script).1.isLate = true ∧
        of script = ⟨[(Reply.next script).1], (Reply.next (Reply.next script).2).1,
          (Reply.next (Reply.next script).2).2⟩ := by
  unfold of
  dsimp only
  cases late : (Reply.next script).1.isLate
  · exact .inl ⟨rfl, if_neg Bool.false_ne_true⟩
  · exact .inr ⟨rfl, if_pos rfl⟩

/-- What was taken and what is left make up the script. -/
theorem of_spec (script : List Reply) : ∃ n,
    script ++ List.replicate n Reply.afterAll = (of script).replies ++ (of script).rest := by
  obtain ⟨n, first⟩ := Reply.next_spec script
  rcases of_cases script with ⟨-, taken⟩ | ⟨-, taken⟩ <;> rw [taken]
  · exact ⟨n, first⟩
  · obtain ⟨m, second⟩ := Reply.next_spec (Reply.next script).2
    refine ⟨n + m, ?_⟩
    rw [← List.replicate_append_replicate, ← List.append_assoc, first, List.cons_append, second]
    rfl

end Taking

namespace Network

variable {n : Network}

/-- The network after exchanges, the last of which is known; its way is the same, and as deep. -/
structure Exchanged (n n' : Network) (x : Exchange) : Prop where
  route : n'.route = n.route
  depths : n'.depths = n.depths
  sent : ∃ earlier, n'.sent = n.sent ++ earlier ++ [x]

/-- The next reply is taken off the script. -/
theorem on_nextReply (n : Network) : Act.on nextReply n =
    (.ok (Reply.next n.script).1, { n with script := (Reply.next n.script).2 }) := by
  obtain ⟨shop, router, route, script, sent, log, level⟩ := n
  cases script <;> rfl

/-- A request is replied to by the script. -/
theorem on_exchange (h : n.route.IsScripted) (request : Request) :
    Act.on (exchange request) n = (.ok (Reply.next n.script).1,
      { n with
        script := (Reply.next n.script).2
        sent := n.sent ++ [⟨request, (Reply.next n.script).1⟩] }) := by
  unfold exchange
  rw [Act.on_bind_of_ok (Act.on_get n)]
  split
  · -- Neither of the two routes leads to the server.
    rename_i server
    obtain route | route := h <;> cases server.symm.trans route
  · rw [Act.on_bind_of_ok (on_nextReply n)]
    rfl

/-- The network after a request took its replies off the script, all of which are recorded. -/
def took (n : Network) (request : Request) : Network :=
  { n with
    script := (Taking.of n.script).rest
    sent := n.sent ++ (Taking.of n.script).replies.map (⟨request, ·⟩) }

/-- The reply that counts is the last that was taken. -/
theorem exchanged_took (n : Network) (request : Request) :
    Exchanged n (n.took request) ⟨request, (Taking.of n.script).last⟩ where
  route := rfl
  depths := rfl
  sent := ⟨(Taking.of n.script).late.map (⟨request, ·⟩), by
    rw [took, Taking.replies, List.map_append, List.append_assoc]
    rfl⟩

/-- A request is made again where the first reply did not come in time. -/
theorem on_exchangeTwice (h : n.route.IsScripted) (request : Request) :
    Act.on (exchangeTwice request) n = (.ok (Taking.of n.script).last, n.took request) := by
  rw [exchangeTwice, Act.on_bind_of_ok (on_exchange h request), took]
  -- A reply in time is the one that counts.
  rcases Taking.of_cases n.script with ⟨inTime, taken⟩ | ⟨late, taken⟩ <;> rw [taken]
  · cases hfirst : (Reply.next n.script).1 with
    | timeout message => rw [hfirst] at inTime; cases inTime
    | json v => rfl
    | text s => rfl
    | unreachable message => rfl
  · -- The second reply is taken of what the first one left.
    obtain ⟨message, first⟩ := Reply.eq_timeout_of_isLate late
    let n₁ : Network := { n with
      script := (Reply.next n.script).2
      sent := n.sent ++ [⟨request, .timeout message⟩] }
    rw [first]
    refine (on_exchange (n := n₁) h request).trans ?_
    simp only [n₁, Taking.replies, List.map_append, List.map_cons, List.map_nil,
      List.append_assoc]

/-- What arrives of a request is what arrives of its body. -/
theorem requestOf_eq_ok {route : Route} {url : Value} {headers : List (String × Value)}
    {body : Value} {timeout : Float} {r : Request}
    (h : requestOf route url headers body timeout = .ok r) : arriving body = .ok r.body := by
  obtain ⟨_, -, h⟩ := Act.except_bind_eq_ok.1 h
  obtain ⟨_, -, h⟩ := Act.except_bind_eq_ok.1 h
  obtain ⟨arrived, harrived, h⟩ := Act.except_bind_eq_ok.1 h
  obtain rfl := Except.ok.inj h
  exact harrived

/-- A request can be made if each of its parts can. -/
theorem exists_requestOf {route : Route} {url : Value} {headers : List (String × Value)}
    {body : Value} (hurl : (urlOf (siteOf route) url).toBool = true)
    (hheaders : (headers.mapM fun (name, v) => headerOf name v).toBool = true)
    (hbody : (arriving body).toBool = true) (timeout : Float) :
    ∃ r, requestOf route url headers body timeout = .ok r := by
  -- Address, headers and body are made in this order.
  obtain ⟨u, url⟩ := Except.exists_of_toBool hurl
  obtain ⟨hs, headers⟩ := Except.exists_of_toBool hheaders
  obtain ⟨arrived, body⟩ := Except.exists_of_toBool hbody
  simp only [requestOf, url, headers, body, bind, Except.bind]
  exact ⟨_, rfl⟩

/-- What arrives of a request with a document has the document in it. -/
theorem query_of_arriving {document : String} {vars body : Value}
    (h : arriving (Client.bodyOf document vars) = .ok body) :
    body.get? "query" = some (.text (Text.trim document)) := by
  have wired : body = Json.wire (Client.bodyOf document vars) := by
    rw [arriving, Json.sent] at h
    split at h
    · cases h
    · -- The name is put in before the other, which does not hide it.
      split at h
      · cases h
      · exact (Except.ok.inj h).symm
  let query : List (Key × Value) := Assoc.put [] (.text "query") (.text (Text.trim document))
  rw [wired]
  show Assoc.get? (Assoc.put query (.text "variables") _) (.text "query") = _
  rw [Assoc.get?_put_of_ne query (by decide)]
  exact Assoc.get?_put_self [] _ _

end Network

/-! ### Asking -/

namespace Client

variable {c c' : Client} {document : String} {vars a : Value}

/-- All that a client may be left with that asked with a document, and what it answers. -/
inductive Asked (c : Client) (document : String) : Value → Client → Prop
  /-- The request could not be sent. -/
  | unsent {c' : Client} (route : c'.network.route = c.network.route)
      (depths : c'.network.depths = c.network.depths)
      (sent : c'.network.sent = c.network.sent) (remembered : c'.lastError.truthy = true) :
      Asked c document .null c'
  /-- The last reply was a response without errors. -/
  | answered {c' : Client} {x : Exchange} {a : Value} (sent : c.network.Exchanged c'.network x)
      (query : x.request.body.get? "query" = some (.text (Text.trim document)))
      (data : x.reply.data? c.network.depths.response = some a)
      (forgotten : c'.lastError = .null) : Asked c document a c'
  /-- There was no such reply.  What is remembered is nothing only if nothing was said. -/
  | refused {c' : Client} {x : Exchange} (sent : c.network.Exchanged c'.network x)
      (query : x.request.body.get? "query" = some (.text (Text.trim document)))
      (data : x.reply.data? c.network.depths.response = none)
      (remembered : c'.lastError.truthy = !x.reply.isWordless) :
      Asked c document .null c'

/-- A request that can be made takes its replies, and the last of them counts. -/
theorem on_request_took (h : c.network.route.IsScripted) (document : String) (vars : Value) :
    Act.on (request document vars) c =
      match Network.requestOf c.network.route c.url c.headers (bodyOf document vars)
        Settings.standard.timeout with
      | .error f => (.error f, c)
      | .ok r => (responseOf c.network.depths.response (Taking.of c.network.script).last,
          { c with network := c.network.took r }) := by
  unfold request
  rw [Act.on_bind_of_ok (Act.on_get c), Act.on_bind, Act.on_lift]
  -- What can fail before anything is sent is making the request.
  cases Network.requestOf c.network.route c.url c.headers (bodyOf document vars)
      Settings.standard.timeout with
  | error f => rfl
  | ok r =>
    dsimp only
    rw [Act.on_bind, on_inNetwork, Network.on_exchangeTwice h]
    rfl

/-- A request is not sent, or it is replied to. -/
theorem on_request_scripted (h : c.network.route.IsScripted) (document : String) (vars : Value) :
    (∃ f, Act.on (request document vars) c = (.error f, c) ∧ f.Worded) ∨
      ∃ x n, c.network.Exchanged n x ∧
        x.request.body.get? "query" = some (.text (Text.trim document)) ∧
        Act.on (request document vars) c =
          (responseOf c.network.depths.response x.reply, { c with network := n }) := by
  rw [on_request_took h]
  cases hr : Network.requestOf c.network.route c.url c.headers (bodyOf document vars)
      Settings.standard.timeout with
  | error f => exact .inl ⟨f, rfl, Network.words_requestOf _ _ _ _ _ f hr⟩
  | ok r =>
    exact .inr ⟨_, _, c.network.exchanged_took r,
      Network.query_of_arriving (Network.requestOf_eq_ok hr), rfl⟩

/-- What a response reports: errors, errors of users, or nothing. -/
theorem failureOf?_of_record {v : Value} (record : v.isRecord = true) (full : v.truthy = true) :
    failureOf? v = .ok (
      if (v.under "errors").truthy then
        some ⟨v.under "errors", "Errors: " ++ Json.write .line (v.under "errors")⟩
      else if (v.under "userErrors").truthy then
        some ⟨v.under "userErrors", "UserErrors: " ++ Json.write .line (v.under "userErrors")⟩
      else none) := by
  rw [failureOf?, full, Value.member_of_isRecord record, Value.member_of_isRecord record]
  simp only [bind, Except.bind, Bool.not_true, Bool.false_eq_true, if_false]
  split
  · rfl
  · split <;> rfl

/-- A response reports errors, or it is a record with data. -/
theorem failureOf?_cases {maxDepth : Nat} {r : Reply} {v : Value}
    (hr : responseOf maxDepth r = .ok v) :
    let response := if v.isRecord then v else .null
    (∃ f, failureOf? response = .ok (some f) ∧ f.cause.truthy = true ∧ r.data? maxDepth = none) ∨
      (failureOf? response = .ok none ∧ response.member "data" = .ok (v.under "data") ∧
        r.data? maxDepth = some (v.under "data")) := by
  intro response
  rw [Reply.data?, hr]
  dsimp only
  by_cases full : v.isRecord = true ∧ v.truthy = true
  · obtain ⟨record, full⟩ := full
    have same : response = v := if_pos record
    rw [same, failureOf?_of_record record full, Value.member_of_isRecord record, record, full]
    by_cases errors : (v.under "errors").truthy = true
    · exact .inl ⟨_, by rw [if_pos errors], errors, by simp [errors]⟩
    · rw [if_neg errors]
      by_cases userErrors : (v.under "userErrors").truthy = true
      · -- Errors count before errors of users.
        exact .inl ⟨_, by rw [if_pos userErrors], userErrors, by simp [userErrors]⟩
      · exact .inr ⟨by rw [if_neg userErrors], rfl, by simp [errors, userErrors]⟩
  · -- Anything else is as good as an empty response.
    have empty : response.truthy = false := by
      by_cases record : v.isRecord = true
      · have same : response = v := if_pos record
        rw [same]
        simpa [record] using full
      · have null : response = .null := if_neg record
        rw [null]
        rfl
    refine .inl ⟨.ofMessage "Empty response", ?_, rfl, ?_⟩
    · rw [failureOf?, empty]
      rfl
    · apply if_neg
      intro all
      simp only [Bool.and_eq_true] at all
      exact full ⟨all.1.1.1, all.1.1.2⟩

/-- To record detail changes nothing but the log. -/
theorem on_recordDetail (message : String) (details : List (String × Value)) (c : Client) :
    ∃ log, Act.on (inNetwork (Network.recordDetail message details)) c =
      (.ok (), { c with network := c.network.withLog log }) := by
  obtain ⟨log, recorded⟩ := Network.on_recordDetail message details c.network
  exact ⟨log, by rw [on_inNetwork, recorded]⟩

/-- To fail answers null, writes to the log and remembers the cause. -/
theorem on_fail (source : String) (f : Failure) (c : Client) : ∃ log,
    Act.on (fail source f) c =
      (.ok .null, { c with network := c.network.withLog log, lastError := f.cause }) :=
  ⟨_, rfl⟩

/-- A response that reports errors is a failure. -/
theorem on_conclude_failed (source : String) {response : Value}
    (answer : Value → Except Fault Value) {f : Failure}
    (hr : failureOf? response = .ok (some f)) (c : Client) : ∃ log,
    Act.on (conclude source response answer) c =
      (.ok .null, { c with network := c.network.withLog log, lastError := f.cause }) := by
  obtain ⟨log, recorded⟩ := on_recordDetail ("Graphql." ++ source ++ " result")
    [("response", response)] c
  unfold conclude
  rw [Act.on_bind_of_ok recorded, hr, Act.on_bind_of_ok (Act.on_lift _ _)]
  exact on_fail source f _

/-- A response that reports none is answered. -/
theorem on_conclude (source : String) {response : Value} (answer : Value → Except Fault Value)
    (hr : failureOf? response = .ok none) (c : Client) : ∃ log,
    Act.on (conclude source response answer) c =
      (answer response, { c with network := c.network.withLog log }) := by
  obtain ⟨log, recorded⟩ := on_recordDetail ("Graphql." ++ source ++ " result")
    [("response", response)] c
  refine ⟨log, ?_⟩
  unfold conclude
  rw [Act.on_bind_of_ok recorded, hr, Act.on_bind_of_ok (Act.on_lift _ _)]
  rfl

/-- What is done with the response to a request, or with the fault of one that has none. -/
theorem exists_on_askServer (document : String) (vars : Value) (c : Client) : ∃ log,
    Act.on (askServer (.text document) vars) c =
      match Act.on (request document vars) { c with network := c.network.withLog log } with
      | (.ok v, c') =>
        let response := if v.isRecord then v else .null
        Act.on (conclude "http_query" response fun r => r.member "data")
          { c' with lastResponse := response }
      | (.error f, c') =>
        if isValueFault f then Act.on (fail "http_query" (.ofMessage f.message)) c'
        else (.error f, c') := by
  -- The request is noted in the log, which nothing that follows reads.
  obtain ⟨log, recorded⟩ := on_recordDetail "Graphql.http_query request" [("url", c.url)] c
  have text : (Value.text document).asText = .ok document := rfl
  refine ⟨log, ?_⟩
  unfold askServer
  rw [Act.on_bind_of_ok (Act.on_get c), Act.on_bind_of_ok recorded, text,
    Act.on_bind_of_ok (Act.on_lift _ _), Act.on_bind, Act.on_tryCatch, Act.on_map]
  rcases Act.on (request document vars) { c with network := c.network.withLog log } with ⟨f | v, c'⟩
  · dsimp only [Except.map]
    cases isValueFault f <;> rfl
  · rfl

/-- Asking over a script answers and remembers what follows from the last reply. -/
theorem askServer_scripted (h : c.network.route.IsScripted) (hnull : c.lastError = .null)
    (hr : Act.on (askServer (.text document) vars) c = (.ok a, c')) : c.Asked document a c' := by
  obtain ⟨log, asked⟩ := exists_on_askServer document vars c
  rw [asked] at hr
  have way : (c.network.withLog log).route.IsScripted := h
  rcases on_request_scripted (c := { c with network := c.network.withLog log }) way
    document vars with
    ⟨f, requested, worded⟩ | ⟨x, n, exchanged, query, requested⟩
  · -- Nothing was sent; the fault is remembered or raised.
    rw [requested] at hr
    dsimp only at hr
    by_cases fromValue : isValueFault f = true
    · rw [if_pos fromValue] at hr
      obtain ⟨⟨⟩, rfl⟩ := Prod.mk.inj hr
      exact .unsent rfl rfl rfl (decide_eq_true (worded fromValue))
    · rw [if_neg fromValue] at hr
      cases hr
  · have sent : ∀ log', c.network.Exchanged (n.withLog log') x := fun _ =>
      ⟨exchanged.route, exchanged.depths, exchanged.sent⟩
    have depths : (c.network.withLog log).depths = c.network.depths := rfl
    rw [requested, depths] at hr
    cases hresponse : responseOf c.network.depths.response x.reply with
    | error f =>
      -- There was no reply that can be read.
      rw [hresponse] at hr
      dsimp only at hr
      by_cases fromValue : isValueFault f = true
      · rw [if_pos fromValue] at hr
        obtain ⟨⟨⟩, rfl⟩ := Prod.mk.inj hr
        refine .refused (sent _) query (by rw [Reply.data?, hresponse]) ?_
        show decide (f.message ≠ "") = _
        rw [Bool.eq_iff_iff, decide_eq_true_iff, responseOf_eq_error hresponse fromValue,
          Bool.not_eq_true']
      · rw [if_neg fromValue] at hr
        cases hr
    | ok v =>
      rw [hresponse] at hr
      dsimp only at hr
      have worded := isWordless_of_responseOf hresponse
      obtain ⟨f, failed, truthy, data⟩ | ⟨sound, member, data⟩ := failureOf?_cases hresponse
      · obtain ⟨log', concluded⟩ := on_conclude_failed "http_query"
          (fun r => r.member "data") failed
          { c with network := n, lastResponse := if v.isRecord then v else .null }
        obtain ⟨⟨⟩, rfl⟩ := Prod.mk.inj (hr.symm.trans concluded)
        exact .refused (sent _) query data (by rw [worded]; exact truthy)
      · obtain ⟨log', concluded⟩ := on_conclude "http_query" (fun r => r.member "data") sound
          { c with network := n, lastResponse := if v.isRecord then v else .null }
        rw [member] at concluded
        obtain ⟨⟨⟩, rfl⟩ := Prod.mk.inj (hr.symm.trans concluded)
        exact .answered (sent _) query data hnull

/-- A way over a script leads past the router of the shop. -/
theorem on_ask_scripted (h : c.network.route.IsScripted) (document vars : Value) :
    Act.on (ask document vars) c =
      Act.on (askServer document (vars.orElse (.record []))) c.asking := by
  unfold ask
  rw [Act.on_bind_of_ok (Act.on_modify _ c), Act.on_bind_of_ok (Act.on_get _)]
  have other : c.network.route ≠ .inProcess := by
    obtain route | route := h <;> rw [route] <;> nofun
  exact congrArg (Act.on · c.asking) (if_neg other)

/-- Asking over a script. -/
theorem ask_scripted (h : c.network.route.IsScripted)
    (hr : Act.on (ask (.text document) vars) c = (.ok a, c')) : c.Asked document a c' := by
  rw [on_ask_scripted h] at hr
  cases askServer_scripted (c := c.asking) h rfl hr with
  | unsent route depths sent remembered => exact .unsent route depths sent remembered
  | answered sent query data forgotten => exact .answered sent query data forgotten
  | refused sent query data remembered => exact .refused sent query data remembered

/-- If a request can be sent, and the next reply is a response with data, then these are
the answer. -/
theorem ask_json (h : c.network.route.IsScripted) {v : Value} {rest : List Reply}
    (script : c.network.script = .json v :: rest)
    (data : (Reply.json v).data? c.network.depths.response = some a)
    (sendable : ∃ r, Network.requestOf c.network.route c.url c.headers
      (bodyOf document (vars.orElse (.record []))) Settings.standard.timeout = .ok r) :
    ∃ c', Act.on (ask (.text document) vars) c = (.ok a, c') ∧ c'.lastError = .null := by
  obtain ⟨r, made⟩ := sendable
  obtain ⟨log, asked⟩ := exists_on_askServer document (vars.orElse (.record [])) c.asking
  let c₁ : Client := { c.asking with network := c.network.withLog log }
  -- What is recorded on the way has no influence on the request.
  have requested : Act.on (request document (vars.orElse (.record []))) c₁ =
      (.ok v, { c₁ with network := c₁.network.took r }) := by
    have made₁ : Network.requestOf c₁.network.route c₁.url c₁.headers
        (bodyOf document (vars.orElse (.record []))) Settings.standard.timeout = .ok r := made
    have script₁ : c₁.network.script = .json v :: rest := script
    rw [on_request_took (c := c₁) h, made₁, script₁]
    rfl
  rw [on_ask_scripted h, asked]
  have same : Act.on (request document (vars.orElse (.record [])))
      { c.asking with network := c.asking.network.withLog log } = _ := requested
  rw [same]
  have response : responseOf c.network.depths.response (.json v) = .ok v := rfl
  obtain ⟨_, -, -, none⟩ | ⟨sound, member, some⟩ := failureOf?_cases response
  · cases none.symm.trans data
  · obtain ⟨log', concluded⟩ := on_conclude "http_query" (fun r => r.member "data") sound
      { c₁ with network := c₁.network.took r, lastResponse := if v.isRecord then v else .null }
    rw [member] at concluded
    obtain rfl := Option.some.inj (some.symm.trans data)
    exact ⟨_, concluded, rfl⟩

end Client

end Storefront
