import Storefront.Proofs.Asking
import Storefront.Proofs.Dispatch

/-! # Asking a server in front of the router

A client that reaches a server sends its document, without the blanks around it, and its variables
as JSON.  What is clean arrives as it was sent, so the server asks the router the same as a client
that asks the router itself.  What the router answers is sent back without its hidden members; what
is clean arrives as it is.

* `Operation.sendable_document` : what the services send can be sent
* `Router.dispatch_trim` : blanks around a document do not count
* `Client.Reaches` : the requests of a client reach the documents of the server
* `Service.ask_server`, `Service.ask_server_failed` : what a service gets from the server -/

namespace Storefront

open Shop
open Text (Sendable)

/-! ### Documents can be sent -/

/-- Trimming leaves nothing that cannot be sent. -/
theorem Text.sendable_trim {s : String} (h : Sendable s.toList) : Sendable (trim s).toList := by
  refine sendable_ofList (h.of_subset fun c hc => ?_)
  have kept : c ∈ trimStart s.toList :=
    List.mem_reverse.1 ((List.dropWhile_suffix _).subset (List.mem_reverse.1 hc))
  exact (List.dropWhile_suffix _).subset kept

namespace Document

mutual

/-- The texts of the fields of a selection. -/
def Selection.texts : Selection → List String
  | .field text => [text]
  | .nested _ text children => text :: textsOf children

/-- The texts of the fields of a list of selections. -/
def textsOf : List Selection → List String
  | [] => []
  | s :: rest => s.texts ++ textsOf rest

end

/-- Indenting a text leaves it one that can be sent. -/
theorem sendable_indented (column : Nat) {text : String} (h : Sendable text.toList) :
    Sendable (indented column text).toList :=
  .append_text (Text.sendable_ofList (.replicate column (by decide))) h

mutual

/-- The lines of a selection can be sent if the texts of its fields can. -/
theorem Selection.sendable_lines : ∀ (s : Selection) (column : Nat),
    (∀ t ∈ s.texts, Sendable t.toList) → ∀ line ∈ s.lines column, Sendable line.toList
  | .field text, column, h => by
    rw [Selection.lines]
    exact List.forall_mem_singleton.2
      (sendable_indented column (h text (List.mem_singleton_self _)))
  | .nested inner text children, column, h => by
    obtain ⟨first, rest⟩ := List.forall_mem_cons.1 h
    rw [Selection.lines, List.cons_append, List.forall_mem_cons, List.forall_mem_append,
      List.forall_mem_singleton]
    exact ⟨sendable_indented column (.append_text first (by decide)),
      sendable_linesOf children (column + inner) rest, sendable_indented column (by decide)⟩

/-- So can the lines of a list of selections. -/
theorem sendable_linesOf : ∀ (ss : List Selection) (column : Nat),
    (∀ t ∈ textsOf ss, Sendable t.toList) → ∀ line ∈ linesOf column ss, Sendable line.toList
  | [], _, _ => fun _ hl => absurd hl List.not_mem_nil
  | s :: rest, column, h => by
    rw [textsOf, List.forall_mem_append] at h
    rw [linesOf, List.forall_mem_append]
    exact ⟨s.sendable_lines column h.1, sendable_linesOf rest column h.2⟩

end

/-- Lines that can be sent are a text that can. -/
theorem sendable_unlines {lines : List String} (h : ∀ line ∈ lines, Sendable line.toList) :
    Sendable (unlines lines).toList := by
  induction lines with
  | nil => decide
  | cons line rest ih =>
    obtain ⟨first, rest⟩ := List.forall_mem_cons.1 h
    exact .append_text (.append_text first (by decide)) (ih rest)

/-- Lines that continue a text are a text that can be sent. -/
theorem sendable_continuation {lines : List String} (h : ∀ line ∈ lines, Sendable line.toList) :
    Sendable (continuation lines).toList := by
  induction lines with
  | nil => decide
  | cons line rest ih =>
    obtain ⟨first, rest⟩ := List.forall_mem_cons.1 h
    exact .append_text (.append_text (by decide) first) (ih rest)

/-- An operation can be sent if its header and the texts of its selection can. -/
theorem sendable_operation {header : String} {root : Selection} (hheader : Sendable header.toList)
    (hroot : ∀ t ∈ root.texts, Sendable t.toList) : Sendable (operation header root).toList := by
  refine .append_text (by decide) (sendable_unlines (Selection.sendable_lines _ _ ?_))
  rw [group, Selection.texts, List.forall_mem_cons, textsOf, textsOf, List.append_nil]
  exact ⟨hheader, hroot⟩

/-- So can an operation with a directive. -/
theorem sendable_directed {header line : String} {root : Selection}
    (hheader : Sendable header.toList) (hline : Sendable line.toList)
    (hroot : ∀ t ∈ root.texts, Sendable t.toList) :
    Sendable (directed header line root).toList := by
  refine .append_text (by decide) (sendable_unlines ?_)
  rw [List.cons_append, List.forall_mem_cons, List.cons_append, List.forall_mem_cons,
    List.forall_mem_append, List.forall_mem_singleton]
  exact ⟨hheader, sendable_indented 2 (.append_text hline (by decide)),
    root.sendable_lines 4 hroot, by decide⟩

/-- Two texts can be sent together if each can be sent. -/
theorem sendable_append_iff {s t : String} :
    Sendable (s ++ t).toList ↔ Sendable s.toList ∧ Sendable t.toList := by
  rw [String.toList_append]
  exact List.forall_mem_append

/-- What the services send for a mutation can be sent, if what it is completed with can. -/
theorem sendable_mutationFor {entity header root : String} (hentity : Sendable entity.toList)
    (hheader : Sendable header.toList) (hroot : Sendable root.toList) :
    Sendable (mutationFor entity header root).toList := by
  refine sendable_operation (.append_text (by decide) hheader) ?_
  simp only [idOf, userErrors, group, fields, List.map_cons, List.map_nil, Selection.texts,
    textsOf, List.append_nil, List.nil_append, List.cons_append, List.forall_mem_cons]
  exact ⟨hroot, hentity, by decide, by decide, by decide, by decide,
    fun _ h => absurd h List.not_mem_nil⟩

/-- What the document for a whole cart is completed with can be sent. -/
theorem sendable_sellingPlanAllocation : Sendable sellingPlanAllocation.toList := by
  refine sendable_continuation (Selection.sendable_lines _ _ ?_)
  simp only [group, fields, List.map_cons, List.map_nil, Selection.texts, textsOf, List.append_nil,
    List.forall_mem_cons]
  rw [String.toList_ofList]
  exact ⟨by decide +kernel, by decide, by decide, fun _ h => absurd h List.not_mem_nil⟩

end Document

/-- What the services send can be sent. -/
theorem Operation.sendable_document (o : Operation) {allocation : String}
    (h : Sendable allocation.toList) : Sendable (o.document allocation).toList := by
  cases o with
  -- The document has a directive, and the longest selection; `h` is for what it is completed with.
  | cartGet =>
    refine Document.sendable_directed ?_ ?_ ?_
    · rw [String.toList_ofList]; decide +kernel
    · rw [String.toList_ofList]; decide +kernel
    · simp only [Document.group, Document.fields, Document.money, Document.merchandise,
        List.map_cons, List.map_nil, Document.Selection.texts, Document.textsOf, List.append_nil,
        List.nil_append, List.cons_append, List.forall_mem_cons, Document.sendable_append_iff]
      repeat' apply And.intro
      -- What is left is one text of a field after the other.
      all_goals first
        | rw [String.toList_ofList]; decide +kernel
        | exact h
        | exact fun _ h => absurd h List.not_mem_nil
  | cartBuyerIdentityUpdate | groupGet | groupsList | groupDelete =>
    refine Document.sendable_operation ?_ ?_
    · rw [String.toList_ofList]; decide +kernel
    · simp only [Document.group, Document.fields, Document.titles, Document.planFields,
        Document.userErrors, List.map_cons, List.map_nil, Document.Selection.texts,
        Document.textsOf, List.append_nil, List.nil_append, List.cons_append, List.forall_mem_cons]
      repeat' apply And.intro
      all_goals first
        | rw [String.toList_ofList]; decide +kernel
        | exact fun _ h => absurd h List.not_mem_nil
  -- All other documents are mutations of one shape.
  | _ => apply Document.sendable_mutationFor <;> rw [String.toList_ofList] <;> decide +kernel

/-! ### What a document is read as -/

namespace Router

variable {document document' : String}

/-- The shop's own handlers see nothing of a document but what it is read as. -/
theorem ownHandler_congr (factory : Option Factory) (o : Operation) {vars : Value}
    (read : Document.parse (some document) vars = Document.parse (some document') vars) :
    ownHandler factory o document vars = ownHandler factory o document' vars := by
  -- Each handler reads the document once, or not at all.
  cases o <;> simp only [ownHandler, Answer.cartGet, Answer.cartLinesAdd, Answer.cartLinesUpdate,
    Answer.cartLinesRemove, Answer.cartNoteUpdate, Answer.cartAttributesUpdate,
    Answer.cartDiscountCodesUpdate, Answer.forKnownCart, Answer.groupsList, read]

/-- Documents of one signature that are read as the same are dispatched the same. -/
theorem dispatch_congr (factory : Option Factory)
    (signature : Document.signature? (some document) = Document.signature? (some document'))
    {vars : Value} (read : Document.parse (some document) (vars.orElse (.record [])) =
      Document.parse (some document') (vars.orElse (.record []))) :
    (standard factory).dispatch (some document) vars =
      (standard factory).dispatch (some document') vars := by
  -- Neither the document nor the variables are looked at apart from the signature and the parse.
  unfold dispatch
  simp only [read, signature, handler?_standard, Option.getD_some]
  cases Document.signature? (some document') with
  | none => rfl
  | some signature =>
    dsimp only
    cases Operation.ofSignature? signature with
    | none => rfl
    | some o => simp only [Option.map_some, ownHandler_congr factory o read]

/-- A document is dispatched as it is without the blanks around it. -/
theorem dispatch_trim (factory : Option Factory) (document : String) (vars : Value) :
    (standard factory).dispatch (some (Text.trim document)) vars =
      (standard factory).dispatch (some document) vars :=
  dispatch_congr factory (Document.signature?_trim document) (Document.parse_trim document _)

end Router

/-! ### The context of a shop -/

namespace Shop

/-- A draw does not move the shop. -/
theorem Draws.context_eq {s s' : Shop} (h : Draws s s') : s'.context = s.context := by
  induction h with
  | refl => rfl
  | tail _ step ih => cases step <;> exact ih

/-- Making a variant does not move the shop. -/
theorem Growth.context_eq {s s' : Shop} (h : Growth s s') : s'.context = s.context := by
  cases h with
  | draw h => exact Draws.context_eq (.single h)
  | variant _ drawn _ _ _ => exact drawn.context_eq

/-- A step aside from carts does not move the shop. -/
theorem SideStep.context_eq {s s' : Shop} (h : SideStep s s') : s'.context = s.context := by
  cases h with
  | growth h => exact h.context_eq
  | product _ drawn _ => exact drawn.context_eq
  | _ => rfl

/-- However much is made on the way, the shop is not moved. -/
theorem Grows.context_eq {s s' : Shop} (h : Grows s s') : s'.context = s.context := by
  induction h with
  | refl => rfl
  | tail _ h ih => exact h.context_eq.trans ih

/-- Nothing that happens to a shop moves it. -/
theorem Steps.context_eq {s s' : Shop} (h : Steps s s') : s'.context = s.context := by
  induction h with
  | refl => rfl
  | tail _ h ih =>
    refine Eq.trans ?_ ih
    -- Steps are made aside from carts, or they change one cart.
    cases h with
    | side h => exact h.context_eq
    | edited hc h now => exact (Edited.grows h).context_eq
    | priced hc h hp => exact h.context_eq
    | _ => rfl

end Shop

/-! ### Requests that reach the server -/

/-- The requests of a client reach the documents of the server, wherever the shop is. -/
structure Client.Reaches (c : Client) : Prop where
  url : ∃ u, Network.urlOf (some Server.site) c.url = .ok u ∧ Server.checkReach u = .ok () ∧
    Server.findResource? Server.maxRedirections (Server.readAgain u.decodedPath) =
      .ok (some .documents)
  headers : ∃ hs, (c.headers.mapM fun (name, v) => Network.headerOf name v) = .ok hs

/-- What is reached does not depend on what the client was asked before. -/
theorem Client.Reaches.congr {c c' : Client} (h : c.Reaches)
    (hcontext : c'.network.shop.context = c.network.shop.context)
    (hstorefront : c'.storefront = c.storefront) : c'.Reaches := by
  have url : c'.url = c.url := by rw [Client.url, Client.url, hcontext, hstorefront]
  have headers : c'.headers = c.headers := by
    rw [Client.headers, Client.headers, hcontext, hstorefront]
  exact ⟨url ▸ h.url, headers ▸ h.headers⟩

/-! ### Answering a request -/

namespace Server

variable {r : Router} {document : String} {vars response received : Value}
  {fields : List (Key × Value)} {s s' : Shop}

/-- What a client sends is read as the document and the variables. -/
theorem checkRequest_bodyOf (document : String) (fields : List (Key × Value)) :
    checkRequest (Client.bodyOf document (.record fields)) =
      .ok ⟨Text.trim document, .record fields⟩ := by
  simp [checkRequest, Client.bodyOf, Value.orElse_record, inBody, Value.ofFields, Checked.field,
    Assoc.get?, Checked.text, checkVariables, Checked.both, Except.mapError]

/-- What the router answers is sent as data. -/
theorem execute_answered {data : Value}
    (hd : Act.on (r.dispatch (some document) vars) s = (.ok (some data), s')) :
    Act.on (execute r ⟨document, vars⟩) s = (.ok (.ofFields [("data", data)]), s') := by
  unfold execute
  rw [Act.on_bind, Act.on_tryCatch, Act.on_map, hd]
  rfl

/-- A fault that is reported is sent as an error. -/
theorem execute_failed {fault : Fault}
    (hd : Act.on (r.dispatch (some document) vars) s = (.error fault, s'))
    (hr : isReported fault = true) :
    Act.on (execute r ⟨document, vars⟩) s = (.ok (errorBody fault.message), s') := by
  unfold execute
  rw [Act.on_bind, Act.on_tryCatch, Act.on_map, hd]
  dsimp only [Except.map]
  rw [if_pos hr]
  rfl

/-- A request that reaches the documents is answered with what the router answers, as it arrives. -/
theorem on_request (maxDepth : Nat) {u : Url} (hreach : checkReach u = .ok ())
    (hpath : findResource? maxRedirections (readAgain u.decodedPath) = .ok (some .documents))
    (he : Act.on (execute r ⟨Text.trim document, .record fields⟩) s = (.ok response, s'))
    (harrives : Arrives response received) :
    let body := Client.bodyOf document (.record fields)
    Act.on (request maxDepth r "POST" u (.json body)) s = (.ok (.json 200 received), s') := by
  intro body
  -- The body is checked as a request, and the router's answer is sent back as it arrives.
  have answered : Act.on (answerResource maxDepth r .documents (.json body)) s =
      (.ok (.json 200 received), s') := by
    change Act.on (answerDocument r body) s = _
    unfold answerDocument
    rw [checkRequest_bodyOf document fields]
    dsimp only
    rw [Act.on_bind_of_ok he, respond, harrives]
    rfl
  -- Requests of this kind are allowed there, so no redirection and no refusal comes in between.
  have allowed : Resource.documents.allows "POST" = true := by decide
  unfold request answer
  rw [hreach, Act.on_bind_of_ok (Act.on_lift _ s), hpath, Act.on_bind, Act.on_lift]
  dsimp only
  rw [if_pos allowed, Act.on_bind, Act.on_tryCatch, answered]
  rfl

end Server

/-! ### Asking the server -/

namespace Client

variable {c : Client} {document : String} {fields : List (Key × Value)} {response received : Value}
  {shop : Shop}

/-- What a client sends is clean if the document can be sent and the variables are clean. -/
theorem clean_bodyOf (hdocument : Sendable (Text.trim document).toList)
    (hfields : (Value.record fields).Clean) : (bodyOf document (.record fields)).Clean := by
  rw [bodyOf, Value.orElse_record]
  exact Value.clean_ofFields ["query", "variables"] rfl (by decide) (by decide)
    ⟨.text hdocument, hfields⟩

section

variable (hreaches : c.Reaches) (hroute : c.network.route = .server)
  (hdocument : Sendable (Text.trim document).toList) (hfields : (Value.record fields).Clean)

include hreaches hroute hdocument hfields

/-- A request to the server is answered with what arrives of its response. -/
theorem on_request
    (he : Act.on (Server.execute c.network.router ⟨Text.trim document, .record fields⟩)
      c.network.shop = (.ok response, shop)) (harrives : Server.Arrives response received) :
    Act.on (request document (.record fields)) c =
      (.ok received, { c with network := { c.network with shop } }) := by
  obtain ⟨⟨u, hurl, hreach, hpath⟩, hs, hheaders⟩ := hreaches
  -- The request can be made: all its parts can be sent as they are.
  have made : Network.requestOf c.network.route c.url c.headers
      (bodyOf document (.record fields)) Settings.standard.timeout =
      .ok ⟨u, hs, bodyOf document (.record fields), none⟩ := by
    unfold Network.requestOf
    rw [hroute]
    simp only [Network.siteOf, hurl, hheaders, Network.arriving,
      (clean_bodyOf hdocument hfields).sent_eq, Except.mapError, bind, Except.bind]
    rfl
  -- The server answers at once, and what it sends is what arrives.
  have exchanged : Act.on (Network.exchange ⟨u, hs, bodyOf document (.record fields), none⟩)
      c.network = (.ok (.json received), { c.network with shop }) := by
    unfold Network.exchange
    rw [Act.on_bind_of_ok (Act.on_get _)]
    split
    · rw [Act.on_map, Network.on_inShop, Server.on_request _ hreach hpath he harrives]
      rfl
    · exact absurd hroute ‹_›
  -- An answer that is no redirection is not asked for twice.
  have twice : Act.on (Network.exchangeTwice ⟨u, hs, bodyOf document (.record fields), none⟩)
      c.network = (.ok (.json received), { c.network with shop }) := by
    unfold Network.exchangeTwice
    rw [Act.on_bind_of_ok exchanged]
    rfl
  unfold request
  rw [Act.on_bind_of_ok (Act.on_get c), made, Act.on_bind_of_ok (Act.on_lift _ c), Act.on_bind,
    on_inNetwork, twice]
  rfl

/-- What arrives of a response is looked at. -/
theorem on_askServer {answers : List (String × Value)}
    (he : Act.on (Server.execute c.network.router ⟨Text.trim document, .record fields⟩)
      c.network.shop = (.ok response, shop))
    (harrives : Server.Arrives response (.ofFields answers)) :
    ∃ c₁, c.Moved c₁ shop ∧ c₁.lastError = c.lastError ∧
      Act.on (askServer (.text document) (.record fields)) c =
        Act.on (conclude "http_query" (.ofFields answers) fun r => r.member "data") c₁ := by
  obtain ⟨c₁, h₁, hmoved, herror⟩ := moved_recordDetail "Graphql.http_query request"
    [("url", c.url)] c
  -- Remembering the detail of the request changes nothing that it depends on.
  have reaches : c₁.Reaches := hreaches.congr (by rw [hmoved.shop]) hmoved.storefront
  rw [← hmoved.router, ← hmoved.shop] at he
  have requested := on_request reaches (hmoved.route.trans hroute) hdocument hfields he harrives
  refine ⟨{ c₁ with network := { c₁.network with shop }, lastResponse := .ofFields answers },
    ⟨rfl, hmoved.router, hmoved.route, hmoved.storefront⟩, herror, ?_⟩
  have text : (Value.text document).asText = .ok document := rfl
  unfold askServer
  rw [Act.on_bind_of_ok (Act.on_get c), Act.on_bind_of_ok h₁, text,
    Act.on_bind_of_ok (Act.on_lift _ c₁), Act.on_bind, Act.on_tryCatch, Act.on_map, requested]
  rfl

/-- The data that arrive are handed on. -/
theorem moved_askServer {data : Value}
    (he : Act.on (Server.execute c.network.router ⟨Text.trim document, .record fields⟩)
      c.network.shop = (.ok response, shop))
    (harrives : Server.Arrives response (.ofFields [("data", data)])) :
    ∃ c', Act.on (askServer (.text document) (.record fields)) c = (.ok data, c') ∧
      c.Moved c' shop ∧ c'.lastError = c.lastError := by
  obtain ⟨c₁, hmoved, herror, asked⟩ :=
    on_askServer hreaches hroute hdocument hfields he harrives
  -- Data alone are no failure.
  have sound : failureOf? (.ofFields [("data", data)]) = .ok none :=
    failureOf?_single (by decide) (by decide) data
  obtain ⟨c₂, concluded, hmoved₂, herror₂⟩ := moved_conclude "http_query"
    (fun r => r.member "data") sound (v := data) rfl c₁
  rw [hmoved.shop] at hmoved₂
  exact ⟨c₂, asked.trans concluded, hmoved.trans hmoved₂, herror₂.trans herror⟩

/-- The errors that arrive are remembered. -/
theorem moved_askServer_failed {message : String}
    (he : Act.on (Server.execute c.network.router ⟨Text.trim document, .record fields⟩)
      c.network.shop = (.ok (Server.errorBody message), shop))
    (hmessage : Sendable message.toList) :
    ∃ c', Act.on (askServer (.text document) (.record fields)) c = (.ok .null, c') ∧
      c.Moved c' shop ∧ c'.lastError = .list [.ofFields [("message", message)]] := by
  let errors := Value.list [.ofFields [("message", .text message)]]
  -- The report is a record with one clean member, so it arrives as it is.
  have herrors : errors.Clean :=
    .list (List.forall_mem_singleton.2 (Value.clean_single (by decide) (.text hmessage)))
  have reported : failureOf? (.ofFields [("errors", errors)]) =
      .ok (some ⟨errors, "Errors: " ++ Json.write .line errors⟩) := rfl
  obtain ⟨c₁, hmoved, -, asked⟩ := on_askServer hreaches hroute hdocument hfields he
    (Value.clean_single (by decide) herrors).arrives
  obtain ⟨c₂, concluded, hmoved₂, herror₂⟩ := moved_conclude_failed "http_query"
    (fun r => r.member "data") reported c₁
  rw [hmoved.shop] at hmoved₂
  exact ⟨c₂, asked.trans concluded, hmoved.trans hmoved₂, herror₂⟩

end

/-- A client that reaches a server asks it. -/
theorem on_ask_server (hroute : c.network.route = .server) (document : Value)
    (fields : List (Key × Value)) :
    Act.on (ask document (.record fields)) c =
      Act.on (askServer document (.record fields)) c.asking := by
  have other : c.network.route ≠ .inProcess := hroute ▸ nofun
  unfold ask
  rw [Act.on_bind_of_ok (Act.on_modify _ c), Act.on_bind_of_ok (Act.on_get _), if_neg other,
    Value.orElse_record]
  rfl

end Client

namespace Service

variable {v : Service} {document : String} {fields : List (Key × Value)} {response : Value}
  {shop : Shop} (hreaches : v.client.Reaches) (hroute : v.client.network.route = .server)
  (hdocument : Sendable (Text.trim document).toList) (hfields : (Value.record fields).Clean)

include hreaches hroute hdocument hfields

/-- What arrives of the data that the router answers is what a service gets from the server. -/
theorem ask_server {data received : Value}
    (hd : Act.on (v.client.network.router.dispatch (some (Text.trim document)) (.record fields))
      v.client.network.shop = (.ok (some data), shop))
    (harrives : Server.Arrives (.ofFields [("data", data)]) (.ofFields [("data", received)])) :
    ∃ v', Act.on (ask document (.record fields)) v = (.ok received, v') ∧ v.Moved v' shop ∧
      v'.client.lastError = .null := by
  obtain ⟨c', h, hmoved, herror⟩ := Client.moved_askServer (c := v.client.asking)
    (hreaches.congr rfl rfl) hroute hdocument hfields (Server.execute_answered hd) harrives
  exact moved_ask ((Client.on_ask_server hroute _ fields).trans h) hmoved herror

/-- If the router fails in a way that is reported, the service gets null from the server and
remembers why. -/
theorem ask_server_failed {fault : Fault}
    (hd : Act.on (v.client.network.router.dispatch (some (Text.trim document)) (.record fields))
      v.client.network.shop = (.error fault, shop))
    (hr : Server.isReported fault = true) (hmessage : Sendable fault.message.toList) :
    ∃ v', Act.on (ask document (.record fields)) v = (.ok .null, v') ∧ v.Moved v' shop ∧
      v'.client.lastError = .list [.ofFields [("message", fault.message)]] := by
  obtain ⟨c', h, hmoved, herror⟩ := Client.moved_askServer_failed (c := v.client.asking)
    (hreaches.congr rfl rfl) hroute hdocument hfields (Server.execute_failed hd hr) hmessage
  exact moved_ask ((Client.on_ask_server hroute _ fields).trans h) hmoved herror

end Service
end Storefront
