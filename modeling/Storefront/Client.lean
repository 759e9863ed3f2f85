import Storefront.Network
import Storefront.Settings

/-! # Asking a shop

A `Client` sends documents to one interface of a shop.  A failed request never fails for the caller:
it is recorded, remembered as the last error, and answered with null. -/

namespace Storefront

/-- A client of one interface of a shop. -/
structure Client where
  network : Network
  /-- Whether it is the interface for customers, rather than the one for the owner. -/
  storefront : Bool
  lastError : Value
  lastResponse : Value

/-- An action on a part of what is remembered. -/
def Act.onPart {σ τ α : Type} (part : σ → τ) (replace : τ → σ → σ) (act : Act τ α) : Act σ α :=
  fun s =>
    let (outcome, t) := act (part s)
    (outcome, replace t s)

namespace Client

/-- A client that has not asked for anything. -/
def new (network : Network) (storefront : Bool) : Client := ⟨network, storefront, .null, .null⟩

/-- Acts on the network. -/
def inNetwork {α : Type} (act : Act Network α) : Act Client α :=
  Act.onPart Client.network (fun n c => { c with network := n }) act

/-- The address of the interface. -/
def url (c : Client) : Value := c.network.shop.context.endpointUrl c.storefront

/-- The headers of the client's requests. -/
def headers (c : Client) : List (String × Value) := c.network.shop.context.headers c.storefront

/-- Why a request failed: what to remember of it, unless it is the message, and the message. -/
structure Failure where
  cause : Value
  message : String

/-- A failure that is remembered by its message. -/
def Failure.ofMessage (message : String) : Failure := ⟨.text message, message⟩

/-- Why a response is a failure, if it is one: it is empty, or it reports errors. -/
def failureOf? (response : Value) : Except Fault (Option Failure) := do
  -- The errors arrived as JSON, so their whole numbers are not too long to be written again.
  if !response.truthy then return some (.ofMessage "Empty response")
  let errors ← response.member "errors"
  if errors.truthy then return some ⟨errors, "Errors: " ++ Json.write .line errors⟩
  let userErrors ← response.member "userErrors"
  if userErrors.truthy then
    return some ⟨userErrors, "UserErrors: " ++ Json.write .line userErrors⟩
  return none

/-- Records and remembers a failure. -/
def fail (source : String) (f : Failure) : Act Client Value := do
  modify fun c => { c with lastError := f.cause }
  inNetwork <| Network.record .error ("Graphql." ++ source ++ " failed")
    [("error", .text f.message)]
  return .null

/-- Records a response; a failure is remembered, else the answer is taken from it. -/
def conclude (source : String) (response : Value) (answer : Value → Except Fault Value) :
    Act Client Value := do
  inNetwork <| Network.recordDetail ("Graphql." ++ source ++ " result") [("response", response)]
  match ← failureOf? response with
  | some f => fail source f
  | none => answer response

/-- A document given as a value; anything falsy is none. -/
def documentOf (v : Value) : Except Fault (Option String) :=
  if v.truthy then some <$> v.asText else .ok none

/-- Asks the router itself. -/
def askRouter (document vars : Value) : Act Client Value := do
  let text ← documentOf document
  let router := (← get).network.router
  inNetwork <| Network.recordDetail "Graphql.mock_query request"
    [("endpoint", Value.ofText? (router.resolve text))]
  let outcome : Except String (Option Value) ←
    tryCatch (Except.ok <$> inNetwork (Network.inShop (router.dispatch text vars)))
      fun fault => if Server.isReported fault then return .error fault.message else throw fault
  match outcome with
  | .error message => fail "mock_query" (.ofMessage message)
  | .ok response => conclude "mock_query" (Value.ofOption response) .ok

/-- Whether a fault comes from a value, rather than from its shape. -/
def isValueFault : Fault → Bool
  | .value _ | .invalid _ => true
  | _ => false

/-- The response of a reply, in which lists and records may be nested `maxDepth` times, or why there
is none. -/
def responseOf (maxDepth : Nat) : Reply → Except Fault Value
  | .json v => .ok v
  | .text s => (Json.readArrived maxDepth s).mapError .ofArrivalError
  | .timeout message | .unreachable message => .error (.value (.stated message))

/-- What is sent to ask with a document. -/
def bodyOf (document : String) (vars : Value) : Value :=
  .ofFields [("query", Text.trim document), ("variables", vars.orElse (.record []))]

/-- Sends a document over HTTP and takes the response. -/
def request (document : String) (vars : Value) : Act Client Value := do
  let c ← get
  let request ← Network.requestOf c.network.route c.url c.headers (bodyOf document vars)
    Settings.standard.timeout
  responseOf c.network.depths.response (← inNetwork (Network.exchangeTwice request))

/-- Asks over HTTP. -/
def askServer (document vars : Value) : Act Client Value := do
  inNetwork <| Network.recordDetail "Graphql.http_query request" [("url", (← get).url)]
  let document ← document.asText
  let outcome : Except String Value ←
    tryCatch (Except.ok <$> request document vars) fun fault =>
      if isValueFault fault then return .error fault.message else throw fault
  match outcome with
  | .error message => fail "http_query" (.ofMessage message)
  | .ok response =>
    -- Only a record is remembered; anything else counts as an empty response.
    let response := if response.isRecord then response else .null
    modify fun c => { c with lastResponse := response }
    conclude "http_query" response fun r => r.member "data"

/-- Sends a document; the answer is null if that failed. -/
def ask (document vars : Value) : Act Client Value := do
  modify fun c => { c with lastError := .null, lastResponse := .null }
  let vars := vars.orElse (.record [])
  if (← get).network.route = .inProcess then askRouter document vars
  else askServer document vars

end Client
end Storefront
