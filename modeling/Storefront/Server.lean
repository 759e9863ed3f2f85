import Storefront.Router

/-! # Serving a shop over HTTP

The server answers documents on the paths of both interfaces of a shop, and has paths to ask for its
health, to look at the state of the shop and to reset it.  `Server.answer` is one exchange, and
`Server.request` is one with the server under an address. -/

namespace Storefront.Server

/-- What comes with a request. -/
inductive Body where
  | none
  /-- A value, sent as JSON. -/
  | json (v : Value)
  /-- A text that is taken for JSON. -/
  | text (s : String)

/-- What is sent back. -/
inductive Response where
  | json (status : Nat) (v : Value)
  | text (status : Nat) (s : String)

/-- The name of the server. -/
def title : String := "Storefront Checkout Mock API"

/-! ### Resources -/

/-- What a path is for. -/
inductive Resource where
  | health
  | reset
  | state
  | documents
  /-- A page that describes the server. -/
  | manual
  deriving DecidableEq, Repr

/-- Whether a resource can be asked with a method. -/
def Resource.allows : Resource → (method : String) → Bool
  | .health, m | .state, m => m = "GET"
  | .reset, m | .documents, m => m = "POST"
  | .manual, m => m = "GET" || m = "HEAD"

/-- The parts of a path between its slashes. -/
def parts (path : List Char) : List String := (Text.splitAt '/' path).map String.ofList

/-- The resource of a path given by its parts. -/
def resourceAt? : List String → Option Resource
  | ["", "health"] => some .health
  | ["", "admin", "reset"] => some .reset
  | ["", "admin", "state"] => some .state
  | ["", "api", version, "graphql.json"] => if version = "" then none else some .documents
  | ["", "admin", "api", version, "graphql.json"] => if version = "" then none else some .documents
  | ["", "openapi.json"] | ["", "docs"] | ["", "docs", "oauth2-redirect"] | ["", "redoc"] =>
    some .manual
  | _ => none

/-- The resource of a path; a line break at its end does not count. -/
def resource? (path : String) : Option Resource :=
  let cs := path.toList
  resourceAt? (parts (if cs.getLast? = some '\n' then cs.dropLast else cs))

/-! ### Redirections -/

/-- Whether a character stays as it is in the address of a redirection. -/
def isLocationChar (c : Char) : Bool :=
  Text.isUnreserved c || ":/%#?=@[]!$&'()*+,".toList.contains c

/-- The characters that a path, whose octets were read back, is taken for: octets that were written
out twice are read back once more. -/
def readAgain (path : String) : String := String.ofList (Text.percentDecode path.toList)

/-- The path that is asked for after a redirection to a path.  What looks like a query or a fragment
is not part of it. -/
def redirected (path : String) : String :=
  let cs := path.toList.takeWhile fun c => c ≠ '?' ∧ c ≠ '#'
  let cs := Url.normalPath (Text.percentEncode isLocationChar cs)
  readAgain (String.ofList (Text.percentDecode (if cs = [] then ['/'] else cs)))

/-- A path without the slashes at its end, if it has any. -/
def closed? (path : String) : Option String :=
  let cs := path.toList
  if cs.getLast? = some '/' then
    some (String.ofList (cs.reverse.dropWhile (· = '/')).reverse)
  else none

/-- The resource that a request for a path leads to, through at most a number of redirections: a
path that ends in slashes leads to the one without them if that is the path of a resource. -/
def findResource? : (redirections : Nat) → (path : String) → Except Fault (Option Resource)
  | n, path =>
    match resource? path, closed? path with
    | some r, _ => .ok (some r)
    | none, none => .ok none
    | none, some shorter =>
      if (resource? shorter).isNone then .ok none
      else match n with
        | 0 => .error (.value (.stated "Exceeded maximum allowed redirects."))
        | n + 1 => findResource? n (redirected shorter)

/-- How many redirections are followed. -/
def maxRedirections : Nat := 20

/-- A request to answer a document. -/
structure DocumentRequest where
  document : String
  vars : Value

/-- Checks the variables of a request: a record, or null. -/
def checkVariables (path : List PathStep) : Value → Checked Value
  | .null => .ok .null
  | .record fields => .ok (.record fields)
  | _ => Checked.issue path .recordExpected

/-- Places the issues of a body within the request. -/
def inBody {α : Type} (c : Checked α) : Checked α :=
  c.mapError fun issues => issues.map fun i => { i with path := .name "body" :: i.path }

/-- Checks the body of a request to answer a document. -/
def checkRequest (v : Value) : Checked DocumentRequest :=
  inBody <| match v with
    | .null => Checked.issue [] .missing
    | .record fields =>
      Checked.both DocumentRequest.mk (Checked.field fields "query" Checked.text (some ""))
        (Checked.field fields "variables" checkVariables (some (.record [])))
    | _ => Checked.issue [] .bodyExpected

/-- The record of an error. -/
def errorBody (message : String) : Value :=
  .ofFields [("errors", .list [.ofFields [("message", message)]])]

/-- The record of a refusal. -/
def detail (message : String) : Value := .ofFields [("detail", message)]

/-- Whether a fault of the shop is answered as an error. -/
def isReported : Fault → Bool
  | .rejected _ | .notFound _ _ | .emptyDocument | .emptyPrefix | .exhausted | .engine _ => true
  | _ => false

/-- The signature of a document for display. -/
def signatureText (document : String) : String :=
  match Document.signature? (some document) with
  | some s => Text.quoted s
  | none => plainWording.null

/-- Answers a document with its data or with an error. -/
def execute (r : Router) (request : DocumentRequest) : Act Shop Value := do
  let outcome : Except String (Option Value) ←
    tryCatch (Except.ok <$> r.dispatch (some request.document) request.vars) fun fault =>
      if isReported fault then return .error fault.message else throw fault
  match outcome with
  | .error message => return errorBody message
  | .ok none => return errorBody ("No mock endpoint for " ++ signatureText request.document)
  | .ok (some data) => return .ofFields [("data", data)]

/-- What the names of members start with that are not shown. -/
def hiddenMark : String := "_sa"

/-- Whether a member is shown. -/
def isShown : Key → Bool
  | .text s => !Gid.startsWith s hiddenMark
  | _ => true

mutual

/-- A value without the members that are not shown. -/
def shown : Value → Value
  | .list vs => .list (shownAll vs)
  | .record fs => .record (shownFields fs)
  | v => v

/-- The items of a list, as shown. -/
def shownAll : List Value → List Value
  | [] => []
  | v :: vs => shown v :: shownAll vs

/-- The members of a record that are shown. -/
def shownFields : List (Key × Value) → List (Key × Value)
  | [] => []
  | (k, v) :: fs => if isShown k then (k, shown v) :: shownFields fs else shownFields fs

end

/-- The response of a server that fails. -/
def failed : Response := .text 500 "Internal Server Error"

/-- The response that shows a value; what cannot be sent is a failure of the server. -/
def respond (status : Nat) (v : Value) : Response :=
  match Json.sent (shown v) with
  | .ok v => .json status v
  | .error _ => failed

/-! ### Defects of a request -/

/-- What is wrong with a part of a request, in words. -/
def issueMessage : IssueKind → String
  | .recordExpected => "Input should be a valid dictionary"
  | .bodyExpected => "Input should be a valid dictionary or object to extract fields from"
  | .textExpected => "Input should be a valid string"
  | .missing => "Field required"
  | kind => kind.code

/-- A step of a path as a value. -/
def stepValue : PathStep → Value
  | .name s => .text s
  | .index n => .int n

/-- The part of a value at the end of a path. -/
def partAt (v : Value) : List PathStep → Value
  | [] => v
  | .name s :: rest => partAt ((v.get? s).getD .null) rest
  | .index _ :: _ => .null

/-- An issue as a record; it shows the part of the body that it is about. -/
def issueValue (body : Value) (i : Issue) : Value :=
  .ofFields [("type", i.kind.code), ("loc", .list (i.path.map stepValue)),
    ("msg", issueMessage i.kind), ("input", partAt body (i.path.drop 1))]

/-- The response to a request whose body is not what it should be. -/
def unprocessable (issues : List Value) : Response :=
  respond 422 (.ofFields [("detail", .list issues)])

/-- The issue of a body that is not JSON. -/
def malformedIssue (e : Json.ReadError) : Value :=
  .ofFields [("type", IssueKind.jsonMalformed.code), ("loc", .list ["body", .int e.offset]),
    ("msg", "JSON decode error"), ("input", .record []),
    ("ctx", .ofFields [("error", e.cause.message)])]

/-! ### Answers -/

/-- The numbers of entities in the store, by kind. -/
def stateValue (s : Shop) : Value :=
  .ofFields [("prefixes", .record (s.store.counts.map fun (k, n) => (k, .int n)))]

/-- Answers a request for a document whose body has been read. -/
def answerDocument (r : Router) (body : Value) : Act Shop Response := do
  match checkRequest body with
  | .error issues => return unprocessable (issues.map (issueValue body))
  | .ok request => return respond 200 (← execute r request)

/-- Answers a request for a document; lists and records may be nested `maxDepth` times in
its body. -/
def answerBody (maxDepth : Nat) (r : Router) (body : Body) : Act Shop Response := do
  match body with
  | .none => answerDocument r .null
  | .json v => answerDocument r v
  | .text "" => answerDocument r .null
  | .text s =>
    match Json.readArrived maxDepth s with
    | .ok v => answerDocument r v
    | .error e =>
      let unreadable := Response.json 400 (detail "There was an error parsing the body")
      match e with
      | .encoding _ => return unreadable
      | .text e =>
        match e.cause with
        | .tooLong _ | .tooDeep _ => return unreadable
        | _ => return unprocessable [malformedIssue e]

/-- Answers a request for a resource. -/
def answerResource (maxDepth : Nat) (r : Router) (resource : Resource) (body : Body) :
    Act Shop Response := do
  match resource with
  | .health => return respond 200 (.ofFields [("service", title), ("status", "ok")])
  | .reset =>
    modify Shop.reset
    return respond 200 (.ofFields [("success", .bool true), ("message", "Mock state cleared")])
  | .state => return respond 200 (stateValue (← get))
  | .documents => answerBody maxDepth r body
  -- What the pages say is left out.
  | .manual => return .text 200 ""

/-- Answers a request; a fault that is not reported makes the server fail. -/
def answer (maxDepth : Nat) (r : Router) (method path : String) (body : Body) :
    Act Shop Response := do
  let response ← match ← findResource? maxRedirections path with
    | none => pure (.json 404 (detail "Not Found"))
    | some resource =>
      if resource.allows method then
        tryCatch (answerResource maxDepth r resource body) fun _ => pure failed
      else pure (.json 405 (detail "Method Not Allowed"))
  -- The body of a response is not sent to one who asks for its head.
  match response with
  | .json status _ | .text status _ =>
    return if method = "HEAD" then .text status "" else response

/-! ### Addresses -/

/-- The site of the server: a relative address is taken to be within it. -/
def site : Url := { Url.nowhere with scheme := "http", host := "localhost" }

/-- Checks that the server can be reached under an address. -/
def checkReach (u : Url) : Except Fault Unit := do
  if u.scheme = "ws" ∨ u.scheme = "wss" then throw .shape
  if u.scheme ≠ "http" ∧ u.scheme ≠ "https" then throw (.missingKey (.text u.scheme))
  -- The number of the port is looked for behind the first colon.
  match Text.cutAt ':' u.place.toList with
  | (_, some port) => discard <| (Value.text (String.ofList port)).wholeNumber
  | _ => return ()

/-- Answers a request under an address. -/
def request (maxDepth : Nat) (r : Router) (method : String) (u : Url) (body : Body) :
    Act Shop Response := do
  checkReach u
  answer maxDepth r method (readAgain u.decodedPath) body

end Storefront.Server
