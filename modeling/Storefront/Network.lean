import Storefront.Log
import Storefront.Server

/-! # Reaching a shop

A `Network` is what clients of a shop have in common: the shop itself with its router, the way that
leads to it, what was sent that way, and what was recorded.  The way may lead straight to the
router, over HTTP to a server in front of it, or to a script of replies. -/

namespace Storefront

/-- A reply to a request over HTTP. -/
inductive Reply where
  | json (v : Value)
  | text (s : String)
  /-- No reply in time. -/
  | timeout (message : String)
  /-- No connection. -/
  | unreachable (message : String)

/-- A request over HTTP. -/
structure Request where
  url : Url
  headers : List (String × String)
  body : Value
  /-- How many seconds to wait, where the request itself says so. -/
  timeout : Option Float

/-- A request and the reply to it. -/
structure Exchange where
  request : Request
  reply : Reply

/-- The way to a shop. -/
inductive Route where
  /-- Straight to the router. -/
  | inProcess
  /-- Over HTTP to a server in front of the router. -/
  | server
  /-- Over HTTP, through a connection that is kept. -/
  | connection
  /-- Over HTTP, through a new connection each time. -/
  | single
  deriving DecidableEq, Repr

/-- How deeply lists and records may be nested in a text that is read as JSON.  What is deeper is
more than the stack of the reader holds, and how much that is depends on the machine and on the
calls that are under way. -/
structure Depths where
  /-- In the response to a client. -/
  response : Nat
  /-- In the body of a request to the server. -/
  body : Nat
  deriving DecidableEq, Repr

/-- What a stack of a thousand calls holds. -/
def Depths.usual : Depths where
  response := 980
  body := 955

/-- What the clients of a shop have in common. -/
structure Network where
  shop : Shop
  router : Router
  route : Route
  /-- The replies to come, where no server replies. -/
  script : List Reply
  /-- The exchanges of the script so far. -/
  sent : List Exchange
  log : List LogRecord
  level : LogLevel
  depths : Depths

namespace Network

/-- The way to a shop, over which nothing was sent yet. -/
def new (shop : Shop) (router : Router) (route : Route) (level : LogLevel) : Network :=
  { shop, router, route, script := [], sent := [], log := [], level, depths := .usual }

/-- Acts on the shop. -/
def inShop {α : Type} (act : Act Shop α) : Act Network α := fun n =>
  let (outcome, shop) := act n.shop
  (outcome, { n with shop := shop })

/-- Records what happened. -/
def record (severity : Severity) (message : String) (details : List (String × Value)) :
    Act Network Unit :=
  modify fun n => { n with log := n.log ++ [⟨severity, message, details⟩] }

/-- Records what happened, if the level is detailed. -/
def recordDetail (message : String) (details : List (String × Value)) : Act Network Unit := do
  if (← get).level = .detailed then record .debug message details

/-- The address of a value, within a site if there is one. -/
def urlOf (site : Option Url) (v : Value) : Except Fault Url := do
  let u ← (Url.read (← v.asText)).mapError .address
  match site with
  | some site => (site.under u).mapError .address
  | none => return u

/-- A header, which has to be a text in ASCII. -/
def headerOf (name : String) (v : Value) : Except Fault (String × String) := do
  let s ← v.asText
  match Text.unencodableAscii? s.toList with
  | some u => throw (.value (.characters u))
  | none => return (name, s)

/-- A value as it arrives where it is sent to. -/
def arriving (v : Value) : Except Fault Value := (Json.sent v).mapError .ofSendError

/-- The site that relative addresses are taken to be within; a request of its own has none. -/
def siteOf : Route → Option Url
  | .server => some Server.site
  | .single => none
  | _ => some Url.nowhere

/-- Makes a request: its address is checked first, then its headers, then its body. -/
def requestOf (route : Route) (url : Value) (headers : List (String × Value)) (body : Value)
    (timeout : Float) : Except Fault Request := do
  let url ← urlOf (siteOf route) url
  let headers ← headers.mapM fun (name, v) => headerOf name v
  return { url, headers, body := ← arriving body
           timeout := if route = .single then some timeout else none }

/-- The reply that a response of the server makes. -/
def replyOf : Server.Response → Reply
  | .json _ v => .json v
  | .text _ s => .text s

/-- The next reply of the script; an empty record once there are no more. -/
def nextReply : Act Network Reply :=
  modifyGet fun n =>
    match n.script with
    | reply :: rest => (reply, { n with script := rest })
    | [] => (.json (.record []), n)

/-- Sends a request over HTTP and takes the reply to it. -/
def exchange (request : Request) : Act Network Reply := do
  let n ← get
  match n.route with
  | .server =>
    replyOf <$> inShop (Server.request n.depths.body n.router "POST" request.url
      (.json request.body))
  | _ =>
    let reply ← nextReply
    -- A request that is not replied to was sent all the same.
    modify fun n => { n with sent := n.sent ++ [⟨request, reply⟩] }
    return reply

/-- Sends a request, and once more if there was no reply in time. -/
def exchangeTwice (request : Request) : Act Network Reply := do
  match ← exchange request with
  | .timeout _ => exchange request
  | reply => return reply

end Network
end Storefront
