import Storefront.Assoc
import Storefront.Decimal.Literal
import Storefront.Host

/-! # Addresses

A `Url` is an address in the form in which it is sent: scheme and host in lower case, no port where
the scheme implies it, no dots as parts of the path, and every character that may not stand in its
part written by its octets.  An address without a scheme or a host is relative.

* `Url.read` : the address of a text, or what is wrong with the text
* `Url.under` : an address within the site of another -/

namespace Storefront

/-- A part of an address. -/
inductive UrlPart where
  | path
  | query
  deriving DecidableEq, Repr

/-- The name of a part. -/
def UrlPart.name : UrlPart → String
  | .path => "path"
  | .query => "query"

/-- Why a text is no address. -/
inductive UrlError where
  | tooLong
  | partTooLong (part : UrlPart)
  /-- A control character stands in the text. -/
  | control (c : Char) (position : Nat)
  | host (e : Host.HostError)
  | port (text : String)
  /-- Behind a host stands a path without a slash. -/
  | unrooted
  /-- An address without a host begins with two slashes. -/
  | doubleSlash
  /-- An address without a scheme begins with a colon. -/
  | colon
  deriving DecidableEq, Repr

/-- What is wrong with an address, in words. -/
def UrlError.message : UrlError → String
  | .tooLong => "URL too long"
  | .partTooLong part => "URL component '" ++ part.name ++ "' too long"
  | .control c position =>
    "Invalid non-printable ASCII character in URL, " ++ Text.quoted c.toString ++ " at position " ++
      Decimal.whole position ++ "."
  | .host e => e.message
  | .port text => "Invalid port: " ++ Text.quoted text
  | .unrooted => "For absolute URLs, path must be empty or begin with '/'"
  | .doubleSlash => "Relative URLs cannot have a path starting with '//'"
  | .colon => "Relative URLs cannot have a path starting with ':'"

/-- An address. -/
structure Url where
  scheme : String
  /-- Who asks, empty if nobody is named. -/
  userinfo : String
  host : String
  port : Option Int
  path : String
  query : Option String
  fragment : Option String
  deriving DecidableEq, Repr

namespace Url

/-- The greatest length of an address or a part of it. -/
def maxLength : Nat := 65536

/-! ### Characters -/

/-- Whether a character can be seen, or is the space, and is none of the given ones. -/
def isOtherThan (reserved : String) (c : Char) : Bool :=
  32 ≤ c.toNat && c.toNat < 127 && !reserved.toList.contains c

/-- Whether a character stays as it is in a path. -/
def isPathChar : Char → Bool := isOtherThan " \"#<>?`\x7b\x7d"

/-- Whether a character stays as it is in a query. -/
def isQueryChar : Char → Bool := isOtherThan " \"#<>"

/-- Whether a character stays as it is in a fragment. -/
def isFragmentChar : Char → Bool := isOtherThan " \"<>`"

/-- Whether a character stays as it is in the name of who asks. -/
def isUserChar : Char → Bool := isOtherThan " \"#<>?`\x7b\x7d/;=@[\\]^|"

/-- A text with every character written by its octets that does not stay as it is. -/
def encoded (keep : Char → Bool) (s : String) : String :=
  String.ofList (Text.percentEncode keep s.toList)

/-! ### Parts -/

/-- The parts of an address as they stand in a text. -/
structure Parts where
  scheme : List Char
  authority : List Char
  path : List Char
  query : Option (List Char)
  fragment : Option (List Char)

/-- The scheme at the start of a text, if there is one, and the rest. -/
def cutScheme (cs : List Char) : List Char × List Char :=
  let isSchemeChar := fun c : Char => c.isAlphanum || c == '+' || c == '.' || c == '-'
  let scheme := if cs.head?.any Char.isAlpha then cs.takeWhile isSchemeChar else []
  match cs.drop scheme.length with
  | ':' :: rest => (scheme, rest)
  | _ => ([], cs)

/-- Cuts a text into the parts of an address. -/
def cut (cs : List Char) : Parts :=
  let (scheme, rest) := cutScheme cs
  let (authority, rest) := match rest with
    | '/' :: '/' :: rest => rest.span fun c => c ≠ '/' ∧ c ≠ '?' ∧ c ≠ '#'
    | rest => ([], rest)
  let (rest, fragment) := Text.cutAt '#' rest
  let (path, query) := Text.cutAt '?' rest
  { scheme, authority, path, query, fragment }

/-- Who asks, the host and the port of an authority. -/
def cutAuthority (cs : List Char) : List Char × List Char × List Char :=
  let isAt := fun c : Char => c == '@'
  let place := (cs.reverse.takeWhile fun c => !isAt c).reverse
  let userinfo := if cs.any isAt then cs.take (cs.length - place.length - 1) else []
  -- A host in brackets may hold colons.
  let bracketed := (place.reverse.dropWhile (· ≠ ']')).reverse
  let host := if place.head? = some '[' ∧ bracketed ≠ [] then bracketed
    else place.takeWhile (· ≠ ':')
  match place.drop host.length with
  | ':' :: port => (userinfo, host, port)
  | port => (userinfo, host, port)

/-- The ports that schemes imply. -/
def impliedPorts : List (String × Int) :=
  [("ftp", 21), ("http", 80), ("https", 443), ("ws", 80), ("wss", 443)]

/-- The port of an address, where the scheme, as it is spelled, does not imply it. -/
def readPort (scheme : String) (port : List Char) : Except UrlError (Option Int) :=
  if port = [] then .ok none
  else match Decimal.readWhole (String.ofList port) with
    | .ok n => .ok (if Assoc.get? impliedPorts scheme = some n then none else some n)
    | .error _ => .error (.port (String.ofList port))

/-- The parts of a path behind one another, without dots: two dots take back the part before. -/
def undotted (before : List (List Char)) : List (List Char) → List (List Char)
  | [] => before.reverse
  | ['.'] :: rest => undotted before rest
  | ['.', '.'] :: rest =>
    -- What a path begins with is not taken back.
    undotted (if before = [[]] then before else before.drop 1) rest
  | part :: rest => undotted (part :: before) rest

/-- A path without dots as parts. -/
def normalPath (cs : List Char) : List Char :=
  List.intercalate ['/'] (undotted [] (Text.splitAt '/' cs))

/-- Checks that a path may stand behind what there is of an address. -/
def checkPath (hasScheme hasAuthority : Bool) (path : List Char) : Except UrlError Unit :=
  if hasAuthority then
    if path = [] ∨ path.head? = some '/' then .ok () else .error .unrooted
  else if hasScheme then .ok ()
  else if path.take 2 = ['/', '/'] then .error .doubleSlash
  else if path.head? = some ':' then .error .colon
  else .ok ()

/-- The address of parts. -/
def ofParts (p : Parts) : Except UrlError Url := do
  let (user, host, port) := cutAuthority p.authority
  let userinfo := encoded isUserChar (String.ofList user)
  let host ← (Host.encode (String.ofList host)).mapError .host
  let port ← readPort (String.ofList p.scheme) port
  let hasScheme := p.scheme ≠ []
  let hasAuthority := userinfo ≠ "" ∨ host ≠ "" ∨ port.isSome
  checkPath hasScheme hasAuthority p.path
  let path := if hasScheme || hasAuthority then normalPath p.path else p.path
  let part := fun keep (cs : List Char) => encoded keep (String.ofList cs)
  return { scheme := String.ofList (p.scheme.map Char.toLower), userinfo, host, port
           path := part isPathChar path
           query := p.query.map (part isQueryChar)
           fragment := p.fragment.map (part isFragmentChar) }

/-- The address of a text. -/
def read (s : String) : Except UrlError Url :=
  let cs := s.toList
  let isControl := fun c : Char => decide (c.toNat < 32 ∨ c.toNat = 127)
  if maxLength < cs.length then .error .tooLong
  else match cs.find? isControl with
    | some c => .error (.control c (cs.takeWhile fun c => !isControl c).length)
    | none => ofParts (cut cs)

/-! ### Views -/

/-- The host and the port of an address. -/
def place (u : Url) : String :=
  (if u.host.toList.contains ':' then "[" ++ u.host ++ "]" else u.host) ++
    match u.port with
    | some n => ":" ++ Decimal.whole n
    | none => ""

/-- An address as a text. -/
def toText (u : Url) : String :=
  let authority := (if u.userinfo = "" then "" else u.userinfo ++ "@") ++ u.place
  (if u.scheme = "" then "" else u.scheme ++ ":") ++
    (if authority = "" then "" else "//" ++ authority) ++ u.path ++
    (match u.query with
      | some q => "?" ++ q
      | none => "") ++
    match u.fragment with
    | some f => "#" ++ f
    | none => ""

/-- Whether an address names a host and how to reach it. -/
def isAbsolute (u : Url) : Bool := u.scheme ≠ "" && u.host ≠ ""

/-- The path of an address, the root if there is none. -/
def rootedPath (u : Url) : String := if u.path = "" then "/" else u.path

/-- The path of an address with all octets read back. -/
def decodedPath (u : Url) : String := String.ofList (Text.percentDecode u.rootedPath.toList)

/-- The address of a relative one within a site, of which only scheme, host and port count.  An
absolute address stands for itself. -/
def under (site u : Url) : Except UrlError Url :=
  if u.isAbsolute then .ok u
  else
    let path := '/' :: u.path.toList.dropWhile (· = '/')
    if maxLength < path.length then .error (.partTooLong .path)
    else if maxLength < (u.query.getD "").length then .error (.partTooLong .query)
    else
      let rooted := site.scheme ≠ "" || site.host ≠ ""
      let path := if rooted then normalPath path else path
      .ok { site with path := String.ofList path, query := u.query, fragment := none }

/-- The site without a name: an address within it has a path only. -/
def nowhere : Url := ⟨"", "", "", none, "", none, none⟩

end Url
end Storefront
