import Storefront.Host.Address
import Storefront.Host.Label
import Storefront.Text.Percent

/-! # Hosts

The host of an address on the network, in the form in which it is sent: a numeric address as it is,
a name in lower case, and a name that is not ASCII label by label in its written form. -/

namespace Storefront.Host

/-- Why a text names no host. -/
inductive HostError where
  | fourBytes (host : String)
  | eightGroups (host : String)
  | name (host : String)
  deriving DecidableEq, Repr

/-- What is wrong with a host, in words. -/
def HostError.message : HostError → String
  | .fourBytes host => "Invalid IPv4 address: " ++ Text.quoted host
  | .eightGroups host => "Invalid IPv6 address: " ++ Text.quoted host
  | .name host => "Invalid IDNA hostname: " ++ Text.quoted host

/-- The characters that stand between labels. -/
def dots : List Char := ['.', '\u3002', '\uff0e', '\uff61']

/-- The labels of a name. -/
def labels (cs : List Char) : List (List Char) :=
  Text.splitAt '.' (cs.map fun c => if dots.contains c then '.' else c)

/-- The greatest length of a name in ASCII. -/
def maxLength : Nat := 253

/-- The form in ASCII of an international name in lower case. -/
def encodeName? (cs : List Char) : Option (List Char) := do
  let all := labels cs
  -- A dot at the end is no label, and counts for nothing.
  let closed := all.getLast? == some []
  let labels ← (if closed then all.dropLast else all).mapM Label.encode?
  let name := List.intercalate ['.'] labels
  if labels = [] ∨ maxLength < name.length then none
  else some (if closed then name ++ ['.'] else name)

/-- The characters that stay as they are in a name. -/
def isNameChar (c : Char) : Bool :=
  Text.isUnreserved c || "!$&'()*+,;=\"`\x7b\x7d%|\\".toList.contains c

/-- A host in the form in which it is sent. -/
def encode (host : String) : Except HostError String :=
  let cs := host.toList
  if looksNumeric cs then
    if isFourBytes cs then .ok host else .error (.fourBytes host)
  else if cs.head? = some '[' ∧ cs.getLast? = some ']' then
    let inner := (cs.drop 1).dropLast
    if isEightGroups inner then .ok (String.ofList inner) else .error (.eightGroups host)
  else if cs.all fun c => c.toNat < 128 then
    .ok (String.ofList (Text.percentEncode isNameChar (Text.lower host).toList))
  else match encodeName? (Text.lower host).toList with
    | some name => .ok (String.ofList name)
    | none => .error (.name host)

end Storefront.Host
