import Storefront.Shop

/-! # Connections

An owner is linked to other entities under named relations.  What it is linked to under one relation
is an ordered set of identifiers, kept in the store of the shop. -/

namespace Storefront.Shop

/-- What the kind of an owner's links starts with. -/
def connectionMark : String := "connection@"

/-- What an owner is linked to, as it is kept: every identifier under itself. -/
def linksOf (owner : String) (relation : Key) : Act Shop (List (Key × Value)) := do
  match ← find? (connectionMark ++ owner) relation with
  | some (.links members) => return members
  | some e => if e.toValue.truthy then e.toValue.toRecord else return []
  | none => return []

/-- The identifiers that an owner is linked to, in order. -/
def connections (owner : String) (relation : Key) : Act Shop (List Key) :=
  return Assoc.keys (← linksOf owner relation)

/-- Links an owner to an entity; the answer is all that it is linked to now. -/
def connect (owner : String) (id relation : Key) : Act Shop (List Key) := do
  let members := Assoc.put (← linksOf owner relation) id id.toValue
  keep (connectionMark ++ owner) relation (.links members)
  return Assoc.keys members

/-- Ends the link of an owner to an entity; the answer is all that it is linked to now. -/
def disconnect (owner : String) (id relation : Key) : Act Shop (List Key) := do
  let members := Assoc.erase (← linksOf owner relation) id
  keep (connectionMark ++ owner) relation (.links members)
  return Assoc.keys members

end Storefront.Shop
