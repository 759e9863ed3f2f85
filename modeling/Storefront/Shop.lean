import Storefront.Context
import Storefront.Entity
import Storefront.Store
import Storefront.Supply

/-! # The shop

A `Shop` is all that a shop remembers: its entities, the tokens it has handed out, its supply of
time and chance, and where it is reached.  An action on a shop, or on anything that remembers
something, is an `Act`: it may fail, and what it did before it failed stays done. -/

namespace Storefront

/-- An action that may fail, on something that remembers; what was done before a failure stays. -/
abbrev Act (σ α : Type) := ExceptT Fault (StateM σ) α

/-- All that a shop remembers. -/
structure Shop where
  context : Context
  store : Store Key Entity
  /-- The tokens that were handed out. -/
  seen : List String
  supply : Supply

namespace Shop

/-- A shop without entities. -/
def new (context : Context) (supply : Supply) : Shop := ⟨context, Store.empty, [], supply⟩

/-- Forgets all entities and all tokens that were handed out. -/
def reset (s : Shop) : Shop := { s with store := Store.empty, seen := [] }

/-- Draws from the supply. -/
def supplied {α : Type} (draw : Supply → α × Supply) : Act Shop α :=
  modifyGet fun s =>
    let (a, supply) := draw s.supply
    (a, { s with supply := supply })

/-- The time as a text. -/
def timestamp : Act Shop String := return (← get).supply.timestamp

/-- The entity of a kind under an identifier. -/
def find? (kind : String) (id : Key) : Act Shop (Option Entity) :=
  return (← get).store.get? (.text kind) id

/-- Whether there is an entity of a kind under an identifier. -/
def has (kind : String) (id : Key) : Act Shop Bool := return (← get).store.has (.text kind) id

/-- Keeps an entity of a kind under an identifier. -/
def keep (kind : String) (id : Key) (entity : Entity) : Act Shop Unit :=
  modify fun s => { s with store := s.store.set (.text kind) id (some entity) }

/-- Erases an entity; the answer is whether there was one. -/
def erase (kind : String) (id : Key) : Act Shop Bool := do
  -- The answer is about the time before.
  let known ← has kind id
  modify fun s => { s with store := s.store.delete (.text kind) id }
  return known

/-! ### Identifiers -/

/-- How many tokens may turn out to be used before the search for a new one is given up. -/
def maxCollisions : Nat := 20

/-- The kind that tokens are made up for: the last part of what an identifier starts with. -/
def tokenKind (start : String) : String :=
  String.ofList ((start.toList.reverse.dropWhile (· = '/')).takeWhile (· ≠ '/')).reverse

/-- A token that was not handed out before, found in at most a number of attempts. -/
def freshToken (kind : String) : Nat → Act Shop String
  | 0 => throw .exhausted
  | attempts + 1 => do
    let token ← supplied (Supply.token kind)
    -- A token counts as handed out whatever kind it was made up for.
    if token ∈ (← get).seen then freshToken kind attempts
    else
      modify fun s => { s with seen := s.seen ++ [token] }
      return token

/-- An identifier that was not handed out before. -/
def freshId (start : String) : Act Shop String := do
  if start = "" then throw .emptyPrefix
  let token ← freshToken (tokenKind start) (maxCollisions + 1)
  return (if start.toList.getLast? = some '/' then start else start ++ "/") ++ token

end Shop
end Storefront
