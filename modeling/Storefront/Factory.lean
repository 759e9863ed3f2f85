import Storefront.Shop.Carts

/-! # Making entities on demand

A factory holds named hooks that a shop may call to make an entity which a caller takes to exist.
The hook for carts lets a cart come back under an identifier that its owner has kept. -/

namespace Storefront

/-- A hook: given the parameters of a call it acts on the shop.  A hook without an action does
nothing. -/
abbrev Hook := Option (List Value → Act Shop Value)

/-- Hooks by name. -/
structure Factory where
  hooks : List (Key × Hook)

namespace Factory

/-- The name of the hook that makes carts. -/
def cartHook : String := "cartCreate"

/-- Makes an empty cart under an identifier, for a country, unless there is one. -/
def makeCart (params : List Value) : Act Shop Value := do
  match params with
  | [id, country] =>
    if ← Shop.hasCart id then return .null
    return Value.ofOption ((← Shop.createCart country id).map (·.toValue))
  | _ => throw .shape

/-- The factory with the hook for carts only. -/
def standard : Factory := ⟨[(.text cartHook, some makeCart)]⟩

/-- The factory with one more hook, or another under a known name. -/
def register (f : Factory) (name : Key) (hook : Hook) : Factory := ⟨Assoc.put f.hooks name hook⟩

/-- Calls the hook of a name, if there is one. -/
def call (f : Factory) (name : Key) (params : List Value) : Act Shop Value :=
  match Assoc.get? f.hooks name with
  | some (some action) => action params
  | _ => return .null

end Factory
end Storefront
