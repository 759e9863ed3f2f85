import Storefront.Value.Access
import Storefront.Value.Same

/-! # Discount codes

The codes that the shop accepts. -/

namespace Storefront.Discount

/-- The codes that the shop accepts. -/
def accepted : List String := ["FOC", "TENPERCENT"]

/-- Whether the shop accepts a code. -/
def isAccepted (code : Value) : Bool :=
  match code with
  | .text s => accepted.contains s
  | _ => false

/-- Whether a code is among others. -/
def isAmong (code : Value) (codes : List Value) : Bool := codes.any (·.same code)

end Storefront.Discount
