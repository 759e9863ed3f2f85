import Storefront.Decimal.Exact
import Storefront.Value

/-! # When two values are the same

Numbers are compared by what they stand for, so that one is the same as one point zero and as true;
records are the same if they have the same members, in whatever order. -/

namespace Storefront.Value

/-- What a number stands for. -/
inductive Quantity where
  | whole (n : Int)
  | real (x : Float)

/-- The number of a value; a double without a fraction counts as a whole number. -/
def quantity? : Value → Option Quantity
  | .bool b => some (.whole (if b then 1 else 0))
  | .int n => some (.whole n)
  | .float x => match Decimal.whole? x with
    | some n => some (.whole n)
    | none => some (.real x)
  | _ => none

/-- Whether two numbers stand for the same. -/
def Quantity.same : Quantity → Quantity → Bool
  | .whole a, .whole b => a == b
  | .real x, .real y => x == y
  | _, _ => false

mutual

/-- Whether two values are the same. -/
def same : Value → Value → Bool
  | .null, w => w.isNull
  | .text s, w => match w with
    | .text t => s == t
    | _ => false
  | .list vs, w => match w with
    | .list ws => sameItems vs ws
    | _ => false
  | .record fs, w => match w with
    | .record gs => fs.length == gs.length && sameFields fs gs
    | _ => false
  | .bool b, w => match quantity? (.bool b), quantity? w with
    | some p, some q => p.same q
    | _, _ => false
  | .int n, w => match quantity? (.int n), quantity? w with
    | some p, some q => p.same q
    | _, _ => false
  | .float x, w => match quantity? (.float x), quantity? w with
    | some p, some q => p.same q
    | _, _ => false

/-- Whether two lists hold the same items in the same order. -/
def sameItems : List Value → List Value → Bool
  | [], ws => ws.isEmpty
  | v :: vs, ws => match ws with
    | w :: ws => same v w && sameItems vs ws
    | [] => false

/-- Whether every member has the same member among others. -/
def sameFields : List (Key × Value) → List (Key × Value) → Bool
  | [], _ => true
  | (k, v) :: fs, gs => (match Assoc.get? gs k with
    | some w => same v w
    | none => false) && sameFields fs gs

end

@[simp] theorem same_text (s t : String) : same (.text s) (.text t) = (s == t) := rfl

end Storefront.Value
