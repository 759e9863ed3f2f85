import Storefront.Decimal.Exact

/-! # Decimals with a fixed number of places

`fixed places x` writes a double with a given number of digits behind the point, rounding its exact
value; a half goes to the even neighbour. -/

namespace Storefront.Decimal

/-- The multiple of `10 ^ -places` nearest to `mantissa * 2 ^ exponent`, as a whole number of such
units. -/
def scaled (places mantissa : Nat) (exponent : Int) : Nat :=
  if 0 ≤ exponent then mantissa * tenTo places * twoTo exponent.toNat
  else roundHalfEven (mantissa * tenTo places) (twoTo (-exponent).toNat)

/-- A whole number of units of `10 ^ -places`, written with a point. -/
def pointed (places n : Nat) : List Char :=
  let ds := padded (places + 1) n
  ds.take (ds.length - places) ++ '.' :: ds.drop (ds.length - places)

/-- A double with a fixed number of places. -/
def fixed (places : Nat) (x : Float) : String :=
  match Exact.ofFloat x with
  | .nan => "nan"
  | .infinite negative => if negative then "-inf" else "inf"
  | .finite negative m e =>
    String.ofList ((if negative then ['-'] else []) ++ pointed places (scaled places m e))

end Storefront.Decimal
