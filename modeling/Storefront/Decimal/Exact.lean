/-! # Doubles as exact fractions

A finite double is a sign and a number `mantissa * 2 ^ exponent`.  Printing works on that form, so
that every printed digit is decided by exact arithmetic.

* `roundHalfEven_of_dvd` : nothing is rounded when the division is exact -/

namespace Storefront.Decimal

/-- A power of two. -/
def twoTo (n : Nat) : Nat := Nat.pow 2 n

/-- A power of ten. -/
def tenTo (n : Nat) : Nat := Nat.pow 10 n

/-- What a double stands for. -/
inductive Exact where
  /-- The number `± mantissa * 2 ^ exponent`. -/
  | finite (negative : Bool) (mantissa : Nat) (exponent : Int)
  | infinite (negative : Bool)
  | nan
  deriving DecidableEq, Repr

/-- Splits a double into sign, mantissa and exponent. -/
def Exact.ofFloat (x : Float) : Exact :=
  let bits := x.toBits.toNat
  let negative := bits / twoTo 63 == 1
  let biased : Nat := bits / twoTo 52 % twoTo 11
  let fraction : Nat := bits % twoTo 52
  -- The largest exponent field is kept for what is no number, the least for those near zero,
  -- whose leading bit is not one.
  if biased = 2047 then
    if fraction = 0 then .infinite negative else .nan
  else if biased = 0 then .finite negative fraction (-1074)
  else .finite negative (fraction + twoTo 52) ((biased : Int) - 1075)

/-- The quotient rounded to the nearest whole number, a half to the even neighbour. -/
def roundHalfEven (num den : Nat) : Nat :=
  let q := num / den
  let r := num % den
  if 2 * r < den then q
  else if den < 2 * r then q + 1
  else if q % 2 = 0 then q else q + 1

/-- An exact quotient is not rounded. -/
theorem roundHalfEven_of_dvd {num den : Nat} (hden : 0 < den) (h : den ∣ num) :
    roundHalfEven num den = num / den := by
  have : num % den = 0 := Nat.mod_eq_zero_of_dvd h
  simp [roundHalfEven, this, hden]

/-- The number cut off after the point, where there is one. -/
inductive Truncated where
  | whole (n : Int)
  | infinite
  | nan
  deriving DecidableEq, Repr

/-- The whole part of a double, cut off towards zero. -/
def truncate (x : Float) : Truncated :=
  match Exact.ofFloat x with
  | .nan => .nan
  | .infinite _ => .infinite
  | .finite negative m e =>
    let n : Nat := if 0 ≤ e then m * twoTo e.toNat else m / twoTo (-e).toNat
    .whole (if negative then -(n : Int) else n)

/-- Whether a double is a whole number. -/
def isWhole (x : Float) : Bool :=
  match Exact.ofFloat x with
  | .finite _ m e => 0 ≤ e || m % twoTo (-e).toNat == 0
  | _ => false

/-- The whole number that a double is, if it is one. -/
def whole? (x : Float) : Option Int :=
  if isWhole x then
    match truncate x with
    | .whole n => some n
    | _ => none
  else none

/-- The double nearest to a whole number, unless the number is too large for one. -/
def ofInt? (n : Int) : Option Float :=
  let x := Float.ofInt n
  if x.isInf then none else some x

/-- The decimal digits of a natural number. -/
def digits (n : Nat) : List Char := Nat.toDigits 10 n

/-- A whole number in decimal digits. -/
def whole (n : Int) : String :=
  String.ofList ((if n < 0 then ['-'] else []) ++ digits n.natAbs)

/-- A list of digits padded with zeros in front to a least length. -/
def padded (width : Nat) (n : Nat) : List Char :=
  let ds := digits n
  List.replicate (width - ds.length) '0' ++ ds

end Storefront.Decimal
