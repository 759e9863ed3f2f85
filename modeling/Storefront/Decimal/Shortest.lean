import Storefront.Decimal.Exact

/-! # The shortest decimal of a double

Every double has decimals that read back as the double itself: those in the interval of the numbers
that round to it.  `shortest` is the one with the fewest digits, and of those the nearest.
Magnitudes are compared by cross-multiplication, in whole numbers. -/

namespace Storefront.Decimal

/-- A decimal number `coefficient * 10 ^ exponent`. -/
structure Scientific where
  coefficient : Nat
  exponent : Int
  deriving DecidableEq, Repr

/-- `a * 2 ^ p` compared with `d * 10 ^ e`. -/
def compareScaled (a : Nat) (p : Int) (d : Nat) (e : Int) : Ordering :=
  compare (a * twoTo p.toNat * tenTo (-e).toNat) (d * tenTo e.toNat * twoTo (-p).toNat)

/-- The interval of the numbers that round to `mantissa * 2 ^ exponent`, in units of a quarter of
the last binary place. -/
structure Rounding where
  low : Nat
  value : Nat
  high : Nat
  unit : Int
  closed : Bool

/-- The numbers that round to a positive double. -/
def Rounding.of (mantissa : Nat) (exponent : Int) : Rounding where
  low := if mantissa = twoTo 52 ∧ exponent ≠ -1074 then 4 * mantissa - 1 else 4 * mantissa - 2
  value := 4 * mantissa
  high := 4 * mantissa + 2
  unit := exponent - 2
  closed := mantissa % 2 = 0

/-- Whether a decimal reads back as the double. -/
def Rounding.holds (r : Rounding) (s : Scientific) : Bool :=
  let below := compareScaled r.low r.unit s.coefficient s.exponent
  let above := compareScaled r.high r.unit s.coefficient s.exponent
  (below == .lt || (r.closed && below == .eq)) && (above == .gt || (r.closed && above == .eq))

/-- The greatest multiple of `10 ^ e` that is no more than `a * 2 ^ p`, in such units. -/
def floorScaled (a : Nat) (p e : Int) : Nat :=
  (a * twoTo p.toNat * tenTo (-e).toNat) / (tenTo e.toNat * twoTo (-p).toNat)

/-- Of the two decimals next to the value on the grid of step `10 ^ e`, the nearer that reads back;
of two equally near the one with the even last digit. -/
def Rounding.onGrid? (r : Rounding) (e : Int) : Option Scientific :=
  -- If any point of the grid lies in the interval, so does one of the two next to the value.
  let d := floorScaled r.value r.unit e
  let lower : Scientific := ⟨d, e⟩
  let upper : Scientific := ⟨d + 1, e⟩
  match r.holds lower && d ≠ 0, r.holds upper with
  | true, true =>
    -- Their middle, in halves of a step, against twice the value.
    match compareScaled (2 * r.value) r.unit (2 * d + 1) e with
    | .lt => some lower
    | .gt => some upper
    | .eq => some (if d % 2 = 0 then lower else upper)
  | true, false => some lower
  | false, true => some upper
  | false, false => none

/-- The place of the first significant digit: `10 ^ (magnitude - 1) ≤ value < 10 ^ magnitude`. -/
def Rounding.magnitude (r : Rounding) : Int :=
  ((digits (floorScaled r.value r.unit (-340))).length : Int) - 340

/-- The decimal with the fewest digits that reads back as a positive double: seventeen digits always
do. -/
def shortest (mantissa : Nat) (exponent : Int) : Scientific :=
  let r := Rounding.of mantissa exponent
  let k := r.magnitude
  ((List.range 17).findSome? fun (i : Nat) => r.onGrid? (k - i - 1)).getD
    ⟨floorScaled r.value r.unit (k - 17), k - 17⟩

/-- How a decimal is laid out: from which power of ten on, and up to which, it is written without an
exponent. -/
structure Layout where
  /-- The least place of the first significant digit that is written without an exponent. -/
  smallest : Int
  /-- The greatest one. -/
  largest : Int

/-- Numbers from a ten-thousandth up to ten quadrillion are written without an exponent. -/
def plainLayout : Layout := ⟨-3, 16⟩

/-- Lays out the digits of a positive decimal, always with a point or an exponent. -/
def Scientific.layOut (layout : Layout) (s : Scientific) : List Char :=
  let ds := (digits s.coefficient).reverse.dropWhile (· = '0') |>.reverse
  let place : Int := (digits s.coefficient).length + s.exponent
  if layout.smallest ≤ place && place ≤ layout.largest then
    if place ≤ 0 then ['0', '.'] ++ List.replicate (-place).toNat '0' ++ ds
    else if ds.length ≤ place.toNat then
      ds ++ List.replicate (place.toNat - ds.length) '0' ++ ['.', '0']
    else ds.take place.toNat ++ '.' :: ds.drop place.toNat
  else
    let e := place - 1
    let fraction := match ds.tail with
      | [] => []
      | rest => '.' :: rest
    ds.take 1 ++ fraction ++ ['e', if e < 0 then '-' else '+'] ++ padded 2 e.natAbs

/-- A finite number by its shortest decimal. -/
def plainFinite (negative : Bool) (mantissa : Nat) (exponent : Int) : List Char :=
  (if negative then ['-'] else []) ++
    if mantissa = 0 then ['0', '.', '0'] else (shortest mantissa exponent).layOut plainLayout

/-- A double by its shortest decimal. -/
def plain (x : Float) : String :=
  match Exact.ofFloat x with
  | .nan => "nan"
  | .infinite negative => if negative then "-inf" else "inf"
  | .finite negative m e => String.ofList (plainFinite negative m e)

end Storefront.Decimal
