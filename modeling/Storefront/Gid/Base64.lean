/-! # Base 64

The standard alphabet, four characters for three bytes.  Reading is strict about what may stand
where: nothing but the alphabet and padding, padding only at the end.  The unused bits of an
incomplete group are not looked at, and padding after a complete group is passed over. -/

namespace Storefront.Base64

/-- The character of a six-bit value. -/
def digit (n : Nat) : Char :=
  if n < 26 then Char.ofNat (65 + n)
  else if n < 52 then Char.ofNat (97 + (n - 26))
  else if n < 62 then Char.ofNat (48 + (n - 52))
  else if n = 62 then '+'
  else '/'

/-- The six-bit value of a character. -/
def value? (c : Char) : Option Nat :=
  let n := c.toNat
  if 65 ≤ n ∧ n ≤ 90 then some (n - 65)
  else if 97 ≤ n ∧ n ≤ 122 then some (n - 97 + 26)
  else if 48 ≤ n ∧ n ≤ 57 then some (n - 48 + 52)
  else if c = '+' then some 62
  else if c = '/' then some 63
  else none

/-- Every character of the alphabet stands for the value it was written for. -/
theorem value?_digit {n : Nat} (h : n < 64) : value? (digit n) = some n := by
  revert n
  decide

/-- The padding character is not of the alphabet. -/
theorem value?_padding : value? '=' = none := by decide

/-- Writes bytes in groups of four characters, the last group padded. -/
def write : List UInt8 → List Char
  | a :: b :: c :: bytes =>
    let n := a.toNat * 65536 + b.toNat * 256 + c.toNat
    digit (n / 262144) :: digit (n / 4096 % 64) :: digit (n / 64 % 64) :: digit (n % 64) ::
      write bytes
  | [a, b] =>
    let n := a.toNat * 1024 + b.toNat * 4
    [digit (n / 4096), digit (n / 64 % 64), digit (n % 64), '=']
  | [a] =>
    let n := a.toNat * 16
    [digit (n / 64), digit (n % 64), '=', '=']
  | [] => []

/-- The byte of a number below 256. -/
def byte (n : Nat) : UInt8 := UInt8.ofNat n

/-- Reads groups of four characters. -/
def read? : List Char → Option (List UInt8)
  | [] => some []
  | [p, q, '=', '='] => do
    let p ← value? p
    let q ← value? q
    some [byte (p * 4 + q / 16)]
  | [p, q, r, '='] => do
    let p ← value? p
    let q ← value? q
    let r ← value? r
    some [byte (p * 4 + q / 16), byte (q % 16 * 16 + r / 4)]
  | p :: q :: r :: s :: cs => do
    let p ← value? p
    let q ← value? q
    let r ← value? r
    let s ← value? s
    let bytes := [byte (p * 4 + q / 16), byte (q % 16 * 16 + r / 4), byte (r % 4 * 64 + s)]
    if cs.all (· == '=') then some bytes
    else (read? cs).map (bytes ++ ·)
  | _ => none

end Storefront.Base64
