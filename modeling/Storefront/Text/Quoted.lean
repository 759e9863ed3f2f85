import Storefront.Text.Half
import Storefront.Text.Printable

/-! # Quoted texts

`quoted s` writes a text between quotation marks with every character that is not printable spelled
by its code point.  Apostrophes delimit it, unless the text holds an apostrophe and no quotation
mark. -/

namespace Storefront.Text

/-- The lower-case hexadecimal digits of a code point, at least `width` of them. -/
def hex (width n : Nat) : List Char :=
  let ds := Nat.toDigits 16 n
  List.replicate (width - ds.length) '0' ++ ds

/-- How one character is written between the given delimiters. -/
def quotedChar (delimiter c : Char) : List Char :=
  if c = delimiter ∨ c = '\\' then ['\\', c]
  else if c = '\n' then ['\\', 'n']
  else if c = '\r' then ['\\', 'r']
  else if c = '\t' then ['\\', 't']
  else if isPrintable c then [c]
  else if let some n := halfUnit? c then '\\' :: 'u' :: hex 4 n
  else if c.toNat < 0x100 then '\\' :: 'x' :: hex 2 c.toNat
  else if c.toNat < 0x10000 then '\\' :: 'u' :: hex 4 c.toNat
  else '\\' :: 'U' :: hex 8 c.toNat

/-- The delimiter of a quoted text. -/
def delimiter (cs : List Char) : Char :=
  if '\'' ∈ cs ∧ '"' ∉ cs then '"' else '\''

/-- A text between quotation marks. -/
def quoted (s : String) : String :=
  let cs := s.toList
  let d := delimiter cs
  String.ofList (d :: cs.flatMap (quotedChar d) ++ [d])

end Storefront.Text
