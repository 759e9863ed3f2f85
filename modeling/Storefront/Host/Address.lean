import Storefront.Text.Split

/-! # Numeric addresses

Hosts that are named by a number instead of a name: four decimal bytes with dots between them, or
eight hexadecimal groups with colons between them, of which a run of zeros may be left out. -/

namespace Storefront.Host

/-- Whether a text consists of groups of digits with single characters, of any kind, between them;
`more` groups are still to follow the one that is being read. -/
def isGrouped : (more : Nat) → List Char → Bool
  | _, [] => false
  | 0, [c] => c.isDigit
  | 0, c :: d :: cs => c.isDigit && isGrouped 0 (d :: cs)
  | _ + 1, [_] => false
  | more + 1, c :: d :: cs => c.isDigit && (isGrouped more cs || isGrouped (more + 1) (d :: cs))

/-- Whether a host looks as if it were named by four numbers. -/
def looksNumeric (cs : List Char) : Bool := isGrouped 3 cs

/-- Whether a text is a number from 0 to 255 without needless zeros. -/
def isByte (cs : List Char) : Bool :=
  cs ≠ [] && cs.length ≤ 3 && cs.all Char.isDigit && (cs.head? ≠ some '0' || cs.length = 1) &&
    cs.foldl (fun n c => 10 * n + (c.toNat - 48)) 0 ≤ 255

/-- Whether a text is an address of four bytes. -/
def isFourBytes (cs : List Char) : Bool :=
  let pieces := Text.splitAt '.' cs
  pieces.length = 4 && pieces.all isByte

/-- Whether a character is a hexadecimal digit. -/
def isHexDigit (c : Char) : Bool := c.isDigit || ('a' ≤ c ∧ c ≤ 'f') || ('A' ≤ c ∧ c ≤ 'F')

/-- Whether a text is a group of an address of eight groups. -/
def isGroup (cs : List Char) : Bool := cs ≠ [] && cs.length ≤ 4 && cs.all isHexDigit

/-- The groups of an address: four bytes at its end stand for two groups. -/
def groupsOf? (cs : List Char) : Option (List (List Char)) :=
  let pieces := Text.splitAt ':' cs
  let last := pieces.getLast?.getD []
  if pieces.length < 3 then none
  else if '.' ∈ last then
    if isFourBytes last then some (pieces.dropLast ++ [['0'], ['0']]) else none
  else some pieces

/-- Whether groups on the two sides of a run of zeros are complete: an empty one may only stand for
the end of the address itself. -/
def isSide (atEnd : Option (List Char)) (groups : List (List Char)) : Option Nat :=
  if atEnd = some [] then if groups.length = 1 then some 0 else none
  else if groups.all isGroup then some groups.length
  else none

/-- Whether a text is an address of eight groups. -/
def isEightGroups (cs : List Char) : Bool :=
  -- What stands behind a percent sign names the zone of the address.
  let (address, zone) := Text.cutAt '%' cs
  let zoneFits := match zone with
    | none => true
    | some z => z ≠ [] && !z.contains '%'
  zoneFits && match groupsOf? address with
    | none => false
    | some groups =>
      if 9 < groups.length then false
      else
        let inner := (groups.drop 1).dropLast
        match inner.count [] with
        | 0 => groups.length = 8 && groups.all isGroup
        | 1 =>
          let place := inner.idxOf [] + 1
          let before := groups.take place
          let after := groups.drop (place + 1)
          match isSide before.head? before, isSide after.getLast? after with
          | some high, some low => high + low < 8
          | _, _ => false
        | _ => false

end Storefront.Host
