import Storefront.Text.Blank

/-! # Signatures of documents

The signature of a document is what stands before its first argument list or brace: the type and the
name of its operation. -/

namespace Storefront.Document

open Text

/-- The characters of a signature: letters, in the widest sense of letters without regard to case,
and spaces. -/
def isSignatureChar (c : Char) : Bool :=
  c.isAlpha || c == ' ' || c.toNat == 0x130 || c.toNat == 0x131 || c.toNat == 0x17f ||
    c.toNat == 0x212a

/-- The signature of a document, if it starts like one. -/
def signature? (document : Option String) : Option String :=
  let cs := trimChars (document.getD "").toList
  let head := cs.takeWhile isSignatureChar
  let rest := cs.drop head.length
  if rest.head? = some '(' ∨ (rest.dropWhile isBlank).head? = some '\x7b' then
    some (String.ofList (trimChars head))
  else none

end Storefront.Document
