/-! # Selections

The body of a document is a tree of fields.  It is written one field a line; a group of fields opens
with a brace at the end of its line and closes with a brace on a line of its own. -/

namespace Storefront.Document

/-- A part of a selection. -/
inductive Selection where
  /-- A plain field. -/
  | field (text : String)
  /-- A field with a selection of its own, written `inner` columns further right. -/
  | nested (inner : Nat) (text : String) (children : List Selection)

/-- A field with a selection of its own. -/
def group (text : String) (children : List Selection) : Selection := .nested 2 text children

/-- A list of plain fields. -/
def fields (names : List String) : List Selection := names.map .field

/-- What opens a group at the end of its line. -/
def opening : String := " \x7b"

/-- What closes a group. -/
def closing : String := "\x7d"

/-- A text some columns to the right. -/
def indented (columns : Nat) (text : String) : String :=
  String.ofList (List.replicate columns ' ') ++ text

mutual

/-- The lines of a selection whose first line starts at a column. -/
def Selection.lines (column : Nat) : Selection → List String
  | .field text => [indented column text]
  | .nested inner text children =>
    indented column (text ++ opening) :: linesOf (column + inner) children ++
      [indented column closing]

/-- The lines of a list of selections, one after the other. -/
def linesOf (column : Nat) : List Selection → List String
  | [] => []
  | s :: rest => s.lines column ++ linesOf column rest

end

/-- Lines, each ended by a line break. -/
def unlines (lines : List String) : String :=
  lines.foldr (fun line rest => line ++ "\n" ++ rest) ""

/-- An operation whose header opens its body. -/
def operation (header : String) (root : Selection) : String :=
  "\n" ++ unlines (Selection.lines 0 (group header [root]))

/-- An operation with a directive between its header and its body. -/
def directed (header directive : String) (root : Selection) : String :=
  "\n" ++ unlines
    (header :: indented 2 (directive ++ opening) :: root.lines 4 ++ [closing])

/-- Lines that continue a document in the middle, each after a line break. -/
def continuation (lines : List String) : String :=
  lines.foldr (fun line rest => "\n" ++ line ++ rest) ""

end Storefront.Document
