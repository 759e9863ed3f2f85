import Storefront.Text.Blank
import Storefront.Text.Split
import Storefront.Value.Access

/-! # Reading documents

A document is read line by line: a header with the type of the operation, an optional `@inContext`
directive, the line of the root field, and a selection of two levels.  `Parsed` holds what was
found; `parse` reads a document under the variables sent with it. -/

namespace Storefront.Document

open Text

/-- What was found in a document. -/
structure Parsed where
  /-- The type of the operation; a blank document has none. -/
  type : Option String
  /-- The line of the root field, without its brace. -/
  endpoint : Option String
  /-- The names in the directive with their values. -/
  context : List (String × Value)
  /-- The selection in the order of the document: a group has a list of its lines, a field none. -/
  fields : List (String × Option (List String))
  vars : Value

namespace Parsed

/-- What is found in a blank document. -/
def blank (vars : Value) : Parsed := ⟨none, none, [], [], vars⟩

/-- The value of a name in the directive; null if it is not there. -/
def contextValue (p : Parsed) (name : String) : Value := (Assoc.get? p.context name).getD .null

/-- Whether the selection has a field or group of a name. -/
def hasField (p : Parsed) (name : String) : Bool := Assoc.has p.fields name

/-- The names of the selection, in order. -/
def fieldNames (p : Parsed) : List String := Assoc.keys p.fields

/-- The name of the root field, without its arguments. -/
def rootField (p : Parsed) : Option String := do
  let endpoint ← p.endpoint
  let name := trim (String.ofList (cutAt '(' endpoint.toList).1)
  if name = "" then none else some name

end Parsed

/-- The name of the directive. -/
def directive : String := "@inContext"

/-- The lines of a document that are not blank, trimmed. -/
def trimmedLines (document : String) : List (List Char) :=
  ((splitAt '\n' document.toList).map trimChars).filter (· ≠ [])

/-- A line without braces that open a group. -/
def withoutOpening (line : List Char) : List Char := trimChars (line.filter (· ≠ '\x7b'))

/-- The name and the source of one entry of a directive; an entry without a colon has neither. -/
def directiveEntry? (entry : List Char) : Option (String × String) :=
  match cutAt ':' entry with
  | (_, none) => none
  | (key, some source) =>
    let source := match trimChars source with
      | '$' :: name => name
      | source => source
    some (String.ofList (trimChars key), String.ofList source)

/-- The entries of a directive line: names with the variables that they take their values from. -/
def directiveEntries (line : List Char) : List (String × String) :=
  let body := (without (directive ++ "(") (withoutOpening line)).filter (· ≠ ')')
  (splitAt ',' body).filterMap directiveEntry?

/-- The values of a directive under the given variables. -/
def readContext (line : List Char) (vars : Value) : Except Fault (List (String × Value)) :=
  (directiveEntries line).foldlM
    (fun context (name, source) => return Assoc.put context name (← vars.member source)) []

/-- A selection that is being read: the fields so far and the group that is open. -/
structure Selecting where
  fields : List (String × Option (List String))
  current : Option String

/-- Reads one line of a selection. A group without a name holds no lines. -/
def Selecting.step (s : Selecting) (line : List Char) : Selecting :=
  if line.getLast? = some '\x7b' then
    let name := String.ofList (trimChars line.dropLast)
    ⟨Assoc.put s.fields name (some []), if name = "" then none else some name⟩
  else if line = ['\x7d'] then ⟨s.fields, none⟩
  else
    let text := String.ofList line
    match s.current with
    | some name =>
      let lines := ((Assoc.get? s.fields name).getD none).getD []
      ⟨Assoc.put s.fields name (some (lines ++ [text])), s.current⟩
    | none => ⟨Assoc.put s.fields text none, none⟩

/-- Reads the lines of a selection. -/
def readSelection (lines : List (List Char)) : List (String × Option (List String)) :=
  (lines.foldl Selecting.step ⟨[], none⟩).fields

/-- Lines without a closing brace at their end. -/
def withoutClosing (lines : List (List Char)) : List (List Char) :=
  if lines.getLast? = some ['\x7d'] then lines.dropLast else lines

/-- Reads the line of the root field and its selection. -/
def readBody (type : String) (context : List (String × Value)) (vars : Value) :
    List (List Char) → Except Fault Parsed
  | [] => .error .emptyDocument
  | root :: lines =>
    .ok {
      type := some type
      endpoint := some (String.ofList (withoutOpening root))
      context := context
      fields := readSelection (withoutClosing lines)
      vars := vars }

/-- Reads a document, none counting as blank. -/
def parse (document : Option String) (vars : Value) : Except Fault Parsed := do
  let vars := vars.orElse (.record [])
  match trimmedLines (document.getD "") with
  | [] => return Parsed.blank vars
  | header :: lines =>
    let type := String.ofList (header.takeWhile Char.isLower)
    -- The header opens the body and the last line closes it.
    match lines.dropLast with
    | [] => throw .emptyDocument
    | first :: rest =>
      if directive.toList.isPrefixOf first then
        -- The directive opens the selection, which then has a closing line of its own.
        readBody type (← readContext first vars) vars (withoutClosing rest)
      else readBody type [] vars (first :: rest)

end Storefront.Document
