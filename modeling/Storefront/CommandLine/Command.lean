import Storefront.CommandLine.Grammar
import Storefront.Market

/-! # Commands

What the command line can ask for, and how it is written: `serve` runs the server of a shop, `cart`
acts on a cart. -/

namespace Storefront.CommandLine

/-- What to do with a cart. -/
inductive CartAction where
  | create
  | showCart (cartId : Value)
  | add (cartId variant quantity : Value) (attributes : List Value)
  | update (cartId line quantity : Value) (attributes : List Value)
  | remove (cartId : Value) (lines : List Value)
  | empty (cartId : Value)
  | note (cartId note : Value)
  | attribute (cartId key value : Value)
  | discount (cartId : Value) (codes : List Value)

/-- A command. -/
inductive Command where
  /-- Run the server. -/
  | serve (host port : Value)
  /-- Act on a cart in the market of a country, and show it, as JSON or for reading. -/
  | cart (country : Value) (json : Bool) (action : CartAction)

/-- How messages name the program. -/
def program : String := "storefront-checkout"

/-- The first level. -/
def topLevel : Level := ⟨program, [helpOption], [], some ("command", ["serve", "cart"])⟩

/-- The level of `serve`. -/
def serveLevel : Level :=
  ⟨program ++ " serve", [helpOption, ⟨["--host"], .text⟩, ⟨["--port"], .whole⟩], [], none⟩

/-- The level of `cart`. -/
def cartLevel : Level :=
  ⟨program ++ " cart", [helpOption, ⟨["--country"], .text⟩, ⟨["--json"], .flag⟩], [],
    some ("action", ["create", "show", "add", "update", "remove", "empty", "note", "attribute",
      "discount"])⟩

/-- An argument that takes one text. -/
def one (name : String) : Argument := ⟨name, false⟩

/-- An argument that takes all texts that are left. -/
def many (name : String) : Argument := ⟨name, true⟩

/-- The arguments of an action on a cart. -/
def actionArguments : String → List Argument
  | "create" => []
  | "show" | "empty" => [one "cart_id"]
  | "add" => [one "cart_id", one "variant_id"]
  | "update" => [one "cart_id", one "line_id"]
  | "remove" => [one "cart_id", many "line_ids"]
  | "note" => [one "cart_id", one "note"]
  | "attribute" => [one "cart_id", one "key", one "value"]
  | _ => [one "cart_id", many "codes"]

/-- The level of an action on a cart. -/
def actionLevel (name : String) : Level :=
  let options := match name with
    | "add" | "update" => [helpOption, ⟨["--quantity"], .whole⟩, ⟨["--attribute"], .text⟩]
    | _ => [helpOption]
  ⟨cartLevel.program ++ " " ++ name, options, actionArguments name, none⟩

/-- The action of a name, with what was found on its level. -/
def actionOf (name : String) (f : Findings) : CartAction :=
  let value := fun key => (f.last? key).getD .null
  let cartId := value "cart_id"
  let quantity := (f.last? "--quantity").getD (.int 1)
  let attributes := f.all "--attribute"
  match name with
  | "create" => .create
  | "show" => .showCart cartId
  | "empty" => .empty cartId
  | "add" => .add cartId (value "variant_id") quantity attributes
  | "update" => .update cartId (value "line_id") quantity attributes
  | "remove" => .remove cartId (f.all "line_ids")
  | "note" => .note cartId (value "note")
  | "attribute" => .attribute cartId (value "key") (value "value")
  | _ => .discount cartId (f.all "codes")

/-- Refuses a command line of which something is left over. -/
def withoutUnused (command : Command) (unused : List Value) : Except Refusal Command :=
  if unused.isEmpty then .ok command
  else match unused.mapM Value.asText with
    | .ok texts => .error (.misuse program ("unrecognized arguments: " ++ Text.joined " " texts))
    | .error fault => .error (.fault fault)

/-- The command that a command line asks for. -/
def Command.read (words : List Value) : Except Refusal Command := do
  let top ← topLevel.read words
  match top.command with
  | some ("serve", rest) =>
    let f ← serveLevel.read rest
    withoutUnused
      (.serve ((f.last? "--host").getD "127.0.0.1") ((f.last? "--port").getD (.int 8080)))
      (top.unused ++ f.unused)
  | some (_, rest) =>
    let f ← cartLevel.read rest
    let (name, rest) := f.command.getD ("", [])
    let g ← (actionLevel name).read rest
    withoutUnused
      (.cart ((f.last? "--country").getD Market.home) (f.last? "--json").isSome (actionOf name g))
      (top.unused ++ f.unused ++ g.unused)
  | none => throw (.misuse program "")

end Storefront.CommandLine
