import Storefront.Text.Split
import Storefront.Value.Access

/-! # The grammar of command lines

A command line is read level by level: each level has options, arguments in a fixed order and, if
commands follow, a name that selects the next level.  Options may stand anywhere among the
arguments, may be shortened to an unambiguous beginning, and may carry their value behind an equals
sign.  After a double hyphen everything is an argument.

The words of a command line are values.  All that are typed in are texts; whoever calls a command
from inside a program may pass others, and these can only be arguments. -/

namespace Storefront.CommandLine

/-- What an option expects. -/
inductive Taking where
  /-- Nothing: it asks for help. -/
  | help
  /-- Nothing: it is set or not. -/
  | flag
  /-- A text. -/
  | text
  /-- A whole number. -/
  | whole
  deriving DecidableEq, Repr

/-- An option. -/
structure Opt where
  names : List String
  taking : Taking

/-- The option that asks for help. -/
def helpOption : Opt := ⟨["-h", "--help"], .help⟩

/-- An argument of a level. -/
structure Argument where
  name : String
  /-- Whether it takes all arguments that are left. -/
  many : Bool

/-- One level of a command line. -/
structure Level where
  /-- How messages name the level. -/
  program : String
  options : List Opt
  arguments : List Argument
  /-- The commands that lead to the next level, and what messages call them. -/
  commands : Option (String × List String)

/-- Why a command line is not carried out. -/
inductive Refusal where
  | helpAsked
  /-- The level that refuses it, and why. -/
  | misuse (program message : String)
  /-- A word is of a kind that no command line has. -/
  | fault (cause : Fault)

/-- What was found on a level. -/
structure Findings where
  /-- The values of options and arguments, in the order found. -/
  values : List (String × Value)
  /-- Words that the level has no use for. -/
  unused : List Value
  /-- The command that was selected and what follows it. -/
  command : Option (String × List Value)

/-- An option as it stands on a command line. -/
structure Use where
  written : String
  /-- The option, if the level has it. -/
  option : Option Opt
  /-- The name that it was found under. -/
  name : String
  /-- What follows the equals sign, or the letter of a short option. -/
  attached : Option String
  /-- Whether it follows an equals sign. -/
  equals : Bool

/-- A part of a command line. -/
inductive Part where
  | argument (v : Value)
  | option (use : Use)
  /-- The first double hyphen. -/
  | hyphens

/-- How messages name an option. -/
def Opt.display (o : Opt) : String := Text.joined "/" o.names

/-- A refusal because of one option or argument. -/
def Level.refuse (l : Level) (name message : String) : Refusal :=
  .misuse l.program ("argument " ++ name ++ ": " ++ message)

/-- Whether a text reads as a negative number; a line break at its end does not count. -/
def isNegativeNumber (s : String) : Bool :=
  match s.toList with
  | '-' :: cs =>
    match Text.cutAt '.' (if cs.getLast? = some '\n' then cs.dropLast else cs) with
    | (whole, none) => whole ≠ [] && whole.all Text.isDigit
    | (whole, some fraction) => whole.all Text.isDigit && fraction ≠ [] && fraction.all Text.isDigit
  | _ => false

/-- Every option of a level under each of its names. -/
def Level.named (l : Level) : List (String × Opt) :=
  l.options.flatMap fun o => o.names.map (·, o)

/-- The option under a name. -/
def Level.find? (l : Level) (name : String) : Option Opt := (l.named.find? (·.1 = name)).map (·.2)

/-- A text cut at its first equals sign. -/
def cutAtEquals (s : String) : String × Option String :=
  let (before, after) := Text.cutAt '=' s.toList
  (String.ofList before, after.map String.ofList)

/-- The options that a written option may be short for. -/
def Level.candidates (l : Level) (written : String) : List Use :=
  if written.toList.take 2 = ['-', '-'] then
    let (name, attached) := cutAtEquals written
    (l.named.filter fun (full, _) => name.toList.isPrefixOf full.toList).map fun (full, o) =>
      ⟨written, some o, full, attached, attached.isSome⟩
  else
    let short := String.ofList (written.toList.take 2)
    l.named.filterMap fun (full, o) =>
      if full = short then
        some ⟨written, some o, full, some (String.ofList (written.toList.drop 2)), false⟩
      else if written.toList.isPrefixOf full.toList then some ⟨written, some o, full, none, false⟩
      else none

/-- Tells options from arguments among texts. -/
def Level.classifyText (l : Level) (s : String) : Except Refusal Part :=
  match s.toList with
  | [] => .ok (.argument s)
  | ['-'] => .ok (.argument s)
  | '-' :: _ =>
    match l.find? s with
    | some o => .ok (.option ⟨s, some o, s, none, false⟩)
    | none =>
      let (name, attached) := cutAtEquals s
      match attached.isSome, l.find? name with
      | true, some o => .ok (.option ⟨s, some o, name, attached, true⟩)
      | _, _ =>
        match l.candidates s with
        | [use] => .ok (.option use)
        | [] =>
          -- What looks like an option but cannot be one is an argument.
          if isNegativeNumber s || s.toList.contains ' ' then .ok (.argument s)
          else .ok (.option ⟨s, none, s, none, false⟩)
        | uses =>
          .error (.misuse l.program ("ambiguous option: " ++ s ++ " could match " ++
            Text.joined ", " (uses.map (·.name))))
  | _ => .ok (.argument s)

/-- Tells options from arguments.  A value that is no text is an argument if it is falsy, or if it
begins with a text that is neither empty nor a hyphen. -/
def Level.classify (l : Level) (v : Value) : Except Refusal Part :=
  match v with
  | .text s => l.classifyText s
  | v =>
    if !v.truthy then .ok (.argument v)
    else
      match v.head with
      | .ok (.text s) => if s.isEmpty || s == "-" then .error (.fault .shape) else .ok (.argument v)
      | .ok _ => .error (.fault .shape)
      | .error fault => .error (.fault fault)

/-- Whether a word is a double hyphen. -/
def isHyphens : Value → Bool
  | .text s => s == "--"
  | _ => false

/-- Tells options from arguments, up to the first double hyphen. -/
def Level.classifyAll (l : Level) : List Value → Except Refusal (List Part)
  | [] => .ok []
  | v :: rest =>
    if isHyphens v then .ok (.hyphens :: rest.map .argument)
    else do return (← l.classify v) :: (← l.classifyAll rest)

/-- The word that a part was. -/
def Part.written : Part → Value
  | .argument v => v
  | .option use => use.written
  | .hyphens => "--"

/-- Whether a part is an option. -/
def Part.isOption : Part → Bool
  | .option _ => true
  | _ => false

/-- A whole number as the value of an option. -/
def Level.wholeValue (l : Level) (o : Opt) (v : Value) : Except Refusal Value :=
  match v.wholeNumber with
  | .ok n => .ok (.int n)
  | .error _ => .error (l.refuse o.display ("invalid int value: " ++ v.quoted))

/-- The value that a word has for an option. -/
def Level.optionValue (l : Level) (o : Opt) (v : Value) : Except Refusal Value :=
  if o.taking = .whole then l.wholeValue o v else .ok v

/-- The long name of an option, under which its values are found. -/
def Opt.key (o : Opt) : String := o.names.getLastD ""

/-- Carries out an option that takes nothing. -/
def Opt.raise (o : Opt) : Except Refusal (String × Value) :=
  if o.taking = .help then .error .helpAsked else .ok (o.key, .bool true)

/-- The refusal of a value for an option that takes nothing. -/
def Level.refuseValue (l : Level) (o : Opt) (value : List Char) : Refusal :=
  l.refuse o.display ("ignored explicit argument " ++ Text.quoted (String.ofList value))

/-- Reads what is written right behind a short option that takes nothing: more short options may
follow, but no value. -/
def Level.raiseShort (l : Level) (o : Opt) (equals : Bool) :
    List Char → Except Refusal (String × Value)
  | [] => .error (l.refuseValue o [])
  | c :: cs =>
    if equals || c = '-' then .error (l.refuseValue o (c :: cs))
    else if (l.find? (String.ofList ['-', c])).isNone then o.raise
    else match cs with
      | [] => o.raise
      | '=' :: cs => l.raiseShort o true cs
      | cs => l.raiseShort o false cs

/-- Reads what is written right behind an option that takes nothing. -/
def Level.raiseAttached (l : Level) (o : Opt) (use : Use) (attached : String) :
    Except Refusal (String × Value) :=
  if use.name.toList.take 2 = ['-', '-'] then .error (l.refuseValue o attached.toList)
  else l.raiseShort o use.equals attached.toList

/-- The words that were taken for an argument: the first double hyphen is dropped, wherever it
stands. -/
def withoutHyphens (words : List Value) : List Value := words.eraseP isHyphens

/-- The value of an argument that takes one word: an empty list if only a double hyphen
was taken. -/
def oneValue (words : List Value) : Value := (withoutHyphens words).headD (.list [])

/-- Takes the arguments of a level from the parts before the next option. -/
def takeArguments (arguments : List Argument) (parts : List Part) :
    List (String × Value) × List Argument × List Part :=
  match arguments with
  | [] => ([], [], parts)
  | a :: more =>
    let (leading, start) := match parts with
      | .hyphens :: rest => ([Part.hyphens.written], rest)
      | _ => ([], parts)
    match start with
    | .argument v :: rest =>
      if a.many then
        let taken := rest.takeWhile fun p => !p.isOption
        let words := withoutHyphens (leading ++ v :: taken.map (·.written))
        (words.map fun w => (a.name, w), more, rest.drop taken.length)
      else
        let (trailing, rest) := match rest with
          | .hyphens :: rest => ([Part.hyphens.written], rest)
          | rest => ([], rest)
        let (values, left, rest) := takeArguments more rest
        ((a.name, oneValue (leading ++ v :: trailing)) :: values, left, rest)
    | _ => ([], arguments, parts)

/-- What is known while a level is being read. -/
structure Reading where
  values : List (String × Value)
  unused : List Value
  /-- The arguments that are still to come. -/
  pending : List Argument

/-- Reads an option and its value; the answer holds the parts behind them. -/
def Level.readOption (l : Level) (use : Use) (rest : List Part) :
    Except Refusal (Option (String × Value) × List Part) :=
  match use.option with
  | none => .ok (none, rest)
  | some o =>
    match o.taking, use.attached with
    | .help, none | .flag, none => do return (some (← o.raise), rest)
    | .help, some s | .flag, some s => do return (some (← l.raiseAttached o use s), rest)
    | _, some s => do return (some (o.key, ← l.optionValue o s), rest)
    | _, none =>
      match rest with
      | .argument v :: rest => do return (some (o.key, ← l.optionValue o v), rest)
      | _ => .error (l.refuse o.display "expected one argument")

/-- Checks the name of a command. -/
def Level.select (l : Level) (title : String) (names : List String) (v : Value) :
    Except Refusal String :=
  let invalid := .error (l.refuse title ("invalid choice: " ++ v.quoted ++ " (choose from " ++
    Text.joined ", " (names.map Text.quoted) ++ ")"))
  match v with
  | .text s => if names.contains s then .ok s else invalid
  | v => if v.toKey?.isSome then invalid else .error (.fault .shape)

/-- The command that parts start with, and everything behind it. -/
def Level.selectCommand? (l : Level) (parts : List Part) :
    Except Refusal (Option (String × List Value)) :=
  match l.commands with
  | none => .ok none
  | some (title, names) =>
    match parts with
    | .argument v :: rest => do
      return some (← l.select title names v, rest.map (·.written))
    | .hyphens :: .argument v :: rest => do
      return some (← l.select title names Part.hyphens.written, v :: rest.map (·.written))
    | _ => .ok none

/-- Reads the parts of a level. -/
def Level.readParts (l : Level) (fuel : Nat) (r : Reading) (parts : List Part) :
    Except Refusal (Reading × Option (String × List Value)) := do
  match fuel with
  | 0 => return (r, none)
  | fuel + 1 =>
    match ← l.selectCommand? parts with
    | some command => return (r, some command)
    | none =>
      match parts with
      | [] => return (r, none)
      | .option use :: rest =>
        let (found, rest) ← l.readOption use rest
        let r := match found with
          | some v => { r with values := r.values ++ [v] }
          | none => { r with unused := r.unused ++ [.text use.written] }
        l.readParts fuel r rest
      | _ =>
        let (values, pending, rest) := takeArguments r.pending parts
        -- What no argument takes is left over, up to the next option.
        if values.isEmpty then
          let skipped := parts.takeWhile fun p => !p.isOption
          l.readParts fuel { r with unused := r.unused ++ skipped.map (·.written) }
            (parts.drop skipped.length)
        else l.readParts fuel { r with values := r.values ++ values, pending } rest

/-- Reads a level. -/
def Level.read (l : Level) (words : List Value) : Except Refusal Findings := do
  let parts ← l.classifyAll words
  let (r, command) ← l.readParts (parts.length + 1) ⟨[], [], l.arguments⟩ parts
  let missingCommand := match l.commands, command with
    | some (title, _), none => [title]
    | _, _ => []
  let missing := r.pending.map (·.name) ++ missingCommand
  if !missing.isEmpty then
    throw (.misuse l.program
      ("the following arguments are required: " ++ Text.joined ", " missing))
  return ⟨r.values, r.unused, command⟩

/-- All values found under a name. -/
def Findings.all (f : Findings) (name : String) : List Value :=
  (f.values.filter (·.1 = name)).map (·.2)

/-- The last value found under a name. -/
def Findings.last? (f : Findings) (name : String) : Option Value := (f.all name).getLast?

end Storefront.CommandLine
