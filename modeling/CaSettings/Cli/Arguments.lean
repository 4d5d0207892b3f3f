import CaSettings.Cli.Misuse
import CaSettings.NameMap
import CaSettings.Text.Similar

/-!
# Arguments

An argument that starts with a hyphen and is not a lone hyphen gives options:
`--name`, `--name=value`, or a hyphen and the letters of options with one
letter. Two hyphens end the options. What is left are the operands.

`readArguments` reads the arguments of one command, which has a list of
`OptionSpec`. A group of commands stops at its first operand, the name of a
command, and leaves everything after it alone; a command reads options between
operands too (`Mixing`).
-/

namespace CaSettings.Cli

/-- An option of a command. -/
structure OptionSpec where
  /-- The name with two hyphens. -/
  name : String
  /-- The letter that stands for it after one hyphen. -/
  letter : Option Char
  /-- Whether it takes a value. -/
  takesValue : Bool

/-- Whether options may follow operands. -/
inductive Mixing
  | untilOperand
  | throughout
deriving DecidableEq

/-- The options given, in order and by name, and the operands. -/
structure Given where
  options : List (String × Option String)
  operands : List String

namespace Given

/-- Put options in front. -/
def withOptions (options : List (String × Option String)) (g : Given) : Given :=
  { g with options := options ++ g.options }

/-- Whether an option is given. -/
def has (g : Given) (name : String) : Bool := g.options.any (·.1 == name)

/-- The last value given to an option. -/
def value? (g : Given) (name : String) : Option String :=
  (g.options.reverse.find? (·.1 == name)).bind Prod.snd

end Given

/-! ## One argument -/

/-- What an argument with options says. -/
inductive OptionArgument
  /-- Options, all with what they need. -/
  | complete (options : List (String × Option String))
  /-- The value of an option is the next argument. -/
  | wantsValue (name : String)

/-- The options whose name is similar to a misspelt one, sorted. -/
def similarOptions (specs : List OptionSpec) (name : String) : List String :=
  sortNames ((specs.map (·.name)).filter (Text.isSimilar · name))

/-- Read the letters after a hyphen. Options with a letter take no value. -/
def readLetters (specs : List OptionSpec) :
    List Char → Except Misuse (List (String × Option String))
  | [] => .ok []
  | c :: cs =>
    match specs.find? (·.letter == some c) with
    | none => .error (.noSuchOption (String.ofList ['-', c]) [])
    | some spec => (readLetters specs cs).map ((spec.name, none) :: ·)

/-- Read an argument that starts with a hyphen. -/
def readOption (specs : List OptionSpec) (argument : String) : Except Misuse OptionArgument :=
  let cs := argument.toList
  let name := String.ofList (cs.takeWhile (· != '='))
  let value :=
    match cs.dropWhile (· != '=') with
    | [] => none
    | _ :: value => some (String.ofList value)
  match specs.find? (·.name == name) with
  | some spec =>
    match spec.takesValue, value with
    | true, some value => .ok (.complete [(name, some value)])
    | true, none => .ok (.wantsValue name)
    | false, some _ => .error (.valueUnwanted name)
    | false, none => .ok (.complete [(name, none)])
  | none =>
    match cs with
    | '-' :: '-' :: _ => .error (.noSuchOption name (similarOptions specs name))
    | _ => (readLetters specs (cs.drop 1)).map .complete

/-- Whether an argument gives options. -/
def isOptionArgument (argument : String) : Bool :=
  match argument.toList with
  | '-' :: _ :: _ => true
  | _ => false

/-! ## All arguments -/

/-- Read the arguments of a command or of a group of commands. -/
def readArguments (specs : List OptionSpec) (mixing : Mixing) :
    List String → Except Misuse Given
  | [] => .ok ⟨[], []⟩
  | argument :: rest =>
    if argument = "--" then .ok ⟨[], rest⟩
    else if isOptionArgument argument then
      match readOption specs argument with
      | .error misuse => .error misuse
      | .ok (.complete options) => (readArguments specs mixing rest).map (·.withOptions options)
      | .ok (.wantsValue name) =>
        match rest with
        | [] => .error (.valueMissing name)
        | value :: rest =>
          (readArguments specs mixing rest).map (·.withOptions [(name, some value)])
    else
      match mixing with
      | .untilOperand => .ok ⟨[], argument :: rest⟩
      | .throughout =>
        (readArguments specs mixing rest).map fun g =>
          { g with operands := argument :: g.operands }

end CaSettings.Cli
