import CaSettings.Text.Quoted

/-!
# Wrong use of the command line

The ways in which arguments can be wrong, by their cause. The wording is in
`Misuse.message`.
-/

namespace CaSettings.Cli

open Text

/-- What is wrong with the arguments. -/
inductive Misuse
  /-- There is no such option; `similar` are options with a similar name. -/
  | noSuchOption (name : String) (similar : List String)
  /-- An option that takes a value is the last argument. -/
  | valueMissing (option : String)
  /-- A value is given to an option that takes none. -/
  | valueUnwanted (option : String)
  /-- A command lacks an argument. -/
  | argumentMissing (name : String)
  /-- A command has too many arguments. -/
  | extraArguments (extra : List String)
  /-- There is no such command. -/
  | noSuchCommand (name : String)
  /-- A group of commands is named without a command. -/
  | commandMissing
deriving DecidableEq

/-- The wording of a wrong use. -/
def Misuse.message : Misuse → String
  | .noSuchOption name [] => s!"No such option: {name}"
  | .noSuchOption name [one] => s!"No such option: {name} Did you mean {one}?"
  | .noSuchOption name several =>
    s!"No such option: {name} (Possible options: " ++ ", ".intercalate several ++ ")"
  | .valueMissing option => s!"Option {quoted option} requires an argument."
  | .valueUnwanted option => s!"Option {quoted option} does not take a value."
  | .argumentMissing name => s!"Missing argument '{name}'."
  | .extraArguments [one] => s!"Got unexpected extra argument ({one})"
  | .extraArguments several =>
    "Got unexpected extra arguments (" ++ " ".intercalate several ++ ")"
  | .noSuchCommand name => s!"No such command {quoted name}."
  | .commandMissing => "Missing command."

end CaSettings.Cli
