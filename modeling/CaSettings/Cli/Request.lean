import CaSettings.Cli.Arguments
import CaSettings.Path

/-!
# What the command line asks for

The program has the commands `config show` and `config get NAME`.
`Request.read` makes a request of the arguments:

* the options of the program stand before `config`, those of a command behind
  its name;
* the request for a help page comes before every other one on its level, but
  after an argument on that level that cannot be read;
* the request for the version comes before anything after the first command
  name, which must exist.
-/

namespace CaSettings.Cli

/-- A command with its options. -/
inductive Command
  | configShow (json strict : Bool)
  | configGet (name : String)

/-- The levels of the command line, each with a page of help. -/
inductive Page
  | program
  | config
  | configShow
  | configGet

/-- What the arguments ask for. -/
inductive Request
  | help (page : Page)
  | version
  /-- Run a command on the configuration file that is given, if any. -/
  | run (file : Option String) (command : Command)

/-- Why arguments ask for nothing. -/
inductive Refusal
  | misuse (cause : Misuse)
  | failure (cause : Failure)

/-- The option for the help page of a level. -/
def helpOption : OptionSpec := ⟨"--help", none, false⟩

/-- The options of a level. -/
def Page.options : Page → List OptionSpec
  | .program => [⟨"--version", some 'V', false⟩, ⟨"--config", none, true⟩, helpOption]
  | .config => [helpOption]
  | .configShow => [⟨"--json", none, false⟩, ⟨"--strict", none, false⟩, helpOption]
  | .configGet => [helpOption]

/-- Whether options may follow operands on a level. -/
def Page.mixing : Page → Mixing
  | .program => .untilOperand
  | .config => .untilOperand
  | .configShow => .throughout
  | .configGet => .throughout

/-- Read the arguments of a level; `none` asks for its help page. -/
def Page.read (page : Page) (arguments : List String) : Except Misuse (Option Given) :=
  (readArguments page.options page.mixing arguments).map fun given =>
    if given.has "--help" then none else some given

/-- Read the arguments of a command into a request on a configuration file. -/
def Page.readCommand (page : Page) (file : Option String) (arguments : List String)
    (command : Given → Except Misuse Command) : Except Misuse Request :=
  match page.read arguments with
  | .error misuse => .error misuse
  | .ok none => .ok (.help page)
  | .ok (some given) => (command given).map (.run file)

/-- The command `config show`, which takes no operands. -/
def showCommand (given : Given) : Except Misuse Command :=
  match given.operands with
  | [] => .ok (.configShow (given.has "--json") (given.has "--strict"))
  | extra => .error (.extraArguments extra)

/-- The command `config get`, which takes the name of a setting. -/
def getCommand (given : Given) : Except Misuse Command :=
  match given.operands with
  | [] => .error (.argumentMissing "NAME")
  | [name] => .ok (.configGet name)
  | _ :: extra => .error (.extraArguments extra)

/-- Read the arguments after `config`. -/
def readConfigGroup (file : Option String) (arguments : List String) :
    Except Misuse Request :=
  match Page.config.read arguments with
  | .error misuse => .error misuse
  | .ok none => .ok (.help .config)
  | .ok (some given) =>
    match given.operands with
    | [] => .error .commandMissing
    | name :: rest =>
      if name = "show" then Page.configShow.readCommand file rest showCommand
      else if name = "get" then Page.configGet.readCommand file rest getCommand
      else .error (.noSuchCommand name)

/-- Make a request of the operands of the program. -/
def readProgram (given : Given) : Except Misuse Request :=
  let version := given.has "--version"
  match given.operands with
  | [] => .ok (if version then .version else .help .program)
  | name :: rest =>
    if name ≠ "config" then .error (.noSuchCommand name)
    else if version then .ok .version
    else readConfigGroup (given.value? "--config") rest

/-- Make a request of the arguments of the program. -/
def Request.read (arguments : List String) : Except Refusal Request :=
  match Page.program.read arguments with
  | .error misuse => .error (.misuse misuse)
  | .ok none => .ok (.help .program)
  | .ok (some given) =>
    if holdsNul ((given.value? "--config").getD "") then .error (.failure .nulInPath)
    else
      match readProgram given with
      | .error misuse => .error (.misuse misuse)
      | .ok request => .ok request

end CaSettings.Cli
