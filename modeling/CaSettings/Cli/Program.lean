import CaSettings.Cli.Request
import CaSettings.Cli.Table
import CaSettings.ConfigView
import CaSettings.Json

/-!
# The program

A run of the program has two halves. `plan` makes a request of the arguments
and chooses the configuration file; nothing is read before that. `execute`
takes the loaded view of the file and says what is written and with which exit
code the program ends.

* `config show` writes all settings as a table or as JSON;
* `config get` writes the value of one setting.

Problems in the file are written to the error stream, first as they were
logged, then in a block of their own. They do not change the exit code, unless
`--strict` asks for it.
-/

namespace CaSettings.Cli

/-- The name of the program. -/
def programName : String := "pcactl"

/-- The version of the program. -/
def version : String := "0.1.0"

/-! ## Outcomes -/

/-- How a command ends. -/
inductive ExitCode
  | ok
  /-- There are problems and `--strict` is given, or a setting is not known. -/
  | validation
  /-- The configuration file cannot be read. -/
  | environment
deriving DecidableEq

namespace ExitCode

/-- The exit codes, the smallest first. -/
def all : List ExitCode := [.ok, .validation, .environment]

/-- The name of an exit code. -/
def name : ExitCode → String
  | .ok => "OK"
  | .validation => "VALIDATION"
  | .environment => "ENVIRONMENT"

/-- The number that the program ends with. -/
def number : ExitCode → Nat
  | .ok => 0
  | .validation => 2
  | .environment => 3

end ExitCode

/-- What is written to the output. -/
inductive Screen
  | text (content : String)
  | help (page : Page)

/-- What a run leaves behind. -/
structure Output where
  exitCode : ExitCode
  stdout : Screen
  stderr : String

/-- How a run ends. -/
inductive Outcome
  | finished (output : Output)
  | misused (cause : Misuse)
  | failed (cause : Failure)

/-! ## Values -/

/-- A value as text; nothing is shown for no value. -/
def valueText : Option Value → Except Failure String
  | none => .ok ""
  | some (.text content) => .ok content
  | some (.seconds n) => decimalText n
  | some (.servers list) => .ok (ServerList.render list)

/-- A list of servers as a document: an array of the parts of each entry. -/
def serversJson (list : List ServerEntry) : Json :=
  .array (list.map fun entry => .array (entry.parts.map .text))

/-- A value as a document. -/
def valueJson : Option Value → Except Failure Json
  | none => .ok .null
  | some (.text content) => .ok (.text content)
  | some (.seconds n) => (decimalText n).map fun _ => .number n
  | some (.servers list) => .ok (serversJson list)

/-! ## Commands -/

/-- The settings as a table on a screen of width `w`. -/
def settingsTable (w : Nat) (view : ConfigView) : Except Failure String :=
  (view.settings.traverse fun _ value => valueText value).map fun texts =>
    table w ("Setting", "Value") texts.entries

/-- The settings, with the file they come from and the problems, as a document. -/
def settingsDocument (view : ConfigView) : Except Failure Json :=
  (view.settings.traverse fun _ value => valueJson value).map fun values =>
    .object
      [("config_file", .text view.path.render), ("settings", .object values.entries),
        ("errors", .array (view.problems.map fun problem => .text problem.message))]

/-- The document of the settings as text. -/
def settingsJson (view : ConfigView) : Except Failure String :=
  (settingsDocument view).map fun document => document.indented ++ "\n"

/-- The problems of a view, as a block under the path of its file. -/
def problemBlock (w : Nat) (view : ConfigView) : String :=
  if view.problems.isEmpty then ""
  else
    shownLine w "Warning: " view.path.render "" ++
      String.join (view.problems.map fun problem => shownLine w "    " problem.message "")

/-- The warnings of a log, a line each. -/
def warningLines (log : List LogRecord) : String :=
  String.join ((log.filter (·.level = .warning)).map fun record => record.message ++ "\n")

/-- Show all settings. -/
def configShow (w : Nat) (json strict : Bool) (log : List LogRecord) (view : ConfigView) :
    Outcome :=
  match if json then settingsJson view else settingsTable w view with
  | .error failure => .failed failure
  | .ok text =>
    .finished
      { exitCode := if strict && !view.problems.isEmpty then .validation else .ok
        stdout := .text text
        stderr := warningLines log ++ problemBlock w view }

/-- The line that `config get` writes for a value. -/
def valueLine (value : Option Value) : Except Failure String :=
  match value with
  | some (.servers list) => .ok (plainLine (serversJson list).compact)
  | other => (valueText other).map plainLine

/-- Show the value of one setting, whose name may be written in any case. -/
def configGet (w : Nat) (name : String) (log : List LogRecord) (view : ConfigView) : Outcome :=
  match view.settings.get? (Text.lower name) with
  | none =>
    .finished
      { exitCode := .validation
        stdout := .text ""
        stderr := warningLines log ++ shownLine w "Error: Unknown setting '" name "'." }
  | some value =>
    match valueLine value with
    | .error failure => .failed failure
    | .ok line =>
      .finished
        { exitCode := .ok
          stdout := .text line
          stderr := warningLines log ++ problemBlock w view }

/-- Run a command on a view as loading left it, on a screen of width `w`. -/
def execute (w : Nat) (command : Command) (loaded : Traced ConfigView) : Outcome :=
  match loaded.result with
  | .error (.unreadable path cause) =>
    .finished
      { exitCode := .environment
        stdout := .text ""
        stderr := shownLine w "Error: " (Failure.unreadable path cause).message "" }
  | .error failure => .failed failure
  | .ok view =>
    match command with
    | .configShow json strict => configShow w json strict loaded.log view
    | .configGet name => configGet w name loaded.log view

/-! ## Runs -/

/-- What a run comes to before a file is read. -/
inductive Plan
  /-- The run is over. -/
  | done (outcome : Outcome)
  /-- A command is to run on a configuration file. -/
  | inspect (view : ConfigView) (command : Command)

/-- What the arguments come to on a host. A path that is given counts even if
its text is empty. -/
def plan (arguments : List String) (host : Host) (env : Environment) : Plan :=
  match Request.read arguments with
  | .error (.misuse cause) => .done (.misused cause)
  | .error (.failure cause) => .done (.failed cause)
  | .ok (.help page) => .done (.finished ⟨.ok, .help page, ""⟩)
  | .ok .version =>
    .done (.finished
      { exitCode := .ok
        stdout := .text (shownLine host.display.width "" s!"{programName} {version}" "")
        stderr := "" })
  | .ok (.run file command) =>
    match choosePath (file.map Path.parse) env host.homes host.hooks with
    | .error failure => .done (.failed failure)
    | .ok path => .inspect (.new path host.hooks) command

/-- A run on the files of a tree. -/
def run (arguments : List String) (host : Host) (env : Environment) (files : FileTree) :
    Outcome :=
  match plan arguments host env with
  | .done outcome => outcome
  | .inspect view command => execute host.display.width command (view.load (files.read view.path))

end CaSettings.Cli
