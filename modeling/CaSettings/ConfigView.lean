import CaSettings.Conf.Sections
import CaSettings.FileTree
import CaSettings.Resolver
import CaSettings.Text.Utf8

/-!
# The view of a configuration file

A `ConfigView` belongs to one configuration file. It is made with the path
(`choosePath`), without settings; loading the file fills it.

* **`choosePath`** — a path that is given counts, then the one in the
  environment, then the file in the configuration directory of the host;
* **`fileText`** — the text that the bytes of a file stand for;
* **`ConfigView.load`** — settings and problems from what the file holds. A
  file that is not there counts as empty; one that cannot be read is a failure,
  and a failure leaves the view as it was.
-/

namespace CaSettings

open Text

/-- The variables of the environment. -/
abbrev Environment := NameMap String

/-- The variable that names the configuration file. -/
def configVariable : String := "PCACTL_CONFIG_FILE"

/-- The name of the configuration file in the configuration directory. -/
def configFileName : String := "puppet.conf"

/-- The path that a text gives, if it gives one. -/
def givenPath (text : Option String) : Option Path :=
  (text.filter (· ≠ "")).map Path.parse

/-- The path of the configuration file. -/
def choosePath (given : Option Path) (env : Environment) (homes : Homes) (hooks : Hooks) :
    Except Failure Path :=
  match given, givenPath (env.get? configVariable) with
  | some path, _ => path.expandUser homes
  | none, some path => path.expandUser homes
  | none, none => hooks.confdir.map fun confdir => (Path.parse confdir).child configFileName

/-- The text of a file. -/
def fileText (content : List UInt8) : String :=
  String.ofList (unifyLineEnds (decodeUtf8 content))

/-- A configuration file with the settings that its last loading gave. -/
structure ConfigView where
  path : Path
  hooks : Hooks
  settings : Settings
  problems : List Problem

namespace ConfigView

/-- The view of a file that was not loaded yet. -/
def new (path : Path) (hooks : Hooks) : ConfigView := ⟨path, hooks, .empty, []⟩

/-- What a configuration file says, from what reading it gave. -/
def overrides (path : Path) (content : Except PathError (List UInt8)) :
    Traced (NameMap String) :=
  match content with
  | .ok bytes => return (Sections.parse (fileText bytes)).caSettings
  | .error (.refused cause) =>
    if cause.isMissing then do
      Traced.note .debug s!"Config file {path.render} not found; using defaults."
      return .empty
    else Traced.ofExcept (.error (.unreadable path.render cause))
  | .error .nul => Traced.ofExcept (.error .nulInPath)

/-- The record of a problem. -/
def warning (path : Path) (problem : Problem) : String :=
  s!"{path.render}: {problem.message}"

/-- Fill the view from what reading its file gave. -/
def load (v : ConfigView) (content : Except PathError (List UInt8)) : Traced ConfigView := do
  Traced.note .debug s!"Reading config file {v.path.render}"
  let overrides ← overrides v.path content
  let resolution ← (Resolver.ofHooks v.hooks).resolve (overrides.map fun _ value => some value)
  Traced.noteAll .warning (resolution.problems.map (warning v.path))
  return { v with settings := resolution.settings, problems := resolution.problems }

end ConfigView

end CaSettings
