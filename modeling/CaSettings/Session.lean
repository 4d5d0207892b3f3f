import CaSettings.ConfigView

/-!
# Sessions

A session works on the files of a machine and looks at one configuration file at a
time. A step changes the files in some way (`Step.write` and `Step.remove` are two of
them), opens a configuration file, with or without loading it, loads the current one
again, or just looks.

A step that fails changes nothing: a view that cannot be opened or loaded does
not become the current one, and a view that cannot be loaded again keeps what
it has.
-/

namespace CaSettings

/-- How a configuration file is opened. -/
structure OpenRequest where
  given : Option Path
  env : Environment
  hooks : Hooks

/-- One step of a session. -/
inductive Step
  /-- Whatever happens to the files. -/
  | change (files : FileTree → FileTree)
  | openView (request : OpenRequest)
  | openAndLoad (request : OpenRequest)
  | load
  | look

/-- Write a file, or make a directory. -/
def Step.write (path : Path) (entry : FileEntry) : Step :=
  .change fun files => files.put (files.destination path) entry

/-- Remove a file, or a directory with all that is in it. -/
def Step.remove (path : Path) : Step := .change fun files => files.remove (files.named path)

/-- What a step answers. -/
inductive StepAnswer
  /-- Files were changed. -/
  | done
  /-- The current view, and whether its file is there. -/
  | state (view : ConfigView) (present : Bool)
  /-- There is no current view. -/
  | noView

/-- Where a session stands. -/
structure Session where
  files : FileTree
  homes : Homes
  current : Option ConfigView

namespace Session

/-- A session that looks at no configuration file yet. -/
def start (files : FileTree) (homes : Homes) : Session := ⟨files, homes, none⟩

/-- A view of the file that a request is about. -/
def viewOf (s : Session) (request : OpenRequest) : Except Failure ConfigView :=
  (choosePath request.given request.env s.homes request.hooks).map (ConfigView.new · request.hooks)

/-- The answer about the current view. -/
def look (s : Session) : Except Failure StepAnswer :=
  match s.current with
  | none => .ok .noView
  | some view => (s.files.exists? view.path).map (StepAnswer.state view)

/-- Make a view the current one, unless getting it failed. -/
def adopt (s : Session) (view : Traced ConfigView) : Session × Traced StepAnswer :=
  match view.result with
  | .error failure => (s, ⟨view.log, .error failure⟩)
  | .ok v =>
    let s := { s with current := some v }
    (s, ⟨view.log, s.look⟩)

/-- Load a view from the files of the session. -/
def loadView (s : Session) (view : ConfigView) : Traced ConfigView :=
  view.load (s.files.read view.path)

/-- Take one step. -/
def step (s : Session) : Step → Session × Traced StepAnswer
  | .change files => ({ s with files := files s.files }, pure .done)
  | .openView request => s.adopt (Traced.ofExcept (s.viewOf request))
  | .openAndLoad request =>
    s.adopt do
      let view ← Traced.ofExcept (s.viewOf request)
      s.loadView view
  | .load =>
    match s.current with
    | none => (s, pure .noView)
    | some view => s.adopt (s.loadView view)
  | .look => (s, Traced.ofExcept s.look)

/-- Take steps one after the other, and give the answers. -/
def run (s : Session) : List Step → Session × List (Traced StepAnswer)
  | [] => (s, [])
  | step :: rest =>
    let (s, answer) := s.step step
    let (s, answers) := s.run rest
    (s, answer :: answers)

end Session

end CaSettings
