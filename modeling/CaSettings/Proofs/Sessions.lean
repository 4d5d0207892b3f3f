import CaSettings.Proofs.Conf.Written
import CaSettings.Proofs.Loading
import CaSettings.Session

/-!
# Sessions keep views whole

A `Journal` follows a session without settings and problems: of the current
file it knows the path, the hooks, and the text that was read when a loading
last succeeded.

* **`Reflects`** — a view holds what its entry in the journal comes to: nothing,
  or the settings and problems of that one text;
* `Follows.step`, `Follows.run` — no step, and so no run, breaks this;
* `run_keeps_views_whole` — and what the single steps change and record.
-/

namespace CaSettings

/-- A configuration file that was opened, with the text of its last successful loading. -/
structure Opened where
  path : Path
  hooks : Hooks
  text : Option String

/-- The text of the file if loading it succeeds. A file that is not there has the
empty text. -/
def Opened.taken (o : Opened) (files : FileTree) : Option String :=
  match ((ConfigView.new o.path o.hooks).load (files.read o.path)).result,
    ConfigView.textRead o.path (files.read o.path) with
  | .ok _, .ok text => some text
  | _, _ => none

/-- What is remembered of a session. -/
structure Journal where
  files : FileTree
  homes : Homes
  current : Option Opened

namespace Journal

/-- The journal of a session that looks at no configuration file yet. -/
def start (files : FileTree) (homes : Homes) : Journal := ⟨files, homes, none⟩

/-- The file that a request is about, if its path can be told. -/
def opened? (j : Journal) (request : OpenRequest) : Option Opened :=
  match choosePath request.given request.env j.homes request.hooks with
  | .error _ => none
  | .ok path => some ⟨path, request.hooks, none⟩

/-- Note down a loading of a file. One that fails leaves no trace. -/
def load (j : Journal) (o : Opened) : Journal :=
  match o.taken j.files with
  | none => j
  | some text => { j with current := some { o with text := some text } }

/-- Note down one step. -/
def step (j : Journal) : Step → Journal
  | .change files => { j with files := files j.files }
  | .openView request =>
    match j.opened? request with
    | none => j
    | some o => { j with current := some o }
  | .openAndLoad request =>
    match j.opened? request with
    | none => j
    | some o => j.load o
  | .load =>
    match j.current with
    | none => j
    | some o => j.load o
  | .look => j

/-- Note down steps one after the other. -/
def run (j : Journal) (steps : List Step) : Journal := steps.foldl step j

end Journal

/-! ## The invariant -/

/-- A view holds what its entry in the journal comes to. -/
structure Reflects (v : ConfigView) (o : Opened) : Prop where
  path_eq : v.path = o.path
  hooks_eq : v.hooks = o.hooks
  /-- Before a loading succeeds there is nothing. -/
  fresh : o.text = none → v.settings = .empty ∧ v.problems = []
  /-- Afterwards there is what the last text comes to. -/
  loaded : ∀ text, o.text = some text →
    ((Resolver.ofHooks o.hooks).resolve (textOverrides text)).result =
      .ok ⟨v.settings, v.problems⟩

/-- The journal is about the session, and the current view reflects its entry. -/
structure Follows (s : Session) (j : Journal) : Prop where
  files_eq : s.files = j.files
  homes_eq : s.homes = j.homes
  current : Option.Rel Reflects s.current j.current

/-! ## One step -/

theorem Reflects.new (path : Path) (hooks : Hooks) :
    Reflects (.new path hooks) ⟨path, hooks, none⟩ where
  path_eq := rfl
  hooks_eq := rfl
  fresh := fun _ => ⟨rfl, rfl⟩
  loaded := fun _ h => nomatch h

/-- A loading fails iff there is no text to take in; otherwise its view reflects that text. -/
theorem Reflects.load {v : ConfigView} {o : Opened} (h : Reflects v o) (files : FileTree) :
    (∃ failure, (v.load (files.read v.path)).result = .error failure ∧ o.taken files = none) ∨
      ∃ w text, (v.load (files.read v.path)).result = .ok w ∧ o.taken files = some text ∧
        Reflects w { o with text := some text } := by
  obtain ⟨hpath, hhooks, _, _⟩ := h
  unfold Opened.taken
  rw [ConfigView.result_load, ConfigView.result_load, hpath, hhooks]
  dsimp only [ConfigView.new]
  cases hread : ConfigView.textRead o.path (files.read o.path) with
  | error failure => exact .inl ⟨failure, rfl, rfl⟩
  | ok text =>
    dsimp only [Except.bind]
    cases hresolve : ((Resolver.ofHooks o.hooks).resolve (textOverrides text)).result with
    | error failure => exact .inl ⟨failure, rfl, rfl⟩
    | ok resolution =>
      refine .inr ⟨v.filled resolution, text, rfl, rfl, hpath, hhooks, ?_, ?_⟩
      · intro hnone
        cases hnone
      · intro text' htext
        obtain rfl := Option.some.inj htext
        exact hresolve

/-! ### Steps of a session -/

namespace Session

variable {s : Session}

theorem adopt_of_ok {view : Traced ConfigView} {w : ConfigView} (h : view.result = .ok w) :
    s.adopt view =
      ({ s with current := some w }, ⟨view.log, look { s with current := some w }⟩) := by
  unfold adopt
  rw [h]

theorem adopt_of_error {view : Traced ConfigView} {failure : Failure}
    (h : view.result = .error failure) : s.adopt view = (s, ⟨view.log, .error failure⟩) := by
  unfold adopt
  rw [h]

/-- The records of a step that gets a view are those of getting it. -/
theorem log_adopt (s : Session) (view : Traced ConfigView) : (s.adopt view).2.log = view.log := by
  unfold adopt
  cases view.result <;> rfl

/-- The loading that a step tries, if it tries one. -/
def attempt (s : Session) : Step → Option (Traced ConfigView)
  | .openAndLoad request =>
    match s.viewOf request with
    | .error _ => none
    | .ok view => some (s.loadView view)
  | .load => s.current.map s.loadView
  | _ => none

theorem step_openView (s : Session) (request : OpenRequest) :
    s.step (.openView request) = s.adopt (Traced.ofExcept (s.viewOf request)) := rfl

theorem step_openAndLoad (s : Session) (request : OpenRequest) :
    s.step (.openAndLoad request) =
      s.adopt (Traced.ofExcept (s.viewOf request) >>= s.loadView) := rfl

theorem step_load_of_none (h : s.current = none) : s.step .load = (s, pure .noView) := by
  rw [step, h]

theorem step_load_of_some {view : ConfigView} (h : s.current = some view) :
    s.step .load = s.adopt (s.loadView view) := by
  rw [step, h]

/-- A step that tries a loading adopts the loaded view. -/
theorem step_of_attempt {step : Step} {loading : Traced ConfigView}
    (h : s.attempt step = some loading) : s.step step = s.adopt loading := by
  cases step with
  | openAndLoad request =>
    cases hview : s.viewOf request with
    | error failure => simp [attempt, hview] at h
    | ok view =>
      simp only [attempt, hview, Option.some.injEq] at h
      subst h
      rw [step_openAndLoad, hview]
      rfl
  | load =>
    cases hcurrent : s.current with
    | none => simp [attempt, hcurrent] at h
    | some view =>
      simp only [attempt, hcurrent, Option.map_some, Option.some.injEq] at h
      subst h
      exact step_load_of_some hcurrent
  | change files => cases h
  | openView request => cases h
  | look => cases h

/-- What a step tries is a loading of a file of the session. -/
theorem loadView_of_attempt {step : Step} {loading : Traced ConfigView}
    (h : s.attempt step = some loading) : ∃ view, loading = s.loadView view := by
  cases step with
  | openAndLoad request =>
    cases hview : s.viewOf request with
    | error failure => simp [attempt, hview] at h
    | ok view =>
      simp only [attempt, hview, Option.some.injEq] at h
      exact ⟨view, h.symm⟩
  | load =>
    obtain ⟨view, _, hview⟩ := Option.map_eq_some_iff.mp h
    exact ⟨view, hview.symm⟩
  | change files => cases h
  | openView request => cases h
  | look => cases h

/-- A step whose loading succeeds makes the loaded view the current one and
warns of each of its problems, in order. -/
theorem step_of_loaded {step : Step} {loading : Traced ConfigView} {w : ConfigView}
    (h : s.attempt step = some loading) (hw : loading.result = .ok w) :
    (s.step step).1 = { s with current := some w } ∧
      warnings (s.step step).2.log =
        w.problems.map fun problem => ⟨.warning, w.path.render ++ ": " ++ problem.message⟩ := by
  rw [step_of_attempt h]
  refine ⟨by rw [adopt_of_ok hw], ?_⟩
  obtain ⟨view, rfl⟩ := loadView_of_attempt h
  rw [log_adopt, ConfigView.path_of_load hw]
  exact ConfigView.warnings_load_of_ok hw

/-- A step whose loading fails changes nothing and warns of nothing. -/
theorem step_of_failed {step : Step} {loading : Traced ConfigView} {failure : Failure}
    (h : s.attempt step = some loading) (hfailure : loading.result = .error failure) :
    (s.step step).1 = s ∧ warnings (s.step step).2.log = [] := by
  rw [step_of_attempt h]
  refine ⟨by rw [adopt_of_error hfailure], ?_⟩
  obtain ⟨view, rfl⟩ := loadView_of_attempt h
  rw [log_adopt]
  exact ConfigView.warnings_load_of_error hfailure

/-- A step that tries no loading changes no view, unless it opens a new one. -/
theorem step_of_no_attempt {step : Step} (h : s.attempt step = none) :
    warnings (s.step step).2.log = [] ∧
      ((s.step step).1.current = s.current ∨
        ∃ request view, step = .openView request ∧ s.viewOf request = .ok view ∧
          (s.step step).1.current = some view) := by
  cases step with
  | change files => exact ⟨rfl, .inl rfl⟩
  | look => exact ⟨rfl, .inl rfl⟩
  | openView request =>
    rw [step_openView, log_adopt]
    refine ⟨rfl, ?_⟩
    cases hview : s.viewOf request with
    | error failure => exact .inl rfl
    | ok view => exact .inr ⟨request, view, rfl, hview, rfl⟩
  | openAndLoad request =>
    cases hview : s.viewOf request with
    | ok view => simp [attempt, hview] at h
    | error failure =>
      rw [step_openAndLoad, hview]
      exact ⟨rfl, .inl rfl⟩
  | load =>
    cases hcurrent : s.current with
    | some view => simp [attempt, hcurrent] at h
    | none =>
      rw [step_load_of_none hcurrent]
      exact ⟨rfl, .inl hcurrent⟩

end Session

namespace Follows

variable {s : Session} {j : Journal}

/-- There is a current view iff there is an entry, and then it reflects it. -/
theorem current_cases (h : Follows s j) :
    (s.current = none ∧ j.current = none) ∨
      ∃ v o, s.current = some v ∧ j.current = some o ∧ Reflects v o := by
  have hrel := h.current
  cases hview : s.current with
  | none =>
    cases hopened : j.current with
    | none => exact .inl ⟨rfl, rfl⟩
    | some o =>
      rw [hview, hopened] at hrel
      cases hrel
  | some v =>
    cases hopened : j.current with
    | none =>
      rw [hview, hopened] at hrel
      cases hrel
    | some o =>
      rw [hview, hopened, Option.rel_some_some] at hrel
      exact .inr ⟨v, o, rfl, rfl, hrel⟩

/-- A loading that succeeds is adopted, and noted down; one that fails is neither. -/
theorem load (h : Follows s j) {v : ConfigView} {o : Opened} (hv : Reflects v o) :
    Follows (s.adopt (s.loadView v)).1 (j.load o) := by
  unfold Journal.load Session.loadView
  rw [← h.files_eq]
  obtain ⟨failure, hresult, htaken⟩ | ⟨w, text, hresult, htaken, hw⟩ := hv.load s.files
  · rw [Session.adopt_of_error hresult, htaken]
    exact h
  · rw [Session.adopt_of_ok hresult, htaken]
    exact ⟨rfl, h.homes_eq, .some hw⟩

/-- A request opens the same file in the session and in the journal. -/
theorem opened (h : Follows s j) (request : OpenRequest) :
    (∃ failure, s.viewOf request = .error failure ∧ j.opened? request = none) ∨
      ∃ v o, s.viewOf request = .ok v ∧ j.opened? request = some o ∧ Reflects v o := by
  unfold Session.viewOf Journal.opened?
  rw [h.homes_eq]
  cases choosePath request.given request.env j.homes request.hooks with
  | error failure => exact .inl ⟨failure, rfl, rfl⟩
  | ok path => exact .inr ⟨_, _, rfl, rfl, Reflects.new path request.hooks⟩

/-- **One step.** -/
theorem step (h : Follows s j) (step : Step) : Follows (s.step step).1 (j.step step) := by
  cases step with
  | change files => exact ⟨congrArg files h.files_eq, h.homes_eq, h.current⟩
  | openView request =>
    rw [Session.step_openView]
    unfold Journal.step
    obtain ⟨failure, hview, hopened⟩ | ⟨v, o, hview, hopened, hv⟩ := h.opened request
    · simp only [hview, hopened]
      exact h
    · simp only [hview, hopened]
      exact ⟨h.files_eq, h.homes_eq, .some hv⟩
  | openAndLoad request =>
    rw [Session.step_openAndLoad]
    unfold Journal.step
    obtain ⟨failure, hview, hopened⟩ | ⟨v, o, hview, hopened, hv⟩ := h.opened request
    · simp only [hview, hopened]
      exact h
    · simp only [hview, hopened]
      exact h.load hv
  | load =>
    unfold Journal.step
    obtain ⟨hview, hopened⟩ | ⟨v, o, hview, hopened, hv⟩ := h.current_cases
    · rw [Session.step_load_of_none hview]
      simp only [hopened]
      exact h
    · rw [Session.step_load_of_some hview]
      simp only [hopened]
      exact h.load hv
  | look => exact h

/-- No run breaks what no step breaks. -/
theorem run (h : Follows s j) (steps : List Step) : Follows (s.run steps).1 (j.run steps) := by
  induction steps generalizing s j with
  | nil => exact h
  | cons step rest ih => exact ih (h.step step)

end Follows

/-- **Views are kept whole.** After any steps the current view holds nothing,
if no loading of it has succeeded, and else what the text of the last successful
one comes to. In any session a loading that succeeds is the only thing that
changes a view, and it warns of the problems in their order; one that fails
changes nothing and warns of nothing. -/
theorem run_keeps_views_whole :
    (∀ files homes steps,
      Follows ((Session.start files homes).run steps).1
        ((Journal.start files homes).run steps)) ∧
    ∀ (s : Session) (step : Step),
      (∀ loading w, s.attempt step = some loading → loading.result = .ok w →
        (s.step step).1 = { s with current := some w } ∧
          warnings (s.step step).2.log =
            w.problems.map fun problem =>
              ⟨.warning, w.path.render ++ ": " ++ problem.message⟩) ∧
      (∀ loading failure, s.attempt step = some loading → loading.result = .error failure →
        (s.step step).1 = s ∧ warnings (s.step step).2.log = []) ∧
      (s.attempt step = none →
        warnings (s.step step).2.log = [] ∧
          ((s.step step).1.current = s.current ∨
            ∃ request view, step = .openView request ∧ s.viewOf request = .ok view ∧
              (s.step step).1.current = some view)) := by
  refine ⟨fun files homes steps => ?_, fun s step => ⟨?_, ?_, Session.step_of_no_attempt⟩⟩
  · have hstart : Follows (Session.start files homes) (Journal.start files homes) :=
      ⟨rfl, rfl, .none⟩
    exact hstart.run steps
  · exact fun loading w => Session.step_of_loaded
  · exact fun loading failure => Session.step_of_failed

/-! ### A file that is lost -/

/-- The path of the configuration file of `lostFile`. -/
def lostPath : Path := Path.parse "/etc/./puppet//puppet.conf"

/-- A file is loaded; then a directory takes its place, and it is loaded again. -/
def lostFile : List Step :=
  [.write lostPath (.file (Text.asciiBytes "ca_ttl = 90".toList)),
    .openAndLoad ⟨some lostPath, .empty, ⟨"ca.example.com", .ok systemConfdir⟩⟩,
    .remove lostPath, .write lostPath .directory, .load]

/-- The files of a machine on which nothing is but the working directory. -/
def bareFiles : FileTree := .empty ["root"]

theorem text_lostFile :
    ((Journal.start bareFiles (.own "/root")).run lostFile).current.bind Opened.text =
      some "ca_ttl = 90" := by
  decide +kernel

/-- The view still holds what the lost file said. -/
theorem run_keeps_views_whole_lostFile :
    ∃ view, ((Session.start bareFiles (.own "/root")).run lostFile).1.current = some view ∧
      ((Resolver.ofHooks view.hooks).resolve (textOverrides "ca_ttl = 90")).result =
        .ok ⟨view.settings, view.problems⟩ := by
  have hfollows := run_keeps_views_whole.1 bareFiles (.own "/root") lostFile
  have htext := text_lostFile
  obtain ⟨_, hopened⟩ | ⟨v, o, hview, hopened, hv⟩ := hfollows.current_cases
  · rw [hopened] at htext
    cases htext
  · rw [hopened] at htext
    refine ⟨v, hview, ?_⟩
    rw [hv.hooks_eq]
    exact hv.loaded _ htext

end CaSettings
