import CaSettings.ConfigView
import CaSettings.Proofs.Resolving

/-!
# What loading comes to

Loading a view resolves what the text of its file says. `ConfigView.textRead`
is that text, empty where there is no file; `textOverrides` is what a text
says.

* `result_load`, `result_load_eq_ok_iff` — the result of loading is the result
  of resolving;
* `warnings_load_of_ok`, `warnings_load_of_error` — the warnings of a loading
  are the problems that it puts in the view, one record each; a loading that
  fails has none.
-/

namespace CaSettings

/-- What the text of a configuration file says about settings. -/
def textOverrides (text : String) : Overrides :=
  (Sections.parse text).caSettings.map fun _ value => some value

/-- The records of a log that are warnings. -/
def warnings (log : List LogRecord) : List LogRecord := log.filter (·.level = .warning)

theorem warnings_append (first second : List LogRecord) :
    warnings (first ++ second) = warnings first ++ warnings second :=
  List.filter_append ..

theorem warnings_noteNames (message : String) (names : List String) :
    warnings (Traced.noteNames message names).log = [] := by
  cases names <;> rfl

theorem warnings_noteAll (messages : List String) :
    warnings (Traced.noteAll .warning messages).log = messages.map (⟨.warning, ·⟩) := by
  unfold warnings Traced.noteAll
  rw [List.filter_map]
  exact congrArg _ (List.filter_eq_self.mpr fun _ _ => rfl)

/-! ## Resolving -/

namespace Resolver

theorem warnings_resolve (r : Resolver) (overrides : Overrides) :
    warnings (r.resolve overrides).log = [] := by
  cases ht : r.templates overrides with
  | error failure => rw [log_resolve_of_error ht, warnings_noteNames]
  | ok t =>
    rw [log_resolve ht, warnings_append, warnings_noteNames, warnings_noteNames]
    rfl

/-- The default table has an overlay wherever the host knows its directory. -/
theorem templates_ofHooks_isOk {hooks : Hooks} {dir : String} (hdir : hooks.confdir = .ok dir)
    (overrides : Overrides) : ∃ t, (ofHooks hooks).templates overrides = .ok t := by
  refine templates_isOk_iff.mpr fun name spec hspec _ => ?_
  have hmem : (name, spec) ∈ (defaultTable hooks).entries := NameMap.get?_eq_some_iff.mp hspec
  have hall : ∀ entry ∈ (defaultTable hooks).entries, ∃ value, entry.2.template = .ok value := by
    unfold defaultTable
    rw [hdir]
    simp [DefaultSpec.template, Except.map]
  exact hall (name, spec) hmem

end Resolver

namespace ConfigView

/-- The text that reading a file gave; a file that is not there has the empty text. -/
def textRead (path : Path) : Except PathError (List UInt8) → Except Failure String
  | .ok bytes => .ok (fileText bytes)
  | .error (.refused cause) =>
    if cause.isMissing then .ok "" else .error (.unreadable path.render cause)
  | .error .nul => .error .nulInPath

/-- The view with what resolving gave. -/
def filled (v : ConfigView) (resolution : Resolution) : ConfigView :=
  { v with settings := resolution.settings, problems := resolution.problems }

theorem result_overrides (path : Path) (content : Except PathError (List UInt8)) :
    (overrides path content).result =
      (textRead path content).map fun text => (Sections.parse text).caSettings := by
  rcases content with (_ | cause) | bytes
  · rfl
  · dsimp only [overrides, textRead]
    cases cause.isMissing <;> rfl
  · rfl

theorem warnings_overrides (path : Path) (content : Except PathError (List UInt8)) :
    warnings (overrides path content).log = [] := by
  rcases content with (_ | cause) | bytes
  · rfl
  · dsimp only [overrides]
    cases cause.isMissing <;> rfl
  · rfl

/-- Loading resolves what the text of the file says. -/
theorem result_load (v : ConfigView) (content : Except PathError (List UInt8)) :
    (v.load content).result =
      (textRead v.path content).bind fun text =>
        ((Resolver.ofHooks v.hooks).resolve (textOverrides text)).result.map v.filled := by
  unfold load
  simp only [Traced.result_bind, Traced.result_note, Traced.result_noteAll, Traced.result_pure,
    result_overrides, Except.bind]
  cases textRead v.path content with
  | error failure => rfl
  | ok text => rfl

/-- A loaded view is the old one filled with what the text of the file comes to. -/
theorem result_load_eq_ok_iff {v w : ConfigView} {content : Except PathError (List UInt8)} :
    (v.load content).result = .ok w ↔
      ∃ text resolution, textRead v.path content = .ok text ∧
        ((Resolver.ofHooks v.hooks).resolve (textOverrides text)).result = .ok resolution ∧
        v.filled resolution = w := by
  rw [result_load]
  cases textRead v.path content with
  | error failure => simp [Except.bind]
  | ok text =>
    show ((Resolver.ofHooks v.hooks).resolve (textOverrides text)).result.map v.filled = .ok w ↔ _
    cases hresolve : ((Resolver.ofHooks v.hooks).resolve (textOverrides text)).result with
    | error failure => simp [Except.map, hresolve]
    | ok resolution => simp [Except.map, hresolve]

theorem path_of_load {v w : ConfigView} {content : Except PathError (List UInt8)}
    (h : (v.load content).result = .ok w) : w.path = v.path := by
  obtain ⟨_, _, _, _, rfl⟩ := result_load_eq_ok_iff.mp h
  rfl

/-- A loading warns of what resolving finds, after it has found it. -/
theorem warnings_load (v : ConfigView) (content : Except PathError (List UInt8)) :
    warnings (v.load content).log =
      match (v.load content).result with
      | .ok w => w.problems.map fun problem => ⟨.warning, warning v.path problem⟩
      | .error _ => [] := by
  unfold load
  rw [Traced.log_bind_of_ok (Traced.result_note _ _), warnings_append]
  simp only [Traced.result_bind, Traced.result_note, Except.bind]
  cases hover : (overrides v.path content).result with
  | error failure =>
    rw [Traced.log_bind_of_error hover, warnings_overrides]
    rfl
  | ok given =>
    rw [Traced.log_bind_of_ok hover, warnings_append, warnings_overrides]
    dsimp only
    cases hresolve : ((Resolver.ofHooks v.hooks).resolve
        (given.map fun _ value => some value)).result with
    | error failure =>
      rw [Traced.log_bind_of_error hresolve, Resolver.warnings_resolve]
      rfl
    | ok resolution =>
      rw [Traced.log_bind_of_ok hresolve, warnings_append, Resolver.warnings_resolve,
        Traced.log_bind_of_ok (Traced.result_noteAll _ _), warnings_append, warnings_noteAll]
      simp only [Traced.result_noteAll, Traced.result_pure, List.map_map]
      exact List.append_nil _

theorem warnings_load_of_ok {v w : ConfigView} {content : Except PathError (List UInt8)}
    (h : (v.load content).result = .ok w) :
    warnings (v.load content).log =
      w.problems.map fun problem => ⟨.warning, warning v.path problem⟩ := by
  rw [warnings_load, h]

theorem warnings_load_of_error {v : ConfigView} {content : Except PathError (List UInt8)}
    {failure : Failure} (h : (v.load content).result = .error failure) :
    warnings (v.load content).log = [] := by
  rw [warnings_load, h]

end ConfigView

end CaSettings
