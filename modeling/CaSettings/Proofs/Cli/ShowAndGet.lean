import CaSettings.Proofs.Cli.Asking
import CaSettings.Proofs.Cli.Screen
import CaSettings.Proofs.Cli.Stopping

/-!
# What the two commands show

Both commands show what loading gave and say the same about it. A file that cannot
be read ends them with 3. From a file that is loaded they show the same values
(`reportedText`, `valueLine_of_valueJson`) and write the same warnings, one for each
problem, in order (`problemBlock_eq`). `config get` leaves terminal sequences out.

`commands_agree_with_loader` puts this together.
-/

namespace CaSettings

open Text

variable {view loaded : ConfigView} {content : Except PathError (List UInt8)} {w : Nat}

namespace Cli

/-! ## Values -/

/-- How `config get` writes what a document reports: nothing for no value, a text or a
number as it is, and a list as a document on one line. -/
def reportedText : Json → String
  | .null => ""
  | .text content => content
  | .number n => toString n
  | other => other.compact

theorem eq_toString_of_decimalText {n : Nat} {digits : String} (h : decimalText n = .ok digits) :
    digits = toString n := by
  unfold decimalText at h
  dsimp only at h
  split at h
  · cases h
  · exact (Except.ok.inj h).symm

/-- Where a value is reported in a document, its line is what the document reports. -/
theorem valueLine_of_valueJson {value : Option Value} {json : Json}
    (h : valueJson value = .ok json) :
    valueLine value = .ok (plainLine (reportedText json)) := by
  cases value with
  | none =>
    cases h
    rfl
  | some value =>
    cases value with
    | text content =>
      cases h
      rfl
    | servers list =>
      cases h
      rfl
    | seconds n =>
      have hvalue : valueLine (some (.seconds n)) = (decimalText n).map plainLine := rfl
      rw [hvalue]
      change (decimalText n).map (fun _ => Json.number n) = .ok json at h
      cases hdigits : decimalText n with
      | error failure =>
        rw [hdigits] at h
        cases h
      | ok digits =>
        rw [hdigits] at h
        cases h
        rw [eq_toString_of_decimalText hdigits]
        rfl

/-- Values that can all be written are reported under their names. -/
theorem exists_settingsDocument (hseconds : ∀ name n,
      view.settings.get? name = some (some (.seconds n)) → n < 10 ^ maxDigits) :
    ∃ values : NameMap Json,
      view.settings.traverse (fun _ value => valueJson value) = .ok values := by
  cases htraverse : view.settings.traverse fun _ value => valueJson value with
  | ok values => exact ⟨values, rfl⟩
  | error failure =>
    obtain ⟨_, name, _, hget, n, rfl, hlong⟩ :=
      (traverse_eq_error_iff writesValues_valueJson).mp htraverse
    exact absurd (hseconds name n hget) (Nat.not_lt_of_le hlong)

theorem exists_settingsTable (hseconds : ∀ name n,
      view.settings.get? name = some (some (.seconds n)) → n < 10 ^ maxDigits) :
    ∃ text, settingsTable w view = .ok text := by
  unfold settingsTable
  cases htraverse : view.settings.traverse fun _ value => valueText value with
  | ok texts => exact ⟨_, rfl⟩
  | error failure =>
    obtain ⟨_, name, _, hget, n, rfl, hlong⟩ :=
      (traverse_eq_error_iff writesValues_valueText).mp htraverse
    exact absurd (hseconds name n hget) (Nat.not_lt_of_le hlong)

/-! ## Warnings -/

theorem shownLine_ne_empty (w : Nat) (before content after : String) :
    shownLine w before content after ≠ "" := by
  intro h
  have hlength := congrArg String.length h
  simp [shownLine] at hlength

/-- There is a block of warnings iff there are problems. -/
theorem problemBlock_eq_empty_iff : problemBlock w view = "" ↔ view.problems = [] := by
  unfold problemBlock
  split
  · rename_i hnone
    exact ⟨fun _ => List.isEmpty_iff.mp hnone, fun _ => rfl⟩
  · rename_i hsome
    refine ⟨fun hempty => ?_, fun hnone => absurd (List.isEmpty_iff.mpr hnone) hsome⟩
    exact absurd (String.append_eq_empty_iff.mp hempty).1 (shownLine_ne_empty _ _ _ _)

/-- The block has one line for each problem, in order. -/
theorem problemBlock_eq (h : view.problems ≠ []) :
    problemBlock w view = shownLine w "Warning: " view.path.render "" ++
      String.join (view.problems.map fun problem => shownLine w "    " problem.message "") := by
  unfold problemBlock
  exact if_neg (mt List.isEmpty_iff.mp h)

/-- The warnings that loading logged are its problems, in order, one line each. -/
theorem warningLines_load (h : (view.load content).result = .ok loaded) :
    warningLines (view.load content).log =
      String.join (loaded.problems.map fun problem =>
        ConfigView.warning view.path problem ++ "\n") := by
  have hlog := ConfigView.warnings_load_of_ok h
  unfold warnings at hlog
  unfold warningLines
  rw [hlog, List.map_map]
  rfl

/-! ## Runs -/

section Runs

variable {arguments : List String} {host : Host} {env : Environment} {files : FileTree}
  {file : Option String} {path : Path} {command : Command} {cause : FileError} {given : String}

/-- What loading the file at a path gives. -/
def loadedFrom (host : Host) (files : FileTree) (path : Path) : Traced ConfigView :=
  (ConfigView.new path host.hooks).load (files.read path)

/-- A run executes the command that is asked for on the file that is chosen. -/
theorem run_of_asks (h : Asks arguments file command)
    (hpath : choosePath (file.map Path.parse) env host.homes host.hooks = .ok path) :
    run arguments host env files =
      execute host.display.width command (loadedFrom host files path) := by
  have hplan : plan arguments host env = .inspect (.new path host.hooks) command := by
    unfold plan
    rw [h]
    dsimp only
    rw [hpath]
  exact run_of_plan hplan files

/-- Only the time to live is a number of seconds. -/
theorem eq_ttl_of_load (h : (view.load content).result = .ok loaded) {name : String} {n : Nat}
    (hget : loaded.settings.get? name = some (some (.seconds n))) : name = "ca_ttl" := by
  obtain ⟨text, resolution, -, hresolve, rfl⟩ := ConfigView.result_load_eq_ok_iff.mp h
  obtain ⟨t, ttl, problems, -, -, hsettings, -⟩ := Resolver.result_resolve_eq_ok hresolve
  change resolution.settings.get? name = _ at hget
  rw [hsettings] at hget
  exact (Resolver.seconds_finalForm.mp hget).1

/-- If the time to live can be written, so can all settings. -/
theorem seconds_fit (h : (view.load content).result = .ok loaded) (httl : ∀ n,
      loaded.settings.get? "ca_ttl" = some (some (.seconds n)) → n < 10 ^ maxDigits) :
    ∀ name n, loaded.settings.get? name = some (some (.seconds n)) → n < 10 ^ maxDigits := by
  intro name n hget
  obtain rfl := eq_ttl_of_load h hget
  exact httl n hget

/-- The document that `config show --json` writes. -/
def reportOf (view : ConfigView) (values : NameMap Json) : Json :=
  .object
    [("config_file", .text view.path.render), ("settings", .object values.entries),
      ("errors", .array (view.problems.map fun problem => .text problem.message))]

/-- The problems as loading logs them, a line each. -/
def loggedProblems (view : ConfigView) : String :=
  String.join (view.problems.map fun problem => ConfigView.warning view.path problem ++ "\n")

/-- How the commands end on a file that is loaded, on a screen of width `w`. -/
structure ShowAlike (w : Nat) (runs : List String → Outcome) (file : Option String)
    (view : ConfigView) (values : NameMap Json) : Prop where
  /-- Each setting is reported. -/
  names : values.names = view.settings.names
  /-- `--strict` changes nothing but the exit code, and that if there are problems. -/
  shows : ∀ json, ∃ screen,
    (json = true → screen = .text ((reportOf view values).indented ++ "\n")) ∧
    ∀ strict arguments, Asks arguments file (.configShow json strict) →
      ∃ out, runs arguments = .finished out ∧ out.stdout = screen ∧
        out.stderr = loggedProblems view ++ problemBlock w view ∧
        out.exitCode.number = if strict = true ∧ view.problems ≠ [] then 2 else 0
  /-- The value that is reported is written without its terminal sequences. Without an
  escape character it has none. -/
  gets : ∀ name arguments, Asks arguments file (.configGet name) →
    ∀ value, values.get? (Text.lower name) = some value →
      ∃ out line, runs arguments = .finished out ∧ out.exitCode.number = 0 ∧
        WithoutSequences (reportedText value).toList line ∧
        ('\x1b' ∉ (reportedText value).toList → String.ofList line = reportedText value) ∧
        out.stdout = .text (String.ofList line ++ "\n") ∧
        out.stderr = loggedProblems view ++ problemBlock w view
  /-- A name that is not known is refused, without a block of warnings. -/
  refuses : ∀ name arguments, Asks arguments file (.configGet name) →
    Text.lower name ∉ view.settings.names →
      ∃ out, runs arguments = .finished out ∧ out.exitCode.number = 2 ∧ out.stdout = .text "" ∧
        out.stderr = loggedProblems view ++ shownLine w "Error: Unknown setting '" name "'."

/-- What the block of warnings lists on a screen of width `w`. -/
structure ListsProblems (w : Nat) (view : ConfigView) : Prop where
  nothing : problemBlock w view = "" ↔ view.problems = []
  each : view.problems ≠ [] → problemBlock w view = shownLine w "Warning: " view.path.render "" ++
    String.join (view.problems.map fun problem => shownLine w "    " problem.message "")
  asTheyAre : ∀ problem ∈ view.problems, Unmarked problem.message.toList →
    FitsOn w ("    ".toList ++ problem.message.toList) →
      shownLine w "    " problem.message "" = "    " ++ problem.message ++ "\n"

theorem listsProblems (w : Nat) (view : ConfigView) : ListsProblems w view where
  nothing := problemBlock_eq_empty_iff
  each := problemBlock_eq
  asTheyAre := by
    intro problem _ hplain hfits
    have hline : FitsOn w ("    ".toList ++ problem.message.toList ++ "".toList) := by
      rw [String.toList_empty, List.append_nil]
      exact hfits
    rw [shownLine_eq hplain hline, String.append_empty]

variable {values : NameMap Json} {log : List LogRecord}

/-- Showing settings that can all be written succeeds, and `strict` decides the exit code. -/
theorem exists_configShow (hseconds : ∀ name n,
      view.settings.get? name = some (some (.seconds n)) → n < 10 ^ maxDigits)
    (hvalues : view.settings.traverse (fun _ value => valueJson value) = .ok values)
    (log : List LogRecord) (json : Bool) :
    ∃ screen, (json = true → screen = .text ((reportOf view values).indented ++ "\n")) ∧
      ∀ strict, ∃ out, configShow w json strict log view = .finished out ∧ out.stdout = screen ∧
        out.stderr = warningLines log ++ problemBlock w view ∧
        out.exitCode.number = if strict = true ∧ view.problems ≠ [] then 2 else 0 := by
  obtain ⟨text, htext, hjson⟩ : ∃ text,
      (if json then settingsJson view else settingsTable w view) = .ok text ∧
        (json = true → text = (reportOf view values).indented ++ "\n") := by
    cases json with
    | true =>
      refine ⟨_, ?_, fun _ => rfl⟩
      rw [if_pos rfl, settingsJson, settingsDocument, hvalues]
      rfl
    | false =>
      obtain ⟨text, htext⟩ := exists_settingsTable hseconds
      refine ⟨text, ?_, fun hjson => absurd hjson Bool.false_ne_true⟩
      rw [if_neg Bool.false_ne_true, htext]
  refine ⟨.text text, fun h => by rw [hjson h], fun strict => ?_⟩
  unfold configShow
  rw [htext]
  refine ⟨_, rfl, rfl, rfl, ?_⟩
  cases strict <;> cases view.problems <;> rfl

theorem configGet_of_some {name : String} {value : Option Value} {json : Json}
    (hget : view.settings.get? (Text.lower name) = some value)
    (hvalue : valueJson value = .ok json) :
    configGet w name log view = .finished
      ⟨.ok, .text (plainLine (reportedText json)), warningLines log ++ problemBlock w view⟩ := by
  unfold configGet
  rw [hget]
  dsimp only
  rw [valueLine_of_valueJson hvalue]

theorem configGet_of_none {name : String} (hget : view.settings.get? (Text.lower name) = none) :
    configGet w name log view = .finished
      ⟨.validation, .text "",
        warningLines log ++ shownLine w "Error: Unknown setting '" name "'."⟩ := by
  unfold configGet
  rw [hget]

/-- A file that cannot be read ends every command. -/
theorem execute_of_unreadable {loaded : Traced ConfigView}
    (h : loaded.result = .error (.unreadable given cause)) (command : Command) :
    ∃ out, execute w command loaded = .finished out ∧ out.exitCode.number = 3 ∧
      out.stdout = .text "" := by
  unfold execute
  rw [h]
  exact ⟨_, rfl, rfl, rfl⟩

theorem execute_configShow {loaded : Traced ConfigView} (h : loaded.result = .ok view)
    (json strict : Bool) :
    execute w (.configShow json strict) loaded = configShow w json strict loaded.log view := by
  unfold execute
  rw [h]

theorem execute_configGet {loaded : Traced ConfigView} (h : loaded.result = .ok view)
    (name : String) : execute w (.configGet name) loaded = configGet w name loaded.log view := by
  unfold execute
  rw [h]

/-- The file `puppet.conf` is loaded, to a view with `P`. -/
def Loads (bytes : List UInt8) (P : ConfigView → Prop) : Prop :=
  ∃ view, (loadedFrom plainHost (onlyFile bytes) plainView.path).result = .ok view ∧ P view

instance {bytes : List UInt8} {P : ConfigView → Prop} [DecidablePred P] :
    Decidable (Loads bytes P) :=
  match h : (loadedFrom plainHost (onlyFile bytes) plainView.path).result with
  | .ok view => decidable_of_iff (P view) ⟨fun hP => ⟨view, h, hP⟩, fun ⟨_, hview, hP⟩ => by
      rw [h] at hview
      cases hview
      exact hP⟩
  | .error _ => isFalse fun ⟨_, hview, _⟩ => by
      rw [h] at hview
      cases hview

/-- The time to live is the default one, and it can be written. -/
theorem ttl_fits (h : view.settings.get? "ca_ttl" = some (some (.seconds 157680000))) (n : Nat)
    (hn : view.settings.get? "ca_ttl" = some (some (.seconds n))) : n < 10 ^ maxDigits := by
  rw [h] at hn
  cases hn
  exact Nat.lt_of_lt_of_le (by decide : 157680000 < 10 ^ 9)
    (Nat.pow_le_pow_right (by decide) (by decide))

/-- The arguments of a command on the file `puppet.conf`. -/
def onPlainFile (rest : List String) : List String := fileArguments (some "puppet.conf") ++ rest

/-- A setting whose value names another that does not exist. -/
def nowhereFile : List UInt8 := asciiBytes "ca_name = $nowhere".toList

/-- A text that names a setting that does not exist, with a tab, and turns a terminal red. -/
def redFile : List UInt8 := asciiBytes "vardir = $no\tx\x1b[31m".toList

end Runs

end Cli

end CaSettings
