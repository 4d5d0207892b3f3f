import CaSettings.ConfigView
import CaSettings.Proofs.Cli.Asking
import CaSettings.Proofs.Path

/-!
# The flag for the configuration file

`Chosen` is the precedence of paths: the text that is given, then the one in the
environment, then the conventional file; an empty text counts as none. The path of a view
is chosen from texts, and follows it (`choosePath_givenPath_eq_iff`).

A run of the program has made a path of the text of its flag before it chooses. That
changes nothing about a text that is not empty, but the path of the empty text is the
current directory. `flag_follows_precedence_iff` puts this together.
-/

namespace CaSettings

variable {env : Environment} {homes : Homes} {hooks : Hooks} {file : Option String}
  {text : String} {result : Except Failure Path}

/-! ## The precedence -/

/-- Nothing is given, or an empty text. -/
def NoText (file : Option String) : Prop := file = none ∨ file = some ""

/-- The path of the configuration file, or why there is none. -/
inductive Chosen (env : Environment) (homes : Homes) (hooks : Hooks) (file : Option String) :
    Except Failure Path → Prop
  | given {text : String} (hfile : file = some text) (htext : text ≠ "") :
      Chosen env homes hooks file ((Path.parse text).expandUser homes)
  | inEnvironment {text : String} (hfile : NoText file)
      (hvariable : env.get? configVariable = some text) (htext : text ≠ "") :
      Chosen env homes hooks file ((Path.parse text).expandUser homes)
  /-- A tilde in the configuration directory stands for itself. -/
  | conventional (hfile : NoText file) (hvariable : NoText (env.get? configVariable)) :
      Chosen env homes hooks file
        (hooks.confdir.map fun confdir => (Path.parse confdir).child configFileName)

theorem noText_or (file : Option String) : NoText file ∨ ∃ text, file = some text ∧ text ≠ "" := by
  cases file with
  | none => exact .inl (.inl rfl)
  | some text =>
    by_cases htext : text = ""
    · exact .inl (.inr (congrArg some htext))
    · exact .inr ⟨text, rfl, htext⟩

theorem givenPath_of_noText (h : NoText file) : givenPath file = none := by
  rcases h with rfl | rfl
  · rfl
  · rfl

theorem givenPath_of_ne_empty (h : text ≠ "") : givenPath (some text) = some (Path.parse text) := by
  simp [givenPath, h]

theorem chosen_choosePath (env : Environment) (homes : Homes) (hooks : Hooks)
    (file : Option String) :
    Chosen env homes hooks file (choosePath (givenPath file) env homes hooks) := by
  unfold choosePath
  rcases noText_or file with hfile | ⟨text, rfl, htext⟩
  · rw [givenPath_of_noText hfile]
    rcases noText_or (env.get? configVariable) with hvariable | ⟨text, hvariable, htext⟩
    · rw [givenPath_of_noText hvariable]
      exact .conventional hfile hvariable
    · rw [hvariable, givenPath_of_ne_empty htext]
      exact .inEnvironment hfile hvariable htext
  · rw [givenPath_of_ne_empty htext]
    exact .given rfl htext

theorem Chosen.choosePath_eq (h : Chosen env homes hooks file result) :
    choosePath (givenPath file) env homes hooks = result := by
  unfold choosePath
  cases h with
  | given hfile htext => rw [hfile, givenPath_of_ne_empty htext]
  | inEnvironment hfile hvariable htext =>
    rw [givenPath_of_noText hfile, hvariable, givenPath_of_ne_empty htext]
  | conventional hfile hvariable =>
    rw [givenPath_of_noText hfile, givenPath_of_noText hvariable]

/-- A path that is chosen from a text follows the precedence. -/
theorem choosePath_givenPath_eq_iff :
    choosePath (givenPath file) env homes hooks = result ↔ Chosen env homes hooks file result := by
  constructor
  · rintro rfl
    exact chosen_choosePath env homes hooks file
  · exact Chosen.choosePath_eq

/-- A text in normal form gives the path that the text itself is read as. -/
theorem givenPath_render (file : Option String) :
    givenPath (file.map fun text => (Path.parse text).render) = file.map Path.parse := by
  cases file with
  | none => rfl
  | some text =>
    have hnormal := Path.normal_parse text
    exact (givenPath_of_ne_empty hnormal.render_ne_empty).trans
      (congrArg some hnormal.parse_render)

namespace Cli

variable {arguments rest : List String} {host : Host} {given : Option String} {command : Command}

/-! ## The path of a run -/

/-- What a run settles on before it reads a file: the path, or that there is none. -/
def SettlesOn (arguments : List String) (host : Host) (env : Environment) :
    Except Failure Path → Prop
  | .ok path => ∃ command, plan arguments host env = .inspect (.new path host.hooks) command
  | .error failure => plan arguments host env = .done (.failed failure)

/-- A command runs on the path that is made of the text of the flag. -/
theorem settlesOn_iff (h : Asks arguments file command) :
    SettlesOn arguments host env result ↔
      choosePath (file.map Path.parse) env host.homes host.hooks = result := by
  cases hchoice : choosePath (file.map Path.parse) env host.homes host.hooks with
  | error failure =>
    have hplan : plan arguments host env = .done (.failed failure) := by
      unfold plan
      rw [h]
      dsimp only
      rw [hchoice]
    cases result <;> simp [SettlesOn, hplan]
  | ok path =>
    have hplan : plan arguments host env = .inspect (.new path host.hooks) command := by
      unfold plan
      rw [h]
      dsimp only
      rw [hchoice]
    cases result <;> simp [SettlesOn, hplan, ConfigView.new]

/-- A command is asked for on the file that its level is handed. -/
theorem file_of_readCommand {page : Page} {parse : Given → Except Misuse Command}
    (h : page.readCommand file rest parse = .ok (.run given command)) : given = file := by
  unfold Page.readCommand at h
  split at h
  · cases h
  · cases h
  · rename_i operands _
    cases hcommand : parse operands with
    | error misuse =>
      rw [hcommand] at h
      cases h
    | ok command =>
      rw [hcommand] at h
      cases h
      rfl

theorem file_of_readConfigGroup (h : readConfigGroup file rest = .ok (.run given command)) :
    given = file := by
  unfold readConfigGroup at h
  split at h
  · cases h
  · cases h
  · split at h
    · cases h
    · split at h
      · exact file_of_readCommand h
      · split at h
        · exact file_of_readCommand h
        · cases h

/-- No text with the character NUL is a path. -/
theorem read_nul (h : holdsNul (file.getD "") = true) (rest : List String) :
    Request.read (fileArguments file ++ "config" :: rest) = .error (.failure .nulInPath) := by
  unfold Request.read Page.read
  rw [show Page.program.mixing = .untilOperand from rfl, readArguments_file]
  cases file with
  | none => exact absurd h (by decide)
  | some path => exact if_pos h

/-- The text of the flag is what stands behind it. -/
theorem file_of_asks (h : Asks (fileArguments file ++ "config" :: rest) given command) :
    given = file := by
  unfold Asks at h
  cases hnul : holdsNul (file.getD "") with
  | true =>
    rw [read_nul hnul] at h
    cases h
  | false =>
    rw [read_eq hnul] at h
    cases hgroup : readConfigGroup file rest with
    | error misuse =>
      rw [hgroup] at h
      cases h
    | ok request =>
      rw [hgroup] at h
      cases h
      exact file_of_readConfigGroup hgroup

theorem settlesOn_nul (h : holdsNul text = true) (rest : List String) (host : Host)
    (env : Environment) :
    SettlesOn (fileArguments (some text) ++ "config" :: rest) host env (.error .nulInPath) := by
  have hnul : holdsNul ((some text).getD "") = true := h
  show plan _ host env = _
  unfold plan
  rw [read_nul hnul]

/-- The current directory, which is the path of the empty text. -/
def here : Path := Path.parse ""

/-- A flag with a text that is not empty, or no flag, gives what the text itself gives. -/
theorem choosePath_parse (h : file ≠ some "") (env : Environment) (homes : Homes) (hooks : Hooks) :
    choosePath (file.map Path.parse) env homes hooks = choosePath (givenPath file) env homes hooks := by
  cases file with
  | none => rfl
  | some text =>
    have htext : text ≠ "" := fun hempty => h (congrArg some hempty)
    rw [givenPath_of_ne_empty htext]
    rfl

/-- **The flag follows the precedence, but for the empty text.**

* The path of a view is chosen from texts by the precedence.
* The file that a command is asked for on is the text behind the flag.
* A command runs on the path that the precedence gives for that text in normal form.
  This is the path for the text itself iff the text is not empty, or the precedence
  comes to the current directory anyway.
* With a text with the character NUL, no command is asked for. -/
theorem flag_follows_precedence_iff (host : Host) (env : Environment) :
    (∀ file homes hooks result, choosePath (givenPath file) env homes hooks = result ↔
      Chosen env homes hooks file result) ∧
    (∀ file rest given command, Asks (fileArguments file ++ "config" :: rest) given command →
      given = file) ∧
    (∀ file arguments command, Asks arguments file command →
      (∀ result, SettlesOn arguments host env result ↔ Chosen env host.homes host.hooks
        (file.map fun text => (Path.parse text).render) result) ∧
      ((∀ result, SettlesOn arguments host env result ↔
          Chosen env host.homes host.hooks file result) ↔
        file ≠ some "" ∨ Chosen env host.homes host.hooks file (.ok here))) ∧
    ∀ text rest, holdsNul text = true →
      SettlesOn (fileArguments (some text) ++ "config" :: rest) host env (.error .nulInPath) := by
  refine ⟨fun _ _ _ _ => choosePath_givenPath_eq_iff, fun _ _ _ _ => file_of_asks,
    fun file arguments command hasks => ⟨fun result => ?_, ?_, ?_⟩,
    fun text rest hnul => settlesOn_nul hnul rest host env⟩
  · rw [settlesOn_iff hasks, ← givenPath_render, choosePath_givenPath_eq_iff]
  · intro hfollows
    by_cases hfile : file = some ""
    · right
      apply (hfollows _).mp
      rw [settlesOn_iff hasks, hfile]
      rfl
    · exact .inl hfile
  · intro hcase result
    rw [settlesOn_iff hasks, ← choosePath_givenPath_eq_iff]
    by_cases hfile : file = some ""
    · have hchosen : Chosen env host.homes host.hooks file (.ok here) :=
        hcase.resolve_left fun hne => hne hfile
      rw [hchosen.choosePath_eq, hfile]
      rfl
    · rw [choosePath_parse hfile]

/-- The host of a user with a home directory. -/
def userHost : Host := ⟨some 1000, "ca.example.com", .own "/home/ca/", ⟨80, by decide⟩⟩

/-- An environment that names the file `e.conf`. -/
def namedFile : Environment := NameMap.empty.insert configVariable "e.conf"

/-- The arguments that show the setting `server` of a file. -/
def getServer (file : String) : List String :=
  fileArguments (some file) ++ ["config", "get", "server"]

/-- The file that is given counts before the one in the environment. Its tilde is replaced,
and not in a text with the character NUL. -/
theorem flag_follows_precedence_iff_home :
    Asks (getServer "~/lab//./puppet.conf") (some "~/lab//./puppet.conf") (.configGet "server") ∧
      SettlesOn (getServer "~/lab//./puppet.conf") userHost namedFile
        (.ok (Path.parse "/home/ca/lab/puppet.conf")) ∧
      holdsNul "~/lab\x00" = true ∧
      SettlesOn (getServer "~/lab\x00") userHost namedFile (.error .nulInPath) := by
  obtain ⟨-, -, hruns, hnul⟩ := flag_follows_precedence_iff userHost namedFile
  have hasks : Asks (getServer "~/lab//./puppet.conf") (some "~/lab//./puppet.conf")
      (.configGet "server") := asks_get (by decide) (by decide)
  have hpath : (Path.parse "~/lab//./puppet.conf").expandUser userHost.homes =
      .ok (Path.parse "/home/ca/lab/puppet.conf") := by decide
  have hchosen : Chosen namedFile userHost.homes userHost.hooks (some "~/lab//./puppet.conf")
      (.ok (Path.parse "/home/ca/lab/puppet.conf")) := hpath ▸ .given rfl (by decide)
  refine ⟨hasks, ?_, by decide, hnul _ _ (by decide)⟩
  exact ((hruns _ _ _ hasks).2.mpr (.inl (by decide)) _).mpr hchosen

/-- By the precedence, an empty text leaves the choice to the environment. The program
takes the current directory. -/
theorem settlesOn_emptyText :
    Asks (getServer "") (some "") (.configGet "server") ∧
      Chosen namedFile userHost.homes userHost.hooks (some "") (.ok (Path.parse "e.conf")) ∧
      SettlesOn (getServer "") userHost namedFile (.ok here) ∧
      ¬ SettlesOn (getServer "") userHost namedFile (.ok (Path.parse "e.conf")) := by
  have hasks : Asks (getServer "") (some "") (.configGet "server") :=
    asks_get (by decide) (by decide)
  refine ⟨hasks, ?_, ?_, ?_⟩
  · exact choosePath_givenPath_eq_iff.mp rfl
  · exact (settlesOn_iff hasks).mpr rfl
  · rw [settlesOn_iff hasks]
    intro hchoice
    have hpaths : here = Path.parse "e.conf" := Except.ok.inj hchoice
    exact absurd hpaths (by decide)

end Cli

end CaSettings
