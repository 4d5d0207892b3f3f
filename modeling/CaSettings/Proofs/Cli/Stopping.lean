import CaSettings.Proofs.Cli.Commands
import CaSettings.Proofs.Conf.Written
import CaSettings.Proofs.Interpolation.Meaning
import CaSettings.Proofs.Loading

/-!
# What stops a run

Of all that a configuration file can hold, one thing stops a run: a time to
live with more than `maxDigits` digits, either as it is read or, in seconds, as
it is written. `stops_iff_long_ttl` says so, for loading and for the commands.
-/

namespace CaSettings

/-- The time to live of a file, interpolated, is a duration with these digits and this unit. -/
def FileTtl (hooks : Hooks) (bytes : List UInt8) (digits : List Char) (unit : TimeUnit) : Prop :=
  (Resolver.ofHooks hooks).SpellsTtl (textOverrides (fileText bytes)) digits unit

theorem exists_ok_iff {ε α : Type} {x : Except ε α} :
    (∃ a, x = .ok a) ↔ ∀ e, x ≠ .error e := by
  cases x <;> simp

namespace ConfigView

variable {view loaded : ConfigView} {bytes : List UInt8}

theorem result_load_bytes (view : ConfigView) (bytes : List UInt8) :
    (view.load (.ok bytes)).result =
      ((Resolver.ofHooks view.hooks).resolve (textOverrides (fileText bytes))).result.map
        view.filled := by
  rw [result_load]
  rfl

/-- A loaded view holds the length of the duration that its file spells. -/
theorem holdsTtl_of_load (h : (view.load (.ok bytes)).result = .ok loaded) :
    ∃ ttl, Cli.HoldsTtl loaded ttl ∧
      ∀ n, ttl = some n ↔
        ∃ digits unit, FileTtl view.hooks bytes digits unit ∧
          n = decimalValue digits * unit.seconds := by
  obtain ⟨text, resolution, hread, hresolve, rfl⟩ := result_load_eq_ok_iff.mp h
  obtain rfl : fileText bytes = text := Except.ok.inj hread
  obtain ⟨t, ttl, problems, ht, httl, hsettings, _⟩ := Resolver.result_resolve_eq_ok hresolve
  refine ⟨ttl, ⟨?_, ?_⟩, ?_⟩
  · show resolution.settings.get? "ca_ttl" = _
    rw [hsettings, Resolver.get?_finalForm_ttl]
  · intro name n hget
    change resolution.settings.get? name = _ at hget
    rw [hsettings] at hget
    exact (Resolver.seconds_finalForm.mp hget).1
  · intro n
    rw [Resolver.resolveTtl_eq_some_iff httl]
    unfold FileTtl
    constructor
    · rintro ⟨text, digits, unit, htext, hspells, hn⟩
      exact ⟨digits, unit, (Resolver.spellsTtl_iff ht).mpr ⟨text, htext, hspells⟩, hn⟩
    · rintro ⟨digits, unit, hspells, hn⟩
      obtain ⟨text, htext, hspells⟩ := (Resolver.spellsTtl_iff ht).mp hspells
      exact ⟨text, digits, unit, htext, hspells, hn⟩

end ConfigView

namespace Cli

theorem hooks_of_plan {arguments : List String} {host : Host} {env : Environment}
    {view : ConfigView} {command : Command}
    (h : plan arguments host env = .inspect view command) : view.hooks = host.hooks := by
  unfold plan at h
  split at h
  · cases h
  · cases h
  · cases h
  · cases h
  · split at h
    · cases h
    · cases h
      rfl

theorem run_of_plan {arguments : List String} {host : Host} {env : Environment}
    {view : ConfigView} {command : Command} (h : plan arguments host env = .inspect view command)
    (files : FileTree) :
    run arguments host env files =
      execute host.display.width command (view.load (files.read view.path)) := by
  unfold run
  rw [h]

end Cli

/-! ## Exactly what stops a run -/

/-- Resolving a file fails iff its time to live has too many digits to be read. -/
theorem resolve_eq_error_iff {hooks : Hooks} {dir : String} (hdir : hooks.confdir = .ok dir)
    (bytes : List UInt8) (failure : Failure) :
    ((Resolver.ofHooks hooks).resolve (textOverrides (fileText bytes))).result = .error failure ↔
      ∃ digits unit, FileTtl hooks bytes digits unit ∧ maxDigits < digits.length ∧
        failure = .tooManyDigits digits.length := by
  obtain ⟨t, ht⟩ := Resolver.templates_ofHooks_isOk hdir (textOverrides (fileText bytes))
  exact Resolver.result_resolve_eq_error_iff ht

theorem load_eq_error_iff {view : ConfigView} {dir : String} (hdir : view.hooks.confdir = .ok dir)
    (bytes : List UInt8) (failure : Failure) :
    (view.load (.ok bytes)).result = .error failure ↔
      ∃ digits unit, FileTtl view.hooks bytes digits unit ∧ maxDigits < digits.length ∧
        failure = .tooManyDigits digits.length := by
  rw [← resolve_eq_error_iff hdir, ConfigView.result_load_bytes]
  cases ((Resolver.ofHooks view.hooks).resolve (textOverrides (fileText bytes))).result <;>
    simp [Except.map]

theorem load_isOk_iff {view : ConfigView} {dir : String} (hdir : view.hooks.confdir = .ok dir)
    (bytes : List UInt8) :
    (∃ loaded, (view.load (.ok bytes)).result = .ok loaded) ↔
      ∀ digits unit, FileTtl view.hooks bytes digits unit → digits.length ≤ maxDigits := by
  rw [exists_ok_iff]
  constructor
  · intro hok digits unit hspells
    by_contra hlong
    exact hok _ ((load_eq_error_iff hdir bytes _).mpr
      ⟨digits, unit, hspells, Nat.lt_of_not_le hlong, rfl⟩)
  · intro hshort failure herror
    obtain ⟨digits, unit, hspells, hlong, _⟩ := (load_eq_error_iff hdir bytes failure).mp herror
    exact absurd (hshort digits unit hspells) (Nat.not_le_of_lt hlong)

/-- A command on a file fails iff the time to live cannot be read, or is shown
and cannot be written. -/
theorem execute_load_eq_failed_iff {view : ConfigView} {dir : String}
    (hdir : view.hooks.confdir = .ok dir) (w : Nat) (bytes : List UInt8) (command : Cli.Command) :
    (∃ failure, Cli.execute w command (view.load (.ok bytes)) = .failed failure) ↔
      ∃ digits unit, FileTtl view.hooks bytes digits unit ∧
        (maxDigits < digits.length ∨
          command.ShowsTtl ∧ 10 ^ maxDigits ≤ decimalValue digits * unit.seconds) := by
  cases hload : (view.load (.ok bytes)).result with
  | error failure =>
    obtain ⟨digits, unit, hspells, hlong, rfl⟩ := (load_eq_error_iff hdir bytes failure).mp hload
    constructor
    · intro _
      exact ⟨digits, unit, hspells, .inl hlong⟩
    · intro _
      exact ⟨_, Cli.execute_of_tooManyDigits hload command⟩
  | ok loaded =>
    obtain ⟨ttl, hholds, hseconds⟩ := ConfigView.holdsTtl_of_load hload
    have hshort := (load_isOk_iff hdir bytes).mp ⟨loaded, hload⟩
    constructor
    · rintro ⟨failure, hfail⟩
      obtain ⟨_, hshows, n, hn, hlong⟩ := (Cli.execute_eq_failed_iff hload hholds).mp hfail
      obtain ⟨digits, unit, hspells, rfl⟩ := (hseconds n).mp hn
      exact ⟨digits, unit, hspells, .inr ⟨hshows, hlong⟩⟩
    · rintro ⟨digits, unit, hspells, hunread | ⟨hshows, hlong⟩⟩
      · exact absurd (hshort digits unit hspells) (Nat.not_le_of_lt hunread)
      · have hn := (hseconds _).mpr ⟨digits, unit, hspells, rfl⟩
        exact ⟨.numberTooLong,
          (Cli.execute_eq_failed_iff hload hholds).mpr ⟨rfl, hshows, _, hn, hlong⟩⟩

/-- A command on a file fails, or ends with 0 or with 2. -/
theorem execute_load_failed_or_finished {view : ConfigView} {dir : String}
    (hdir : view.hooks.confdir = .ok dir) (w : Nat) (bytes : List UInt8) (command : Cli.Command) :
    (∃ failure, Cli.execute w command (view.load (.ok bytes)) = .failed failure) ∨
      ∃ out, Cli.execute w command (view.load (.ok bytes)) = .finished out ∧
        (out.exitCode.number = 0 ∨ out.exitCode.number = 2) := by
  cases hload : (view.load (.ok bytes)).result with
  | ok loaded => exact Cli.execute_failed_or_finished hload command
  | error failure =>
    obtain ⟨digits, unit, hspells, hlong, rfl⟩ := (load_eq_error_iff hdir bytes failure).mp hload
    exact .inl ((execute_load_eq_failed_iff hdir w bytes command).mpr
      ⟨digits, unit, hspells, .inl hlong⟩)

theorem execute_load_finished_iff {view : ConfigView} {dir : String}
    (hdir : view.hooks.confdir = .ok dir) (w : Nat) (bytes : List UInt8) (command : Cli.Command) :
    (∃ out, Cli.execute w command (view.load (.ok bytes)) = .finished out ∧
        (out.exitCode.number = 0 ∨ out.exitCode.number = 2)) ↔
      ∀ digits unit, FileTtl view.hooks bytes digits unit → digits.length ≤ maxDigits ∧
        (command.ShowsTtl → decimalValue digits * unit.seconds < 10 ^ maxDigits) := by
  have hfails := execute_load_eq_failed_iff hdir w bytes command
  constructor
  · rintro ⟨out, hout, _⟩ digits unit hspells
    have hnot : ¬ ∃ failure, Cli.execute w command (view.load (.ok bytes)) = .failed failure := by
      rintro ⟨failure, hfail⟩
      rw [hout] at hfail
      cases hfail
    rw [hfails] at hnot
    constructor
    · by_contra hlong
      exact hnot ⟨digits, unit, hspells, .inl (Nat.lt_of_not_le hlong)⟩
    · intro hshows
      by_contra hlong
      exact hnot ⟨digits, unit, hspells, .inr ⟨hshows, Nat.le_of_not_lt hlong⟩⟩
  · intro hfits
    apply (execute_load_failed_or_finished hdir w bytes command).resolve_left
    rw [hfails]
    rintro ⟨digits, unit, hspells, hlong | ⟨hshows, hlong⟩⟩
    · exact Nat.not_le_of_lt hlong (hfits digits unit hspells).1
    · exact Nat.not_le_of_lt ((hfits digits unit hspells).2 hshows) hlong

/-- **One thing in a file stops a run.** On a host that knows its directory,
resolving and loading fail iff the time to live spells a duration of more than
`maxDigits` digits. A command on the file ends with 0 or 2 iff that is not so
and the seconds, if the command shows them, can be written; otherwise it fails. -/
theorem stops_iff_long_ttl (hooks : Hooks) (dir : String) (hdir : hooks.confdir = .ok dir)
    (bytes : List UInt8) :
    (∀ failure,
      ((Resolver.ofHooks hooks).resolve (textOverrides (fileText bytes))).result =
          .error failure ↔
        ∃ digits unit, FileTtl hooks bytes digits unit ∧ maxDigits < digits.length ∧
          failure = .tooManyDigits digits.length) ∧
    (∀ view : ConfigView, view.hooks = hooks →
      ((∃ loaded, (view.load (.ok bytes)).result = .ok loaded) ↔
        ∀ digits unit, FileTtl hooks bytes digits unit → digits.length ≤ maxDigits)) ∧
    ∀ arguments host env files view command, host.hooks = hooks →
      Cli.plan arguments host env = .inspect view command → files.read view.path = .ok bytes →
        ((∃ out, Cli.run arguments host env files = .finished out ∧
            (out.exitCode.number = 0 ∨ out.exitCode.number = 2)) ↔
          ∀ digits unit, FileTtl hooks bytes digits unit → digits.length ≤ maxDigits ∧
            (command.ShowsTtl → decimalValue digits * unit.seconds < 10 ^ maxDigits)) ∧
        ((∃ failure, Cli.run arguments host env files = .failed failure) ∨
          ∃ out, Cli.run arguments host env files = .finished out ∧
            (out.exitCode.number = 0 ∨ out.exitCode.number = 2)) := by
  refine ⟨resolve_eq_error_iff hdir bytes, ?_, ?_⟩
  · rintro view rfl
    exact load_isOk_iff hdir bytes
  · rintro arguments host env files view command rfl hplan hread
    have hhooks := Cli.hooks_of_plan hplan
    rw [Cli.run_of_plan hplan, hread]
    rw [← hhooks] at hdir ⊢
    exact ⟨execute_load_finished_iff hdir _ bytes command,
      execute_load_failed_or_finished hdir _ bytes command⟩

/-! ### A file that sets the time to live -/

/-- A file with one line, which sets the time to live to a number of seconds. -/
def ttlFile (digits : List Char) : List UInt8 :=
  Text.asciiBytes ("ca_ttl".toList ++ " = ".toList ++ digits)

/-- A host whose user is the superuser. -/
def plainHost : Host := ⟨some 0, "ca.example.com", .own "/root", ⟨80, Nat.succ_pos 79⟩⟩

/-- The file `puppet.conf`, not loaded yet. -/
def plainView : ConfigView := .new (Path.parse "puppet.conf") plainHost.hooks

/-- The file `puppet.conf` with some content in the working directory, and nothing else. -/
def onlyFile (bytes : List UInt8) : FileTree :=
  (FileTree.empty ["root"]).put ["root", "puppet.conf"] (.file bytes)

/-- The arguments that show the settings of the file `puppet.conf`. -/
def showArguments : List String := ["--config", "puppet.conf", "config", "show"]

theorem plan_showArguments :
    Cli.plan showArguments plainHost .empty = .inspect plainView (.configShow false false) := rfl

theorem read_onlyFile (bytes : List UInt8) : (onlyFile bytes).read plainView.path = .ok bytes :=
  rfl

theorem textOverrides_ttlFile {digits : List Char} (hdigit : ∀ c ∈ digits, c.isDigit = true) :
    textOverrides (fileText (ttlFile digits)) =
      NameMap.empty.insert "ca_ttl" (some (String.ofList digits)) := by
  have hword : "ca_ttl".toList.all Text.isWord = true := by decide
  unfold textOverrides ttlFile
  rw [caSettings_of_words (by decide) (List.all_eq_true.mp hword) fun c hc =>
    Text.isWord_of_isDigit (hdigit c hc)]
  rfl

/-- A file with one line of digits spells that many seconds. -/
theorem fileTtl_ttlFile {hooks : Hooks} {dir : String} (hdir : hooks.confdir = .ok dir)
    {digits : List Char} (hne : digits ≠ []) (hdigit : ∀ c ∈ digits, c.isDigit = true) :
    FileTtl hooks (ttlFile digits) digits .second := by
  obtain ⟨t, ht⟩ := Resolver.templates_ofHooks_isOk hdir (textOverrides (fileText (ttlFile digits)))
  have hoverride : (textOverrides (fileText (ttlFile digits))).get? "ca_ttl" =
      some (some (String.ofList digits)) := by
    rw [textOverrides_ttlFile hdigit, NameMap.get?_insert, if_pos rfl]
  have hknown : "ca_ttl" ∈ (defaultTable hooks).names := by
    unfold defaultTable NameMap.names
    simp
  have htext : t.textOf "ca_ttl" = some (String.ofList digits) :=
    Templates.textOf_eq_some_iff.mpr
      ((Resolver.isOverlay_of_templates ht).overridden _ hknown _ hoverride)
  have hlit : '$' ∉ (String.ofList digits).toList := by
    rw [String.toList_ofList]
    exact fun hmem => absurd (hdigit _ hmem) (by decide)
  -- without references the text is its own value
  refine ⟨t, String.ofList digits, ht, ?_, ?_⟩
  · unfold Templates.ttlText
    rw [get?_interpolateAll_of_notMem htext hlit]
    rfl
  · refine ⟨⟨[], ?_, .bare⟩, hne, hdigit⟩
    rw [String.toList_ofList, List.append_nil]
    exact Text.trim_of_digits hdigit

/-- Ninety seconds are read, and shown. -/
theorem stops_iff_long_ttl_ninety :
    plainHost.hooks.confdir = .ok systemConfdir ∧
      (∃ loaded, (plainView.load (.ok (ttlFile ['9', '0']))).result = .ok loaded) ∧
      ∃ out, Cli.run showArguments plainHost .empty (onlyFile (ttlFile ['9', '0'])) =
          .finished out ∧ (out.exitCode.number = 0 ∨ out.exitCode.number = 2) := by
  obtain ⟨_, hload, hrun⟩ := stops_iff_long_ttl plainHost.hooks systemConfdir rfl
    (ttlFile ['9', '0'])
  have hninety : FileTtl plainHost.hooks (ttlFile ['9', '0']) ['9', '0'] .second :=
    fileTtl_ttlFile rfl (by simp) (by simp)
  refine ⟨rfl, ?_, ?_⟩
  · apply (hload _ rfl).mpr
    intro digits unit hspells
    obtain ⟨rfl, rfl⟩ := Resolver.SpellsTtl.unique hninety hspells
    decide
  · apply (hrun _ _ _ _ _ _ rfl plan_showArguments (read_onlyFile _)).1.mpr
    intro digits unit hspells
    obtain ⟨rfl, rfl⟩ := Resolver.SpellsTtl.unique hninety hspells
    refine ⟨by decide, fun _ => ?_⟩
    exact Nat.lt_of_lt_of_le (show 90 < 10 ^ 2 by decide)
      (Nat.pow_le_pow_right (by decide) (by decide))

/-- One digit too many. -/
def longDigits : List Char := List.replicate 4301 '1'

theorem length_longDigits : longDigits.length = 4301 := List.length_replicate

/-- One digit too many stops loading, and with it the command. -/
theorem load_longDigits_stops :
    (plainView.load (.ok (ttlFile longDigits))).result = .error (.tooManyDigits 4301) ∧
      Cli.run showArguments plainHost .empty (onlyFile (ttlFile longDigits)) =
        .failed (.tooManyDigits 4301) := by
  have hdir : plainView.hooks.confdir = .ok systemConfdir := rfl
  have hlong : FileTtl plainView.hooks (ttlFile longDigits) longDigits .second := by
    apply fileTtl_ttlFile hdir
    · apply List.ne_nil_of_length_pos
      rw [length_longDigits]
      decide
    · intro c hc
      rw [List.eq_of_mem_replicate hc]
      decide
  have hload : (plainView.load (.ok (ttlFile longDigits))).result =
      .error (.tooManyDigits 4301) := by
    refine (load_eq_error_iff hdir _ _).mpr ⟨_, _, hlong, ?_, ?_⟩
    · rw [length_longDigits]
      decide
    · rw [length_longDigits]
  refine ⟨hload, ?_⟩
  rw [Cli.run_of_plan plan_showArguments, read_onlyFile]
  exact Cli.execute_of_tooManyDigits hload _

end CaSettings
