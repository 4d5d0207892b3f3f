import CaSettings.Cli.Program
import CaSettings.Proofs.FinalForm
import Mathlib

/-!
# What the commands come to

A command writes values. The only value that cannot be written is a number of
seconds with more than `maxDigits` digits (`Unwritable`), so a command on a
loaded view ends well unless it shows such a number: `execute_eq_failed_iff`
says which ones do.
-/

namespace CaSettings

/-- Writing a number fails iff it has more than `maxDigits` digits. -/
theorem decimalText_eq_error_iff {n : Nat} {failure : Failure} :
    decimalText n = .error failure ↔ 10 ^ maxDigits ≤ n ∧ failure = .numberTooLong := by
  have hlength : (toString n).length ≤ maxDigits ↔ n < 10 ^ maxDigits :=
    Nat.length_repr_le_iff (by decide)
  unfold decimalText
  by_cases hlong : maxDigits < (toString n).length
  · simp only [if_pos hlong, Except.error.injEq]
    constructor
    · rintro rfl
      exact ⟨by omega, rfl⟩
    · rintro ⟨_, rfl⟩
      rfl
  · simp only [if_neg hlong]
    constructor
    · intro h
      cases h
    · rintro ⟨hn, _⟩
      omega

namespace Cli

/-- A value that cannot be written. -/
def Unwritable (value : Option Value) : Prop :=
  ∃ n, value = some (.seconds n) ∧ 10 ^ maxDigits ≤ n

/-- Writing with `write` fails on the values that cannot be written, and on no other. -/
def WritesValues {α : Type} (write : Option Value → Except Failure α) : Prop :=
  ∀ value failure, write value = .error failure ↔ failure = .numberTooLong ∧ Unwritable value

theorem writesValues_valueText : WritesValues valueText := by
  rintro (_ | content | n | list) failure
  · simp [valueText, Unwritable]
  · simp [valueText, Unwritable]
  · simp [valueText, Unwritable, decimalText_eq_error_iff, and_comm]
  · simp [valueText, Unwritable]

theorem writesValues_map {α β : Type} {write : Option Value → Except Failure α}
    (h : WritesValues write) (f : α → β) : WritesValues fun value => (write value).map f := by
  intro value failure
  rw [← h value failure]
  show (write value).map f = .error failure ↔ write value = .error failure
  cases hwrite : write value <;> simp [Except.map]

theorem writesValues_valueJson : WritesValues valueJson := by
  rintro (_ | content | n | list) failure
  · simp [valueJson, Unwritable]
  · simp [valueJson, Unwritable]
  · have hmap :=
      writesValues_map writesValues_valueText (fun _ => Json.number n) (some (.seconds n)) failure
    exact hmap
  · simp [valueJson, Unwritable]

theorem writesValues_valueLine : WritesValues valueLine := by
  rintro (_ | content | n | list) failure
  · simp [valueLine, valueText, Except.map, Unwritable]
  · simp [valueLine, valueText, Except.map, Unwritable]
  · exact writesValues_map writesValues_valueText plainLine (some (.seconds n)) failure
  · simp [valueLine, Unwritable]

/-- Writing all settings fails iff one of them cannot be written. -/
theorem traverse_eq_error_iff {α : Type} {write : Option Value → Except Failure α}
    (h : WritesValues write) {settings : Settings} {failure : Failure} :
    settings.traverse (fun _ value => write value) = .error failure ↔
      failure = .numberTooLong ∧
        ∃ name value, settings.get? name = some value ∧ Unwritable value := by
  constructor
  · intro herror
    obtain ⟨⟨name, value⟩, hmem, hwrite⟩ := NameMap.traverse_eq_error herror
    obtain ⟨hfailure, hbad⟩ := (h value failure).mp hwrite
    exact ⟨hfailure, name, value, NameMap.get?_eq_some_iff.mpr hmem, hbad⟩
  · rintro ⟨rfl, name, value, hget, hbad⟩
    cases htrav : settings.traverse fun _ value => write value with
    | error failure =>
      obtain ⟨⟨name', value'⟩, _, hwrite⟩ := NameMap.traverse_eq_error htrav
      rw [((h value' failure).mp hwrite).1]
    | ok out =>
      obtain ⟨image, hok, _⟩ :=
        (NameMap.traverse_eq_ok_iff.mp htrav).of_mem (NameMap.get?_eq_some_iff.mp hget)
      rw [(h value .numberTooLong).mpr ⟨rfl, hbad⟩] at hok
      cases hok

/-! ## Commands on a loaded view -/

/-- Whether a command writes the time to live. -/
def Command.ShowsTtl : Command → Prop
  | .configShow _ _ => True
  | .configGet name => Text.lower name = "ca_ttl"

/-- The view holds `n` seconds as its time to live, and no other number. -/
structure HoldsTtl (view : ConfigView) (ttl : Option Nat) : Prop where
  get?_ttl : view.settings.get? "ca_ttl" = some (ttl.map Value.seconds)
  seconds : ∀ name n, view.settings.get? name = some (some (.seconds n)) → name = "ca_ttl"

variable {view : ConfigView} {ttl : Option Nat} {log : List LogRecord} {failure : Failure}
  {w : Nat}

theorem HoldsTtl.exists_unwritable_iff (h : HoldsTtl view ttl) :
    (∃ name value, view.settings.get? name = some value ∧ Unwritable value) ↔
      ∃ n, ttl = some n ∧ 10 ^ maxDigits ≤ n := by
  constructor
  · rintro ⟨name, value, hget, n, rfl, hn⟩
    obtain rfl := h.seconds name n hget
    rw [h.get?_ttl] at hget
    exact ⟨n, by simpa using hget, hn⟩
  · rintro ⟨n, rfl, hn⟩
    exact ⟨"ca_ttl", _, h.get?_ttl, n, rfl, hn⟩

theorem configShow_eq_failed_iff (h : HoldsTtl view ttl) {json strict : Bool} :
    configShow w json strict log view = .failed failure ↔
      failure = .numberTooLong ∧ ∃ n, ttl = some n ∧ 10 ^ maxDigits ≤ n := by
  have hwritten : (if json then settingsJson view else settingsTable w view) = .error failure ↔
      failure = .numberTooLong ∧ ∃ n, ttl = some n ∧ 10 ^ maxDigits ≤ n := by
    rw [← h.exists_unwritable_iff]
    cases json with
    | false =>
      rw [← traverse_eq_error_iff writesValues_valueText]
      simp only [Bool.false_eq_true, if_false, settingsTable]
      cases view.settings.traverse fun _ value => valueText value <;> simp [Except.map]
    | true =>
      rw [← traverse_eq_error_iff writesValues_valueJson]
      simp only [if_true, settingsJson, settingsDocument]
      cases view.settings.traverse fun _ value => valueJson value <;> simp [Except.map]
  rw [← hwritten]
  unfold configShow
  cases (if json then settingsJson view else settingsTable w view) <;> simp

theorem configGet_eq_failed_iff (h : HoldsTtl view ttl) {name : String} :
    configGet w name log view = .failed failure ↔
      failure = .numberTooLong ∧ Text.lower name = "ca_ttl" ∧
        ∃ n, ttl = some n ∧ 10 ^ maxDigits ≤ n := by
  unfold configGet
  cases hget : view.settings.get? (Text.lower name) with
  | none =>
    constructor
    · intro hfail
      cases hfail
    · rintro ⟨_, hname, _⟩
      rw [hname, h.get?_ttl] at hget
      cases hget
  | some value =>
    have hline : valueLine value = .error failure ↔ failure = .numberTooLong ∧
        Text.lower name = "ca_ttl" ∧ ∃ n, ttl = some n ∧ 10 ^ maxDigits ≤ n := by
      rw [writesValues_valueLine value failure]
      refine and_congr_right fun _ => ?_
      constructor
      · rintro ⟨n, rfl, hn⟩
        have hname := h.seconds _ n hget
        rw [hname, h.get?_ttl] at hget
        exact ⟨hname, n, by simpa using hget, hn⟩
      · rintro ⟨hname, n, rfl, hn⟩
        rw [hname, h.get?_ttl] at hget
        exact ⟨n, (Option.some.inj hget).symm, hn⟩
    rw [← hline]
    cases hvalue : valueLine value <;> simp [hvalue]

/-- A command on a loaded view fails iff it shows a number that cannot be written. -/
theorem execute_eq_failed_iff {loaded : Traced ConfigView} (hloaded : loaded.result = .ok view)
    (h : HoldsTtl view ttl) {command : Command} :
    execute w command loaded = .failed failure ↔
      failure = .numberTooLong ∧ command.ShowsTtl ∧ ∃ n, ttl = some n ∧ 10 ^ maxDigits ≤ n := by
  unfold execute
  rw [hloaded]
  cases command with
  | configShow json strict =>
    simp only [Command.ShowsTtl, true_and]
    exact configShow_eq_failed_iff h
  | configGet name => exact configGet_eq_failed_iff h

/-- Where loading stops at a number that is too long, so does the command. -/
theorem execute_of_tooManyDigits {loaded : Traced ConfigView} {digits : Nat}
    (h : loaded.result = .error (.tooManyDigits digits)) (command : Command) :
    execute w command loaded = .failed (.tooManyDigits digits) := by
  unfold execute
  rw [h]

/-- A command on a loaded view fails, or ends with 0 or with 2. -/
theorem execute_failed_or_finished {loaded : Traced ConfigView}
    (hloaded : loaded.result = .ok view) (command : Command) :
    (∃ failure, execute w command loaded = .failed failure) ∨
      ∃ out, execute w command loaded = .finished out ∧
        (out.exitCode.number = 0 ∨ out.exitCode.number = 2) := by
  unfold execute
  rw [hloaded]
  cases command with
  | configShow json strict =>
    dsimp only
    unfold configShow
    split
    · exact .inl ⟨_, rfl⟩
    · refine .inr ⟨_, rfl, ?_⟩
      dsimp only
      split
      · exact .inr rfl
      · exact .inl rfl
  | configGet name =>
    dsimp only
    unfold configGet
    split
    · exact .inr ⟨_, rfl, .inr rfl⟩
    · split
      · exact .inl ⟨_, rfl⟩
      · exact .inr ⟨_, rfl, .inl rfl⟩

end Cli

end CaSettings
