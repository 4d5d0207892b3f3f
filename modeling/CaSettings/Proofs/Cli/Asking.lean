import CaSettings.Cli.Program
import Mathlib.Data.List.Basic

/-!
# Asking for a command

Which arguments ask for which command, for the plain spellings: the file may be
given, `config show` takes its flags in any order and any number of times, and
`config get` takes every name that does not look like an option.
-/

namespace CaSettings.Cli

/-- The arguments ask for a command, on the file that is given if any. -/
def Asks (arguments : List String) (file : Option String) (command : Command) : Prop :=
  Request.read arguments = .ok (.run file command)

/-- The arguments that give a file. -/
def fileArguments : Option String → List String
  | none => []
  | some path => ["--config", path]

variable {file : Option String} {rest flags : List String} {name : String} {command : Command}

/-! ## The levels above a command -/

/-- A group of commands stops at its first operand. -/
theorem readArguments_operand {specs : List OptionSpec} (hname : isOptionArgument name = false) :
    readArguments specs .untilOperand (name :: rest) = .ok ⟨[], name :: rest⟩ := by
  have hmarker : name ≠ "--" := by
    rintro rfl
    exact absurd hname (by decide)
  rw [readArguments, if_neg hmarker, hname]
  rfl

theorem readArguments_file (file : Option String) (rest : List String) :
    readArguments Page.program.options .untilOperand (fileArguments file ++ "config" :: rest) =
      .ok ⟨file.toList.map fun path => ("--config", some path), "config" :: rest⟩ := by
  have hconfig : readArguments Page.program.options .untilOperand ("config" :: rest) =
      .ok ⟨[], "config" :: rest⟩ := readArguments_operand (by decide)
  cases file with
  | none => exact hconfig
  | some path =>
    have hmarker : "--config" ≠ "--" := by decide
    have hoption : isOptionArgument "--config" = true := by decide
    have hread : readOption Page.program.options "--config" = .ok (.wantsValue "--config") :=
      rfl
    show readArguments _ _ ("--config" :: path :: "config" :: rest) = _
    rw [readArguments, if_neg hmarker, if_pos hoption, hread]
    dsimp only
    rw [hconfig]
    rfl

/-- The program hands what follows `config` to the group of that name. -/
theorem read_eq (h : holdsNul (file.getD "") = false) (rest : List String) :
    Request.read (fileArguments file ++ "config" :: rest) =
      match readConfigGroup file rest with
      | .error misuse => .error (.misuse misuse)
      | .ok request => .ok request := by
  unfold Request.read Page.read
  rw [show Page.program.mixing = .untilOperand from rfl, readArguments_file]
  cases file with
  | none => rfl
  | some path => exact if_neg (Bool.eq_false_iff.mp h)

/-- The group hands what follows the name of a command to that command. -/
theorem readConfigGroup_show (file : Option String) (rest : List String) :
    readConfigGroup file ("show" :: rest) = Page.configShow.readCommand file rest showCommand := by
  unfold readConfigGroup Page.read
  rw [show Page.config.mixing = .untilOperand from rfl, readArguments_operand (by decide)]
  rfl

theorem readConfigGroup_get (file : Option String) (rest : List String) :
    readConfigGroup file ("get" :: rest) = Page.configGet.readCommand file rest getCommand := by
  unfold readConfigGroup Page.read
  rw [show Page.config.mixing = .untilOperand from rfl, readArguments_operand (by decide)]
  rfl

/-! ## The commands -/

/-- Flags that a command knows are read, and are not operands. -/
theorem readArguments_flags {page : Page} (h : ∀ flag ∈ flags, isOptionArgument flag = true ∧
    flag ≠ "--" ∧ readOption page.options flag = .ok (.complete [(flag, none)])) :
    readArguments page.options .throughout flags = .ok ⟨flags.map fun flag => (flag, none), []⟩ := by
  induction flags with
  | nil => rfl
  | cons flag flags ih =>
    obtain ⟨⟨hoption, hmarker, hread⟩, hflags⟩ := List.forall_mem_cons.mp h
    rw [readArguments, if_neg hmarker, if_pos hoption, hread]
    dsimp only
    rw [ih hflags]
    rfl

theorem has_flags (flags operands : List String) (name : String) :
    Given.has ⟨flags.map fun flag => (flag, none), operands⟩ name = decide (name ∈ flags) := by
  rw [Bool.eq_iff_iff]
  simp [Given.has]

/-- `config show`, with its flags in any order and any number of times. -/
theorem asks_show (h : holdsNul (file.getD "") = false)
    (hflags : ∀ flag ∈ flags, flag = "--json" ∨ flag = "--strict") :
    Asks (fileArguments file ++ "config" :: "show" :: flags) file
      (.configShow (decide ("--json" ∈ flags)) (decide ("--strict" ∈ flags))) := by
  have hread : readArguments Page.configShow.options .throughout flags =
      .ok ⟨flags.map fun flag => (flag, none), []⟩ := by
    refine readArguments_flags fun flag hmem => ?_
    rcases hflags flag hmem with rfl | rfl
    · exact ⟨by decide, by decide, rfl⟩
    · exact ⟨by decide, by decide, rfl⟩
  have hhelp : "--help" ∉ flags := fun hmem => by
    rcases hflags _ hmem with heq | heq
    · exact absurd heq (by decide)
    · exact absurd heq (by decide)
  unfold Asks
  rw [read_eq h, readConfigGroup_show]
  unfold Page.readCommand Page.read
  rw [show Page.configShow.mixing = .throughout from rfl, hread]
  simp only [Except.map, has_flags, hhelp, decide_false, Bool.false_eq_true, if_false, showCommand]

/-- `config get` takes every name that does not look like an option. -/
theorem asks_get (h : holdsNul (file.getD "") = false) (hname : isOptionArgument name = false) :
    Asks (fileArguments file ++ ["config", "get", name]) file (.configGet name) := by
  have hmarker : name ≠ "--" := by
    rintro rfl
    exact absurd hname (by decide)
  unfold Asks
  rw [read_eq h, readConfigGroup_get]
  unfold Page.readCommand Page.read
  rw [show Page.configGet.mixing = .throughout from rfl, readArguments, if_neg hmarker, hname]
  rfl

end CaSettings.Cli
