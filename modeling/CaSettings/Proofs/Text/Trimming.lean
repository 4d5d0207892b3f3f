import CaSettings.Text.Blank
import CaSettings.Text.Word
import Mathlib.Data.List.TakeWhile

/-!
# Runs and trimming

The longest run of some characters that a text starts with, and what follows
it, are the only cut of the text into a run and a rest that does not go on with
the run (`takeWhile_dropWhile_eq_iff`). From it come the cuts that trimming makes:

* `trimStart` and `trimEnd` cut off the blanks at one end
  (`trimStart_eq_iff`, `trimEnd_eq_iff`);
* `trim` leaves the part between the blanks at both ends (`trim_eq_iff`).

No character of a word is blank (`isBlank_of_isWord`).
-/

namespace CaSettings.Text

/-! ## Runs -/

section Runs

variable {α : Type} {p : α → Bool} {cs front rest : List α}

theorem takeWhile_append_of_stop (hrun : ∀ c ∈ front, p c = true)
    (hstop : ∀ c ∈ rest.head?, p c = false) : (front ++ rest).takeWhile p = front := by
  rw [List.takeWhile_append_of_pos hrun]
  cases rest with
  | nil => exact List.append_nil front
  | cons c cs =>
    rw [List.takeWhile_cons_of_neg (by simp [hstop c rfl])]
    exact List.append_nil front

theorem dropWhile_append_of_stop (hrun : ∀ c ∈ front, p c = true)
    (hstop : ∀ c ∈ rest.head?, p c = false) : (front ++ rest).dropWhile p = rest := by
  rw [List.dropWhile_append_of_pos hrun]
  cases rest with
  | nil => rfl
  | cons c cs => exact List.dropWhile_cons_of_neg (by simp [hstop c rfl])

/-- What follows the longest run does not go on with it. -/
theorem stop_dropWhile (p : α → Bool) (cs : List α) :
    ∀ c ∈ (cs.dropWhile p).head?, p c = false := by
  intro c hc
  have hhead := List.head?_dropWhile_not p cs
  rw [Option.mem_def.mp hc] at hhead
  exact hhead

/-- The longest run at the front is the only cut into a run and a rest that stops it. -/
theorem takeWhile_dropWhile_eq_iff :
    cs.takeWhile p = front ∧ cs.dropWhile p = rest ↔
      cs = front ++ rest ∧ (∀ c ∈ front, p c = true) ∧ ∀ c ∈ rest.head?, p c = false := by
  constructor
  · rintro ⟨rfl, rfl⟩
    exact ⟨List.takeWhile_append_dropWhile.symm, fun c hc => List.mem_takeWhile_imp hc,
      stop_dropWhile p cs⟩
  · rintro ⟨rfl, hrun, hstop⟩
    exact ⟨takeWhile_append_of_stop hrun hstop, dropWhile_append_of_stop hrun hstop⟩

theorem dropWhile_eq_iff :
    cs.dropWhile p = rest ↔
      ∃ front, cs = front ++ rest ∧ (∀ c ∈ front, p c = true) ∧
        ∀ c ∈ rest.head?, p c = false := by
  constructor
  · intro h
    exact ⟨cs.takeWhile p, takeWhile_dropWhile_eq_iff.mp ⟨rfl, h⟩⟩
  · rintro ⟨front, h⟩
    exact (takeWhile_dropWhile_eq_iff.mpr h).2

end Runs

/-! ## Words and blanks -/

/-- The code points of word characters. -/
theorem toNat_of_isWord {c : Char} (h : isWord c = true) :
    (65 ≤ c.toNat ∧ c.toNat ≤ 90) ∨ (97 ≤ c.toNat ∧ c.toNat ≤ 122) ∨
      (48 ≤ c.toNat ∧ c.toNat ≤ 57) ∨ c.toNat = 95 := by
  unfold isWord Char.isAlphanum Char.isAlpha Char.isUpper Char.isLower Char.isDigit at h
  simp only [Bool.or_eq_true, Bool.and_eq_true, decide_eq_true_eq, beq_iff_eq, ge_iff_le,
    UInt32.le_iff_toNat_le] at h
  rcases h with ((hupper | hlower) | hdigit) | rfl
  · exact .inl hupper
  · exact .inr (.inl hlower)
  · exact .inr (.inr (.inl hdigit))
  · exact .inr (.inr (.inr rfl))

theorem isWord_of_isDigit {c : Char} (h : c.isDigit = true) : isWord c = true := by
  simp [isWord, Char.isAlphanum, h]

theorem isBlank_of_isWord {c : Char} (h : isWord c = true) : isBlank c = false := by
  have hcode := toNat_of_isWord h
  simp only [isBlank, Bool.or_eq_false_iff, Bool.and_eq_false_iff, decide_eq_false_iff_not,
    beq_eq_false_iff_ne]
  omega

/-! ## Blanks at the ends -/

variable {cs front rest outer inner : List Char}

/-- A text of blanks, the empty one included. -/
def Blanks (cs : List Char) : Prop := ∀ c ∈ cs, isBlank c = true

/-- A text that no blank starts. -/
def StartsFull (cs : List Char) : Prop := ∀ c ∈ cs.head?, isBlank c = false

/-- A text that no blank ends. -/
def EndsFull (cs : List Char) : Prop := ∀ c ∈ cs.getLast?, isBlank c = false

instance {cs : List Char} : Decidable (Blanks cs) :=
  decidable_of_iff (cs.all isBlank = true) List.all_eq_true

instance {cs : List Char} : Decidable (StartsFull cs) :=
  decidable_of_iff (cs.head?.toList.all (!isBlank ·) = true) (by simp [StartsFull])

instance {cs : List Char} : Decidable (EndsFull cs) :=
  decidable_of_iff (cs.getLast?.toList.all (!isBlank ·) = true) (by simp [EndsFull])

/-- `inner` is what stands between the blanks at the ends of `outer`. -/
structure Trims (outer inner : List Char) : Prop where
  between : ∃ before after, Blanks before ∧ Blanks after ∧ outer = before ++ inner ++ after
  startsFull : StartsFull inner
  endsFull : EndsFull inner

theorem startsFull_cons {c : Char} : StartsFull (c :: cs) ↔ isBlank c = false := by
  simp [StartsFull]

theorem blanks_nil : Blanks [] := by
  intro c hc
  cases hc

theorem blanks_append : Blanks (cs ++ rest) ↔ Blanks cs ∧ Blanks rest := List.forall_mem_append

theorem blanks_reverse : Blanks cs.reverse ↔ Blanks cs := by
  simp only [Blanks, List.mem_reverse]

theorem startsFull_reverse : StartsFull cs.reverse ↔ EndsFull cs := by
  simp only [StartsFull, EndsFull, List.head?_reverse]

theorem StartsFull.of_append (h : StartsFull (front ++ rest)) : StartsFull front := by
  intro c hc
  apply h
  rw [List.head?_append, Option.mem_def.mp hc]
  rfl

theorem EndsFull.of_append (h : EndsFull (front ++ rest)) : EndsFull rest := by
  intro c hc
  apply h
  rw [List.getLast?_append, Option.mem_def.mp hc]
  rfl

/-- Where no blank ends a text, its last blanks are none. -/
theorem Blanks.eq_nil_of_endsFull (hblank : Blanks rest) (hend : EndsFull (front ++ rest)) :
    rest = [] := by
  cases hlast : rest.getLast? with
  | none => exact List.getLast?_eq_none_iff.mp hlast
  | some c =>
    have hfull := hend.of_append c hlast
    rw [hblank c (List.mem_of_getLast? hlast)] at hfull
    cases hfull

theorem trimStart_eq_iff :
    trimStart cs = rest ↔ ∃ before, Blanks before ∧ cs = before ++ rest ∧ StartsFull rest := by
  unfold trimStart
  rw [dropWhile_eq_iff]
  constructor
  · rintro ⟨before, hcut, hblank, hfull⟩
    exact ⟨before, hblank, hcut, hfull⟩
  · rintro ⟨before, hblank, hcut, hfull⟩
    exact ⟨before, hcut, hblank, hfull⟩

theorem trimStart_append (hblank : Blanks cs) (hfull : StartsFull rest) :
    trimStart (cs ++ rest) = rest := trimStart_eq_iff.mpr ⟨cs, hblank, rfl, hfull⟩

theorem trimStart_eq_nil_iff : trimStart cs = [] ↔ Blanks cs := List.dropWhile_eq_nil_iff

theorem trimEnd_eq_iff :
    trimEnd cs = front ↔ ∃ after, Blanks after ∧ cs = front ++ after ∧ EndsFull front := by
  have hreverse : trimEnd cs = front ↔ trimStart cs.reverse = front.reverse := by
    rw [← List.reverse_inj]
    show (trimStart cs.reverse).reverse.reverse = front.reverse ↔ _
    rw [List.reverse_reverse]
  rw [hreverse, trimStart_eq_iff]
  constructor
  · rintro ⟨before, hblank, hcut, hfull⟩
    refine ⟨before.reverse, blanks_reverse.mpr hblank, ?_, startsFull_reverse.mp hfull⟩
    rw [← cs.reverse_reverse, hcut, List.reverse_append, List.reverse_reverse]
  · rintro ⟨after, hblank, rfl, hfull⟩
    exact ⟨after.reverse, blanks_reverse.mpr hblank, List.reverse_append,
      startsFull_reverse.mpr hfull⟩

/-- A text is a part that no blank ends, and blanks. -/
theorem exists_endsFull_append (cs : List Char) :
    ∃ front after, cs = front ++ after ∧ Blanks after ∧ EndsFull front := by
  obtain ⟨after, hblank, hcut, hfull⟩ := trimEnd_eq_iff.mp (rfl : trimEnd cs = trimEnd cs)
  exact ⟨trimEnd cs, after, hcut, hblank, hfull⟩

/-- Trimming leaves what stands between the blanks at the ends. -/
theorem trim_eq_iff : trim outer = inner ↔ Trims outer inner := by
  unfold trim
  constructor
  · intro h
    obtain ⟨before, hbefore, houter, hstart⟩ :=
      trimStart_eq_iff.mp (rfl : trimStart outer = trimStart outer)
    obtain ⟨after, hafter, hmiddle, hend⟩ := trimEnd_eq_iff.mp h
    refine ⟨⟨before, after, hbefore, hafter, ?_⟩, ?_, hend⟩
    · rw [List.append_assoc, ← hmiddle]
      exact houter
    · rw [hmiddle] at hstart
      exact hstart.of_append
  · rintro ⟨⟨before, after, hbefore, hafter, rfl⟩, hstart, hend⟩
    rw [trimEnd_eq_iff]
    cases inner with
    | nil =>
      -- nothing but blanks: all of them go at the front
      rw [List.append_nil, trimStart_eq_nil_iff.mpr (blanks_append.mpr ⟨hbefore, hafter⟩)]
      exact ⟨[], blanks_nil, rfl, hend⟩
    | cons c cs =>
      refine ⟨after, hafter, trimStart_eq_iff.mpr ⟨before, hbefore, ?_, ?_⟩, hend⟩
      · rw [List.append_assoc]
      · exact hstart

theorem trims_trim (cs : List Char) : Trims cs (trim cs) := trim_eq_iff.mp rfl

theorem trim_eq_nil_iff : trim cs = [] ↔ Blanks cs := by
  rw [trim_eq_iff]
  constructor
  · rintro ⟨⟨before, after, hbefore, hafter, rfl⟩, _, _⟩
    rw [List.append_nil, blanks_append]
    exact ⟨hbefore, hafter⟩
  · intro hblank
    exact ⟨⟨cs, [], hblank, blanks_nil, by simp⟩, by simp [StartsFull], by simp [EndsFull]⟩

theorem trimStart_eq_self_iff : trimStart cs = cs ↔ StartsFull cs := by
  constructor
  · intro h
    obtain ⟨_, _, _, hfull⟩ := trimStart_eq_iff.mp h
    exact hfull
  · exact trimStart_append blanks_nil

theorem trimEnd_eq_self_iff : trimEnd cs = cs ↔ EndsFull cs := by
  constructor
  · intro h
    obtain ⟨_, _, _, hfull⟩ := trimEnd_eq_iff.mp h
    exact hfull
  · exact fun hfull => trimEnd_eq_iff.mpr ⟨[], blanks_nil, (List.append_nil cs).symm, hfull⟩

theorem trim_eq_self_iff : trim cs = cs ↔ StartsFull cs ∧ EndsFull cs := by
  rw [trim_eq_iff]
  constructor
  · rintro ⟨_, hstart, hend⟩
    exact ⟨hstart, hend⟩
  · rintro ⟨hstart, hend⟩
    exact ⟨⟨[], [], blanks_nil, blanks_nil, by simp⟩, hstart, hend⟩

/-- Trimming the front stops at a character that is no blank. -/
theorem trimStart_append_cons {c : Char} (h : isBlank c = false) (front rest : List Char) :
    trimStart (front ++ c :: rest) = trimStart front ++ c :: rest := by
  unfold trimStart
  rw [List.dropWhile_append]
  split
  · rename_i hempty
    rw [List.isEmpty_iff.mp hempty]
    exact List.dropWhile_cons_of_neg (by simp [h])
  · rfl

/-- Trimming the end stops at a character that is no blank. -/
theorem trimEnd_append_cons {c : Char} (h : isBlank c = false) (front rest : List Char) :
    trimEnd (front ++ c :: rest) = front ++ c :: trimEnd rest := by
  have hreverse : (front ++ c :: rest).reverse = rest.reverse ++ c :: front.reverse := by simp
  show (trimStart (front ++ c :: rest).reverse).reverse = _
  rw [hreverse, trimStart_append_cons h]
  simp [trimStart, trimEnd]

theorem mem_of_mem_trim {c : Char} (h : c ∈ trim cs) : c ∈ cs := by
  obtain ⟨before, after, _, _, hcut⟩ := (trims_trim cs).between
  rw [hcut]
  exact List.mem_append_left after (List.mem_append_right before h)

/-- A text without blanks is trimmed. -/
theorem trim_of_forall (h : ∀ c ∈ cs, isBlank c = false) : trim cs = cs := by
  refine trim_eq_self_iff.mpr ⟨?_, ?_⟩
  · intro c hc
    exact h c (List.mem_of_mem_head? hc)
  · intro c hc
    exact h c (List.mem_of_mem_getLast? hc)

theorem trim_of_digits (h : ∀ c ∈ cs, c.isDigit = true) : trim cs = cs :=
  trim_of_forall fun c hc => isBlank_of_isWord (isWord_of_isDigit (h c hc))

end CaSettings.Text
