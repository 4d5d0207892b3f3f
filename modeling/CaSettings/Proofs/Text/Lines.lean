import CaSettings.Proofs.Text.Trimming
import CaSettings.Text.Lines

/-!
# The lines of a text

`Splits cs ls` says what it means that a text falls into lines: each line
holds no line end, and a line end closes every line but perhaps the last one,
which is not empty then. The text falls into its `lines`, and in no other way
(`lines_eq_iff`).
-/

namespace CaSettings.Text

/-- A text without a line end. -/
def Unbroken (cs : List Char) : Prop := ∀ c ∈ cs, isLineEnd c = false

instance {cs : List Char} : Decidable (Unbroken cs) :=
  decidable_of_iff (cs.all (!isLineEnd ·) = true) (by simp [Unbroken])

/-- `mark` is one line end in front of `rest`: a carriage return and the line feed
after it, or one character that ends lines. -/
inductive IsLineEnd : List Char → List Char → Prop
  | pair {rest} : IsLineEnd ['\r', '\n'] rest
  | single {c rest} : isLineEnd c = true → ¬ (c = '\r' ∧ rest.head? = some '\n') → IsLineEnd [c] rest

/-- A text falls into lines. -/
inductive Splits : List Char → List (List Char) → Prop
  | nil : Splits [] []
  | last {line} : line ≠ [] → Unbroken line → Splits line [line]
  | line {line mark rest ls} : Unbroken line → IsLineEnd mark rest → Splits rest ls →
      Splits (line ++ mark ++ rest) (line :: ls)

variable {c : Char} {cs line mark rest : List Char} {ls : List (List Char)}

theorem unbroken_cons : Unbroken (c :: cs) ↔ isLineEnd c = false ∧ Unbroken cs :=
  List.forall_mem_cons

theorem unbroken_append : Unbroken (line ++ rest) ↔ Unbroken line ∧ Unbroken rest :=
  List.forall_mem_append

/-- No character of a word ends a line. -/
theorem isLineEnd_of_isWord (h : isWord c = true) : isLineEnd c = false := by
  have hcode := toNat_of_isWord h
  simp only [isLineEnd, Bool.or_eq_false_iff, Bool.and_eq_false_iff, decide_eq_false_iff_not,
    beq_eq_false_iff_ne]
  omega

/-! ## The reader -/

theorem lines_cons (h : isLineEnd c = false) : lines (c :: cs) = growLine c (lines cs) := by
  rw [lines, if_neg (by simp [h])]
  rintro rest rfl
  exact absurd h (by decide)

theorem lines_of_isLineEnd (h : IsLineEnd mark rest) : lines (mark ++ rest) = [] :: lines rest := by
  cases h with
  | pair => rfl
  | single hend hpair =>
    rename_i c
    rw [List.singleton_append, lines, if_pos hend]
    rintro tail rfl rfl
    exact hpair ⟨rfl, rfl⟩

theorem lines_append (hline : Unbroken line) (h : IsLineEnd mark rest) :
    lines (line ++ mark ++ rest) = line :: lines rest := by
  induction line with
  | nil => exact lines_of_isLineEnd h
  | cons c line ih =>
    obtain ⟨hfirst, hline⟩ := unbroken_cons.mp hline
    rw [List.cons_append, List.cons_append, lines_cons hfirst, ih hline]
    rfl

/-- A text without a line end is one line. -/
theorem lines_of_unbroken (hne : line ≠ []) (hline : Unbroken line) : lines line = [line] := by
  induction line with
  | nil => exact absurd rfl hne
  | cons c line ih =>
    obtain ⟨hfirst, hrest⟩ := unbroken_cons.mp hline
    rw [lines_cons hfirst]
    cases line with
    | nil => rfl
    | cons d line =>
      rw [ih (by simp) hrest]
      rfl

/-! ## The relation -/

/-- One more character that ends no line goes in front of the first line. -/
theorem Splits.grow (h : Splits cs ls) (hc : isLineEnd c = false) :
    Splits (c :: cs) (growLine c ls) := by
  cases h with
  | nil => exact .last (by simp) (unbroken_cons.mpr ⟨hc, by simp [Unbroken]⟩)
  | last hne hline => exact .last (by simp) (unbroken_cons.mpr ⟨hc, hline⟩)
  | line hline hmark hrest => exact .line (unbroken_cons.mpr ⟨hc, hline⟩) hmark hrest

theorem splits_lines (cs : List Char) : Splits cs (lines cs) := by
  have hnil : Unbroken [] := by simp [Unbroken]
  induction cs using lines.induct with
  | case1 => exact .nil
  | case2 cs ih => exact .line hnil .pair ih
  | case3 c cs hpair hend ih =>
    have hmark : IsLineEnd [c] cs := by
      refine .single hend ?_
      rintro ⟨rfl, hfeed⟩
      obtain ⟨rest, rfl⟩ := List.head?_eq_some_iff.mp hfeed
      exact hpair rest rfl rfl
    have hsplit := Splits.line hnil hmark ih
    rwa [← lines_of_isLineEnd hmark] at hsplit
  | case4 c cs hpair hend ih =>
    rw [Bool.not_eq_true] at hend
    rw [lines_cons hend]
    exact ih.grow hend

/-- A text falls into its lines, and in no other way. -/
theorem lines_eq_iff : lines cs = ls ↔ Splits cs ls := by
  constructor
  · rintro rfl
    exact splits_lines cs
  · intro h
    induction h with
    | nil => rfl
    | last hne hline => exact lines_of_unbroken hne hline
    | line hline hmark _ ih => rw [lines_append hline hmark, ih]

end CaSettings.Text
