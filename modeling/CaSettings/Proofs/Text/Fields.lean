import CaSettings.Text.Fields
import Mathlib.Data.List.Basic

/-!
# Cutting a text at separators

The fields of a text are its only cut into texts that hold no separator: put
together with separators in between they are the text again (`fields_eq_iff`).
-/

namespace CaSettings.Text

variable {sep : Char} {cs front rest : List Char} {fs : List (List Char)}

theorem fields_cons_self (sep : Char) (cs : List Char) :
    fields sep (sep :: cs) = [] :: fields sep cs := if_pos rfl

theorem fields_eq_splitOn (sep : Char) (cs : List Char) : fields sep cs = cs.splitOn sep := by
  induction cs with
  | nil => rfl
  | cons c cs ih =>
    rw [List.splitOn_cons_eq_if_modifyHead, ← ih, fields]
    by_cases hsep : c = sep
    · rw [if_pos hsep, if_pos (beq_iff_eq.mpr hsep)]
    · rw [if_neg hsep, if_neg (mt beq_iff_eq.mp hsep)]

theorem fields_ne_nil (sep : Char) (cs : List Char) : fields sep cs ≠ [] := by
  rw [fields_eq_splitOn]
  exact List.splitOn_ne_nil sep cs

theorem fields_of_notMem (h : sep ∉ cs) : fields sep cs = [cs] := by
  rw [fields_eq_splitOn]
  exact List.splitOn_eq_singleton h

theorem fields_append (h : sep ∉ front) :
    fields sep (front ++ sep :: rest) = front :: fields sep rest := by
  rw [fields_eq_splitOn, fields_eq_splitOn]
  exact List.splitOn_append_cons_self_of_not_mem h rest

theorem notMem_of_mem_fields {f : List Char} (h : f ∈ fields sep cs) : sep ∉ f := by
  induction cs generalizing f with
  | nil =>
    rw [List.mem_singleton.mp h]
    exact List.not_mem_nil
  | cons c cs ih =>
    unfold fields at h
    split at h
    · rcases List.mem_cons.mp h with rfl | hrest
      · exact List.not_mem_nil
      · exact ih hrest
    · rename_i hsep
      obtain ⟨first, others, hfields⟩ := List.exists_cons_of_ne_nil (fields_ne_nil sep cs)
      rw [hfields] at h ih
      rcases List.mem_cons.mp h with rfl | hrest
      · rw [List.mem_cons, not_or]
        exact ⟨Ne.symm hsep, ih List.mem_cons_self⟩
      · exact ih (List.mem_cons_of_mem first hrest)

theorem joinFields_singleton (joint field : List Char) : joinFields joint [field] = field :=
  List.intercalate_singleton

theorem joinFields_cons (joint field : List Char) (h : fs ≠ []) :
    joinFields joint (field :: fs) = field ++ joint ++ joinFields joint fs :=
  List.intercalate_cons_of_ne_nil h

/-- The characters of a field are characters of the text. -/
theorem mem_of_mem_fields {f : List Char} {c : Char} (h : f ∈ fields sep cs) (hc : c ∈ f) :
    c ∈ cs := by
  induction cs generalizing f with
  | nil =>
    rw [List.mem_singleton.mp h] at hc
    exact absurd hc List.not_mem_nil
  | cons first cs ih =>
    unfold fields at h
    split at h
    · rcases List.mem_cons.mp h with rfl | hrest
      · exact absurd hc List.not_mem_nil
      · exact List.mem_cons_of_mem first (ih hrest hc)
    · obtain ⟨front, others, hfields⟩ := List.exists_cons_of_ne_nil (fields_ne_nil sep cs)
      rw [hfields] at h ih
      rcases List.mem_cons.mp h with rfl | hrest
      · rcases List.mem_cons.mp hc with rfl | hc
        · exact List.mem_cons_self
        · exact List.mem_cons_of_mem first (ih List.mem_cons_self hc)
      · exact List.mem_cons_of_mem first (ih (List.mem_cons_of_mem front hrest) hc)

/-- A text falls into fields in one way. -/
theorem fields_eq_iff :
    fields sep cs = fs ↔ fs ≠ [] ∧ (∀ f ∈ fs, sep ∉ f) ∧ joinFields [sep] fs = cs := by
  constructor
  · rintro rfl
    refine ⟨fields_ne_nil sep cs, fun f => notMem_of_mem_fields, ?_⟩
    rw [fields_eq_splitOn]
    exact List.intercalate_splitOn sep
  · rintro ⟨hne, hplain, rfl⟩
    rw [fields_eq_splitOn]
    exact List.splitOn_intercalate sep hplain hne

end CaSettings.Text
