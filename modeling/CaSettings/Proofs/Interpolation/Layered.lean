import CaSettings.Proofs.Interpolation.PassNumbers

/-!
# Templates in layers

Templates are layered (`Templates.Layered`) if every reference leads to a
setting that has a text and lies on a lower level. Nothing in such a table is
circular or lost: interpolating it meets no problem
(`Layered.problems_interpolateAll`), and the value of a setting is its text with
every reference replaced by the value of the setting referred to
(`Layered.value_eq_fill`).
-/

namespace CaSettings

namespace Templates

variable {t : Templates} {level : String → Nat} {n text : String}

/-- Every reference leads to a setting with a text, on a lower level. -/
structure Layered (t : Templates) (level : String → Nat) : Prop where
  lower : ∀ n text, t.textOf n = some text → ∀ ref ∈ references text, level ref < level n
  valued : ∀ n text, t.textOf n = some text → ∀ ref ∈ references text, (t.textOf ref).isSome

/-- A setting has a value iff it has a text. -/
theorem Meaning.isSome_iff {value : String → Option String} (h : t.Meaning value) :
    (value n).isSome ↔ (t.textOf n).isSome := by
  cases htext : t.textOf n with
  | none => rw [h.absent n htext]
  | some text =>
    by_cases hend : t.Endless n
    · rw [h.endless n text htext hend]
    · rw [h.filled n text htext hend]
      rfl

namespace Layered

/-- Waiting leads down, and that ends. -/
theorem not_endless (h : t.Layered level) (n : String) : ¬ t.Endless n := by
  induction hlevel : level n using Nat.strongRecOn generalizing n with
  | ind k ih =>
    intro hend
    obtain ⟨m, hm, hend'⟩ := endless_iff_exists.mp hend
    obtain ⟨text, htext, href, _⟩ := mem_waitsFor.mp hm
    have hlt := h.lower n text htext m href
    exact ih (level m) (by omega) m rfl hend'

theorem ne_of_mem_references (h : t.Layered level) (htext : t.textOf n = some text) {ref : String}
    (href : ref ∈ references text) : ref ≠ n := by
  rintro rfl
  exact Nat.lt_irrefl _ (h.lower ref text htext ref href)

theorem not_fails (h : t.Layered level) (htext : t.textOf n = some text) {ref : String}
    (href : ref ∈ references text) : ¬ t.Fails n ref := by
  rw [fails_iff]
  rintro (hself | hnone | hend)
  · exact h.ne_of_mem_references htext href hself
  · exact absurd hnone (Option.isSome_iff_ne_none.mp (h.valued n text htext ref href))
  · exact h.not_endless ref hend

theorem problems_interpolateAll (h : t.Layered level) : (interpolateAll t).problems = [] := by
  refine List.eq_nil_iff_forall_not_mem.mpr fun problem hmem => ?_
  obtain ⟨n, text, ref, htext, href, hfails, _⟩ := mem_problems_interpolateAll.mp hmem
  exact h.not_fails htext href hfails

/-- The value of a setting is its text with all references replaced by values. -/
theorem value_eq_fill {value : String → Option String} (h : t.Layered level)
    (hvalue : t.Meaning value) (htext : t.textOf n = some text) :
    value n = some (String.ofList ((Template.parse text.toList).fill value)) := by
  have hothers : ∀ ref ∈ references text, (if ref = n then none else value ref) = value ref :=
    fun ref href => if_neg (h.ne_of_mem_references htext href)
  rw [hvalue.filled n text htext (h.not_endless n), interpolate_congr hothers,
    interpolate_of_valued fun ref href =>
      hvalue.isSome_iff.mpr (h.valued n text htext ref href)]

end Layered

end Templates

end CaSettings
