import CaSettings.Proofs.Interpolation.Waiting

/-!
# Tables that agree where it matters

Two tables of templates agree on a set of names if the set holds, with a
setting, every name that its text refers to, and both tables have the same
texts on it (`Templates.AgreeOn`). On such a set the tables look the same: every
setting waits for the same settings (`AgreeOn.waitsFor_eq`), and an infinite
walk starts at it in both or in neither (`AgreeOn.endless_iff`). What the tables
say about other settings does not matter.
-/

namespace CaSettings.Templates

variable {t t' : Templates} {P : String → Prop} {n m text : String}

/-- Two tables have the same texts on a set of names that is closed under references. -/
structure AgreeOn (t t' : Templates) (P : String → Prop) : Prop where
  closed : ∀ {n text m}, P n → t.textOf n = some text → m ∈ references text → P m
  textOf_eq : ∀ {n}, P n → t.textOf n = t'.textOf n

theorem AgreeOn.of_textOf_eq (h : ∀ n, t.textOf n = t'.textOf n) : t.AgreeOn t' fun _ => True where
  closed := fun _ _ _ => trivial
  textOf_eq := fun _ => h _

theorem AgreeOn.symm (h : t.AgreeOn t' P) : t'.AgreeOn t P where
  closed := by
    intro n text m hn htext href
    rw [← h.textOf_eq hn] at htext
    exact h.closed hn htext href
  textOf_eq := fun hn => (h.textOf_eq hn).symm

theorem AgreeOn.waitsFor_eq (h : t.AgreeOn t' P) (hn : P n) : t.waitsFor n = t'.waitsFor n := by
  unfold waitsFor
  rw [← h.textOf_eq hn]
  cases htext : t.textOf n with
  | none => rfl
  | some text =>
    refine List.filter_congr fun m href => ?_
    rw [h.textOf_eq (h.closed hn htext href)]

theorem AgreeOn.of_mem_waitsFor (h : t.AgreeOn t' P) (hn : P n) (hm : m ∈ t.waitsFor n) : P m := by
  obtain ⟨text, htext, href, _, _⟩ := mem_waitsFor.mp hm
  exact h.closed hn htext href

/-- A walk of one table that starts in the set stays in it, so the other has it too. -/
theorem AgreeOn.endless (h : t.AgreeOn t' P) (hn : P n) (hend : t.Endless n) : t'.Endless n := by
  refine endless_of_closed (P := fun n => P n ∧ t.Endless n) ?_ ⟨hn, hend⟩
  rintro n ⟨hn, hend⟩
  obtain ⟨m, hm, hend'⟩ := endless_iff_exists.mp hend
  exact ⟨m, h.waitsFor_eq hn ▸ hm, h.of_mem_waitsFor hn hm, hend'⟩

theorem AgreeOn.endless_iff (h : t.AgreeOn t' P) (hn : P n) : t.Endless n ↔ t'.Endless n :=
  ⟨h.endless hn, h.symm.endless hn⟩

theorem AgreeOn.leadsToCircle_iff (h : t.AgreeOn t' P) (hn : P n) :
    t.LeadsToCircle n ↔ t'.LeadsToCircle n := by
  rw [← endless_iff_leadsToCircle, ← endless_iff_leadsToCircle, h.endless_iff hn]

end CaSettings.Templates
