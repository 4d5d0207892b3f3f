import CaSettings.Proofs.Interpolation.PassNumbers
import CaSettings.Proofs.Resolving

/-!
# The budget of passes

Interpolation runs at most one pass for each setting with a text. That budget
is never what stops it: the loop without a budget (`Progress.Exhausts`) has one
end (`Exhausts.unique`), within the budget, and each of its passes gives some
setting a value (`Sound.exists_settled`).

What is left over in the end are the settings that reach a circle of two or
more, and these are the ones that the log names (`budget_never_stops_passes`).
-/

namespace CaSettings

namespace Progress

variable {t : Templates} {s final final' : Progress} {n : String} {k k' : Nat}

/-! ## The loop without a budget -/

/-- What a stage leads to, and in how many passes, is determined. -/
theorem Exhausts.unique (h : Exhausts s k final) (h' : Exhausts s k' final') :
    k' = k ∧ final' = final := by
  induction h generalizing k' with
  | stop hnil =>
    cases h' with
    | stop _ => exact ⟨rfl, rfl⟩
    | pass hready _ => exact absurd hnil hready
  | pass hready _ ih =>
    cases h' with
    | stop hnil => exact absurd hnil hready
    | pass _ hrest =>
      obtain ⟨hk, hfinal⟩ := ih hrest
      exact ⟨by omega, hfinal⟩

/-- Before each pass that is executed some template is ready. -/
theorem Exhausts.ready_ne_nil (h : Exhausts s k final) :
    ∀ i < k, (Progress.pass^[i] s).ready ≠ [] := by
  induction h with
  | stop _ =>
    intro i hi
    omega
  | pass hready _ ih =>
    intro i hi
    cases i with
    | zero => exact hready
    | succ i =>
      rw [Function.iterate_succ_apply]
      exact ih i (by omega)

theorem Sound.iterate (hs : Sound t s) (k : Nat) : Sound t (Progress.pass^[k] s) := by
  induction k with
  | zero => exact hs
  | succ k ih =>
    rw [Function.iterate_succ_apply']
    exact ih.pass

/-- A pass with a template that is ready gives a setting its value. -/
theorem Sound.exists_settled (hs : Sound t s) (h : s.ready ≠ []) :
    ∃ n, ¬ s.Done n ∧ s.pass.Done n := by
  obtain ⟨⟨n, text⟩, hmem⟩ := List.exists_mem_of_ne_nil _ h
  have hnot : ¬ s.Done n := (hs.mem_ready.mp hmem).2.1
  exact ⟨n, hnot, hs.done_pass_iff.mpr (.inr ⟨text, hmem⟩)⟩

/-! ## What is left over -/

theorem mem_names_pending_stuck :
    n ∈ (stuck t).pending.map Prod.fst ↔ t.ReachesCircle n := by
  rw [Templates.reachesCircle_iff, ← Templates.endless_iff_leadsToCircle, List.mem_map]
  constructor
  · rintro ⟨⟨n, text⟩, hmem, rfl⟩
    exact (mem_pending_stuck.mp hmem).2
  · intro hend
    obtain ⟨text, htext⟩ := Option.isSome_iff_exists.mp (Templates.isSome_textOf_of_endless hend)
    exact ⟨(n, text), mem_pending_stuck.mpr ⟨htext, hend⟩, rfl⟩

end Progress

variable {t : Templates} {n : String}

theorem mem_circular : n ∈ (interpolateAll t).circular ↔ t.ReachesCircle n :=
  Progress.mem_names_pending_stuck

theorem nodup_circular (t : Templates) : (interpolateAll t).circular.Nodup :=
  (Progress.sound_stuck t).nodup_pending

/-- Which settings lead to circles is all that counts. -/
theorem perm_circular_of_endless_iff {t' : Templates} (h : ∀ n, t.Endless n ↔ t'.Endless n) :
    (interpolateAll t).circular.Perm (interpolateAll t').circular := by
  refine (List.perm_ext_iff_of_nodup (nodup_circular t) (nodup_circular t')).mpr fun n => ?_
  rw [mem_circular, mem_circular, Templates.reachesCircle_iff, Templates.reachesCircle_iff,
    ← Templates.endless_iff_leadsToCircle, ← Templates.endless_iff_leadsToCircle, h]

theorem circular_eq_nil_iff : (interpolateAll t).circular = [] ↔ ¬ ∃ n, t.ReachesCircle n := by
  simp only [List.eq_nil_iff_forall_not_mem, mem_circular, not_exists]

/-- Who reaches a circle refers to a setting other than itself. -/
theorem Templates.ReachesCircle.exists_refers (h : t.ReachesCircle n) :
    ∃ m, t.Refers n m ∧ m ≠ n := by
  rw [reachesCircle_iff, ← endless_iff_leadsToCircle] at h
  obtain ⟨m, hm, _⟩ := endless_iff_exists.mp h
  exact ⟨m, mem_waitsFor_iff_refers.mp hm⟩

/-! ## The report on circles -/

open Classical in
/-- The log names the settings that reach a circle, in the order of their code
points, if there are any. -/
theorem log_resolve_circular {r : Resolver} {overrides : Overrides}
    (h : r.templates overrides = .ok t) :
    (r.resolve overrides).log =
      (Traced.noteNames "Ignoring unrecognised settings: " (r.ignored overrides)).log ++
        if ∃ n, t.ReachesCircle n then
          [⟨.debug, "Circular references among settings: " ++
            ", ".intercalate (sortNames (interpolateAll t).circular)⟩]
        else [] := by
  rw [Resolver.log_resolve h, Traced.log_noteNames "Circular references among settings: "]
  have hnil : sortNames (interpolateAll t).circular = [] ↔ ¬ ∃ n, t.ReachesCircle n := by
    rw [← circular_eq_nil_iff, List.eq_nil_iff_forall_not_mem, List.eq_nil_iff_forall_not_mem]
    simp only [mem_sortNames]
  simp only [hnil, ite_not]

open Classical in
/-- **The budget of passes never stops interpolation, and the report on circles
is exact.** The loop without a budget ends in one stage, after passes that each
give some setting a value; the loop with a budget of one pass for each setting
with a text ends in the same stage. What is pending then are the settings that
reach a circle of two or more along references. The log has a record of them iff
there are any, and lists them in order; each refers to a setting other than itself. -/
theorem budget_never_stops_passes (r : Resolver) (overrides : Overrides) (t : Templates)
    (h : r.templates overrides = .ok t) :
    (∃ k final,
      (∀ k' final', Progress.Exhausts (Progress.start t) k' final' ↔ k' = k ∧ final' = final) ∧
      k ≤ t.texts.length ∧
      Progress.run t.texts.length (Progress.start t) = final ∧
      interpolateAll t =
        { values := t.map fun name _ => final.finish.known.get? name
          problems := final.finish.problems
          circular := final.pending.map Prod.fst } ∧
      (∀ i < k, ∃ n, ¬ (Progress.pass^[i] (Progress.start t)).Done n ∧
        (Progress.pass^[i + 1] (Progress.start t)).Done n) ∧
      ∀ n, n ∈ final.pending.map Prod.fst ↔ t.ReachesCircle n) ∧
    ∃ listed : List String, listed.Pairwise (· < ·) ∧
      (∀ n, n ∈ listed ↔ t.ReachesCircle n) ∧
      (∀ n ∈ listed, ∃ m, t.Refers n m ∧ m ≠ n) ∧
      (r.resolve overrides).log =
        (Traced.noteNames "Ignoring unrecognised settings: " (r.ignored overrides)).log ++
          if ∃ n, t.ReachesCircle n then
            [⟨.debug, "Circular references among settings: " ++ ", ".intercalate listed⟩]
          else [] := by
  constructor
  · obtain ⟨k, hk, hexhausts⟩ := Progress.exhausts_run (Nat.le_refl (Progress.start t).pending.length)
    refine ⟨k, Progress.stuck t, ?_, hk, rfl, rfl, ?_, fun n => Progress.mem_names_pending_stuck⟩
    · intro k' final'
      constructor
      · exact fun h' => hexhausts.unique h'
      · rintro ⟨rfl, rfl⟩
        exact hexhausts
    · intro i hi
      rw [Function.iterate_succ_apply']
      exact ((Progress.sound_start t).iterate i).exists_settled (hexhausts.ready_ne_nil i hi)
  · refine ⟨sortNames (interpolateAll t).circular, pairwise_sortNames (nodup_circular t), ?_, ?_,
      log_resolve_circular h⟩
    · intro n
      rw [mem_sortNames, mem_circular]
    · intro n hn
      rw [mem_sortNames, mem_circular] at hn
      exact hn.exists_refers

theorem budget_never_stops_passes_tangled :
    tangled.templates tangledOverrides = .ok tangledTemplates ∧
      (∀ n, tangledTemplates.ReachesCircle n ↔ n ∈ ["knot", "loop", "tail"]) ∧
      (tangled.resolve tangledOverrides).log =
        [⟨.debug, "Ignoring unrecognised settings: stray"⟩,
          ⟨.debug, "Circular references among settings: knot, loop, tail"⟩] := by
  obtain ⟨⟨k, final, _, _, hrun, _, _, hleft⟩, listed, hsorted, hlisted, _, hlog⟩ :=
    budget_never_stops_passes tangled tangledOverrides tangledTemplates templates_tangled
  have hcircular : ∀ n, tangledTemplates.ReachesCircle n ↔ n ∈ ["knot", "loop", "tail"] := by
    intro n
    have hpending : (Progress.run tangledTemplates.texts.length
        (Progress.start tangledTemplates)).pending.map Prod.fst = ["tail", "loop", "knot"] := by
      decide +kernel
    rw [← hleft n, ← hrun, hpending]
    exact (List.reverse_perm ["knot", "loop", "tail"]).mem_iff
  refine ⟨templates_tangled, hcircular, ?_⟩
  -- one list in the order of code points has these members
  have hnames : listed = ["knot", "loop", "tail"] := by
    have hperm : listed.Perm ["knot", "loop", "tail"] :=
      (List.perm_ext_iff_of_nodup (hsorted.imp ne_of_lt) (by decide)).mpr
        fun n => (hlisted n).trans (hcircular n)
    exact hperm.eq_of_pairwise (fun a b _ _ hab hba => absurd hba (lt_asymm hab)) hsorted
      (by decide +kernel)
  rw [hlog, if_pos ⟨"knot", (hcircular "knot").mpr (by decide)⟩, hnames]
  decide +kernel

end CaSettings
