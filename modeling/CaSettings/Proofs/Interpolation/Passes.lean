import CaSettings.Proofs.Interpolation.References
import CaSettings.Proofs.Interpolation.Waiting

/-!
# What the passes do

Interpolation works in passes over the pending templates. `Progress.Sound`
relates a stage of it to the templates; it holds before the first pass
(`sound_start`), a pass keeps it (`Sound.pass`), and so do any number of
passes (`Sound.run`). The invariant says that

* the pending templates are those that are not done;
* a setting is done only after all settings that it waits for, and so never
  on an infinite walk;
* the value of a setting that is done is its text interpolated by the values
  of the other settings that are done.

`Progress.Exhausts` is the loop without a budget. One pass for each template is
budget enough for it (`exhausts_run`), so no template is ready in the end
(`ready_run`). The templates still pending then are those on an infinite walk
(`done_stuck_iff`).
-/

namespace CaSettings

namespace Progress

variable {t : Templates} {s : Progress} {n m text : String}

/-- Whether a setting has got its value. -/
def Done (s : Progress) (n : String) : Prop := (s.known.get? n).isSome

/-- The values known of the settings other than `n`. -/
def others (s : Progress) (n : String) (m : String) : Option String :=
  if m = n then none else s.known.get? m

theorem not_done_iff : ¬ s.Done n ↔ s.known.get? n = none := by
  simp [Done]

/-- What holds at every stage of interpolating `t`. -/
structure Sound (t : Templates) (s : Progress) : Prop where
  /-- A template is pending until its setting is done, and the order is kept. -/
  pending_eq : s.pending = t.texts.filter fun entry => (s.known.get? entry.1).isNone
  /-- Only settings with a text get values. -/
  isSome_textOf : ∀ n, s.Done n → (t.textOf n).isSome
  /-- What a setting waits for is done before it. -/
  done_of_waitsFor : ∀ n m, s.Done n → m ∈ t.waitsFor n → s.Done m
  /-- Nothing on an infinite walk is ever done. -/
  not_endless : ∀ n, s.Done n → ¬ t.Endless n
  /-- The values agree with each other. -/
  value_eq : ∀ n text, t.textOf n = some text → s.Done n →
    s.known.get? n = some (interpolate (s.others n) text).1

/-! ## The templates that are ready -/

theorem Sound.mem_pending (hs : Sound t s) :
    (n, text) ∈ s.pending ↔ t.textOf n = some text ∧ ¬ s.Done n := by
  rw [hs.pending_eq, List.mem_filter, Templates.mem_texts, not_done_iff, Option.isNone_iff_eq_none]

theorem Sound.nodup_pending (hs : Sound t s) : (s.pending.map Prod.fst).Nodup := by
  rw [hs.pending_eq]
  exact (List.filter_sublist.map Prod.fst).nodup t.nodup_texts

/-- A setting with a text is pending iff it is not done. -/
theorem Sound.lookup_pending (hs : Sound t s) (m : String) :
    (s.pending.lookup m).isSome ↔ (t.textOf m).isSome ∧ ¬ s.Done m := by
  constructor
  · intro hsome
    obtain ⟨text, htext⟩ := Option.isSome_iff_exists.mp hsome
    have hmem := (NameMap.lookup_eq_some_iff_mem hs.nodup_pending).mp htext
    obtain ⟨htext, hnot⟩ := hs.mem_pending.mp hmem
    exact ⟨by simp [htext], hnot⟩
  · rintro ⟨hsome, hnot⟩
    obtain ⟨text, htext⟩ := Option.isSome_iff_exists.mp hsome
    have hmem := hs.mem_pending.mpr ⟨htext, hnot⟩
    simp [(NameMap.lookup_eq_some_iff_mem hs.nodup_pending).mpr hmem]

theorem Sound.isReady_iff (hs : Sound t s) (htext : t.textOf n = some text) :
    isReady s.pending (n, text) = true ↔ ∀ m ∈ t.waitsFor n, s.Done m := by
  unfold isReady
  rw [List.all_eq_true]
  constructor
  · intro hready m hm
    obtain ⟨href, hne, hsome⟩ := (Templates.mem_waitsFor_of_textOf htext).mp hm
    have hcase := hready m href
    -- the reference is not the setting itself, so it must not be pending
    simp only [Bool.or_eq_true, beq_iff_eq, hne, false_or, Option.isNone_iff_eq_none] at hcase
    by_contra hnot
    have hpending := (hs.lookup_pending m).mpr ⟨hsome, hnot⟩
    simp [hcase] at hpending
  · intro hdone m href
    by_cases hne : m = n
    · simp [hne]
    · have hnone : s.pending.lookup m = none := by
        by_contra hpending
        obtain ⟨hsome, hnot⟩ := (hs.lookup_pending m).mp (Option.isSome_iff_ne_none.mpr hpending)
        exact hnot (hdone m ((Templates.mem_waitsFor_of_textOf htext).mpr ⟨href, hne, hsome⟩))
      simp [hnone]

theorem Sound.mem_ready (hs : Sound t s) :
    (n, text) ∈ s.ready ↔
      t.textOf n = some text ∧ ¬ s.Done n ∧ ∀ m ∈ t.waitsFor n, s.Done m := by
  unfold ready
  rw [List.mem_filter, hs.mem_pending, and_assoc]
  constructor
  · rintro ⟨htext, hnot, hready⟩
    exact ⟨htext, hnot, (hs.isReady_iff htext).mp hready⟩
  · rintro ⟨htext, hnot, hdone⟩
    exact ⟨htext, hnot, (hs.isReady_iff htext).mpr hdone⟩

/-! ## Settling templates -/

/-- Settling gives the settled templates their values and leaves the others alone. -/
theorem get?_known_settle {entries rest : List (String × String)}
    (hnd : (entries.map Prod.fst).Nodup) (n : String) :
    (s.settle entries rest).known.get? n =
      ((entries.lookup n).map fun text => (interpolate s.known.get? text).1).or
        (s.known.get? n) := by
  let values := fun entry : String × String => (entry.1, (interpolate s.known.get? entry.2).1)
  have hnames : (entries.map values).map Prod.fst = entries.map Prod.fst := by
    simp [values, Function.comp_def]
  have hlookup : (entries.map values).lookup n =
      (entries.lookup n).map fun text => (interpolate s.known.get? text).1 := by
    induction entries with
    | nil => rfl
    | cons entry rest ih =>
      obtain ⟨first, v⟩ := entry
      rw [List.map_cons, List.nodup_cons] at hnd
      rw [List.map_cons, NameMap.lookup_cons_ite, NameMap.lookup_cons_ite,
        ih hnd.2 (by simp [values, Function.comp_def])]
      split <;> rfl
  unfold settle
  rw [NameMap.get?_insertAll_of_nodup _ (by rw [hnames]; exact hnd), hlookup]

theorem Sound.nodup_ready (hs : Sound t s) : (s.ready.map Prod.fst).Nodup :=
  (List.filter_sublist.map Prod.fst).nodup hs.nodup_pending

/-- A pass gives a value to the settings that are ready. -/
theorem Sound.get?_known_pass (hs : Sound t s) (h : (n, text) ∈ s.ready) :
    s.pass.known.get? n = some (interpolate s.known.get? text).1 := by
  unfold pass
  rw [get?_known_settle hs.nodup_ready, (NameMap.lookup_eq_some_iff_mem hs.nodup_ready).mpr h]
  rfl

/-- A pass changes nothing else. -/
theorem Sound.get?_known_pass_of_not_ready (hs : Sound t s)
    (h : ∀ text, (n, text) ∉ s.ready) : s.pass.known.get? n = s.known.get? n := by
  have hnone : s.ready.lookup n = none := by
    by_contra hready
    obtain ⟨text, htext⟩ := Option.ne_none_iff_exists'.mp hready
    exact h text ((NameMap.lookup_eq_some_iff_mem hs.nodup_ready).mp htext)
  unfold pass
  rw [get?_known_settle hs.nodup_ready, hnone]
  rfl

theorem Sound.done_pass_iff (hs : Sound t s) :
    s.pass.Done n ↔ s.Done n ∨ ∃ text, (n, text) ∈ s.ready := by
  by_cases hready : ∃ text, (n, text) ∈ s.ready
  · obtain ⟨text, hmem⟩ := hready
    have hdone : s.pass.Done n := by simp [Done, hs.get?_known_pass hmem]
    constructor
    · intro _
      exact .inr ⟨text, hmem⟩
    · intro _
      exact hdone
  · have heq := hs.get?_known_pass_of_not_ready (not_exists.mp hready)
    simp [Done, heq, hready]

theorem Sound.get?_known_pass_of_done (hs : Sound t s) (h : s.Done n) :
    s.pass.known.get? n = s.known.get? n :=
  hs.get?_known_pass_of_not_ready fun _ hmem => (hs.mem_ready.mp hmem).2.1 h

/-! ## Passes keep the invariant -/

theorem sound_start (t : Templates) : Sound t (start t) where
  pending_eq := by
    have hall : t.texts.filter (fun entry => ((start t).known.get? entry.1).isNone) = t.texts :=
      List.filter_eq_self.mpr fun _ _ => rfl
    rw [hall]
    rfl
  isSome_textOf := fun n h => absurd h (by simp [Done, start])
  done_of_waitsFor := fun n m h => absurd h (by simp [Done, start])
  not_endless := fun n h => absurd h (by simp [Done, start])
  value_eq := fun n text _ h => absurd h (by simp [Done, start])

/-- The values that a text looks up while its setting is settled are the ones
that the other settings have after the pass. -/
theorem Sound.interpolate_pass (hs : Sound t s) (htext : t.textOf n = some text)
    (hwaits : ∀ m ∈ t.waitsFor n, s.Done m) (lookup : String → Option String)
    (hself : lookup n = none) (hlookup : ∀ m, m ≠ n → lookup m = s.known.get? m) :
    interpolate lookup text = interpolate (s.pass.others n) text := by
  refine interpolate_congr fun ref href => ?_
  unfold others
  by_cases hne : ref = n
  · rw [if_pos hne, hne, hself]
  · rw [if_neg hne, hlookup ref hne]
    by_cases hdone : s.Done ref
    · rw [hs.get?_known_pass_of_done hdone]
    · -- a name that is not done and not waited for has no text, so it never gets a value
      have hnone : t.textOf ref = none := by
        by_contra hsome
        exact hdone (hwaits ref ((Templates.mem_waitsFor_of_textOf htext).mpr
          ⟨href, hne, Option.isSome_iff_ne_none.mpr hsome⟩))
      refine (hs.get?_known_pass_of_not_ready fun text' hmem => ?_).symm
      rw [(hs.mem_ready.mp hmem).1] at hnone
      exact absurd hnone (by simp)

theorem Sound.pending_pass (hs : Sound t s) :
    s.pass.pending = t.texts.filter fun entry => (s.pass.known.get? entry.1).isNone := by
  show s.waiting = _
  unfold waiting
  rw [hs.pending_eq, List.filter_filter]
  refine List.filter_congr fun ⟨n, text⟩ hmem => ?_
  rw [Bool.eq_iff_iff, Bool.and_eq_true, Bool.not_eq_true', ← hs.pending_eq, Option.isNone_iff_eq_none,
    Option.isNone_iff_eq_none, ← not_done_iff, ← not_done_iff, hs.done_pass_iff, not_or,
    and_comm]
  refine and_congr_right fun hnot => ?_
  have htext := Templates.mem_texts.mp hmem
  rw [← Bool.not_eq_true, hs.isReady_iff htext, not_iff_not]
  constructor
  · intro hwaits
    exact ⟨text, hs.mem_ready.mpr ⟨htext, hnot, hwaits⟩⟩
  · rintro ⟨text', hready⟩
    exact (hs.mem_ready.mp hready).2.2

theorem Sound.pass (hs : Sound t s) : Sound t s.pass where
  pending_eq := hs.pending_pass
  isSome_textOf := by
    intro n hdone
    rcases hs.done_pass_iff.mp hdone with hdone | ⟨text, hready⟩
    · exact hs.isSome_textOf n hdone
    · simp [(hs.mem_ready.mp hready).1]
  done_of_waitsFor := by
    intro n m hdone hm
    refine hs.done_pass_iff.mpr (.inl ?_)
    rcases hs.done_pass_iff.mp hdone with hdone | ⟨text, hready⟩
    · exact hs.done_of_waitsFor n m hdone hm
    · exact (hs.mem_ready.mp hready).2.2 m hm
  not_endless := by
    intro n hdone hendless
    rcases hs.done_pass_iff.mp hdone with hdone | ⟨text, hready⟩
    · exact hs.not_endless n hdone hendless
    · obtain ⟨m, hm, hm'⟩ := Templates.endless_iff_exists.mp hendless
      exact hs.not_endless m ((hs.mem_ready.mp hready).2.2 m hm) hm'
  value_eq := by
    intro n text htext hdone
    rcases hs.done_pass_iff.mp hdone with hdone | ⟨text', hready⟩
    -- what was done keeps its value, and the pass adds nothing that its text looks up
    · rw [hs.get?_known_pass_of_done hdone, hs.value_eq n text htext hdone,
        hs.interpolate_pass htext (fun m hm => hs.done_of_waitsFor n m hdone hm) (s.others n)
          (if_pos rfl) fun m hne => if_neg hne]
    · obtain ⟨htext', hnot, hwaits⟩ := hs.mem_ready.mp hready
      rw [htext, Option.some.injEq] at htext'
      subst htext'
      rw [hs.get?_known_pass hready,
        hs.interpolate_pass htext hwaits s.known.get? (not_done_iff.mp hnot) fun _ _ => rfl]

theorem Sound.run (hs : Sound t s) (budget : Nat) : Sound t (run budget s) := by
  induction budget generalizing s with
  | zero => exact hs
  | succ budget ih =>
    unfold Progress.run
    split
    · exact hs
    · exact ih hs.pass

/-! ## The last pass -/

theorem length_ready_add_waiting (s : Progress) :
    s.ready.length + s.waiting.length = s.pending.length :=
  (List.length_eq_length_filter_add (isReady s.pending)).symm

/-- Passes without a budget: `k` of them lead from a stage to the final one. Before
each of them some template is ready, and after them none is. -/
inductive Exhausts : Progress → Nat → Progress → Prop
  | stop {s : Progress} : s.ready = [] → Exhausts s 0 s
  | pass {s final : Progress} {k : Nat} :
      s.ready ≠ [] → Exhausts s.pass k final → Exhausts s (k + 1) final

theorem Exhausts.ready_eq_nil {k : Nat} {final : Progress} (h : Exhausts s k final) :
    final.ready = [] := by
  induction h with
  | stop hnil => exact hnil
  | pass _ _ ih => exact ih

/-- A budget of as many passes as there are templates does not stop them early. -/
theorem exhausts_run {budget : Nat} (h : s.pending.length ≤ budget) :
    ∃ k ≤ s.pending.length, Exhausts s k (Progress.run budget s) := by
  induction budget generalizing s with
  | zero =>
    have hnil : s.pending = [] := List.eq_nil_of_length_eq_zero (by omega)
    exact ⟨0, Nat.zero_le _, .stop (by simp [ready, hnil])⟩
  | succ budget ih =>
    unfold Progress.run
    split
    · rename_i hempty
      exact ⟨0, Nat.zero_le _, .stop (List.isEmpty_iff.mp hempty)⟩
    · rename_i hsome
      have hready : s.ready ≠ [] := fun hnil => hsome (List.isEmpty_iff.mpr hnil)
      -- some template is ready, so the next pass starts with fewer of them
      have hpos : 0 < s.ready.length := List.length_pos_iff.mpr hready
      have hsplit := length_ready_add_waiting s
      have hwaiting : s.pass.pending.length = s.waiting.length := rfl
      obtain ⟨k, hk, hrest⟩ := ih (s := s.pass) (by omega)
      exact ⟨k + 1, by omega, .pass hready hrest⟩

/-- As many passes as there are templates leave none that is ready. -/
theorem ready_run {budget : Nat} (h : s.pending.length ≤ budget) :
    (Progress.run budget s).ready = [] := by
  obtain ⟨_, _, hexhausts⟩ := exhausts_run h
  exact hexhausts.ready_eq_nil

/-- What is left of a table when no template is ready any more. -/
def stuck (t : Templates) : Progress := Progress.run (start t).pending.length (start t)

theorem sound_stuck (t : Templates) : Sound t (stuck t) := (sound_start t).run _

/-- The settings with a text that never become ready are those on an infinite walk. -/
theorem done_stuck_iff : (stuck t).Done n ↔ (t.textOf n).isSome ∧ ¬ t.Endless n := by
  have hs := sound_stuck t
  have hready : (stuck t).ready = [] := ready_run (Nat.le_refl _)
  constructor
  · intro hdone
    exact ⟨hs.isSome_textOf n hdone, hs.not_endless n hdone⟩
  · rintro ⟨hsome, hend⟩
    by_contra hnot
    -- each pending setting waits for another pending one
    refine hend (Templates.endless_of_closed
      (P := fun n => (t.textOf n).isSome ∧ ¬ (stuck t).Done n) ?_ ⟨hsome, hnot⟩)
    rintro n ⟨hsome, hnot⟩
    obtain ⟨text, htext⟩ := Option.isSome_iff_exists.mp hsome
    by_contra hall
    push Not at hall
    have hmem : (n, text) ∈ (stuck t).ready := hs.mem_ready.mpr ⟨htext, hnot, fun m hm =>
      hall m hm (Templates.isSome_textOf_of_mem_waitsFor hm)⟩
    simp [hready] at hmem

end Progress

end CaSettings
