import CaSettings.Proofs.Interpolation.Meaning
import Mathlib

/-!
# In which pass a setting is settled

Away from the circles every setting has a pass number: 0 if it waits for
nothing, and otherwise one more than the largest pass number among the settings
that it waits for (`Templates.PassNumbers`; they exist and are unique).

The passes follow these numbers. `Progress.AtPass` says how far interpolation
has come after `k` passes: done is what has a pass number below `k`, and the
problems are those of the settings that are done, in the order of their pass
numbers and in table order within a pass. A pass takes it from `k` to `k + 1`
(`AtPass.succ`), and so the passes of a whole run take it from the start to
the end (`atPass_stuck`). `problems_interpolateAll` says what this comes to.
-/

namespace CaSettings

/-! ## Sorting by rank -/

section Sorting

variable {α : Type} {l : List α} {rank : α → Nat}

/-- Sorting by rank keeps the order of the elements of one rank. -/
theorem filter_mergeSort_rank (l : List α) (rank : α → Nat) (k : Nat) :
    (l.mergeSort fun a b => rank a ≤ rank b).filter (rank · == k) = l.filter (rank · == k) := by
  have hpair : (l.filter (rank · == k)).Pairwise fun a b => decide (rank a ≤ rank b) := by
    refine List.pairwise_of_forall_mem_list fun a ha b hb => ?_
    rw [List.mem_filter, beq_iff_eq] at ha hb
    simp [ha.2, hb.2]
  have hsub : (l.filter (rank · == k)).Sublist (l.mergeSort fun a b => rank a ≤ rank b) := by
    apply List.sublist_mergeSort _ _ hpair List.filter_sublist
    · intro a b c
      simpa using Nat.le_trans
    · intro a b
      simpa using Nat.le_total _ _
  have hsub' := hsub.filter (rank · == k)
  rw [List.filter_filter] at hsub'
  simp only [Bool.and_self] at hsub'
  exact (hsub'.eq_of_length ((List.mergeSort_perm l _).filter _).length_eq.symm).symm

/-- In a list sorted by rank, the next rank follows the lower ones. -/
theorem filter_lt_append_filter_eq (hpair : l.Pairwise fun a b => rank a ≤ rank b) (k : Nat) :
    l.filter (rank · < k) ++ l.filter (rank · == k) = l.filter (rank · < k + 1) := by
  induction hpair with
  | nil => rfl
  | @cons a l hle _ ih =>
    rcases Nat.lt_trichotomy (rank a) k with hlt | heq | hgt
    · have hlow : decide (rank a < k) = true := decide_eq_true hlt
      have hrank : (rank a == k) = false := beq_false_of_ne (Nat.ne_of_lt hlt)
      have hnext : decide (rank a < k + 1) = true := decide_eq_true (by omega)
      simp only [List.filter_cons, hlow, hrank, hnext, if_true, Bool.false_eq_true, if_false,
        List.cons_append, ih]
    · have hnil : l.filter (rank · < k) = [] := by
        refine List.filter_eq_nil_iff.mpr fun b hb => ?_
        have := hle b hb
        simp only [decide_eq_true_eq]
        omega
      have hlow : decide (rank a < k) = false := decide_eq_false (by omega)
      have hrank : (rank a == k) = true := beq_of_eq heq
      have hnext : decide (rank a < k + 1) = true := decide_eq_true (by omega)
      rw [hnil, List.nil_append] at ih
      simp only [List.filter_cons, hlow, hrank, hnext, if_true, Bool.false_eq_true, if_false,
        hnil, List.nil_append, ih]
    · have hlow : decide (rank a < k) = false := decide_eq_false (by omega)
      have hrank : (rank a == k) = false := beq_false_of_ne (Nat.ne_of_gt hgt)
      have hnext : decide (rank a < k + 1) = false := decide_eq_false (by omega)
      simp only [List.filter_cons, hlow, hrank, hnext, Bool.false_eq_true, if_false, ih]

/-- The ranks of a list, one after the other, are the list sorted by rank. -/
theorem flatMap_filter_rank_eq_mergeSort {bound : Nat} (h : ∀ a ∈ l, rank a < bound) :
    (List.range bound).flatMap (fun k => l.filter (rank · == k)) =
      l.mergeSort fun a b => rank a ≤ rank b := by
  have hpair : (l.mergeSort fun a b => rank a ≤ rank b).Pairwise fun a b => rank a ≤ rank b := by
    have hsorted : (l.mergeSort fun a b => rank a ≤ rank b).Pairwise
        fun a b => decide (rank a ≤ rank b) := by
      apply List.pairwise_mergeSort
      · intro a b c
        simpa using Nat.le_trans
      · intro a b
        simpa using Nat.le_total _ _
    simpa using hsorted
  have hranks : ∀ k, (List.range k).flatMap (fun k => l.filter (rank · == k)) =
      (l.mergeSort fun a b => rank a ≤ rank b).filter (rank · < k) := by
    intro k
    induction k with
    | zero => simp
    | succ k ih =>
      rw [List.range_succ, List.flatMap_append, List.flatMap_singleton, ih,
        ← filter_mergeSort_rank, filter_lt_append_filter_eq hpair]
  rw [hranks bound]
  refine List.filter_eq_self.mpr fun a hmem => ?_
  rw [List.mem_mergeSort] at hmem
  simpa using h a hmem

end Sorting

namespace Templates

variable {t : Templates} {n m text : String}

/-- `pass` numbers the settings away from circles by the pass that settles them. -/
structure PassNumbers (t : Templates) (pass : String → Nat) : Prop where
  /-- What waits for nothing is settled in the first pass. -/
  first : ∀ n, t.waitsFor n = [] → pass n = 0
  /-- Everything else is settled in the pass after the last one that it waits for. -/
  later : ∀ n, ¬ t.LeadsToCircle n → t.waitsFor n ≠ [] →
    ∃ m ∈ t.waitsFor n, pass n = pass m + 1 ∧ ∀ m' ∈ t.waitsFor n, pass m' ≤ pass m

theorem not_leadsToCircle (hend : ¬ t.Endless n) : ¬ t.LeadsToCircle n :=
  fun hcircle => hend (endless_of_leadsToCircle hcircle)

theorem PassNumbers.lt {pass : String → Nat} (h : t.PassNumbers pass) (hend : ¬ t.Endless n)
    (hm : m ∈ t.waitsFor n) : pass m < pass n := by
  obtain ⟨last, _, heq, hle⟩ := h.later n (not_leadsToCircle hend) (List.ne_nil_of_mem hm)
  have := hle m hm
  omega

open Classical in
/-- The number of the pass that settles a setting, by recursion on what it waits for. -/
noncomputable def passNumber (t : Templates) : String → Nat :=
  t.wellFounded_waitsFor.fix fun n below =>
    if h : t.Endless n then 0
    else (t.waitsFor n).toFinset.attach.sup fun m =>
      below m.1 ⟨List.mem_toFinset.mp m.2, h⟩ + 1

theorem passNumber_eq (h : ¬ t.Endless n) :
    t.passNumber n = (t.waitsFor n).toFinset.sup fun m => t.passNumber m + 1 := by
  unfold passNumber
  rw [WellFounded.fix_eq, dif_neg h]
  exact Finset.sup_attach (t.waitsFor n).toFinset fun m => t.passNumber m + 1

theorem passNumbers_passNumber (t : Templates) : t.PassNumbers t.passNumber where
  first := by
    intro n hnil
    have hend : ¬ t.Endless n := fun hend => by
      obtain ⟨m, hm, _⟩ := endless_iff_exists.mp hend
      simp [hnil] at hm
    rw [passNumber_eq hend, hnil]
    rfl
  later := by
    intro n hcircle hne
    have hend : ¬ t.Endless n := fun hend => hcircle (leadsToCircle_of_endless hend)
    have hnonempty : (t.waitsFor n).toFinset.Nonempty := List.toFinset_nonempty_iff _ |>.mpr hne
    obtain ⟨m, hm, hsup⟩ := Finset.exists_mem_eq_sup _ hnonempty fun m => t.passNumber m + 1
    refine ⟨m, List.mem_toFinset.mp hm, by rw [passNumber_eq hend, hsup], fun m' hm' => ?_⟩
    have hle : t.passNumber m' + 1 ≤ t.passNumber m + 1 := by
      rw [← hsup]
      exact Finset.le_sup (f := fun m => t.passNumber m + 1) (List.mem_toFinset.mpr hm')
    omega

theorem PassNumbers.unique {pass pass' : String → Nat} (h : t.PassNumbers pass)
    (h' : t.PassNumbers pass') : ∀ n, ¬ t.Endless n → pass n = pass' n := by
  refine induction_waitsFor fun n hend ih => ?_
  by_cases hnil : t.waitsFor n = []
  · rw [h.first n hnil, h'.first n hnil]
  · obtain ⟨m, hm, heq, hle⟩ := h.later n (not_leadsToCircle hend) hnil
    obtain ⟨m', hm', heq', hle'⟩ := h'.later n (not_leadsToCircle hend) hnil
    -- each of the two last settings bounds the other
    have h1 := hle m' hm'
    have h2 := hle' m hm
    have h3 := ih m hm
    have h4 := ih m' hm'
    omega

/-! ## The problems of one setting -/

/-- A reference in the text of `n` that has no value when `n` is settled: one
to `n` itself, to a name outside the table, to a setting without a text, or to
one that leads to a circle. -/
def Fails (t : Templates) (n ref : String) : Prop :=
  ref = n ∨ ref ∉ t.names ∨ t.get? ref = some none ∨ t.LeadsToCircle ref

theorem fails_iff {ref : String} :
    t.Fails n ref ↔ ref = n ∨ t.textOf ref = none ∨ t.Endless ref := by
  rw [Fails, textOf_eq_none_iff, endless_iff_leadsToCircle, or_assoc]

open Classical in
/-- The problems of a setting with a text, from left to right. -/
noncomputable def problemsOf (t : Templates) (entry : String × String) : List Problem :=
  ((references entry.2).filter fun ref => t.Fails entry.1 ref).map
    fun ref => .unresolved ref entry.2

open Classical in
/-- The settings with a text away from the circles, in table order. -/
noncomputable def settled (t : Templates) : List (String × String) :=
  t.texts.filter fun entry => ¬ t.LeadsToCircle entry.1

open Classical in
/-- The settings that lead to a circle, in table order. -/
noncomputable def unsettled (t : Templates) : List (String × String) :=
  t.texts.filter fun entry => t.LeadsToCircle entry.1

/-- The settings of one pass, in table order. -/
noncomputable def layer (t : Templates) (pass : String → Nat) (k : Nat) :
    List (String × String) :=
  t.settled.filter fun entry => pass entry.1 == k

theorem mem_settled : (n, text) ∈ t.settled ↔ t.textOf n = some text ∧ ¬ t.Endless n := by
  simp [settled, mem_texts, endless_iff_leadsToCircle]

open Classical in
/-- If the names without a value are the failing ones, the problems are those of the setting. -/
theorem problemsOf_eq_of_iff {known : String → Option String}
    (h : ∀ ref ∈ references text, known ref = none ↔ t.Fails n ref) :
    (interpolate known text).2 = t.problemsOf (n, text) := by
  rw [interpolate_problems]
  unfold problemsOf unresolvedIn
  congr 1
  refine List.filter_congr fun ref href => ?_
  rw [Bool.eq_iff_iff, Option.isNone_iff_eq_none, decide_eq_true_eq]
  exact h ref href

theorem mem_problemsOf {problem : Problem} :
    problem ∈ t.problemsOf (n, text) ↔
      ∃ ref ∈ references text, t.Fails n ref ∧ problem = .unresolved ref text := by
  simp [problemsOf, and_assoc, eq_comm]

end Templates

namespace Progress

variable {t : Templates} {s : Progress} {pass : String → Nat} {n text : String}

/-! ## The problems of a step -/

/-- When a setting is ready, exactly the failing references have no value. -/
theorem Sound.problems_of_ready (hs : Sound t s) (h : (n, text) ∈ s.ready) :
    (interpolate s.known.get? text).2 = t.problemsOf (n, text) := by
  obtain ⟨htext, hnot, hwaits⟩ := hs.mem_ready.mp h
  refine Templates.problemsOf_eq_of_iff fun ref href => ?_
  rw [← not_done_iff, Templates.fails_iff]
  constructor
  · intro hundone
    by_contra hfails
    -- a reference that does not fail is waited for, and so done
    simp only [not_or] at hfails
    exact hundone (hwaits ref ((Templates.mem_waitsFor_of_textOf htext).mpr
      ⟨href, hfails.1, Option.isSome_iff_ne_none.mpr hfails.2.1⟩))
  · rintro (rfl | hnone | hend) hdone
    · exact hnot hdone
    · simpa [hnone] using hs.isSome_textOf ref hdone
    · exact hs.not_endless ref hdone hend

/-- When nothing else is ready, exactly the failing references of what is left have no value. -/
theorem problems_of_stuck (h : (n, text) ∈ (stuck t).pending) :
    (interpolate (stuck t).known.get? text).2 = t.problemsOf (n, text) := by
  refine Templates.problemsOf_eq_of_iff fun ref _ => ?_
  rw [← not_done_iff, done_stuck_iff, not_and_or, not_not, Templates.fails_iff]
  constructor
  · rintro (hnone | hend)
    · exact .inr (.inl (by simpa using hnone))
    · exact .inr (.inr hend)
  · rintro (rfl | hnone | hend)
    · exact .inr (mem_pending_stuck.mp h).2
    · exact .inl (by simp [hnone])
    · exact .inr hend

/-! ## Pass by pass -/

/-- Where interpolation stands after `k` passes. -/
structure AtPass (t : Templates) (pass : String → Nat) (k : Nat) (s : Progress) : Prop where
  sound : Sound t s
  done_iff : ∀ n, s.Done n ↔ (t.textOf n).isSome ∧ ¬ t.Endless n ∧ pass n < k
  problems_eq : s.problems =
    (List.range k).flatMap fun j => (t.layer pass j).flatMap t.problemsOf

theorem atPass_start (t : Templates) (pass : String → Nat) : AtPass t pass 0 (start t) where
  sound := sound_start t
  done_iff := fun n => by simp [Done, start]
  problems_eq := rfl

open Classical in
/-- After `k` passes, ready is what has the pass number `k`. -/
theorem AtPass.ready_eq {k : Nat} (hpass : t.PassNumbers pass) (h : AtPass t pass k s) :
    s.ready = t.layer pass k := by
  unfold ready Templates.layer Templates.settled
  rw [h.sound.pending_eq, List.filter_filter, List.filter_filter]
  refine List.filter_congr fun ⟨n, text⟩ hmem => ?_
  have htext := Templates.mem_texts.mp hmem
  have hsome : (t.textOf n).isSome := by simp [htext]
  rw [Bool.eq_iff_iff, Bool.and_eq_true, Bool.and_eq_true, ← h.sound.pending_eq,
    h.sound.isReady_iff htext, Option.isNone_iff_eq_none, ← not_done_iff, h.done_iff,
    beq_iff_eq, decide_eq_true_eq, ← Templates.endless_iff_leadsToCircle]
  dsimp only
  constructor
  · rintro ⟨hwaits, hnot⟩
    have hend : ¬ t.Endless n := by
      intro hend
      obtain ⟨m, hm, hend'⟩ := Templates.endless_iff_exists.mp hend
      exact ((h.done_iff m).mp (hwaits m hm)).2.1 hend'
    refine ⟨?_, hend⟩
    -- not earlier than `k`: it would be done already
    have hge : k ≤ pass n := by
      by_contra hlt
      exact hnot ⟨hsome, hend, by omega⟩
    -- not later than `k`: the last setting it waits for was done before
    by_cases hnil : t.waitsFor n = []
    · have := hpass.first n hnil
      omega
    · obtain ⟨m, hm, heq, _⟩ := hpass.later n (Templates.not_leadsToCircle hend) hnil
      have := ((h.done_iff m).mp (hwaits m hm)).2.2
      omega
  · rintro ⟨rfl, hend⟩
    refine ⟨fun m hm => (h.done_iff m).mpr ?_, fun hdone => by omega⟩
    exact ⟨Templates.isSome_textOf_of_mem_waitsFor hm,
      Templates.not_endless_of_mem_waitsFor hend hm, hpass.lt hend hm⟩

/-- A pass settles the settings of its number. -/
theorem AtPass.succ {k : Nat} (hpass : t.PassNumbers pass) (h : AtPass t pass k s) :
    AtPass t pass (k + 1) s.pass where
  sound := h.sound.pass
  done_iff := by
    intro n
    rw [h.sound.done_pass_iff, h.done_iff, h.ready_eq hpass]
    constructor
    · rintro (⟨hsome, hend, hlt⟩ | ⟨text, hmem⟩)
      · exact ⟨hsome, hend, by omega⟩
      · obtain ⟨hmem, heq⟩ := List.mem_filter.mp hmem
        obtain ⟨htext, hend⟩ := Templates.mem_settled.mp hmem
        rw [beq_iff_eq] at heq
        exact ⟨by simp [htext], hend, by simp only at heq; omega⟩
    · rintro ⟨hsome, hend, hlt⟩
      by_cases heq : pass n = k
      · obtain ⟨text, htext⟩ := Option.isSome_iff_exists.mp hsome
        exact .inr ⟨text, List.mem_filter.mpr
          ⟨Templates.mem_settled.mpr ⟨htext, hend⟩, by simpa using heq⟩⟩
      · exact .inl ⟨hsome, hend, by omega⟩
  problems_eq := by
    show s.problems ++ s.ready.flatMap (fun entry => (interpolate s.known.get? entry.2).2) = _
    rw [List.range_succ, List.flatMap_append, List.flatMap_singleton, ← h.problems_eq,
      ← h.ready_eq hpass]
    congr 1
    exact List.flatMap_congr fun ⟨n, text⟩ hmem => h.sound.problems_of_ready hmem

/-- A pass without anything to settle changes nothing. -/
theorem pass_eq_self (h : s.ready = []) : s.pass = s := by
  have hwaiting : s.waiting = s.pending := by
    refine List.filter_eq_self.mpr fun entry hmem => ?_
    have hnot : entry ∉ s.ready := by simp [h]
    simpa [ready, hmem] using hnot
  unfold Progress.pass settle
  rw [hwaiting, h]
  simp [NameMap.insertAll]

/-- Stopping early is as good as going on. -/
theorem run_eq_iterate (budget : Nat) (s : Progress) :
    Progress.run budget s = Progress.pass^[budget] s := by
  induction budget generalizing s with
  | zero => rfl
  | succ budget ih =>
    unfold Progress.run
    split
    · rename_i hempty
      have hfix : s.pass = s := pass_eq_self (List.isEmpty_iff.mp hempty)
      exact (Function.iterate_fixed hfix (budget + 1)).symm
    · rw [ih, Function.iterate_succ_apply]

theorem atPass_iterate (hpass : t.PassNumbers pass) (k : Nat) :
    AtPass t pass k (Progress.pass^[k] (start t)) := by
  induction k with
  | zero => exact atPass_start t pass
  | succ k ih =>
    rw [Function.iterate_succ_apply']
    exact ih.succ hpass

theorem length_pending_start (t : Templates) : (start t).pending.length = t.texts.length := rfl

theorem atPass_stuck (hpass : t.PassNumbers pass) :
    AtPass t pass t.texts.length (stuck t) := by
  unfold stuck
  rw [run_eq_iterate, length_pending_start]
  exact atPass_iterate hpass t.texts.length

/-- There are fewer pass numbers than settings. -/
theorem passNumber_lt (hpass : t.PassNumbers pass) (h : (n, text) ∈ t.settled) :
    pass n < t.texts.length := by
  obtain ⟨htext, hend⟩ := Templates.mem_settled.mp h
  have hdone : (stuck t).Done n := done_stuck_iff.mpr ⟨by simp [htext], hend⟩
  exact (((atPass_stuck hpass).done_iff n).mp hdone).2.2

open Classical in
theorem pending_stuck (t : Templates) : (stuck t).pending = t.unsettled := by
  rw [(sound_stuck t).pending_eq]
  refine List.filter_congr fun ⟨n, text⟩ hmem => ?_
  have hsome : (t.textOf n).isSome := by simp [Templates.mem_texts.mp hmem]
  rw [Bool.eq_iff_iff, Option.isNone_iff_eq_none, ← not_done_iff, done_stuck_iff,
    decide_eq_true_eq, ← Templates.endless_iff_leadsToCircle]
  simp [hsome]

end Progress

/-- The problems of interpolation: first those of the settings away from the
circles, pass by pass, then those of the settings that are left over. -/
theorem problems_interpolateAll {t : Templates} {pass : String → Nat}
    (hpass : t.PassNumbers pass) :
    (interpolateAll t).problems =
      (t.settled.mergeSort fun a b => pass a.1 ≤ pass b.1).flatMap t.problemsOf ++
        t.unsettled.flatMap t.problemsOf := by
  show (Progress.stuck t).problems ++ (Progress.stuck t).pending.flatMap
    (fun entry => (interpolate (Progress.stuck t).known.get? entry.2).2) = _
  have hleft : (Progress.stuck t).pending.flatMap
      (fun entry => (interpolate (Progress.stuck t).known.get? entry.2).2) =
        t.unsettled.flatMap t.problemsOf := by
    rw [← Progress.pending_stuck]
    exact List.flatMap_congr fun ⟨n, text⟩ hmem => Progress.problems_of_stuck hmem
  rw [hleft, (Progress.atPass_stuck hpass).problems_eq, ← List.flatMap_assoc]
  unfold Templates.layer
  rw [flatMap_filter_rank_eq_mergeSort]
  exact fun ⟨n, text⟩ hmem => Progress.passNumber_lt hpass hmem

open Classical in
/-- Order aside, the problems of interpolation are those of the settings with a text. -/
theorem perm_problems_texts (t : Templates) :
    (interpolateAll t).problems.Perm (t.texts.flatMap t.problemsOf) := by
  rw [problems_interpolateAll t.passNumbers_passNumber, ← List.flatMap_append]
  refine List.Perm.flatMap_right _ (((List.mergeSort_perm _ _).append_right _).trans ?_)
  have hsplit := List.filter_append_perm (fun entry => ¬ t.LeadsToCircle entry.1) t.texts
  simpa [Templates.settled, Templates.unsettled] using hsplit

theorem mem_problems_interpolateAll {t : Templates} {problem : Problem} :
    problem ∈ (interpolateAll t).problems ↔
      ∃ n text ref, t.textOf n = some text ∧ ref ∈ references text ∧ t.Fails n ref ∧
        problem = .unresolved ref text := by
  rw [(perm_problems_texts t).mem_iff, List.mem_flatMap]
  simp only [Prod.exists, Templates.mem_texts, Templates.mem_problemsOf]
  constructor
  · rintro ⟨n, text, htext, ref, href, hfails, rfl⟩
    exact ⟨n, text, ref, htext, href, hfails, rfl⟩
  · rintro ⟨n, text, ref, htext, href, hfails, rfl⟩
    exact ⟨n, text, htext, ref, href, hfails, rfl⟩

end CaSettings
