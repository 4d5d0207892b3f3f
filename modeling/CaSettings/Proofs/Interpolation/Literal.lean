import CaSettings.Proofs.Interpolation.Layered
import CaSettings.Proofs.Interpolation.PassBudget

/-!
# Giving a setting a literal text

What changes when one setting gets a text without a token, `t.withText n v`.
As long as no infinite walk starts at `n`, the walks from the other settings stay what
they are (`endless_withText_iff`); and the references that fail stay what they are, but
for those to `n` (`fails_withText_iff`). So the problems are those of before less the
ones about `n` (`perm_problems_withText`).

A setting whose value holds no token (`IsLiteral`) is away from the circles, and the
values of the settings that it refers to hold no token either
(`Meaning.isLiteral_of_mem_references`). So it met no problem, and
`interpolateAll_withText_value` says that its value may take the place of its text.
-/

namespace CaSettings

/-- The name without a value that a problem is about. -/
def Problem.missing? : Problem → Option String
  | .unresolved name _ => some name
  | .badTtl _ => none

namespace Templates

variable {t : Templates} {n m ref v text : String} {value : String → Option String}

/-! ## One text in another's place -/

/-- The table in which `n` has the text `v`. -/
def withText (t : Templates) (n v : String) : Templates := t.insert n (some v)

@[simp] theorem get?_withText (t : Templates) (n v m : String) :
    (t.withText n v).get? m = if m = n then some (some v) else t.get? m :=
  NameMap.get?_insert t n (some v) m

theorem textOf_withText (t : Templates) (n v m : String) :
    (t.withText n v).textOf m = if m = n then some v else t.textOf m := by
  unfold textOf
  rw [get?_withText]
  split <;> rfl

@[simp] theorem textOf_withText_self (t : Templates) (n v : String) :
    (t.withText n v).textOf n = some v := by
  rw [textOf_withText, if_pos rfl]

theorem textOf_withText_of_ne (h : m ≠ n) : (t.withText n v).textOf m = t.textOf m := by
  rw [textOf_withText, if_neg h]

theorem not_endless_withText_self (hlit : Tokenless v.toList) :
    ¬ (t.withText n v).Endless n :=
  not_endless_of_tokenless (textOf_withText_self t n v) hlit

/-- Whether one of the other settings waits for another one is as before. -/
theorem mem_waitsFor_withText (hm : m ≠ n) (href : ref ≠ n) :
    ref ∈ (t.withText n v).waitsFor m ↔ ref ∈ t.waitsFor m := by
  rw [mem_waitsFor, mem_waitsFor, textOf_withText_of_ne hm, textOf_withText_of_ne href]

/-- A walk that never comes to `n` is one of every table that waits alike elsewhere. -/
theorem endless_of_waitsFor {t t' : Templates}
    (hwaits : ∀ a b, a ≠ n → b ≠ n → b ∈ t.waitsFor a → b ∈ t'.waitsFor a)
    (hn : ¬ t.Endless n) (hm : t.Endless m) : t'.Endless m := by
  refine endless_of_closed (P := t.Endless) (fun a ha => ?_) hm
  obtain ⟨b, hb, hendb⟩ := endless_iff_exists.mp ha
  have hne : a ≠ n := fun heq => hn (heq ▸ ha)
  have hne' : b ≠ n := fun heq => hn (heq ▸ hendb)
  exact ⟨b, hwaits a b hne hne' hb, hendb⟩

/-- No infinite walk goes through `n`, so the walks are those of before. -/
theorem endless_withText_iff (hlit : Tokenless v.toList) (hend : ¬ t.Endless n) :
    (t.withText n v).Endless m ↔ t.Endless m := by
  constructor
  · exact endless_of_waitsFor (fun a b ha hb => (mem_waitsFor_withText ha hb).mp)
      (not_endless_withText_self hlit)
  · exact endless_of_waitsFor (fun a b ha hb => (mem_waitsFor_withText ha hb).mpr) hend

/-- References to `n` itself resolve now; all others fail or resolve as before. -/
theorem fails_withText_iff (hlit : Tokenless v.toList) (hend : ¬ t.Endless n) (hm : m ≠ n) :
    (t.withText n v).Fails m ref ↔ t.Fails m ref ∧ ref ≠ n := by
  rw [fails_iff, fails_iff, endless_withText_iff hlit hend, textOf_withText]
  by_cases href : ref = n
  · subst href
    simp [hm.symm, hend]
  · simp [href]

/-! ## The problems -/

/-- The settings with a text: `n`, and the others as before. -/
theorem perm_texts_withText (t : Templates) (n v : String) :
    (t.withText n v).texts.Perm ((n, v) :: t.texts.filter fun entry => entry.1 ≠ n) := by
  have hnodup : ((n, v) :: t.texts.filter fun entry => entry.1 ≠ n).Nodup := by
    refine List.nodup_cons.mpr ⟨by simp, (List.Nodup.of_map _ t.nodup_texts).filter _⟩
  refine (List.perm_ext_iff_of_nodup (List.Nodup.of_map _ (nodup_texts _)) hnodup).mpr ?_
  rintro ⟨m, text⟩
  rw [mem_texts, textOf_withText, List.mem_cons, List.mem_filter, mem_texts]
  by_cases hm : m = n
  · simp [hm, eq_comm]
  · simp [hm]

open Classical in
/-- Another setting has the problems of before that are not about `n`. -/
theorem problemsOf_withText (hlit : Tokenless v.toList) (hend : ¬ t.Endless n) (hm : m ≠ n) :
    (t.withText n v).problemsOf (m, text) =
      (t.problemsOf (m, text)).filter fun problem => problem.missing? ≠ some n := by
  unfold problemsOf
  rw [List.filter_map, List.filter_filter]
  congr 1
  refine List.filter_congr fun ref _ => ?_
  rw [Bool.eq_iff_iff, decide_eq_true_eq, fails_withText_iff hlit hend hm]
  simp [Problem.missing?, and_comm]

/-- A text without a token has no problems. -/
theorem problemsOf_eq_nil_of_tokenless (hlit : Tokenless text.toList) :
    t.problemsOf (n, text) = [] := by
  simp [problemsOf, references_eq_nil_iff.mpr hlit]

/-- Leaving `n` out of some settings, their problems are those of before that are not about
`n`, if `n` had none itself. -/
theorem flatMap_problemsOf_withText (hlit : Tokenless v.toList) (hend : ¬ t.Endless n)
    {entries : List (String × String)}
    (hown : ∀ text, (n, text) ∈ entries → t.problemsOf (n, text) = []) :
    (entries.filter fun entry => entry.1 ≠ n).flatMap (t.withText n v).problemsOf =
      (entries.flatMap t.problemsOf).filter fun problem => problem.missing? ≠ some n := by
  induction entries with
  | nil => rfl
  | cons entry rest ih =>
    obtain ⟨m, text⟩ := entry
    rw [List.flatMap_cons, List.filter_append,
      ← ih fun text hmem => hown text (List.mem_cons_of_mem _ hmem)]
    by_cases hm : m = n
    · subst hm
      rw [List.filter_cons_of_neg (by simp), hown text List.mem_cons_self]
      rfl
    · rw [List.filter_cons_of_pos (by simpa using hm), List.flatMap_cons,
        problemsOf_withText hlit hend hm]

/-- The problems about `n` go, and no others come. -/
theorem perm_problems_withText (hlit : Tokenless v.toList) (hend : ¬ t.Endless n)
    (hown : ∀ text, t.textOf n = some text → t.problemsOf (n, text) = []) :
    (interpolateAll (t.withText n v)).problems.Perm
      ((interpolateAll t).problems.filter fun problem => problem.missing? ≠ some n) := by
  have htexts : (t.withText n v).texts.flatMap (t.withText n v).problemsOf |>.Perm
      ((t.texts.flatMap t.problemsOf).filter fun problem => problem.missing? ≠ some n) := by
    refine ((perm_texts_withText t n v).flatMap_right _).trans (.of_eq ?_)
    rw [List.flatMap_cons, problemsOf_eq_nil_of_tokenless hlit, List.nil_append,
      flatMap_problemsOf_withText hlit hend fun text hmem => hown text (mem_texts.mp hmem)]
  exact (perm_problems_texts _).trans (htexts.trans ((perm_problems_texts t).filter _).symm)

/-! ## Values without tokens -/

/-- The value of `n` is a text without a token. -/
def IsLiteral (value : String → Option String) (n : String) : Prop :=
  ∃ content, value n = some content ∧ Tokenless content.toList

/-- On an infinite walk the text stands for itself, and it holds the token of the next setting. -/
theorem Meaning.not_endless_of_isLiteral (h : t.Meaning value) (hn : IsLiteral value n) :
    ¬ t.Endless n := by
  intro hend
  obtain ⟨text, htext⟩ := Option.isSome_iff_exists.mp (isSome_textOf_of_endless hend)
  obtain ⟨content, hcontent, hlit⟩ := hn
  rw [h.endless n text htext hend, Option.some.injEq] at hcontent
  subst hcontent
  exact not_endless_of_tokenless htext hlit hend

/-- A value without a token comes from references to other values without one. -/
theorem Meaning.isLiteral_of_mem_references (h : t.Meaning value) (hn : IsLiteral value n)
    (htext : t.textOf n = some text) (href : ref ∈ references text) :
    ref ≠ n ∧ IsLiteral value ref := by
  have hend := h.not_endless_of_isLiteral hn
  obtain ⟨content, hcontent, hlit⟩ := hn
  rw [h.filled n text htext hend, Option.some.injEq] at hcontent
  subst hcontent
  obtain ⟨content, hcontent, hlit⟩ := exists_of_tokenless_interpolate hlit href
  by_cases hne : ref = n
  · rw [if_pos hne] at hcontent
    cases hcontent
  · rw [if_neg hne] at hcontent
    exact ⟨hne, content, hcontent, hlit⟩

/-- A reference to a setting whose value holds no token resolves. -/
theorem Meaning.not_fails_of_isLiteral (h : t.Meaning value) (hlit : IsLiteral value ref)
    (htext : t.textOf n = some text) (href : ref ∈ references text) : ¬ t.Fails n ref := by
  rw [fails_iff]
  rintro (rfl | hnone | hend)
  · exact (h.isLiteral_of_mem_references hlit htext href).1 rfl
  · obtain ⟨content, hcontent, _⟩ := hlit
    rw [h.absent ref hnone] at hcontent
    cases hcontent
  · exact h.not_endless_of_isLiteral hlit hend

/-- A setting whose value holds no token met no problem. -/
theorem Meaning.problemsOf_eq_nil_of_isLiteral (h : t.Meaning value) (hn : IsLiteral value n)
    (htext : t.textOf n = some text) : t.problemsOf (n, text) = [] := by
  refine List.eq_nil_iff_forall_not_mem.mpr fun problem hmem => ?_
  obtain ⟨ref, href, hfails, _⟩ := mem_problemsOf.mp hmem
  have hlit := (h.isLiteral_of_mem_references hn htext href).2
  exact h.not_fails_of_isLiteral hlit htext href hfails

/-- No problem is about a setting whose value holds no token. -/
theorem Meaning.missing?_ne_of_isLiteral (h : t.Meaning value) (hn : IsLiteral value n)
    {problem : Problem} (hmem : problem ∈ (interpolateAll t).problems) :
    problem.missing? ≠ some n := by
  obtain ⟨m, text, ref, htext, href, hfails, rfl⟩ := mem_problems_interpolateAll.mp hmem
  have hne : ref ≠ n := by
    rintro rfl
    exact h.not_fails_of_isLiteral hn htext href hfails
  simpa [Problem.missing?] using hne

/-- A setting whose value holds no token may get any text without one: no problem was
about it, so none goes. -/
theorem Meaning.perm_problems_withText (h : t.Meaning value) (hn : IsLiteral value n)
    (hlit : Tokenless v.toList) :
    (interpolateAll (t.withText n v)).problems.Perm (interpolateAll t).problems := by
  have hperm := Templates.perm_problems_withText hlit (h.not_endless_of_isLiteral hn)
    fun text htext => h.problemsOf_eq_nil_of_isLiteral hn htext
  refine hperm.trans (.of_eq (List.filter_eq_self.mpr fun problem hmem => ?_))
  simpa using h.missing?_ne_of_isLiteral hn hmem

/-- The meaning stays when a setting gets its value as its text. -/
theorem Meaning.withText (h : t.Meaning value) (hvalue : value n = some v)
    (hlit : Tokenless v.toList) : (t.withText n v).Meaning value := by
  have hend : ¬ t.Endless n := h.not_endless_of_isLiteral ⟨v, hvalue, hlit⟩
  constructor
  case absent =>
    intro m hnone
    have hm : m ≠ n := by
      rintro rfl
      simp at hnone
    exact h.absent m (textOf_withText_of_ne hm ▸ hnone)
  case endless =>
    intro m text htext hend'
    have hm : m ≠ n := by
      rintro rfl
      exact not_endless_withText_self hlit hend'
    exact h.endless m text (textOf_withText_of_ne hm ▸ htext)
      ((endless_withText_iff hlit hend).mp hend')
  case filled =>
    intro m text htext hend'
    by_cases hm : m = n
    · subst hm
      obtain rfl := Option.some.inj ((textOf_withText_self t m v).symm.trans htext)
      rw [interpolate_of_tokenless hlit, hvalue]
    · exact h.filled m text (textOf_withText_of_ne hm ▸ htext)
        fun hend'' => hend' ((endless_withText_iff hlit hend).mpr hend'')

end Templates

/-- **A setting may be given its value as its text.** If the value of a setting holds no
token, then nothing changes when the value takes the place of the text that it came
from: every setting has the same value, in the same order; the same problems are found,
in some order; and the same settings lead to circles. -/
theorem interpolateAll_withText_value (t : Templates) (n v : String)
    (hvalue : (interpolateAll t).values.get? n = some (some v)) (hlit : Tokenless v.toList) :
    (interpolateAll (t.withText n v)).values = (interpolateAll t).values ∧
      (interpolateAll (t.withText n v)).problems.Perm (interpolateAll t).problems ∧
      (interpolateAll (t.withText n v)).circular.Perm (interpolateAll t).circular := by
  have hmeaning := Progress.meaning_finish t
  have hknown : (Progress.stuck t).finish.known.get? n = some v := by
    rw [← join_get?_interpolateAll, hvalue]
    rfl
  have hliteral : Templates.IsLiteral (Progress.stuck t).finish.known.get? n := ⟨v, hknown, hlit⟩
  have hend : ¬ t.Endless n := hmeaning.not_endless_of_isLiteral hliteral
  refine ⟨?_, hmeaning.perm_problems_withText hliteral hlit, ?_⟩
  · have hnames : (t.withText n v).names = t.names :=
      NameMap.names_insert_of_mem (isSome_get?_interpolateAll.mp (by simp [hvalue])) _
    rw [values_interpolateAll, values_interpolateAll,
      (Progress.meaning_finish _).unique (hmeaning.withText hknown hlit)]
    exact NameMap.map_eq_of_names _ hnames
  · exact perm_circular_of_endless_iff fun m => Templates.endless_withText_iff hlit hend

theorem interpolateAll_withText_value_leaf :
    (interpolateAll tangledTemplates).values.get? "leaf" = some (some "/opt/l:/opt/r") ∧
      Tokenless "/opt/l:/opt/r".toList ∧
      (interpolateAll (tangledTemplates.withText "leaf" "/opt/l:/opt/r")).values =
        (interpolateAll tangledTemplates).values ∧
      (interpolateAll (tangledTemplates.withText "leaf" "/opt/l:/opt/r")).problems.Perm
        (interpolateAll tangledTemplates).problems := by
  have hvalue : (interpolateAll tangledTemplates).values.get? "leaf" =
      some (some "/opt/l:/opt/r") := by decide +kernel
  have hlit : Tokenless "/opt/l:/opt/r".toList := tokenless_of_notMem (by decide)
  obtain ⟨hvalues, hproblems, _⟩ :=
    interpolateAll_withText_value tangledTemplates "leaf" "/opt/l:/opt/r" hvalue hlit
  exact ⟨hvalue, hlit, hvalues, hproblems⟩

end CaSettings
