import CaSettings.Proofs.Interpolation.Agreement
import CaSettings.Proofs.Interpolation.Passes
import CaSettings.Proofs.Overlay

/-!
# What templates mean

The meaning of a table of templates, said without passes: a setting that no
infinite walk starts at means its text interpolated by what the other settings
mean; any other setting means its text as it stands. `Templates.Meaning` states
these equations, and they have one solution (`Meaning.unique`); what it gives a
setting depends on the texts that the setting reaches (`Meaning.eq_of_agreeOn`).

`interpolateAll_computes_meaning` says that the passes compute it.
-/

namespace CaSettings

namespace Templates

variable {t : Templates}

/-- `value` gives every setting what its template means; `none` is no value. -/
structure Meaning (t : Templates) (value : String → Option String) : Prop where
  /-- A name outside the table, or without a text, has no value. -/
  absent : ∀ n, t.textOf n = none → value n = none
  /-- On an infinite walk the text stands for itself. -/
  endless : ∀ n text, t.textOf n = some text → t.Endless n → value n = some text
  /-- Elsewhere the references are replaced by the values of the other settings. -/
  filled : ∀ n text, t.textOf n = some text → ¬ t.Endless n →
    value n = some (interpolate (fun m => if m = n then none else value m) text).1

section Agreement

variable {t t' : Templates} {P : String → Prop} {value value' : String → Option String}

/-- The names that a text looks up outside itself are waited for or have no value. -/
theorem Meaning.interpolate_eq {n text : String} (hagree : t.AgreeOn t' P) (h : t.Meaning value)
    (h' : t'.Meaning value') (hn : P n) (htext : t.textOf n = some text)
    (hwaits : ∀ m ∈ t.waitsFor n, value m = value' m) :
    interpolate (fun m => if m = n then none else value m) text =
      interpolate (fun m => if m = n then none else value' m) text := by
  refine interpolate_congr fun ref href => ?_
  by_cases hne : ref = n
  · rw [if_pos hne, if_pos hne]
  · rw [if_neg hne, if_neg hne]
    have hsame := hagree.textOf_eq (hagree.closed hn htext href)
    cases hsome : t.textOf ref with
    | none => rw [h.absent ref hsome, h'.absent ref (hsame ▸ hsome)]
    | some content =>
      exact hwaits ref ((mem_waitsFor_of_textOf htext).mpr ⟨href, hne, by simp [hsome]⟩)

/-- What a setting means depends on nothing but the texts that agree. -/
theorem Meaning.eq_of_agreeOn (hagree : t.AgreeOn t' P) (h : t.Meaning value)
    (h' : t'.Meaning value') : ∀ n, P n → value n = value' n := by
  have hstep : ∀ n, ¬ t.Endless n → (∀ m ∈ t.waitsFor n, P m → value m = value' m) →
      P n → value n = value' n := by
    intro n hend ih hn
    have htext' := hagree.textOf_eq hn
    cases htext : t.textOf n with
    | none => rw [h.absent n htext, h'.absent n (htext' ▸ htext)]
    | some text =>
      have hwaits : ∀ m ∈ t.waitsFor n, value m = value' m := fun m hm =>
        ih m hm (hagree.of_mem_waitsFor hn hm)
      have hend' : ¬ t'.Endless n := fun hend' => hend ((hagree.endless_iff hn).mpr hend')
      rw [h.filled n text htext hend, h'.filled n text (htext' ▸ htext) hend',
        Meaning.interpolate_eq hagree h h' hn htext hwaits]
  intro n hn
  by_cases hend : t.Endless n
  · obtain ⟨text, htext⟩ := Option.isSome_iff_exists.mp (isSome_textOf_of_endless hend)
    rw [h.endless n text htext hend, h'.endless n text (hagree.textOf_eq hn ▸ htext)
      ((hagree.endless_iff hn).mp hend)]
  · exact induction_waitsFor hstep n hend hn

/-- The equations have at most one solution. -/
theorem Meaning.unique (h : t.Meaning value) (h' : t.Meaning value') : value = value' :=
  funext fun n => Meaning.eq_of_agreeOn (.of_textOf_eq fun _ => rfl) h h' n trivial

end Agreement

/-- A text without a token waits for nothing. -/
theorem not_endless_of_tokenless {n text : String}
    (htext : t.textOf n = some text) (hlit : Tokenless text.toList) : ¬ t.Endless n := by
  intro hend
  obtain ⟨m, hm, _⟩ := endless_iff_exists.mp hend
  have href := ((mem_waitsFor_of_textOf htext).mp hm).1
  simp [references_eq_nil_iff.mpr hlit] at href

/-- A text with a reference to itself, to a name outside the table or to a
setting without a value means itself. -/
theorem Meaning.eq_text_of_unresolved {value : String → Option String} {n text ref : String}
    (h : t.Meaning value) (htext : t.textOf n = some text) (href : ref ∈ references text)
    (hfail : ref = n ∨ t.textOf ref = none) : value n = some text := by
  by_cases hend : t.Endless n
  · exact h.endless n text htext hend
  · rw [h.filled n text htext hend, interpolate_of_unresolved href]
    rcases hfail with hself | hnone
    · exact if_pos hself
    · rw [h.absent ref hnone, ite_self]

end Templates

namespace Progress

variable {t : Templates} {n text : String}

/-! ## The last step -/

theorem mem_pending_stuck :
    (n, text) ∈ (stuck t).pending ↔ t.textOf n = some text ∧ t.Endless n := by
  rw [(sound_stuck t).mem_pending, done_stuck_iff, not_and, not_not]
  refine and_congr_right fun htext => ?_
  simp [htext]

/-- What is left over keeps its text: it refers to something else that is left over. -/
theorem get?_known_finish_of_endless (htext : t.textOf n = some text) (hend : t.Endless n) :
    (stuck t).finish.known.get? n = some text := by
  have hs := sound_stuck t
  have hlookup := (NameMap.lookup_eq_some_iff_mem hs.nodup_pending).mpr
    (mem_pending_stuck.mpr ⟨htext, hend⟩)
  obtain ⟨m, hm, hend'⟩ := Templates.endless_iff_exists.mp hend
  have href : m ∈ references text := ((Templates.mem_waitsFor_of_textOf htext).mp hm).1
  have hnone : (stuck t).known.get? m = none := by
    rw [← not_done_iff, done_stuck_iff]
    exact fun hdone => hdone.2 hend'
  unfold finish
  rw [get?_known_settle hs.nodup_pending, hlookup, Option.map_some,
    interpolate_of_unresolved href hnone]
  rfl

theorem get?_known_finish_of_not_endless (hend : ¬ t.Endless n) :
    (stuck t).finish.known.get? n = (stuck t).known.get? n := by
  have hs := sound_stuck t
  have hlookup : (stuck t).pending.lookup n = none := by
    by_contra hpending
    obtain ⟨text, htext⟩ := Option.ne_none_iff_exists'.mp hpending
    exact hend (mem_pending_stuck.mp
      ((NameMap.lookup_eq_some_iff_mem hs.nodup_pending).mp htext)).2
  unfold finish
  rw [get?_known_settle hs.nodup_pending, hlookup]
  rfl

/-- The values after the last step are what the templates mean. -/
theorem meaning_finish (t : Templates) : t.Meaning (stuck t).finish.known.get? where
  absent := by
    intro n hnone
    have hend : ¬ t.Endless n := Templates.not_endless_of_textOf_eq_none hnone
    rw [get?_known_finish_of_not_endless hend, ← not_done_iff, done_stuck_iff]
    simp [hnone]
  endless := fun n text => get?_known_finish_of_endless
  filled := by
    intro n text htext hend
    have hs := sound_stuck t
    have hdone : (stuck t).Done n := done_stuck_iff.mpr ⟨by simp [htext], hend⟩
    rw [get?_known_finish_of_not_endless hend, hs.value_eq n text htext hdone]
    congr 2
    refine interpolate_congr fun ref href => ?_
    unfold others
    by_cases hne : ref = n
    · rw [if_pos hne, if_pos hne]
    · rw [if_neg hne, if_neg hne, get?_known_finish_of_not_endless]
      -- a reference on an infinite walk would put `n` on one
      intro hend'
      exact hend (Templates.endless_iff_exists.mpr ⟨ref,
        (Templates.mem_waitsFor_of_textOf htext).mpr
          ⟨href, hne, Templates.isSome_textOf_of_endless hend'⟩, hend'⟩)

end Progress

/-! ## Interpolation computes the meaning -/

theorem values_interpolateAll (t : Templates) :
    (interpolateAll t).values =
      t.map fun n _ => (Progress.stuck t).finish.known.get? n := rfl

theorem join_get?_interpolateAll (t : Templates) (n : String) :
    ((interpolateAll t).values.get? n).join = (Progress.stuck t).finish.known.get? n := by
  rw [values_interpolateAll, NameMap.get?_map]
  cases hget : t.get? n with
  | none =>
    rw [(Progress.meaning_finish t).absent n (by simp [Templates.textOf, hget])]
    rfl
  | some value => rfl

/-- The values that interpolation gives are what the templates mean. -/
theorem meaning_interpolateAll (t : Templates) :
    t.Meaning fun n => ((interpolateAll t).values.get? n).join := by
  have hknown : (fun n => ((interpolateAll t).values.get? n).join) =
      (Progress.stuck t).finish.known.get? := funext (join_get?_interpolateAll t)
  rw [hknown]
  exact Progress.meaning_finish t

/-- Every setting of the table has an entry, with or without a value. -/
theorem isSome_get?_interpolateAll {t : Templates} {n : String} :
    ((interpolateAll t).values.get? n).isSome ↔ n ∈ t.names := by
  rw [values_interpolateAll, NameMap.get?_map, Option.isSome_map, NameMap.isSome_get?_iff]

/-- Tables that agree where a setting reaches give it the same value. -/
theorem get?_interpolateAll_of_agreeOn {t t' : Templates} {P : String → Prop} {n : String}
    (hagree : t.AgreeOn t' P) (hn : P n) (hget : t.get? n = t'.get? n) :
    (interpolateAll t).values.get? n = (interpolateAll t').values.get? n := by
  have hknown := Templates.Meaning.eq_of_agreeOn hagree (Progress.meaning_finish t)
    (Progress.meaning_finish t') n hn
  rw [values_interpolateAll, values_interpolateAll, NameMap.get?_map, NameMap.get?_map, hget,
    hknown]

/-- A text that refers to nothing is its own value. -/
theorem get?_interpolateAll_of_tokenless {t : Templates} {n text : String}
    (htext : t.textOf n = some text) (hlit : Tokenless text.toList) :
    (interpolateAll t).values.get? n = some (some text) := by
  have hget := Templates.textOf_eq_some_iff.mp htext
  have hend : ¬ t.Endless n := Templates.not_endless_of_tokenless htext hlit
  rw [values_interpolateAll, NameMap.get?_map, hget,
    Option.map_some, (Progress.meaning_finish t).filled n text htext hend,
    interpolate_of_tokenless hlit]

/-- A text without a dollar sign is its own value. -/
theorem get?_interpolateAll_of_notMem {t : Templates} {n text : String}
    (htext : t.textOf n = some text) (hlit : '$' ∉ text.toList) :
    (interpolateAll t).values.get? n = some (some text) :=
  get?_interpolateAll_of_tokenless htext (tokenless_of_notMem hlit)

/-- **The passes compute what the templates mean.** The templates of a table
under overrides are the overlay; the equations of their meaning have exactly
one solution; and interpolation binds every setting of the table, in order, to
it. A text that refers to itself, to a name outside the table or to a setting
without a value is left as it stands. -/
theorem interpolateAll_computes_meaning (r : Resolver) (overrides : Overrides) (t : Templates)
    (h : r.templates overrides = .ok t) :
    IsOverlay r.table overrides t ∧ (∃! value, t.Meaning value) ∧
      ∀ value, t.Meaning value →
        (interpolateAll t).values = t.map (fun n _ => value n) ∧
        ∀ n text, t.textOf n = some text →
          (∃ ref ∈ references text, ref = n ∨ t.textOf ref = none) → value n = some text := by
  have hmeaning := Progress.meaning_finish t
  refine ⟨Resolver.isOverlay_of_templates h, ⟨_, hmeaning, fun value hvalue =>
    hvalue.unique hmeaning⟩, ?_⟩
  intro value hvalue
  refine ⟨?_, ?_⟩
  · rw [values_interpolateAll, hvalue.unique hmeaning]
  · rintro n text htext ⟨ref, href, hfail⟩
    exact hvalue.eq_text_of_unresolved htext href hfail

/-! ### A table with everything in it -/

/-- A table with a chain, a fork that joins again, a reference to itself,
references without a value, a circle, and a setting that leads to the circle. -/
def tangled : Resolver where
  table.entries := [
    ("tail", .interpolated "$loop!"),
    ("loop", .interpolated "$knot/a"),
    ("knot", .interpolated "$root$loop"),
    ("leaf", .interpolated "$left:$right"),
    ("left", .interpolated "$root/l"),
    ("right", .interpolated "$root/r"),
    ("self", .interpolated "$root$self"),
    ("lost", .interpolated "$void$gone"),
    ("void", .unset),
    ("root", .literal "/srv"),
    ("ca_ttl", .interpolated "$days"),
    ("days", .literal "1d")]
  certname := "host"

/-- Overrides of two settings of the table, and of a name outside it. -/
def tangledOverrides : Overrides :=
  .ofList [("root", some "/opt"), ("stray", none), ("days", some "90 days")]

/-- The overrides laid over the table. -/
def tangledTemplates : Templates where
  entries := [
    ("tail", some "$loop!"),
    ("loop", some "$knot/a"),
    ("knot", some "$root$loop"),
    ("leaf", some "$left:$right"),
    ("left", some "$root/l"),
    ("right", some "$root/r"),
    ("self", some "$root$self"),
    ("lost", some "$void$gone"),
    ("void", none),
    ("root", some "/opt"),
    ("ca_ttl", some "$days"),
    ("days", some "90 days")]

theorem templates_tangled : tangled.templates tangledOverrides = .ok tangledTemplates := rfl

theorem interpolateAll_computes_meaning_tangled :
    tangled.templates tangledOverrides = .ok tangledTemplates ∧
      ∀ value, tangledTemplates.Meaning value →
        (tangledTemplates.map fun n _ => value n).entries.map Prod.snd =
          [some "$loop!", some "$knot/a", some "$root$loop", some "/opt/l:/opt/r",
            some "/opt/l", some "/opt/r", some "$root$self", some "$void$gone", none,
            some "/opt", some "90 days", some "90 days"] := by
  refine ⟨templates_tangled, fun value hvalue => ?_⟩
  obtain ⟨_, _, hall⟩ := interpolateAll_computes_meaning tangled tangledOverrides
    tangledTemplates templates_tangled
  rw [← (hall value hvalue).1]
  decide +kernel

end CaSettings
