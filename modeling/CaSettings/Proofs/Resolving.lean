import CaSettings.Proofs.Duration
import CaSettings.Proofs.Log
import CaSettings.Proofs.Overlay

/-!
# What resolving comes to

The result of `Resolver.resolve`, put together from its parts: the overlay, its
interpolation, and the final form of the settings (`result_resolve`). Where the
overlay exists, resolving fails on a time to live of more than `maxDigits`
digits and on nothing else (`result_resolve_eq_error_iff`); otherwise
`result_resolve_eq_ok` takes the settings apart. The log tells of the overrides
that are ignored and, once there is an overlay, of the circles in it
(`log_resolve`).
-/

namespace CaSettings

/-- The interpolated text of the time to live, if it has one. -/
def Templates.ttlText (t : Templates) : Option String :=
  ((interpolateAll t).values.get? "ca_ttl").join

/-- No time to live with more digits than are read. -/
def Templates.ShortTtl (t : Templates) : Prop :=
  ∀ text digits unit, t.ttlText = some text → Duration.Spells text digits unit →
    digits.length ≤ maxDigits

/-- The digits that a time to live starts with are the ones that count. -/
theorem Templates.ShortTtl.of_ttlText {t : Templates} (text : String)
    (htext : t.ttlText = some text)
    (hshort : ((Text.trim text.toList).takeWhile Char.isDigit).length ≤ maxDigits) :
    t.ShortTtl := by
  intro other digits unit hother hspells
  rw [htext, Option.some.injEq] at hother
  subst hother
  rwa [← hspells.takeWhile_eq.1]

/-- The time to live, interpolated, is a duration with these digits and this unit. -/
def Resolver.SpellsTtl (r : Resolver) (overrides : Overrides) (digits : List Char)
    (unit : TimeUnit) : Prop :=
  ∃ t text, r.templates overrides = .ok t ∧ t.ttlText = some text ∧
    Duration.Spells text digits unit

open Classical in
/-- The problem of a time to live that is no duration. -/
noncomputable def ttlProblems : Option String → List Problem
  | none => []
  | some text => if Duration.IsDuration text then [] else [.badTtl text]

namespace Resolver

variable {r : Resolver} {overrides : Overrides} {t : Templates}

/-! ## The time to live -/

theorem resolveTtl_of_spells {text : String} {digits : List Char} {unit : TimeUnit}
    (h : Duration.Spells text digits unit) :
    resolveTtl (some text) =
      if maxDigits < digits.length then .error (.tooManyDigits digits.length)
      else .ok (some (decimalValue digits * unit.seconds), []) := by
  simp only [resolveTtl, Duration.parseDuration_of_spells h]
  by_cases hlong : maxDigits < digits.length
  · simp only [if_pos hlong]
  · simp only [if_neg hlong]

theorem resolveTtl_of_not_isDuration {text : String} (h : ¬ Duration.IsDuration text) :
    resolveTtl (some text) = .ok (none, [.badTtl text]) := by
  simp only [resolveTtl, Duration.parseDuration_of_not_isDuration h]

/-- The number that a time to live comes to is the length of the duration that it spells. -/
theorem resolveTtl_eq_some_iff {ttl : Option String} {seconds : Option Nat}
    {problems : List Problem} (h : resolveTtl ttl = .ok (seconds, problems)) {n : Nat} :
    seconds = some n ↔
      ∃ text digits unit, ttl = some text ∧ Duration.Spells text digits unit ∧
        n = decimalValue digits * unit.seconds := by
  cases ttl with
  | none =>
    obtain rfl := (Prod.mk.inj (Except.ok.inj h)).1
    simp
  | some text =>
    by_cases hdur : Duration.IsDuration text
    · obtain ⟨digits, unit, hspells⟩ := hdur
      rw [resolveTtl_of_spells hspells] at h
      split at h
      · cases h
      · obtain rfl := (Prod.mk.inj (Except.ok.inj h)).1
        constructor
        · intro hn
          exact ⟨text, digits, unit, rfl, hspells, (Option.some.inj hn).symm⟩
        · rintro ⟨text', digits', unit', htext, hspells', rfl⟩
          obtain rfl := Option.some.inj htext
          obtain ⟨rfl, rfl⟩ := hspells.unique hspells'
          rfl
    · rw [resolveTtl_of_not_isDuration hdur] at h
      obtain rfl := (Prod.mk.inj (Except.ok.inj h)).1
      constructor
      · intro hn
        cases hn
      · rintro ⟨text', digits, unit, htext, hspells, _⟩
        obtain rfl := Option.some.inj htext
        exact absurd ⟨digits, unit, hspells⟩ hdur

/-- A time to live without too many digits is a number or a problem. -/
theorem resolveTtl_of_short (h : t.ShortTtl) :
    ∃ ttl, resolveTtl t.ttlText = .ok (ttl, ttlProblems t.ttlText) := by
  cases htext : t.ttlText with
  | none => exact ⟨none, rfl⟩
  | some text =>
    by_cases hdur : Duration.IsDuration text
    · obtain ⟨digits, unit, hspells⟩ := hdur
      have hle := h text digits unit htext hspells
      refine ⟨some (decimalValue digits * unit.seconds), ?_⟩
      rw [resolveTtl_of_spells hspells, if_neg (by omega), ttlProblems,
        if_pos ⟨digits, unit, hspells⟩]
    · exact ⟨none, by rw [resolveTtl_of_not_isDuration hdur, ttlProblems, if_neg hdur]⟩

/-- Reading a time to live finds one problem at most. -/
theorem resolveTtl_problems {ttl : Option String} {seconds : Option Nat} {problems : List Problem}
    (h : resolveTtl ttl = .ok (seconds, problems)) :
    problems = [] ∨ ∃ text, problems = [.badTtl text] := by
  cases ttl with
  | none => exact .inl (Prod.mk.inj (Except.ok.inj h)).2.symm
  | some text =>
    by_cases hdur : Duration.IsDuration text
    · obtain ⟨digits, unit, hspells⟩ := hdur
      rw [resolveTtl_of_spells hspells] at h
      split at h
      · cases h
      · exact .inl (Prod.mk.inj (Except.ok.inj h)).2.symm
    · rw [resolveTtl_of_not_isDuration hdur] at h
      exact .inr ⟨text, (Prod.mk.inj (Except.ok.inj h)).2.symm⟩

/-- The overlay is one, so its text is the one that counts. -/
theorem spellsTtl_iff (h : r.templates overrides = .ok t) {digits : List Char} {unit : TimeUnit} :
    r.SpellsTtl overrides digits unit ↔
      ∃ text, t.ttlText = some text ∧ Duration.Spells text digits unit := by
  constructor
  · rintro ⟨t', text, h', htext, hspells⟩
    rw [h, Except.ok.injEq] at h'
    subst h'
    exact ⟨text, htext, hspells⟩
  · rintro ⟨text, htext, hspells⟩
    exact ⟨t, text, h, htext, hspells⟩

theorem SpellsTtl.unique {digits digits' : List Char} {unit unit' : TimeUnit}
    (h : r.SpellsTtl overrides digits unit) (h' : r.SpellsTtl overrides digits' unit') :
    digits = digits' ∧ unit = unit' := by
  obtain ⟨t, text, ht, htext, hspells⟩ := h
  obtain ⟨text', htext', hspells'⟩ := (spellsTtl_iff ht).mp h'
  rw [htext, Option.some.injEq] at htext'
  subst htext'
  exact hspells.unique hspells'

/-! ## The result -/

theorem result_resolve (r : Resolver) (overrides : Overrides) :
    (r.resolve overrides).result =
      (r.templates overrides).bind fun t =>
        (resolveTtl t.ttlText).bind fun ttl =>
          .ok ⟨r.finalForm overrides (interpolateAll t).values ttl.1,
            (interpolateAll t).problems ++ ttl.2⟩ := by
  unfold resolve
  simp only [Traced.result_bind, Traced.result_noteNames, Traced.result_ofExcept,
    Traced.result_pure, Except.bind]
  rfl

/-- Where the overlay exists, the result hangs on reading the time to live. -/
theorem result_resolve_of_templates (h : r.templates overrides = .ok t) :
    (r.resolve overrides).result =
      (resolveTtl t.ttlText).map fun ttl =>
        ⟨r.finalForm overrides (interpolateAll t).values ttl.1,
          (interpolateAll t).problems ++ ttl.2⟩ := by
  rw [result_resolve, h]
  show (resolveTtl t.ttlText).bind _ = _
  cases resolveTtl t.ttlText <;> rfl

theorem result_resolve_of_resolveTtl {ttl : Option Nat} {problems : List Problem}
    (h : r.templates overrides = .ok t) (httl : resolveTtl t.ttlText = .ok (ttl, problems)) :
    (r.resolve overrides).result =
      .ok ⟨r.finalForm overrides (interpolateAll t).values ttl,
        (interpolateAll t).problems ++ problems⟩ := by
  rw [result_resolve_of_templates h, httl]
  rfl

theorem result_resolve_of_templates_error {failure : Failure}
    (h : r.templates overrides = .error failure) :
    (r.resolve overrides).result = .error failure := by
  rw [result_resolve, h]
  rfl

/-- Where the overlay exists, resolving fails only on a time to live with too many digits. -/
theorem result_resolve_of_spells (h : r.templates overrides = .ok t) {text : String}
    {digits : List Char} {unit : TimeUnit} (htext : t.ttlText = some text)
    (hspells : Duration.Spells text digits unit) (hlong : maxDigits < digits.length) :
    (r.resolve overrides).result = .error (.tooManyDigits digits.length) := by
  rw [result_resolve_of_templates h, htext, resolveTtl_of_spells hspells, if_pos hlong]
  rfl

theorem result_resolve_of_short (h : r.templates overrides = .ok t) (hshort : t.ShortTtl) :
    ∃ resolution, (r.resolve overrides).result = .ok resolution ∧
      resolution.problems = (interpolateAll t).problems ++ ttlProblems t.ttlText := by
  obtain ⟨ttl, httl⟩ := resolveTtl_of_short hshort
  exact ⟨_, result_resolve_of_resolveTtl h httl, rfl⟩

/-- Where the overlay exists, resolving fails on too many digits and on nothing else. -/
theorem result_resolve_eq_error_iff (h : r.templates overrides = .ok t) {failure : Failure} :
    (r.resolve overrides).result = .error failure ↔
      ∃ digits unit, r.SpellsTtl overrides digits unit ∧ maxDigits < digits.length ∧
        failure = .tooManyDigits digits.length := by
  constructor
  · intro herror
    by_cases hshort : t.ShortTtl
    · obtain ⟨resolution, hok, _⟩ := result_resolve_of_short h hshort
      rw [hok] at herror
      cases herror
    · simp only [Templates.ShortTtl, not_forall, not_le] at hshort
      obtain ⟨text, digits, unit, htext, hspells, hlong⟩ := hshort
      rw [result_resolve_of_spells h htext hspells hlong] at herror
      exact ⟨digits, unit, ⟨t, text, h, htext, hspells⟩, hlong, (Except.error.inj herror).symm⟩
  · rintro ⟨digits, unit, hspells, hlong, rfl⟩
    obtain ⟨text, htext, hspells⟩ := (spellsTtl_iff h).mp hspells
    exact result_resolve_of_spells h htext hspells hlong

/-- What resolving gives: the final form of the overlay's interpolation, and the
problems of interpolation and of the time to live. -/
theorem result_resolve_eq_ok {resolution : Resolution}
    (h : (r.resolve overrides).result = .ok resolution) :
    ∃ t ttl problems, r.templates overrides = .ok t ∧
      resolveTtl t.ttlText = .ok (ttl, problems) ∧
      resolution.settings = r.finalForm overrides (interpolateAll t).values ttl ∧
      resolution.problems = (interpolateAll t).problems ++ problems := by
  cases ht : r.templates overrides with
  | error failure =>
    rw [result_resolve_of_templates_error ht] at h
    cases h
  | ok t =>
    rw [result_resolve_of_templates ht] at h
    cases httl : resolveTtl t.ttlText with
    | error failure =>
      rw [httl] at h
      cases h
    | ok ttl =>
      rw [httl] at h
      exact ⟨t, ttl.1, ttl.2, rfl, httl, (congrArg Resolution.settings (Except.ok.inj h)).symm,
        (congrArg Resolution.problems (Except.ok.inj h)).symm⟩

/-! ## The log -/

/-- Without an overlay, the log tells of what is ignored. -/
theorem log_resolve_of_error {failure : Failure} (h : r.templates overrides = .error failure) :
    (r.resolve overrides).log =
      (Traced.noteNames "Ignoring unrecognised settings: " (r.ignored overrides)).log := by
  unfold resolve
  rw [Traced.log_bind_of_ok (Traced.result_noteNames _ _),
    Traced.log_bind_of_error ((Traced.result_ofExcept _).trans h), Traced.log_ofExcept,
    List.append_nil]

/-- The log tells of what is ignored, then of what is circular. -/
theorem log_resolve (h : r.templates overrides = .ok t) :
    (r.resolve overrides).log =
      (Traced.noteNames "Ignoring unrecognised settings: " (r.ignored overrides)).log ++
        (Traced.noteNames "Circular references among settings: "
          (sortNames (interpolateAll t).circular)).log := by
  unfold resolve
  rw [Traced.log_bind_of_ok (Traced.result_noteNames _ _),
    Traced.log_bind_of_ok ((Traced.result_ofExcept _).trans h), Traced.log_ofExcept,
    List.nil_append]
  dsimp only
  rw [Traced.log_bind_of_ok (Traced.result_noteNames _ _)]
  -- what is left reads the time to live, and that leaves no record
  cases httl : resolveTtl ((interpolateAll t).values.get? "ca_ttl").join with
  | error failure =>
    rw [Traced.log_bind_of_error (Traced.result_ofExcept _), Traced.log_ofExcept, List.append_nil]
  | ok ttl =>
    rw [Traced.log_bind_of_ok (Traced.result_ofExcept _), Traced.log_ofExcept, List.nil_append,
      Traced.log_pure, List.append_nil]

end Resolver

end CaSettings
