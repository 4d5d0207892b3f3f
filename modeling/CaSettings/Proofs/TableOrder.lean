import CaSettings.Proofs.FinalForm
import CaSettings.Proofs.Interpolation.PassBudget
import CaSettings.Proofs.Report

/-!
# The order of the table

The settings of a table stand in an order, and the passes, the problems and the
result follow it. What a setting means does not: two overlays with the same
entries in different orders give every name the same value
(`Templates.get?_interpolateAll_of_get?_eq`), find the same problems in some
order (`Templates.perm_problems`) and the same circles.

`resolve_of_perm_table` is that statement for resolving a table of valid defaults
(`DefaultTable.Valid`). Where no overlay exists, the first default that fails
decides the failure, so the failure is the same where the defaults have one reason
to fail (`DefaultTable.FailsAlike`), as those of the default table have
(`failsAlike_defaultTable`), and where they all have answers, so that none fails
(`same_failure_of_perm_table`).
-/

namespace CaSettings

/-! ## Overlays in another order -/

namespace Templates

variable {t t' : Templates} {n : String}

theorem agreeOn_of_get?_eq (h : ∀ n, t.get? n = t'.get? n) : t.AgreeOn t' fun _ => True :=
  .of_textOf_eq fun n => congrArg Option.join (h n)

theorem get?_interpolateAll_of_get?_eq (h : ∀ n, t.get? n = t'.get? n) (n : String) :
    (interpolateAll t).values.get? n = (interpolateAll t').values.get? n :=
  get?_interpolateAll_of_agreeOn (agreeOn_of_get?_eq h) trivial (h n)

theorem leadsToCircle_iff_of_get?_eq (h : ∀ n, t.get? n = t'.get? n) :
    t.LeadsToCircle n ↔ t'.LeadsToCircle n :=
  (agreeOn_of_get?_eq h).leadsToCircle_iff trivial

theorem fails_iff_of_get?_eq (h : ∀ n, t.get? n = t'.get? n) {ref : String} :
    t.Fails n ref ↔ t'.Fails n ref := by
  unfold Fails
  rw [leadsToCircle_iff_of_get?_eq h, h ref, ← NameMap.get?_eq_none_iff, ← NameMap.get?_eq_none_iff,
    h ref]

theorem problemsOf_eq_of_get?_eq (h : ∀ n, t.get? n = t'.get? n) :
    t.problemsOf = t'.problemsOf := by
  funext entry
  unfold problemsOf
  congr 1
  exact List.filter_congr fun ref _ => decide_eq_decide.mpr (fails_iff_of_get?_eq h)

theorem perm_texts (h : ∀ n, t.get? n = t'.get? n) : t.texts.Perm t'.texts :=
  (NameMap.perm_entries_iff.mpr h).filterMap _

/-- The same problems are found, though not in the same order. -/
theorem perm_problems (h : ∀ n, t.get? n = t'.get? n) :
    (interpolateAll t).problems.Perm (interpolateAll t').problems := by
  refine (perm_problems_texts t).trans (.trans ?_ (perm_problems_texts t').symm)
  rw [problemsOf_eq_of_get?_eq h]
  exact (perm_texts h).flatMap_right _

theorem perm_circular (h : ∀ n, t.get? n = t'.get? n) :
    (interpolateAll t).circular.Perm (interpolateAll t').circular :=
  perm_circular_of_endless_iff fun _ => (agreeOn_of_get?_eq h).endless_iff trivial

end Templates

/-! ## Tables in another order -/

/-- A table of valid defaults: every entry is of a known kind. -/
def DefaultTable.Valid (table : DefaultTable) : Prop :=
  ∀ name content, table.get? name ≠ some (.unsupported content)

/-- Where the host has no answer to a default of the table, it is for one reason. -/
def DefaultTable.FailsAlike (table : DefaultTable) : Prop :=
  ∀ name name' failure failure', table.get? name = some (.computed (.error failure)) →
    table.get? name' = some (.computed (.error failure')) → failure = failure'

/-- Every computed default of the table has an answer. -/
def DefaultTable.Answered (table : DefaultTable) : Prop :=
  ∀ name failure, table.get? name ≠ some (.computed (.error failure))

theorem DefaultTable.Answered.failsAlike {table : DefaultTable} (h : table.Answered) :
    table.FailsAlike := by
  intro name _ failure _ hcomputed
  exact absurd hcomputed (h name failure)

theorem valid_defaultTable (hooks : Hooks) : (defaultTable hooks).Valid := by
  intro name content h
  rw [NameMap.get?_eq_some_iff] at h
  simp [defaultTable] at h

/-- One default of the default table can fail. -/
theorem failsAlike_defaultTable (hooks : Hooks) : (defaultTable hooks).FailsAlike := by
  have hconfdir : ∀ name failure, (defaultTable hooks).get? name =
      some (.computed (.error failure)) → hooks.confdir = .error failure := by
    intro name failure h
    rw [NameMap.get?_eq_some_iff] at h
    simp only [defaultTable, List.mem_cons, List.not_mem_nil, Prod.mk.injEq,
      DefaultSpec.computed.injEq, reduceCtorEq, and_false, or_false] at h
    exact h.2.symm
  intro name name' failure failure' h h'
  rw [hconfdir name failure h] at hconfdir
  exact Except.error.inj (hconfdir name' failure' h')

theorem DefaultSpec.template_eq_error {spec : DefaultSpec} {failure : Failure}
    (h : spec.template = .error failure) :
    spec = .computed (.error failure) ∨ ∃ content, spec = .unsupported content := by
  cases spec with
  | literal value => cases h
  | interpolated template => cases h
  | computed answer =>
    cases answer with
    | ok value => cases h
    | error failure' =>
      cases h
      exact .inl rfl
  | unset => cases h
  | unsupported content => exact .inr ⟨content, rfl⟩

namespace Resolver

variable {r r' : Resolver} {overrides : Overrides} {t t' : Templates}

theorem ignored_eq_of_get?_eq (h : ∀ name, r.table.get? name = r'.table.get? name) :
    r.ignored overrides = r'.ignored overrides := by
  unfold ignored NameMap.contains
  simp only [h]

/-- A table whose defaults fail alike has one failure at most, whatever its order. -/
theorem failure_eq_of_get?_eq (hvalid : r.table.Valid) (halike : r.table.FailsAlike)
    (htable : ∀ name, r.table.get? name = r'.table.get? name) {failure failure' : Failure}
    (h : r.templates overrides = .error failure)
    (h' : r'.templates overrides = .error failure') : failure = failure' := by
  obtain ⟨name, spec, hspec, herror⟩ := templates_eq_error h
  obtain ⟨name', spec', hspec', herror'⟩ := templates_eq_error h'
  rw [← htable] at hspec'
  rcases DefaultSpec.template_eq_error herror with rfl | ⟨content, rfl⟩
  · rcases DefaultSpec.template_eq_error herror' with rfl | ⟨content, rfl⟩
    · exact halike name name' failure failure' hspec hspec'
    · exact absurd hspec' (hvalid name' content)
  · exact absurd hspec (hvalid name content)

/-- Overlays exist for both orders of a table, or for none. -/
theorem templates_cases (hvalid : r.table.Valid)
    (htable : ∀ name, r.table.get? name = r'.table.get? name) (overrides : Overrides) :
    (∃ failure failure', r.templates overrides = .error failure ∧
      r'.templates overrides = .error failure' ∧ (r.table.FailsAlike → failure = failure')) ∨
    ∃ t t', r.templates overrides = .ok t ∧ r'.templates overrides = .ok t' ∧
      ∀ name, t.get? name = t'.get? name := by
  have hok : (∃ t, r.templates overrides = .ok t) ↔ ∃ t', r'.templates overrides = .ok t' := by
    simp only [templates_isOk_iff, htable]
  cases ht : r.templates overrides with
  | ok t =>
    obtain ⟨t', ht'⟩ := hok.mp ⟨t, ht⟩
    have hget := (isOverlay_of_templates ht).get?_eq (isOverlay_of_templates ht') htable
    exact .inr ⟨t, t', rfl, ht', hget⟩
  | error failure =>
    cases ht' : r'.templates overrides with
    | ok t' =>
      obtain ⟨t, ht''⟩ := hok.mpr ⟨t', ht'⟩
      rw [ht] at ht''
      cases ht''
    | error failure' =>
      refine .inl ⟨failure, failure', rfl, rfl, ?_⟩
      intro halike
      exact failure_eq_of_get?_eq hvalid halike htable ht ht'

/-- Tables that have the same defaults are resolved alike. -/
theorem resolve_of_get?_eq (r r' : Resolver) (hvalid : r.table.Valid)
    (htable : ∀ name, r.table.get? name = r'.table.get? name) (hname : r.certname = r'.certname)
    (overrides : Overrides) :
    (r.resolve overrides).log = (r'.resolve overrides).log ∧
      ((∃ failure failure', (r.resolve overrides).result = .error failure ∧
        (r'.resolve overrides).result = .error failure' ∧
        (r.table.FailsAlike → failure = failure')) ∨
      ∃ resolution resolution', (r.resolve overrides).result = .ok resolution ∧
        (r'.resolve overrides).result = .ok resolution' ∧
        (∀ name, resolution.settings.get? name = resolution'.settings.get? name) ∧
        resolution.problems.Perm resolution'.problems) := by
  have hignored : r.ignored overrides = r'.ignored overrides := ignored_eq_of_get?_eq htable
  rcases templates_cases hvalid htable overrides with
    ⟨failure, failure', herror, herror', hsame⟩ | ⟨t, t', ht, ht', hget⟩
  · refine ⟨?_, .inl ⟨failure, failure', result_resolve_of_templates_error herror,
      result_resolve_of_templates_error herror', hsame⟩⟩
    rw [log_resolve_of_error herror, log_resolve_of_error herror', hignored]
  · have hvalues := Templates.get?_interpolateAll_of_get?_eq hget
    have htext : t.ttlText = t'.ttlText := congrArg Option.join (hvalues "ca_ttl")
    refine ⟨?_, ?_⟩
    · rw [log_resolve ht, log_resolve ht', hignored,
        sortNames_eq_of_perm (Templates.perm_circular hget)]
    · cases httl : resolveTtl t.ttlText with
      | error failure =>
        refine .inl ⟨failure, failure, ?_, ?_, fun _ => rfl⟩
        · rw [result_resolve_of_templates ht, httl]
          rfl
        · rw [result_resolve_of_templates ht', ← htext, httl]
          rfl
      | ok ttl =>
        refine .inr ⟨_, _, result_resolve_of_resolveTtl ht httl,
          result_resolve_of_resolveTtl ht' (htext ▸ httl), ?_, ?_⟩
        · intro name
          exact get?_finalForm_congr hname hvalues
        · exact (Templates.perm_problems hget).append_right ttl.2

end Resolver

/-- **The order of the table does not matter.** For a table of valid defaults and
any permutation of its entries, resolving leaves the same log. Either it fails for
both, and for the same reason if the defaults fail alike, or it gives every name the
same value and finds the same problems in some order. -/
theorem resolve_of_perm_table (r : Resolver) (table : DefaultTable) (overrides : Overrides)
    (hvalid : r.table.Valid) (hperm : r.table.entries.Perm table.entries) :
    (r.resolve overrides).log = ({ r with table := table }.resolve overrides).log ∧
      ((∃ failure failure', (r.resolve overrides).result = .error failure ∧
        ({ r with table := table }.resolve overrides).result = .error failure' ∧
        (r.table.FailsAlike → failure = failure')) ∨
      ∃ resolution resolution', (r.resolve overrides).result = .ok resolution ∧
        ({ r with table := table }.resolve overrides).result = .ok resolution' ∧
        (∀ name, resolution.settings.get? name = resolution'.settings.get? name) ∧
        resolution.problems.Perm resolution'.problems) := by
  have htable : ∀ name, r.table.get? name = table.get? name := NameMap.perm_entries_iff.mp hperm
  exact Resolver.resolve_of_get?_eq r { r with table := table } hvalid htable rfl overrides

/-- The table of `tangled`, the other way round. -/
def tangledReversed : DefaultTable where
  entries := tangled.table.entries.reverse
  nodup := by decide

theorem resolve_of_perm_table_reversed :
    tangled.table.Valid ∧ tangled.table.entries.Perm tangledReversed.entries ∧
      ∃ resolution resolution', (tangled.resolve tangledOverrides).result = .ok resolution ∧
        ({ tangled with table := tangledReversed }.resolve tangledOverrides).result =
          .ok resolution' ∧
        (∀ name, resolution.settings.get? name = resolution'.settings.get? name) ∧
        resolution.problems.Perm resolution'.problems ∧
        resolution.problems ≠ resolution'.problems := by
  have hvalid : tangled.table.Valid := by
    intro name content h
    rw [NameMap.get?_eq_some_iff] at h
    simp [tangled] at h
  have hperm : tangled.table.entries.Perm tangledReversed.entries := (List.reverse_perm _).symm
  obtain ⟨_, hcases⟩ := resolve_of_perm_table tangled tangledReversed tangledOverrides hvalid hperm
  refine ⟨hvalid, hperm, ?_⟩
  have hrun : (tangled.resolve tangledOverrides).result.map Resolution.problems =
      .ok [.unresolved "void" "$void$gone", .unresolved "gone" "$void$gone",
        .unresolved "self" "$root$self", .unresolved "loop" "$loop!", .unresolved "knot" "$knot/a",
        .unresolved "loop" "$root$loop", .badTtl "90 days"] := by
    rw [Resolver.result_resolve, templates_tangled]
    rfl
  have hrun' : ({ tangled with table := tangledReversed }.resolve tangledOverrides).result.map
      Resolution.problems =
      .ok [.unresolved "void" "$void$gone", .unresolved "gone" "$void$gone",
        .unresolved "self" "$root$self", .unresolved "loop" "$root$loop",
        .unresolved "knot" "$knot/a", .unresolved "loop" "$loop!", .badTtl "90 days"] := by
    rw [Resolver.result_resolve]
    rfl
  rcases hcases with ⟨failure, _, herror, _⟩ | ⟨resolution, resolution', hok, hok', hget, hproblems⟩
  · rw [herror] at hrun
    cases hrun
  · refine ⟨resolution, resolution', hok, hok', hget, hproblems, ?_⟩
    rw [hok] at hrun
    rw [hok'] at hrun'
    have hfirst := Except.ok.inj hrun
    have hsecond := Except.ok.inj hrun'
    rw [hfirst, hsecond]
    decide

/-- Where every computed default has an answer, a failure tells nothing of the order of
the table. -/
theorem same_failure_of_perm_table {r : Resolver} {table : DefaultTable} {overrides : Overrides}
    (hvalid : r.table.Valid) (hanswered : r.table.Answered)
    (hperm : r.table.entries.Perm table.entries) (failure : Failure) :
    (r.resolve overrides).result = .error failure ↔
      ({ r with table := table }.resolve overrides).result = .error failure := by
  have htable : ∀ name, r.table.get? name = table.get? name := NameMap.perm_entries_iff.mp hperm
  obtain ⟨-, hcases⟩ :=
    Resolver.resolve_of_get?_eq r { r with table := table } hvalid htable rfl overrides
  rcases hcases with ⟨first, second, hfirst, hsecond, hsame⟩ | ⟨_, _, hfirst, hsecond, _⟩
  · rw [hfirst, hsecond, hsame hanswered.failsAlike]
  · rw [hfirst, hsecond]
    constructor
    · intro herror
      cases herror
    · intro herror
      cases herror

end CaSettings
