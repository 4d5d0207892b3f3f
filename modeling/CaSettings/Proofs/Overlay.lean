import CaSettings.Proofs.NameMap
import CaSettings.Resolver

/-!
# Laying overrides over a table

`IsOverlay table overrides t` says what the templates `t` of a table under
overrides are: an override counts for a setting that has one, the default for
every other setting, and names outside the table do not matter.
`Resolver.templates` computes the overlay, and fails iff a default that is
needed has no template (`isOverlay_of_templates`, `templates_isOk_iff`).
-/

namespace CaSettings

/-- `t` holds the settings of a table, in its order, with overrides laid over the defaults. -/
structure IsOverlay (table : DefaultTable) (overrides : Overrides) (t : Templates) : Prop where
  names_eq : t.names = table.names
  overridden : ∀ name ∈ table.names, ∀ value, overrides.get? name = some value →
    t.get? name = some value
  defaulted : ∀ name spec, table.get? name = some spec → overrides.get? name = none →
    ∃ value, spec.template = .ok value ∧ t.get? name = some value

/-- What an overlay holds does not depend on the order of its table. -/
theorem IsOverlay.get?_eq {table table' : DefaultTable} {overrides : Overrides} {t t' : Templates}
    (h : IsOverlay table overrides t) (h' : IsOverlay table' overrides t')
    (htable : ∀ name, table.get? name = table'.get? name) (name : String) :
    t.get? name = t'.get? name := by
  cases hspec : table.get? name with
  | none =>
    have habsent : name ∉ table.names := NameMap.get?_eq_none_iff.mp hspec
    have habsent' : name ∉ table'.names := NameMap.get?_eq_none_iff.mp (htable name ▸ hspec)
    rw [← h.names_eq] at habsent
    rw [← h'.names_eq] at habsent'
    rw [NameMap.get?_eq_none_iff.mpr habsent, NameMap.get?_eq_none_iff.mpr habsent']
  | some spec =>
    have hspec' : table'.get? name = some spec := htable name ▸ hspec
    cases hoverride : overrides.get? name with
    | some value =>
      rw [h.overridden name (NameMap.isSome_get?_iff.mp (by simp [hspec])) value hoverride,
        h'.overridden name (NameMap.isSome_get?_iff.mp (by simp [hspec'])) value hoverride]
    | none =>
      obtain ⟨value, hvalue, hget⟩ := h.defaulted name spec hspec hoverride
      obtain ⟨value', hvalue', hget'⟩ := h'.defaulted name spec hspec' hoverride
      rw [hvalue, Except.ok.injEq] at hvalue'
      rw [hget, hget', hvalue']

namespace Resolver

variable {r : Resolver} {overrides : Overrides} {t : Templates}

/-- The template of one setting under overrides. -/
def overlaid (overrides : Overrides) (name : String) (spec : DefaultSpec) :
    Except Failure (Option String) :=
  match overrides.get? name with
  | some value => .ok value
  | none => spec.template

theorem templates_eq_traverse (r : Resolver) (overrides : Overrides) :
    r.templates overrides = r.table.traverse (overlaid overrides) := rfl

/-- The overlay depends on what overrides say about the settings of the table. -/
theorem templates_congr {overrides' : Overrides}
    (h : ∀ name ∈ r.table.names, overrides.get? name = overrides'.get? name) :
    r.templates overrides = r.templates overrides' := by
  rw [templates_eq_traverse, templates_eq_traverse]
  refine NameMap.traverse_congr fun entry hmem => ?_
  unfold overlaid
  rw [h entry.1 (List.mem_map_of_mem hmem)]

/-- What the overlay binds a setting of the table to. -/
theorem get?_templates (h : r.templates overrides = .ok t) {name : String} {spec : DefaultSpec}
    (hspec : r.table.get? name = some spec) :
    ∃ value, overlaid overrides name spec = .ok value ∧ t.get? name = some value := by
  rw [templates_eq_traverse, NameMap.traverse_eq_ok_iff] at h
  obtain ⟨value, hvalue, hmem⟩ := h.of_mem (NameMap.get?_eq_some_iff.mp hspec)
  exact ⟨value, hvalue, NameMap.get?_eq_some_iff.mpr hmem⟩

theorem isOverlay_of_templates (h : r.templates overrides = .ok t) :
    IsOverlay r.table overrides t where
  names_eq := by
    rw [templates_eq_traverse, NameMap.traverse_eq_ok_iff] at h
    exact h.names
  overridden := by
    intro name hname value hvalue
    obtain ⟨spec, hspec⟩ := Option.isSome_iff_exists.mp (NameMap.isSome_get?_iff.mpr hname)
    obtain ⟨value', hvalue', hget⟩ := get?_templates h hspec
    simp only [overlaid, hvalue, Except.ok.injEq] at hvalue'
    rw [hget, hvalue']
  defaulted := by
    intro name spec hspec hnone
    obtain ⟨value, hvalue, hget⟩ := get?_templates h hspec
    simp only [overlaid, hnone] at hvalue
    exact ⟨value, hvalue, hget⟩

/-- The overlay exists iff every default that is not overridden has a template. -/
theorem templates_isOk_iff :
    (∃ t, r.templates overrides = .ok t) ↔
      ∀ name spec, r.table.get? name = some spec → overrides.get? name = none →
        ∃ value, spec.template = .ok value := by
  constructor
  · rintro ⟨t, h⟩ name spec hspec hnone
    obtain ⟨value, hvalue, _⟩ := (isOverlay_of_templates h).defaulted name spec hspec hnone
    exact ⟨value, hvalue⟩
  · intro hall
    rw [templates_eq_traverse]
    refine NameMap.traverse_isOk fun entry hmem => ?_
    show ∃ value, overlaid overrides entry.1 entry.2 = .ok value
    cases hoverride : overrides.get? entry.1 with
    | some value => exact ⟨value, by simp [overlaid, hoverride]⟩
    | none =>
      obtain ⟨value, hvalue⟩ := hall entry.1 entry.2 (NameMap.get?_eq_some_iff.mpr hmem) hoverride
      exact ⟨value, by simp [overlaid, hoverride, hvalue]⟩

/-- The overlay fails as one of the defaults that are needed does. -/
theorem templates_eq_error {failure : Failure} (h : r.templates overrides = .error failure) :
    ∃ name spec, r.table.get? name = some spec ∧ spec.template = .error failure := by
  rw [templates_eq_traverse] at h
  obtain ⟨⟨name, spec⟩, hmem, herror⟩ := NameMap.traverse_eq_error h
  refine ⟨name, spec, NameMap.get?_eq_some_iff.mpr hmem, ?_⟩
  unfold overlaid at herror
  split at herror
  · cases herror
  · exact herror

end Resolver

end CaSettings
