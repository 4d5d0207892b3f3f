import CaSettings.Proofs.FinalForm
import CaSettings.Proofs.Report

/-!
# What a setting depends on

A setting reaches itself, every name that its text refers to, every name that
the text of such a setting refers to, and so on (`Templates.Reaches`). Its value
depends on nothing else: two overlays that agree on what it reaches give it the
same value, whatever they say about other settings
(`resolve_depends_on_reached`).

Left out are the settings whose values other settings decide: the ones that the
server list sets (`server`, `ca_server`, `masterport`, `ca_port`), and
`subject_alt_names`.
-/

namespace CaSettings

namespace Templates

variable {t t' : Templates} {y n : String}

/-- The smallest set of names that holds `y` and, with a setting, every name
that its text refers to. -/
inductive Reaches (t : Templates) (y : String) : String → Prop
  | self : Reaches t y y
  | ref {n text m : String} :
      Reaches t y n → t.textOf n = some text → m ∈ references text → Reaches t y m

/-- What `y` reaches lies in every list that holds `y` and is closed under references. -/
theorem Reaches.mem_of_closed {names : List String} (h : t.Reaches y n) (hy : y ∈ names)
    (hclosed : ∀ n ∈ names, ∀ m ∈ ((t.textOf n).map references).getD [], m ∈ names) :
    n ∈ names := by
  induction h with
  | self => exact hy
  | ref _ htext href ih =>
    refine hclosed _ ih _ ?_
    rw [htext]
    exact href

theorem agreeOn_reaches (h : ∀ n, t.Reaches y n → t.get? n = t'.get? n) :
    t.AgreeOn t' (t.Reaches y) where
  closed := .ref
  textOf_eq := fun hn => congrArg Option.join (h _ hn)

/-- Overlays that agree on what `y` reaches give it the same interpolated value. -/
theorem get?_interpolateAll_of_reaches (h : ∀ n, t.Reaches y n → t.get? n = t'.get? n) :
    (interpolateAll t).values.get? y = (interpolateAll t').values.get? y :=
  get?_interpolateAll_of_agreeOn (agreeOn_reaches h) .self (h y .self)

end Templates

/-- **A setting depends on what it reaches and on nothing else.** Two overrides
whose overlays agree on every name that `y` reaches in the first one, names
without a value included, both resolve, and give `y` the same value. -/
theorem resolve_depends_on_reached (r : Resolver) (overrides overrides' : Overrides)
    (t t' : Templates) (y : String) (h : r.templates overrides = .ok t)
    (h' : r.templates overrides' = .ok t') (hshort : t.ShortTtl) (hshort' : t'.ShortTtl)
    (hmem : y ∈ r.table.names)
    (hy : y ∉ ["server", "ca_server", "masterport", "ca_port", "subject_alt_names"])
    (hagree : ∀ n, t.Reaches y n → t.get? n = t'.get? n) :
    ∃ resolution resolution', (r.resolve overrides).result = .ok resolution ∧
      (r.resolve overrides').result = .ok resolution' ∧
      ∃ value, resolution.settings.get? y = some value ∧
        resolution'.settings.get? y = some value := by
  obtain ⟨ttl, httl⟩ := Resolver.resolveTtl_of_short hshort
  obtain ⟨ttl', httl'⟩ := Resolver.resolveTtl_of_short hshort'
  have hvalue := Templates.get?_interpolateAll_of_reaches hagree
  have hsame : (r.finalForm overrides (interpolateAll t).values ttl).get? y =
      (r.finalForm overrides' (interpolateAll t').values ttl').get? y := by
    rw [Resolver.get?_finalForm_of_undecided hy, Resolver.get?_finalForm_of_undecided hy, hvalue]
    by_cases hname : y = "ca_ttl"
    · -- both runs read the same text
      subst hname
      have htext : t.ttlText = t'.ttlText := congrArg Option.join hvalue
      rw [htext, httl'] at httl
      rw [(Prod.mk.inj (Except.ok.inj httl)).1]
    · rw [if_neg hname, if_neg hname]
  have hsome : ((r.finalForm overrides (interpolateAll t).values ttl).get? y).isSome := by
    refine Resolver.isSome_get?_finalForm hy (isSome_get?_interpolateAll.mpr ?_)
    rw [(Resolver.isOverlay_of_templates h).names_eq]
    exact hmem
  obtain ⟨value, hget⟩ := Option.isSome_iff_exists.mp hsome
  exact ⟨_, _, Resolver.result_resolve_of_resolveTtl h httl,
    Resolver.result_resolve_of_resolveTtl h' httl', value, hget, hsame.symm.trans hget⟩

/-- Overrides that change what `leaf` does not reach: circles, problems and a time. -/
def tangledElsewhere : Overrides :=
  .ofList [("root", some "/opt"), ("loop", none), ("self", some "$leaf$lost"),
    ("void", some "$days"), ("days", some "2d")]

/-- These overrides laid over the table. -/
def tangledElsewhereTemplates : Templates where
  entries := [
    ("tail", some "$loop!"),
    ("loop", none),
    ("knot", some "$root$loop"),
    ("leaf", some "$left:$right"),
    ("left", some "$root/l"),
    ("right", some "$root/r"),
    ("self", some "$leaf$lost"),
    ("lost", some "$void$gone"),
    ("void", some "$days"),
    ("root", some "/opt"),
    ("ca_ttl", some "$days"),
    ("days", some "2d")]

theorem shortTtl_tangledElsewhere : tangledElsewhereTemplates.ShortTtl :=
  .of_ttlText "2d" (by decide +kernel) (by decide)

theorem resolve_depends_on_reached_leaf :
    tangled.templates tangledOverrides = .ok tangledTemplates ∧
      tangled.templates tangledElsewhere = .ok tangledElsewhereTemplates ∧
      (∀ n, tangledTemplates.Reaches "leaf" n →
        tangledTemplates.get? n = tangledElsewhereTemplates.get? n) ∧
      ∃ resolution resolution', (tangled.resolve tangledOverrides).result = .ok resolution ∧
        (tangled.resolve tangledElsewhere).result = .ok resolution' ∧
        resolution.settings.get? "leaf" = resolution'.settings.get? "leaf" := by
  have hagree : ∀ n, tangledTemplates.Reaches "leaf" n →
      tangledTemplates.get? n = tangledElsewhereTemplates.get? n := by
    have hsame : ∀ n ∈ ["leaf", "left", "right", "root"],
        tangledTemplates.get? n = tangledElsewhereTemplates.get? n := by decide
    intro n hn
    exact hsame n (hn.mem_of_closed (by decide) (by decide +kernel))
  have helsewhere : tangled.templates tangledElsewhere = .ok tangledElsewhereTemplates := rfl
  obtain ⟨resolution, resolution', hresult, hresult', value, hvalue, hvalue'⟩ :=
    resolve_depends_on_reached tangled tangledOverrides tangledElsewhere tangledTemplates
      tangledElsewhereTemplates "leaf" templates_tangled helsewhere shortTtl_tangled
      shortTtl_tangledElsewhere (by decide) (by decide) hagree
  exact ⟨templates_tangled, helsewhere, hagree, resolution, resolution', hresult, hresult',
    hvalue.trans hvalue'.symm⟩

end CaSettings
