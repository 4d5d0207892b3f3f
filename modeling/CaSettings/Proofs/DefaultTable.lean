import CaSettings.Proofs.Interpolation.Layered
import CaSettings.Proofs.Transforms

/-!
# Settings follow their defaults

The default table has chains of references: the certificate lies in the directory
of the certificate authority, which lies in the one for certificates, and so on.
A setting *follows* a template (`Settings.Follows`) if it holds the template with
every reference replaced by what the setting referred to holds.

* **`IsDefault`** says what the table holds, by kinds of defaults;
* every reference of a template leads to a setting that has a default, on a lower
  level (`tableLevel`), and overrides without references of their own keep it so
  (`PlainInput.layered`);
* interpolation makes the settings follow their templates, and the server list
  changes both sides of the two templates that refer to what it changes
  (`defaults_stay_consistent`).
-/

namespace CaSettings

/-! ## What the table holds -/

/-- The text of a fixed default. -/
def DefaultSpec.literal? : DefaultSpec → Option String
  | .literal text => some text
  | _ => none

/-- The template of a default over other settings. -/
def DefaultSpec.interpolated? : DefaultSpec → Option String
  | .interpolated template => some template
  | _ => none

/-- A default that is neither. -/
def DefaultSpec.other? : DefaultSpec → Option DefaultSpec
  | .literal _ | .interpolated _ => none
  | spec => some spec

theorem DefaultSpec.literal?_eq_some_iff {text : String} {spec : DefaultSpec} :
    spec.literal? = some text ↔ spec = .literal text := by
  cases spec <;> simp [literal?]

theorem DefaultSpec.interpolated?_eq_some_iff {template : String} {spec : DefaultSpec} :
    spec.interpolated? = some template ↔ spec = .interpolated template := by
  cases spec <;> simp [interpolated?]

theorem DefaultSpec.template_eq_none_iff {spec : DefaultSpec} :
    spec.template = .ok none ↔ spec = .unset := by
  cases spec with
  | computed answer => cases answer <;> simp [template, Except.map]
  | _ => simp [template]

namespace DefaultTable

variable {α : Type} {name : String}

/-- The entries of a table that `pick` takes something from. -/
def collect (table : DefaultTable) (pick : DefaultSpec → Option α) : List (String × α) :=
  table.entries.filterMap fun entry => (pick entry.2).map (entry.1, ·)

theorem mem_collect (table : DefaultTable) {pick : DefaultSpec → Option α} {picked : α} :
    (name, picked) ∈ table.collect pick ↔
      ∃ spec, table.get? name = some spec ∧ pick spec = some picked := by
  unfold collect
  rw [List.mem_filterMap]
  constructor
  · rintro ⟨⟨name', spec⟩, hmem, hpick⟩
    obtain ⟨picked', hpicked, heq⟩ := Option.map_eq_some_iff.mp hpick
    obtain ⟨rfl, rfl⟩ := Prod.mk.inj heq
    exact ⟨spec, NameMap.get?_eq_some_iff.mpr hmem, hpicked⟩
  · rintro ⟨spec, hget, hpick⟩
    exact ⟨(name, spec), NameMap.get?_eq_some_iff.mp hget, by rw [hpick]; rfl⟩

/-- Where `pick` takes something from one default only, the entry has that default. -/
theorem mem_collect_of_iff (table : DefaultTable) {pick : DefaultSpec → Option α} {picked : α}
    {spec : DefaultSpec} (h : ∀ other, pick other = some picked ↔ other = spec) :
    (name, picked) ∈ table.collect pick ↔ table.get? name = some spec := by
  rw [mem_collect]
  simp only [h, exists_eq_right]

end DefaultTable

/-- The fixed texts of the default table. They are the same on every host. -/
def literalDefaults : List (String × String) :=
  (defaultTable ⟨"", .ok ""⟩).collect DefaultSpec.literal?

/-- The templates of the default table. They are the same on every host. -/
def interpolatedDefaults : List (String × String) :=
  (defaultTable ⟨"", .ok ""⟩).collect DefaultSpec.interpolated?

/-- The defaults on a host. -/
inductive IsDefault (hooks : Hooks) : String → DefaultSpec → Prop
  | confdir : IsDefault hooks "confdir" (.computed hooks.confdir)
  | vardir : IsDefault hooks "vardir" .unset
  | certname : IsDefault hooks "certname" (.computed (.ok hooks.certname))
  | literal {name text : String} :
      (name, text) ∈ literalDefaults → IsDefault hooks name (.literal text)
  | interpolated {name template : String} :
      (name, template) ∈ interpolatedDefaults → IsDefault hooks name (.interpolated template)

variable {hooks : Hooks} {overrides : Overrides} {t : Templates} {name text template ref : String}
  {spec : DefaultSpec}

theorem mem_literalDefaults (hooks : Hooks) :
    (name, text) ∈ literalDefaults ↔ (defaultTable hooks).get? name = some (.literal text) :=
  DefaultTable.mem_collect_of_iff (defaultTable hooks) fun _ => DefaultSpec.literal?_eq_some_iff

theorem mem_interpolatedDefaults (hooks : Hooks) :
    (name, template) ∈ interpolatedDefaults ↔
      (defaultTable hooks).get? name = some (.interpolated template) :=
  DefaultTable.mem_collect_of_iff (defaultTable hooks) fun _ =>
    DefaultSpec.interpolated?_eq_some_iff

/-- The table holds the defaults and nothing else. -/
theorem get?_defaultTable_iff :
    (defaultTable hooks).get? name = some spec ↔ IsDefault hooks name spec := by
  constructor
  · intro hget
    have hother (h : spec.other? = some spec) : IsDefault hooks name spec := by
      have hmem : (name, spec) ∈ [("confdir", .computed hooks.confdir), ("vardir", .unset),
          ("certname", .computed (.ok hooks.certname))] :=
        (DefaultTable.mem_collect (defaultTable hooks)).mpr ⟨spec, hget, h⟩
      simp only [List.mem_cons, List.not_mem_nil, or_false, Prod.mk.injEq] at hmem
      rcases hmem with ⟨rfl, rfl⟩ | ⟨rfl, rfl⟩ | ⟨rfl, rfl⟩
      · exact .confdir
      · exact .vardir
      · exact .certname
    cases spec with
    | literal text => exact .literal ((mem_literalDefaults hooks).mpr hget)
    | interpolated template => exact .interpolated ((mem_interpolatedDefaults hooks).mpr hget)
    | computed | unset | unsupported => exact hother rfl
  · rintro (_ | _ | _ | hmem | hmem)
    · rfl
    · rfl
    · rfl
    · exact (mem_literalDefaults hooks).mp hmem
    · exact (mem_interpolatedDefaults hooks).mp hmem

/-! ## The templates of the table -/

/-- The levels of the table: every template lies above what it refers to. -/
def tableLevel (name : String) : Nat :=
  if name ∈ ["confdir", "certname", "server", "masterport"] then 0
  else if name = "ssldir" then 1
  else if name ∈ ["certdir", "privatekeydir", "publickeydir", "cadir"] then 2
  else 3

theorem tableLevel_lt : ∀ entry ∈ interpolatedDefaults, ∀ ref ∈ references entry.2,
    tableLevel ref < tableLevel entry.1 := by
  decide +kernel

theorem referred_known : ∀ entry ∈ interpolatedDefaults, ∀ ref ∈ references entry.2,
    ref ∈ ["confdir", "certname"] ∨ ref ∈ literalDefaults.map Prod.fst ∨
      ref ∈ interpolatedDefaults.map Prod.fst := by
  decide +kernel

theorem references_literalDefaults : ∀ entry ∈ literalDefaults, references entry.2 = [] := by
  decide +kernel

/-- Two templates refer to what the last steps change, and the last steps change their
settings as well. No other template has to do with the last steps. -/
theorem unowned_or_single : ∀ entry ∈ interpolatedDefaults,
    entry = ("ca_server", "$server") ∨ entry = ("ca_port", "$masterport") ∨
      entry.1 ∉ ownedNames ∧ ∀ ref ∈ references entry.2, ref ∉ ownedNames := by
  decide +kernel

theorem parse_server : Template.parse "$server".toList = ⟨[], [("server", "".toList)]⟩ := by
  decide +kernel

theorem parse_masterport :
    Template.parse "$masterport".toList = ⟨[], [("masterport", "".toList)]⟩ := by
  decide +kernel

/-- What the table refers to is in the table, with a default. -/
theorem exists_isDefault_of_referred (hooks : Hooks)
    (hentry : (name, template) ∈ interpolatedDefaults) (href : ref ∈ references template) :
    ∃ spec, IsDefault hooks ref spec ∧ spec ≠ .unset := by
  rcases referred_known _ hentry ref href with hhost | hliteral | hinterpolated
  · rcases List.mem_pair.mp hhost with rfl | rfl
    · exact ⟨_, .confdir, by simp⟩
    · exact ⟨_, .certname, by simp⟩
  · obtain ⟨⟨_, text⟩, hmem, rfl⟩ := List.mem_map.mp hliteral
    exact ⟨_, .literal hmem, by simp⟩
  · obtain ⟨⟨_, template'⟩, hmem, rfl⟩ := List.mem_map.mp hinterpolated
    exact ⟨_, .interpolated hmem, by simp⟩

/-! ## Overrides without references -/

/-- Neither the host nor the overrides bring in references, the host answers where it is
asked, and a time to live has no more digits than are read. -/
structure PlainInput (hooks : Hooks) (overrides : Overrides) : Prop where
  overridden : ∀ name value, overrides.get? name = some value →
    ∃ text, value = some text ∧ Tokenless text.toList
  confdir : overrides.get? "confdir" = none →
    ∃ dir, hooks.confdir = .ok dir ∧ Tokenless dir.toList
  certname : Tokenless hooks.certname.toList
  ttl : ∀ text digits unit, overrides.get? "ca_ttl" = some (some text) →
    Duration.Spells text digits unit → digits.length ≤ maxDigits

namespace PlainInput

theorem exists_templates (h : PlainInput hooks overrides) :
    ∃ t, (Resolver.ofHooks hooks).templates overrides = .ok t := by
  refine Resolver.templates_isOk_iff.mpr fun name spec hspec hnone => ?_
  cases get?_defaultTable_iff.mp hspec with
  | confdir =>
    obtain ⟨dir, hdir, _⟩ := h.confdir hnone
    exact ⟨some dir, by rw [hdir]; rfl⟩
  | vardir => exact ⟨none, rfl⟩
  | certname => exact ⟨_, rfl⟩
  | literal => exact ⟨_, rfl⟩
  | interpolated => exact ⟨_, rfl⟩

/-- A text that refers to something is a template of the table. -/
theorem textOf_cases (h : PlainInput hooks overrides)
    (ht : IsOverlay (defaultTable hooks) overrides t) (htext : t.textOf name = some text) :
    Tokenless text.toList ∨ (name, text) ∈ interpolatedDefaults ∧ overrides.get? name = none := by
  have hget := Templates.textOf_eq_some_iff.mp htext
  have hname : name ∈ (defaultTable hooks).names :=
    ht.names_eq ▸ NameMap.isSome_get?_iff.mp (by simp [hget])
  cases hoverride : overrides.get? name with
  | some value =>
    obtain ⟨text', rfl, hplain⟩ := h.overridden name value hoverride
    rw [ht.overridden name hname _ hoverride, Option.some.injEq, Option.some.injEq] at hget
    exact .inl (hget ▸ hplain)
  | none =>
    obtain ⟨spec, hspec⟩ := Option.isSome_iff_exists.mp (NameMap.isSome_get?_iff.mpr hname)
    obtain ⟨value, hvalue, hget'⟩ := ht.defaulted name spec hspec hoverride
    rw [hget, Option.some.injEq] at hget'
    subst hget'
    cases get?_defaultTable_iff.mp hspec with
    | confdir =>
      obtain ⟨dir, hdir, hplain⟩ := h.confdir hoverride
      rw [hdir] at hvalue
      cases hvalue
      exact .inl hplain
    | vardir => cases hvalue
    | certname =>
      cases hvalue
      exact .inl h.certname
    | literal hmem =>
      cases hvalue
      exact .inl (references_eq_nil_iff.mp (references_literalDefaults _ hmem))
    | interpolated hmem =>
      cases hvalue
      exact .inr ⟨hmem, rfl⟩

/-- What the table refers to has a text. -/
theorem isSome_textOf_of_referred (h : PlainInput hooks overrides)
    (ht : IsOverlay (defaultTable hooks) overrides t)
    (hentry : (name, template) ∈ interpolatedDefaults) (href : ref ∈ references template) :
    (t.textOf ref).isSome := by
  obtain ⟨spec, hspec, hset⟩ := exists_isDefault_of_referred hooks hentry href
  have hget := get?_defaultTable_iff.mpr hspec
  cases hoverride : overrides.get? ref with
  | some value =>
    obtain ⟨text, rfl, _⟩ := h.overridden ref value hoverride
    have hname : ref ∈ (defaultTable hooks).names := NameMap.isSome_get?_iff.mp (by simp [hget])
    have htext := ht.overridden ref hname _ hoverride
    simp [Templates.textOf_eq_some_iff.mpr htext]
  | none =>
    obtain ⟨value, hvalue, htext⟩ := ht.defaulted ref spec hget hoverride
    cases value with
    | none => exact absurd (DefaultSpec.template_eq_none_iff.mp hvalue) hset
    | some text => simp [Templates.textOf_eq_some_iff.mpr htext]

theorem layered (h : PlainInput hooks overrides)
    (ht : IsOverlay (defaultTable hooks) overrides t) : t.Layered tableLevel where
  lower := by
    intro name text htext ref href
    rcases h.textOf_cases ht htext with hplain | ⟨hentry, _⟩
    · rw [references_eq_nil_iff.mpr hplain] at href
      cases href
    · exact tableLevel_lt _ hentry ref href
  valued := by
    intro name text htext ref href
    rcases h.textOf_cases ht htext with hplain | ⟨hentry, _⟩
    · rw [references_eq_nil_iff.mpr hplain] at href
      cases href
    · exact h.isSome_textOf_of_referred ht hentry href

/-- The time to live is read as it stands. -/
theorem textOf_ttl (h : PlainInput hooks overrides) (ht : IsOverlay (defaultTable hooks) overrides t)
    (httl : t.ttlText = some text) : t.textOf "ca_ttl" = some text := by
  obtain ⟨text', htext⟩ := Option.isSome_iff_exists.mp
    ((meaning_interpolateAll t).isSome_iff.mp (Option.isSome_of_eq_some httl))
  have hplain : Tokenless text'.toList := by
    rcases h.textOf_cases ht htext with hplain | ⟨hentry, _⟩
    · exact hplain
    · have hnone : "ca_ttl" ∉ interpolatedDefaults.map Prod.fst := by decide +kernel
      exact absurd (List.mem_map_of_mem hentry) hnone
  unfold Templates.ttlText at httl
  rw [get?_interpolateAll_of_tokenless htext hplain] at httl
  exact htext.trans httl

theorem shortTtl (h : PlainInput hooks overrides) (ht : IsOverlay (defaultTable hooks) overrides t) :
    t.ShortTtl := by
  intro text digits unit httl hspells
  have hget := Templates.textOf_eq_some_iff.mp (h.textOf_ttl ht httl)
  cases hoverride : overrides.get? "ca_ttl" with
  | some value =>
    rw [ht.overridden "ca_ttl" (NameMap.isSome_get?_iff.mp rfl) value hoverride] at hget
    exact h.ttl text digits unit (hoverride.trans hget) hspells
  | none =>
    obtain ⟨value, hvalue, hget'⟩ := ht.defaulted "ca_ttl" (.literal "5y") rfl hoverride
    rw [hget, Option.some.injEq] at hget'
    subst hget'
    cases hvalue
    rw [← hspells.takeWhile_eq.1]
    decide

end PlainInput

/-! ## Following a template -/

theorem references_of_parse {parsed : Template} (h : Template.parse template.toList = parsed) :
    references template = parsed.names := by
  unfold references
  rw [h]

/-- A template that is one reference and fixed text after it. -/
theorem ofList_fill_single {known : String → Option String} {tail : String}
    (hparse : Template.parse template.toList = ⟨[], [(ref, tail.toList)]⟩)
    (hknown : known ref = some text) :
    String.ofList ((Template.parse template.toList).fill known) = text ++ tail := by
  rw [hparse]
  simp [Template.fill, Template.assemble, hknown]

namespace Settings

variable {settings : Settings} {tail : String}

/-- A setting holds a template with every reference replaced by what the setting
referred to holds. -/
def Follows (settings : Settings) (name template : String) : Prop :=
  (∀ ref ∈ references template, (settings.textOf ref).isSome) ∧
    settings.textOf name =
      some (String.ofList ((Template.parse template.toList).fill settings.textOf))

/-- To follow a template of one reference is to extend what the setting referred to holds. -/
theorem follows_single_iff (hparse : Template.parse template.toList = ⟨[], [(ref, tail.toList)]⟩) :
    settings.Follows name template ↔
      ∃ text, settings.textOf ref = some text ∧
        settings.textOf name = some (text ++ tail) := by
  have hrefs : references template = [ref] := references_of_parse hparse
  unfold Follows
  rw [hrefs]
  constructor
  · rintro ⟨hsome, hname⟩
    obtain ⟨text, htext⟩ := Option.isSome_iff_exists.mp (hsome ref (List.mem_singleton.mpr rfl))
    rw [ofList_fill_single hparse htext] at hname
    exact ⟨text, htext, hname⟩
  · rintro ⟨text, htext, hname⟩
    rw [ofList_fill_single hparse htext]
    refine ⟨fun ref' hmem => ?_, hname⟩
    rw [List.mem_singleton.mp hmem, htext]
    rfl

/-- To follow a reference is to hold the same. -/
theorem Follows.get?_eq_of_reference (h : settings.Follows name template)
    (hparse : Template.parse template.toList = ⟨[], [(ref, "".toList)]⟩) :
    settings.get? name = settings.get? ref := by
  obtain ⟨text, href, hname⟩ := (follows_single_iff hparse).mp h
  rw [String.append_empty] at hname
  rw [textOf_eq_some_iff.mp href, textOf_eq_some_iff.mp hname]

theorem Follows.textOf_pair {first second gap : String} (h : settings.Follows name template)
    (hparse : Template.parse template.toList =
      ⟨[], [(first, gap.toList), (second, tail.toList)]⟩) :
    ∃ text text', settings.textOf first = some text ∧ settings.textOf second = some text' ∧
      settings.textOf name = some (text ++ gap ++ text' ++ tail) := by
  have hrefs : references template = [first, second] := references_of_parse hparse
  obtain ⟨hsome, hname⟩ := h
  rw [hrefs] at hsome
  obtain ⟨text, htext⟩ := Option.isSome_iff_exists.mp (hsome first (by simp))
  obtain ⟨text', htext'⟩ := Option.isSome_iff_exists.mp (hsome second (by simp))
  refine ⟨text, text', htext, htext', ?_⟩
  rw [hname, hparse]
  simp [Template.fill, Template.assemble, htext, htext', String.append_assoc]

end Settings

/-- Two interpolated values are the same where one template is a reference to the other. -/
theorem Templates.Layered.get?_of_reference {level : String → Nat} (h : t.Layered level)
    (htext : t.textOf name = some template)
    (hparse : Template.parse template.toList = ⟨[], [(ref, "".toList)]⟩) :
    ∃ text, (interpolateAll t).values.get? ref = some (some text) ∧
      (interpolateAll t).values.get? name = some (some text) := by
  have hmeaning := meaning_interpolateAll t
  have href : ref ∈ references template := by
    rw [references_of_parse hparse]
    exact List.mem_singleton.mpr rfl
  obtain ⟨text, hvalue⟩ := Option.isSome_iff_exists.mp
    (hmeaning.isSome_iff.mpr (h.valued name template htext ref href))
  have hname := h.value_eq_fill hmeaning htext
  rw [ofList_fill_single hparse hvalue, String.append_empty] at hname
  exact ⟨text, Option.join_eq_some_iff.mp hvalue, Option.join_eq_some_iff.mp hname⟩

namespace Resolver

variable {r : Resolver} {ttl : Option Nat} {level : String → Nat}

/-- A setting that the last steps do not own follows a template that refers to none of these. -/
theorem follows_of_unowned (h : t.Layered level) (htext : t.textOf name = some template)
    (hname : name ∉ ownedNames) (hrefs : ∀ ref ∈ references template, ref ∉ ownedNames) :
    (r.finalForm overrides (interpolateAll t).values ttl).Follows name template := by
  have hmeaning := meaning_interpolateAll t
  have hsame : ∀ ref ∈ references template,
      (r.finalForm overrides (interpolateAll t).values ttl).textOf ref =
        ((interpolateAll t).values.get? ref).join := fun ref href =>
    (keeps_finalForm (hrefs ref href)).textOf_eq
  refine ⟨fun ref href => ?_, ?_⟩
  · rw [hsame ref href]
    exact hmeaning.isSome_iff.mpr (h.valued name template htext ref href)
  · rw [(keeps_finalForm hname).textOf_eq, h.value_eq_fill hmeaning htext,
      Template.fill_congr hsame]

/-- A setting follows a reference to another one if the last steps treat both alike. -/
theorem follows_of_alike {settings : Settings} {entered : Option String} (h : t.Layered level)
    (htext : t.textOf name = some template)
    (hparse : Template.parse template.toList = ⟨[], [(ref, "".toList)]⟩)
    (halike : ∀ n ∈ [ref, name], settings.get? n =
      match entered with
      | none => ((interpolateAll t).values.get? n).map (Option.map Value.text)
      | some text => some (some (.text text))) :
    settings.Follows name template := by
  obtain ⟨text, href, hname⟩ := h.get?_of_reference htext hparse
  rw [Settings.follows_single_iff hparse]
  simp only [Settings.textOf_eq_some_iff, halike ref (by simp), halike name (by simp), href, hname,
    String.append_empty]
  cases entered with
  | none => exact ⟨text, rfl, rfl⟩
  | some text => exact ⟨text, rfl, rfl⟩

end Resolver

/-- Every template of the table that is not overridden is followed. -/
theorem PlainInput.follows (h : PlainInput hooks overrides)
    (ht : IsOverlay (defaultTable hooks) overrides t) (hnone : overrides.get? name = none)
    (hentry : (name, template) ∈ interpolatedDefaults) {r : Resolver} {ttl : Option Nat} :
    (r.finalForm overrides (interpolateAll t).values ttl).Follows name template := by
  have hlayered := h.layered ht
  have htext : t.textOf name = some template := by
    obtain ⟨value, hvalue, hget⟩ := ht.defaulted name _
      ((mem_interpolatedDefaults hooks).mp hentry) hnone
    cases hvalue
    exact Templates.textOf_eq_some_iff.mpr hget
  rcases unowned_or_single _ hentry with hserver | hport | ⟨hname, hrefs⟩
  · obtain ⟨rfl, rfl⟩ := Prod.mk.inj hserver
    exact Resolver.follows_of_alike hlayered htext parse_server fun n hmem =>
      Resolver.get?_finalForm_host (by simpa using hmem)
  · obtain ⟨rfl, rfl⟩ := Prod.mk.inj hport
    exact Resolver.follows_of_alike hlayered htext parse_masterport fun n hmem =>
      Resolver.get?_finalForm_service (by simpa using hmem)
  · exact Resolver.follows_of_unowned hlayered htext hname hrefs

/-- **Settings follow the default table.** Where neither the host nor the overrides bring in
references, resolving meets no problem but one with the time to live, and every setting
that is not overridden follows its template in the settings that come out. So the
certificate of the authority lies in its directory, whatever is overridden, and the
authority has the server's name and service, whoever decided these. -/
theorem defaults_stay_consistent (hooks : Hooks) (overrides : Overrides)
    (h : PlainInput hooks overrides) :
    ∃ resolution, ((Resolver.ofHooks hooks).resolve overrides).result = .ok resolution ∧
      (resolution.problems = [] ∨ ∃ text, resolution.problems = [.badTtl text]) ∧
      (∀ name template, (defaultTable hooks).get? name = some (.interpolated template) →
        overrides.get? name = none → resolution.settings.Follows name template) ∧
      (overrides.get? "cacert" = none → ∃ dir, resolution.settings.textOf "cadir" = some dir ∧
        resolution.settings.textOf "cacert" = some (dir ++ "/ca_crt.pem")) ∧
      (overrides.get? "cadir" = none → ∃ dir, resolution.settings.textOf "ssldir" = some dir ∧
        resolution.settings.textOf "cadir" = some (dir ++ "/ca")) ∧
      (overrides.get? "hostcert" = none → ∃ dir certname,
        resolution.settings.textOf "certdir" = some dir ∧
        resolution.settings.textOf "certname" = some certname ∧
        resolution.settings.textOf "hostcert" = some (dir ++ "/" ++ certname ++ ".pem")) ∧
      (overrides.get? "ca_server" = none →
        resolution.settings.get? "ca_server" = resolution.settings.get? "server") ∧
      (overrides.get? "ca_port" = none →
        resolution.settings.get? "ca_port" = resolution.settings.get? "masterport") := by
  obtain ⟨t, ht⟩ := h.exists_templates
  have hoverlay : IsOverlay (defaultTable hooks) overrides t := Resolver.isOverlay_of_templates ht
  obtain ⟨ttl, httl⟩ := Resolver.resolveTtl_of_short (h.shortTtl hoverlay)
  have hfollows : ∀ name template,
      (defaultTable hooks).get? name = some (.interpolated template) →
        overrides.get? name = none →
          ((Resolver.ofHooks hooks).finalForm overrides (interpolateAll t).values ttl).Follows
            name template := fun name template hget hnone =>
    h.follows hoverlay hnone ((mem_interpolatedDefaults hooks).mpr hget)
  refine ⟨_, Resolver.result_resolve_of_resolveTtl ht httl, ?_, hfollows, fun hnone => ?_,
    fun hnone => ?_, fun hnone => ?_, fun hnone => ?_, fun hnone => ?_⟩
  · dsimp only
    rw [(h.layered hoverlay).problems_interpolateAll, List.nil_append]
    exact Resolver.resolveTtl_problems httl
  · have hparse : Template.parse "$cadir/ca_crt.pem".toList =
        ⟨[], [("cadir", "/ca_crt.pem".toList)]⟩ := by decide +kernel
    exact (Settings.follows_single_iff hparse).mp (hfollows "cacert" _ rfl hnone)
  · have hparse : Template.parse "$ssldir/ca".toList = ⟨[], [("ssldir", "/ca".toList)]⟩ := by
      decide +kernel
    exact (Settings.follows_single_iff hparse).mp (hfollows "cadir" _ rfl hnone)
  · have hparse : Template.parse "$certdir/$certname.pem".toList =
        ⟨[], [("certdir", "/".toList), ("certname", ".pem".toList)]⟩ := by decide +kernel
    exact (hfollows "hostcert" _ rfl hnone).textOf_pair hparse
  · exact (hfollows "ca_server" _ rfl hnone).get?_eq_of_reference parse_server
  · exact (hfollows "ca_port" _ rfl hnone).get?_eq_of_reference parse_masterport

/-! ### A directory, a time and a list of servers overridden -/

def movedHooks : Hooks := ⟨"node", .ok "/etc/puppet$"⟩

/-- Overrides with a dollar sign that is no reference, and a name outside the table. -/
def movedOverrides : Overrides where
  entries := [("ssldir", some "/srv/tls$"), ("ca_ttl", some "soon"),
    ("server_list", some "ca1:9140,ca2"), ("stray", some "here")]

theorem plainInput_moved : PlainInput movedHooks movedOverrides where
  overridden := by
    have hall : ∀ entry ∈ movedOverrides.entries,
        entry.2.isSome ∧ references (entry.2.getD "") = [] := by decide +kernel
    intro name value hget
    obtain ⟨hsome, hrefs⟩ := hall _ (NameMap.get?_eq_some_iff.mp hget)
    obtain ⟨text, rfl⟩ := Option.isSome_iff_exists.mp hsome
    exact ⟨text, rfl, references_eq_nil_iff.mp hrefs⟩
  confdir := fun _ => ⟨_, rfl, references_eq_nil_iff.mp (by decide +kernel)⟩
  certname := references_eq_nil_iff.mp (by decide +kernel)
  ttl := by
    intro text digits unit hget hspells
    obtain rfl : "soon" = text := Option.some.inj (Option.some.inj hget)
    rw [← hspells.takeWhile_eq.1]
    decide

theorem defaults_stay_consistent_moved :
    PlainInput movedHooks movedOverrides ∧
      ∃ resolution, ((Resolver.ofHooks movedHooks).resolve movedOverrides).result = .ok resolution ∧
        resolution.settings.textOf "cacert" = some "/srv/tls$/ca/ca_crt.pem" ∧
        resolution.settings.textOf "ca_server" = some "ca1" ∧
        resolution.settings.textOf "ca_port" = some "9140" := by
  obtain ⟨resolution, hresult, -, -, hcacert, hcadir, -, hserver, hport⟩ :=
    defaults_stay_consistent movedHooks movedOverrides plainInput_moved
  have hheld : (((Resolver.ofHooks movedHooks).resolve movedOverrides).result.map fun resolution =>
      ["ssldir", "server", "masterport"].map resolution.settings.textOf) =
        .ok [some "/srv/tls$", some "ca1", some "9140"] := by
    decide +kernel
  rw [hresult] at hheld
  simp only [Except.map, List.map_cons, List.map_nil, Except.ok.injEq, List.cons.injEq,
    and_true] at hheld
  obtain ⟨hssldir, hfirst, hservice⟩ := hheld
  refine ⟨plainInput_moved, resolution, hresult, ?_, ?_, ?_⟩
  · obtain ⟨dir, hdir, hca⟩ := hcadir rfl
    obtain rfl := Option.some.inj (hssldir.symm.trans hdir)
    obtain ⟨cadir, hcadir, hcert⟩ := hcacert rfl
    obtain rfl := Option.some.inj (hca.symm.trans hcadir)
    exact hcert
  · unfold Settings.textOf at hfirst ⊢
    rw [hserver rfl, hfirst]
  · unfold Settings.textOf at hservice ⊢
    rw [hport rfl, hservice]

end CaSettings
