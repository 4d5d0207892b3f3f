import CaSettings.Proofs.Interpolation.Layered
import CaSettings.Proofs.ServerRereading

/-!
# The shape of resolved settings

Resolved settings have the names of the table, in its order, and behind them those of
the last steps that the table lacks (`enteredNames`). What stands under a name is told
by the name: a list of servers, a number of seconds, or a text (`Shaped`).

The last steps are insertions one after the other (`finalForm_eq_insertAll`), from
which the names come at once (`names_finalForm`). `resolve_shaped` puts the parts
together.
-/

namespace CaSettings

/-- A text, or nothing. -/
def TextOrNothing (value : Option Value) : Prop :=
  ∀ content, value = some content → ∃ text, content = .text text

/-- The names that the last steps enter values under, in order. The first server decides
which of its four names are among them. -/
def enteredNames (servers : List ServerEntry) : List String :=
  ["ca_ttl", "server_list"] ++
    (if servers = [] then [] else ["server", "ca_server"]) ++
    (if (servers.head?.bind ServerEntry.service?).isSome then ["masterport", "ca_port"] else []) ++
    ["subject_alt_names"]

/-- The names, their order, and the kinds of values of settings that were resolved from
templates and a list of servers. -/
structure Shaped (r : Resolver) (overrides : Overrides) (t : Templates)
    (servers : List ServerEntry) (settings : Settings) : Prop where
  names_eq : settings.names =
    r.table.names ++ (enteredNames servers).filter (· ∉ r.table.names)
  /-- What else the configuration says about is not among the settings. -/
  unknown : ∀ name ∈ overrides.names, name ∉ r.table.names → name ∉ enteredNames servers →
    settings.get? name = none
  list : settings.get? "server_list" = some (some (.servers servers))
  parts : ∀ e ∈ servers, e.parts ≠ [] ∧ ∀ part ∈ e.parts,
    part ≠ "" ∧ ',' ∉ part.toList ∧ ':' ∉ part.toList
  ttl : ∃ seconds : Option Nat, settings.get? "ca_ttl" = some (seconds.map Value.seconds)
  altNames : ∃ text, settings.get? "subject_alt_names" = some (some (.text text))
  decided : ∀ name ∈ ["server", "ca_server", "masterport", "ca_port"], ∀ value,
    settings.get? name = some value → TextOrNothing value
  others : ∀ name, name ∉ ownedNames → ∀ value, settings.get? name = some value →
    TextOrNothing value ∧ (value = none ↔ t.get? name = some none)

/-! ## Names -/

namespace Settings

/-- What a list of servers enters, in order. -/
def serverBindings (servers : List ServerEntry) : List (String × Option Value) :=
  ("server_list", some (.servers servers)) ::
    match servers with
    | [] => []
    | first :: _ =>
      ("server", some (.text first.host)) :: ("ca_server", some (.text first.host)) ::
        match first.service? with
        | none => []
        | some service =>
          [("masterport", some (.text service)), ("ca_port", some (.text service))]

theorem enterServers_eq_insertAll (settings : Settings) (servers : List ServerEntry) :
    settings.enterServers servers = settings.insertAll (serverBindings servers) := by
  unfold enterServers serverBindings
  cases servers with
  | nil => rfl
  | cons first rest =>
    dsimp only
    cases first.service? with
    | none => rfl
    | some service => rfl

end Settings

namespace Resolver

variable {r : Resolver} {overrides : Overrides} {values : NameMap (Option String)}
  {ttl : Option Nat} {name : String} {value : Option Value}

/-- What the last steps enter, in order. -/
def finalBindings (r : Resolver) (overrides : Overrides) (values : NameMap (Option String))
    (ttl : Option Nat) : List (String × Option Value) :=
  ("ca_ttl", ttl.map Value.seconds) ::
    (Settings.serverBindings (serversOf values) ++
      [("subject_alt_names", some (.text (r.altNames overrides values)))])

theorem finalForm_eq_insertAll (r : Resolver) (overrides : Overrides)
    (values : NameMap (Option String)) (ttl : Option Nat) :
    r.finalForm overrides values ttl =
      (values.map fun _ value => value.map Value.text).insertAll
        (r.finalBindings overrides values ttl) := by
  have happend := NameMap.insertAll_append
    ((values.map fun _ value => value.map Value.text).insert "ca_ttl" (ttl.map Value.seconds))
    (Settings.serverBindings (serversOf values))
    [("subject_alt_names", some (.text (r.altNames overrides values)))]
  unfold finalForm
  dsimp only
  rw [Settings.enterServers_eq_insertAll]
  exact happend.symm

theorem map_fst_finalBindings (r : Resolver) (overrides : Overrides)
    (values : NameMap (Option String)) (ttl : Option Nat) :
    (r.finalBindings overrides values ttl).map Prod.fst = enteredNames (serversOf values) := by
  unfold finalBindings Settings.serverBindings enteredNames
  cases serversOf values with
  | nil => rfl
  | cons first rest =>
    obtain ⟨host, further⟩ := first
    cases further with
    | nil => rfl
    | cons service others => rfl

theorem nodup_enteredNames (servers : List ServerEntry) : (enteredNames servers).Nodup := by
  unfold enteredNames
  split
  · split
    · decide
    · decide
  · split
    · decide
    · decide

/-- **Names that the table lacks come behind those of the table.** -/
theorem names_finalForm :
    (r.finalForm overrides values ttl).names =
      values.names ++ (enteredNames (serversOf values)).filter (· ∉ values.names) := by
  have hnodup : ((r.finalBindings overrides values ttl).map Prod.fst).Nodup := by
    rw [map_fst_finalBindings]
    exact nodup_enteredNames _
  rw [finalForm_eq_insertAll, NameMap.names_insertAll _ hnodup, map_fst_finalBindings,
    NameMap.names_map]

/-! ## Values -/

theorem textOrNothing_map_text (content : Option String) :
    TextOrNothing (content.map Value.text) := by
  intro value hvalue
  obtain ⟨text, -, rfl⟩ := Option.map_eq_some_iff.mp hvalue
  exact ⟨text, rfl⟩

/-- An interpolated value is a text or nothing. -/
theorem textOrNothing_of_get?_map
    (h : (values.get? name).map (Option.map Value.text) = some value) : TextOrNothing value := by
  obtain ⟨content, -, rfl⟩ := Option.map_eq_some_iff.mp h
  exact textOrNothing_map_text content

theorem textOrNothing_text (text : String) : TextOrNothing (some (.text text)) := by
  intro content hcontent
  exact ⟨text, (Option.some.inj hcontent).symm⟩

theorem textOrNothing_of_host (hname : name = "server" ∨ name = "ca_server")
    (h : (r.finalForm overrides values ttl).get? name = some value) : TextOrNothing value := by
  rw [get?_finalForm_host hname] at h
  split at h
  · exact textOrNothing_of_get?_map h
  · obtain rfl := Option.some.inj h
    exact textOrNothing_text _

theorem textOrNothing_of_service (hname : name = "masterport" ∨ name = "ca_port")
    (h : (r.finalForm overrides values ttl).get? name = some value) : TextOrNothing value := by
  rw [get?_finalForm_service hname] at h
  split at h
  · exact textOrNothing_of_get?_map h
  · obtain rfl := Option.some.inj h
    exact textOrNothing_text _

/-- A setting is without a value iff its template is. -/
theorem get?_interpolateAll_eq_none_iff {t : Templates} {content : Option String}
    (h : (interpolateAll t).values.get? name = some content) :
    content = none ↔ t.get? name = some none := by
  have hmem : name ∈ t.names := isSome_get?_interpolateAll.mp (by rw [h]; rfl)
  have hvalued := (meaning_interpolateAll t).isSome_iff (n := name)
  rw [h, Option.join_some] at hvalued
  have htext : t.textOf name = none ↔ t.get? name = some none := by
    rw [Templates.textOf_eq_none_iff]
    exact or_iff_right fun hout => hout hmem
  rw [← htext, ← Option.not_isSome_iff_eq_none, ← Option.not_isSome_iff_eq_none, hvalued]

end Resolver

/-- **Resolved settings have one shape**, whatever the table and the configuration. -/
theorem resolve_shaped (r : Resolver) (overrides : Overrides) (resolution : Resolution)
    (h : (r.resolve overrides).result = .ok resolution) :
    ∃ t servers, r.templates overrides = .ok t ∧
      servers = ServerList.parse
        (((interpolateAll t).values.get? "server_list").join.getD "") ∧
      Shaped r overrides t servers resolution.settings := by
  obtain ⟨t, ttl, problems, ht, -, hsettings, -⟩ := Resolver.result_resolve_eq_ok h
  have hnames : (interpolateAll t).values.names = r.table.names := by
    rw [← (Resolver.isOverlay_of_templates ht).names_eq]
    exact NameMap.names_map ..
  refine ⟨t, serversOf (interpolateAll t).values, ht, rfl, ?_⟩
  rw [hsettings]
  refine
    { names_eq := by rw [Resolver.names_finalForm, hnames]
      unknown := ?unknown
      list := Resolver.get?_finalForm_list
      parts := ?parts
      ttl := ⟨ttl, Resolver.get?_finalForm_ttl r overrides _ ttl⟩
      altNames := ⟨_, Resolver.get?_finalForm_altNames⟩
      decided := ?decided
      others := ?others }
  case unknown =>
    intro name _ htable hentered
    rw [NameMap.get?_eq_none_iff, Resolver.names_finalForm, hnames, List.mem_append, not_or]
    exact ⟨htable, fun hmem => hentered (List.mem_filter.mp hmem).1⟩
  case parts =>
    intro e he
    refine ⟨List.cons_ne_nil e.host e.further, fun part hpart => ?_⟩
    obtain ⟨hne, hcomma, hcolon⟩ :=
      ServerList.plainParts_of_mem_parse he part.toList (List.mem_map_of_mem hpart)
    exact ⟨fun hempty => hne (by rw [hempty]; rfl), hcomma, hcolon⟩
  case decided =>
    intro name hname value hvalue
    have hcases : (name = "server" ∨ name = "ca_server") ∨
        (name = "masterport" ∨ name = "ca_port") := by
      simpa only [List.mem_cons, List.not_mem_nil, or_false, or_assoc] using hname
    rcases hcases with hhost | hservice
    · exact Resolver.textOrNothing_of_host hhost hvalue
    · exact Resolver.textOrNothing_of_service hservice hvalue
  case others =>
    intro name howned value hvalue
    rw [Resolver.keeps_finalForm howned] at hvalue
    refine ⟨Resolver.textOrNothing_of_get?_map hvalue, ?_⟩
    obtain ⟨content, hcontent, rfl⟩ := Option.map_eq_some_iff.mp hvalue
    rw [Option.map_eq_none_iff]
    exact Resolver.get?_interpolateAll_eq_none_iff hcontent

/-! ### A table that knows some of the names -/

/-- A table with one of the names that a first server decides. -/
def partialTable : Resolver where
  table.entries := [
    ("ca_port", .literal "8140"),
    ("vardir", .unset),
    ("host", .literal "lab"),
    ("server_list", .literal "")]
  certname := "host"

def partialOverrides : Overrides :=
  .ofList [("colour", some "red"), ("server_list", some "$host:9140, spare")]

def partialTemplates : Templates where
  entries := [
    ("ca_port", some "8140"),
    ("vardir", none),
    ("host", some "lab"),
    ("server_list", some "$host:9140, spare")]

theorem resolve_shaped_partial :
    ∃ resolution, (partialTable.resolve partialOverrides).result = .ok resolution ∧
      resolution.settings.names =
        ["ca_port", "vardir", "host", "server_list", "ca_ttl", "server", "ca_server", "masterport",
          "subject_alt_names"] ∧
      resolution.settings.get? "colour" = none ∧
      resolution.settings.get? "vardir" = some none := by
  have htemplates : partialTable.templates partialOverrides = .ok partialTemplates := rfl
  have hresult := Resolver.result_resolve_of_resolveTtl htemplates rfl
  have hlist : (interpolateAll partialTemplates).values.get? "server_list" =
      some (some "lab:9140, spare") := by decide +kernel
  have hservers : ServerList.parse "lab:9140, spare" = [⟨"lab", ["9140"]⟩, ⟨"spare", []⟩] := by
    decide +kernel
  refine ⟨_, hresult, ?_⟩
  obtain ⟨t, servers, ht, hparse, hshaped⟩ := resolve_shaped _ _ _ hresult
  obtain rfl := Except.ok.inj (htemplates.symm.trans ht)
  rw [hlist, Option.join_some, Option.getD_some, hservers] at hparse
  subst hparse
  refine ⟨hshaped.names_eq, hshaped.unknown _ (by decide) (by decide) (by decide), ?_⟩
  have hvardir : "vardir" ∈ partialTable.table.names := by decide
  obtain ⟨value, hvalue⟩ := Option.isSome_iff_exists.mp (NameMap.isSome_get?_iff.mpr
    (hshaped.names_eq ▸ List.mem_append_left _ hvardir))
  rw [hvalue, (hshaped.others "vardir" (by decide) value hvalue).2.mpr rfl]

end CaSettings
