import CaSettings.Proofs.Interpolation.Meaning
import CaSettings.Proofs.Resolving

/-!
# The final form of settings

What the steps after interpolation do to the value of a name:

* the server list enters values under five names only (`serverNames`,
  `Settings.get?_enterServers`), and texts and lists only;
* so the time to live is the one setting that holds a number of seconds
  (`Resolver.seconds_finalForm`), the one that was read;
* a setting that no other setting decides gets its value from its own
  interpolated text (`Resolver.get?_finalForm_of_undecided`).
-/

namespace CaSettings

/-- The names that a server list enters values under. -/
def serverNames : List String := ["server_list", "server", "ca_server", "masterport", "ca_port"]

/-- The names whose final values other settings decide. -/
def decidedNames : List String :=
  ["server", "ca_server", "masterport", "ca_port", "subject_alt_names"]

namespace Settings

variable {settings : Settings} {name first second text : String} {value : Option Value}

theorem get?_enterBoth (hfirst : name ≠ first) (hsecond : name ≠ second) :
    (settings.enterBoth first second text).get? name = settings.get? name := by
  unfold enterBoth
  rw [NameMap.get?_insert, NameMap.get?_insert, if_neg hsecond, if_neg hfirst]

/-- A server list leaves all other names alone. -/
theorem get?_enterServers (h : name ∉ serverNames) (servers : List ServerEntry) :
    (settings.enterServers servers).get? name = settings.get? name := by
  simp only [serverNames, List.mem_cons, List.not_mem_nil, or_false, not_or] at h
  obtain ⟨hlist, hserver, hca, hport, hcaport⟩ := h
  have hinsert : (settings.insert "server_list" (some (.servers servers))).get? name =
      settings.get? name := by
    rw [NameMap.get?_insert, if_neg hlist]
  unfold enterServers
  cases servers with
  | nil => exact hinsert
  | cons entry rest =>
    dsimp only
    cases entry.service? with
    | none => rw [get?_enterBoth hserver hca, hinsert]
    | some service => rw [get?_enterBoth hport hcaport, get?_enterBoth hserver hca, hinsert]

/-- The list itself is entered whole. -/
theorem get?_enterServers_list (settings : Settings) (servers : List ServerEntry) :
    (settings.enterServers servers).get? "server_list" = some (some (.servers servers)) := by
  have hinsert : (settings.insert "server_list" (some (.servers servers))).get? "server_list" =
      some (some (.servers servers)) := by
    rw [NameMap.get?_insert, if_pos rfl]
  unfold enterServers
  cases servers with
  | nil => exact hinsert
  | cons entry rest =>
    dsimp only
    cases entry.service? with
    | none => rw [get?_enterBoth (by decide) (by decide), hinsert]
    | some service =>
      rw [get?_enterBoth (by decide) (by decide), get?_enterBoth (by decide) (by decide), hinsert]

/-- What a server list comes to for a name depends on what was there under that name. -/
theorem get?_enterServers_congr {settings settings' : Settings}
    (h : settings.get? name = settings'.get? name) (servers : List ServerEntry) :
    (settings.enterServers servers).get? name = (settings'.enterServers servers).get? name := by
  unfold enterServers enterBoth
  cases servers with
  | nil => simp only [NameMap.get?_insert, h]
  | cons entry rest =>
    dsimp only
    cases entry.service? <;> simp only [NameMap.get?_insert, h]

/-! ## Numbers of seconds -/

/-- A value that differs from the inserted one was there before. -/
theorem get?_of_insert {other : Option Value}
    (h : (settings.insert first other).get? name = some value) (hne : value ≠ other) :
    settings.get? name = some value := by
  rw [NameMap.get?_insert] at h
  split at h
  · exact absurd (Option.some.inj h).symm hne
  · exact h

variable {n : Nat}

theorem seconds_enterBoth
    (h : (settings.enterBoth first second text).get? name = some (some (.seconds n))) :
    settings.get? name = some (some (.seconds n)) :=
  get?_of_insert (get?_of_insert h (by simp)) (by simp)

theorem seconds_enterServers {servers : List ServerEntry}
    (h : (settings.enterServers servers).get? name = some (some (.seconds n))) :
    settings.get? name = some (some (.seconds n)) := by
  have hlist : (settings.insert "server_list" (some (.servers servers))).get? name =
      some (some (.seconds n)) := by
    unfold enterServers at h
    cases servers with
    | nil => exact h
    | cons entry rest =>
      dsimp only at h
      cases hservice : entry.service? with
      | none =>
        rw [hservice] at h
        exact seconds_enterBoth h
      | some service =>
        rw [hservice] at h
        exact seconds_enterBoth (seconds_enterBoth h)
  exact get?_of_insert hlist (by simp)

end Settings

namespace Resolver

variable {r : Resolver} {overrides : Overrides} {values : NameMap (Option String)}
  {ttl : Option Nat} {name : String} {n : Nat}

/-- The time to live is entered as it was read. -/
theorem get?_finalForm_ttl (r : Resolver) (overrides : Overrides)
    (values : NameMap (Option String)) (ttl : Option Nat) :
    (r.finalForm overrides values ttl).get? "ca_ttl" = some (ttl.map Value.seconds) := by
  unfold finalForm
  rw [NameMap.get?_insert, if_neg (by decide), Settings.get?_enterServers (by decide),
    NameMap.get?_insert, if_pos rfl]

/-- The final form of a setting that no other setting decides: the server list
and the time to live are read, everything else keeps its interpolated text. -/
theorem get?_finalForm_of_undecided (h : name ∉ decidedNames) :
    (r.finalForm overrides values ttl).get? name =
      if name = "server_list" then
        some (some (.servers (ServerList.parse (((values.get? name).join).getD ""))))
      else if name = "ca_ttl" then some (ttl.map Value.seconds)
      else (values.get? name).map (Option.map Value.text) := by
  simp only [decidedNames, List.mem_cons, List.not_mem_nil, or_false, not_or] at h
  obtain ⟨hserver, hca, hport, hcaport, halt⟩ := h
  unfold finalForm
  rw [NameMap.get?_insert, if_neg halt]
  split
  · rename_i hlist
    subst hlist
    rw [Settings.get?_enterServers_list]
  · rename_i hlist
    have hservers : name ∉ serverNames := by
      simp only [serverNames, List.mem_cons, List.not_mem_nil, or_false, not_or]
      exact ⟨hlist, hserver, hca, hport, hcaport⟩
    rw [Settings.get?_enterServers hservers, NameMap.get?_insert, NameMap.get?_map]

/-- The final form depends on the values of names, not on their order. -/
theorem get?_finalForm_congr {r' : Resolver} {values' : NameMap (Option String)}
    (hcertname : r.certname = r'.certname) (h : ∀ name, values.get? name = values'.get? name) :
    (r.finalForm overrides values ttl).get? name = (r'.finalForm overrides values' ttl).get? name := by
  have halt : r.altNames overrides values = r'.altNames overrides values' := by
    unfold altNames
    rw [h, hcertname]
  have hbefore : ((values.map fun _ value => value.map Value.text).insert "ca_ttl"
        (ttl.map Value.seconds)).get? name =
      ((values'.map fun _ value => value.map Value.text).insert "ca_ttl"
        (ttl.map Value.seconds)).get? name := by
    rw [NameMap.get?_insert, NameMap.get?_insert, NameMap.get?_map, NameMap.get?_map, h]
  unfold finalForm
  rw [NameMap.get?_insert, NameMap.get?_insert, halt, h,
    Settings.get?_enterServers_congr hbefore]

/-- The final form depends on what overrides say about the settings that have values. -/
theorem finalForm_congr_overrides {overrides' : Overrides}
    (h : ∀ name ∈ values.names, overrides.get? name = overrides'.get? name) :
    r.finalForm overrides values ttl = r.finalForm overrides' values ttl := by
  have halt : r.altNames overrides values = r.altNames overrides' values := by
    unfold altNames
    cases hnames : values.get? "dns_alt_names" with
    | none => rfl
    | some value =>
      have hmem : "dns_alt_names" ∈ values.names := NameMap.isSome_get?_iff.mp (by simp [hnames])
      unfold NameMap.contains
      rw [h _ hmem]
  unfold finalForm
  rw [halt]

/-- What overrides say about names outside the table does not matter to the result. -/
theorem result_resolve_congr {overrides' : Overrides}
    (h : ∀ name ∈ r.table.names, overrides.get? name = overrides'.get? name) :
    (r.resolve overrides).result = (r.resolve overrides').result := by
  have htemplates := templates_congr h
  cases ht : r.templates overrides with
  | error failure =>
    rw [result_resolve_of_templates_error ht,
      result_resolve_of_templates_error (htemplates.symm.trans ht)]
  | ok t =>
    rw [result_resolve_of_templates ht, result_resolve_of_templates (htemplates.symm.trans ht)]
    congr 1
    funext ttl
    rw [finalForm_congr_overrides]
    intro name hname
    rw [← NameMap.isSome_get?_iff, isSome_get?_interpolateAll,
      (isOverlay_of_templates ht).names_eq] at hname
    exact h name hname

theorem isSome_get?_finalForm (h : name ∉ decidedNames) (hvalue : (values.get? name).isSome) :
    ((r.finalForm overrides values ttl).get? name).isSome := by
  rw [get?_finalForm_of_undecided h]
  split
  · rfl
  · split
    · rfl
    · rwa [Option.isSome_map]

/-- Only the time to live is a number of seconds. -/
theorem seconds_finalForm :
    (r.finalForm overrides values ttl).get? name = some (some (.seconds n)) ↔
      name = "ca_ttl" ∧ ttl = some n := by
  constructor
  · intro h
    have hbefore := Settings.seconds_enterServers (Settings.get?_of_insert h (by simp))
    rw [NameMap.get?_insert] at hbefore
    split at hbefore
    · rename_i hname
      exact ⟨hname, by simpa using hbefore⟩
    · rw [NameMap.get?_map] at hbefore
      -- interpolated values are texts
      cases hvalue : values.get? name with
      | none => simp [hvalue] at hbefore
      | some value => cases value <;> simp [hvalue] at hbefore
  · rintro ⟨rfl, rfl⟩
    exact get?_finalForm_ttl r overrides values (some n)

end Resolver

end CaSettings
