import CaSettings.Proofs.FinalForm
import CaSettings.Proofs.Interpolation.Meaning

/-!
# What the last steps change

After interpolation three steps work on the settings: the time to live is read, the
server list is read and decides the server and the number of its service, and the
alternative names are written. They own seven names (`ownedNames`):

* any other setting keeps its interpolated text (`Settings.Keeps`);
* the server and the certificate authority become the host of the first entry
  (`Resolver.get?_finalForm_host`), their services its second part
  (`Resolver.get?_finalForm_service`), and keep their texts where there is none.

Interpolation is over by then, so a text that refers to one of the seven holds what
that one was before (`last_steps_change_what_they_own`).
-/

namespace CaSettings

/-- The names that the last steps may enter values under. -/
def ownedNames : List String :=
  ["ca_ttl", "server_list", "subject_alt_names", "server", "ca_server", "masterport", "ca_port"]

/-- The servers of interpolated settings. -/
def serversOf (values : NameMap (Option String)) : List ServerEntry :=
  ServerList.parse ((values.get? "server_list").join.getD "")

namespace Settings

variable {settings : Settings} {name : String} {servers : List ServerEntry}

/-- A name keeps its interpolated value, and stays out if it has none. -/
def Keeps (settings : Settings) (values : NameMap (Option String)) (name : String) : Prop :=
  settings.get? name = (values.get? name).map (Option.map Value.text)

/-- The text that a setting holds, if it holds one. -/
def textOf (settings : Settings) (name : String) : Option String :=
  match settings.get? name with
  | some (some (.text content)) => some content
  | _ => none

theorem textOf_eq_some_iff {text : String} :
    settings.textOf name = some text ↔ settings.get? name = some (some (.text text)) := by
  unfold textOf
  split
  · rename_i content hget
    simp [hget]
  · rename_i hother
    exact ⟨fun h => by simp at h, fun h => absurd h (hother text)⟩

theorem Keeps.textOf_eq {values : NameMap (Option String)} (h : settings.Keeps values name) :
    settings.textOf name = (values.get? name).join := by
  unfold textOf
  rw [h]
  rcases values.get? name with _ | _ | text <;> rfl

/-- What keeps its interpolated value holds a value iff that is a text. -/
theorem Keeps.get?_eq_some_iff {values : NameMap (Option String)} {value : Value}
    (h : settings.Keeps values name) :
    settings.get? name = some (some value) ↔
      ∃ text, value = .text text ∧ values.get? name = some (some text) := by
  rw [h]
  constructor
  · intro hvalue
    obtain ⟨kept, hget, hmap⟩ := Option.map_eq_some_iff.mp hvalue
    obtain ⟨text, rfl, rfl⟩ := Option.map_eq_some_iff.mp hmap
    exact ⟨text, rfl, hget⟩
  · rintro ⟨text, rfl, hget⟩
    rw [hget]
    rfl

theorem get?_enterBoth_of_mem {first second text : String} (h : name = first ∨ name = second) :
    (settings.enterBoth first second text).get? name = some (some (.text text)) := by
  unfold enterBoth
  rw [NameMap.get?_insert, NameMap.get?_insert]
  rcases h with rfl | rfl
  · rw [if_pos rfl, ite_self]
  · rw [if_pos rfl]

/-- The server and the certificate authority are the host of the first entry. -/
theorem get?_enterServers_host (h : name = "server" ∨ name = "ca_server") :
    (settings.enterServers servers).get? name =
      match servers.head?.map ServerEntry.host with
      | none => settings.get? name
      | some host => some (some (.text host)) := by
  have hlist : name ≠ "server_list" := by rcases h with rfl | rfl <;> decide
  have hport : name ≠ "masterport" := by rcases h with rfl | rfl <;> decide
  have hcaport : name ≠ "ca_port" := by rcases h with rfl | rfl <;> decide
  unfold enterServers
  cases servers with
  | nil => exact (NameMap.get?_insert ..).trans (if_neg hlist)
  | cons first rest =>
    dsimp only [List.head?_cons, Option.map_some]
    cases first.service? with
    | none => exact get?_enterBoth_of_mem h
    | some service =>
      dsimp only
      rw [get?_enterBoth hport hcaport, get?_enterBoth_of_mem h]

/-- The number of their service is the second part of that entry, if it has one. -/
theorem get?_enterServers_service (h : name = "masterport" ∨ name = "ca_port") :
    (settings.enterServers servers).get? name =
      match servers.head?.bind ServerEntry.service? with
      | none => settings.get? name
      | some service => some (some (.text service)) := by
  have hlist : name ≠ "server_list" := by rcases h with rfl | rfl <;> decide
  have hserver : name ≠ "server" := by rcases h with rfl | rfl <;> decide
  have hca : name ≠ "ca_server" := by rcases h with rfl | rfl <;> decide
  have hbefore : (settings.insert "server_list" (some (.servers servers))).get? name =
      settings.get? name := (NameMap.get?_insert ..).trans (if_neg hlist)
  unfold enterServers
  cases servers with
  | nil => exact hbefore
  | cons first rest =>
    dsimp only [List.head?_cons, Option.bind_some]
    cases first.service? with
    | none =>
      dsimp only
      rw [get?_enterBoth hserver hca, hbefore]
    | some service => exact get?_enterBoth_of_mem h

end Settings

namespace Resolver

variable {r : Resolver} {overrides : Overrides} {values : NameMap (Option String)}
  {ttl : Option Nat} {name : String}

theorem keeps_finalForm (h : name ∉ ownedNames) :
    (r.finalForm overrides values ttl).Keeps values name := by
  simp only [ownedNames, List.mem_cons, List.not_mem_nil, or_false, not_or] at h
  obtain ⟨httl, hlist, halt, hserver, hca, hport, hcaport⟩ := h
  have hdecided : name ∉ decidedNames := by
    simp only [decidedNames, List.mem_cons, List.not_mem_nil, or_false, not_or]
    exact ⟨hserver, hca, hport, hcaport, halt⟩
  unfold Settings.Keeps
  rw [get?_finalForm_of_undecided hdecided, if_neg hlist, if_neg httl]

theorem get?_finalForm_list :
    (r.finalForm overrides values ttl).get? "server_list" =
      some (some (.servers (serversOf values))) := by
  rw [get?_finalForm_of_undecided (by decide), if_pos rfl]
  rfl

theorem get?_finalForm_altNames :
    (r.finalForm overrides values ttl).get? "subject_alt_names" =
      some (some (.text (r.altNames overrides values))) :=
  (NameMap.get?_insert ..).trans (if_pos rfl)

/-- Before the server list is entered, other settings have their interpolated texts. -/
theorem get?_before_servers (h : name ≠ "ca_ttl") :
    ((values.map fun _ value => value.map Value.text).insert "ca_ttl"
      (ttl.map Value.seconds)).get? name = (values.get? name).map (Option.map Value.text) := by
  rw [NameMap.get?_insert, if_neg h, NameMap.get?_map]

theorem get?_finalForm_host (h : name = "server" ∨ name = "ca_server") :
    (r.finalForm overrides values ttl).get? name =
      match (serversOf values).head?.map ServerEntry.host with
      | none => (values.get? name).map (Option.map Value.text)
      | some host => some (some (.text host)) := by
  have halt : name ≠ "subject_alt_names" := by rcases h with rfl | rfl <;> decide
  have httl : name ≠ "ca_ttl" := by rcases h with rfl | rfl <;> decide
  unfold finalForm
  rw [NameMap.get?_insert, if_neg halt, Settings.get?_enterServers_host h,
    get?_before_servers httl]
  rfl

theorem get?_finalForm_service (h : name = "masterport" ∨ name = "ca_port") :
    (r.finalForm overrides values ttl).get? name =
      match (serversOf values).head?.bind ServerEntry.service? with
      | none => (values.get? name).map (Option.map Value.text)
      | some service => some (some (.text service)) := by
  have halt : name ≠ "subject_alt_names" := by rcases h with rfl | rfl <;> decide
  have httl : name ≠ "ca_ttl" := by rcases h with rfl | rfl <;> decide
  unfold finalForm
  rw [NameMap.get?_insert, if_neg halt, Settings.get?_enterServers_service h,
    get?_before_servers httl]
  rfl

end Resolver

/-- **The last steps change what they own and nothing else.** A resolution, compared with
the interpolated settings that it was made from:

* other names keep their values, and so a text that refers to one of the seven holds
  what that one was before;
* without a server, the four names that a server decides keep theirs;
* with one, its host is entered twice, and so is its service if there is one;
* the time to live is a number or nothing, and has one problem at most. -/
theorem last_steps_change_what_they_own (r : Resolver) (overrides : Overrides)
    (resolution : Resolution) (h : (r.resolve overrides).result = .ok resolution) :
    ∃ t values, r.templates overrides = .ok t ∧ values = (interpolateAll t).values ∧
      (∀ name, name ∉ ownedNames → resolution.settings.Keeps values name) ∧
      (∀ name text, name ∉ ownedNames → t.textOf name = some text → ¬ t.LeadsToCircle name →
        resolution.settings.get? name = some (some (.text
          (interpolate (fun m => if m = name then none else (values.get? m).join) text).1))) ∧
      resolution.settings.get? "server_list" = some (some (.servers (serversOf values))) ∧
      (serversOf values = [] → ∀ name ∈ ["server", "ca_server", "masterport", "ca_port"],
        resolution.settings.Keeps values name) ∧
      (∀ first rest, serversOf values = first :: rest →
        (∀ name ∈ ["server", "ca_server"],
          resolution.settings.get? name = some (some (.text first.host))) ∧
        ∀ name ∈ ["masterport", "ca_port"],
          (∀ service, first.service? = some service →
            resolution.settings.get? name = some (some (.text service))) ∧
          (first.service? = none → resolution.settings.Keeps values name)) ∧
      ∃ (ttl : Option Nat) (problems : List Problem),
        resolution.settings.get? "ca_ttl" = some (ttl.map Value.seconds) ∧
        resolution.problems = (interpolateAll t).problems ++ problems ∧
        (problems = [] ∨ ∃ text, problems = [.badTtl text]) := by
  obtain ⟨t, ttl, problems, ht, httl, hsettings, hproblems⟩ := Resolver.result_resolve_eq_ok h
  refine ⟨t, _, ht, rfl, ?_, ?_, ?_, ?_, ?_, ttl, problems, ?_, hproblems,
    Resolver.resolveTtl_problems httl⟩
  all_goals rw [hsettings]
  · exact fun name => Resolver.keeps_finalForm
  · intro name text howned htext hcircle
    have hend : ¬ t.Endless name := fun hend => hcircle (Templates.leadsToCircle_of_endless hend)
    rw [Resolver.keeps_finalForm howned,
      Option.join_eq_some_iff.mp ((meaning_interpolateAll t).filled name text htext hend)]
    rfl
  · exact Resolver.get?_finalForm_list
  · intro hnil name hname
    have hcases : (name = "server" ∨ name = "ca_server") ∨
        (name = "masterport" ∨ name = "ca_port") := by
      simpa only [List.mem_cons, List.not_mem_nil, or_false, or_assoc] using hname
    rcases hcases with hhost | hservice
    · rw [Settings.Keeps, Resolver.get?_finalForm_host hhost, hnil]
      rfl
    · rw [Settings.Keeps, Resolver.get?_finalForm_service hservice, hnil]
      rfl
  · intro first rest hservers
    refine ⟨fun name hname => ?_, fun name hname => ⟨fun service hservice => ?_, fun hnone => ?_⟩⟩
    · rw [Resolver.get?_finalForm_host (by simpa using hname), hservers]
      rfl
    · rw [Resolver.get?_finalForm_service (by simpa using hname), hservers, List.head?_cons,
        Option.bind_some, hservice]
    · rw [Settings.Keeps, Resolver.get?_finalForm_service (by simpa using hname), hservers,
        List.head?_cons, Option.bind_some, hnone]
  · exact Resolver.get?_finalForm_ttl r overrides _ ttl

/-! ### Texts that refer to what the last steps change -/

/-- A table whose texts refer to the seven names, without a name for the service of the
certificate authority. -/
def shadowed : Resolver where
  table.entries := [
    ("limit", .interpolated "$ca_ttl at $server:$masterport"),
    ("server_list", .interpolated "$ca_server:9140:tls,spare"),
    ("hosts", .interpolated "<$server_list>"),
    ("ca_server", .interpolated "ca.$server"),
    ("server", .literal "puppet"),
    ("masterport", .literal "8140"),
    ("ca_ttl", .literal "5y")]
  certname := "host"

def shadowedOverrides : Overrides := .ofList [("ca_ttl", some "soon"), ("server", some "lab")]

def shadowedTemplates : Templates where
  entries := [
    ("limit", some "$ca_ttl at $server:$masterport"),
    ("server_list", some "$ca_server:9140:tls,spare"),
    ("hosts", some "<$server_list>"),
    ("ca_server", some "ca.$server"),
    ("server", some "lab"),
    ("masterport", some "8140"),
    ("ca_ttl", some "soon")]

theorem last_steps_change_what_they_own_shadowed :
    ∃ resolution, (shadowed.resolve shadowedOverrides).result = .ok resolution ∧
      resolution.settings.get? "limit" = some (some (.text "soon at lab:8140")) ∧
      resolution.settings.get? "hosts" = some (some (.text "<ca.lab:9140:tls,spare>")) ∧
      (∀ name ∈ ["server", "ca_server"],
        resolution.settings.get? name = some (some (.text "ca.lab"))) ∧
      (∀ name ∈ ["masterport", "ca_port"],
        resolution.settings.get? name = some (some (.text "9140"))) ∧
      (resolution.problems = [] ∨ ∃ text, resolution.problems = [.badTtl text]) := by
  have htemplates : shadowed.templates shadowedOverrides = .ok shadowedTemplates := rfl
  have httl : resolveTtl shadowedTemplates.ttlText = .ok (none, [.badTtl "soon"]) := by
    decide +kernel
  have hresult := Resolver.result_resolve_of_resolveTtl htemplates httl
  refine ⟨_, hresult, ?_⟩
  obtain ⟨t, values, ht, rfl, hkept, -, -, -, hservers, -, problems, -, hproblems, hone⟩ :=
    last_steps_change_what_they_own shadowed shadowedOverrides _ hresult
  obtain rfl := Except.ok.inj (htemplates.symm.trans ht)
  have hlist : serversOf (interpolateAll shadowedTemplates).values =
      [⟨"ca.lab", ["9140", "tls"]⟩, ⟨"spare", []⟩] := by decide +kernel
  obtain ⟨hhost, hservice⟩ := hservers _ _ hlist
  have hlimit : (interpolateAll shadowedTemplates).values.get? "limit" =
      some (some "soon at lab:8140") := by decide +kernel
  have hhosts : (interpolateAll shadowedTemplates).values.get? "hosts" =
      some (some "<ca.lab:9140:tls,spare>") := by decide +kernel
  have hnone : (interpolateAll shadowedTemplates).problems = [] := by decide +kernel
  refine ⟨?_, ?_, hhost, fun name hname => (hservice name hname).1 _ rfl, ?_⟩
  · rw [hkept "limit" (by decide), hlimit]
    rfl
  · rw [hkept "hosts" (by decide), hhosts]
    rfl
  · rw [hproblems, hnone, List.nil_append]
    exact hone

end CaSettings
