import CaSettings.AltNames
import CaSettings.Defaults
import CaSettings.Duration
import CaSettings.Interpolation
import CaSettings.Log
import CaSettings.Value

/-!
# Resolving settings

`Resolver.resolve` turns what a configuration says into the value of every
setting:

1. what the configuration says takes the place of the defaults
   (`Resolver.templates`); names outside the table are ignored;
2. references between settings are replaced (`interpolateAll`);
3. some settings get their final form: `ca_ttl` becomes a number of seconds,
   `server_list` a list, of which the first entry becomes the server and the
   number of its service, and `subject_alt_names` is written from `dns_alt_names`.

Problems are collected next to the settings. What is ignored or circular is
noted in the log.
-/

namespace CaSettings

/-- What a configuration says about settings: a text, or that there is no value. -/
abbrev Overrides := NameMap (Option String)

/-- A table of settings, and the host's name for its certificate. -/
structure Resolver where
  table : DefaultTable
  certname : String

/-- The value of every setting, and the problems met on the way. -/
structure Resolution where
  settings : Settings
  problems : List Problem

/-! ## Final forms -/

/-- The seconds that a time to live comes to, and a problem if it cannot be read. -/
def resolveTtl : Option String → Except Failure (Option Nat × List Problem)
  | none => .ok (none, [])
  | some value =>
    match parseDuration value with
    | .error failure => .error failure
    | .ok (some seconds) => .ok (some seconds, [])
    | .ok none => .ok (none, [.badTtl value])

/-- Enter a text under two names. -/
def Settings.enterBoth (settings : Settings) (first second text : String) : Settings :=
  (settings.insert first (some (.text text))).insert second (some (.text text))

/-- Enter the server list. The host of its first entry is the server and the
certificate authority, and the second part of that entry, if it has one, is
the number of their service. -/
def Settings.enterServers (settings : Settings) (servers : List ServerEntry) : Settings :=
  let settings : Settings := settings.insert "server_list" (some (.servers servers))
  match servers with
  | [] => settings
  | first :: _ =>
    let settings := settings.enterBoth "server" "ca_server" first.host
    match first.service? with
    | none => settings
    | some service => settings.enterBoth "masterport" "ca_port" service

namespace Resolver

/-- The resolver of the default table. -/
def ofHooks (hooks : Hooks) : Resolver := ⟨defaultTable hooks, hooks.certname⟩

/-- The template of every setting: what the overrides say, or the default. -/
def templates (r : Resolver) (overrides : Overrides) : Except Failure Templates :=
  r.table.traverse fun name spec =>
    match overrides.get? name with
    | some value => .ok value
    | none => spec.template

/-- The overrides that the table does not know, sorted. -/
def ignored (r : Resolver) (overrides : Overrides) : List String :=
  sortNames (overrides.names.filter fun name => !r.table.contains name)

/-- The alternative names of the host's certificate; the empty text unless
`dns_alt_names` is asked for and has a value. -/
def altNames (r : Resolver) (overrides : Overrides) (values : NameMap (Option String)) :
    String :=
  match (values.get? "dns_alt_names").join with
  | some names =>
    if overrides.contains "dns_alt_names" then formatAltNames names r.certname else ""
  | none => ""

/-- Bring interpolated settings into their final form. -/
def finalForm (r : Resolver) (overrides : Overrides) (values : NameMap (Option String))
    (ttl : Option Nat) : Settings :=
  let settings : Settings :=
    (values.map fun _ value => value.map Value.text).insert "ca_ttl" (ttl.map Value.seconds)
  let servers := ServerList.parse (((values.get? "server_list").join).getD "")
  (settings.enterServers servers).insert "subject_alt_names"
    (some (.text (r.altNames overrides values)))

/-- Resolve the settings of a configuration. -/
def resolve (r : Resolver) (overrides : Overrides) : Traced Resolution := do
  Traced.noteNames "Ignoring unrecognised settings: " (r.ignored overrides)
  let templates ← Traced.ofExcept (r.templates overrides)
  let outcome := interpolateAll templates
  Traced.noteNames "Circular references among settings: " (sortNames outcome.circular)
  let (ttl, ttlProblems) ← Traced.ofExcept (resolveTtl (outcome.values.get? "ca_ttl").join)
  return ⟨r.finalForm overrides outcome.values ttl, outcome.problems ++ ttlProblems⟩

end Resolver

end CaSettings
