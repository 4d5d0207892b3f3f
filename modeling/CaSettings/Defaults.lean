import CaSettings.Host
import CaSettings.NameMap

/-!
# The default table

Every setting that is known, in order, with what it holds when a configuration
does not say otherwise: a fixed text, a template over other settings, an answer
of the host, or nothing.
-/

namespace CaSettings

/-- Where the default of a setting comes from. -/
inductive DefaultSpec
  /-- A fixed text. -/
  | literal (value : String)
  /-- A template over other settings. -/
  | interpolated (template : String)
  /-- An answer of the host. -/
  | computed (answer : Except Failure String)
  /-- Known, without a default. -/
  | unset
  /-- An entry of a table that is no default; using it fails. -/
  | unsupported (content : String)

/-- The settings that are known, in order, and their defaults. -/
abbrev DefaultTable := NameMap DefaultSpec

/-- The template of a default. -/
def DefaultSpec.template : DefaultSpec → Except Failure (Option String)
  | .literal value => .ok (some value)
  | .interpolated template => .ok (some template)
  | .computed answer => answer.map some
  | .unset => .ok none
  | .unsupported content => .error (.unsupportedDefault content)

/-- The settings of a certificate authority and their defaults. -/
def defaultTable (hooks : Hooks) : DefaultTable where
  entries := [
    ("confdir", .computed hooks.confdir),
    ("vardir", .unset),
    ("ssldir", .interpolated "$confdir/ssl"),
    ("certdir", .interpolated "$ssldir/certs"),
    ("privatekeydir", .interpolated "$ssldir/private_keys"),
    ("publickeydir", .interpolated "$ssldir/public_keys"),
    ("requestdir", .interpolated "$ssldir/certificate_requests"),
    ("hostcert", .interpolated "$certdir/$certname.pem"),
    ("hostprivkey", .interpolated "$privatekeydir/$certname.pem"),
    ("hostpubkey", .interpolated "$publickeydir/$certname.pem"),
    ("localcacert", .interpolated "$certdir/ca.pem"),
    ("hostcrl", .interpolated "$ssldir/crl.pem"),
    ("cadir", .interpolated "$ssldir/ca"),
    ("cacert", .interpolated "$cadir/ca_crt.pem"),
    ("cakey", .interpolated "$cadir/ca_key.pem"),
    ("capub", .interpolated "$cadir/ca_pub.pem"),
    ("cacrl", .interpolated "$cadir/ca_crl.pem"),
    ("csrdir", .interpolated "$cadir/requests"),
    ("signeddir", .interpolated "$cadir/signed"),
    ("serial", .interpolated "$cadir/serial"),
    ("cert_inventory", .interpolated "$cadir/inventory.txt"),
    ("certname", .computed (.ok hooks.certname)),
    ("ca_name", .interpolated "Puppet CA: $certname"),
    ("dns_alt_names", .literal ""),
    ("ca_ttl", .literal "5y"),
    ("server", .literal "puppet"),
    ("server_list", .literal ""),
    ("masterport", .literal "8140"),
    ("ca_server", .interpolated "$server"),
    ("ca_port", .interpolated "$masterport"),
    ("environment", .literal "production")]

end CaSettings
