import CaSettings.Failure
import CaSettings.Path
import CaSettings.Text.LowerCase

/-!
# The host

What resolving asks of the machine it runs on:

* **`Host`** — the effective user, the host's name, the home directories, and the
  screen;
* **`Hooks`** — the two answers that settings are computed from: the name of
  the host's certificate, and the directory of its configuration.
-/

namespace CaSettings

/-- A screen with at least one column. -/
structure Display where
  width : Nat
  positive : 0 < width

/-- Facts about the machine. -/
structure Host where
  /-- The number of the effective user, where the system has such numbers. -/
  euid : Option Int
  /-- The fully qualified name of the host. -/
  fqdn : String
  /-- The home directories of its users. -/
  homes : Homes
  /-- The screen that output goes to. -/
  display : Display

/-- What computed settings get from the host. Asking for the directory fails
where it lies in a home directory that is not known. -/
structure Hooks where
  certname : String
  confdir : Except Failure String

/-- The configuration directory of the superuser. -/
def systemConfdir : String := "/etc/puppetlabs/puppet"

/-- The configuration directory of every other user. -/
def userConfdir : String := "~/.puppetlabs/etc/puppet"

namespace Host

/-- Whether the effective user is the superuser. -/
def isRoot (h : Host) : Bool := h.euid == some 0

/-- The name of the host's certificate. -/
def certname (h : Host) : String := Text.lower h.fqdn

/-- The configuration directory of the effective user. -/
def confdir (h : Host) : Except Failure String :=
  if h.isRoot then .ok systemConfdir
  else ((Path.parse userConfdir).expandUser h.homes).map Path.render

/-- The answers that computed settings get. -/
def hooks (h : Host) : Hooks := ⟨h.certname, h.confdir⟩

end Host

end CaSettings
