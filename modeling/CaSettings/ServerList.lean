import CaSettings.Text.Fields

/-!
# Server lists

The setting `server_list` names hosts in order of preference, each one with
the number of its service if it needs one: `ca1:8140,ca2`. An entry is the
fields between the colons of a comma-separated piece, empty fields left out,
so that an entry always has a host.

* **`ServerList.parse`** reads the text of the setting;
* **`ServerList.render`** writes entries the way they are shown.
-/

namespace CaSettings

open Text

/-- One server: its host, and what follows after colons. -/
structure ServerEntry where
  host : String
  further : List String
deriving DecidableEq

namespace ServerEntry

/-- The parts of an entry, the host first. -/
def parts (e : ServerEntry) : List String := e.host :: e.further

/-- The second part, which is where the number of the service stands. -/
def service? (e : ServerEntry) : Option String := e.further.head?

/-- The entry with the given parts, if there is any. -/
def ofParts? : List String → Option ServerEntry
  | [] => none
  | host :: further => some ⟨host, further⟩

/-- The entry that a piece of a list stands for, if any field is not empty. -/
def parse? (piece : List Char) : Option ServerEntry :=
  ofParts? (((fields ':' piece).filter (!·.isEmpty)).map String.ofList)

/-- The parts with colons between them. -/
def render (e : ServerEntry) : List Char := joinFields [':'] (e.parts.map String.toList)

end ServerEntry

namespace ServerList

/-- The entries of a server list, in order. -/
def parse (text : String) : List ServerEntry :=
  (entries ',' text.toList).filterMap ServerEntry.parse?

/-- Entries with commas between them. -/
def render (servers : List ServerEntry) : String :=
  String.ofList (joinFields [','] (servers.map ServerEntry.render))

end ServerList

end CaSettings
