import CaSettings.Text.Fields

/-!
# Subject alternative names

The setting `dns_alt_names` lists further names for a certificate. Each one is
a DNS name unless it says what it is, as in `IP:10.0.0.1`.
`formatAltNames` writes the list in full, the host's own name first.
-/

namespace CaSettings

open Text

/-- Whether a name says what it is: capital letters, then a colon. -/
def hasTypeTag (name : List Char) : Bool :=
  match name.takeWhile Char.isUpper, name.dropWhile Char.isUpper with
  | _ :: _, ':' :: _ => true
  | _, _ => false

/-- A name with its type in front. -/
def tagged (name : List Char) : List Char :=
  if hasTypeTag name then name else "DNS:".toList ++ name

/-- The names of a certificate for the host `certname`. -/
def formatAltNames (dnsAltNames certname : String) : String :=
  String.ofList (joinFields ", ".toList
    (("DNS:".toList ++ certname.toList) :: (entries ',' dnsAltNames.toList).map tagged))

end CaSettings
