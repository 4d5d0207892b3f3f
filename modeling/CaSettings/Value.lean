import CaSettings.NameMap
import CaSettings.ServerList

/-!
# Values of settings

A setting holds a text, a length of time in whole seconds, or a list of
servers; it may also be known and hold nothing.
-/

namespace CaSettings

/-- What a setting can hold. -/
inductive Value
  | text (content : String)
  | seconds (count : Nat)
  | servers (list : List ServerEntry)
deriving DecidableEq

/-- Resolved settings, in order. A name bound to `none` is known without a value. -/
abbrev Settings := NameMap (Option Value)

end CaSettings
