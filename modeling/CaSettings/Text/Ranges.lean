/-!
# Ranges of characters

A character class of Unicode is a list of ranges of code points, both ends
included, in ascending order. **`inRanges`** looks a character up.
-/

namespace CaSettings.Text

/-- Whether a character lies in one of the ranges. A range that starts behind
the character ends the search, because all further ones do too. -/
def inRanges : List (Nat × Nat) → Char → Bool
  | [], _ => false
  | (first, last) :: rest, c =>
    first ≤ c.toNat && (c.toNat ≤ last || inRanges rest c)

end CaSettings.Text
