/-!
# Words

Setting names are words over the letters and digits of ASCII and the
underscore. A leading run of word characters is `takeWord`; what follows it
is `dropWord`.
-/

namespace CaSettings.Text

/-- The characters of a setting name. -/
def isWord (c : Char) : Bool := c.isAlphanum || c == '_'

/-- The longest run of word characters a text starts with. -/
def takeWord (cs : List Char) : List Char := cs.takeWhile isWord

/-- What follows the longest run of word characters. -/
def dropWord (cs : List Char) : List Char := cs.dropWhile isWord

end CaSettings.Text
