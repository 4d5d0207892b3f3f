/-!
# Blank characters

`isBlank` is the class of characters that configuration text treats as
padding: the white space of Unicode together with the four separator
controls U+001C to U+001F. Around that class:

* **`trimStart`** and **`trimEnd`** remove blanks from one end;
* **`trim`** removes them from both.
-/

namespace CaSettings.Text

/-- The 29 characters that count as padding. -/
def isBlank (c : Char) : Bool :=
  let n := c.toNat
  (9 ≤ n && n ≤ 13) || (28 ≤ n && n ≤ 32) || n == 0x85 || n == 0xA0 ||
    n == 0x1680 || (0x2000 ≤ n && n ≤ 0x200A) || n == 0x2028 || n == 0x2029 ||
    n == 0x202F || n == 0x205F || n == 0x3000

/-- Text without the blanks it starts with. -/
def trimStart (cs : List Char) : List Char := cs.dropWhile isBlank

/-- Text without the blanks it ends with. -/
def trimEnd (cs : List Char) : List Char := (cs.reverse.dropWhile isBlank).reverse

/-- Text without the blanks at either end. -/
def trim (cs : List Char) : List Char := trimEnd (trimStart cs)

end CaSettings.Text
