/-!
# Lines

Text falls into lines at the line ends of Unicode: line feed, vertical tab,
form feed, carriage return, the separators U+001C to U+001E, next line,
line separator and paragraph separator. A carriage return followed by a
line feed is one line end.

* **`lines`** gives the lines without their ends. A line end closes the line
  before it, so a text that ends in one has no empty last line.
* **`unifyLineEnds`** turns carriage returns, alone or before a line feed,
  into line feeds. It is what reading a text file does before anything else
  looks at the text.
-/

namespace CaSettings.Text

/-- The characters that end a line. -/
def isLineEnd (c : Char) : Bool :=
  let n := c.toNat
  (10 ≤ n && n ≤ 13) || (28 ≤ n && n ≤ 30) || n == 0x85 || n == 0x2028 || n == 0x2029

/-- Put one more character in front of the first line. -/
def growLine (c : Char) : List (List Char) → List (List Char)
  | [] => [[c]]
  | line :: rest => (c :: line) :: rest

/-- The lines of a text, without their line ends. -/
def lines : List Char → List (List Char)
  | [] => []
  | '\r' :: '\n' :: cs => [] :: lines cs
  | c :: cs => if isLineEnd c then [] :: lines cs else growLine c (lines cs)

/-- Every line end written with a carriage return becomes a line feed. -/
def unifyLineEnds : List Char → List Char
  | [] => []
  | '\r' :: '\n' :: cs => '\n' :: unifyLineEnds cs
  | c :: cs => (if c = '\r' then '\n' else c) :: unifyLineEnds cs

end CaSettings.Text
