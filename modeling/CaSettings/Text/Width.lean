import CaSettings.Text.Ranges
import CaSettings.Text.WidthTable

/-!
# The width of text

A screen is made of cells of equal size. A character takes up no cell, one or
two, and a text as many as its characters.

* **`charWidth`** and **`width`** count cells;
* **`padTo`** fills a text up with blanks, **`crop`** cuts it off;
* **`expandTabs`** replaces tabs by blanks.
-/

namespace CaSettings.Text

/-! ## Counting cells -/

/-- The cells that a character takes up. -/
def charWidth (c : Char) : Nat :=
  if inRanges widthlessRanges c then 0 else if inRanges wideRanges c then 2 else 1

/-- The cells that a text takes up. -/
def width (cs : List Char) : Nat := cs.foldl (fun n c => n + charWidth c) 0

/-- The width of the widest of some texts. -/
def widest (texts : List (List Char)) : Nat := texts.foldl (fun n cs => max n (width cs)) 0

/-! ## Texts of a given width -/

/-- A text filled up with blanks to a width. -/
def padTo (w : Nat) (cs : List Char) : List Char := cs ++ List.replicate (w - width cs) ' '

/-- A text cut off at a width. A character that would stick out is left out,
and blanks stand in its place. -/
def crop (w : Nat) : List Char → List Char
  | [] => []
  | c :: cs => if charWidth c ≤ w then c :: crop (w - charWidth c) cs else List.replicate w ' '

/-! ## Tabs -/

/-- The distance between two tab stops. -/
def tabSize : Nat := 8

/-- A line with its tabs filled up to the next tab stop, from a column on. -/
def expandTabs (column : Nat) : List Char → List Char
  | [] => []
  | '\t' :: cs =>
    let gap := tabSize - column % tabSize
    List.replicate gap ' ' ++ expandTabs (column + gap) cs
  | c :: cs => c :: expandTabs (column + charWidth c) cs

end CaSettings.Text
