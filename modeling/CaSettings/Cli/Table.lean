import CaSettings.Cli.Shown
import CaSettings.Text.Lines

/-!
# Tables

A table of two columns with a heavy frame around its head:

```text
┏━━━━━━━━━┳━━━━━━━┓
┃ Setting ┃ Value ┃
┡━━━━━━━━━╇━━━━━━━┩
│ serial  │ 0001  │
└─────────┴───────┘
```

Each column is as wide as its widest cell, with a blank on either side, as long
as the table fits on the screen; else the wider column gives way, and columns of
one width give way alike (`columnWidths`). A name stays on one line and is
shortened, a value goes on as many lines as it takes. Tabs do not count for the
width of a column. A column without room for one cell between its blanks is empty.
-/

namespace CaSettings.Cli

open Text

/-! ## Columns -/

/-- The width of a column: the width of the widest line of its cells, and of the
blanks on either side. -/
def columnWidth (cells : List (List Char)) : Nat := widest (cells.flatMap lines) + 2

/-- Half of `n`. Between two numbers, the even one is taken. -/
def halfEven (n : Nat) : Nat := n / 2 + n % 2 * (n / 2 % 2)

/-- The widths that columns of width `a` and `b` get in a room of given width. -/
def columnWidths (room a b : Nat) : Nat × Nat :=
  let a := min a room
  let b := min b room
  if a + b ≤ room then (a, b)
  else if 2 * min a b < room then if a < b then (a, room - a) else (room - b, b)
  else
    let first := min a b - halfEven (2 * min a b - room)
    (first, room - first)

/-! ## Cells -/

/-- The line of a name in a column of width `w`, with dots for what is cut off. -/
def nameLine (w : Nat) (cs : List Char) : List Char :=
  if width cs ≤ w - 2 then cs else crop (w - 3) cs ++ ['…']

/-- The lines of a value in a column of width `w`. -/
def valueLines (w : Nat) (cs : List Char) : List (List Char) :=
  if w ≤ 2 then [] else wrap (w - 2) cs

/-- A line of a cell in a column of width `w`. -/
def cellLine (w : Nat) (cs : List Char) : List Char :=
  if w ≤ 2 then List.replicate w ' ' else ' ' :: padTo (w - 2) cs ++ [' ']

/-! ## Lines -/

/-- A line of a frame: its left end, its stroke, its crossing and its right end. -/
def frameLine (left stroke crossing right : Char) (w₁ w₂ : Nat) : List Char :=
  left :: List.replicate w₁ stroke ++ crossing :: List.replicate w₂ stroke ++ [right]

/-- A row: the lines of its cells side by side between bars. -/
def rowLines (bar : Char) (w₁ w₂ : Nat) (names values : List (List Char)) : List (List Char) :=
  List.zipWithAll (fun name value =>
    bar :: cellLine w₁ (name.getD []) ++ bar :: cellLine w₂ (value.getD []) ++ [bar]) names values

/-- What bars take up in a line of a table. -/
def barWidth : Nat := 3

/-- A table with a head and rows, line by line, on a screen of width `w`. In the head,
the name stands on the last line of the value. -/
def table (w : Nat) (head : String × String) (rows : List (String × String)) : String :=
  let chars := fun (row : String × String) => (shownChars row.1.toList, shownChars row.2.toList)
  let head := chars head
  let cells := rows.map chars
  let (w₁, w₂) := columnWidths (w - barWidth) (columnWidth ((head :: cells).map Prod.fst))
    (columnWidth ((head :: cells).map Prod.snd))
  let values := valueLines w₂ head.2
  let all :=
    [frameLine '┏' '━' '┳' '┓' w₁ w₂] ++
    rowLines '┃' w₁ w₂ (List.replicate (values.length - 1) [] ++ [nameLine w₁ head.1]) values ++
    [frameLine '┡' '━' '╇' '┩' w₁ w₂] ++
    cells.flatMap (fun row => rowLines '│' w₁ w₂ [nameLine w₁ row.1] (valueLines w₂ row.2)) ++
    [frameLine '└' '─' '┴' '┘' w₁ w₂]
  String.join (all.map fun line => String.ofList (crop w line) ++ "\n")

end CaSettings.Cli
