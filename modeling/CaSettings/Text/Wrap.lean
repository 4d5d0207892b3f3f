import CaSettings.Text.Blank
import CaSettings.Text.Fields
import CaSettings.Text.Width

/-!
# Lines of limited width

A text that is shown goes into lines of limited width.

* **`words`** — a line as words, each with the blanks behind it;
* **`layFrom`** — words laid on lines. A word goes on the line begun if it fits
  without its blanks, else on the next line; a word wider than a line begins
  its own line and is cut into pieces as wide as a line;
* **`fitTo`** — the end of a line: blanks that stick out are dropped;
* **`wrap`** — the lines of a text. Line feeds always end a line.
-/

namespace CaSettings.Text

/-! ## Words -/

/-- Put one more character in front of words. A blank before a character that
is none ends a word. -/
def growWords (c : Char) : List (List Char) → List (List Char)
  | [] => [[c]]
  | word :: rest =>
    if isBlank c && word.head?.all (!isBlank ·) then [c] :: word :: rest else (c :: word) :: rest

/-- Join the blanks that a line starts with to its first word. -/
def joinIndent : List (List Char) → List (List Char)
  | indent :: word :: rest =>
    if indent.all isBlank then (indent ++ word) :: rest else indent :: word :: rest
  | short => short

/-- The words of a line, each with the blanks behind it. -/
def words (cs : List Char) : List (List Char) := joinIndent (cs.foldr growWords [])

/-- A character put in front of words stands in front of their text. -/
theorem flatten_growWords (c : Char) (ws : List (List Char)) :
    (growWords c ws).flatten = c :: ws.flatten := by
  unfold growWords
  split
  · rfl
  · split <;> rfl

/-- The words of a line put together are the line. -/
theorem flatten_words (cs : List Char) : (words cs).flatten = cs := by
  have joined (ws : List (List Char)) : (joinIndent ws).flatten = ws.flatten := by
    unfold joinIndent
    split
    · split <;> simp
    · rfl
  rw [words, joined]
  induction cs with
  | nil => rfl
  | cons c cs ih => rw [List.foldr_cons, flatten_growWords, ih]

/-! ## Laying words -/

/-- Cut a text into pieces no wider than `w`, each as long as it can be: the
first piece, of which `used` cells are taken, and the others. -/
def piecesFrom (w used : Nat) : List Char → List Char × List (List Char)
  | [] => ([], [])
  | c :: cs =>
    if used + charWidth c ≤ w then
      let (first, others) := piecesFrom w (used + charWidth c) cs
      (c :: first, others)
    else
      let (first, others) := piecesFrom w (charWidth c) cs
      ([], (c :: first) :: others)

/-- The pieces of a text, as the lines that it fills and the line that it begins. -/
def cutPieces (w : Nat) (cs : List Char) : List (List Char) × List Char :=
  let (first, others) := piecesFrom w 0 cs
  ((first :: others).dropLast, (first :: others).getLastD [])

/-- Lay words on lines of width `w`, of which `line` is begun. The empty piece in front of
a character that is wider than a line takes no line of its own at the start. -/
def layFrom (w : Nat) (line : List Char) : List (List Char) → List (List Char)
  | [] => [line]
  | word :: rest =>
    let needed := width (trimEnd word)
    if width line + needed ≤ w then layFrom w (line ++ word) rest
    else if needed ≤ w then line :: layFrom w word rest
    else
      let (filled, begun) := cutPieces w word
      (if line.isEmpty then filled.dropWhile List.isEmpty else line :: filled) ++
        layFrom w begun rest

/-! ## Ends of lines -/

/-- A line as it is shown on width `w`: of more characters than `w`, blanks at
the end are dropped as far as there are too many characters, and what is then
too wide is cut off. -/
def fitTo (w : Nat) (line : List Char) : List Char :=
  crop w (line.take (max w (trimEnd line).length))

/-- The lines of a text on width `w`. -/
def wrap (w : Nat) (cs : List Char) : List (List Char) :=
  (fields '\n' cs).flatMap fun line =>
    (layFrom w [] (words (expandTabs 0 line))).map (fitTo w)

end CaSettings.Text
