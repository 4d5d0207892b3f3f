import CaSettings.Cli.Markup
import CaSettings.Text.ShortCode
import CaSettings.Text.Wrap

/-!
# Text on the screen

How the program writes a text that comes from outside.

* **`shownLine`** — text that is shown among other things: a backslash before a
  bracket is dropped unless the bracket opens a tag, a single backslash at the
  end is doubled, short codes become emoji, some controls are dropped, tabs go
  to the next tab stop, and lines end at the width of the screen;
* **`plainLine`** — text that stands alone, without terminal sequences.
-/

namespace CaSettings.Cli

open Text

/-! ## Shown text -/

/-- Double a single backslash at the end. -/
def doubleLast (cs : List Char) : List Char :=
  match cs.reverse with
  | '\\' :: '\\' :: _ => cs
  | '\\' :: _ => cs ++ ['\\']
  | _ => cs

/-- Drop the backslash before each opening bracket. -/
def dropEscapes : List Char → List Char
  | [] => []
  | '\\' :: '[' :: cs => '[' :: dropEscapes cs
  | c :: cs => c :: dropEscapes cs

/-- The controls that are not written. -/
def isDropped (c : Char) : Bool :=
  c == '\x07' || c == '\x08' || c == '\x0b' || c == '\x0c' || c == '\r'

/-- The text of `cs` as it is shown. Tags and the text between them are looked
at each on its own, so no backslash acts on a tag and no short code reaches
over the end of one. -/
def shownChars (cs : List Char) : List Char :=
  ((Markup.parse (doubleLast cs)).mapPieces (replaceShortCodes ∘ dropEscapes)).filter
    (!isDropped ·)

/-- A line of fixed text, shown text and fixed text on a screen of width `w`. -/
def shownLine (w : Nat) (before : String) (content : String) (after : String) : String :=
  let shown := wrap w (before.toList ++ shownChars content.toList ++ after.toList)
  "\n".intercalate (shown.map String.ofList) ++ "\n"

/-! ## Terminal sequences -/

/-- Drop terminal sequences: an escape character, a bracket, digits and the
signs `;` and `?`, and a letter. `held` is the part of a sequence that was
read, and comes back if the sequence ends in another way. -/
def plainFrom : List Char → List Char → List Char
  | held, [] => held
  | held, c :: cs =>
    if c = '\x1b' then held ++ plainFrom [c] cs
    else
      match held with
      | [] => c :: plainFrom [] cs
      | [_] => if c = '[' then plainFrom (held ++ [c]) cs else held ++ c :: plainFrom [] cs
      | _ =>
        if c == ';' || c == '?' || c.isDigit then plainFrom (held ++ [c]) cs
        else if c.isAlpha then plainFrom [] cs
        else held ++ c :: plainFrom [] cs

/-- A text without terminal sequences, as a line of its own. -/
def plainLine (content : String) : String :=
  String.ofList (plainFrom [] content.toList) ++ "\n"

end CaSettings.Cli
