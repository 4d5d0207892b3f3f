import CaSettings.Text.Blank
import CaSettings.Text.Word

/-!
# Lines of a configuration file

A line opens a section (`[name]`), gives a setting (`key = value`), or says
nothing: blank lines, comments and anything that is not understood are passed
over.

* **`ConfLine.read`** reads a line;
* **`withoutMetadata`** is the value of a setting without the note on owner
  and mode that may follow it in braces, as in `/var/lib {owner = service}`.
-/

namespace CaSettings

open Text

/-- What a line of a configuration file says. -/
inductive ConfLine
  | silent
  | header (name : String)
  | setting (key value : String)
deriving DecidableEq

/-! ## Metadata -/

/-- What stands before the braces at the end of a text, if the braces hold none. -/
def beforeBraces (cs : List Char) : Option (List Char) :=
  match cs.reverse with
  | '}' :: inner =>
    match inner.dropWhile fun c => c != '{' && c != '}' with
    | '{' :: before => some before.reverse
    | _ => none
  | _ => none

/-- A text without the last block in braces and the blanks before it. A block
that no blank separates from the text before it belongs to the text. -/
def withoutMetadata (cs : List Char) : List Char :=
  match beforeBraces cs with
  | some before => if trimEnd before = before then cs else trimEnd before
  | none => cs

/-! ## Reading -/

namespace ConfLine

/-- The name in the brackets of a header: the trimmed text, or the last of the
blanks when there is nothing else. -/
def headerName (inside : List Char) : List Char :=
  match trim inside with
  | [] => inside.drop (inside.length - 1)
  | name => name

/-- The rest of a line after a header: blanks, and a comment if any. -/
def isHeaderEnd (cs : List Char) : Bool :=
  match trimStart cs with
  | [] => true
  | c :: _ => c == '#'

/-- Read a line that starts at a character that is not blank as a header. -/
def header? : List Char → Option String
  | '[' :: cs =>
    let inside := cs.takeWhile (· != ']')
    match cs.dropWhile (· != ']') with
    | ']' :: after =>
      if inside ≠ [] ∧ isHeaderEnd after then some (String.ofList (headerName inside)) else none
    | _ => none
  | _ => none

/-- Read a line that starts at a character that is not blank as a setting. -/
def setting? (cs : List Char) : Option (String × String) :=
  match takeWord cs, trimStart (dropWord cs) with
  | [], _ => none
  | key, '=' :: value =>
    some (String.ofList (key.map Char.toLower), String.ofList (withoutMetadata (trim value)))
  | _, _ => none

/-- Read a line. -/
def read (line : List Char) : ConfLine :=
  let cs := trimStart line
  match cs with
  | [] => .silent
  | '#' :: _ => .silent
  | _ =>
    match header? cs, setting? cs with
    | some name, _ => .header name
    | none, some (key, value) => .setting key value
    | none, none => .silent

end ConfLine

end CaSettings
