import CaSettings.Text.Blank
import CaSettings.Text.Emoji.Named
import CaSettings.Text.Fields
import CaSettings.Text.LowerCase

/-!
# Short codes

A short code is the name of an emoji between colons, in upper or lower case.
The name may be followed by `-emoji` or `-text`, which asks for the emoji as a
picture or as a sign.

* **`codeText`** — what a short code stands for. A code that is not known
  stands for itself;
* **`replaceShortCodes`** — a text with its short codes replaced, from left to
  right. A colon closes a code if no blank stands between it and the one before
  it, and then opens none.
-/

namespace CaSettings.Text

/-- How an emoji is to be shown. -/
inductive Presentation
  | unspecified
  | picture
  | sign
deriving DecidableEq

/-- The variation selector that asks for a presentation. -/
def Presentation.selector : Presentation → List Char
  | .unspecified => []
  | .picture => ['\ufe0f']
  | .sign => ['\ufe0e']

/-- The name in a short code, and the presentation behind it. -/
def splitPresentation (code : List Char) : List Char × Presentation :=
  match "-emoji".toList.isSuffixOf? code, "-text".toList.isSuffixOf? code with
  | some name, _ => (name, .picture)
  | none, some name => (name, .sign)
  | none, none => (code, .unspecified)

/-- What the short code with the given text between its colons stands for. -/
def codeText (code : List Char) : List Char :=
  let (name, presentation) := splitPresentation code
  match emojiNamed? (lower (String.ofList name)) with
  | some emoji => emoji ++ presentation.selector
  | none => ':' :: code ++ [':']

/-- Put the pieces between the colons of a text together, short codes replaced. -/
def joinCodes : List (List Char) → List Char
  | [] => []
  | [last] => last
  | [before, last] => before ++ ':' :: last
  | before :: code :: after :: rest =>
    if code.any isBlank then before ++ ':' :: joinCodes (code :: after :: rest)
    else before ++ codeText code ++ joinCodes (after :: rest)

/-- A text with its short codes replaced. -/
def replaceShortCodes (cs : List Char) : List Char := joinCodes (fields ':' cs)

end CaSettings.Text
