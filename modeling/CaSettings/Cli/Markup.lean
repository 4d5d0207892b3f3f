/-!
# Markup

A tag is a small letter or one of the signs `#`, `/` and `@` after an opening
bracket, and everything up to the next closing bracket, no opening bracket
between them. `Markup` is a text taken apart into tags and what stands between
them.

* **`Markup.parse`** takes a text apart, **`Markup.text`** puts it together;
* **`Markup.mapPieces`** puts it together from changed pieces.
-/

namespace CaSettings.Cli

/-- Text, then tags each followed by text. -/
structure Markup where
  lead : List Char
  rest : List (List Char × List Char)
deriving DecidableEq

namespace Markup

/-- Whether a character may follow the bracket that opens a tag. -/
def opensTag (c : Char) : Bool := c.isLower || c == '#' || c == '/' || c == '@'

/-- Whether a character is no bracket. -/
def isPlain (c : Char) : Bool := c != '[' && c != ']'

/-- The inside of a tag that was opened right before a text without tags, and
what follows the tag. -/
def tagInside? (cs : List Char) : Option (List Char × List Char) :=
  match cs.head?.any opensTag, cs.dropWhile isPlain with
  | true, ']' :: after => some (cs.takeWhile isPlain, after)
  | _, _ => none

/-- Put one more character in front. -/
def push (c : Char) (m : Markup) : Markup :=
  match if c = '[' then tagInside? m.lead else none with
  | some (inside, after) => ⟨[], ('[' :: inside ++ [']'], after) :: m.rest⟩
  | none => ⟨c :: m.lead, m.rest⟩

/-- Take a text apart. -/
def parse (cs : List Char) : Markup := cs.foldr push ⟨[], []⟩

/-- The pieces put together, each changed by `f`. -/
def mapPieces (f : List Char → List Char) (m : Markup) : List Char :=
  f m.lead ++ m.rest.flatMap fun piece => f piece.1 ++ f piece.2

/-- The text that was taken apart. -/
def text (m : Markup) : List Char := m.mapPieces id

/-! ## Nothing is lost -/

/-- A tag and what follows it are the text behind the opening bracket. -/
theorem tagInside?_eq_some {cs inside after : List Char}
    (h : tagInside? cs = some (inside, after)) : cs = inside ++ ']' :: after := by
  unfold tagInside? at h
  split at h
  · next hd =>
    simp only [Option.some.injEq, Prod.mk.injEq] at h
    rw [← h.1, ← h.2, ← hd, List.takeWhile_append_dropWhile]
  · simp at h

/-- A character put in front stands in front of the text. -/
theorem text_push (c : Char) (m : Markup) : (push c m).text = c :: m.text := by
  unfold push
  split
  · next inside after h =>
    split at h
    · next hc =>
      simp [text, mapPieces, hc, tagInside?_eq_some h]
    · simp at h
  · simp [text, mapPieces]

/-- The pieces of a text put together are the text. -/
theorem text_parse (cs : List Char) : (parse cs).text = cs := by
  induction cs with
  | nil => rfl
  | cons c cs ih =>
    show (push c (parse cs)).text = c :: cs
    rw [text_push, ih]

end Markup

end CaSettings.Cli
