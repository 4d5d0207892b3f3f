import CaSettings.Text.Emoji.Flags
import CaSettings.Text.Emoji.Plain
import CaSettings.Text.Emoji.Toned

/-!
# Emoji by name

* **`SkinTone.applyTo`** gives an emoji a skin tone;
* **`emojiNamed?`** finds an emoji by its name. The name of an emoji with a skin
  tone is the name without it, an underscore, and the name of the tone.
-/

namespace CaSettings.Text

/-- A skin tone. -/
inductive SkinTone
  | light
  | mediumLight
  | medium
  | mediumDark
  | dark
deriving DecidableEq

namespace SkinTone

/-- The skin tones, the lightest first. -/
def all : List SkinTone := [.light, .mediumLight, .medium, .mediumDark, .dark]

/-- The name of a skin tone. -/
def name : SkinTone → String
  | .light => "light_skin_tone"
  | .mediumLight => "medium-light_skin_tone"
  | .medium => "medium_skin_tone"
  | .mediumDark => "medium-dark_skin_tone"
  | .dark => "dark_skin_tone"

/-- The character that gives the skin tone to the one before it. -/
def modifier : SkinTone → Char
  | .light => '🏻'
  | .mediumLight => '🏼'
  | .medium => '🏽'
  | .mediumDark => '🏾'
  | .dark => '🏿'

/-- An emoji with a skin tone: the modifier follows the first character and
takes the place of a variation selector. -/
def applyTo (tone : SkinTone) : List Char → List Char
  | person :: '\ufe0f' :: cs => person :: tone.modifier :: cs
  | person :: cs => person :: tone.modifier :: cs
  | [] => []

/-- The emoji of the given name with the skin tone, if the name ends in the
name of the tone. -/
def named? (tone : SkinTone) (name : String) : Option (List Char) := do
  let base ← ("_" ++ tone.name).toList.isSuffixOf? name.toList
  let emoji ← tonedEmoji.lookup (String.ofList base)
  return tone.applyTo emoji.toList

end SkinTone

/-- The emoji of the given name. -/
def emojiNamed? (name : String) : Option (List Char) :=
  ((plainEmoji.lookup name).map String.toList).or <|
    ((tonedEmoji.lookup name).map String.toList).or <|
      (flagNamed? name).or (SkinTone.all.findSome? (·.named? name))

end CaSettings.Text
