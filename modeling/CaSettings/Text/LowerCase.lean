import CaSettings.Text.CaseTable
import CaSettings.Text.Ranges

/-!
# Lower case

`lower` maps a text to lower case by the full rules of Unicode:

* most characters map to one other character (`lowerRanges`) or to themselves;
* capital I with a dot above (U+0130) becomes a small i and a combining dot;
* capital sigma becomes the final form where it ends a word: some letter
  stands before it and none after it, characters of `caseIgnorableRanges`
  passed over (`endsWord`).
-/

namespace CaSettings.Text

/-- The lower-case form of a character, its context left aside. -/
def lowerChar (c : Char) : Char :=
  match lowerRanges.find? (·.holds c.toNat) with
  | some r => Char.ofNat (c.toNat + r.shift).toNat
  | none => c

/-- Whether the nearest character that is not passed over has a case. -/
def meetsCased (cs : List Char) : Bool :=
  match cs.dropWhile fun c => inRanges caseIgnorableRanges c with
  | [] => false
  | c :: _ => inRanges casedRanges c

/-- Whether a letter between `before`, read backwards, and `after` ends a
word of two letters or more. -/
def endsWord (before after : List Char) : Bool := meetsCased before && !meetsCased after

/-- Lower-case a text of which `before`, read backwards, comes first. -/
def lowerFrom (before : List Char) : List Char → List Char
  | [] => []
  | c :: cs =>
    let image :=
      if c = 'Σ' then [if endsWord before cs then 'ς' else 'σ']
      else if c = 'İ' then ['i', '\u0307']
      else [lowerChar c]
    image ++ lowerFrom (c :: before) cs

/-- The lower-case form of a text. -/
def lower (s : String) : String := String.ofList (lowerFrom [] s.toList)

end CaSettings.Text
