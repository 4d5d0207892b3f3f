import CaSettings.Failure
import CaSettings.NameMap
import CaSettings.Text.Word

/-!
# Templates

The text of a setting may refer to other settings: a dollar sign and the
longest run of word characters after it stand for the value of the setting of
that name. `Template` is such a text taken apart into literal text and
references in turn.

* **`Template.parse`** takes a text apart, **`Template.text`** puts it together;
* **`references`** lists the names that a text refers to, repetitions included;
* **`interpolate`** replaces every reference by a value, or leaves the whole
  text alone when one of them has none. Replaced text is not looked at again;
* **`interpolateScalars`** does the same with values that are numbers and truth
  values as well as texts.
-/

namespace CaSettings

open Text

/-- Literal text, then references each followed by literal text. -/
structure Template where
  lead : List Char
  rest : List (String × List Char)
deriving DecidableEq

namespace Template

/-- Put one more character in front. A dollar sign before a word character
turns the leading run of word characters into a reference. -/
def push (c : Char) (t : Template) : Template :=
  if c = '$' ∧ takeWord t.lead ≠ [] then
    { lead := [], rest := (String.ofList (takeWord t.lead), dropWord t.lead) :: t.rest }
  else
    { lead := c :: t.lead, rest := t.rest }

/-- Take a text apart. -/
def parse (cs : List Char) : Template := cs.foldr push ⟨[], []⟩

/-- Literal text and references put together, `f` giving the text of a reference. -/
def assemble (f : String → List Char) (t : Template) : List Char :=
  t.lead ++ t.rest.flatMap fun piece => f piece.1 ++ piece.2

/-- The text that a template was taken from. -/
def text (t : Template) : List Char := t.assemble fun name => '$' :: name.toList

/-- The names referred to, from left to right. -/
def names (t : Template) : List String := t.rest.map Prod.fst

/-- The text with every reference replaced by its value. -/
def fill (known : String → Option String) (t : Template) : List Char :=
  t.assemble fun name => ((known name).getD "").toList

end Template

/-- The names that a text refers to, from left to right. -/
def references (value : String) : List String := (Template.parse value.toList).names

/-- The names that a text refers to and that have no value, from left to right. -/
def unresolvedIn (known : String → Option String) (value : String) : List String :=
  (references value).filter fun name => (known name).isNone

/-- The text with its references replaced, and the problems that kept it as it was. -/
def interpolate (known : String → Option String) (value : String) : String × List Problem :=
  match unresolvedIn known value with
  | [] => (String.ofList ((Template.parse value.toList).fill known), [])
  | missing => (value, missing.map fun name => .unresolved name value)

/-! ## Values of other kinds -/

/-- A value that a reference can be replaced by. -/
inductive Scalar
  | text (content : String)
  | integer (number : Int)
  | boolean (truth : Bool)

/-- How a value is written into a text. -/
def Scalar.written : Scalar → String
  | .text content => content
  | .integer number => toString number
  | .boolean true => "True"
  | .boolean false => "False"

/-- Whether a value is a number of more digits than are written. -/
def Scalar.isTooLong : Scalar → Bool
  | .integer number => decide (maxDigits < (toString number.natAbs).length)
  | _ => false

/-- The text with its references replaced by values of any kind; `none` stands for a
name without a value. Writing a number that is too long fails. -/
def interpolateScalars (known : NameMap (Option Scalar)) (value : String) :
    Except Failure (String × List Problem) :=
  let scalar? := fun name => (known.get? name).join
  if (references value).any fun name => (scalar? name).any Scalar.isTooLong then
    .error .numberTooLong
  else .ok (interpolate (fun name => (scalar? name).map Scalar.written) value)

end CaSettings
