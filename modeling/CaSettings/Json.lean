import CaSettings.Text.Quoted

/-!
# Writing JSON

`Json` is a document of texts, whole numbers, arrays, and objects whose names
keep their order. There are two ways of writing it:

* **`Json.compact`** — on one line and in ASCII, every other character written
  by its UTF-16 code units;
* **`Json.indented`** — spread over lines, two blanks a level, with only those
  characters escaped that JSON does not allow in a text.
-/

namespace CaSettings

open Text

/-- A JSON document. -/
inductive Json
  | null
  | number (n : Nat)
  | text (content : String)
  | array (items : List Json)
  | object (members : List (String × Json))

namespace Json

/-! ## Texts -/

/-- A UTF-16 code unit in an escape. -/
def escapeUnit (n : Nat) : List Char := '\\' :: 'u' :: hexDigits 4 n

/-- The escape of a character, by its letter or by its code units. -/
def escapeChar (c : Char) : List Char :=
  match c with
  | '"' => ['\\', '"']
  | '\\' => ['\\', '\\']
  | '\n' => ['\\', 'n']
  | '\r' => ['\\', 'r']
  | '\t' => ['\\', 't']
  | '\x08' => ['\\', 'b']
  | '\x0c' => ['\\', 'f']
  | _ =>
    let n := c.toNat
    if n ≤ 0xFFFF then escapeUnit n
    else escapeUnit (0xD800 + (n - 0x10000) / 0x400) ++ escapeUnit (0xDC00 + (n - 0x10000) % 0x400)

/-- Whether JSON does not allow a character in a text as it is. -/
def mustEscape (c : Char) : Bool := c == '"' || c == '\\' || c.toNat < 0x20

/-- A text between quotes; `escape` says which characters are escaped. -/
def writeText (escape : Char → Bool) (s : String) : String :=
  String.ofList ('"' :: s.toList.flatMap (fun c => if escape c then escapeChar c else [c]) ++ ['"'])

/-! ## Documents -/

mutual

/-- A document on one line, in ASCII. -/
def compact : Json → String
  | .null => "null"
  | .number n => toString n
  | .text s => writeText (fun c => mustEscape c || 0x7E < c.toNat) s
  | .array items => "[" ++ ", ".intercalate (compactItems items) ++ "]"
  | .object members => "\x7b" ++ ", ".intercalate (compactMembers members) ++ "\x7d"

/-- The items of an array on one line each. -/
def compactItems : List Json → List String
  | [] => []
  | item :: rest => item.compact :: compactItems rest

/-- The members of an object on one line each. -/
def compactMembers : List (String × Json) → List String
  | [] => []
  | (name, value) :: rest =>
    (writeText (fun c => mustEscape c || 0x7E < c.toNat) name ++ ": " ++ value.compact) ::
      compactMembers rest

end

/-- The start of a line at a level. -/
def newline (level : Nat) : String := "\n" ++ String.ofList (List.replicate (2 * level) ' ')

/-- Parts between brackets, each on lines of its own. -/
def block (opening closing : String) (level : Nat) (parts : List String) : String :=
  if parts.isEmpty then opening ++ closing
  else
    opening ++ newline (level + 1) ++ ("," ++ newline (level + 1)).intercalate parts ++
      newline level ++ closing

mutual

/-- A document over lines, from a level on. -/
def indentedAt (level : Nat) : Json → String
  | .null => "null"
  | .number n => toString n
  | .text s => writeText mustEscape s
  | .array items => block "[" "]" level (indentedItems (level + 1) items)
  | .object members => block "\x7b" "\x7d" level (indentedMembers (level + 1) members)

/-- The items of an array at a level. -/
def indentedItems (level : Nat) : List Json → List String
  | [] => []
  | item :: rest => item.indentedAt level :: indentedItems level rest

/-- The members of an object at a level. -/
def indentedMembers (level : Nat) : List (String × Json) → List String
  | [] => []
  | (name, value) :: rest =>
    (writeText mustEscape name ++ ": " ++ value.indentedAt level) ::
      indentedMembers level rest

end

/-- A document over lines. -/
def indented (j : Json) : String := j.indentedAt 0

end Json

end CaSettings
