import CaSettings.Text.Blank

/-!
# Separated fields

Lists inside one setting are written with a separator character.

* **`fields sep`** cuts a text at every separator; it always gives one field
  more than there are separators.
* **`entries sep`** is the reading of a list: the fields, trimmed, without
  the ones that are blank.
* **`joinFields sep`** writes fields with a separator text between them.
-/

namespace CaSettings.Text

/-- The pieces of a text between its separators. -/
def fields (sep : Char) : List Char → List (List Char)
  | [] => [[]]
  | c :: cs =>
    if c = sep then [] :: fields sep cs
    else (fields sep cs).modifyHead (c :: ·)

/-- The trimmed pieces of a text between its separators, blank ones left out. -/
def entries (sep : Char) (cs : List Char) : List (List Char) :=
  ((fields sep cs).map trim).filter (!·.isEmpty)

/-- Fields in a row with `sep` between neighbours. -/
def joinFields (sep : List Char) (fs : List (List Char)) : List Char :=
  sep.intercalate fs

end CaSettings.Text
