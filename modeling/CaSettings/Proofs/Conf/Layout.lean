import CaSettings.Conf.Sections
import CaSettings.Proofs.Conf.Grammar
import CaSettings.Proofs.NameMap
import CaSettings.Proofs.Text.Lines

/-!
# Writing a configuration

A configuration with plain names, keys and values (`Sections.Writable`) can be
written to a file in many ways: sections and keys in any order, the settings of
`main` above the first header or below one, blanks around everything, upper case
in keys, comments after headers, notes after values, any line ends, and lines that
say nothing in between. `Sections.WrittenAs` says what is a way of writing one, line
by line (`HeaderLine`, `SettingLine`, `IdleLine`) and then as a whole (`LaidOut`,
`Joined`).

Each line says what it was written for (`HeaderLine.reads`, `SettingLine.reads`,
`IdleLine.reads`), whatever brackets, braces, signs and hashes its parts hold.
-/

namespace CaSettings

open Text

/-! ## What can be written -/

/-- Blanks and a block in braces that holds no brace. -/
def IsNote (note : List Char) : Prop :=
  ∃ gap block, gap ≠ [] ∧ Blanks gap ∧ '{' ∉ block ∧ '}' ∉ block ∧
    note = gap ++ '{' :: block ++ ['}']

/-- The name of a section that can stand in a header. -/
structure WritableName (name : List Char) : Prop where
  ne_nil : name ≠ []
  startsFull : StartsFull name
  endsFull : EndsFull name
  noBracket : ']' ∉ name
  unbroken : Unbroken name

/-- A key: small letters, digits and underscores. -/
structure WritableKey (key : List Char) : Prop where
  ne_nil : key ≠ []
  chars : ∀ c ∈ key, c.isLower = true ∨ c.isDigit = true ∨ c = '_'

/-- A value that can stand in a line, and does not end like a value with a note. -/
structure WritableValue (value : List Char) : Prop where
  startsFull : StartsFull value
  endsFull : EndsFull value
  unbroken : Unbroken value
  noNote : ∀ front note, IsNote note → value ≠ front ++ note

instance {name : List Char} : Decidable (WritableName name) :=
  decidable_of_iff
    (name ≠ [] ∧ StartsFull name ∧ EndsFull name ∧ ']' ∉ name ∧ Unbroken name)
    ⟨fun ⟨hne, hstart, hend, hbracket, hline⟩ => ⟨hne, hstart, hend, hbracket, hline⟩,
      fun h => ⟨h.ne_nil, h.startsFull, h.endsFull, h.noBracket, h.unbroken⟩⟩

instance {key : List Char} : Decidable (WritableKey key) :=
  decidable_of_iff (key ≠ [] ∧ key.all fun c => c.isLower || c.isDigit || c == '_')
    ⟨fun ⟨hne, hchars⟩ => ⟨hne, by simpa [or_assoc] using hchars⟩,
      fun h => ⟨h.ne_nil, by simpa [or_assoc] using h.chars⟩⟩

namespace Sections

/-- A configuration that can be written to a file. -/
structure Writable (s : Sections) : Prop where
  hasMain : mainSection ∈ s.names
  name : ∀ heading ∈ s.names, WritableName heading.toList
  key : ∀ heading key value, (s.settingsOf heading).get? key = some value →
    WritableKey key.toList
  value : ∀ heading key value, (s.settingsOf heading).get? key = some value →
    WritableValue value.toList

/-- The same sections with the same settings, whatever their order. -/
structure Same (s other : Sections) : Prop where
  names : ∀ heading, heading ∈ s.names ↔ heading ∈ other.names
  settings : ∀ heading key,
    (s.settingsOf heading).get? key = (other.settingsOf heading).get? key

end Sections

/-! ## Ways of writing -/

/-- A header: blanks, the name in brackets with blanks around it, blanks, and perhaps
a comment. -/
inductive HeaderLine (name : List Char) : List Char → Prop
  | intro {before left right after} : Blanks before → Blanks left → Blanks right →
      ConfLine.Skips after →
      HeaderLine name (before ++ '[' :: (left ++ name ++ right) ++ ']' :: after)

/-- A setting: the key in any letter case, an equals sign and the value, with blanks
around them, and perhaps a note after a value that is not empty. -/
inductive SettingLine (key value : List Char) : List Char → Prop
  | intro {before word gap left note after} : Blanks before → word.map Char.toLower = key →
      Blanks gap → Blanks left → note = [] ∨ value ≠ [] ∧ IsNote note → Blanks after →
      SettingLine key value (before ++ word ++ gap ++ '=' :: (left ++ (value ++ note) ++ after))

/-- A line that says nothing: blank, a comment, or neither a header nor a setting. -/
def IdleLine (line : List Char) : Prop :=
  ConfLine.Skips line ∨
    (∀ name, ¬ ConfLine.Header line name) ∧ ∀ key value, ¬ ConfLine.KeyValue line key value

/-- Lines with these settings, in this order, and idle lines in between. -/
inductive Body : List (String × String) → List (List Char) → Prop
  | nil : Body [] []
  | idle {entries line ls} : IdleLine line → Body entries ls → Body entries (line :: ls)
  | setting {key value entries line ls} : SettingLine key.toList value.toList line →
      Body entries ls → Body ((key, value) :: entries) (line :: ls)

/-- Sections one after the other, each a header and its settings. -/
inductive Blocks : List (String × List (String × String)) → List (List Char) → Prop
  | nil : Blocks [] []
  | block {heading entries header body blocks ls} : HeaderLine heading.toList header →
      Body entries body → Blocks blocks ls →
      Blocks ((heading, entries) :: blocks) (header :: (body ++ ls))

/-- The settings that blocks give a section, in order. -/
def settingsIn (heading : String) (blocks : List (String × List (String × String))) :
    List (String × String) :=
  blocks.flatMap fun block => if heading = block.1 then block.2 else []

/-- Lines that hold a configuration: settings of `main`, then blocks. Every section has
a block, `main` perhaps, and every setting stands in one line, in any order. -/
inductive LaidOut (s : Sections) : List (List Char) → Prop
  | intro {top blocks front back} : Body top front → Blocks blocks back →
      (∀ heading, heading ∈ s.names ↔ heading = mainSection ∨ heading ∈ blocks.map Prod.fst) →
      (∀ heading, (settingsIn heading ((mainSection, top) :: blocks)).Perm
        (s.settingsOf heading).entries) →
      LaidOut s (front ++ back)

/-- A line end, one character or the pair of a carriage return and a line feed. -/
def IsMark (mark : List Char) : Prop := mark = ['\r', '\n'] ∨ ∃ c, isLineEnd c = true ∧ mark = [c]

/-- A text of these lines, each with a line end but perhaps the last one. -/
inductive Joined : List (List Char) → List Char → Prop
  | nil : Joined [] []
  | last {line} : Unbroken line → Joined [line] line
  | line {line mark ls rest} : Unbroken line → IsMark mark → Joined ls rest →
      Joined (line :: ls) (line ++ mark ++ rest)

/-- A text that writes a configuration. -/
def Sections.WrittenAs (s : Sections) (text : String) : Prop :=
  ∃ ls, LaidOut s ls ∧ Joined ls text.toList

/-! ## Reading the lines -/

section Lines

variable {name key value line : List Char}

/-- A word in lower case is a word. -/
theorem isWord_of_toLower {c : Char} (h : isWord c.toLower = true) : isWord c = true := by
  unfold Char.toLower at h
  split at h
  · rename_i hupper
    have hletter : c.isUpper = true := decide_eq_true hupper
    unfold isWord Char.isAlphanum Char.isAlpha
    rw [hletter]
    rfl
  · exact h

theorem WritableKey.isWord (h : WritableKey key) : ∀ c ∈ key, Text.isWord c = true := by
  intro c hc
  rcases h.chars c hc with hlower | hdigit | rfl
  · unfold Text.isWord Char.isAlphanum Char.isAlpha
    simp only [hlower, Bool.or_true, Bool.true_or]
  · unfold Text.isWord Char.isAlphanum
    simp only [hdigit, Bool.or_true, Bool.true_or]
  · decide

/-- Small letters, digits and underscores are no capital letters. -/
theorem toLower_of_small {c : Char} (h : c.isLower = true ∨ c.isDigit = true ∨ c = '_') :
    c.toLower = c := by
  unfold Char.toLower
  refine dif_neg ?_
  rintro ⟨hlow, hhigh⟩
  have hcode : 65 ≤ c.toNat ∧ c.toNat ≤ 90 := ⟨hlow, hhigh⟩
  unfold Char.isLower Char.isDigit at h
  simp only [Bool.and_eq_true, decide_eq_true_eq, ge_iff_le, UInt32.le_iff_toNat_le] at h
  rcases h with ⟨hsmall, _⟩ | ⟨_, hdigit⟩ | rfl
  · have : 97 ≤ c.toNat := hsmall
    omega
  · have : c.toNat ≤ 57 := hdigit
    omega
  · exact absurd hcode (by decide)

/-- A key that can be written is in lower case. -/
theorem WritableKey.map_toLower (h : WritableKey key) : key.map Char.toLower = key :=
  (List.map_congr_left fun c hc => toLower_of_small (h.chars c hc)).trans (List.map_id' key)

theorem HeaderLine.reads (h : HeaderLine name line) (hname : WritableName name) :
    ConfLine.Reads line (.header (String.ofList name)) := by
  obtain ⟨hbefore, hleft, hright, hafter⟩ := h
  rename_i before left right after
  have hbracket : ∀ cs, Blanks cs → ']' ∉ cs := fun cs hblank hmem =>
    absurd (hblank _ hmem) (by decide)
  refine (ConfLine.Header.intro hbefore ?_ ?_ hafter (.trimmed hname.ne_nil ?_)).reads
  · simp [hname.ne_nil]
  · simp only [List.mem_append, not_or]
    exact ⟨⟨hbracket left hleft, hname.noBracket⟩, hbracket right hright⟩
  · exact ⟨⟨left, right, hleft, hright, rfl⟩, hname.startsFull, hname.endsFull⟩

/-- A text that ends in a note is a value with a note: all the blanks before the block
belong to the note. -/
theorem IsNote.exists_withNote {note : List Char} (h : IsNote note) (front : List Char) :
    ∃ value, WithNote (front ++ note) value := by
  obtain ⟨gap, block, hgap, hblank, hopen, hclose, rfl⟩ := h
  obtain ⟨value, after, rfl, hafter, hend⟩ := exists_endsFull_append front
  refine ⟨value, ⟨after ++ gap, block, ?_, blanks_append.mpr ⟨hafter, hblank⟩, hopen, hclose, ?_⟩,
    hend⟩
  · simp [hgap]
  · simp

/-- A value ends like one with a note iff the reader would take something away. -/
theorem noNote_iff :
    (∀ front note, IsNote note → value ≠ front ++ note) ↔ withoutMetadata value = value := by
  constructor
  · intro h
    refine withoutMetadata_of_forall ?_
    rintro front ⟨⟨gap, block, hgap, hblank, hopen, hclose, hparts⟩, _⟩
    refine h front _ ⟨gap, block, hgap, hblank, hopen, hclose, rfl⟩ ?_
    rw [hparts]
    simp only [List.append_assoc]
  · intro hsame front note hnote hparts
    obtain ⟨short, hshort⟩ := hnote.exists_withNote front
    rw [← hparts] at hshort
    have hshorter := withoutMetadata_of_withNote hshort
    exact hshort.ne (hshorter.symm.trans hsame)

instance : Decidable (WritableValue value) :=
  decidable_of_iff
    (StartsFull value ∧ EndsFull value ∧ Unbroken value ∧ withoutMetadata value = value)
    ⟨fun ⟨hstart, hend, hline, hsame⟩ => ⟨hstart, hend, hline, noNote_iff.mpr hsame⟩,
      fun h => ⟨h.startsFull, h.endsFull, h.unbroken, noNote_iff.mp h.noNote⟩⟩

/-- What stands between the blanks at the ends is the value and its note. -/
theorem trims_value_note {left note after : List Char} (hvalue : WritableValue value)
    (hleft : Blanks left) (hnote : note = [] ∨ value ≠ [] ∧ IsNote note) (hafter : Blanks after) :
    Trims (left ++ (value ++ note) ++ after) (value ++ note) := by
  refine ⟨⟨left, after, hleft, hafter, rfl⟩, ?_, ?_⟩
  · rcases hnote with rfl | ⟨hne, _⟩
    · rw [List.append_nil]
      exact hvalue.startsFull
    · obtain ⟨c, rest, rfl⟩ := List.exists_cons_of_ne_nil hne
      exact startsFull_cons.mpr (hvalue.startsFull c rfl)
  · rcases hnote with rfl | ⟨_, gap, block, _, _, _, _, rfl⟩
    · rw [List.append_nil]
      exact hvalue.endsFull
    · intro c hc
      rw [← List.append_assoc, List.getLast?_concat, Option.mem_some_iff] at hc
      subst hc
      decide

/-- The reader leaves out the note, and nothing of the value. -/
theorem withoutNote_value_note {note : List Char} (hvalue : WritableValue value)
    (hnote : note = [] ∨ value ≠ [] ∧ IsNote note) : WithoutNote (value ++ note) value := by
  rcases hnote with rfl | ⟨_, gap, block, hgap, hblank, hopen, hclose, rfl⟩
  · rw [List.append_nil]
    exact withoutMetadata_eq_iff.mp (noNote_iff.mp hvalue.noNote)
  · refine .noted ⟨⟨gap, block, hgap, hblank, hopen, hclose, ?_⟩, hvalue.endsFull⟩
    simp only [List.append_assoc]

theorem SettingLine.reads (h : SettingLine key value line) (hkey : WritableKey key)
    (hvalue : WritableValue value) :
    ConfLine.Reads line (.setting (String.ofList key) (String.ofList value)) := by
  obtain ⟨hbefore, rfl, hgap, hleft, hnote, hafter⟩ := h
  rename_i before word gap left note after
  have hword : ∀ c ∈ word, Text.isWord c = true := fun c hc =>
    isWord_of_toLower (hkey.isWord _ (List.mem_map_of_mem hc))
  have hne : word ≠ [] := fun hnil => hkey.ne_nil (by rw [hnil]; rfl)
  exact (ConfLine.KeyValue.intro hbefore hne hword hgap
    (trims_value_note hvalue hleft hnote hafter) (withoutNote_value_note hvalue hnote)).reads

theorem IdleLine.reads (h : IdleLine line) : ConfLine.Reads line .silent := by
  rcases h with hskips | ⟨hheader, hsetting⟩
  · exact .skipped hskips
  · by_cases hskips : ConfLine.Skips line
    · exact .skipped hskips
    · exact .other hskips hheader hsetting

end Lines

end CaSettings
