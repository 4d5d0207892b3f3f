import CaSettings.ConfigView
import CaSettings.Proofs.Conf.Grammar
import CaSettings.Proofs.NameMap
import CaSettings.Proofs.Text.Lines
import Mathlib

/-!
# Reading what was written

Text of the plainest kind is read as it stands:

* ASCII without carriage returns is the text of its own bytes (`fileText_ascii`);
* a line `key = value` with a trimmed value gives the setting it shows
  (`ConfLine.read_setting`);
* so a file of one such line, made of words, says what it shows
  (`caSettings_of_words`).
-/

namespace CaSettings

namespace Text

variable {cs : List Char}

/-! ## Bytes -/

/-- The bytes of characters that are one byte each. -/
def asciiBytes (cs : List Char) : List UInt8 := cs.map fun c => UInt8.ofNat c.toNat

/-- The bytes of ASCII stand for its characters. -/
theorem decodeUtf8_asciiBytes (h : ∀ c ∈ cs, c.toNat < 0x80) :
    decodeUtf8 (asciiBytes cs) = cs := by
  unfold decodeUtf8
  induction cs with
  | nil => rfl
  | cons c cs ih =>
    have hfirst := h c List.mem_cons_self
    have hbyte : (UInt8.ofNat c.toNat).toNat = c.toNat := UInt8.toNat_ofNat_of_lt'
      (Nat.lt_of_lt_of_le hfirst (by decide))
    show decodeFrom none (UInt8.ofNat c.toNat :: asciiBytes cs) = c :: cs
    simp only [decodeFrom, readByte, readFirst, hbyte, hfirst, if_true, Char.ofNat_toNat,
      ih fun d hd => h d (List.mem_cons_of_mem c hd), List.singleton_append]

theorem unifyLineEnds_of_notMem (h : '\r' ∉ cs) : unifyLineEnds cs = cs := by
  induction cs with
  | nil => rfl
  | cons c cs ih =>
    rw [List.mem_cons, not_or] at h
    obtain ⟨hfirst, hrest⟩ := h
    rw [unifyLineEnds, ih hrest, if_neg fun hc => hfirst hc.symm]
    rintro rest rfl
    exact absurd rfl hfirst

end Text

open Text

theorem fileText_ascii {cs : List Char} (hascii : ∀ c ∈ cs, c.toNat < 0x80) (hcr : '\r' ∉ cs) :
    fileText (asciiBytes cs) = String.ofList cs := by
  unfold fileText
  rw [decodeUtf8_asciiBytes hascii, unifyLineEnds_of_notMem hcr]

/-! ## A line with a setting -/

namespace ConfLine

variable {key value : List Char}

/-- A line `key = value` gives the setting that it shows. -/
theorem read_setting (hne : key ≠ []) (hword : ∀ c ∈ key, isWord c = true)
    (htrim : trim (' ' :: value) = value) (hmeta : withoutMetadata value = value) :
    read (key ++ " = ".toList ++ value) =
      .setting (String.ofList (key.map Char.toLower)) (String.ofList value) := by
  have hsetting : KeyValue (key ++ " = ".toList ++ value) key value := by
    have hparts : key ++ " = ".toList ++ value = [] ++ key ++ [' '] ++ '=' :: ' ' :: value := by
      simp
    rw [hparts]
    refine .intro blanks_nil hne hword ?_ (trim_eq_iff.mp htrim) (withoutMetadata_eq_iff.mp hmeta)
    intro c hc
    rw [List.mem_singleton.mp hc]
    decide
  exact hsetting.reads.read_eq

end ConfLine

/-! ## A file with one line -/

/-- A text of one line with a setting says that setting, and nothing else. -/
theorem caSettings_of_line {text key value : String} {line : List Char}
    (hlines : lines text.toList = [line]) (hread : ConfLine.read line = .setting key value) :
    (Sections.parse text).caSettings = NameMap.empty.insert key value := by
  unfold Sections.parse
  rw [hlines, List.map_singleton, hread]
  rfl

theorem withoutMetadata_of_notMem {cs : List Char} (h : '}' ∉ cs) : withoutMetadata cs = cs := by
  refine withoutMetadata_of_forall ?_
  rintro value ⟨⟨gap, block, _, _, _, _, rfl⟩, _⟩
  exact h (by simp)

/-- The characters of a line `key = value` over words are ASCII, and none ends a line. -/
theorem plain_of_mem_line {key value : List Char} (hkey : ∀ c ∈ key, isWord c = true)
    (hvalue : ∀ c ∈ value, isWord c = true) :
    ∀ c ∈ key ++ " = ".toList ++ value, c.toNat < 0x80 ∧ isLineEnd c = false := by
  have hword : ∀ c, isWord c = true → c.toNat < 0x80 ∧ isLineEnd c = false := by
    intro c hc
    have hcode := toNat_of_isWord hc
    exact ⟨by omega, isLineEnd_of_isWord hc⟩
  have hsign : ∀ c ∈ " = ".toList, c.toNat < 0x80 ∧ isLineEnd c = false := by
    have hall : (" = ".toList.all fun c => c.toNat < 0x80 && !isLineEnd c) = true := by decide
    intro c hc
    simpa using List.all_eq_true.mp hall c hc
  intro c hc
  rcases List.mem_append.mp hc with hleft | hright
  · rcases List.mem_append.mp hleft with hinKey | hinSign
    · exact hword c (hkey c hinKey)
    · exact hsign c hinSign
  · exact hword c (hvalue c hright)

/-- A file with the line `key = value`, key and value being words, says that and nothing else. -/
theorem caSettings_of_words {key value : List Char} (hne : key ≠ [])
    (hkey : ∀ c ∈ key, isWord c = true) (hvalue : ∀ c ∈ value, isWord c = true) :
    (Sections.parse (fileText (asciiBytes (key ++ " = ".toList ++ value)))).caSettings =
      NameMap.empty.insert (String.ofList (key.map Char.toLower)) (String.ofList value) := by
  have hplain := plain_of_mem_line hkey hvalue
  have hcr : '\r' ∉ key ++ " = ".toList ++ value := fun hmem =>
    absurd (hplain _ hmem).2 (by decide)
  have hbrace : '}' ∉ value := fun hmem => absurd (hvalue _ hmem) (by decide)
  have htrim : trim (' ' :: value) = value :=
    trim_of_forall fun c hc => isBlank_of_isWord (hvalue c hc)
  refine caSettings_of_line ?_
    (ConfLine.read_setting hne hkey htrim (withoutMetadata_of_notMem hbrace))
  rw [fileText_ascii (fun c hc => (hplain c hc).1) hcr, String.toList_ofList]
  exact lines_of_unbroken (by simp [hne]) fun c hc => (hplain c hc).2

end CaSettings
