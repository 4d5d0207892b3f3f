import CaSettings.Conf.Line
import CaSettings.Proofs.Text.Trimming
import Mathlib.Data.List.Basic
import Mathlib.Tactic.ByContra

/-!
# The grammar of a line

What a line of a configuration file says, written as a grammar and without a
reader: the alternatives of `Reads` are tried in order, and each says which
characters the line consists of.

* `Skips` — blanks, or blanks and a comment;
* `Header` — a name in brackets, then nothing but a comment;
* `KeyValue` — a word, an equals sign and a value, without the note in braces
  that may follow the value (`WithNote`).

The grammar gives each line one meaning, and the reader finds it (`read_eq_iff`).
-/

namespace CaSettings

open Text

/-! ## The note after a value -/

/-- `text` is `value`, blanks, and a block in braces that holds no brace. -/
structure WithNote (text value : List Char) : Prop where
  parts : ∃ gap block, gap ≠ [] ∧ Blanks gap ∧ '{' ∉ block ∧ '}' ∉ block ∧
    text = value ++ gap ++ '{' :: block ++ ['}']
  endsFull : EndsFull value

/-- `value` is `text` without the note after it, if it has one. -/
inductive WithoutNote (text : List Char) : List Char → Prop
  | noted {value} : WithNote text value → WithoutNote text value
  | plain : (∀ value, ¬ WithNote text value) → WithoutNote text text

namespace ConfLine

/-! ## The parts of a line -/

/-- Blanks, or blanks and a comment. -/
inductive Skips : List Char → Prop
  | blank {line} : Blanks line → Skips line
  | comment {before rest} : Blanks before → Skips (before ++ '#' :: rest)

/-- The name that a text in brackets gives: the trimmed text, or the last of the
blanks when there is nothing else. -/
inductive SectionName (inside : List Char) : List Char → Prop
  | trimmed {name} : name ≠ [] → Trims inside name → SectionName inside name
  | blank {front c} : Blanks inside → inside = front ++ [c] → SectionName inside [c]

/-- Blanks, a name in brackets, and nothing but a comment after it. -/
inductive Header : List Char → List Char → Prop
  | intro {before inside after name} : Blanks before → inside ≠ [] → ']' ∉ inside →
      Skips after → SectionName inside name →
      Header (before ++ '[' :: inside ++ ']' :: after) name

/-- Blanks, a word, blanks, an equals sign, and the rest of the line as the value. -/
inductive KeyValue : List Char → List Char → List Char → Prop
  | intro {before key gap rest trimmed value} : Blanks before → key ≠ [] →
      (∀ c ∈ key, isWord c = true) → Blanks gap → Trims rest trimmed →
      WithoutNote trimmed value → KeyValue (before ++ key ++ gap ++ '=' :: rest) key value

/-- What a line says. The alternatives exclude one another in this order. -/
inductive Reads (line : List Char) : ConfLine → Prop
  | skipped : Skips line → Reads line .silent
  | header {name} : ¬ Skips line → Header line name → Reads line (.header (String.ofList name))
  | setting {key value} : ¬ Skips line → (∀ name, ¬ Header line name) → KeyValue line key value →
      Reads line (.setting (String.ofList (key.map Char.toLower)) (String.ofList value))
  | other : ¬ Skips line → (∀ name, ¬ Header line name) →
      (∀ key value, ¬ KeyValue line key value) → Reads line .silent

end ConfLine

/-! ## Reading a note -/

variable {text value front : List Char}

/-- The text before the braces is what stands before the last block, if that
block ends the text and holds no brace. -/
theorem beforeBraces_eq_some_iff :
    beforeBraces text = some front ↔
      ∃ block, '{' ∉ block ∧ '}' ∉ block ∧ text = front ++ '{' :: block ++ ['}'] := by
  unfold beforeBraces
  constructor
  · intro h
    split at h
    · rename_i inner hlast
      split at h
      · rename_i before hopen
        cases h
        obtain ⟨block, hinner, hplain, _⟩ := dropWhile_eq_iff.mp hopen
        refine ⟨block.reverse, ?_, ?_, ?_⟩
        · intro hmem
          exact absurd (hplain _ (List.mem_reverse.mp hmem)) (by decide)
        · intro hmem
          exact absurd (hplain _ (List.mem_reverse.mp hmem)) (by decide)
        · rw [← text.reverse_reverse, hlast, hinner]
          simp
      · cases h
    · cases h
  · rintro ⟨block, hopen, hclose, rfl⟩
    have hreverse : (front ++ '{' :: block ++ ['}']).reverse =
        '}' :: (block.reverse ++ '{' :: front.reverse) := by simp
    have hdrop : (block.reverse ++ '{' :: front.reverse).dropWhile
        (fun c => c != '{' && c != '}') = '{' :: front.reverse := by
      refine dropWhile_append_of_stop ?_ ?_
      · intro c hc
        rw [List.mem_reverse] at hc
        have hfirst : c ≠ '{' := fun h => hopen (h ▸ hc)
        have hlast : c ≠ '}' := fun h => hclose (h ▸ hc)
        simp [hfirst, hlast]
      · intro c hc
        cases hc
        decide
    simp only [hreverse, hdrop, List.reverse_reverse]

theorem withNote_iff :
    WithNote text value ↔ ∃ front, beforeBraces text = some front ∧ trimEnd front = value ∧
      value ≠ front := by
  constructor
  · rintro ⟨⟨gap, block, hgap, hblank, hopen, hclose, rfl⟩, hend⟩
    refine ⟨value ++ gap, beforeBraces_eq_some_iff.mpr ⟨block, hopen, hclose, rfl⟩,
      trimEnd_eq_iff.mpr ⟨gap, hblank, rfl, hend⟩, ?_⟩
    intro h
    exact hgap (List.append_right_eq_self.mp h.symm)
  · rintro ⟨front, hbraces, htrim, hne⟩
    obtain ⟨block, hopen, hclose, rfl⟩ := beforeBraces_eq_some_iff.mp hbraces
    obtain ⟨gap, hblank, rfl, hend⟩ := trimEnd_eq_iff.mp htrim
    refine ⟨⟨gap, block, ?_, hblank, hopen, hclose, rfl⟩, hend⟩
    rintro rfl
    exact hne (List.append_nil value).symm

theorem withoutMetadata_of_withNote (h : WithNote text value) : withoutMetadata text = value := by
  obtain ⟨front, hbraces, htrim, hne⟩ := withNote_iff.mp h
  unfold withoutMetadata
  simp only [hbraces, htrim]
  exact if_neg hne

theorem withoutMetadata_of_forall (h : ∀ value, ¬ WithNote text value) :
    withoutMetadata text = text := by
  unfold withoutMetadata
  cases hbraces : beforeBraces text with
  | none => rfl
  | some front =>
    refine if_pos ?_
    by_contra hne
    exact h (trimEnd front) (withNote_iff.mpr ⟨front, hbraces, rfl, hne⟩)

/-- Exactly one value comes of leaving out the note, and the reader finds it. -/
theorem withoutMetadata_eq_iff : withoutMetadata text = value ↔ WithoutNote text value := by
  constructor
  · rintro rfl
    by_cases h : ∃ value, WithNote text value
    · obtain ⟨value, hnotes⟩ := h
      rw [withoutMetadata_of_withNote hnotes]
      exact .noted hnotes
    · rw [not_exists] at h
      rw [withoutMetadata_of_forall h]
      exact .plain h
  · intro h
    cases h with
    | noted hnotes => exact withoutMetadata_of_withNote hnotes
    | plain hnone => exact withoutMetadata_of_forall hnone

/-! ## What is left of a text -/

/-- A note is never empty. -/
theorem WithNote.ne (h : WithNote text value) : value ≠ text := by
  obtain ⟨⟨gap, block, _, _, _, _, rfl⟩, _⟩ := h
  intro hsame
  have hlength := congrArg List.length hsame
  simp at hlength

/-- Leaving out a note leaves the front of a text. -/
theorem WithoutNote.exists_append (h : WithoutNote text value) : ∃ note, text = value ++ note := by
  cases h with
  | noted hnote =>
    obtain ⟨⟨gap, block, _, _, _, _, rfl⟩, _⟩ := hnote
    exact ⟨gap ++ '{' :: block ++ ['}'], by simp only [List.append_assoc]⟩
  | plain _ => exact ⟨[], (List.append_nil _).symm⟩

theorem WithoutNote.endsFull (h : WithoutNote text value) (hend : EndsFull text) :
    EndsFull value := by
  cases h with
  | noted hnote => exact hnote.endsFull
  | plain _ => exact hend

/-! ## Reading the parts -/

namespace ConfLine

variable {line cs inside name key : List Char} {what : ConfLine}

theorem skips_iff : Skips line ↔ ∀ c ∈ (trimStart line).head?, c = '#' := by
  constructor
  · intro h c hc
    cases h with
    | blank hblank =>
      rw [trimStart_eq_nil_iff.mpr hblank] at hc
      cases hc
    | comment hblank =>
      rw [trimStart_append hblank (startsFull_cons.mpr (by decide))] at hc
      cases hc
      rfl
  · intro h
    obtain ⟨before, hblank, hline, _⟩ :=
      trimStart_eq_iff.mp (rfl : trimStart line = trimStart line)
    cases hstart : trimStart line with
    | nil => exact .blank (trimStart_eq_nil_iff.mp hstart)
    | cons c rest =>
      rw [hstart] at h hline
      obtain rfl : c = '#' := h c rfl
      rw [hline]
      exact .comment hblank

theorem isHeaderEnd_iff : isHeaderEnd cs = true ↔ Skips cs := by
  rw [skips_iff]
  unfold isHeaderEnd
  cases trimStart cs with
  | nil => simp
  | cons c rest => simp

/-- Text in brackets that is not empty gives exactly one name, and the reader finds it. -/
theorem headerName_eq_iff (h : inside ≠ []) : headerName inside = name ↔ SectionName inside name := by
  unfold headerName
  constructor
  · rintro rfl
    cases htrim : trim inside with
    | nil =>
      obtain ⟨front, c, rfl⟩ := (List.eq_nil_or_concat' inside).resolve_left h
      have hlast : (front ++ [c]).drop ((front ++ [c]).length - 1) = [c] := by simp
      simp only [hlast]
      exact .blank (trim_eq_nil_iff.mp htrim) rfl
    | cons c rest => exact .trimmed (by simp) (trim_eq_iff.mp htrim)
  · intro h
    cases h with
    | trimmed hne htrims =>
      rw [trim_eq_iff.mpr htrims]
      cases name with
      | nil => exact absurd rfl hne
      | cons c rest => rfl
    | blank hblank hinside =>
      subst hinside
      rw [trim_eq_nil_iff.mpr hblank]
      simp

theorem header?_eq_some_iff {heading : String} :
    header? cs = some heading ↔ ∃ inside after, cs = '[' :: inside ++ ']' :: after ∧
      ']' ∉ inside ∧ inside ≠ [] ∧ isHeaderEnd after = true ∧
      heading = String.ofList (headerName inside) := by
  constructor
  · intro h
    unfold header? at h
    split at h
    · rename_i rest
      simp only at h
      split at h
      · rename_i after hafter
        split at h
        · rename_i hparts
          obtain ⟨hcut, hplain, _⟩ := takeWhile_dropWhile_eq_iff.mp ⟨rfl, hafter⟩
          refine ⟨_, after, ?_, ?_, hparts.1, hparts.2, (Option.some.inj h).symm⟩
          · rw [List.cons_append, ← hcut]
          · intro hmem
            exact absurd (hplain _ hmem) (by decide)
        · cases h
      · cases h
    · cases h
  · rintro ⟨inside, after, rfl, hplain, hne, hafter, rfl⟩
    obtain ⟨htake, hdrop⟩ : (inside ++ ']' :: after).takeWhile (· != ']') = inside ∧
        (inside ++ ']' :: after).dropWhile (· != ']') = ']' :: after := by
      refine takeWhile_dropWhile_eq_iff.mpr ⟨rfl, ?_, ?_⟩
      · intro c hc
        have hclose : c ≠ ']' := fun h => hplain (h ▸ hc)
        simp [hclose]
      · intro c hc
        cases hc
        decide
    rw [List.cons_append]
    unfold header?
    simp only [htake, hdrop]
    exact if_pos ⟨hne, hafter⟩

theorem header_iff :
    Header line name ↔ header? (trimStart line) = some (String.ofList name) := by
  rw [header?_eq_some_iff]
  constructor
  · rintro ⟨hblank, hne, hplain, hafter, hname⟩
    rename_i before inside after
    refine ⟨inside, after, ?_, hplain, hne, isHeaderEnd_iff.mpr hafter, ?_⟩
    · rw [List.append_assoc]
      exact trimStart_append hblank (startsFull_cons.mpr (by decide))
    · rw [(headerName_eq_iff hne).mpr hname]
  · rintro ⟨inside, after, hstart, hplain, hne, hafter, hname⟩
    obtain ⟨before, hblank, rfl, _⟩ := trimStart_eq_iff.mp hstart
    rw [← List.append_assoc]
    exact .intro hblank hne hplain (isHeaderEnd_iff.mp hafter)
      ((headerName_eq_iff hne).mp (String.ofList_injective hname).symm)

theorem setting?_eq_some_iff {entry : String × String} :
    setting? cs = some entry ↔ ∃ key gap rest, key ≠ [] ∧ (∀ c ∈ key, isWord c = true) ∧
      Blanks gap ∧ cs = key ++ gap ++ '=' :: rest ∧
      entry = (String.ofList (key.map Char.toLower),
        String.ofList (withoutMetadata (trim rest))) := by
  constructor
  · intro h
    unfold setting? at h
    split at h
    · cases h
    · rename_i rest hequals hword
      obtain ⟨gap, hblank, hdrop, _⟩ := trimStart_eq_iff.mp hequals
      obtain ⟨hcut, hrun, _⟩ := takeWhile_dropWhile_eq_iff.mp ⟨(rfl : takeWord cs = _), hdrop⟩
      refine ⟨takeWord cs, gap, rest, hword, hrun, hblank, ?_, (Option.some.inj h).symm⟩
      rw [List.append_assoc]
      exact hcut
    · cases h
  · rintro ⟨key, gap, rest, hne, hword, hblank, rfl, rfl⟩
    obtain ⟨htake, hdrop⟩ : takeWord (key ++ gap ++ '=' :: rest) = key ∧
        dropWord (key ++ gap ++ '=' :: rest) = gap ++ '=' :: rest := by
      refine takeWhile_dropWhile_eq_iff.mpr ⟨List.append_assoc .., hword, ?_⟩
      -- the word stops at a blank, or at the equals sign
      intro c hc
      cases gap with
      | nil =>
        cases hc
        decide
      | cons b gap =>
        cases hc
        rw [← Bool.not_eq_true]
        intro hletter
        have hfull := isBlank_of_isWord hletter
        rw [hblank c List.mem_cons_self] at hfull
        cases hfull
    unfold setting?
    rw [htake, hdrop, trimStart_append hblank (startsFull_cons.mpr (by decide))]
    cases key with
    | nil => exact absurd rfl hne
    | cons c key => rfl

theorem setting_iff {entry : String × String} :
    setting? (trimStart line) = some entry ↔ ∃ key value, KeyValue line key value ∧
      entry = (String.ofList (key.map Char.toLower), String.ofList value) := by
  rw [setting?_eq_some_iff]
  constructor
  · rintro ⟨key, gap, rest, hne, hword, hgap, hstart, rfl⟩
    obtain ⟨before, hblank, rfl, _⟩ := trimStart_eq_iff.mp hstart
    refine ⟨key, withoutMetadata (trim rest), ?_, rfl⟩
    rw [← List.append_assoc, ← List.append_assoc]
    exact .intro hblank hne hword hgap (trims_trim rest) (withoutMetadata_eq_iff.mp rfl)
  · rintro ⟨key, value, ⟨hblank, hne, hword, hgap, htrims, hnote⟩, rfl⟩
    rename_i before gap rest trimmed
    refine ⟨key, gap, rest, hne, hword, hgap, ?_, ?_⟩
    · rw [List.append_assoc, List.append_assoc, List.append_assoc]
      refine trimStart_append hblank ?_
      cases key with
      | nil => exact absurd rfl hne
      | cons c key => exact startsFull_cons.mpr (isBlank_of_isWord (hword c List.mem_cons_self))
    · rw [trim_eq_iff.mpr htrims, withoutMetadata_eq_iff.mpr hnote]

/-! ## Reading a line -/

theorem read_of_skips (h : Skips line) : read line = .silent := by
  have hfirst := skips_iff.mp h
  unfold read
  cases hstart : trimStart line with
  | nil => rfl
  | cons c rest =>
    rw [hstart] at hfirst
    obtain rfl : c = '#' := hfirst c rfl
    rfl

/-- A line that is not skipped is read as a header if it can be, and else as a setting. -/
theorem read_of_not_skips (h : ¬ Skips line)
    (hread : (match header? (trimStart line), setting? (trimStart line) with
      | some name, _ => .header name
      | none, some (key, value) => .setting key value
      | none, none => .silent) = what) : read line = what := by
  rw [skips_iff] at h
  unfold read
  cases hstart : trimStart line with
  | nil => exact absurd (by simp [hstart]) h
  | cons c rest =>
    rw [hstart] at hread
    simp only
    split
    · rename_i heq
      cases heq
    · rename_i heq
      cases heq
      exact absurd (by simp [hstart]) h
    · exact hread

theorem header?_eq_none_iff :
    header? (trimStart line) = none ↔ ∀ name, ¬ Header line name := by
  rw [Option.eq_none_iff_forall_ne_some]
  constructor
  · intro h name hheader
    exact h _ (header_iff.mp hheader)
  · intro h heading hheading
    obtain ⟨name, rfl⟩ : ∃ name, heading = String.ofList name :=
      ⟨heading.toList, String.ofList_toList.symm⟩
    exact h name (header_iff.mpr hheading)

theorem setting?_eq_none_iff :
    setting? (trimStart line) = none ↔ ∀ key value, ¬ KeyValue line key value := by
  rw [Option.eq_none_iff_forall_ne_some]
  constructor
  · intro h key value hsetting
    exact h _ (setting_iff.mpr ⟨key, value, hsetting, rfl⟩)
  · intro h entry hentry
    obtain ⟨key, value, hsetting, _⟩ := setting_iff.mp hentry
    exact h key value hsetting

theorem Reads.read_eq (h : Reads line what) : read line = what := by
  cases h with
  | skipped hskips => exact read_of_skips hskips
  | header hskips hheader => exact read_of_not_skips hskips (by rw [header_iff.mp hheader])
  | setting hskips hheader hsetting =>
    refine read_of_not_skips hskips ?_
    rw [header?_eq_none_iff.mpr hheader, setting_iff.mpr ⟨_, _, hsetting, rfl⟩]
  | other hskips hheader hsetting =>
    refine read_of_not_skips hskips ?_
    rw [header?_eq_none_iff.mpr hheader, setting?_eq_none_iff.mpr hsetting]

theorem exists_reads (line : List Char) : ∃ what, Reads line what := by
  by_cases hskips : Skips line
  · exact ⟨_, .skipped hskips⟩
  by_cases hheader : ∃ name, Header line name
  · obtain ⟨name, hheader⟩ := hheader
    exact ⟨_, .header hskips hheader⟩
  rw [not_exists] at hheader
  by_cases hsetting : ∃ key value, KeyValue line key value
  · obtain ⟨key, value, hsetting⟩ := hsetting
    exact ⟨_, .setting hskips hheader hsetting⟩
  · refine ⟨_, .other hskips hheader ?_⟩
    intro key value h
    exact hsetting ⟨key, value, h⟩

/-- **The grammar gives each line one meaning, and the reader finds it.** -/
theorem read_eq_iff : read line = what ↔ Reads line what := by
  constructor
  · rintro rfl
    obtain ⟨what, h⟩ := exists_reads line
    rw [h.read_eq]
    exact h
  · exact Reads.read_eq

/-- A line with a key and a value is a setting: a word opens neither a comment nor a header. -/
theorem KeyValue.reads {value : List Char} (h : KeyValue line key value) :
    Reads line (.setting (String.ofList (key.map Char.toLower)) (String.ofList value)) := by
  obtain ⟨first, hfirst, hword⟩ : ∃ c, (trimStart line).head? = some c ∧ isWord c = true := by
    obtain ⟨hblank, hne, hword, _, _, _⟩ := h
    obtain ⟨c, rest, rfl⟩ := List.exists_cons_of_ne_nil hne
    have hc := hword c List.mem_cons_self
    refine ⟨c, ?_, hc⟩
    rw [List.append_assoc, List.append_assoc, List.cons_append,
      trimStart_append hblank (startsFull_cons.mpr (isBlank_of_isWord hc))]
    rfl
  refine .setting ?_ ?_ h
  · intro hskips
    obtain rfl : first = '#' := skips_iff.mp hskips first hfirst
    exact absurd hword (by decide)
  · intro name hheader
    obtain ⟨inside, after, hparts, _⟩ := header?_eq_some_iff.mp (header_iff.mp hheader)
    rw [hparts] at hfirst
    obtain rfl : '[' = first := Option.some.inj hfirst
    exact absurd hword (by decide)

/-- A header says its name: a bracket opens no comment. -/
theorem Header.reads (h : Header line name) : Reads line (.header (String.ofList name)) := by
  refine .header ?_ h
  intro hskips
  obtain ⟨inside, after, hparts, _⟩ := header?_eq_some_iff.mp (header_iff.mp h)
  rw [skips_iff, hparts] at hskips
  exact absurd (hskips '[' rfl) (by decide)

-- the brackets hold blanks only: the last one is the name
example : read "[ \t] # note".toList = .header "\t" := by decide

example : read "Mode = {a} {b}".toList = .setting "mode" "{a}" := by decide

end ConfLine

end CaSettings
