import CaSettings.Proofs.Conf.Layout

/-!
# The note after a value

What is left of a text without the note in braces that may follow it, seen from both
of its ends:

* from the end, the text is cut in front of the last block and of all the blanks
  before it (`LongestCut`);
* from the start, it is searched for the first place where a note opens what is left
  of the text (`FirstNoteOut`).

The search comes first to the first of these blanks, so both leave the same text, and
it is the one that the reader finds (`withNote_iff_longestCut`, `firstNoteOut_iff`).
-/

namespace CaSettings

open Text

/-! ## Cuts at the end -/

/-- A block in braces that holds no brace. -/
def IsBlock (block : List Char) : Prop :=
  ∃ inner, '{' ∉ inner ∧ '}' ∉ inner ∧ block = '{' :: inner ++ ['}']

/-- A cut of a text into a value, blanks, and a block at the very end. -/
structure NoteCut (text value gap block : List Char) : Prop where
  parts : text = value ++ gap ++ block
  gap_ne_nil : gap ≠ []
  blanks : Blanks gap
  isBlock : IsBlock block

/-- A cut with as many blanks as any cut of the text has. -/
structure LongestCut (text value gap block : List Char) : Prop
    extends NoteCut text value gap block where
  longest : ∀ value' gap' block', NoteCut text value' gap' block' → gap'.length ≤ gap.length

section Cuts

variable {text value gap block value' gap' block' : List Char}

theorem NoteCut.exists_inner (h : NoteCut text value gap block) :
    ∃ inner, '{' ∉ inner ∧ '}' ∉ inner ∧ text = value ++ gap ++ '{' :: inner ++ ['}'] := by
  obtain ⟨inner, hopen, hclose, hblock⟩ := h.isBlock
  refine ⟨inner, hopen, hclose, ?_⟩
  rw [h.parts, hblock]
  simp

theorem NoteCut.beforeBraces_eq (h : NoteCut text value gap block) :
    beforeBraces text = some (value ++ gap) :=
  beforeBraces_eq_some_iff.mpr h.exists_inner

/-- There is one block that ends a text, so all cuts share what stands before it. -/
theorem NoteCut.append_eq (h : NoteCut text value gap block)
    (h' : NoteCut text value' gap' block') : value ++ gap = value' ++ gap' := by
  have hsame := h.beforeBraces_eq.symm.trans h'.beforeBraces_eq
  exact Option.some.inj hsame

/-- Blanks at the end of the value may go to the gap. -/
theorem NoteCut.widen {after : List Char} (h : NoteCut text (value ++ after) gap block)
    (hafter : Blanks after) : NoteCut text value (after ++ gap) block := by
  refine ⟨?_, ?_, blanks_append.mpr ⟨hafter, h.blanks⟩, h.isBlock⟩
  · rw [h.parts]
    simp
  · simp [h.gap_ne_nil]

/-- A gap with all the blanks before the block is the longest one. -/
theorem NoteCut.longestCut (h : NoteCut text value gap block) (hend : EndsFull value) :
    LongestCut text value gap block := by
  refine ⟨h, ?_⟩
  intro value' gap' block' h'
  cases List.append_eq_append_iff.mp (h.append_eq h') with
  | inl hlater =>
    obtain ⟨front, _, hgap⟩ := hlater
    rw [hgap]
    simp
  | inr hearlier =>
    -- the blanks that the other gap has more would end the value
    obtain ⟨front, hvalue, hgap⟩ := hearlier
    have hblanks := h'.blanks
    rw [hgap, blanks_append] at hblanks
    rw [hvalue] at hend
    rw [hgap, hblanks.1.eq_nil_of_endsFull hend]
    exact Nat.le_refl gap.length

/-- A text that can be cut has a longest cut. -/
theorem NoteCut.exists_longestCut (h : NoteCut text value gap block) :
    ∃ value gap block, LongestCut text value gap block := by
  obtain ⟨front, after, rfl, hafter, hend⟩ := exists_endsFull_append value
  exact ⟨front, after ++ gap, block, (h.widen hafter).longestCut hend⟩

/-- The longest gap leaves no blank at the end of the value. -/
theorem LongestCut.endsFull (h : LongestCut text value gap block) : EndsFull value := by
  obtain ⟨front, after, rfl, hafter, hend⟩ := exists_endsFull_append value
  have hlength := h.longest _ _ _ (h.widen hafter)
  rw [List.length_append] at hlength
  have hnil : after = [] := List.length_eq_zero_iff.mp (by omega)
  rw [hnil, List.append_nil]
  exact hend

/-- A text is a value with a note iff the longest cut leaves this value. -/
theorem withNote_iff_longestCut :
    WithNote text value ↔ ∃ gap block, LongestCut text value gap block := by
  apply Iff.intro
  · intro h
    obtain ⟨⟨gap, inner, hgap, hblank, hopen, hclose, hparts⟩, hend⟩ := h
    have hcut : NoteCut text value gap ('{' :: inner ++ ['}']) := by
      refine ⟨?_, hgap, hblank, inner, hopen, hclose, rfl⟩
      rw [hparts]
      simp
    exact ⟨gap, '{' :: inner ++ ['}'], hcut.longestCut hend⟩
  · intro h
    obtain ⟨gap, block, hcut⟩ := h
    obtain ⟨inner, hopen, hclose, hparts⟩ := hcut.exists_inner
    have hgap := hcut.gap_ne_nil
    exact ⟨⟨gap, inner, hgap, hcut.blanks, hopen, hclose, hparts⟩, hcut.endsFull⟩

end Cuts

/-! ## The search from the start -/

/-- A note opens the text and goes on to its end, or to the line feed that ends it. -/
def OpensWithNote (text rest : List Char) : Prop :=
  ∃ note, IsNote note ∧ text = note ++ rest ∧ (rest = [] ∨ rest = ['\n'])

/-- The text without the first note that a search from the left comes to. At each
character the search stops if a note opens what is left of the text. -/
inductive FirstNoteOut : List Char → List Char → Prop
  | here {text rest} : OpensWithNote text rest → FirstNoteOut text rest
  | later {c text value} : (∀ rest, ¬ OpensWithNote (c :: text) rest) →
      FirstNoteOut text value → FirstNoteOut (c :: text) (c :: value)
  | nowhere : FirstNoteOut [] []

section Search

variable {c : Char} {text value rest : List Char}

theorem opensWithNote_iff (hfeed : '\n' ∉ text) :
    OpensWithNote text rest ↔ IsNote text ∧ rest = [] := by
  apply Iff.intro
  · intro h
    obtain ⟨note, hnote, rfl, hrest⟩ := h
    cases hrest with
    | inl hnil =>
      rw [hnil, List.append_nil]
      exact ⟨hnote, rfl⟩
    | inr hline =>
      rw [hline] at hfeed
      exact absurd (by simp) hfeed
  · intro h
    obtain ⟨hnote, rfl⟩ := h
    exact ⟨text, hnote, (List.append_nil text).symm, .inl rfl⟩

theorem withoutMetadata_of_isNote (h : IsNote text) : withoutMetadata text = [] := by
  obtain ⟨gap, block, hgap, hblank, hopen, hclose, rfl⟩ := h
  apply withoutMetadata_of_withNote
  exact ⟨⟨gap, block, hgap, hblank, hopen, hclose, rfl⟩, by simp [EndsFull]⟩

/-- One more character in front goes to the value, unless it completes a note. -/
theorem withNote_cons_iff (h : ¬ IsNote (c :: text)) :
    WithNote (c :: text) value ↔ ∃ rest, value = c :: rest ∧ WithNote text rest := by
  apply Iff.intro
  · intro hvalue
    obtain ⟨⟨gap, block, hgap, hblank, hopen, hclose, hparts⟩, hend⟩ := hvalue
    cases value with
    | nil => exact absurd ⟨gap, block, hgap, hblank, hopen, hclose, hparts⟩ h
    | cons d rest =>
      obtain ⟨rfl, htext⟩ := List.cons.inj hparts
      have hlast : EndsFull ([c] ++ rest) := hend
      exact ⟨rest, rfl, ⟨gap, block, hgap, hblank, hopen, hclose, htext⟩, hlast.of_append⟩
  · intro hrest
    obtain ⟨rest, rfl, ⟨gap, block, hgap, hblank, hopen, hclose, rfl⟩, hend⟩ := hrest
    refine ⟨⟨gap, block, hgap, hblank, hopen, hclose, rfl⟩, ?_⟩
    intro b hb
    cases rest with
    | nil =>
      -- a blank right before the gap would belong to the note
      obtain rfl : c = b := Option.some.inj hb
      by_contra hc
      apply h
      refine ⟨c :: gap, block, List.cons_ne_nil c gap, ?_, hopen, hclose, rfl⟩
      exact List.forall_mem_cons.mpr ⟨by simpa using hc, hblank⟩
    | cons d rest =>
      apply hend
      rwa [List.getLast?_cons_cons] at hb

theorem withoutMetadata_cons (h : ¬ IsNote (c :: text)) :
    withoutMetadata (c :: text) = c :: withoutMetadata text := by
  by_cases hnoted : ∃ value, WithNote text value
  · obtain ⟨value, hvalue⟩ := hnoted
    rw [withoutMetadata_of_withNote hvalue]
    apply withoutMetadata_of_withNote
    exact (withNote_cons_iff h).mpr ⟨value, rfl, hvalue⟩
  · rw [not_exists] at hnoted
    rw [withoutMetadata_of_forall hnoted]
    apply withoutMetadata_of_forall
    intro value hvalue
    obtain ⟨rest, _, hrest⟩ := (withNote_cons_iff h).mp hvalue
    exact hnoted rest hrest

/-- The search comes to an end in every text. -/
theorem exists_firstNoteOut (text : List Char) : ∃ value, FirstNoteOut text value := by
  induction text with
  | nil => exact ⟨[], .nowhere⟩
  | cons c text ih =>
    by_cases hopens : ∃ rest, OpensWithNote (c :: text) rest
    · obtain ⟨rest, hrest⟩ := hopens
      exact ⟨rest, .here hrest⟩
    · obtain ⟨value, hvalue⟩ := ih
      exact ⟨c :: value, .later (not_exists.mp hopens) hvalue⟩

theorem FirstNoteOut.withoutMetadata_eq (h : FirstNoteOut text value) (hfeed : '\n' ∉ text) :
    withoutMetadata text = value := by
  induction h with
  | here hopens =>
    obtain ⟨hnote, rfl⟩ := (opensWithNote_iff hfeed).mp hopens
    exact withoutMetadata_of_isNote hnote
  | @later c text value hclosed _ ih =>
    have hnote : ¬ IsNote (c :: text) := by
      intro hnote
      exact hclosed [] ((opensWithNote_iff hfeed).mpr ⟨hnote, rfl⟩)
    have hrest : '\n' ∉ text := fun hmem => hfeed (List.mem_cons_of_mem c hmem)
    rw [withoutMetadata_cons hnote, ih hrest]
  | nowhere => rfl

/-- **A search from the start leaves what the reader leaves.** A value is part of a line,
so no line feed ends it. -/
theorem firstNoteOut_iff (hfeed : '\n' ∉ text) :
    FirstNoteOut text value ↔ withoutMetadata text = value := by
  apply Iff.intro
  · intro h
    exact h.withoutMetadata_eq hfeed
  · intro h
    obtain ⟨found, hfound⟩ := exists_firstNoteOut text
    rw [← h, hfound.withoutMetadata_eq hfeed]
    exact hfound

end Search

/-! ## What is left -/

theorem withoutMetadata_prefix (text : List Char) : withoutMetadata text <+: text := by
  have hvalue : WithoutNote text (withoutMetadata text) := withoutMetadata_eq_iff.mp rfl
  obtain ⟨note, hparts⟩ := hvalue.exists_append
  exact ⟨note, hparts.symm⟩

theorem trim_withoutMetadata {text : List Char} (h : trim text = text) :
    trim (withoutMetadata text) = withoutMetadata text := by
  obtain ⟨hstart, hend⟩ := trim_eq_self_iff.mp h
  have hvalue : WithoutNote text (withoutMetadata text) := withoutMetadata_eq_iff.mp rfl
  obtain ⟨note, hparts⟩ := hvalue.exists_append
  rw [hparts] at hstart
  exact trim_eq_self_iff.mpr ⟨hstart.of_append, hvalue.endsFull hend⟩

/-- **The last note is left out, and nothing else.** A text that ends in blanks and a
block is left without the block and all the blanks before it, so that no blank ends what
is left; any other text is left as it is. The same comes of a search for the first note
from the start. What is left opens the text, and is trimmed if the text is. -/
theorem withoutMetadata_cuts_last_note (text : List Char) (hfeed : '\n' ∉ text) :
    ((∃ value gap block, NoteCut text value gap block) →
      ∃ value gap block, LongestCut text value gap block) ∧
    (∀ value gap block, LongestCut text value gap block →
      withoutMetadata text = value ∧ EndsFull value) ∧
    ((∀ value gap block, ¬ NoteCut text value gap block) → withoutMetadata text = text) ∧
    (∀ value, FirstNoteOut text value ↔ withoutMetadata text = value) ∧
    withoutMetadata text <+: text ∧
    (trim text = text → trim (withoutMetadata text) = withoutMetadata text) := by
  refine ⟨?_, ?_, ?_, fun value => firstNoteOut_iff hfeed, withoutMetadata_prefix text,
    trim_withoutMetadata⟩
  · intro h
    obtain ⟨value, gap, block, hcut⟩ := h
    exact hcut.exists_longestCut
  · intro value gap block h
    have hnote : WithNote text value := withNote_iff_longestCut.mpr ⟨gap, block, h⟩
    exact ⟨withoutMetadata_of_withNote hnote, h.endsFull⟩
  · intro h
    apply withoutMetadata_of_forall
    intro value hvalue
    obtain ⟨gap, block, hcut⟩ := withNote_iff_longestCut.mp hvalue
    exact h value gap block hcut.toNoteCut

/-- Several blocks, one without a blank before it and one that is not closed. -/
def severalBlocks : List Char := "v {a}\x7b {b}\t \x1f{mode = 1}".toList

/-- The block at the end stands in another one that is not closed. -/
def nestedBlock : List Char := "v \x7ba{b}".toList

theorem longestCut_severalBlocks :
    LongestCut severalBlocks "v {a}\x7b {b}".toList "\t \x1f".toList "{mode = 1}".toList := by
  have hblock : IsBlock "{mode = 1}".toList :=
    ⟨"mode = 1".toList, by decide, by decide, rfl⟩
  have hcut : NoteCut severalBlocks "v {a}\x7b {b}".toList "\t \x1f".toList "{mode = 1}".toList :=
    ⟨rfl, by decide, by decide, hblock⟩
  exact hcut.longestCut (by decide)

theorem not_noteCut_nestedBlock (value gap block : List Char) :
    ¬ NoteCut nestedBlock value gap block := by
  intro h
  have hfront : value ++ gap = "v \x7ba".toList := by
    apply Option.some.inj
    rw [← h.beforeBraces_eq]
    decide
  -- the gap would end in a letter
  have hend : EndsFull (value ++ gap) := by
    rw [hfront]
    decide
  exact h.gap_ne_nil (h.blanks.eq_nil_of_endsFull hend)

theorem withoutMetadata_cuts_last_note_severalBlocks :
    '\n' ∉ severalBlocks ∧ withoutMetadata severalBlocks = "v {a}\x7b {b}".toList ∧
      FirstNoteOut severalBlocks "v {a}\x7b {b}".toList ∧
      trim (withoutMetadata severalBlocks) = withoutMetadata severalBlocks ∧
      '\n' ∉ nestedBlock ∧ withoutMetadata nestedBlock = nestedBlock := by
  have hfeed : '\n' ∉ severalBlocks := by decide
  have hplain : '\n' ∉ nestedBlock := by decide
  obtain ⟨_, hlongest, _, hsearch, _, htrim⟩ := withoutMetadata_cuts_last_note severalBlocks hfeed
  obtain ⟨hvalue, _⟩ := hlongest _ _ _ longestCut_severalBlocks
  obtain ⟨_, _, hnone, _⟩ := withoutMetadata_cuts_last_note nestedBlock hplain
  exact ⟨hfeed, hvalue, (hsearch _).mpr hvalue, htrim (by decide), hplain,
    hnone not_noteCut_nestedBlock⟩

end CaSettings
