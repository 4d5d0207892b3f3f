import CaSettings.Cli.Shown
import CaSettings.Proofs.Text.Fields
import CaSettings.Proofs.Text.Trimming
import Mathlib

/-!
# What is seen of a text

Two kinds of text come out as they went in:

* text that is shown among other things, if it holds no backslash, no control and
  at most one colon, and the line fits on the screen (`shownLine_eq`);
* text that stands alone, if it holds no escape character. Of other text the
  terminal sequences are left out, and nothing else (`WithoutSequences`,
  `plainFrom_eq_iff`).
-/

namespace CaSettings

open Text

/-! ## Widths -/

namespace Text

variable {cs line front rest : List Char} {w : Nat}

theorem width_eq_sum (cs : List Char) : width cs = (cs.map charWidth).sum := by
  have hfrom : ∀ n, cs.foldl (fun n c => n + charWidth c) n = n + (cs.map charWidth).sum := by
    induction cs with
    | nil => exact fun n => rfl
    | cons c cs ih =>
      intro n
      rw [List.foldl_cons, ih, List.map_cons, List.sum_cons, Nat.add_assoc]
  rw [width, hfrom, Nat.zero_add]

theorem width_append (front rest : List Char) :
    width (front ++ rest) = width front + width rest := by
  rw [width_eq_sum, width_eq_sum, width_eq_sum, List.map_append, List.sum_append]

theorem width_trimEnd_le (cs : List Char) : width (trimEnd cs) ≤ width cs := by
  obtain ⟨after, _, hcut, _⟩ := trimEnd_eq_iff.mp (rfl : trimEnd cs = trimEnd cs)
  have hwidth := congrArg width hcut
  rw [width_append] at hwidth
  omega

theorem crop_of_width_le (h : width cs ≤ w) : crop w cs = cs := by
  induction cs generalizing w with
  | nil => rfl
  | cons c cs ih =>
    have hwidth : width (c :: cs) = charWidth c + width cs := by
      rw [width_eq_sum, width_eq_sum, List.map_cons, List.sum_cons]
    rw [crop, if_pos (by omega), ih (by omega)]

theorem expandTabs_of_notMem (h : '\t' ∉ cs) (column : Nat) : expandTabs column cs = cs := by
  induction cs generalizing column with
  | nil => rfl
  | cons c cs ih =>
    rw [List.mem_cons, not_or] at h
    rw [expandTabs, ih h.2]
    exact fun hc => h.1 hc.symm

/-! ## Lines that fit -/

/-- Words that fit on the line begun stay on it. -/
theorem layFrom_of_width_le {ws : List (List Char)} (h : width (line ++ ws.flatten) ≤ w) :
    layFrom w line ws = [line ++ ws.flatten] := by
  induction ws generalizing line with
  | nil => rw [layFrom, List.flatten_nil, List.append_nil]
  | cons word ws ih =>
    rw [List.flatten_cons, ← List.append_assoc] at h ⊢
    have hword := width_trimEnd_le word
    rw [width_append, width_append] at h
    rw [layFrom, if_pos (by omega)]
    exact ih (by rw [width_append, width_append]; omega)

theorem fitTo_of_width_le (hlength : line.length ≤ w) (hwidth : width line ≤ w) :
    fitTo w line = line := by
  unfold fitTo
  rw [List.take_of_length_le (Nat.le_trans hlength (Nat.le_max_left ..)), crop_of_width_le hwidth]

/-- A text that takes up one line of the screen as it is. -/
structure FitsOn (w : Nat) (cs : List Char) : Prop where
  noFeed : '\n' ∉ cs
  noTab : '\t' ∉ cs
  length : cs.length ≤ w
  width : width cs ≤ w

theorem FitsOn.wrap_eq (h : FitsOn w cs) : wrap w cs = [cs] := by
  have hwords : layFrom w [] (words cs) = [cs] := by
    rw [layFrom_of_width_le (by rw [flatten_words]; exact h.width), flatten_words]
    rfl
  unfold wrap
  rw [fields_of_notMem h.noFeed, List.flatMap_singleton, expandTabs_of_notMem h.noTab, hwords,
    List.map_singleton, fitTo_of_width_le h.length h.width]

/-! ## Short codes -/

theorem length_fields (sep : Char) (cs : List Char) :
    (fields sep cs).length = cs.count sep + 1 := by
  induction cs with
  | nil => rfl
  | cons c cs ih =>
    unfold fields
    split
    · rename_i hsep
      subst hsep
      rw [List.length_cons, ih, List.count_cons_self]
    · rename_i hsep
      rw [List.length_modifyHead, ih, List.count_cons_of_ne hsep]

/-- A short code stands between two colons. -/
theorem replaceShortCodes_of_count_le (h : cs.count ':' ≤ 1) : replaceShortCodes cs = cs := by
  have hlength := length_fields ':' cs
  obtain ⟨_, _, hjoin⟩ := fields_eq_iff.mp (rfl : fields ':' cs = fields ':' cs)
  unfold replaceShortCodes
  rcases hfields : fields ':' cs with _ | ⟨first, _ | ⟨second, _ | ⟨third, others⟩⟩⟩
  · exact absurd hfields (fields_ne_nil ':' cs)
  · rw [hfields] at hjoin
    simpa [joinFields, joinCodes] using hjoin
  · rw [hfields] at hjoin
    simpa [joinFields, joinCodes] using hjoin
  · rw [hfields] at hlength
    simp only [List.length_cons] at hlength
    omega

end Text

namespace Cli

variable {cs : List Char} {w : Nat}

/-! ## Shown text -/

theorem dropEscapes_of_notMem (h : '\\' ∉ cs) : dropEscapes cs = cs := by
  induction cs with
  | nil => rfl
  | cons c cs ih =>
    rw [List.mem_cons, not_or] at h
    rw [dropEscapes, ih h.2]
    exact fun rest hc => absurd hc.symm h.1

theorem doubleLast_of_notMem (h : '\\' ∉ cs) : doubleLast cs = cs := by
  have hreverse : '\\' ∉ cs.reverse := mt List.mem_reverse.mp h
  unfold doubleLast
  split
  · rfl
  · rename_i heq
    rw [heq] at hreverse
    exact absurd List.mem_cons_self hreverse
  · rfl

/-- A change that leaves every part of a text as it is leaves the text as it is. -/
theorem Markup.mapPieces_parse {f : List Char → List Char}
    (h : ∀ piece, piece.Sublist cs → f piece = piece) : (Markup.parse cs).mapPieces f = cs := by
  have htext : (parse cs).lead ++ ((parse cs).rest.map fun piece => piece.1 ++ piece.2).flatten =
      cs := text_parse cs
  have hlead : f (parse cs).lead = (parse cs).lead := by
    refine h _ ?_
    conv_rhs => rw [← htext]
    exact List.sublist_append_left ..
  have hrest : ∀ piece ∈ (parse cs).rest, f piece.1 ++ f piece.2 = piece.1 ++ piece.2 := by
    intro piece hmem
    have hboth : (piece.1 ++ piece.2).Sublist cs := by
      conv_rhs => rw [← htext]
      exact (List.sublist_flatten_of_mem
        (List.mem_map_of_mem (f := fun piece : List Char × List Char => piece.1 ++ piece.2) hmem)).trans
          (List.sublist_append_right ..)
    rw [h _ ((List.sublist_append_left ..).trans hboth),
      h _ ((List.sublist_append_right ..).trans hboth)]
  unfold mapPieces
  rw [hlead, List.flatMap_congr hrest]
  exact htext

/-- A text that nothing is done to when it is shown. -/
structure Unmarked (cs : List Char) : Prop where
  noBackslash : '\\' ∉ cs
  oneColon : cs.count ':' ≤ 1
  noControl : ∀ c ∈ cs, isDropped c = false

theorem Unmarked.shownChars_eq (h : Unmarked cs) : shownChars cs = cs := by
  have hpiece : ∀ piece : List Char, piece.Sublist cs →
      (replaceShortCodes ∘ dropEscapes) piece = piece := by
    intro piece hsub
    show replaceShortCodes (dropEscapes piece) = piece
    rw [dropEscapes_of_notMem fun hmem => h.noBackslash (hsub.subset hmem)]
    exact replaceShortCodes_of_count_le (Nat.le_trans (hsub.count_le ':') h.oneColon)
  unfold shownChars
  rw [doubleLast_of_notMem h.noBackslash, Markup.mapPieces_parse hpiece]
  refine List.filter_eq_self.mpr fun c hc => ?_
  rw [h.noControl c hc]
  rfl

/-- A line that fits shows an unmarked text as it is. -/
theorem shownLine_eq {before content after : String} (h : Unmarked content.toList)
    (hfits : FitsOn w (before.toList ++ content.toList ++ after.toList)) :
    shownLine w before content after = before ++ content ++ after ++ "\n" := by
  unfold shownLine
  simp only [h.shownChars_eq, hfits.wrap_eq, List.map_singleton]
  rw [String.intercalate_singleton, String.ofList_append, String.ofList_append]
  simp only [String.ofList_toList]

/-! ## Text that stands alone -/

/-- What may stand between the bracket and the letter of a terminal sequence. -/
def isParameter (c : Char) : Bool := c == ';' || c == '?' || c.isDigit

/-- An escape character, a bracket, digits and signs, and a letter. -/
inductive TerminalSequence : List Char → Prop
  | intro {parameters letter} : (∀ c ∈ parameters, isParameter c = true) →
      letter.isAlpha = true → TerminalSequence ('\x1b' :: '[' :: (parameters ++ [letter]))

/-- `out` is `cs` without the terminal sequences that are met from left to right. -/
inductive WithoutSequences : List Char → List Char → Prop
  | nil : WithoutSequences [] []
  | sequence {sequence rest out} : TerminalSequence sequence → WithoutSequences rest out →
      WithoutSequences (sequence ++ rest) out
  | keep {c cs out} : (∀ sequence rest, TerminalSequence sequence → c :: cs ≠ sequence ++ rest) →
      WithoutSequences cs out → WithoutSequences (c :: cs) (c :: out)

/-- What is read of a terminal sequence before its letter. -/
inductive Begun : List Char → Prop
  | escape : Begun ['\x1b']
  | opened {parameters} : (∀ c ∈ parameters, isParameter c = true) →
      Begun ('\x1b' :: '[' :: parameters)

section Sequences

variable {sequence rest out held parameters : List Char} {c letter : Char}

theorem not_isParameter_of_isAlpha (h : letter.isAlpha = true) : isParameter letter = false := by
  unfold Char.isAlpha Char.isUpper Char.isLower at h
  unfold isParameter Char.isDigit
  simp only [Bool.or_eq_true, Bool.and_eq_true, decide_eq_true_eq, ge_iff_le,
    UInt32.le_iff_toNat_le] at h
  simp only [Bool.or_eq_false_iff, Bool.and_eq_false_iff, decide_eq_false_iff_not, ge_iff_le,
    UInt32.le_iff_toNat_le, beq_eq_false_iff_ne]
  have hcode : 65 ≤ letter.val.toNat := by
    rcases h with ⟨hlow, _⟩ | ⟨hlow, _⟩
    · exact hlow
    · exact Nat.le_trans (by decide) hlow
  refine ⟨⟨?_, ?_⟩, .inr (Nat.not_le_of_lt (Nat.lt_of_lt_of_le (by decide) hcode))⟩
  · rintro rfl
    exact absurd hcode (by decide)
  · rintro rfl
    exact absurd hcode (by decide)

theorem isParameter_ne_escape (h : isParameter c = true) : c ≠ '\x1b' := by
  rintro rfl
  exact absurd h (by decide)

theorem isAlpha_ne_escape (h : letter.isAlpha = true) : letter ≠ '\x1b' := by
  rintro rfl
  exact absurd h (by decide)

/-! ### The reader, step by step -/

theorem plainFrom_escape (held cs : List Char) :
    plainFrom held ('\x1b' :: cs) = held ++ plainFrom ['\x1b'] cs := by
  rw [plainFrom.eq_def]
  exact if_pos rfl

theorem plainFrom_cons (h : c ≠ '\x1b') : plainFrom [] (c :: cs) = c :: plainFrom [] cs := by
  rw [plainFrom, if_neg h]

theorem plainFrom_escape_cons (h : c ≠ '\x1b') : plainFrom ['\x1b'] (c :: cs) =
    if c = '[' then plainFrom ['\x1b', c] cs else '\x1b' :: c :: plainFrom [] cs := by
  rw [plainFrom, if_neg h]
  rfl

theorem plainFrom_opened_cons (h : c ≠ '\x1b') (before : List Char) :
    plainFrom ('\x1b' :: '[' :: before) (c :: cs) =
      if isParameter c then plainFrom ('\x1b' :: '[' :: (before ++ [c])) cs
      else if c.isAlpha then plainFrom [] cs
      else '\x1b' :: '[' :: before ++ c :: plainFrom [] cs := by
  rw [plainFrom.eq_def]
  exact if_neg h

/-! ### The reader and the relation -/

theorem plainFrom_parameters (hall : ∀ c ∈ parameters, isParameter c = true)
    (hletter : letter.isAlpha = true) (before : List Char) :
    plainFrom ('\x1b' :: '[' :: before) (parameters ++ letter :: rest) = plainFrom [] rest := by
  induction parameters generalizing before with
  | nil =>
    rw [List.nil_append, plainFrom_opened_cons (isAlpha_ne_escape hletter),
      not_isParameter_of_isAlpha hletter, if_neg Bool.false_ne_true, if_pos hletter]
  | cons c parameters ih =>
    obtain ⟨hc, hall⟩ := List.forall_mem_cons.mp hall
    rw [List.cons_append, plainFrom_opened_cons (isParameter_ne_escape hc), if_pos hc]
    exact ih hall (before ++ [c])

theorem TerminalSequence.length_pos (h : TerminalSequence sequence) : 0 < sequence.length := by
  cases h with
  | intro _ _ => exact Nat.succ_pos _

/-- A terminal sequence is left out. -/
theorem plainFrom_sequence (h : TerminalSequence sequence) (rest : List Char) :
    plainFrom [] (sequence ++ rest) = plainFrom [] rest := by
  obtain ⟨hall, hletter⟩ := h
  rename_i parameters letter
  have hparts : '\x1b' :: '[' :: (parameters ++ [letter]) ++ rest =
      '\x1b' :: '[' :: (parameters ++ letter :: rest) := by simp
  rw [hparts]
  exact plainFrom_parameters hall hletter []

/-- What was begun comes back if it is the start of no sequence. -/
theorem plainFrom_begun (h : Begun held)
    (hno : ∀ sequence rest, TerminalSequence sequence → held ++ cs ≠ sequence ++ rest) :
    plainFrom held cs = held ++ plainFrom [] cs := by
  induction cs generalizing held with
  | nil => exact (List.append_nil held).symm
  | cons c cs ih =>
    by_cases hescape : c = '\x1b'
    · rw [hescape, plainFrom_escape, plainFrom_escape]
      rfl
    rw [plainFrom_cons hescape]
    cases h with
    | escape =>
      rw [plainFrom_escape_cons hescape]
      split
      · rename_i hopen
        subst hopen
        exact ih (.opened (List.forall_mem_nil _)) hno
      · rfl
    | @opened parameters hall =>
      rw [plainFrom_opened_cons hescape]
      split
      · rename_i hc
        have hmore : ∀ d ∈ parameters ++ [c], isParameter d = true :=
          List.forall_mem_append.mpr ⟨hall, List.forall_mem_singleton.mpr hc⟩
        rw [ih (.opened hmore) (by simpa using hno)]
        simp
      · split
        · -- the letter ends a sequence that was begun
          rename_i hletter
          exact absurd (by simp) (hno _ cs (.intro hall hletter))
        · rfl

theorem exists_withoutSequences (cs : List Char) : ∃ out, WithoutSequences cs out := by
  -- a sequence takes away several characters at once
  induction hlength : cs.length using Nat.strongRecOn generalizing cs with
  | ind n ih =>
    subst hlength
    cases cs with
    | nil => exact ⟨[], .nil⟩
    | cons c cs =>
      by_cases hstarts : ∃ sequence rest, TerminalSequence sequence ∧ c :: cs = sequence ++ rest
      · obtain ⟨sequence, rest, hsequence, hparts⟩ := hstarts
        have hshorter : rest.length < (c :: cs).length := by
          rw [hparts, List.length_append]
          exact Nat.lt_add_of_pos_left hsequence.length_pos
        obtain ⟨out, hout⟩ := ih rest.length hshorter rest rfl
        exact ⟨out, hparts ▸ .sequence hsequence hout⟩
      · obtain ⟨out, hout⟩ := ih cs.length (Nat.lt_succ_self cs.length) cs rfl
        refine ⟨c :: out, .keep (fun sequence rest hsequence hparts => ?_) hout⟩
        exact hstarts ⟨sequence, rest, hsequence, hparts⟩

theorem WithoutSequences.plainFrom_eq (h : WithoutSequences cs out) : plainFrom [] cs = out := by
  induction h with
  | nil => rfl
  | sequence hsequence _ ih => rw [plainFrom_sequence hsequence, ih]
  | @keep c cs out hno _ ih =>
    by_cases hescape : c = '\x1b'
    · subst hescape
      have hbegun := plainFrom_begun .escape hno
      rw [ih] at hbegun
      exact hbegun
    · rw [plainFrom_cons hescape, ih]

/-- Exactly one text is left without the terminal sequences, and it is the one written. -/
theorem plainFrom_eq_iff : plainFrom [] cs = out ↔ WithoutSequences cs out := by
  constructor
  · rintro rfl
    obtain ⟨out, h⟩ := exists_withoutSequences cs
    rw [h.plainFrom_eq]
    exact h
  · exact WithoutSequences.plainFrom_eq

/-- A text without an escape character holds no terminal sequence. -/
theorem WithoutSequences.eq_of_notMem (h : WithoutSequences cs out) (hescape : '\x1b' ∉ cs) :
    out = cs := by
  induction h with
  | nil => rfl
  | sequence hsequence _ _ =>
    cases hsequence with
    | intro _ _ => exact absurd List.mem_cons_self hescape
  | keep _ _ ih => rw [ih fun hmem => hescape (List.mem_cons_of_mem _ hmem)]

end Sequences

end Cli

end CaSettings
