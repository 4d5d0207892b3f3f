import CaSettings.Proofs.Conf.Joining

/-!
# What a comment can do

A comment lasts as long as its line (`ConfReader.readLines_comment`). A line may end
without a line feed or a carriage return: what stands behind a form feed, or behind
any other line end of Unicode, is a line of its own and counts as one.

So a comment is unnoticed in every file iff the lines behind its first one say
nothing (`unnoticed_iff`), and in particular if no character of it ends a line.
`comments_last_one_line` says so, and what a file with any other comment says.
-/

namespace CaSettings

open Text

variable {said : List ConfLine} {first second comment : String}

namespace ConfReader

/-- Of a comment, the lines behind its first one are read. -/
theorem readLines_comment (r : ConfReader) (cs : List Char) :
    r.readLines (lines ('#' :: cs)) = r.readLines (lines cs).tail := by
  have hskips : ∀ line, ConfLine.Skips ('#' :: line) := fun line => .comment blanks_nil
  rw [lines_cons (by decide)]
  cases lines cs with
  | nil =>
    show r.readLines [['#']] = r.readLines []
    rw [readLines_cons, ConfLine.read_of_skips (hskips [])]
    rfl
  | cons line ls =>
    show r.readLines (('#' :: line) :: ls) = r.readLines ls
    rw [readLines_cons, ConfLine.read_of_skips (hskips line)]
    rfl

/-- Lines that say nothing change nothing. -/
theorem readLines_of_silent (r : ConfReader) {ls : List (List Char)}
    (h : ∀ line ∈ ls, ConfLine.Reads line .silent) : r.readLines ls = r := by
  induction ls with
  | nil => rfl
  | cons line ls ih =>
    obtain ⟨hline, hrest⟩ := List.forall_mem_cons.mp h
    rw [readLines_cons, ConfLine.read_eq_iff.mpr hline]
    exact ih hrest

/-- What adds nothing to an empty file sets no key and opens no section but `main`. -/
theorem silent_or_main_of_sections_eq (h : (said.foldl step start).sections = start.sections) :
    ∀ what ∈ said, what = .silent ∨ what = .header mainSection := by
  have hreflects := reflects_foldl said
  intro what hmem
  obtain ⟨i, hi⟩ := List.mem_iff_getElem?.mp hmem
  have hlt : i < said.length := (List.getElem?_eq_some_iff.mp hi).1
  cases what with
  | silent => exact .inl rfl
  | header name =>
    have hname : name ∈ start.sections.names := h ▸ (hreflects.names name).mpr (.inr ⟨i, hlt, hi⟩)
    obtain rfl : name = mainSection := List.mem_singleton.mp hname
    exact .inr rfl
  | setting key value =>
    -- some line declares the key last, so it would have a value
    have hdeclares : Declares said i (openSection said i) key value :=
      ⟨hi, inSection_iff.mpr rfl⟩
    obtain ⟨last, hlast⟩ := exists_lastDeclares_iff.mpr ⟨i, hlt, value, hdeclares⟩
    have hvalue := (hreflects.values _ _ _).mpr hlast
    have hempty : start.sections.settingsOf (openSection said i) = .empty :=
      Sections.settingsOf_opened
    rw [h, hempty, NameMap.get?_empty] at hvalue
    cases hvalue

theorem current_foldl_of_main {r : ConfReader}
    (h : ∀ what ∈ said, what = .silent ∨ what = .header mainSection)
    (hr : r.current = mainSection) : (said.foldl step r).current = mainSection := by
  induction said generalizing r with
  | nil => exact hr
  | cons what said ih =>
    obtain ⟨hwhat, hrest⟩ := List.forall_mem_cons.mp h
    rcases hwhat with rfl | rfl
    · exact ih hrest hr
    · exact ih hrest rfl

/-- Headers of `main` leave `main` open, whatever was open before. -/
theorem current_foldl_of_mem {r : ConfReader}
    (h : ∀ what ∈ said, what = .silent ∨ what = .header mainSection)
    (hmem : .header mainSection ∈ said) : (said.foldl step r).current = mainSection := by
  obtain ⟨front, back, rfl⟩ := List.append_of_mem hmem
  rw [List.foldl_append, List.foldl_cons]
  refine current_foldl_of_main (fun what hwhat => h what ?_) rfl
  exact List.mem_append_right _ (List.mem_cons_of_mem _ hwhat)

end ConfReader

/-! ## Files with a comment -/

/-- The file with a comment between two texts. -/
def withComment (first comment second : String) : String :=
  first ++ "\n#" ++ comment ++ "\n" ++ second

/-- No file shows whether the comment is there. -/
def Unnoticed (comment : String) : Prop :=
  ∀ first second, Sections.parse (withComment first comment second) =
    Sections.parse (first ++ "\n" ++ second)

theorem parse_withComment :
    Sections.parse (withComment first comment second) =
      (((ConfReader.start.readLines (lines first.toList)).readLines
        (lines comment.toList).tail).readLines (lines second.toList)).sections := by
  have hparts : (withComment first comment second).toList =
      first.toList ++ "\n".toList ++
        ('#' :: comment.toList ++ "\n".toList ++ second.toList) := by
    simp [withComment]
  show (ConfReader.start.readLines (lines (withComment first comment second).toList)).sections = _
  rw [hparts, ConfReader.readLines_lines_append _ _ _ isMark_feed,
    ConfReader.readLines_lines_append _ _ _ isMark_feed, ConfReader.readLines_comment]

/-- What shows that a comment opens `main`. -/
theorem get?_parse_withComment_of_main (first : String)
    (hcurrent : ((ConfReader.start.readLines (lines first.toList)).readLines
      (lines comment.toList).tail).current = mainSection) :
    ((Sections.parse (withComment first comment "k=v")).settingsOf mainSection).get? "k" =
      some "v" := by
  have hlines : lines "k=v".toList = ["k=v".toList] := by decide
  have hread : ConfLine.read "k=v".toList = .setting "k" "v" := by decide
  rw [parse_withComment, hlines, ConfReader.readLines_of_setting hread, hcurrent]
  show ((Sections.set _ mainSection "k" "v").settingsOf mainSection).get? "k" = some "v"
  rw [Sections.settingsOf_set, if_pos rfl, NameMap.get?_insert, if_pos rfl]

theorem unnoticed_iff :
    Unnoticed comment ↔ ∀ line ∈ (lines comment.toList).tail, ConfLine.Reads line .silent := by
  constructor
  · intro h
    have hempty := h "" ""
    rw [parse_withComment] at hempty
    have hall := ConfReader.silent_or_main_of_sections_eq hempty
    intro line hline
    have hread : ConfLine.read line ∈ (lines comment.toList).tail.map ConfLine.read :=
      List.mem_map_of_mem hline
    rcases hall _ hread with hsilent | hmain
    · exact ConfLine.read_eq_iff.mp hsilent
    · -- a setting behind the comment goes to `main`, and without the comment to `x`
      have hnoticed := get?_parse_withComment_of_main "[x]"
        (ConfReader.current_foldl_of_mem hall (hmain ▸ hread))
      rw [h "[x]" "k=v"] at hnoticed
      exact absurd hnoticed (by decide +kernel)
  · intro h first second
    rw [parse_withComment, ConfReader.readLines_of_silent _ h, parse_append_mark isMark_feed]

/-- **A comment lasts as long as its line.** What stands behind the first line end in a
comment, of whatever kind, is read like any other text. So the comment is unnoticed in
every file iff none of the lines behind its first one says anything; a comment without
a line end is. -/
theorem comments_last_one_line (comment : String) :
    (∀ front mark back, comment.toList = front ++ mark ++ back → Unbroken front →
      IsLineEnd mark back → ∀ first second,
        Sections.parse (withComment first comment second) =
          Sections.parse (first ++ "\n" ++ (String.ofList back ++ "\n" ++ second))) ∧
      (Unbroken comment.toList → Unnoticed comment) ∧
      (Unnoticed comment ↔
        ∀ line ∈ (lines comment.toList).tail, ConfLine.Reads line .silent) := by
  refine ⟨?_, ?_, unnoticed_iff⟩
  · intro front mark back hparts hfront hmark first second
    have hlines : (lines comment.toList).tail = lines back := by
      rw [hparts, lines_append hfront hmark]
      rfl
    rw [parse_withComment, hlines, parse_append_mark isMark_feed,
      String.toList_append, String.toList_append, String.toList_ofList]
    exact congrArg ConfReader.sections (ConfReader.readLines_lines_append _ _ _ isMark_feed).symm
  · -- a comment without a line end has no second line
    intro hline
    refine unnoticed_iff.mpr fun line hmem => ?_
    have hnone : (lines comment.toList).tail = [] := by
      by_cases hnil : comment.toList = []
      · rw [hnil]
        rfl
      · rw [lines_of_unbroken hnil hline]
        rfl
    rw [hnone] at hmem
    cases hmem

/-- What stands behind a form feed is a line, and may be another comment. -/
theorem comments_last_one_line_formFeed :
    Unnoticed "one # two" ∧ Unnoticed "one\x0c # two" ∧
      ∀ first second, Sections.parse (withComment first "one\x0ck = v" second) =
        Sections.parse (first ++ "\n" ++ ("k = v" ++ "\n" ++ second)) := by
  refine ⟨(comments_last_one_line "one # two").2.1 (by decide),
    (comments_last_one_line "one\x0c # two").2.2.mpr ?_, ?_⟩
  · have hlines : (lines "one\x0c # two".toList).tail = [" # two".toList] := by decide
    rw [hlines]
    intro line hline
    obtain rfl := List.mem_singleton.mp hline
    exact ConfLine.read_eq_iff.mp (by decide)
  · exact (comments_last_one_line "one\x0ck = v").1 "one".toList ['\x0c'] "k = v".toList rfl
      (by decide) (.single (by decide) (by decide))

/-- A form feed ends the comment, and the key behind it is set. -/
theorem noticed_behind_formFeed :
    '\n' ∉ "\x0ck = v".toList ∧ '\r' ∉ "\x0ck = v".toList ∧
      ((Sections.parse (withComment "" "\x0ck = v" "")).settingsOf "main").get? "k" = some "v" ∧
      ¬ Unnoticed "\x0ck = v" := by
  refine ⟨by decide, by decide, by decide +kernel, fun h => ?_⟩
  have hvalue := congrArg (fun s : Sections => (s.settingsOf "main").get? "k") (h "" "")
  exact absurd hvalue (by decide +kernel)

end CaSettings
