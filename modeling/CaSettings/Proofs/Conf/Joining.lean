import CaSettings.Proofs.Conf.Precedence
import CaSettings.Proofs.Conf.ReadBack

/-!
# Two texts in one file

Two texts with a line end between them are read one after the other
(`ConfReader.readLines_lines_append`), whatever the first one ends in. What the
second one adds does not depend on the first one as long as a header stands above
its settings (`HeaderFirst`): from that header on, a reader that has read the first
text and one that has not do the same (`ConfReader.Continues`).

So the file holds the sections of both texts, and in each section the settings of
both, those of the second one winning (`Sections.mergedWith`). `parse_join` says so,
and that the header of the section that is open anyway changes nothing.
-/

namespace CaSettings

open Text

/-! ## The seam -/

section Seam

variable {ls ls' : List (List Char)} {cs rest mark : List Char}

theorem isMark_feed : IsMark "\n".toList := .inr ⟨'\n', rfl, rfl⟩

theorem isMark_of_isLineEnd (h : IsLineEnd mark rest) : IsMark mark := by
  cases h with
  | pair => exact .inl rfl
  | single hend _ => exact .inr ⟨_, hend, rfl⟩

theorem Text.Splits.joined (h : Splits cs ls) : Joined ls cs := by
  induction h with
  | nil => exact .nil
  | last _ hline => exact .last hline
  | line hline hmark _ ih => exact .line hline (isMark_of_isLineEnd hmark) ih

/-- A line end after a text closes its last line, or adds a blank one. -/
theorem Joined.append (h : Joined ls cs) (hmark : IsMark mark) (h' : Joined ls' rest) :
    Joined (ls ++ ls') (cs ++ mark ++ rest) ∨ Joined (ls ++ [] :: ls') (cs ++ mark ++ rest) := by
  induction h with
  | nil =>
    -- the line end closes nothing, so it stands for a blank line
    exact .inr (.line (by simp [Unbroken]) hmark h')
  | last hline => exact .inl (.line hline hmark h')
  | @line line first _ tail hline hfirst _ ih =>
    have hassoc : line ++ first ++ tail ++ mark ++ rest =
        line ++ first ++ (tail ++ mark ++ rest) := by
      simp only [List.append_assoc]
    rw [hassoc]
    exact ih.imp (.line hline hfirst) (.line hline hfirst)

/-- Two texts with a line end between them are read one after the other. -/
theorem ConfReader.readLines_lines_append (r : ConfReader) (cs rest : List Char)
    (hmark : IsMark mark) :
    r.readLines (lines (cs ++ mark ++ rest)) = (r.readLines (lines cs)).readLines (lines rest) := by
  rcases (splits_lines cs).joined.append hmark (splits_lines rest).joined with h | h
  · rw [h.readLines, readLines_append]
  · rw [h.readLines, readLines_append, readLines_blank]

end Seam

/-! ## Two configurations in one -/

namespace Sections

variable {s other : Sections} {heading key value : String}

/-- The sections of both configurations, and in each section the settings of both.
The second one's values win. -/
def mergedWith (s other : Sections) : Sections :=
  s.merge (other.map fun heading settings => (s.settingsOf heading).merge settings)

theorem names_mergedWith :
    (s.mergedWith other).names = s.names ++ other.names.filter (· ∉ s.names) := by
  unfold mergedWith
  rw [NameMap.names_merge, NameMap.names_map]

theorem mem_names_mergedWith :
    heading ∈ (s.mergedWith other).names ↔ heading ∈ s.names ∨ heading ∈ other.names := by
  unfold mergedWith
  rw [NameMap.mem_names_merge, NameMap.names_map]

theorem settingsOf_mergedWith :
    (s.mergedWith other).settingsOf heading =
      (s.settingsOf heading).merge (other.settingsOf heading) := by
  unfold mergedWith settingsOf
  rw [NameMap.get?_merge, NameMap.get?_map]
  cases other.get? heading with
  | none => rfl
  | some settings => rfl

/-- A configuration is the names of its sections and the settings of each. -/
theorem eq_of_settingsOf (hnames : s.names = other.names)
    (hsettings : ∀ heading, s.settingsOf heading = other.settingsOf heading) : s = other := by
  refine NameMap.eq_of_names_of_get? hnames fun heading hmem => ?_
  obtain ⟨settings, hget⟩ := Option.isSome_iff_exists.mp (NameMap.isSome_get?_iff.mpr hmem)
  obtain ⟨settings', hget'⟩ :=
    Option.isSome_iff_exists.mp (NameMap.isSome_get?_iff.mpr (hnames ▸ hmem))
  have hsame := hsettings heading
  unfold settingsOf at hsame
  rw [hget, hget'] at hsame
  rw [hget, hget']
  exact congrArg some hsame

theorem opened_of_mem (h : heading ∈ s.names) : s.opened heading = s :=
  if_pos (NameMap.isSome_get?_iff.mpr h)

theorem names_opened :
    (s.opened heading).names = if heading ∈ s.names then s.names else s.names ++ [heading] := by
  by_cases hmem : heading ∈ s.names
  · rw [opened_of_mem hmem, if_pos hmem]
  · have habsent : ¬ s.contains heading = true := fun h => hmem (NameMap.isSome_get?_iff.mp h)
    unfold opened
    rw [if_neg habsent, NameMap.names_insert]

/-- Opening a section of the second configuration opens it in both. -/
theorem mergedWith_opened :
    s.mergedWith (other.opened heading) = (s.mergedWith other).opened heading := by
  refine eq_of_settingsOf ?_ fun name => ?_
  · rw [names_opened, names_mergedWith, names_mergedWith, names_opened]
    exact NameMap.append_filter_new s.names other.names heading
  · rw [settingsOf_opened, settingsOf_mergedWith, settingsOf_mergedWith, settingsOf_opened]

/-- A setting in a section of the second configuration is set in both. -/
theorem mergedWith_set (h : heading ∈ other.names) :
    s.mergedWith (other.set heading key value) = (s.mergedWith other).set heading key value := by
  refine eq_of_settingsOf ?_ fun name => ?_
  · unfold set
    rw [NameMap.names_insert_of_mem (mem_names_mergedWith.mpr (.inr h)), names_mergedWith,
      names_mergedWith, NameMap.names_insert_of_mem h]
  · rw [settingsOf_set, settingsOf_mergedWith, settingsOf_mergedWith, settingsOf_set]
    split
    · exact NameMap.merge_insert ..
    · rfl

/-- A file starts with `main` alone, which adds nothing to a file that has it. -/
theorem mergedWith_start (h : mainSection ∈ s.names) :
    s.mergedWith ConfReader.start.sections = s := by
  have hempty : ∀ heading, ConfReader.start.sections.settingsOf heading = .empty :=
    fun heading => settingsOf_opened
  refine eq_of_settingsOf ?_ fun heading => ?_
  · rw [names_mergedWith]
    show s.names ++ [mainSection].filter (· ∉ s.names) = s.names
    simp [h]
  · rw [settingsOf_mergedWith, hempty]
    rfl

end Sections

/-! ## Reading on -/

/-- The first line that says something, if any does, is a header. -/
inductive HeaderFirst : List ConfLine → Prop
  | nil : HeaderFirst []
  | silent {said} : HeaderFirst said → HeaderFirst (.silent :: said)
  | header {name said} : HeaderFirst (.header name :: said)

namespace ConfReader

variable {base : Sections} {q r : ConfReader} {said : List ConfLine}

/-- `r` has read what `q` has read, and `base` before it. -/
structure Continues (base : Sections) (q r : ConfReader) : Prop where
  current : r.current = q.current
  isOpen : q.current ∈ q.sections.names
  sections : r.sections = base.mergedWith q.sections

theorem Continues.step (h : Continues base q r) (what : ConfLine) :
    Continues base (q.step what) (r.step what) := by
  cases what with
  | silent => exact h
  | header name =>
    refine ⟨rfl, Sections.mem_names_opened.mpr (.inr rfl), ?_⟩
    show r.sections.opened name = base.mergedWith (q.sections.opened name)
    rw [h.sections, Sections.mergedWith_opened]
  | setting key value =>
    refine ⟨h.current, Sections.mem_names_set.mpr (.inl h.isOpen), ?_⟩
    show r.sections.set r.current key value =
      base.mergedWith (q.sections.set q.current key value)
    rw [h.sections, h.current, Sections.mergedWith_set h.isOpen]

theorem Continues.foldl (h : Continues base q r) (said : List ConfLine) :
    Continues base (said.foldl ConfReader.step q) (said.foldl ConfReader.step r) := by
  induction said generalizing q r with
  | nil => exact h
  | cons what said ih => exact ih (h.step what)

/-- From the first header on, it does not matter what was read before. -/
theorem sections_foldl_of_headerFirst (h : HeaderFirst said)
    (hmain : mainSection ∈ r.sections.names) :
    (said.foldl step r).sections = r.sections.mergedWith (said.foldl step .start).sections := by
  induction h with
  | nil => exact (Sections.mergedWith_start hmain).symm
  | silent _ ih => exact ih
  | @header name said =>
    -- the header opens its section for both readers, and they go on alike
    have hfirst : Continues r.sections (start.step (.header name)) (r.step (.header name)) := by
      refine ⟨rfl, Sections.mem_names_opened.mpr (.inr rfl), ?_⟩
      show r.sections.opened name = r.sections.mergedWith (start.sections.opened name)
      rw [Sections.mergedWith_opened, Sections.mergedWith_start hmain]
    exact (hfirst.foldl said).sections

/-- The header of the section that is open anyway says nothing new. -/
theorem step_header_current (h : r.current ∈ r.sections.names) :
    r.step (.header r.current) = r := by
  show ConfReader.mk (r.sections.opened r.current) r.current = r
  rw [Sections.opened_of_mem h]

theorem mainSection_mem_foldl (said : List ConfLine) :
    mainSection ∈ (said.foldl step start).sections.names :=
  ((reflects_foldl said).names mainSection).mpr (.inl rfl)

/-- The open section is the one that the lines leave open, and it is there. -/
theorem current_foldl (said : List ConfLine) :
    InSection said said.length (said.foldl step start).current ∧
      (said.foldl step start).current ∈ (said.foldl step start).sections.names := by
  have hreflects := reflects_foldl said
  have hopen := (hreflects.current _).mpr rfl
  exact ⟨hopen, (hreflects.names _).mpr hopen.named⟩

end ConfReader

/-! ## Files -/

theorem ConfLine.Header.ne_nil {line name : List Char} (h : Header line name) : line ≠ [] := by
  obtain ⟨_, _, _, _, _⟩ := h
  simp

variable {first second mark : String} {said : List ConfLine}

/-- Reading a file of two texts is reading the second one where the first one ends. -/
theorem parse_append_mark (hmark : IsMark mark.toList) :
    Sections.parse (first ++ mark ++ second) =
      ((ConfReader.start.readLines (lines first.toList)).readLines
        (lines second.toList)).sections := by
  show (ConfReader.start.readLines (lines (first ++ mark ++ second).toList)).sections = _
  rw [String.toList_append, String.toList_append, ConfReader.readLines_lines_append _ _ _ hmark]

theorem parse_append_of_headerFirst (hmark : IsMark mark.toList) (h : Says second said)
    (hfirst : HeaderFirst said) :
    Sections.parse (first ++ mark ++ second) =
      (Sections.parse first).mergedWith (Sections.parse second) := by
  obtain rfl := says_iff.mp h
  rw [parse_append_mark hmark]
  exact ConfReader.sections_foldl_of_headerFirst hfirst (ConfReader.mainSection_mem_foldl _)

/-- A single line between two texts takes one step between them. -/
theorem parse_append_line {line mark' : String} (hmark : IsMark mark.toList)
    (hmark' : IsMark mark'.toList) (hne : line.toList ≠ []) (hline : Unbroken line.toList) :
    Sections.parse (first ++ mark ++ (line ++ mark' ++ second)) =
      (((ConfReader.start.readLines (lines first.toList)).step
        (ConfLine.read line.toList)).readLines (lines second.toList)).sections := by
  rw [parse_append_mark hmark, String.toList_append, String.toList_append,
    ConfReader.readLines_lines_append _ _ _ hmark', lines_of_unbroken hne hline]
  rfl

/-- A header that names the section that is open may be left out. -/
theorem parse_append_header {line mark' heading : String} (hmark : IsMark mark.toList)
    (hmark' : IsMark mark'.toList) (h : Says first said)
    (hopen : InSection said said.length heading) (hline : Unbroken line.toList)
    (hheader : ConfLine.Header line.toList heading.toList) :
    Sections.parse (first ++ mark ++ (line ++ mark' ++ second)) =
      Sections.parse (first ++ mark ++ second) := by
  obtain rfl := says_iff.mp h
  obtain ⟨hcurrent, hthere⟩ := ConfReader.current_foldl ((lines first.toList).map ConfLine.read)
  obtain rfl := (inSection_iff.mp hopen).trans (inSection_iff.mp hcurrent).symm
  have hread := hheader.reads.read_eq
  rw [String.ofList_toList] at hread
  have hstep := ConfReader.step_header_current hthere
  rw [parse_append_line hmark hmark' hheader.ne_nil hline, parse_append_mark hmark, hread]
  exact congrArg (fun r => (ConfReader.readLines r _).sections) hstep

/-- **Two texts in one file are merged.** If a header stands above the settings of the
second text, the file that joins two texts by a line end holds the sections of both,
in order, and in each section the settings of both, those of the second one winning.
And whatever the second text says: a header between the two that names the section that
the first one leaves open changes nothing, so a section may be split at any line. -/
theorem parse_join (first second mark : String) (hmark : IsMark mark.toList) :
    (∀ said, Says second said → HeaderFirst said →
      Sections.parse (first ++ mark ++ second) =
          (Sections.parse first).mergedWith (Sections.parse second) ∧
        (∀ heading, heading ∈ (Sections.parse (first ++ mark ++ second)).names ↔
          heading ∈ (Sections.parse first).names ∨ heading ∈ (Sections.parse second).names) ∧
        ∀ heading key,
          ((Sections.parse (first ++ mark ++ second)).settingsOf heading).get? key =
            (((Sections.parse second).settingsOf heading).get? key).or
              (((Sections.parse first).settingsOf heading).get? key)) ∧
    ∀ said heading line mark', Says first said → InSection said said.length heading →
      Unbroken line.toList → ConfLine.Header line.toList heading.toList → IsMark mark'.toList →
      Sections.parse (first ++ mark ++ (line ++ mark' ++ second)) =
        Sections.parse (first ++ mark ++ second) := by
  refine ⟨fun said h hfirst => ?_, fun said heading line mark' h hopen hline hheader hmark' =>
    parse_append_header hmark hmark' h hopen hline hheader⟩
  have hmerged : Sections.parse (first ++ mark ++ second) =
      (Sections.parse first).mergedWith (Sections.parse second) :=
    parse_append_of_headerFirst hmark h hfirst
  refine ⟨hmerged, fun heading => ?_, fun heading key => ?_⟩
  · rw [hmerged, Sections.mem_names_mergedWith]
  · rw [hmerged, Sections.settingsOf_mergedWith, NameMap.get?_merge]

/-- A text that ends in a carriage return, so that the line feed behind it adds no line. -/
def openEnded : String := "top = 0\n[m]\na = 1\nb = 2\r"

/-- A text that opens a section of `openEnded` again. -/
def reopening : String := "# more\n[other]\n[ m ]\nB = 3"

theorem parse_join_reopening :
    IsMark "\n".toList ∧
      Says reopening [.silent, .header "other", .header "m", .setting "b" "3"] ∧
      HeaderFirst [.silent, .header "other", .header "m", .setting "b" "3"] ∧
      Says openEnded [.setting "top" "0", .header "m", .setting "a" "1", .setting "b" "2"] ∧
      Unbroken "[m] # again".toList ∧ ConfLine.Header "[m] # again".toList "m".toList ∧
      Sections.parse (openEnded ++ "\n" ++ reopening) =
        (Sections.parse openEnded).mergedWith (Sections.parse reopening) ∧
      Sections.parse (openEnded ++ "\n" ++ ("[m] # again" ++ "\n" ++ reopening)) =
        Sections.parse (openEnded ++ "\n" ++ reopening) := by
  have hsaid : Says reopening [.silent, .header "other", .header "m", .setting "b" "3"] :=
    says_iff.mpr (by decide +kernel)
  have hfirst : HeaderFirst [.silent, .header "other", .header "m", .setting "b" "3"] :=
    .silent .header
  have hsaid' : Says openEnded
      [.setting "top" "0", .header "m", .setting "a" "1", .setting "b" "2"] :=
    says_iff.mpr (by decide +kernel)
  have hline : Unbroken "[m] # again".toList := by decide
  have hheader : ConfLine.Header "[m] # again".toList "m".toList :=
    ConfLine.header_iff.mpr (by decide +kernel)
  obtain ⟨hmerges, hrepeats⟩ := parse_join openEnded reopening "\n" isMark_feed
  exact ⟨isMark_feed, hsaid, hfirst, hsaid', hline, hheader, (hmerges _ hsaid hfirst).1,
    hrepeats _ _ _ _ hsaid' (inSection_iff.mpr (by decide)) hline hheader isMark_feed⟩

end CaSettings
