import CaSettings.Proofs.Conf.Joining
import CaSettings.Proofs.Conf.Rereading

/-!
# The names of sections

The name of a section is what stands between the blanks in a header's brackets, so
that it is not empty, holds no bracket, and has no blank at its ends
(`WritableName`). One kind of header is an exception: where the brackets hold
nothing but blanks (`NamelessHeader`), the last blank is the name.

`section_names_canonical_iff` says that these headers are the only ones that give a
file a name of another form, and that blanks around a name make no other section.
-/

namespace CaSettings

open Text

variable {line name : List Char} {text heading : String} {c : Char}

/-- A header whose brackets hold blanks and nothing else, `c` being the last one. -/
inductive NamelessHeader (c : Char) : List Char → Prop
  | intro {before front after} : Blanks before → Blanks (front ++ [c]) → ConfLine.Skips after →
      NamelessHeader c (before ++ '[' :: (front ++ [c]) ++ ']' :: after)

/-! ## The name that a header gives -/

theorem HeaderLine.ne_nil (h : HeaderLine name line) : line ≠ [] := by
  obtain ⟨_, _, _, _⟩ := h
  simp

theorem NamelessHeader.header (h : NamelessHeader c line) : ConfLine.Header line [c] := by
  obtain ⟨hbefore, hblanks, hafter⟩ := h
  refine .intro hbefore (by simp) ?_ hafter (.blank hblanks rfl)
  exact fun hmem => absurd (hblanks _ hmem) (by decide)

theorem NamelessHeader.isBlank (h : NamelessHeader c line) : isBlank c = true := by
  obtain ⟨_, hblanks, _⟩ := h
  exact hblanks c (by simp)

/-- A blank is no name that can be written with blanks around it. -/
theorem not_writableName_of_isBlank (h : isBlank c = true) : ¬ WritableName [c] := by
  intro hname
  have hfull := hname.startsFull c rfl
  rw [h] at hfull
  cases hfull

/-- A header gives a name without blanks at its ends, or it has no name. -/
theorem ConfLine.Header.writableName_or (h : Header line name) (hline : Unbroken line) :
    WritableName name ∨ ∃ c, name = [c] ∧ NamelessHeader c line := by
  have hlegible := h.legible hline
  obtain ⟨hbefore, _, _, hafter, hname⟩ := h
  cases hname with
  | trimmed _ htrims =>
    exact .inl ⟨hlegible.ne_nil, htrims.startsFull, htrims.endsFull, hlegible.noBracket,
      hlegible.unbroken⟩
  | blank hblanks hlast =>
    subst hlast
    exact .inr ⟨_, rfl, .intro hbefore hblanks hafter⟩

/-- Brackets around nothing open no section. -/
theorem read_emptyBrackets {before after : List Char} (h : Blanks before) :
    ConfLine.read (before ++ '[' :: ']' :: after) = .silent := by
  unfold ConfLine.read
  rw [trimStart_append h (startsFull_cons.mpr (by decide))]
  rfl

/-! ## The names of a file -/

theorem mem_names_parse_iff :
    heading ∈ (Sections.parse text).names ↔
      heading = mainSection ∨
        ∃ line ∈ lines text.toList, ConfLine.Reads line (.header heading) := by
  have hreflects := ConfReader.reflects_foldl ((lines text.toList).map ConfLine.read)
  refine (hreflects.names heading).trans (or_congr_right ?_)
  constructor
  · rintro ⟨i, _, hi⟩
    obtain ⟨line, hmem, hread⟩ := List.mem_map.mp (List.mem_of_getElem? hi)
    exact ⟨line, hmem, ConfLine.read_eq_iff.mp hread⟩
  · rintro ⟨line, hmem, hreads⟩
    have hsaid : .header heading ∈ (lines text.toList).map ConfLine.read :=
      List.mem_map.mpr ⟨line, hmem, ConfLine.read_eq_iff.mpr hreads⟩
    obtain ⟨i, hi⟩ := List.mem_iff_getElem?.mp hsaid
    exact ⟨i, (List.getElem?_eq_some_iff.mp hi).1, hi⟩

theorem writableName_or_of_mem_names (h : heading ∈ (Sections.parse text).names) :
    WritableName heading.toList ∨
      ∃ c, heading.toList = [c] ∧ ∃ line ∈ lines text.toList, NamelessHeader c line := by
  rcases mem_names_parse_iff.mp h with rfl | ⟨line, hmem, hreads⟩
  · exact .inl (by decide)
  · cases hreads with
    | header _ hheader =>
      rw [String.toList_ofList]
      rcases hheader.writableName_or ((splits_lines text.toList).unbroken line hmem) with
        hname | ⟨c, hc, hnameless⟩
      · exact .inl hname
      · exact .inr ⟨c, hc, line, hmem, hnameless⟩

/-- A header without a name opens a section all the same. -/
theorem mem_names_of_namelessHeader (hmem : line ∈ lines text.toList)
    (h : NamelessHeader c line) : String.ofList [c] ∈ (Sections.parse text).names :=
  mem_names_parse_iff.mpr (.inr ⟨line, hmem, h.header.reads⟩)

/-- Blanks around a name, outside the brackets or in them, make no difference to a file. -/
theorem parse_append_headerLine {line line' rest : String} (hname : WritableName name)
    (h : HeaderLine name line.toList) (h' : HeaderLine name line'.toList)
    (hline : Unbroken line.toList) (hline' : Unbroken line'.toList) :
    Sections.parse (text ++ "\n" ++ (line ++ "\n" ++ rest)) =
      Sections.parse (text ++ "\n" ++ (line' ++ "\n" ++ rest)) := by
  rw [parse_append_line isMark_feed isMark_feed h.ne_nil hline,
    parse_append_line isMark_feed isMark_feed h'.ne_nil hline', (h.reads hname).read_eq,
    (h'.reads hname).read_eq]

/-- **Section names are canonical where every header has a name.** No name is empty or
holds a closing bracket, and none has a blank at its ends but those that headers without
a name give: such a header opens the section of its last blank, unless there is nothing
in its brackets. Blanks around a name that is one lead to the same section. -/
theorem section_names_canonical_iff (text : String) :
    ((∀ heading ∈ (Sections.parse text).names, WritableName heading.toList) ↔
      ∀ line ∈ lines text.toList, ∀ c, ¬ NamelessHeader c line) ∧
    (∀ heading ∈ (Sections.parse text).names, heading.toList ≠ [] ∧ ']' ∉ heading.toList ∧
      (StartsFull heading.toList ∧ EndsFull heading.toList ∨
        ∃ c, heading.toList = [c] ∧ ∃ line ∈ lines text.toList, NamelessHeader c line)) ∧
    (∀ line ∈ lines text.toList, ∀ c, NamelessHeader c line →
      String.ofList [c] ∈ (Sections.parse text).names) ∧
    (∀ before after, Blanks before →
      ConfLine.read (before ++ '[' :: ']' :: after) = .silent) ∧
    ∀ name line line' rest, WritableName name → HeaderLine name line.toList →
      HeaderLine name line'.toList → Unbroken line.toList → Unbroken line'.toList →
      Sections.parse (text ++ "\n" ++ (line ++ "\n" ++ rest)) =
        Sections.parse (text ++ "\n" ++ (line' ++ "\n" ++ rest)) := by
  refine ⟨⟨?_, ?_⟩, ?_, fun line hmem c h => mem_names_of_namelessHeader hmem h,
    fun before after h => read_emptyBrackets h,
    fun name line line' rest hname h h' hline hline' =>
      parse_append_headerLine hname h h' hline hline'⟩
  · intro h line hmem c hnameless
    have hname := h _ (mem_names_of_namelessHeader hmem hnameless)
    rw [String.toList_ofList] at hname
    exact not_writableName_of_isBlank hnameless.isBlank hname
  · intro h heading hheading
    rcases writableName_or_of_mem_names hheading with hname | ⟨c, _, line, hmem, hnameless⟩
    · exact hname
    · exact absurd hnameless (h line hmem c)
  · intro heading hheading
    rcases writableName_or_of_mem_names hheading with hname | ⟨c, hc, line, hmem, hnameless⟩
    · exact ⟨hname.ne_nil, hname.noBracket, .inl ⟨hname.startsFull, hname.endsFull⟩⟩
    · -- the name is a blank, and a bracket is none
      have hbracket : ']' ∉ [c] := by
        rintro (_ | ⟨_, h⟩)
        · exact absurd hnameless.isBlank (by decide)
        · cases h
      rw [hc]
      exact ⟨List.cons_ne_nil c [], hbracket, .inr ⟨c, rfl, line, hmem, hnameless⟩⟩

theorem section_names_canonical_iff_padded :
    (∀ heading ∈ (Sections.parse "[]\n[\x1f m ]\nb = 2").names, WritableName heading.toList) ∧
      (∀ line ∈ lines "[]\n[\x1f m ]\nb = 2".toList, ∀ c, ¬ NamelessHeader c line) ∧
      Sections.parse ("[]" ++ "\n" ++ ("[m]" ++ "\n" ++ "b = 2")) =
        Sections.parse ("[]" ++ "\n" ++ ("[\x1f m ]" ++ "\n" ++ "b = 2")) := by
  have hnames : ∀ heading ∈ (Sections.parse "[]\n[\x1f m ]\nb = 2").names,
      WritableName heading.toList := by decide +kernel
  have hname : WritableName "m".toList := by decide
  have hplain : HeaderLine "m".toList "[m]".toList := headerLine_plainHeader "m"
  have hpadded : HeaderLine "m".toList "[\x1f m ]".toList := by
    show HeaderLine "m".toList ([] ++ '[' :: (['\x1f', ' '] ++ "m".toList ++ [' ']) ++ ']' :: [])
    exact .intro blanks_nil (by decide) (by decide) (.blank blanks_nil)
  obtain ⟨hcanonical, _⟩ := section_names_canonical_iff "[]\n[\x1f m ]\nb = 2"
  obtain ⟨_, _, _, _, hpads⟩ := section_names_canonical_iff "[]"
  exact ⟨hnames, hcanonical.mp hnames,
    hpads _ _ _ "b = 2" hname hplain hpadded (by decide) (by decide)⟩

/-- A header without a name opens a section, and another blank opens another one. -/
theorem parse_namelessHeader :
    " " ∈ (Sections.parse "[ ]").names ∧ ¬ WritableName " ".toList ∧
      "\t" ∈ (Sections.parse "[ \t]").names ∧ "\t" ∉ (Sections.parse "[ ]").names := by
  decide +kernel

end CaSettings
