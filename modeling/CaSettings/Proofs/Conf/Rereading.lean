import CaSettings.Proofs.Conf.ReadBack

/-!
# Reading a configuration again

What a reading stores can be shown in a file again: the names stand in headers,
the keys and values in lines (`Sections.Legible`, `legible_parse`). Reading that
file gives the same sections and keys in the same order. Of the values it leaves
out the note that they end in, if any (`Sections.withoutNotes`): a reading takes
away one note, so that a value with two of them keeps one.

`parse_plainText_parse` says so of single lines and of whole files. The
configuration is the same again iff no value ends in a note.
-/

namespace CaSettings

open Text

/-! ## What a reading stores -/

/-- A name that the header with nothing but this name gives. -/
structure LegibleName (name : List Char) : Prop where
  ne_nil : name ≠ []
  noBracket : ']' ∉ name
  sectionName : ConfLine.SectionName name name
  unbroken : Unbroken name

/-- A key and a value that can stand in a line. The value may end in a note. -/
structure LegibleEntry (key value : List Char) : Prop where
  key : WritableKey key
  startsFull : StartsFull value
  endsFull : EndsFull value
  unbroken : Unbroken value

/-- Sections that a file can show. -/
structure Sections.Legible (s : Sections) : Prop where
  mainFirst : s.names.head? = some mainSection
  name : ∀ heading ∈ s.names, LegibleName heading.toList
  entry : ∀ heading key value, (s.settingsOf heading).get? key = some value →
    LegibleEntry key.toList value.toList

section Stored

variable {line name key value text : List Char}

/-- A word in lower case is of small letters, digits and underscores. -/
theorem small_toLower {c : Char} (h : isWord c = true) :
    c.toLower.isLower = true ∨ c.toLower.isDigit = true ∨ c.toLower = '_' := by
  unfold Char.toLower
  split
  · rename_i hupper
    have hlow : 65 ≤ c.val.toNat := hupper.1
    have hhigh : c.val.toNat ≤ 90 := hupper.2
    have hshift : ('a'.val - 'A'.val).toNat = 32 := rfl
    have hfirst : 'a'.val.toNat = 97 := rfl
    have hlast : 'z'.val.toNat = 122 := rfl
    refine .inl ?_
    unfold Char.isLower
    simp only [Bool.and_eq_true, decide_eq_true_eq, ge_iff_le,
      UInt32.le_iff_toNat_le, UInt32.toNat_add]
    omega
  · rename_i hother
    have hupper : c.isUpper = false := decide_eq_false hother
    unfold isWord Char.isAlphanum Char.isAlpha at h
    simpa [hupper, or_assoc] using h

theorem ConfLine.Header.legible (h : Header line name) (hline : Unbroken line) :
    LegibleName name := by
  obtain @⟨before, inside, after, _, _, _, hbracket, _, hname⟩ := h
  have hinside : Unbroken inside := fun c hc => hline c (by simp [hc])
  cases hname with
  | trimmed hne htrims =>
    obtain ⟨⟨left, right, _, _, rfl⟩, hstart, hend⟩ := htrims
    rw [List.mem_append, List.mem_append, not_or, not_or] at hbracket
    rw [unbroken_append, unbroken_append] at hinside
    refine ⟨hne, hbracket.1.2, .trimmed hne ⟨⟨[], [], blanks_nil, blanks_nil, ?_⟩, hstart, hend⟩,
      hinside.1.2⟩
    rw [List.nil_append, List.append_nil]
  | @blank front c hblank hlast =>
    subst hlast
    exact ⟨List.cons_ne_nil c [], fun hmem => hbracket (List.mem_append_right _ hmem),
      @ConfLine.SectionName.blank [c] [] c (blanks_append.mp hblank).2 rfl,
      (unbroken_append.mp hinside).2⟩

theorem ConfLine.KeyValue.legible (h : KeyValue line key value) (hline : Unbroken line) :
    LegibleEntry (key.map Char.toLower) value := by
  obtain @⟨before, _, gap, rest, trimmed, _, _, hne, hword, _, htrims, hnote⟩ := h
  obtain ⟨⟨left, right, _, _, rfl⟩, hstart, hend⟩ := htrims
  obtain ⟨note, rfl⟩ := hnote.exists_append
  refine ⟨⟨by simpa using hne, ?_⟩, hstart.of_append, hnote.endsFull hend,
    fun c hc => hline c (by simp [hc])⟩
  intro c hc
  obtain ⟨d, hd, rfl⟩ := List.mem_map.mp hc
  exact small_toLower (hword d hd)

end Stored

/-! ### Files -/

theorem ConfReader.head?_names_step {r : ConfReader} {first : String}
    (h : r.sections.names.head? = some first) (what : ConfLine) :
    (r.step what).sections.names.head? = some first := by
  cases what with
  | silent => exact h
  | header name =>
    show (r.sections.opened name).names.head? = some first
    unfold Sections.opened
    split
    · exact h
    · exact NameMap.head?_names_insert name .empty h
  | setting key value => exact NameMap.head?_names_insert r.current _ h

theorem ConfReader.head?_names_readLines {first : String} (ls : List (List Char)) :
    ∀ r : ConfReader, r.sections.names.head? = some first →
      (r.readLines ls).sections.names.head? = some first := by
  induction ls with
  | nil => exact fun r h => h
  | cons line ls ih => exact fun r h => ih _ (head?_names_step h (ConfLine.read line))

theorem legibleName_mainSection : LegibleName mainSection.toList where
  ne_nil := by decide
  noBracket := by decide
  sectionName := .trimmed (by decide) (trim_eq_iff.mp (by decide))
  unbroken := by decide

theorem Text.Splits.unbroken {cs : List Char} {ls : List (List Char)} (h : Splits cs ls) :
    ∀ line ∈ ls, Unbroken line := by
  induction h with
  | nil => exact fun line hmem => absurd hmem List.not_mem_nil
  | last _ hline => exact List.forall_mem_singleton.mpr hline
  | line hline _ _ ih => exact List.forall_mem_cons.mpr ⟨hline, ih⟩

/-- A line that says something is one of the lines of the text, read. -/
theorem exists_reads_of_getElem? {text : String} {i : Nat} {what : ConfLine}
    (h : ((lines text.toList).map ConfLine.read)[i]? = some what) :
    ∃ line, Unbroken line ∧ ConfLine.Reads line what := by
  obtain ⟨line, hmem, hread⟩ := List.mem_map.mp (List.mem_of_getElem? h)
  exact ⟨line, (splits_lines text.toList).unbroken line hmem, ConfLine.read_eq_iff.mp hread⟩

/-- **Whatever a reading stores can be shown in a file.** -/
theorem legible_parse (text : String) : (Sections.parse text).Legible := by
  have hreflects := ConfReader.reflects_foldl ((lines text.toList).map ConfLine.read)
  refine ⟨ConfReader.head?_names_readLines (lines text.toList) .start rfl, ?_, ?_⟩
  · intro heading hmem
    rcases (hreflects.names heading).mp hmem with rfl | ⟨i, _, hheader⟩
    · exact legibleName_mainSection
    · obtain ⟨line, hline, hreads⟩ := exists_reads_of_getElem? hheader
      cases hreads with
      | header _ hname =>
        rw [String.toList_ofList]
        exact hname.legible hline
  · intro heading key value hget
    obtain ⟨i, _, hdeclares, _⟩ := (hreflects.values heading key value).mp hget
    obtain ⟨line, hline, hreads⟩ := exists_reads_of_getElem? hdeclares.setting
    cases hreads with
    | setting _ _ hsetting =>
      rw [String.toList_ofList, String.toList_ofList]
      exact hsetting.legible hline

/-! ## Reading what is shown -/

/-- The value without the note that a reading leaves out. -/
def withoutNote (value : String) : String := String.ofList (withoutMetadata value.toList)

section Shown

variable {name : String} {entry : String × String}

theorem read_plainHeader (h : LegibleName name.toList) :
    ConfLine.read (plainHeader name) = .header name := by
  have hheader : ConfLine.Header (plainHeader name) name.toList :=
    @ConfLine.Header.intro [] name.toList [] name.toList blanks_nil h.ne_nil h.noBracket
      (.blank blanks_nil) h.sectionName
  have hread := hheader.reads.read_eq
  rwa [String.ofList_toList] at hread

theorem read_plainSetting (h : LegibleEntry entry.1.toList entry.2.toList) :
    ConfLine.read (plainSetting entry) = .setting entry.1 (withoutNote entry.2) := by
  have hblank : Blanks [' '] := by decide
  have hparts : plainSetting entry =
      [] ++ entry.1.toList ++ [' '] ++ '=' :: ([' '] ++ entry.2.toList ++ []) := by
    simp [plainSetting]
  have hsetting : ConfLine.KeyValue (plainSetting entry) entry.1.toList
      (withoutMetadata entry.2.toList) := by
    rw [hparts]
    exact .intro blanks_nil h.key.ne_nil h.key.isWord hblank
      ⟨⟨[' '], [], hblank, blanks_nil, rfl⟩, h.startsFull, h.endsFull⟩
      (withoutMetadata_eq_iff.mp rfl)
  have hread := hsetting.reads.read_eq
  rwa [h.key.map_toLower, String.ofList_toList] at hread

end Shown

/-! ## Reading the file -/

section File

/-- The settings of a section without their notes. -/
def settingsWithoutNotes (settings : NameMap String) : NameMap String :=
  settings.map fun _ value => withoutNote value

/-- The configuration without the notes that another reading leaves out. -/
def Sections.withoutNotes (s : Sections) : Sections :=
  s.map fun _ settings => settingsWithoutNotes settings

variable {name : String} {entries : List (String × String)}

/-- The reader is in the section `name`, the last one, which holds `settings` so far. -/
structure ConfReader.Fills (r : ConfReader) (front : List (String × NameMap String))
    (name : String) (settings : List (String × String)) : Prop where
  current : r.current = name
  sections : ∃ m : NameMap String, m.entries = settings ∧
    r.sections.entries = front ++ [(name, m)]

variable {r : ConfReader} {front : List (String × NameMap String)}
  {settings : List (String × String)}

/-- One more setting of a new key goes to the end of the last section. -/
theorem ConfReader.Fills.step (h : r.Fills front name settings) {key value : String}
    (hkey : key ∉ settings.map Prod.fst) :
    (r.step (.setting key value)).Fills front name (settings ++ [(key, value)]) := by
  obtain ⟨rfl, m, rfl, hsections⟩ := h
  have hlast : (r.current, m) ∈ r.sections.entries := by
    rw [hsections]
    exact List.mem_concat_self
  have hsettings : r.sections.settingsOf r.current = m := Sections.settingsOf_of_mem hlast
  have hfront : r.current ∉ front.map Prod.fst := by
    have hnd := r.sections.nodup
    rw [hsections, List.map_append, List.nodup_append] at hnd
    exact fun hmem => hnd.2.2 _ hmem _ (List.mem_singleton.mpr rfl) rfl
  refine ⟨rfl, m.insert key value, NameMap.insertEntry_of_notMem hkey, ?_⟩
  show NameMap.insertEntry r.current ((r.sections.settingsOf r.current).insert key value)
    r.sections.entries = _
  rw [hsettings, hsections, NameMap.insertEntry_concat hfront]

/-- The lines of a section fill it, in order. -/
theorem ConfReader.Fills.readLines (h : r.Fills front name settings)
    (hlegible : ∀ entry ∈ entries, LegibleEntry entry.1.toList entry.2.toList)
    (hnd : ((settings ++ entries).map Prod.fst).Nodup) :
    (r.readLines (entries.map plainSetting)).Fills front name
      (settings ++ entries.map fun entry => (entry.1, withoutNote entry.2)) := by
  induction entries generalizing r settings with
  | nil =>
    rw [List.map_nil, List.map_nil, List.append_nil]
    exact h
  | cons entry rest ih =>
    obtain ⟨hentry, hrest⟩ := List.forall_mem_cons.mp hlegible
    have hnew : entry.1 ∉ settings.map Prod.fst := by
      rw [List.map_append, List.nodup_append] at hnd
      exact fun hmem => hnd.2.2 _ hmem _ List.mem_cons_self rfl
    rw [List.map_cons, List.map_cons, ConfReader.readLines_cons, read_plainSetting hentry,
      List.append_cons]
    refine ih (h.step hnew) hrest ?_
    simpa using hnd

/-- Where the reading stands once the header of a new section is read. -/
theorem ConfReader.fills_of_header (r : ConfReader) (hname : name ∉ r.sections.names) :
    (r.step (.header name)).Fills r.sections.entries name [] := by
  refine ⟨rfl, .empty, rfl, ?_⟩
  have habsent : r.sections.contains name = false := by
    unfold NameMap.contains
    rw [NameMap.get?_eq_none_iff.mpr hname]
    rfl
  show (r.sections.opened name).entries = _
  unfold Sections.opened
  rw [if_neg (by rw [habsent]; exact Bool.false_ne_true)]
  exact NameMap.insertEntry_of_notMem hname

/-- A section that is full holds the settings that its lines show, without their notes. -/
theorem ConfReader.Fills.entries_eq {m : NameMap String} (h : r.Fills front name
    (m.entries.map fun entry => (entry.1, withoutNote entry.2))) :
    r.sections.entries = front ++ [(name, settingsWithoutNotes m)] := by
  obtain ⟨_, full, hfull, hsections⟩ := h
  have hsame : full = settingsWithoutNotes m := NameMap.ext hfull
  rw [hsections, hsame]

/-- The lines of the sections, each a header and its settings. -/
def bucketLines (bucket : String × NameMap String) : List (List Char) :=
  plainHeader bucket.1 :: bucket.2.entries.map plainSetting

/-- A bucket with a name and settings that lines can show. -/
structure LegibleBucket (bucket : String × NameMap String) : Prop where
  name : LegibleName bucket.1.toList
  entry : ∀ entry ∈ bucket.2.entries, LegibleEntry entry.1.toList entry.2.toList

/-- New sections are added at the end, in order. -/
theorem ConfReader.entries_readLines_buckets {buckets : List (String × NameMap String)}
    (hlegible : ∀ bucket ∈ buckets, LegibleBucket bucket) (r : ConfReader)
    (hnd : ((r.sections.entries ++ buckets).map Prod.fst).Nodup) :
    (r.readLines (buckets.flatMap bucketLines)).sections.entries =
      r.sections.entries ++
        buckets.map fun bucket => (bucket.1, settingsWithoutNotes bucket.2) := by
  induction buckets generalizing r with
  | nil => exact (List.append_nil _).symm
  | cons bucket rest ih =>
    obtain ⟨hbucket, hrest⟩ := List.forall_mem_cons.mp hlegible
    have hnew : bucket.1 ∉ r.sections.names := by
      rw [List.map_append, List.nodup_append] at hnd
      exact fun hmem => hnd.2.2 _ hmem _ List.mem_cons_self rfl
    have hfull := ((r.fills_of_header hnew).readLines hbucket.entry bucket.2.nodup).entries_eq
    rw [List.flatMap_cons, ConfReader.readLines_append, bucketLines, ConfReader.readLines_cons,
      read_plainHeader hbucket.name, ih hrest]
    · rw [hfull, List.map_cons, List.append_assoc]
      rfl
    · rw [hfull]
      simpa using hnd

/-- The configuration as a text, a line for each header and each setting. -/
def Sections.plainText (s : Sections) : String :=
  String.ofList (s.render.flatMap fun line => line ++ ['\n'])

theorem Sections.Legible.bucket {s : Sections} (h : s.Legible) {bucket : String × NameMap String}
    (hmem : bucket ∈ s.entries) : LegibleBucket bucket := by
  refine ⟨h.name _ (List.mem_map_of_mem hmem), fun entry hentry => h.entry bucket.1 _ _ ?_⟩
  rw [Sections.settingsOf_of_mem hmem]
  exact NameMap.get?_eq_some_iff.mpr hentry

theorem Sections.Legible.unbroken_render {s : Sections} (h : s.Legible) :
    ∀ line ∈ s.render, Unbroken line := by
  intro line hline
  obtain ⟨bucket, hbucket, hline⟩ := List.mem_flatMap.mp hline
  rcases List.mem_cons.mp hline with rfl | hsetting
  · exact unbroken_plainHeader (h.bucket hbucket).name.unbroken
  · obtain ⟨entry, hentry, rfl⟩ := List.mem_map.mp hsetting
    have hlegible := (h.bucket hbucket).entry entry hentry
    exact unbroken_plainSetting hlegible.key hlegible.unbroken

/-- **A configuration that a file can show is read without its notes**, and else as it was. -/
theorem Sections.Legible.parse_plainText {s : Sections} (h : s.Legible) :
    Sections.parse s.plainText = s.withoutNotes := by
  have hlines : Sections.parse s.plainText = (ConfReader.start.readLines s.render).sections := by
    have hjoined := (joined_lineFeeds h.unbroken_render).readLines .start
    unfold Sections.plainText
    show (ConfReader.start.readLines (lines _)).sections = _
    rw [String.toList_ofList, hjoined]
  obtain ⟨main, rest, hentries⟩ : ∃ main rest, s.entries = (mainSection, main) :: rest := by
    obtain ⟨names, hnames⟩ := List.head?_eq_some_iff.mp h.mainFirst
    obtain ⟨⟨first, main⟩, rest, hentries, rfl, _⟩ := List.map_eq_cons_iff.mp hnames
    exact ⟨main, rest, hentries⟩
  have hbuckets : ∀ bucket ∈ (mainSection, main) :: rest, LegibleBucket bucket := by
    rw [← hentries]
    exact fun bucket hmem => h.bucket hmem
  obtain ⟨hmain, hrest⟩ := List.forall_mem_cons.mp hbuckets
  -- `main` is there from the start, and its header only opens it again
  have hstart : (ConfReader.start.step (.header mainSection)).Fills [] mainSection [] :=
    ⟨rfl, .empty, rfl, rfl⟩
  have hfull := (hstart.readLines hmain.entry main.nodup).entries_eq
  have hnd := s.nodup
  rw [hentries] at hnd
  rw [hlines]
  refine NameMap.ext ?_
  show (ConfReader.start.readLines (s.entries.flatMap bucketLines)).sections.entries =
    s.entries.map fun bucket => (bucket.1, settingsWithoutNotes bucket.2)
  rw [hentries, List.flatMap_cons, ConfReader.readLines_append, bucketLines,
    ConfReader.readLines_cons, read_plainHeader hmain.name,
    ConfReader.entries_readLines_buckets hrest, hfull]
  · rfl
  · rw [hfull]
    exact hnd

end File

/-! ## Where another reading changes nothing -/

/-- The end of the text looks like a note. -/
def EndsInNote (value : String) : Prop := ∃ front note, IsNote note ∧ value.toList = front ++ note

theorem withoutNote_eq_self_iff {value : String} :
    withoutNote value = value ↔ ¬ EndsInNote value := by
  have hsame : withoutNote value = value ↔ withoutMetadata value.toList = value.toList := by
    rw [← String.toList_inj, withoutNote, String.toList_ofList]
  rw [hsame, ← noNote_iff]
  unfold EndsInNote
  simp only [not_exists, not_and, ne_eq]

theorem Sections.settingsOf_withoutNotes (s : Sections) (heading : String) :
    s.withoutNotes.settingsOf heading = settingsWithoutNotes (s.settingsOf heading) := by
  unfold withoutNotes settingsOf
  rw [NameMap.get?_map]
  cases s.get? heading with
  | none => rfl
  | some settings => rfl

theorem Sections.withoutNotes_eq_self_iff {s : Sections} :
    s.withoutNotes = s ↔ ∀ heading key value,
      (s.settingsOf heading).get? key = some value → ¬ EndsInNote value := by
  constructor
  · intro hsame heading key value hget
    have hagain : (s.withoutNotes.settingsOf heading).get? key = some (withoutNote value) := by
      rw [settingsOf_withoutNotes, settingsWithoutNotes, NameMap.get?_map, hget, Option.map_some]
    rw [hsame, hget, Option.some.injEq] at hagain
    exact withoutNote_eq_self_iff.mp hagain.symm
  · intro hnone
    refine NameMap.map_eq_self fun bucket hbucket => NameMap.map_eq_self fun entry hentry => ?_
    refine withoutNote_eq_self_iff.mpr (hnone bucket.1 entry.1 entry.2 ?_)
    rw [Sections.settingsOf_of_mem hbucket]
    exact NameMap.get?_eq_some_iff.mpr hentry

theorem parse_plainSetting {entry : String × String}
    (h : LegibleEntry entry.1.toList entry.2.toList) :
    Sections.parse (String.ofList (plainSetting entry)) =
      ConfReader.start.sections.set mainSection entry.1 (withoutNote entry.2) := by
  have hne : plainSetting entry ≠ [] := by simp [plainSetting]
  unfold Sections.parse
  rw [String.toList_ofList, lines_of_unbroken hne (unbroken_plainSetting h.key h.unbroken),
    List.map_singleton, read_plainSetting h]
  rfl

/-- **Another reading takes away another note.** A line with a stored key and value
gives the key the value without the note that it ends in, if any, and a file with
all that is stored gives the same sections and keys in the same order. The values
are the same again iff none of them ends in a note. -/
theorem parse_plainText_parse (text : String) :
    (∀ heading key value, ((Sections.parse text).settingsOf heading).get? key = some value →
      Sections.parse (String.ofList (plainSetting (key, value))) =
          ConfReader.start.sections.set mainSection key (withoutNote value) ∧
        WithoutNote value.toList (withoutNote value).toList ∧
        (withoutNote value = value ↔ ¬ EndsInNote value)) ∧
      Sections.parse (Sections.parse text).plainText = (Sections.parse text).withoutNotes ∧
      (Sections.parse (Sections.parse text).plainText = Sections.parse text ↔
        ∀ heading key value, ((Sections.parse text).settingsOf heading).get? key = some value →
          ¬ EndsInNote value) := by
  have hlegible := legible_parse text
  refine ⟨fun heading key value hget => ⟨?_, ?_, withoutNote_eq_self_iff⟩,
    hlegible.parse_plainText, ?_⟩
  · exact @parse_plainSetting (key, value) (hlegible.entry heading key value hget)
  · rw [withoutNote, String.toList_ofList]
    exact withoutMetadata_eq_iff.mp rfl
  · rw [hlegible.parse_plainText]
    exact Sections.withoutNotes_eq_self_iff

/-- A value with two notes keeps one, and loses it when it is read again. -/
theorem parse_plainText_twoNotes :
    ((Sections.parse "k = v {a} {b}").settingsOf "main").get? "k" = some "v {a}" ∧
      ((Sections.parse "k = v {a}").settingsOf "main").get? "k" = some "v" ∧
      Sections.parse (Sections.parse "k = v {a} {b}").plainText ≠
        Sections.parse "k = v {a} {b}" := by
  refine ⟨by decide +kernel, by decide +kernel, fun hsame => ?_⟩
  have hvalue := congrArg (fun s : Sections => (s.settingsOf "main").get? "k") hsame
  exact absurd hvalue (by decide +kernel)

end CaSettings
