import CaSettings.Proofs.Conf.Declarations
import CaSettings.Proofs.Conf.Layout

/-!
# Reading back what was written

A file is read line by line, and each line of a written configuration adds its part:
the lines of a section its settings (`Body.readLines`), a block its section
(`Blocks.readLines`). So any text that writes a configuration is read back as that
configuration (`Sections.WrittenAs.same`).

Every writable configuration has a plain text that writes it (`Sections.render`).
`parse_of_writtenAs` puts both together.
-/

namespace CaSettings

open Text

/-! ## Reading lines -/

section Reading

variable {s : Sections} {heading : String} {entries : List (String × String)}
  {blocks : List (String × List (String × String))} {ls : List (List Char)} {cs : List Char}

/-- Read lines, starting from where the reading stands. -/
def ConfReader.readLines (r : ConfReader) (ls : List (List Char)) : ConfReader :=
  (ls.map ConfLine.read).foldl ConfReader.step r

theorem ConfReader.readLines_cons (r : ConfReader) (line : List Char) (ls : List (List Char)) :
    r.readLines (line :: ls) = (r.step (ConfLine.read line)).readLines ls := rfl

theorem ConfReader.readLines_of_header {line : List Char} {name : String}
    (h : ConfLine.read line = .header name) (r : ConfReader) (ls : List (List Char)) :
    r.readLines (line :: ls) = readLines ⟨r.sections.opened name, name⟩ ls := by
  rw [readLines_cons, h]
  rfl

theorem ConfReader.readLines_of_setting {line : List Char} {key value : String}
    (h : ConfLine.read line = .setting key value) (r : ConfReader) (ls : List (List Char)) :
    r.readLines (line :: ls) =
      readLines ⟨r.sections.set r.current key value, r.current⟩ ls := by
  rw [readLines_cons, h]
  rfl

theorem ConfReader.readLines_append (r : ConfReader) (ls rest : List (List Char)) :
    r.readLines (ls ++ rest) = (r.readLines ls).readLines rest := by
  unfold readLines
  rw [List.map_append, List.foldl_append]

theorem ConfReader.readLines_blank (r : ConfReader) (ls : List (List Char)) :
    r.readLines ([] :: ls) = r.readLines ls := rfl

/-- Settings that can be written. -/
def WritableEntries (entries : List (String × String)) : Prop :=
  ∀ entry ∈ entries, WritableKey entry.1.toList ∧ WritableValue entry.2.toList

/-- The lines of a section add its settings to the open section. -/
theorem Body.readLines (h : Body entries ls) (hw : WritableEntries entries) (r : ConfReader) :
    (r.readLines ls).current = r.current ∧
      (r.current ∈ r.sections.names → ∀ heading,
        heading ∈ (r.readLines ls).sections.names ↔ heading ∈ r.sections.names) ∧
      ∀ heading, (r.readLines ls).sections.settingsOf heading =
        (r.sections.settingsOf heading).insertAll (if heading = r.current then entries else []) := by
  induction h generalizing r with
  | nil => exact ⟨rfl, fun _ _ => Iff.rfl, fun heading => by rw [ite_self]; rfl⟩
  | idle hidle _ ih =>
    rw [ConfReader.readLines_cons, hidle.reads.read_eq]
    exact ih hw r
  | @setting key value entries line ls hline _ ih =>
    obtain ⟨hfirst, hrest⟩ := List.forall_mem_cons.mp hw
    have hread := (hline.reads hfirst.1 hfirst.2).read_eq
    rw [String.ofList_toList, String.ofList_toList] at hread
    obtain ⟨hcurrent, hnames, hsettings⟩ := ih hrest ⟨r.sections.set r.current key value, r.current⟩
    rw [ConfReader.readLines_of_setting hread]
    refine ⟨hcurrent, fun hthere heading => ?_, fun heading => ?_⟩
    · -- the open section is there already
      have hmem : ∀ heading, heading ∈ (r.sections.set r.current key value).names ↔
          heading ∈ r.sections.names := by
        intro heading
        refine Sections.mem_names_set.trans ⟨?_, .inl⟩
        rintro (hold | rfl)
        · exact hold
        · exact hthere
      exact (hnames ((hmem _).mpr hthere) heading).trans (hmem heading)
    · refine (hsettings heading).trans ?_
      rw [Sections.settingsOf_set]
      by_cases hopen : heading = r.current
      · rw [if_pos hopen, if_pos hopen, if_pos hopen]
        rfl
      · rw [if_neg hopen, if_neg hopen, if_neg hopen]

theorem settingsIn_cons (heading name : String) (entries : List (String × String))
    (blocks : List (String × List (String × String))) :
    settingsIn heading ((name, entries) :: blocks) =
      (if heading = name then entries else []) ++ settingsIn heading blocks :=
  List.flatMap_cons

/-- Blocks add their sections and settings. -/
theorem Blocks.readLines (h : Blocks blocks ls)
    (hw : ∀ block ∈ blocks, WritableName block.1.toList ∧ WritableEntries block.2)
    (r : ConfReader) :
    (∀ heading, heading ∈ (r.readLines ls).sections.names ↔
      heading ∈ r.sections.names ∨ heading ∈ blocks.map Prod.fst) ∧
    ∀ heading, (r.readLines ls).sections.settingsOf heading =
      (r.sections.settingsOf heading).insertAll (settingsIn heading blocks) := by
  induction h generalizing r with
  | nil => exact ⟨fun heading => by simp [ConfReader.readLines], fun heading => rfl⟩
  | @block name entries header body blocks ls hheader hbody _ ih =>
    obtain ⟨hfirst, hrest⟩ := List.forall_mem_cons.mp hw
    have hread := (hheader.reads hfirst.1).read_eq
    rw [String.ofList_toList] at hread
    obtain ⟨_, hbodyNames, hbodySettings⟩ :=
      hbody.readLines hfirst.2 ⟨r.sections.opened name, name⟩
    obtain ⟨hnames, hsettings⟩ :=
      ih hrest (ConfReader.readLines ⟨r.sections.opened name, name⟩ body)
    have hopened : name ∈ (r.sections.opened name).names := Sections.mem_names_opened.mpr (.inr rfl)
    rw [ConfReader.readLines_of_header hread, ConfReader.readLines_append]
    refine ⟨fun heading => ?_, fun heading => ?_⟩
    · rw [hnames, hbodyNames hopened, Sections.mem_names_opened, List.map_cons, List.mem_cons,
        or_assoc]
    · rw [hsettings, hbodySettings, Sections.settingsOf_opened, settingsIn_cons,
        NameMap.insertAll_append]

/-- Two line ends that run together leave out a blank line, which says nothing. -/
theorem Joined.readLines (h : Joined ls cs) (r : ConfReader) :
    r.readLines (lines cs) = r.readLines ls := by
  induction h generalizing r with
  | nil => rfl
  | @last line hline =>
    cases line with
    | nil => rfl
    | cons c line => rw [lines_of_unbroken (by simp) hline]
  | @line line mark ls rest hline hmark hrest ih =>
    by_cases hpair : mark = ['\r'] ∧ rest.head? = some '\n'
    · obtain ⟨rfl, hfeed⟩ := hpair
      obtain ⟨tail, rfl⟩ := List.head?_eq_some_iff.mp hfeed
      have htext : line ++ ['\r'] ++ '\n' :: tail = line ++ ['\r', '\n'] ++ tail := by simp
      have hfeed : IsLineEnd ['\n'] tail := .single (by decide) (by simp)
      have hblank : lines ('\n' :: tail) = [] :: lines tail := lines_of_isLineEnd hfeed
      rw [htext, lines_append hline .pair, ConfReader.readLines_cons, ConfReader.readLines_cons,
        ← ih, hblank, ConfReader.readLines_blank]
    · have hend : IsLineEnd mark rest := by
        rcases hmark with rfl | ⟨c, hc, rfl⟩
        · exact .pair
        · refine .single hc ?_
          rintro ⟨rfl, hfeed⟩
          exact hpair ⟨rfl, hfeed⟩
      rw [lines_append hline hend, ConfReader.readLines_cons, ConfReader.readLines_cons, ih]

/-! ## Reading back -/

theorem LaidOut.same (h : LaidOut s ls) (hs : s.Writable) :
    (ConfReader.start.readLines ls).sections.Same s := by
  obtain ⟨hbody, hblocks, hnames, hperm⟩ := h
  rename_i top blocks front back
  have hentries : ∀ heading entry, entry ∈ settingsIn heading ((mainSection, top) :: blocks) →
      WritableKey entry.1.toList ∧ WritableValue entry.2.toList := by
    intro heading entry hmem
    have hget := NameMap.get?_eq_some_iff.mpr ((hperm heading).mem_iff.mp hmem)
    exact ⟨hs.key heading _ _ hget, hs.value heading _ _ hget⟩
  have htop : WritableEntries top := by
    intro entry hmem
    refine hentries mainSection entry ?_
    rw [settingsIn_cons, if_pos rfl]
    exact List.mem_append_left _ hmem
  have hrest : ∀ block ∈ blocks, WritableName block.1.toList ∧ WritableEntries block.2 := by
    intro block hblock
    refine ⟨hs.name _ ((hnames _).mpr (.inr (List.mem_map_of_mem hblock))), ?_⟩
    intro entry hmem
    refine hentries block.1 entry ?_
    rw [settingsIn_cons]
    refine List.mem_append_right _ (List.mem_flatMap.mpr ⟨block, hblock, ?_⟩)
    rw [if_pos rfl]
    exact hmem
  obtain ⟨_, hfrontNames, hfrontSettings⟩ := hbody.readLines htop .start
  obtain ⟨hbackNames, hbackSettings⟩ := hblocks.readLines hrest (ConfReader.start.readLines front)
  have hstart : ∀ heading, heading ∈ ConfReader.start.sections.names ↔ heading = mainSection :=
    fun heading => List.mem_singleton
  rw [ConfReader.readLines_append]
  refine ⟨fun heading => ?_, fun heading key => ?_⟩
  · rw [hbackNames, hfrontNames ((hstart _).mpr rfl), hstart, hnames]
  · have hall : ((ConfReader.start.readLines front).readLines back).sections.settingsOf heading =
        .ofList (settingsIn heading ((mainSection, top) :: blocks)) := by
      have hempty : ConfReader.start.sections.settingsOf heading = .empty :=
        Sections.settingsOf_opened
      rw [hbackSettings, hfrontSettings, hempty, settingsIn_cons, ← NameMap.insertAll_append]
      rfl
    have hnd : ((settingsIn heading ((mainSection, top) :: blocks)).map Prod.fst).Nodup :=
      ((hperm heading).map Prod.fst).nodup_iff.mpr (s.settingsOf heading).nodup
    rw [hall]
    ext value
    rw [NameMap.get?_ofList, NameMap.lookup_reverse hnd, NameMap.lookup_eq_some_iff_mem hnd,
      (hperm heading).mem_iff, NameMap.get?_eq_some_iff]

theorem Sections.WrittenAs.same {text : String} (h : s.WrittenAs text) (hs : s.Writable) :
    (Sections.parse text).Same s := by
  obtain ⟨ls, hlaid, hjoined⟩ := h
  show (ConfReader.start.readLines (lines text.toList)).sections.Same s
  rw [hjoined.readLines]
  exact hlaid.same hs

end Reading

/-! ## One way of writing -/

/-- A header without anything around it. -/
def plainHeader (name : String) : List Char := '[' :: name.toList ++ [']']

/-- A line `key = value`. -/
def plainSetting (entry : String × String) : List Char :=
  entry.1.toList ++ " = ".toList ++ entry.2.toList

/-- The lines of a plain file: a header for each section, then its settings. -/
def Sections.render (s : Sections) : List (List Char) :=
  s.entries.flatMap fun bucket => plainHeader bucket.1 :: bucket.2.entries.map plainSetting

section Rendering

variable {s : Sections}

theorem headerLine_plainHeader (name : String) : HeaderLine name.toList (plainHeader name) := by
  have hparts : plainHeader name = [] ++ '[' :: ([] ++ name.toList ++ []) ++ ']' :: [] := by
    simp [plainHeader]
  rw [hparts]
  exact .intro blanks_nil blanks_nil blanks_nil (.blank blanks_nil)

theorem settingLine_plainSetting {entry : String × String} (hkey : WritableKey entry.1.toList) :
    SettingLine entry.1.toList entry.2.toList (plainSetting entry) := by
  have hparts : plainSetting entry =
      [] ++ entry.1.toList ++ [' '] ++ '=' :: ([' '] ++ (entry.2.toList ++ []) ++ []) := by
    simp [plainSetting]
  have hblank : Blanks [' '] := by simp [Blanks, isBlank]
  rw [hparts]
  exact .intro blanks_nil hkey.map_toLower hblank hblank (.inl rfl) blanks_nil

theorem body_plainSetting {entries : List (String × String)} (hw : WritableEntries entries) :
    Body entries (entries.map plainSetting) := by
  induction entries with
  | nil => exact .nil
  | cons entry rest ih =>
    obtain ⟨hfirst, hrest⟩ := List.forall_mem_cons.mp hw
    exact .setting (settingLine_plainSetting hfirst.1) (ih hrest)

/-- The sections as blocks. -/
def Sections.buckets (s : Sections) : List (String × List (String × String)) :=
  s.entries.map fun bucket => (bucket.1, bucket.2.entries)

theorem Sections.settingsOf_of_mem {bucket : String × NameMap String} (h : bucket ∈ s.entries) :
    s.settingsOf bucket.1 = bucket.2 := by
  unfold settingsOf
  rw [NameMap.get?_eq_some_iff.mpr h]
  rfl

theorem Sections.Writable.entries (hs : s.Writable) {bucket : String × NameMap String}
    (h : bucket ∈ s.entries) : WritableEntries bucket.2.entries := by
  intro entry hmem
  have hget : (s.settingsOf bucket.1).get? entry.1 = some entry.2 := by
    rw [Sections.settingsOf_of_mem h]
    exact NameMap.get?_eq_some_iff.mpr hmem
  exact ⟨hs.key _ _ _ hget, hs.value _ _ _ hget⟩

theorem blocks_render (hs : s.Writable) : Blocks s.buckets s.render := by
  have hall : ∀ bucket ∈ s.entries, WritableEntries bucket.2.entries := fun _ => hs.entries
  unfold Sections.buckets Sections.render
  generalize s.entries = entries at hall
  induction entries with
  | nil => exact .nil
  | cons bucket rest ih =>
    obtain ⟨hfirst, hrest⟩ := List.forall_mem_cons.mp hall
    exact .block (headerLine_plainHeader bucket.1) (body_plainSetting hfirst) (ih hrest)

/-- Each section is one block, so a block holds all of its settings. -/
theorem settingsIn_buckets (s : Sections) (heading : String) :
    settingsIn heading s.buckets = (s.settingsOf heading).entries := by
  have hnd := s.nodup
  unfold Sections.buckets Sections.settingsOf NameMap.get?
  generalize s.entries = entries at hnd
  induction entries with
  | nil => rfl
  | cons bucket rest ih =>
    obtain ⟨name, settings⟩ := bucket
    obtain ⟨hname, hrest⟩ := List.nodup_cons.mp hnd
    rw [List.map_cons, settingsIn_cons, ih hrest, NameMap.lookup_cons_ite]
    by_cases hhere : heading = name
    · subst hhere
      rw [if_pos rfl, if_pos rfl, NameMap.lookup_eq_none_iff_notMem.mpr hname]
      exact List.append_nil _
    · rw [if_neg hhere, if_neg hhere, List.nil_append]

theorem laidOut_render (hs : s.Writable) : LaidOut s s.render := by
  refine @LaidOut.intro s [] s.buckets [] s.render .nil (blocks_render hs) (fun heading => ?_)
    fun heading => ?_
  · have hnames : s.buckets.map Prod.fst = s.names := by
      simp [Sections.buckets, NameMap.names, Function.comp_def]
    rw [hnames]
    refine ⟨.inr, ?_⟩
    rintro (rfl | hmem)
    · exact hs.hasMain
    · exact hmem
  · rw [settingsIn_cons, ite_self, List.nil_append, settingsIn_buckets]

theorem joined_lineFeeds {ls : List (List Char)} (h : ∀ line ∈ ls, Unbroken line) :
    Joined ls (ls.flatMap fun line => line ++ ['\n']) := by
  induction ls with
  | nil => exact .nil
  | cons line ls ih =>
    obtain ⟨hline, hrest⟩ := List.forall_mem_cons.mp h
    exact .line hline (.inr ⟨'\n', rfl, rfl⟩) (ih hrest)

theorem unbroken_plainHeader {name : String} (h : Unbroken name.toList) :
    Unbroken (plainHeader name) := by
  have hclose : Unbroken [']'] := by simp [Unbroken, isLineEnd]
  exact unbroken_append.mpr ⟨unbroken_cons.mpr ⟨by decide, h⟩, hclose⟩

theorem unbroken_plainSetting {entry : String × String} (hkey : WritableKey entry.1.toList)
    (hvalue : Unbroken entry.2.toList) : Unbroken (plainSetting entry) := by
  have hsign : Unbroken " = ".toList := by simp [Unbroken, isLineEnd]
  refine unbroken_append.mpr ⟨unbroken_append.mpr ⟨?_, hsign⟩, hvalue⟩
  exact fun c hc => isLineEnd_of_isWord (hkey.isWord c hc)

theorem unbroken_render (hs : s.Writable) : ∀ line ∈ s.render, Unbroken line := by
  intro line hline
  obtain ⟨bucket, hbucket, hline⟩ := List.mem_flatMap.mp hline
  rcases List.mem_cons.mp hline with rfl | hsetting
  · exact unbroken_plainHeader (hs.name bucket.1 (List.mem_map_of_mem hbucket)).unbroken
  · obtain ⟨entry, hentry, rfl⟩ := List.mem_map.mp hsetting
    obtain ⟨hkey, hvalue⟩ := hs.entries hbucket entry hentry
    exact unbroken_plainSetting hkey hvalue.unbroken

end Rendering

/-- **Every writable configuration can be written, and is read back.** -/
theorem parse_of_writtenAs (s : Sections) (hs : s.Writable) :
    (∃ text, s.WrittenAs text) ∧ ∀ text, s.WrittenAs text → (Sections.parse text).Same s := by
  refine ⟨⟨String.ofList (s.render.flatMap fun line => line ++ ['\n']), s.render,
    laidOut_render hs, ?_⟩, fun text h => h.same hs⟩
  rw [String.toList_ofList]
  exact joined_lineFeeds (unbroken_render hs)

/-- A configuration whose values look like other parts of a file. -/
def lookalike : Sections where
  entries := [
    ("main", { entries := [("top", "a \x7bb"), ("k", "{x}")] }),
    ("a[b", { entries := [("e_1", "#=$[x]")] }),
    ("empty", .empty)]

/-- `lookalike` in a file, with `main` both above the first header and below one. -/
def lookalikeLines : List (List Char) :=
  ["K={x}  {mode = 1} ".toList, "???".toList, "[ a[b ]#c".toList, "# k = 2".toList,
    "\tE_1\t= #=$[x]".toList, [], "[main]".toList, "toP =a \x7bb".toList, "[empty] ".toList]

/-- These lines with line ends of several kinds; those around the blank line run together. -/
def lookalikeText : List Char :=
  "K={x}  {mode = 1} \r\n???\n[ a[b ]#c\x0b# k = 2\r\tE_1\t= #=$[x]\r\n[main]\ntoP =a \x7bb\n[empty] ".toList

theorem mem_lookalike {heading key value : String}
    (h : (lookalike.settingsOf heading).get? key = some value) :
    (key, value) = ("top", "a \x7bb") ∨ (key, value) = ("k", "{x}") ∨
      (key, value) = ("e_1", "#=$[x]") := by
  rw [NameMap.get?_eq_some_iff, ← settingsIn_buckets, settingsIn, List.mem_flatMap] at h
  obtain ⟨block, hblock, hmem⟩ := h
  have hentries : (key, value) ∈ block.2 := by
    split at hmem
    · exact hmem
    · cases hmem
  have hall : ∀ block ∈ lookalike.buckets, ∀ entry ∈ block.2, entry = ("top", "a \x7bb") ∨
      entry = ("k", "{x}") ∨ entry = ("e_1", "#=$[x]") := by decide
  exact hall block hblock _ hentries

theorem writable_lookalike : lookalike.Writable where
  hasMain := by decide
  name := by decide
  key := by
    intro heading key value h
    rcases mem_lookalike h with heq | heq | heq <;> cases heq <;> decide
  value := by
    intro heading key value h
    rcases mem_lookalike h with heq | heq | heq <;> cases heq <;> decide

theorem laidOut_lookalike : LaidOut lookalike lookalikeLines := by
  have hblank : Blanks [' '] := by decide
  have htab : Blanks ['\t'] := by decide
  have hnote : IsNote "  {mode = 1}".toList :=
    ⟨"  ".toList, "mode = 1".toList, by decide, by decide, by decide, by decide, rfl⟩
  have hcomment : ∀ rest, ConfLine.Skips ('#' :: rest) := fun rest =>
    @ConfLine.Skips.comment [] rest blanks_nil
  have hidle : IdleLine "???".toList :=
    .inr ⟨ConfLine.header?_eq_none_iff.mp (by decide), ConfLine.setting?_eq_none_iff.mp (by decide)⟩
  -- the lines that say something
  have hk : SettingLine "k".toList "{x}".toList "K={x}  {mode = 1} ".toList :=
    @SettingLine.intro _ _ [] ['K'] [] [] "  {mode = 1}".toList [' '] blanks_nil rfl blanks_nil
      blanks_nil (.inr ⟨by decide, hnote⟩) hblank
  have he : SettingLine "e_1".toList "#=$[x]".toList "\tE_1\t= #=$[x]".toList :=
    @SettingLine.intro _ _ ['\t'] "E_1".toList ['\t'] [' '] [] [] htab rfl htab hblank (.inl rfl)
      blanks_nil
  have htop : SettingLine "top".toList "a \x7bb".toList "toP =a \x7bb".toList :=
    @SettingLine.intro _ _ [] "toP".toList [' '] [] [] [] blanks_nil rfl hblank blanks_nil
      (.inl rfl) blanks_nil
  have hbracket : HeaderLine "a[b".toList "[ a[b ]#c".toList :=
    @HeaderLine.intro _ [] [' '] [' '] "#c".toList blanks_nil hblank hblank (hcomment _)
  have hempty : HeaderLine "empty".toList "[empty] ".toList :=
    @HeaderLine.intro _ [] [] [] [' '] blanks_nil blanks_nil blanks_nil (.blank hblank)
  -- the settings above the first header, and the blocks
  have hfront : Body [("k", "{x}")] ["K={x}  {mode = 1} ".toList, "???".toList] :=
    .setting hk (.idle hidle .nil)
  have hbody : Body [("e_1", "#=$[x]")] ["# k = 2".toList, "\tE_1\t= #=$[x]".toList, []] :=
    .idle (.inl (hcomment _)) (.setting he (.idle (.inl (.blank blanks_nil)) .nil))
  have hblocks : Blocks [("a[b", [("e_1", "#=$[x]")]), ("main", [("top", "a \x7bb")]), ("empty", [])]
      (lookalikeLines.drop 2) :=
    .block hbracket hbody (.block (headerLine_plainHeader "main") (.setting htop .nil)
      (.block hempty .nil .nil))
  refine .intro hfront hblocks (fun heading => ?_) fun heading => ?_
  · have hnames : lookalike.names = ["main", "a[b", "empty"] := rfl
    simp only [hnames, mainSection, List.map_cons, List.map_nil, List.mem_cons, List.not_mem_nil,
      or_false]
    tauto
  · rw [← settingsIn_buckets]
    by_cases hmain : heading = "main"
    · subst hmain
      decide
    · by_cases hother : heading = "a[b"
      · subst hother
        decide
      · simp [settingsIn, Sections.buckets, lookalike, NameMap.empty, hmain, hother, mainSection]

theorem joined_lookalike : Joined lookalikeLines lookalikeText := by
  have hunbroken : ∀ line ∈ lookalikeLines, Unbroken line := by decide
  have hfeed : IsMark ['\n'] := .inr ⟨'\n', rfl, rfl⟩
  have hreturn : IsMark ['\r'] := .inr ⟨'\r', rfl, rfl⟩
  have htab : IsMark ['\x0b'] := .inr ⟨'\x0b', rfl, rfl⟩
  simp only [lookalikeLines, List.forall_mem_cons, List.not_mem_nil, false_imp_iff, implies_true,
    and_true] at hunbroken
  obtain ⟨h₁, h₂, h₃, h₄, h₅, h₆, h₇, h₈, h₉⟩ := hunbroken
  exact .line h₁ (.inl rfl) (.line h₂ hfeed (.line h₃ htab (.line h₄ hreturn (.line h₅ hreturn
    (.line h₆ hfeed (.line h₇ hfeed (.line h₈ hfeed (.last h₉))))))))

theorem parse_of_writtenAs_lookalike :
    lookalike.Writable ∧ lookalike.WrittenAs (String.ofList lookalikeText) ∧
      (Sections.parse (String.ofList lookalikeText)).Same lookalike := by
  have hwritten : lookalike.WrittenAs (String.ofList lookalikeText) :=
    ⟨lookalikeLines, laidOut_lookalike, by rw [String.toList_ofList]; exact joined_lookalike⟩
  exact ⟨writable_lookalike, hwritten,
    (parse_of_writtenAs lookalike writable_lookalike).2 _ hwritten⟩

end CaSettings
