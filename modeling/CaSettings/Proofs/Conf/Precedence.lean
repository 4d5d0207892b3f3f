import CaSettings.Proofs.Conf.Declarations
import CaSettings.Proofs.Conf.Written
import CaSettings.Proofs.FinalForm
import CaSettings.Proofs.Loading

/-!
# Which lines of a file count

Of what the lines of a file declare, a certificate authority takes what is
declared in `master`, and in `main` for the keys that `master` leaves alone.
`declarations said heading` lists what lines declare in one section, in the order
of the lines; a section of the file holds these declarations, the last one of a key
counting (`settingsOf_parse`).

`only_ca_declarations_count` says that nothing else of a file matters: files with
the same declarations in `main` and in `master` come to the same settings and the
same problems, whatever stands in other sections and however the sections are
arranged.
-/

namespace CaSettings

open Text

/-- What the lines of a text say, one thing each. -/
def Says (text : String) (said : List ConfLine) : Prop :=
  ∃ ls, Splits text.toList ls ∧ List.Forall₂ ConfLine.Reads ls said

variable {said said' : List ConfLine} {n i : Nat} {text text' heading key value : String}

/-- A text says one thing, the one that the reader finds. -/
theorem says_iff : Says text said ↔ said = (lines text.toList).map ConfLine.read := by
  constructor
  · rintro ⟨ls, hls, hsaid⟩
    rw [← forall₂_reads_iff, lines_eq_iff.mpr hls]
    exact hsaid
  · intro h
    exact ⟨_, splits_lines _, forall₂_reads_iff.mpr h⟩

/-! ## The section that a line is in -/

/-- The section that a header names. -/
def ConfLine.heading? : ConfLine → Option String
  | .header name => some name
  | _ => none

/-- The section that the lines before line `i` leave open. -/
def openSection (said : List ConfLine) (i : Nat) : String :=
  ((said.take i).reverse.findSome? ConfLine.heading?).getD mainSection

theorem openSection_succ (said : List ConfLine) (i : Nat) :
    openSection said (i + 1) = (said[i]?.bind ConfLine.heading?).getD (openSection said i) := by
  unfold openSection
  rw [List.take_add_one, List.reverse_append, List.findSome?_append]
  cases said[i]? with
  | none => rfl
  | some what => cases what <;> rfl

theorem inSection_iff : InSection said i heading ↔ heading = openSection said i := by
  induction i with
  | zero => exact inSection_zero
  | succ i ih =>
    rw [openSection_succ]
    by_cases hheader : ∃ name, said[i]? = some (.header name)
    · obtain ⟨name, hname⟩ := hheader
      rw [inSection_succ_of_header hname, hname]
      rfl
    · rw [not_exists] at hheader
      rw [inSection_succ_of_ne hheader, ih]
      cases hline : said[i]? with
      | none => rfl
      | some what =>
        cases what with
        | header name => exact absurd hline (hheader name)
        | silent => rfl
        | setting key value => rfl

instance : Decidable (InSection said i heading) := decidable_of_iff _ inSection_iff.symm

/-! ## What is declared in a section -/

/-- The setting that line `i` declares in a section, if it declares one there. -/
def declaredAt (said : List ConfLine) (heading : String) (i : Nat) : Option (String × String) :=
  match said[i]? with
  | some (.setting key value) => if InSection said i heading then some (key, value) else none
  | _ => none

/-- What lines declare in a section, in the order of the lines. -/
def declarations (said : List ConfLine) (heading : String) : List (String × String) :=
  (List.range said.length).filterMap (declaredAt said heading)

namespace ConfReader

/-- After `n` lines a section holds what the `n` lines declare in it. -/
theorem settingsOf_foldl_take (hn : n ≤ said.length) (heading : String) :
    ((said.take n).foldl ConfReader.step .start).sections.settingsOf heading =
      .ofList ((List.range n).filterMap (declaredAt said heading)) := by
  induction n with
  | zero => exact Sections.settingsOf_opened
  | succ n ih =>
    have hline : said[n]? = some said[n] := List.getElem?_eq_getElem hn
    have hle : n ≤ said.length := Nat.le_of_succ_le hn
    have hcurrent := (reflects_foldl_take hle).current heading
    have hdeclared : (List.range (n + 1)).filterMap (declaredAt said heading) =
        (List.range n).filterMap (declaredAt said heading) ++
          (declaredAt said heading n).toList := by
      rw [List.range_succ, List.filterMap_append]
      cases h : declaredAt said heading n <;> simp [h]
    rw [List.take_succ_eq_append_getElem hn, List.foldl_append, hdeclared]
    show (ConfReader.step _ said[n]).sections.settingsOf heading = _
    unfold NameMap.ofList at ih ⊢
    rw [NameMap.insertAll_append, ← ih hle]
    unfold declaredAt
    rw [hline]
    cases said[n] with
    | silent => rfl
    | header name => exact Sections.settingsOf_opened
    | setting key value =>
      -- the line adds to the section that is open, and to no other
      refine Sections.settingsOf_set.trans ?_
      by_cases hopen : InSection said n heading
      · simp only [if_pos (hcurrent.mp hopen), if_pos hopen]
        rfl
      · simp only [if_neg fun heq => hopen (hcurrent.mpr heq), if_neg hopen]
        rfl

end ConfReader

/-- A section of a file holds what the lines declare in it, the last declaration of
a key counting. -/
theorem settingsOf_parse (h : Says text said) (heading : String) :
    (Sections.parse text).settingsOf heading = .ofList (declarations said heading) := by
  obtain rfl := says_iff.mp h
  have hall := ConfReader.settingsOf_foldl_take
    (Nat.le_refl ((lines text.toList).map ConfLine.read).length) heading
  rwa [List.take_length] at hall

theorem get?_settingsOf_parse_iff (h : Says text said) :
    ((Sections.parse text).settingsOf heading).get? key = some value ↔
      LastDeclares said said.length heading key value := by
  obtain rfl := says_iff.mp h
  exact (ConfReader.reflects_foldl _).values heading key value

theorem get?_settingsOf_parse_eq_none_iff (h : Says text said) :
    ((Sections.parse text).settingsOf heading).get? key = none ↔
      ∀ i value, ¬ Declares said i heading key value := by
  rw [Option.eq_none_iff_forall_ne_some]
  constructor
  · intro hnone i value hdeclares
    obtain ⟨last, hlast⟩ := exists_lastDeclares_iff.mpr ⟨i, hdeclares.lt_length, value, hdeclares⟩
    exact hnone last ((get?_settingsOf_parse_iff h).mpr hlast)
  · intro hnone value hvalue
    obtain ⟨i, _, hdeclares, _⟩ := (get?_settingsOf_parse_iff h).mp hvalue
    exact hnone i value hdeclares

/-! ## The settings that count -/

/-- What is declared in a section about the settings of a table. -/
def declaredOf (table : DefaultTable) (said : List ConfLine) (heading : String) :
    List (String × String) :=
  (declarations said heading).filter fun declared => table.contains declared.1

/-- `master` wins, whatever the order of the lines. -/
theorem get?_caSettings_iff (h : Says text said) :
    (Sections.parse text).caSettings.get? key = some value ↔
      LastDeclares said said.length masterSection key value ∨
        (∀ i other, ¬ Declares said i masterSection key other) ∧
          LastDeclares said said.length mainSection key value := by
  unfold Sections.caSettings
  rw [NameMap.get?_merge, Option.or_eq_some_iff, get?_settingsOf_parse_iff h,
    get?_settingsOf_parse_iff h, get?_settingsOf_parse_eq_none_iff h]

/-- The same declarations about a setting of the table leave the same last value. -/
theorem get?_settingsOf_congr {table : DefaultTable} (h : Says text said) (h' : Says text' said')
    (hsame : declaredOf table said heading = declaredOf table said' heading)
    (hkey : key ∈ table.names) :
    ((Sections.parse text).settingsOf heading).get? key =
      ((Sections.parse text').settingsOf heading).get? key := by
  have hkeep : table.contains key = true := NameMap.isSome_get?_iff.mpr hkey
  rw [settingsOf_parse h, settingsOf_parse h', NameMap.get?_ofList, NameMap.get?_ofList,
    ← NameMap.lookup_filter hkeep (declarations said heading).reverse,
    ← NameMap.lookup_filter hkeep (declarations said' heading).reverse, List.filter_reverse,
    List.filter_reverse]
  unfold declaredOf at hsame
  rw [hsame]

theorem get?_textOverrides_congr {table : DefaultTable} (h : Says text said)
    (h' : Says text' said')
    (hmain : declaredOf table said mainSection = declaredOf table said' mainSection)
    (hmaster : declaredOf table said masterSection = declaredOf table said' masterSection)
    (hkey : key ∈ table.names) :
    (textOverrides text).get? key = (textOverrides text').get? key := by
  unfold textOverrides Sections.caSettings
  rw [NameMap.get?_map, NameMap.get?_map, NameMap.get?_merge, NameMap.get?_merge,
    get?_settingsOf_congr h h' hmain hkey, get?_settingsOf_congr h h' hmaster hkey]

/-- Loading a file gives what resolving its text gives. -/
theorem ConfigView.result_load_content (v : ConfigView) (bytes : List UInt8) :
    (v.load (.ok bytes)).result.map (fun w => (w.settings, w.problems)) =
      ((Resolver.ofHooks v.hooks).resolve (textOverrides (fileText bytes))).result.map
        fun resolution => (resolution.settings, resolution.problems) := by
  rw [result_load]
  show (Except.map v.filled _).map _ = _
  cases ((Resolver.ofHooks v.hooks).resolve (textOverrides (fileText bytes))).result <;> rfl

/-- **Only what is declared in `main` and `master` counts.** A key is bound to the
value of its last declaration in `master`, or else of its last one in `main`. Two
texts that declare the same about the settings of the default table in these two
sections, each in the same order, resolve to the same settings and problems, or fail
for the same reason; and so does loading two files that hold them. -/
theorem only_ca_declarations_count (text text' : String) (said said' : List ConfLine)
    (h : Says text said) (h' : Says text' said') :
    (∀ key value, (Sections.parse text).caSettings.get? key = some value ↔
      LastDeclares said said.length masterSection key value ∨
        (∀ i other, ¬ Declares said i masterSection key other) ∧
          LastDeclares said said.length mainSection key value) ∧
    ∀ hooks,
      declaredOf (defaultTable hooks) said mainSection =
        declaredOf (defaultTable hooks) said' mainSection →
      declaredOf (defaultTable hooks) said masterSection =
        declaredOf (defaultTable hooks) said' masterSection →
      ((Resolver.ofHooks hooks).resolve (textOverrides text)).result =
        ((Resolver.ofHooks hooks).resolve (textOverrides text')).result ∧
      ∀ (v v' : ConfigView) (bytes bytes' : List UInt8), v.hooks = hooks → v'.hooks = hooks →
        fileText bytes = text → fileText bytes' = text' →
        (v.load (.ok bytes)).result.map (fun w => (w.settings, w.problems)) =
          (v'.load (.ok bytes')).result.map fun w => (w.settings, w.problems) := by
  refine ⟨fun key value => get?_caSettings_iff h, ?_⟩
  intro hooks hmain hmaster
  have hresolve : ((Resolver.ofHooks hooks).resolve (textOverrides text)).result =
      ((Resolver.ofHooks hooks).resolve (textOverrides text')).result :=
    Resolver.result_resolve_congr fun key hkey => get?_textOverrides_congr h h' hmain hmaster hkey
  refine ⟨hresolve, ?_⟩
  rintro v v' bytes bytes' hv hv' rfl rfl
  rw [ConfigView.result_load_content, ConfigView.result_load_content, hv, hv', hresolve]

/-- A file with `master` in front of `main`, another section, and an unknown key. -/
def arranged : List Char :=
  "[master]\ncadir=/m\n[main]\nconfdir=/a\n[agent]\ncadir=/x\n[main]\nConfDir=/b {mode = 1}\nodd=1".toList

/-- What `arranged` says. -/
def arrangedSaid : List ConfLine :=
  [.header "master", .setting "cadir" "/m", .header "main", .setting "confdir" "/a",
    .header "agent", .setting "cadir" "/x", .header "main", .setting "confdir" "/b",
    .setting "odd" "1"]

/-- The same about the settings that count, in another arrangement. -/
def rearranged : List Char :=
  "confdir=/a\n?\nconfdir=/b\n[ master ] # again\nCADIR=/m\n[main]\n[user]\nconfdir=/y".toList

/-- What `rearranged` says. -/
def rearrangedSaid : List ConfLine :=
  [.setting "confdir" "/a", .silent, .setting "confdir" "/b", .header "master",
    .setting "cadir" "/m", .header "main", .header "user", .setting "confdir" "/y"]

theorem only_ca_declarations_count_rearranged :
    Says (String.ofList arranged) arrangedSaid ∧ Says (String.ofList rearranged) rearrangedSaid ∧
      (∀ i other, ¬ Declares arrangedSaid i masterSection "confdir" other) ∧
      LastDeclares arrangedSaid arrangedSaid.length mainSection "confdir" "/b" ∧
      (Sections.parse (String.ofList arranged)).caSettings.get? "confdir" = some "/b" ∧
      ∀ v v' : ConfigView, v.hooks = ⟨"host", .ok "/etc"⟩ → v'.hooks = ⟨"host", .ok "/etc"⟩ →
        (v.load (.ok (asciiBytes arranged))).result.map (fun w => (w.settings, w.problems)) =
          (v'.load (.ok (asciiBytes rearranged))).result.map fun w => (w.settings, w.problems) := by
  have htells : Says (String.ofList arranged) arrangedSaid :=
    says_iff.mpr (by rw [String.toList_ofList]; decide +kernel)
  have htells' : Says (String.ofList rearranged) rearrangedSaid :=
    says_iff.mpr (by rw [String.toList_ofList]; decide +kernel)
  have hmaster : ∀ i other, ¬ Declares arrangedSaid i masterSection "confdir" other := by
    rw [← get?_settingsOf_parse_eq_none_iff htells, settingsOf_parse htells]
    decide +kernel
  have hmain : LastDeclares arrangedSaid arrangedSaid.length mainSection "confdir" "/b" := by
    rw [← get?_settingsOf_parse_iff htells, settingsOf_parse htells]
    decide +kernel
  obtain ⟨hbinds, hloads⟩ := only_ca_declarations_count _ _ _ _ htells htells'
  obtain ⟨_, hload⟩ := hloads ⟨"host", .ok "/etc"⟩ (by decide +kernel) (by decide +kernel)
  refine ⟨htells, htells', hmaster, hmain, (hbinds _ _).mpr (.inr ⟨hmaster, hmain⟩), ?_⟩
  intro v v' hv hv'
  exact hload v v' _ _ hv hv' (by decide +kernel) (by decide +kernel)

end CaSettings
