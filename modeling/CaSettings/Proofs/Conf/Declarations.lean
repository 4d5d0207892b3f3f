import CaSettings.Conf.Sections
import CaSettings.Proofs.Conf.Grammar
import CaSettings.Proofs.NameMap
import CaSettings.Proofs.Text.Lines

/-!
# What a configuration file declares

A line with a setting declares it in the section that the nearest header above
names, or in `main` when there is no header above (`Declares`). A section of the
result holds exactly what is declared in it, each key with the value of its last
declaration (`parse_reads_last_declarations`).

The proof follows the reader line by line: after `n` lines it holds what the
first `n` lines declare (`ConfReader.Reflects`).
-/

namespace CaSettings

open Text

/-- Line `i` is in the section `heading`: the nearest header above names it, or
there is no header above and it is `main`. -/
inductive InSection (said : List ConfLine) (i : Nat) : String → Prop
  | header {j heading} : j < i → said[j]? = some (.header heading) →
      (∀ k, j < k → k < i → ∀ name, said[k]? ≠ some (.header name)) → InSection said i heading
  | main : (∀ k < i, ∀ name, said[k]? ≠ some (.header name)) → InSection said i mainSection

/-- Line `i` sets `key` to `value` in the section `heading`. -/
structure Declares (said : List ConfLine) (i : Nat) (heading key value : String) : Prop where
  setting : said[i]? = some (.setting key value)
  inSection : InSection said i heading

/-- The last of the first `n` lines to set `key` in the section `heading` sets it
to `value`. -/
def LastDeclares (said : List ConfLine) (n : Nat) (heading key value : String) : Prop :=
  ∃ i < n, Declares said i heading key value ∧
    ∀ j, i < j → j < n → ∀ other, ¬ Declares said j heading key other

variable {said : List ConfLine} {n i : Nat} {heading key value other : String}

/-! ## One more line -/

theorem inSection_zero : InSection said 0 heading ↔ heading = mainSection := by
  constructor
  · intro h
    cases h with
    | header hj _ _ => omega
    | main _ => rfl
  · rintro rfl
    exact .main fun k hk => by omega

theorem inSection_succ_of_header {name : String} (h : said[n]? = some (.header name)) :
    InSection said (n + 1) heading ↔ heading = name := by
  constructor
  · intro hsection
    cases hsection with
    | header hj hheader hnone =>
      rename_i j
      by_cases hlast : j = n
      · subst hlast
        rw [h] at hheader
        cases hheader
        rfl
      · exact absurd h (hnone n (by omega) (by omega) name)
    | main hnone => exact absurd h (hnone n (by omega) name)
  · rintro rfl
    exact .header (Nat.lt_succ_self n) h fun k hj hk => by omega

theorem inSection_succ_of_ne (h : ∀ name, said[n]? ≠ some (.header name)) :
    InSection said (n + 1) heading ↔ InSection said n heading := by
  constructor
  · intro hsection
    cases hsection with
    | header hj hheader hnone =>
      rename_i j
      have hne : j ≠ n := by
        rintro rfl
        exact h heading hheader
      exact .header (by omega) hheader fun k hjk hk => hnone k hjk (by omega)
    | main hnone => exact .main fun k hk => hnone k (by omega)
  · intro hsection
    cases hsection with
    | header hj hheader hnone =>
      refine .header (by omega) hheader ?_
      intro k hjk hk
      by_cases hlast : k = n
      · exact hlast ▸ h
      · exact hnone k hjk (by omega)
    | main hnone => exact .main (Nat.forall_lt_succ_right.mpr ⟨hnone, h⟩)

/-- A section that a line is in is `main` or has a header above. -/
theorem InSection.named (h : InSection said n heading) :
    heading = mainSection ∨ ∃ i < n, said[i]? = some (.header heading) := by
  cases h with
  | header hj hheader _ => exact .inr ⟨_, hj, hheader⟩
  | main _ => exact .inl rfl

theorem exists_header_succ {what : ConfLine} (h : said[n]? = some what) :
    (∃ i < n + 1, said[i]? = some (.header heading)) ↔
      (∃ i < n, said[i]? = some (.header heading)) ∨ what = .header heading := by
  rw [Nat.exists_lt_succ_right, h, Option.some.injEq]

theorem Declares.value_eq (h : Declares said i heading key value)
    (h' : Declares said i heading key other) : value = other := by
  have heq := h.setting.symm.trans h'.setting
  cases heq
  rfl

theorem lastDeclares_succ_of_declares (h : Declares said n heading key other) :
    LastDeclares said (n + 1) heading key value ↔ value = other := by
  constructor
  · rintro ⟨i, hi, hdeclares, hlast⟩
    by_cases hin : i = n
    · subst hin
      exact hdeclares.value_eq h
    · exact absurd h (hlast n (by omega) (by omega) other)
  · rintro rfl
    exact ⟨n, Nat.lt_succ_self n, h, fun j hj hjn => by omega⟩

theorem lastDeclares_succ_of_not (h : ∀ other, ¬ Declares said n heading key other) :
    LastDeclares said (n + 1) heading key value ↔ LastDeclares said n heading key value := by
  constructor
  · rintro ⟨i, hi, hdeclares, hlast⟩
    have hne : i ≠ n := by
      rintro rfl
      exact h value hdeclares
    exact ⟨i, by omega, hdeclares, fun j hij hj => hlast j hij (by omega)⟩
  · rintro ⟨i, hi, hdeclares, hlast⟩
    refine ⟨i, by omega, hdeclares, ?_⟩
    intro j hij hj
    by_cases hjn : j = n
    · exact hjn ▸ h
    · exact hlast j hij (by omega)

/-- A key with a declaration has a last one. -/
theorem exists_lastDeclares_iff :
    (∃ value, LastDeclares said n heading key value) ↔
      ∃ i < n, ∃ value, Declares said i heading key value := by
  constructor
  · rintro ⟨value, i, hi, hdeclares, _⟩
    exact ⟨i, hi, value, hdeclares⟩
  · rintro ⟨i, hi, value, hdeclares⟩
    induction n with
    | zero => omega
    | succ n ih =>
      by_cases hlast : ∃ other, Declares said n heading key other
      · obtain ⟨other, hother⟩ := hlast
        exact ⟨other, (lastDeclares_succ_of_declares hother).mpr rfl⟩
      · rw [not_exists] at hlast
        have hne : i ≠ n := by
          rintro rfl
          exact hlast value hdeclares
        obtain ⟨value, hvalue⟩ := ih (by omega)
        exact ⟨value, (lastDeclares_succ_of_not hlast).mpr hvalue⟩

/-! ## Sections -/

namespace Sections

variable {s : Sections} {name : String}

theorem settingsOf_opened : (s.opened name).settingsOf heading = s.settingsOf heading := by
  unfold opened
  split
  · rfl
  · rename_i habsent
    unfold settingsOf
    rw [NameMap.get?_insert]
    split
    · rename_i heq
      subst heq
      have hnone : s.get? heading = none := by simpa [NameMap.contains] using habsent
      rw [hnone]
      rfl
    · rfl

theorem mem_names_opened :
    heading ∈ (s.opened name).names ↔ heading ∈ s.names ∨ heading = name := by
  unfold opened
  split
  · rename_i hthere
    have hmem : name ∈ s.names := NameMap.isSome_get?_iff.mp hthere
    constructor
    · exact .inl
    · rintro (h | rfl)
      · exact h
      · exact hmem
  · exact NameMap.mem_names_insert

theorem settingsOf_set : (s.set name key value).settingsOf heading =
    if heading = name then (s.settingsOf heading).insert key value else s.settingsOf heading := by
  unfold set settingsOf
  rw [NameMap.get?_insert]
  split
  · rename_i heq
    subst heq
    rfl
  · rfl

theorem mem_names_set :
    heading ∈ (s.set name key value).names ↔ heading ∈ s.names ∨ heading = name :=
  NameMap.mem_names_insert

end Sections

/-! ## The reader -/

namespace ConfReader

variable {r : ConfReader}

/-- After `n` lines the reader is in the section of the line that comes next, and
holds what the `n` lines declare. -/
structure Reflects (r : ConfReader) (said : List ConfLine) (n : Nat) : Prop where
  current : ∀ heading, InSection said n heading ↔ heading = r.current
  names : ∀ heading, heading ∈ r.sections.names ↔
    heading = mainSection ∨ ∃ i < n, said[i]? = some (.header heading)
  values : ∀ heading key value, (r.sections.settingsOf heading).get? key = some value ↔
    LastDeclares said n heading key value

theorem reflects_start (said : List ConfLine) : start.Reflects said 0 where
  current := fun _ => inSection_zero
  names := by
    intro heading
    have hnames : start.sections.names = [mainSection] := rfl
    simp [hnames]
  values := by
    intro heading key value
    have hempty : start.sections.settingsOf heading = .empty := Sections.settingsOf_opened
    rw [hempty, NameMap.get?_empty]
    constructor
    · intro h
      cases h
    · rintro ⟨i, hi, _⟩
      omega

theorem Reflects.silent (h : r.Reflects said n) (hline : said[n]? = some .silent) :
    r.Reflects said (n + 1) where
  current := by
    intro heading
    rw [inSection_succ_of_ne (by simp [hline])]
    exact h.current heading
  names := by
    intro heading
    rw [exists_header_succ hline, h.names]
    simp
  values := by
    intro heading key value
    rw [lastDeclares_succ_of_not fun other hdeclares => by simpa [hline] using hdeclares.setting]
    exact h.values heading key value

theorem Reflects.header (h : r.Reflects said n) {name : String}
    (hline : said[n]? = some (.header name)) :
    Reflects ⟨r.sections.opened name, name⟩ said (n + 1) where
  current := fun _ => inSection_succ_of_header hline
  names := by
    intro heading
    rw [Sections.mem_names_opened, exists_header_succ hline, h.names, or_assoc,
      ConfLine.header.injEq, eq_comm (a := heading) (b := name)]
  values := by
    intro heading key value
    rw [Sections.settingsOf_opened,
      lastDeclares_succ_of_not fun other hdeclares => by simpa [hline] using hdeclares.setting]
    exact h.values heading key value

theorem Reflects.setting (h : r.Reflects said n) {name given : String}
    (hline : said[n]? = some (.setting name given)) :
    Reflects ⟨r.sections.set r.current name given, r.current⟩ said (n + 1) where
  current := by
    intro heading
    rw [inSection_succ_of_ne (by simp [hline])]
    exact h.current heading
  names := by
    intro heading
    -- the open section is there already
    have hcurrent : r.current ∈ r.sections.names :=
      (h.names r.current).mpr ((h.current r.current).mpr rfl).named
    rw [Sections.mem_names_set, exists_header_succ hline]
    constructor
    · rintro (hmem | rfl)
      · simpa using (h.names heading).mp hmem
      · simpa using (h.names r.current).mp hcurrent
    · intro hnamed
      exact .inl ((h.names heading).mpr (by simpa using hnamed))
  values := by
    intro heading key value
    by_cases hhere : heading = r.current ∧ key = name
    · obtain ⟨rfl, rfl⟩ := hhere
      rw [Sections.settingsOf_set, if_pos rfl, NameMap.get?_insert, if_pos rfl,
        lastDeclares_succ_of_declares ⟨hline, (h.current r.current).mpr rfl⟩, Option.some.injEq,
        eq_comm]
    · have hnot : ∀ other, ¬ Declares said n heading key other := by
        intro other hdeclares
        have hsetting := hdeclares.setting
        rw [hline] at hsetting
        cases hsetting
        exact hhere ⟨(h.current heading).mp hdeclares.inSection, rfl⟩
      rw [lastDeclares_succ_of_not hnot, ← h.values, Sections.settingsOf_set]
      by_cases hheading : heading = r.current
      · have hkey : ¬ key = name := fun hkey => hhere ⟨hheading, hkey⟩
        rw [if_pos hheading, NameMap.get?_insert, if_neg hkey]
      · rw [if_neg hheading]

/-- One more line. -/
theorem Reflects.step {what : ConfLine} (h : r.Reflects said n) (hline : said[n]? = some what) :
    (r.step what).Reflects said (n + 1) := by
  cases what with
  | silent => exact h.silent hline
  | header name => exact h.header hline
  | setting key value => exact h.setting hline

/-- Any number of lines. -/
theorem reflects_foldl_take (hn : n ≤ said.length) :
    ((said.take n).foldl ConfReader.step .start).Reflects said n := by
  induction n with
  | zero => exact reflects_start said
  | succ n ih =>
    have hline : said[n]? = some said[n] := List.getElem?_eq_getElem hn
    rw [List.take_succ_eq_append_getElem hn, List.foldl_append]
    exact (ih (by omega)).step hline

theorem reflects_foldl (said : List ConfLine) :
    (said.foldl ConfReader.step .start).Reflects said said.length := by
  have h : ((said.take said.length).foldl ConfReader.step .start).Reflects said said.length :=
    reflects_foldl_take (Nat.le_refl _)
  rwa [List.take_length] at h

end ConfReader

/-! ## Files -/

theorem Declares.lt_length (h : Declares said i heading key value) : i < said.length :=
  (List.getElem?_eq_some_iff.mp h.setting).1

theorem lastDeclares_length :
    LastDeclares said said.length heading key value ↔
      ∃ i, Declares said i heading key value ∧
        ∀ j other, i < j → ¬ Declares said j heading key other := by
  constructor
  · rintro ⟨i, _, hdeclares, hlast⟩
    exact ⟨i, hdeclares, fun j other hij hj => hlast j hij hj.lt_length other hj⟩
  · rintro ⟨i, hdeclares, hlast⟩
    exact ⟨i, hdeclares.lt_length, hdeclares, fun j hij _ other => hlast j other hij⟩

/-- Lines say one thing each: what the reader reads. -/
theorem forall₂_reads_iff {ls : List (List Char)} :
    List.Forall₂ ConfLine.Reads ls said ↔ said = ls.map ConfLine.read := by
  have hreads : ConfLine.Reads = fun line what => ConfLine.read line = what := by
    funext line what
    exact propext ConfLine.read_eq_iff.symm
  rw [hreads, ← List.forall₂_map_left_iff (R := Eq) (f := ConfLine.read), List.forall₂_eq_eq_eq,
    eq_comm]

/-- **Reading a file finds the last declarations.** A text falls into lines in one
way, and each line says one thing. The sections of the result are `main` and those
that a header names. A key is bound in a section iff a line declares it there, and
then to the value of the last line that does. -/
theorem parse_reads_last_declarations (text : String) :
    ∃ (ls : List (List Char)) (said : List ConfLine),
      (∀ ls', Splits text.toList ls' ↔ ls' = ls) ∧
      (∀ said', List.Forall₂ ConfLine.Reads ls said' ↔ said' = said) ∧
      (∀ heading, heading ∈ (Sections.parse text).names ↔
        heading = mainSection ∨ .header heading ∈ said) ∧
      (∀ heading key, key ∈ ((Sections.parse text).settingsOf heading).names ↔
        ∃ i value, Declares said i heading key value) ∧
      ∀ heading key value, ((Sections.parse text).settingsOf heading).get? key = some value ↔
        ∃ i, Declares said i heading key value ∧
          ∀ j other, i < j → ¬ Declares said j heading key other := by
  have hreflects := ConfReader.reflects_foldl ((lines text.toList).map ConfLine.read)
  refine ⟨lines text.toList, (lines text.toList).map ConfLine.read, ?_, ?_, ?_, ?_, ?_⟩
  · intro ls
    rw [← lines_eq_iff, eq_comm]
  · intro said
    exact forall₂_reads_iff
  · intro heading
    refine (hreflects.names heading).trans (or_congr_right ?_)
    rw [List.mem_iff_getElem?]
    constructor
    · rintro ⟨i, _, hheader⟩
      exact ⟨i, hheader⟩
    · rintro ⟨i, hheader⟩
      exact ⟨i, (List.getElem?_eq_some_iff.mp hheader).1, hheader⟩
  · intro heading key
    rw [← NameMap.isSome_get?_iff, Option.isSome_iff_exists]
    refine (exists_congr fun value => hreflects.values heading key value).trans ?_
    rw [exists_lastDeclares_iff]
    constructor
    · rintro ⟨i, _, value, hdeclares⟩
      exact ⟨i, value, hdeclares⟩
    · rintro ⟨i, value, hdeclares⟩
      exact ⟨i, hdeclares.lt_length, value, hdeclares⟩
  · intro heading key value
    rw [← lastDeclares_length]
    exact hreflects.values heading key value

-- `[m]` is opened twice, and the later value of `k` counts
example : ((Sections.parse "[m]\nk = 1\n[other]\nk = 2\n[ m ] # again\nK = 3").settingsOf
    "m").get? "k" = some "3" := by decide +kernel

end CaSettings
