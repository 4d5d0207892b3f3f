import CaSettings.Template
import Mathlib.Data.List.Basic

/-!
# What interpolation depends on

Interpolating a text looks up the names that the text refers to and nothing
else (`interpolate_congr`). One name without a value leaves the text as it is
(`interpolate_of_unresolved`); where all have one, all are replaced
(`interpolate_of_valued`). Texts that refer to nothing are the ones without a
dollar sign before a word character (`references_eq_nil_iff`).
-/

namespace CaSettings

open Text

variable {known known' : String → Option String} {value ref : String}

theorem unresolvedIn_congr (h : ∀ ref ∈ references value, known ref = known' ref) :
    unresolvedIn known value = unresolvedIn known' value :=
  List.filter_congr fun ref hmem => by rw [h ref hmem]

/-- Filling in a template looks up its names only. -/
theorem Template.fill_congr {t : Template} (h : ∀ name ∈ t.names, known name = known' name) :
    t.fill known = t.fill known' := by
  unfold Template.fill Template.assemble
  congr 1
  refine List.flatMap_congr fun piece hmem => ?_
  simp only [h piece.1 (List.mem_map_of_mem hmem)]

/-- Interpolating a text looks up the names that it refers to only. -/
theorem interpolate_congr (h : ∀ ref ∈ references value, known ref = known' ref) :
    interpolate known value = interpolate known' value := by
  unfold interpolate
  rw [unresolvedIn_congr h, Template.fill_congr h]

theorem mem_unresolvedIn :
    ref ∈ unresolvedIn known value ↔ ref ∈ references value ∧ known ref = none := by
  simp [unresolvedIn]

/-- A text with a name that has no value stays as it is. -/
theorem interpolate_of_unresolved (hmem : ref ∈ references value) (hnone : known ref = none) :
    (interpolate known value).1 = value := by
  have hmissing : ref ∈ unresolvedIn known value := mem_unresolvedIn.mpr ⟨hmem, hnone⟩
  unfold interpolate
  split
  · rename_i hnil
    rw [hnil] at hmissing
    simp at hmissing
  · rfl

/-- Where every name has a value, all references are replaced. -/
theorem interpolate_of_valued (h : ∀ ref ∈ references value, (known ref).isSome) :
    interpolate known value = (String.ofList ((Template.parse value.toList).fill known), []) := by
  have hnone : unresolvedIn known value = [] := by
    refine List.filter_eq_nil_iff.mpr fun ref href => ?_
    simp [Option.isSome_iff_ne_none.mp (h ref href)]
  unfold interpolate
  rw [hnone]

/-! ## Texts without references -/

/-- No dollar sign stands before a word character. -/
def Tokenless (cs : List Char) : Prop :=
  ∀ front c rest, cs = front ++ '$' :: c :: rest → isWord c = false

theorem tokenless_of_notMem {cs : List Char} (h : '$' ∉ cs) : Tokenless cs := by
  rintro front c rest rfl
  simp at h

theorem takeWord_eq_nil_iff {cs : List Char} :
    takeWord cs = [] ↔ ∀ c ∈ cs.head?, isWord c = false := by
  cases cs with
  | nil => simp [takeWord]
  | cons c cs => simp [takeWord, List.takeWhile_cons]

theorem tokenless_cons_iff {c : Char} {cs : List Char} :
    Tokenless (c :: cs) ↔ ¬ (c = '$' ∧ takeWord cs ≠ []) ∧ Tokenless cs := by
  constructor
  · intro h
    refine ⟨?_, fun front d rest heq => h (c :: front) d rest (by rw [heq]; rfl)⟩
    rintro ⟨rfl, hword⟩
    refine hword (takeWord_eq_nil_iff.mpr fun d hd => ?_)
    obtain ⟨rest, rfl⟩ := List.head?_eq_some_iff.mp hd
    exact h [] d rest rfl
  · rintro ⟨hfirst, hrest⟩ front d rest heq
    cases front with
    | nil =>
      obtain ⟨rfl, rfl⟩ := List.cons.inj heq
      rw [not_and_not_right] at hfirst
      exact takeWord_eq_nil_iff.mp (hfirst rfl) d rfl
    | cons first front => exact hrest front d rest (List.cons.inj heq).2

/-- A part of a text without a token holds none either. -/
theorem Tokenless.of_infix {part cs : List Char} (h : Tokenless cs) (hpart : part <:+: cs) :
    Tokenless part := by
  obtain ⟨before, after, rfl⟩ := hpart
  rintro front c rest rfl
  exact h (before ++ front) c (rest ++ after) (by simp)

/-- A text without a token is literal. -/
theorem Template.parse_of_tokenless {cs : List Char} (h : Tokenless cs) :
    Template.parse cs = ⟨cs, []⟩ := by
  induction cs with
  | nil => rfl
  | cons c cs ih =>
    obtain ⟨hfirst, hrest⟩ := tokenless_cons_iff.mp h
    show Template.push c (Template.parse cs) = _
    rw [ih hrest, Template.push, if_neg hfirst]

/-- Exactly the texts without a token refer to nothing. -/
theorem references_eq_nil_iff : references value = [] ↔ Tokenless value.toList := by
  unfold references Template.names
  rw [List.map_eq_nil_iff]
  induction value.toList with
  | nil => exact ⟨fun _ => tokenless_of_notMem List.not_mem_nil, fun _ => rfl⟩
  | cons c cs ih =>
    rw [tokenless_cons_iff, ← ih]
    show (Template.push c (Template.parse cs)).rest = [] ↔ _
    constructor
    · intro hnil
      unfold Template.push at hnil
      split at hnil
      · cases hnil
      · rename_i hfirst
        -- the rest refers to nothing, so its lead is all of it
        rw [Template.parse_of_tokenless (ih.mp hnil)] at hfirst
        exact ⟨hfirst, hnil⟩
    · rintro ⟨hfirst, hnil⟩
      rw [Template.parse_of_tokenless (ih.mp hnil), Template.push, if_neg hfirst]

/-- A text that refers to nothing stands for itself. -/
theorem interpolate_of_tokenless (h : Tokenless value.toList) :
    interpolate known value = (value, []) := by
  rw [interpolate_of_valued (by simp [references_eq_nil_iff.mpr h]), Template.parse_of_tokenless h]
  simp [Template.fill, Template.assemble]

/-- The value of a reference is a part of the text that it is filled into. -/
theorem Template.infix_fill {t : Template} (h : ref ∈ t.names) :
    ((known ref).getD "").toList <:+: t.fill known := by
  obtain ⟨piece, hmem, rfl⟩ := List.mem_map.mp h
  have hpiece : ((known piece.1).getD "").toList ++ piece.2 <:+:
      t.rest.flatMap fun piece => ((known piece.1).getD "").toList ++ piece.2 := by
    rw [List.flatMap_def]
    exact List.infix_of_mem_flatten (List.mem_map_of_mem hmem)
  exact (List.prefix_append _ _).isInfix.trans (hpiece.trans (List.suffix_append _ _).isInfix)

/-- A text becomes one without a token only where every reference has such a text as its value. -/
theorem exists_of_tokenless_interpolate (h : Tokenless (interpolate known value).1.toList)
    (href : ref ∈ references value) :
    ∃ content, known ref = some content ∧ Tokenless content.toList := by
  by_cases hall : ∀ ref ∈ references value, (known ref).isSome
  · obtain ⟨content, hcontent⟩ := Option.isSome_iff_exists.mp (hall ref href)
    have hpart : ((known ref).getD "").toList <:+: _ := Template.infix_fill href
    rw [hcontent, Option.getD_some] at hpart
    rw [interpolate_of_valued hall, String.toList_ofList] at h
    exact ⟨content, hcontent, h.of_infix hpart⟩
  · -- the text stays as it is, and it holds the token of `ref`
    simp only [not_forall, Option.not_isSome_iff_eq_none] at hall
    obtain ⟨missing, hmissing, hnone⟩ := hall
    rw [interpolate_of_unresolved hmissing hnone, ← references_eq_nil_iff] at h
    simp [h] at href

/-! ## Problems -/

/-- Each name without a value is a problem, from left to right. -/
theorem interpolate_problems :
    (interpolate known value).2 =
      (unresolvedIn known value).map fun ref => .unresolved ref value := by
  unfold interpolate
  split
  · rename_i hnil
    rw [hnil]
    rfl
  · rfl

end CaSettings
