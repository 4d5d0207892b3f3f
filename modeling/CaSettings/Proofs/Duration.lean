import CaSettings.Duration
import CaSettings.Proofs.Text.Trimming

/-!
# Which texts are durations

The form of a duration, said without reading it: blanks around decimal digits
and at most one letter for the unit (`Duration.Spells`). `parseDuration` gives
the length of a text of this form (`parseDuration_of_spells`), unless it has
more than `maxDigits` digits, which is a failure, and it gives nothing for a
text of any other form (`parseDuration_eq_none_iff`).
-/

namespace CaSettings

open Text

namespace Duration

variable {text : String} {digits suffix : List Char} {unit : TimeUnit}

/-- What may stand after the digits. -/
inductive Suffix : List Char → TimeUnit → Prop
  | bare : Suffix [] .second
  | second : Suffix ['s'] .second
  | minute : Suffix ['m'] .minute
  | hour : Suffix ['h'] .hour
  | day : Suffix ['d'] .day
  | year : Suffix ['y'] .year

/-- `text` is a number of units: blanks, digits, at most one letter, blanks. -/
structure Spells (text : String) (digits : List Char) (unit : TimeUnit) : Prop where
  split : ∃ suffix, trim text.toList = digits ++ suffix ∧ Suffix suffix unit
  ne_nil : digits ≠ []
  isDigit : ∀ c ∈ digits, c.isDigit = true

/-- A text that has the form of a duration, of any size. -/
def IsDuration (text : String) : Prop := ∃ digits unit, Spells text digits unit

theorem ofSuffix?_eq_some_iff : TimeUnit.ofSuffix? suffix = some unit ↔ Suffix suffix unit := by
  constructor
  · intro h
    unfold TimeUnit.ofSuffix? at h
    split at h <;> cases h <;> constructor
  · rintro (_ | _ | _ | _ | _ | _) <;> rfl

theorem Suffix.head_not_isDigit (h : Suffix suffix unit) :
    ∀ c ∈ suffix.head?, c.isDigit = false := by
  cases h <;> simp

/-- The digits of a duration are the ones that its text starts with. -/
theorem Spells.takeWhile_eq (h : Spells text digits unit) :
    (trim text.toList).takeWhile Char.isDigit = digits ∧
      TimeUnit.ofSuffix? ((trim text.toList).dropWhile Char.isDigit) = some unit := by
  obtain ⟨suffix, hsplit, hsuffix⟩ := h.split
  obtain ⟨htake, hdrop⟩ := takeWhile_dropWhile_eq_iff.mpr
    ⟨hsplit, h.isDigit, hsuffix.head_not_isDigit⟩
  rw [htake, hdrop]
  exact ⟨rfl, ofSuffix?_eq_some_iff.mpr hsuffix⟩

theorem Suffix.dollar_notMem (h : Suffix suffix unit) : '$' ∉ suffix := by
  cases h <;> decide

/-- A duration refers to nothing. -/
theorem Spells.dollar_notMem (h : Spells text digits unit) : '$' ∉ text.toList := by
  obtain ⟨before, after, hbefore, hafter, hcut⟩ := (trims_trim text.toList).between
  obtain ⟨suffix, hsplit, hsuffix⟩ := h.split
  have hblank : isBlank '$' = false := by decide
  have hdigit : '$'.isDigit = false := by decide
  rw [hcut, hsplit]
  simp only [List.mem_append, not_or]
  refine ⟨⟨fun hmem => ?_, fun hmem => ?_, hsuffix.dollar_notMem⟩, fun hmem => ?_⟩
  · simpa [hblank] using hbefore _ hmem
  · simpa [hdigit] using h.isDigit _ hmem
  · simpa [hblank] using hafter _ hmem

/-- A text is a number of units in one way only. -/
theorem Spells.unique {digits' : List Char} {unit' : TimeUnit} (h : Spells text digits unit)
    (h' : Spells text digits' unit') : digits = digits' ∧ unit = unit' := by
  have hunit := h.takeWhile_eq.2
  rw [h'.takeWhile_eq.2, Option.some.injEq] at hunit
  exact ⟨h.takeWhile_eq.1.symm.trans h'.takeWhile_eq.1, hunit.symm⟩

theorem spells_of_takeWhile (hne : (trim text.toList).takeWhile Char.isDigit ≠ [])
    (hunit : TimeUnit.ofSuffix? ((trim text.toList).dropWhile Char.isDigit) = some unit) :
    Spells text ((trim text.toList).takeWhile Char.isDigit) unit where
  split := ⟨_, List.takeWhile_append_dropWhile.symm, ofSuffix?_eq_some_iff.mp hunit⟩
  ne_nil := hne
  isDigit := fun _ => List.mem_takeWhile_imp

/-- A duration is read, unless it has too many digits. -/
theorem parseDuration_of_spells (h : Spells text digits unit) :
    parseDuration text =
      if maxDigits < digits.length then .error (.tooManyDigits digits.length)
      else .ok (some (decimalValue digits * unit.seconds)) := by
  obtain ⟨htake, hunit⟩ := h.takeWhile_eq
  unfold parseDuration
  simp only [htake, hunit]
  cases hdigits : digits with
  | nil => exact absurd hdigits h.ne_nil
  | cons d rest => rfl

theorem parseDuration_of_not_isDuration (h : ¬ IsDuration text) :
    parseDuration text = .ok none := by
  unfold parseDuration
  dsimp only
  split
  · rfl
  · rfl
  · rename_i _ unit hunit hne
    exact absurd ⟨_, unit, spells_of_takeWhile hne hunit⟩ h

/-- What has no length is no duration. -/
theorem parseDuration_eq_none_iff : parseDuration text = .ok none ↔ ¬ IsDuration text := by
  constructor
  · rintro hnone ⟨digits, unit, hspells⟩
    rw [parseDuration_of_spells hspells] at hnone
    split at hnone <;> simp at hnone
  · exact parseDuration_of_not_isDuration

end Duration

end CaSettings
