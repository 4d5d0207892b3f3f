import CaSettings.Proofs.FinalForm
import CaSettings.Proofs.Supplying

/-!
# Time to live, written and read

Durations said in numbers of seconds: what may stand behind the digits is worth
so many seconds (`Duration.scales`), and a text that is digits and one of these, blanks
aside, denotes their product (`Duration.Denotes`). The decimal text of a number is one
of them, and denotes the number (`parseDuration_toString`).

So a time to live that was resolved may be given in place of the text that it came
from (`Resolver.resolve_again`). `durations_read_exactly` puts these together.
-/

namespace CaSettings

open Text

namespace Duration

variable {text : String} {digits suffix : List Char} {scale n : Nat}

/-- What may stand behind the digits of a duration, and the seconds that it is worth. -/
def scales : List (List Char × Nat) :=
  [([], 1), (['s'], 1), (['m'], 60), (['h'], 3600), (['d'], 86400), (['y'], 31536000)]

/-- `text` is, blanks at its ends aside, digits and one of the scales. -/
structure Denotes (text : String) (digits : List Char) (scale : Nat) : Prop where
  split : ∃ suffix, trim text.toList = digits ++ suffix ∧ (suffix, scale) ∈ scales
  ne_nil : digits ≠ []
  isDigit : ∀ c ∈ digits, c.isDigit = true

theorem mem_scales_iff :
    (suffix, scale) ∈ scales ↔ ∃ unit, Suffix suffix unit ∧ scale = unit.seconds := by
  constructor
  · intro h
    simp only [scales, List.mem_cons, Prod.mk.injEq, List.not_mem_nil, or_false] at h
    rcases h with ⟨rfl, rfl⟩ | ⟨rfl, rfl⟩ | ⟨rfl, rfl⟩ | ⟨rfl, rfl⟩ | ⟨rfl, rfl⟩ | ⟨rfl, rfl⟩
    · exact ⟨_, .bare, rfl⟩
    · exact ⟨_, .second, rfl⟩
    · exact ⟨_, .minute, rfl⟩
    · exact ⟨_, .hour, rfl⟩
    · exact ⟨_, .day, rfl⟩
    · exact ⟨_, .year, rfl⟩
  · rintro ⟨unit, hsuffix, rfl⟩
    cases hsuffix <;> decide

theorem denotes_iff :
    Denotes text digits scale ↔ ∃ unit, Spells text digits unit ∧ scale = unit.seconds := by
  constructor
  · rintro ⟨⟨suffix, hsplit, hscale⟩, hne, hdigit⟩
    obtain ⟨unit, hsuffix, hseconds⟩ := mem_scales_iff.mp hscale
    exact ⟨unit, ⟨⟨suffix, hsplit, hsuffix⟩, hne, hdigit⟩, hseconds⟩
  · rintro ⟨unit, ⟨⟨suffix, hsplit, hsuffix⟩, hne, hdigit⟩, hseconds⟩
    exact ⟨⟨suffix, hsplit, mem_scales_iff.mpr ⟨unit, hsuffix, hseconds⟩⟩, hne, hdigit⟩

theorem isDuration_iff : IsDuration text ↔ ∃ digits scale, Denotes text digits scale := by
  constructor
  · rintro ⟨digits, unit, h⟩
    exact ⟨digits, unit.seconds, denotes_iff.mpr ⟨unit, h, rfl⟩⟩
  · rintro ⟨digits, scale, h⟩
    obtain ⟨unit, hspells, _⟩ := denotes_iff.mp h
    exact ⟨digits, unit, hspells⟩

/-- A short number of seconds is read as what it denotes. -/
theorem parseDuration_of_denotes (h : Denotes text digits scale)
    (hshort : digits.length ≤ maxDigits) :
    parseDuration text = .ok (some (Nat.ofDigitChars 10 digits 0 * scale)) := by
  obtain ⟨unit, hspells, rfl⟩ := denotes_iff.mp h
  rw [parseDuration_of_spells hspells, if_neg (Nat.not_lt_of_le hshort),
    Nat.ofDigitChars_eq_foldl]
  rfl

/-! ## The decimal text of a number -/

theorem denotes_toString (n : Nat) : Denotes (toString n) (Nat.toDigits 10 n) 1 where
  split := by
    refine ⟨[], ?_, by decide⟩
    rw [Nat.toString_eq_repr, Nat.toList_repr, List.append_nil]
    exact trim_of_digits fun c hc => Nat.isDigit_of_mem_toDigits (by decide) (by decide) hc
  ne_nil := Nat.toDigits_ne_nil
  isDigit := fun c hc => Nat.isDigit_of_mem_toDigits (by decide) (by decide) hc

theorem length_toDigits (n : Nat) : (Nat.toDigits 10 n).length = (toString n).length := by
  rw [Nat.toString_eq_repr, ← String.length_toList, Nat.toList_repr]

theorem parseDuration_toString (hshort : (toString n).length ≤ maxDigits) :
    parseDuration (toString n) = .ok (some n) := by
  rw [← length_toDigits] at hshort
  rw [parseDuration_of_denotes (denotes_toString n) hshort, Nat.ofDigitChars_ten_toDigits,
    Nat.mul_one]

theorem tokenless_toString (n : Nat) : Tokenless (toString n).toList := by
  obtain ⟨unit, hspells, _⟩ := denotes_iff.mp (denotes_toString n)
  exact tokenless_of_notMem hspells.dollar_notMem

end Duration

/-! ## Giving a time to live in seconds -/

namespace Resolver

variable {r : Resolver} {overrides : Overrides} {t : Templates} {resolution : Resolution} {n : Nat}

theorem ttlText_withText_self {v : String} (hlit : Tokenless v.toList) :
    (t.withText "ca_ttl" v).ttlText = some v := by
  unfold Templates.ttlText
  rw [get?_interpolateAll_of_tokenless (Templates.textOf_withText_self t _ v) hlit]
  rfl

/-- A time to live in seconds is read, and adds no problem. -/
theorem resolve_toString (h : r.templates overrides = .ok t) (hmem : "ca_ttl" ∈ r.table.names)
    (hshort : (toString n).length ≤ maxDigits) :
    ∃ again, (r.resolve (overrides.insert "ca_ttl" (some (toString n)))).result = .ok again ∧
      again.settings.get? "ca_ttl" = some (some (.seconds n)) ∧
      again.problems = (interpolateAll (t.withText "ca_ttl" (toString n))).problems := by
  have httl : resolveTtl (t.withText "ca_ttl" (toString n)).ttlText = .ok (some n, []) := by
    rw [ttlText_withText_self (Duration.tokenless_toString n)]
    simp only [resolveTtl, Duration.parseDuration_toString hshort]
  refine ⟨_, result_resolve_of_resolveTtl (templates_insert h hmem _) httl, ?_, ?_⟩
  · exact get?_finalForm_ttl ..
  · exact List.append_nil _

/-- A time to live that is there comes from a duration in the table. -/
theorem exists_spells_of_resolve (h : (r.resolve overrides).result = .ok resolution)
    (hn : resolution.settings.get? "ca_ttl" = some (some (.seconds n))) :
    ∃ t text digits unit, r.templates overrides = .ok t ∧ t.ttlText = some text ∧
      Duration.Spells text digits unit ∧ resolution.problems = (interpolateAll t).problems := by
  obtain ⟨t, ttl, problems, ht, httl, hsettings, hproblems⟩ := result_resolve_eq_ok h
  rw [hsettings, seconds_finalForm] at hn
  obtain ⟨text, digits, unit, htext, hspells, _⟩ := (resolveTtl_eq_some_iff httl).mp hn.2
  refine ⟨t, text, digits, unit, ht, htext, hspells, ?_⟩
  -- what is read as a number leaves no problem
  rw [htext, resolveTtl_of_spells hspells] at httl
  split at httl
  · cases httl
  · cases httl
    rw [hproblems, List.append_nil]

/-- A resolved time to live, given in place of the text that it came from, stays
what it is, and so do the problems. -/
theorem resolve_again (h : (r.resolve overrides).result = .ok resolution)
    (hn : resolution.settings.get? "ca_ttl" = some (some (.seconds n)))
    (hshort : (toString n).length ≤ maxDigits) :
    ∃ again, (r.resolve (overrides.insert "ca_ttl" (some (toString n)))).result = .ok again ∧
      again.settings.get? "ca_ttl" = some (some (.seconds n)) ∧
      again.problems.Perm resolution.problems := by
  obtain ⟨t, text, digits, unit, ht, htext, hspells, hproblems⟩ := exists_spells_of_resolve h hn
  have hvalue : (interpolateAll t).values.get? "ca_ttl" = some (some text) :=
    Option.join_eq_some_iff.mp htext
  -- an override counts for names of the table, and `ca_ttl` is one as it has a value
  have hmem : "ca_ttl" ∈ r.table.names := by
    rw [← (isOverlay_of_templates ht).names_eq, ← isSome_get?_interpolateAll, hvalue]
    rfl
  obtain ⟨again, hresult, hseconds, hproblems'⟩ := resolve_toString ht hmem hshort
  refine ⟨again, hresult, hseconds, ?_⟩
  rw [hproblems, hproblems']
  have hliteral : Templates.IsLiteral (fun n => ((interpolateAll t).values.get? n).join) "ca_ttl" :=
    ⟨text, htext, tokenless_of_notMem hspells.dollar_notMem⟩
  exact (meaning_interpolateAll t).perm_problems_withText hliteral (Duration.tokenless_toString n)

end Resolver

/-- **Durations are read exactly, and decimal numbers are durations.**

* A text in the form of a duration, with at most 4300 digits, is read as the number
  that the digits denote times what the letter is worth.
* A text gives nothing iff it has another form, however long it is.
* The decimal text of a number is read as the number.
* So a number of seconds that overrides give for `ca_ttl` is read as it is, without
  a problem; and put among the overrides that it was resolved from, it leaves the
  problems that were there, order aside. -/
theorem durations_read_exactly :
    (∀ text digits scale, Duration.Denotes text digits scale → digits.length ≤ 4300 →
      parseDuration text = .ok (some (Nat.ofDigitChars 10 digits 0 * scale))) ∧
    (∀ text, parseDuration text = .ok none ↔
      ¬ ∃ digits scale, Duration.Denotes text digits scale) ∧
    (∀ n, (toString n).length ≤ 4300 → parseDuration (toString n) = .ok (some n)) ∧
    (∀ (r : Resolver) overrides t n, r.templates overrides = .ok t → "ca_ttl" ∈ r.table.names →
      (toString n).length ≤ 4300 →
      ∃ again, (r.resolve (overrides.insert "ca_ttl" (some (toString n)))).result = .ok again ∧
        again.settings.get? "ca_ttl" = some (some (.seconds n)) ∧
        ∀ text, .badTtl text ∉ again.problems) ∧
    ∀ (r : Resolver) overrides resolution n, (r.resolve overrides).result = .ok resolution →
      resolution.settings.get? "ca_ttl" = some (some (.seconds n)) →
      (toString n).length ≤ 4300 →
      ∃ again, (r.resolve (overrides.insert "ca_ttl" (some (toString n)))).result = .ok again ∧
        again.settings.get? "ca_ttl" = some (some (.seconds n)) ∧
        again.problems.Perm resolution.problems := by
  refine ⟨fun text digits scale h hshort => Duration.parseDuration_of_denotes h hshort, ?_,
    fun n hshort => Duration.parseDuration_toString hshort, ?_,
    fun r overrides resolution n h hn hshort => Resolver.resolve_again h hn hshort⟩
  · intro text
    rw [Duration.parseDuration_eq_none_iff, Duration.isDuration_iff]
  · intro r overrides t n h hmem hshort
    obtain ⟨again, hresult, hseconds, hproblems⟩ := Resolver.resolve_toString h hmem hshort
    refine ⟨again, hresult, hseconds, fun text hmem => ?_⟩
    rw [hproblems] at hmem
    exact not_aboutTtl_of_mem_problems hmem (aboutTtl_message_badTtl text)

/-- A day of `tangled` is given in seconds, to the table that it comes from and where the
time to live could not be read. -/
theorem durations_read_exactly_tangled :
    Duration.Denotes " 007d\n" ['0', '0', '7'] 86400 ∧
      parseDuration " 007d\n" = .ok (some 604800) ∧
      (∃ again, (tangled.resolve (tangledOverrides.insert "ca_ttl" (some "86400"))).result =
          .ok again ∧
        again.settings.get? "ca_ttl" = some (some (.seconds 86400)) ∧
        ∀ text, .badTtl text ∉ again.problems) ∧
      ∃ resolution again, (tangled.resolve .empty).result = .ok resolution ∧
        resolution.settings.get? "ca_ttl" = some (some (.seconds 86400)) ∧
        (tangled.resolve (NameMap.empty.insert "ca_ttl" (some "86400"))).result = .ok again ∧
        again.settings.get? "ca_ttl" = some (some (.seconds 86400)) ∧
        again.problems.Perm resolution.problems := by
  obtain ⟨hread, _, _, hgiven, hagain⟩ := durations_read_exactly
  have hdays : Duration.Denotes " 007d\n" ['0', '0', '7'] 86400 :=
    ⟨⟨['d'], by decide, by decide⟩, by decide, by simp⟩
  have hrun : (tangled.resolve .empty).result.map (fun resolution =>
      resolution.settings.get? "ca_ttl") = .ok (some (some (.seconds 86400))) := by
    rw [Resolver.result_resolve]
    rfl
  cases hresult : (tangled.resolve .empty).result with
  | error failure =>
    rw [hresult] at hrun
    cases hrun
  | ok resolution =>
    rw [hresult] at hrun
    have hseconds := Except.ok.inj hrun
    obtain ⟨again, hagain⟩ := hagain tangled .empty resolution 86400 hresult hseconds (by decide)
    exact ⟨hdays, hread _ _ _ hdays (by decide),
      hgiven tangled tangledOverrides _ 86400 templates_tangled (by decide) (by decide),
      resolution, again, rfl, hseconds, hagain⟩

end CaSettings
