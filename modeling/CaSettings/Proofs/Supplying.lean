import CaSettings.Proofs.Interpolation.Literal
import CaSettings.Proofs.Interpolation.Tokens
import CaSettings.Proofs.Report

/-!
# Supplying a missing value

A setting without a value leaves a message for every reference to it. Giving it
a text without a token takes these messages away (`AboutToken`) and leaves all
others as they are; and a time to live that could be read before can be read
after it, since its value was a text without a token
(`ttlText_withText`). `supplying_repairs` says so of resolving.
-/

namespace CaSettings

open Text

variable {t : Templates} {u v ref text : String}

/-! ## What messages are about -/

/-- The message is about the token of a name. -/
def AboutToken (name message : String) : Prop :=
  ∃ text, name ∈ references text ∧ message = "Could not resolve $" ++ name ++ " in " ++ text

/-- The message is about the time to live. -/
def AboutTtl (message : String) : Prop :=
  ∃ text, message = "Could not parse ca_ttl value '" ++ text ++ "'"

/-- Names in references are words. -/
theorem isWord_of_mem_references (h : ref ∈ references text) :
    ∀ c ∈ ref.toList, isWord c = true := by
  obtain ⟨piece, hpiece, rfl⟩ := List.mem_map.mp h
  exact ((Template.wellFormed_parse text.toList).name piece hpiece).2

/-- The name ends at the blank behind it, so the message tells which one it is. -/
theorem aboutToken_message_unresolved (h : ref ∈ references text) :
    AboutToken u (Problem.unresolved ref text).message ↔ ref = u := by
  constructor
  · rintro ⟨other, hother, hmessage⟩
    rw [Problem.message_unresolved] at hmessage
    have hlists := congrArg String.toList hmessage
    simp only [String.toList_append, List.append_assoc, List.append_cancel_left_eq] at hlists
    have hstop : ∀ rest : List Char, ∀ c ∈ (" in ".toList ++ rest).head?, isWord c = false := by
      rintro rest c (_ | _)
      decide
    have htake := congrArg (List.takeWhile isWord) hlists
    rw [takeWhile_append_of_stop (isWord_of_mem_references h) (hstop _),
      takeWhile_append_of_stop (isWord_of_mem_references hother) (hstop _)] at htake
    exact String.toList_inj.mp htake
  · rintro rfl
    exact ⟨text, h, Problem.message_unresolved ref text⟩

theorem aboutTtl_message_badTtl (text : String) : AboutTtl (Problem.badTtl text).message :=
  ⟨text, Problem.message_badTtl text⟩

/-- "resolve" is not "parse". -/
theorem not_aboutTtl_message_unresolved (ref text : String) :
    ¬ AboutTtl (Problem.unresolved ref text).message := by
  rintro ⟨other, hmessage⟩
  rw [Problem.message_unresolved] at hmessage
  have hletter := congrArg (fun message => message.toList[10]?) hmessage
  simp at hletter

theorem not_aboutTtl_of_mem_problems {problem : Problem}
    (h : problem ∈ (interpolateAll t).problems) : ¬ AboutTtl problem.message := by
  obtain ⟨_, text, ref, _, _, _, rfl⟩ := mem_problems_interpolateAll.mp h
  exact not_aboutTtl_message_unresolved ref text

/-- A problem of interpolation is about the token of the name that it records. -/
theorem aboutToken_message_iff {problem : Problem} (h : problem ∈ (interpolateAll t).problems) :
    AboutToken u problem.message ↔ problem.missing? = some u := by
  obtain ⟨_, text, ref, _, href, _, rfl⟩ := mem_problems_interpolateAll.mp h
  rw [aboutToken_message_unresolved href, Problem.missing?, Option.some.injEq]

theorem aboutTtl_of_mem_ttlMessages {ttl : Option String} {message : String}
    (h : message ∈ ttlMessages ttl) : AboutTtl message := by
  cases ttl with
  | none => cases h
  | some text =>
    simp only [ttlMessages, List.mem_ite_nil_left, List.mem_singleton] at h
    exact ⟨text, h.2⟩

/-- Leaving messages about the time to live aside leaves those of interpolation. -/
theorem filter_messages {keep : String → Bool} {ttl : Option String}
    (hkeep : ∀ message, AboutTtl message → keep message = false) :
    ((interpolateAll t).problems.map Problem.message ++ ttlMessages ttl).filter keep =
      ((interpolateAll t).problems.filter fun problem => keep problem.message).map
        Problem.message := by
  have httl : (ttlMessages ttl).filter keep = [] := by
    refine List.filter_eq_nil_iff.mpr fun message hmem => ?_
    simp [hkeep message (aboutTtl_of_mem_ttlMessages hmem)]
  rw [List.filter_append, httl, List.append_nil, List.filter_map]
  rfl

/-- There is a message about a time to live iff there is a text that is no duration. -/
theorem exists_aboutTtl_iff {ttl : Option String} :
    (∃ message ∈ (interpolateAll t).problems.map Problem.message ++ ttlMessages ttl,
      AboutTtl message) ↔ ∃ text, ttl = some text ∧ ¬ Duration.IsDuration text := by
  constructor
  · rintro ⟨message, hmem, habout⟩
    rcases List.mem_append.mp hmem with hmem | hmem
    · obtain ⟨problem, hproblem, rfl⟩ := List.mem_map.mp hmem
      exact absurd habout (not_aboutTtl_of_mem_problems hproblem)
    · cases ttl with
      | none => cases hmem
      | some text =>
        simp only [ttlMessages, List.mem_ite_nil_left] at hmem
        exact ⟨text, rfl, hmem.1⟩
  · rintro ⟨text, rfl, hdur⟩
    refine ⟨(Problem.badTtl text).message, List.mem_append_right _ ?_, aboutTtl_message_badTtl text⟩
    rw [ttlMessages, if_neg hdur, List.mem_singleton, Problem.message_badTtl]

open Classical in
/-- Of the messages of interpolation, those about the token of `u` go when `u` gets a text. -/
theorem perm_messages_withText (hlit : Tokenless v.toList) (hu : t.textOf u = none)
    (ttl ttl' : Option String) :
    (((interpolateAll (t.withText u v)).problems.map Problem.message ++ ttlMessages ttl').filter
        fun message => ¬ AboutTtl message).Perm
      (((interpolateAll t).problems.map Problem.message ++ ttlMessages ttl).filter
        fun message => ¬ AboutTtl message ∧ ¬ AboutToken u message) := by
  rw [filter_messages fun message habout => by simp [habout],
    filter_messages fun message habout => by simp [habout]]
  have hafter : ((interpolateAll (t.withText u v)).problems.filter fun problem =>
      ¬ AboutTtl problem.message) = (interpolateAll (t.withText u v)).problems := by
    refine List.filter_eq_self.mpr fun problem hproblem => ?_
    simpa using not_aboutTtl_of_mem_problems hproblem
  have hbefore : ((interpolateAll t).problems.filter fun problem =>
      ¬ AboutTtl problem.message ∧ ¬ AboutToken u problem.message) =
        (interpolateAll t).problems.filter fun problem => problem.missing? ≠ some u := by
    refine List.filter_congr fun problem hproblem => ?_
    simp [not_aboutTtl_of_mem_problems hproblem, aboutToken_message_iff hproblem]
  have hend : ¬ t.Endless u := Templates.not_endless_of_textOf_eq_none hu
  rw [hafter, hbefore]
  exact (Templates.perm_problems_withText hlit hend (by simp [hu])).map _

/-! ## The overlay -/

/-- Overriding a setting puts the text into the overlay. -/
theorem IsOverlay.withText {table : DefaultTable} {overrides : Overrides}
    (h : IsOverlay table overrides t) (hu : u ∈ table.names) (v : String) :
    IsOverlay table (overrides.insert u (some v)) (t.withText u v) where
  names_eq := by
    rw [← h.names_eq] at hu ⊢
    exact NameMap.names_insert_of_mem hu _
  overridden := by
    intro name hname value hvalue
    rw [NameMap.get?_insert] at hvalue
    rw [Templates.get?_withText]
    split at hvalue
    · rename_i heq
      rw [if_pos heq, hvalue]
    · rename_i hne
      rw [if_neg hne, h.overridden name hname value hvalue]
  defaulted := by
    intro name spec hspec hnone
    rw [NameMap.get?_insert] at hnone
    split at hnone
    · cases hnone
    · rename_i hne
      obtain ⟨value, hvalue, hget⟩ := h.defaulted name spec hspec hnone
      exact ⟨value, hvalue, by rw [Templates.get?_withText, if_neg hne, hget]⟩

theorem Resolver.templates_insert {r : Resolver} {overrides : Overrides}
    (h : r.templates overrides = .ok t) (hu : u ∈ r.table.names) (v : String) :
    r.templates (overrides.insert u (some v)) = .ok (t.withText u v) := by
  have hoverlay := (isOverlay_of_templates h).withText hu v
  obtain ⟨t', h'⟩ : ∃ t', r.templates (overrides.insert u (some v)) = .ok t' := by
    refine templates_isOk_iff.mpr fun name spec hspec hnone => ?_
    obtain ⟨value, hvalue, _⟩ := hoverlay.defaulted name spec hspec hnone
    exact ⟨value, hvalue⟩
  have hoverlay' := isOverlay_of_templates h'
  rw [h', Except.ok.injEq]
  exact NameMap.eq_of_names_of_get? (hoverlay'.names_eq.trans hoverlay.names_eq.symm)
    fun name _ => hoverlay'.get?_eq hoverlay (fun _ => rfl) name

/-! ## The time to live -/

namespace Templates

variable {n : String} {value value' : String → Option String}

/-- A value without a token owes nothing to a setting without a text. -/
theorem Meaning.eq_of_isLiteral (h : t.Meaning value) (h' : (t.withText u v).Meaning value')
    (hu : t.textOf u = none) (hn : IsLiteral value n) : value n = value' n := by
  have hagree : t.AgreeOn (t.withText u v) (IsLiteral value) := by
    refine ⟨fun hn htext href => (h.isLiteral_of_mem_references hn htext href).2, ?_⟩
    rintro n ⟨content, hcontent, _⟩
    have hne : n ≠ u := by
      rintro rfl
      simp [h.absent n hu] at hcontent
    rw [textOf_withText_of_ne hne]
  exact Meaning.eq_of_agreeOn hagree h h' n hn

/-- A time to live without a token stays when a setting without a text gets one. -/
theorem ttlText_withText (hu : t.textOf u = none) (hne : u ≠ "ca_ttl")
    (hlit : ∀ text, t.ttlText = some text → Tokenless text.toList) :
    (t.withText u v).ttlText = t.ttlText := by
  have h := meaning_interpolateAll t
  have h' := meaning_interpolateAll (t.withText u v)
  cases httl : t.ttlText with
  | some text => exact (h.eq_of_isLiteral h' hu ⟨text, httl, hlit text httl⟩).symm.trans httl
  | none =>
    have hnone : t.textOf "ca_ttl" = none := by
      have hiff := h.isSome_iff (n := "ca_ttl")
      rw [show ((interpolateAll t).values.get? "ca_ttl").join = none from httl] at hiff
      simpa using hiff
    exact h'.absent "ca_ttl" ((textOf_withText_of_ne hne.symm).trans hnone)

end Templates

/-! ## Resolving -/

open Classical in
/-- **Supplying a missing value repairs and never breaks.** A setting of the table other
than `ca_ttl` has no value; then overriding it by a text without a token takes the messages
about its token away and leaves the other messages, the one about the time to live aside,
as they are, order aside; and there is a message about the time to live only if there was one. -/
theorem supplying_repairs (r : Resolver) (overrides : Overrides) (t : Templates) (u v : String)
    (h : r.templates overrides = .ok t) (hu : t.get? u = some none) (hne : u ≠ "ca_ttl")
    (hlit : Tokenless v.toList) (hshort : t.ShortTtl) (hshort' : (t.withText u v).ShortTtl) :
    r.templates (overrides.insert u (some v)) = .ok (t.withText u v) ∧
      ∃ resolution resolution', (r.resolve overrides).result = .ok resolution ∧
        (r.resolve (overrides.insert u (some v))).result = .ok resolution' ∧
        ((resolution'.problems.map Problem.message).filter fun message =>
            ¬ AboutTtl message).Perm
          ((resolution.problems.map Problem.message).filter fun message =>
            ¬ AboutTtl message ∧ ¬ AboutToken u message) ∧
        ((∃ message ∈ resolution'.problems.map Problem.message, AboutTtl message) →
          ∃ message ∈ resolution.problems.map Problem.message, AboutTtl message) := by
  have hoverlay := Resolver.isOverlay_of_templates h
  have hmem : u ∈ r.table.names := by
    rw [← hoverlay.names_eq, ← NameMap.isSome_get?_iff, hu]
    rfl
  have hnone : t.textOf u = none := Templates.textOf_eq_none_iff.mpr (.inr hu)
  have h' := Resolver.templates_insert h hmem v
  obtain ⟨resolution, hresult, hproblems⟩ := Resolver.result_resolve_of_short h hshort
  obtain ⟨resolution', hresult', hproblems'⟩ := Resolver.result_resolve_of_short h' hshort'
  refine ⟨h', resolution, resolution', hresult, hresult', ?_⟩
  rw [hproblems, hproblems', List.map_append, List.map_append, map_message_ttlProblems,
    map_message_ttlProblems]
  refine ⟨perm_messages_withText hlit hnone _ _, ?_⟩
  rw [exists_aboutTtl_iff, exists_aboutTtl_iff]
  rintro ⟨text', htext', hdur'⟩
  by_contra hgood
  push Not at hgood
  -- what could be read before is a duration, and it stays
  have hsame := Templates.ttlText_withText (v := v) hnone hne fun text htext => by
    obtain ⟨digits, unit, hspells⟩ := hgood text htext
    exact tokenless_of_notMem hspells.dollar_notMem
  exact hdur' (hgood text' (hsame.symm.trans htext'))

open Classical in
theorem supplying_repairs_void :
    tangled.templates tangledOverrides = .ok tangledTemplates ∧
      tangledTemplates.get? "void" = some none ∧ Tokenless "/var".toList ∧
      tangledTemplates.ShortTtl ∧ (tangledTemplates.withText "void" "/var").ShortTtl ∧
      ∃ resolution resolution', (tangled.resolve tangledOverrides).result = .ok resolution ∧
        (tangled.resolve (tangledOverrides.insert "void" (some "/var"))).result =
          .ok resolution' ∧
        ((resolution'.problems.map Problem.message).filter fun message =>
            ¬ AboutTtl message).Perm
          ((resolution.problems.map Problem.message).filter fun message =>
            ¬ AboutTtl message ∧ ¬ AboutToken "void" message) := by
  have hvoid : tangledTemplates.get? "void" = some none := by decide
  have hlit : Tokenless "/var".toList := tokenless_of_notMem (by decide)
  have hshort' : (tangledTemplates.withText "void" "/var").ShortTtl :=
    .of_ttlText "90 days" (by decide +kernel) (by decide)
  obtain ⟨_, resolution, resolution', hresult, hresult', hperm, _⟩ :=
    supplying_repairs tangled tangledOverrides tangledTemplates "void" "/var" templates_tangled
      hvoid (by decide) hlit shortTtl_tangled hshort'
  exact ⟨templates_tangled, hvoid, hlit, shortTtl_tangled, hshort', resolution, resolution',
    hresult, hresult', hperm⟩

end CaSettings
