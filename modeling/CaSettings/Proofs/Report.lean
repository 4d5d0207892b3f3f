import CaSettings.Proofs.Interpolation.PassNumbers
import CaSettings.Proofs.Resolving

/-!
# The report of problems

Which messages resolving gives, and in which order: those of the settings away
from circles in the order of their pass numbers, those of the settings that
lead to a circle in table order, and last the one about the time to live.
`messages_resolve` says that there are no others.
-/

namespace CaSettings

open Classical in
/-- The messages about a setting: one for each reference that fails, from left to right. -/
noncomputable def Templates.messagesOf (t : Templates) (entry : String × String) : List String :=
  ((references entry.2).filter fun ref => t.Fails entry.1 ref).map
    fun ref => "Could not resolve $" ++ ref ++ " in " ++ entry.2

open Classical in
/-- The message about a time to live: one if there is a text that is no duration. -/
noncomputable def ttlMessages : Option String → List String
  | none => []
  | some text =>
    if Duration.IsDuration text then [] else ["Could not parse ca_ttl value '" ++ text ++ "'"]

theorem Problem.message_unresolved (name value : String) :
    (Problem.unresolved name value).message = "Could not resolve $" ++ name ++ " in " ++ value :=
  rfl

theorem Problem.message_badTtl (value : String) :
    (Problem.badTtl value).message = "Could not parse ca_ttl value '" ++ value ++ "'" :=
  rfl

theorem map_message_problemsOf (t : Templates) (entry : String × String) :
    (t.problemsOf entry).map Problem.message = t.messagesOf entry := by
  unfold Templates.problemsOf Templates.messagesOf
  rw [List.map_map]
  exact List.map_congr_left fun ref _ => Problem.message_unresolved ref entry.2

theorem map_message_flatMap_problemsOf (t : Templates) (entries : List (String × String)) :
    (entries.flatMap t.problemsOf).map Problem.message = entries.flatMap t.messagesOf := by
  rw [List.map_flatMap]
  exact List.flatMap_congr fun entry _ => map_message_problemsOf t entry

theorem map_message_ttlProblems (text : Option String) :
    (ttlProblems text).map Problem.message = ttlMessages text := by
  cases text with
  | none => rfl
  | some text =>
    by_cases hdur : Duration.IsDuration text
    · simp only [ttlProblems, ttlMessages, if_pos hdur, List.map_nil]
    · simp only [ttlProblems, ttlMessages, if_neg hdur, List.map_singleton,
        Problem.message_badTtl]

/-- **The report is complete, sound and in order.** Settings away from circles
have pass numbers, whose order the report follows, table order within a pass;
then come the settings that lead to a circle, and last the time to live. -/
theorem messages_resolve (r : Resolver) (overrides : Overrides) (t : Templates)
    (h : r.templates overrides = .ok t) (hshort : t.ShortTtl) :
    IsOverlay r.table overrides t ∧ (∃ pass, t.PassNumbers pass) ∧
      ∀ pass, t.PassNumbers pass →
        ∃ resolution, (r.resolve overrides).result = .ok resolution ∧
          resolution.problems.map Problem.message =
            (t.settled.mergeSort fun a b => pass a.1 ≤ pass b.1).flatMap t.messagesOf ++
              t.unsettled.flatMap t.messagesOf ++ ttlMessages t.ttlText := by
  refine ⟨Resolver.isOverlay_of_templates h, ⟨_, t.passNumbers_passNumber⟩, fun pass hpass => ?_⟩
  obtain ⟨resolution, hresult, hproblems⟩ := Resolver.result_resolve_of_short h hshort
  refine ⟨resolution, hresult, ?_⟩
  rw [hproblems, problems_interpolateAll hpass, List.map_append, List.map_append,
    map_message_flatMap_problemsOf, map_message_flatMap_problemsOf, map_message_ttlProblems]

theorem ttlText_tangled : tangledTemplates.ttlText = some "90 days" := by
  decide +kernel

theorem shortTtl_tangled : tangledTemplates.ShortTtl :=
  .of_ttlText _ ttlText_tangled (by decide)

/-- The messages about `tangled`, as the report gives them. -/
def tangledMessages : List String :=
  ["Could not resolve $void in $void$gone", "Could not resolve $gone in $void$gone",
    "Could not resolve $self in $root$self", "Could not resolve $loop in $loop!",
    "Could not resolve $knot in $knot/a", "Could not resolve $loop in $root$loop",
    "Could not parse ca_ttl value '90 days'"]

theorem messages_resolve_tangled :
    tangled.templates tangledOverrides = .ok tangledTemplates ∧ tangledTemplates.ShortTtl ∧
      ∃ pass, tangledTemplates.PassNumbers pass ∧
        (tangledTemplates.settled.mergeSort fun a b => pass a.1 ≤ pass b.1).flatMap
            tangledTemplates.messagesOf ++
          tangledTemplates.unsettled.flatMap tangledTemplates.messagesOf ++
            ttlMessages tangledTemplates.ttlText = tangledMessages := by
  obtain ⟨_, ⟨pass, hpass⟩, hall⟩ := messages_resolve tangled tangledOverrides tangledTemplates
    templates_tangled shortTtl_tangled
  obtain ⟨resolution, hresult, hmessages⟩ := hall pass hpass
  refine ⟨templates_tangled, shortTtl_tangled, pass, hpass, ?_⟩
  -- running the resolver gives the messages without the pass numbers
  have hrun : (tangled.resolve tangledOverrides).result.map (fun resolution =>
      resolution.problems.map Problem.message) = .ok tangledMessages := by
    rw [Resolver.result_resolve, templates_tangled]
    rfl
  rw [hresult] at hrun
  rw [← hmessages]
  exact Except.ok.inj hrun

end CaSettings
