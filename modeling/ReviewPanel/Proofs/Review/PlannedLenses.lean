import Mathlib.Data.List.Nodup
import ReviewPanel.Event.Basic
import ReviewPanel.Review.Plan

/-! # The lenses of a plan

A plan has at least one lens, and no lens twice, however the lenses are asked for. -/
namespace ReviewPanel

namespace Lens

theorem id_ofId (id : LensId) : (ofId id).id = id := by cases id <;> rfl

theorem agent_ofId_injective : Function.Injective fun id => (ofId id).agent := by
  intro a b h
  have hid : (ofId a).id = (ofId b).id := congrArg AgentRef.id h
  rwa [id_ofId, id_ofId] at hid

/-- No lens is named twice, nor again if it was taken before. -/
theorem nodup_named (taken : List LensId) (names : List String) :
    (named taken names).Nodup ∧ ∀ id ∈ named taken names, id ∉ taken := by
  induction names generalizing taken with
  | nil => exact ⟨List.nodup_nil, fun id h => absurd h List.not_mem_nil⟩
  | cons name rest ih =>
    rw [named]
    cases LensId.parse? name with
    | none => exact ih taken
    | some found =>
      by_cases htaken : taken.contains found = true
      · simp only [htaken, if_true]
        exact ih taken
      · obtain ⟨hnodup, hfresh⟩ := ih (taken ++ [found])
        simp only [htaken, Bool.false_eq_true, if_false]
        constructor
        · refine List.nodup_cons.mpr ⟨fun h => hfresh found h ?_, hnodup⟩
          exact List.mem_append_right _ (List.mem_singleton_self found)
        · intro id hid
          rcases List.mem_cons.mp hid with rfl | hid
          · exact fun h => htaken (List.contains_iff_mem.mpr h)
          · exact fun h => hfresh id hid (List.mem_append_left _ h)

theorem nodup_resolveIds (requested : Option (List String)) : (resolveIds requested).Nodup := by
  match requested with
  | none => exact List.pairwise_singleton _ _
  | some [] => exact List.pairwise_singleton _ _
  | some (name :: rest) => exact (nodup_named [] (name :: rest)).1

theorem nodup_agents (requested : Option (List String)) : ((resolve requested).map agent).Nodup := by
  rw [resolve, List.map_map]
  exact (nodup_resolveIds requested).map agent_ofId_injective

end Lens

namespace ReviewOptions

theorem plan_eq_ok {o : ReviewOptions} {plan : Plan} (h : o.plan = .ok plan) :
    plan = ⟨Lens.resolve o.requested, o.threshold⟩ ∧ plan.lenses ≠ [] := by
  simp only [ReviewOptions.plan] at h
  split at h
  · cases h
  · next hsome =>
    cases h
    exact ⟨rfl, fun hnil => hsome (List.isEmpty_iff.mpr hnil)⟩

theorem nodup_agents_of_plan {o : ReviewOptions} {plan : Plan} (h : o.plan = .ok plan) :
    (plan.lenses.map Lens.agent).Nodup := by
  rw [(plan_eq_ok h).1]
  exact Lens.nodup_agents o.requested

/-- The lenses of a review of a change: none if there is nothing to review. -/
def lensesFor (o : ReviewOptions) (diff : Diff) : List Lens :=
  if diff.isEmpty then [] else Lens.resolve o.requested

theorem exists_plan_of_lensesFor {o : ReviewOptions} {diff : Diff} (h : o.lensesFor diff ≠ []) :
    diff.isEmpty = false ∧ ∃ plan, o.plan = .ok plan ∧ o.lensesFor diff = plan.lenses := by
  rw [lensesFor] at h ⊢
  cases nonempty : diff.isEmpty with
  | true => exact absurd (if_pos nonempty) h
  | false =>
    rw [nonempty] at h
    exact ⟨rfl, ⟨Lens.resolve o.requested, o.threshold⟩, if_neg (mt List.isEmpty_iff.mp h), rfl⟩

end ReviewOptions

end ReviewPanel
