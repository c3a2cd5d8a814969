import ReviewPanel.Proofs.Issue.FirstOccurrences

/-! # Every issue accounted for

The counts that come with an aggregate are differences of lengths. Each of them counts positions of the
input, so that every position has one fate: its issue is a duplicate, too mild, incomplete, or reported. -/
namespace ReviewPanel

theorem length_sub_length_filter {α : Type} (p : α → Bool) (xs : List α) :
    xs.length - (xs.filter p).length = xs.countP fun x => !p x := by
  have hsplit := List.length_eq_countP_add_countP p (l := xs)
  rw [← List.countP_eq_length_filter]
  simp only [Bool.not_eq_true, Bool.decide_eq_false] at hsplit
  omega

namespace Issue

/-- The issue is less severe than the threshold asks for. -/
def isMild (threshold : Option Severity) (i : Issue) : Bool :=
  threshold.any fun t => i.severity.rank < t.rank

theorem all_meets_eq (threshold : Option Severity) (i : Issue) :
    threshold.all i.severity.meets = !isMild threshold i := by
  cases threshold with
  | none => rfl
  | some t =>
    rw [Bool.eq_iff_iff]
    simp [isMild, Severity.meets]

/-- No step of aggregation leaves more issues than it was given. -/
structure Shrinks (threshold : Option Severity) (issues : List Issue) : Prop where
  dedupe_le : (dedupe issues).length ≤ issues.length
  filter_le : (filterBySeverity threshold (dedupe issues)).length ≤ (dedupe issues).length
  retain_le : (retainComplete (filterBySeverity threshold (dedupe issues))).length ≤
    (filterBySeverity threshold (dedupe issues)).length

theorem shrinks (threshold : Option Severity) (issues : List Issue) : Shrinks threshold issues := by
  constructor
  · exact (dedupeAfter_sublist [] issues).length_le
  · rw [filterBySeverity_eq]
    exact List.length_filter_le _ _
  · exact List.length_filter_le _ _

variable (issues : List Issue) (threshold : Option Severity)

theorem belowThreshold_eq :
    (aggregate issues threshold).belowThreshold = (dedupe issues).countP (isMild threshold) := by
  rw [aggregate, filterBySeverity_eq, length_sub_length_filter]
  simp [all_meets_eq]

theorem incompleteDropped_eq :
    (aggregate issues threshold).incompleteDropped =
      (dedupe issues).countP fun i => !isMild threshold i && !i.isComplete := by
  rw [aggregate, retainComplete, length_sub_length_filter, filterBySeverity_eq, List.countP_filter]
  simp [all_meets_eq, Bool.and_comm]

theorem aggregate_issues_perm :
    (aggregate issues threshold).issues.Perm
      ((dedupe issues).filter fun i => !isMild threshold i && i.isComplete) := by
  have hfilter : retainComplete (filterBySeverity threshold (dedupe issues)) =
      (dedupe issues).filter fun i => !isMild threshold i && i.isComplete := by
    rw [retainComplete, filterBySeverity_eq, List.filter_filter]
    simp [all_meets_eq, Bool.and_comm]
  rw [← hfilter]
  exact sortBySeverity_perm _

theorem duplicatesRemoved_eq :
    (aggregate issues threshold).duplicatesRemoved =
      (List.finRange issues.length).countP (matchesKept issues (freshPositions issues)) := by
  have hlengths : (aggregate issues threshold).duplicatesRemoved =
      (List.finRange issues.length).length - (freshPositions issues).length := by
    rw [aggregate, dedupe_eq_map, List.length_map, List.length_finRange]
  rw [hlengths, freshPositions, length_sub_length_filter]
  congr 1
  funext p
  exact (matchesKept_freshPositions p).symm

/-- What the counts of an aggregate say of the positions of the issues, of which some are kept by
deduplication. -/
structure Accounts (issues : List Issue) (threshold : Option Severity) (kept : List (Fin issues.length))
    (result : Aggregate) : Prop where
  duplicates : result.duplicatesRemoved = (List.finRange issues.length).countP (matchesKept issues kept)
  mild : result.belowThreshold = kept.countP fun p => isMild threshold issues[p]
  incomplete : result.incompleteDropped =
    kept.countP fun p => !isMild threshold issues[p] && !issues[p].isComplete
  reported : result.issues.Perm
    ((kept.filter fun p => !isMild threshold issues[p] && issues[p].isComplete).map (issues[·]))
  balanced : issues.length =
    result.issues.length + result.duplicatesRemoved + result.belowThreshold + result.incompleteDropped

theorem accounts_freshPositions :
    Accounts issues threshold (freshPositions issues) (aggregate issues threshold) := by
  constructor
  · exact duplicatesRemoved_eq issues threshold
  · rw [belowThreshold_eq, dedupe_eq_map, List.countP_map]
    rfl
  · rw [incompleteDropped_eq, dedupe_eq_map, List.countP_map]
    rfl
  · have hperm := aggregate_issues_perm issues threshold
    rw [dedupe_eq_map, List.filter_map] at hperm
    exact hperm
  · obtain ⟨hdedupe, hfilter, hretain⟩ := shrinks threshold issues
    have hsort := (sortBySeverity_perm (retainComplete (filterBySeverity threshold (dedupe issues)))).length_eq
    simp only [aggregate]
    omega

/-- No step of aggregation adds issues, and the counts of the steps are those of the positions whose issues
they remove, so that every position is either counted once or reported once. -/
theorem aggregate_accounts (issues : List Issue) (threshold : Option Severity) :
    Shrinks threshold issues ∧ (aggregate issues none).belowThreshold = 0 ∧
      ∃ kept, Greedy issues kept ∧ Accounts issues threshold kept (aggregate issues threshold) := by
  refine ⟨shrinks threshold issues, ?_, freshPositions issues, greedy_freshPositions issues,
    accounts_freshPositions issues threshold⟩
  rw [belowThreshold_eq, List.countP_eq_zero]
  simp [isMild]

end Issue

end ReviewPanel
