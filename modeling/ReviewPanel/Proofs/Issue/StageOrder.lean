import Mathlib.Data.List.Induction
import ReviewPanel.Proofs.Issue.Idempotence

/-! # The order of the stages

Sorting puts the issues of each severity together, in the order in which they came. So it makes no
difference whether issues are removed before it or after it, and the stages behind deduplication can be
taken in any order, and more than once. -/
namespace ReviewPanel

namespace Severity

theorem mem_all (s : Severity) : s ∈ all := by cases s <;> simp [all]

theorem all_descending : all.Pairwise fun s t => t.rank < s.rank := by decide

theorem meets_of_le {s t u : Severity} (hle : t.rank ≤ u.rank) (h : s.meets u = true) : s.meets t = true := by
  simp only [meets, decide_eq_true_eq] at h ⊢
  omega

end Severity

namespace Issue

/-- The issues of some severities, severity after severity, each in the order in which they came. -/
def graded (grades : List Severity) (issues : List Issue) : List Issue :=
  grades.flatMap fun s => issues.filter (·.severity = s)

theorem severity_mem_of_mem_graded {grades : List Severity} {issues : List Issue} {i : Issue}
    (h : i ∈ graded grades issues) : i.severity ∈ grades := by
  simp only [graded, List.mem_flatMap, List.mem_filter, decide_eq_true_eq] at h
  obtain ⟨s, hs, -, rfl⟩ := h
  exact hs

theorem graded_concat_of_notMem {grades : List Severity} {i : Issue} (h : i.severity ∉ grades)
    (issues : List Issue) : graded grades (issues ++ [i]) = graded grades issues := by
  induction grades with
  | nil => rfl
  | cons s rest ih =>
    rw [List.mem_cons, not_or] at h
    simp only [graded, List.flatMap_cons] at ih ⊢
    rw [ih h.2]
    simp [h.1]

theorem insertBySeverity_of_lt {i : Issue} {issues : List Issue}
    (h : ∀ j ∈ issues, j.severity.rank < i.severity.rank) : insertBySeverity i issues = i :: issues := by
  cases issues with
  | nil => rfl
  | cons j rest => simp [insertBySeverity, h j List.mem_cons_self]

/-- An issue is inserted at the end of its grade. -/
theorem insertBySeverity_graded {grades : List Severity}
    (descending : grades.Pairwise fun s t => t.rank < s.rank) {i : Issue} (mem : i.severity ∈ grades)
    (issues : List Issue) :
    insertBySeverity i (graded grades issues) = graded grades (issues ++ [i]) := by
  induction grades with
  | nil => exact absurd mem List.not_mem_nil
  | cons s rest ih =>
    obtain ⟨hs, hrest⟩ := List.pairwise_cons.mp descending
    have hcons (xs : List Issue) : graded (s :: rest) xs = xs.filter (·.severity = s) ++ graded rest xs := by
      simp [graded]
    rw [hcons, hcons]
    by_cases heq : i.severity = s
    · have hfront : ∀ j ∈ issues.filter (·.severity = s), i.severity.rank ≤ j.severity.rank := by
        intro j hj
        simp only [List.mem_filter, decide_eq_true_eq] at hj
        exact Nat.le_of_eq (by rw [heq, hj.2])
      have hback : ∀ j ∈ graded rest issues, j.severity.rank < i.severity.rank := by
        intro j hj
        rw [heq]
        exact hs _ (severity_mem_of_mem_graded hj)
      have hnot : i.severity ∉ rest := fun h => Nat.lt_irrefl _ (heq ▸ hs _ h)
      rw [insertBySeverity_append_of_le hfront, insertBySeverity_of_lt hback, graded_concat_of_notMem hnot]
      simp [heq]
    · have hmem : i.severity ∈ rest := (List.mem_cons.mp mem).resolve_left heq
      have hfront : ∀ j ∈ issues.filter (·.severity = s), i.severity.rank ≤ j.severity.rank := by
        intro j hj
        simp only [List.mem_filter, decide_eq_true_eq] at hj
        rw [hj.2]
        exact Nat.le_of_lt (hs _ hmem)
      rw [insertBySeverity_append_of_le hfront, ih hrest hmem]
      simp [heq]

theorem sortBySeverity_concat (issues : List Issue) (i : Issue) :
    sortBySeverity (issues ++ [i]) = insertBySeverity i (sortBySeverity issues) := by
  rw [sortBySeverity, sortBySeverity, List.foldl_concat]

theorem sortBySeverity_eq_graded (issues : List Issue) : sortBySeverity issues = graded Severity.all issues := by
  induction issues using List.reverseRecOn with
  | nil => rfl
  | append_singleton issues i ih =>
    rw [sortBySeverity_concat, ih, insertBySeverity_graded Severity.all_descending (Severity.mem_all _)]

/-- Sorting and removing issues one by one commute. -/
theorem filter_sortBySeverity (p : Issue → Bool) (issues : List Issue) :
    (sortBySeverity issues).filter p = sortBySeverity (issues.filter p) := by
  rw [sortBySeverity_eq_graded, sortBySeverity_eq_graded, graded, graded, List.filter_flatMap]
  congr 1
  funext s
  exact List.filter_comm _ _ _

theorem sortBySeverity_sortBySeverity (issues : List Issue) :
    sortBySeverity (sortBySeverity issues) = sortBySeverity issues :=
  sortBySeverity_of_sorted (mostSevereFirst_sortBySeverity issues)

/-- A stage of aggregation that does not compare issues for what they say. -/
inductive Stage where
  | filter (threshold : Option Severity)
  | complete
  | sort
deriving Repr, DecidableEq

namespace Stage

def run : Stage → List Issue → List Issue
  | .filter threshold => filterBySeverity threshold
  | .complete => retainComplete
  | .sort => sortBySeverity

/-- The stage does not remove the issue. -/
def admits : Stage → Issue → Bool
  | .filter threshold, i => threshold.all i.severity.meets
  | .complete, i => i.isComplete
  | .sort, _ => true

def runAll (stages : List Stage) (issues : List Issue) : List Issue :=
  stages.foldl (fun issues stage => stage.run issues) issues

/-- The issues that every stage admits, sorted if one of the stages sorts. -/
theorem runAll_eq (stages : List Stage) (issues : List Issue) :
    runAll stages issues =
      if .sort ∈ stages then sortBySeverity (issues.filter fun i => stages.all (·.admits i))
      else issues.filter fun i => stages.all (·.admits i) := by
  induction stages generalizing issues with
  | nil => simp [runAll]
  | cons stage rest ih =>
    have hstep : runAll (stage :: rest) issues = runAll rest (stage.run issues) := rfl
    rw [hstep, ih]
    cases stage with
    | filter threshold =>
      simp [run, filterBySeverity_eq, List.filter_filter, admits, Bool.and_comm]
    | complete => simp [run, retainComplete, List.filter_filter, admits, Bool.and_comm]
    | sort => simp [run, filter_sortBySeverity, sortBySeverity_sortBySeverity, admits]

theorem runAll_congr {stages stages' : List Stage} (h : ∀ s, s ∈ stages ↔ s ∈ stages')
    (issues : List Issue) : runAll stages issues = runAll stages' issues := by
  have hadmits : (fun i => stages.all (·.admits i)) = fun i => stages'.all (·.admits i) := by
    funext i
    rw [Bool.eq_iff_iff, List.all_eq_true, List.all_eq_true]
    simp only [h]
  rw [runAll_eq, runAll_eq, hadmits]
  simp only [h]

end Stage

theorem aggregate_eq_runAll (issues : List Issue) (threshold : Option Severity) :
    (aggregate issues threshold).issues =
      Stage.runAll [.filter threshold, .complete, .sort] (dedupe issues) := rfl

/-- Where every issue that meets the second threshold meets the first, the second alone decides. -/
theorem filterBySeverity_aggregate {t t' : Option Severity}
    (stricter : ∀ s : Severity, t'.all s.meets = true → t.all s.meets = true) (issues : List Issue) :
    filterBySeverity t' (aggregate issues t).issues = (aggregate issues t').issues := by
  have hboth : filterBySeverity t' (aggregate issues t).issues =
      Stage.runAll [.filter t, .complete, .sort, .filter t'] (dedupe issues) := rfl
  have hadmits (i : Issue) : [Stage.filter t, .complete, .sort, .filter t'].all (·.admits i) =
      [Stage.filter t', .complete, .sort].all (·.admits i) := by
    have himp := stricter i.severity
    rw [Bool.eq_iff_iff]
    simp only [List.all_cons, List.all_nil, Stage.admits, Bool.and_true, Bool.true_and, Bool.and_eq_true]
    tauto
  rw [hboth, aggregate_eq_runAll, Stage.runAll_eq, Stage.runAll_eq]
  simp [hadmits]

/-- Filtering, the check for completeness and sorting give one list in any order and however often each is
done. Sorting lists the issues severity by severity. A threshold can therefore be applied to what was
aggregated without one, and a stricter threshold to what was aggregated under a milder one. -/
theorem stages_commute (issues : List Issue) :
    (∀ stages stages' : List Stage, (∀ s, s ∈ stages ↔ s ∈ stages') →
        Stage.runAll stages issues = Stage.runAll stages' issues) ∧
      sortBySeverity issues =
        [.blocker, .high, .medium, .low, .nit].flatMap (fun s => issues.filter (·.severity = s)) ∧
      (∀ t, (aggregate issues t).issues = filterBySeverity t (aggregate issues none).issues) ∧
      ∀ t t' : Severity, t.rank ≤ t'.rank →
        filterBySeverity (some t') (aggregate issues (some t)).issues = (aggregate issues (some t')).issues := by
  refine ⟨fun _ _ h => Stage.runAll_congr h issues, sortBySeverity_eq_graded issues, ?_, ?_⟩
  · intro t
    exact (filterBySeverity_aggregate (fun _ _ => rfl) issues).symm
  · intro t t' hle
    apply filterBySeverity_aggregate
    intro s h
    simp only [Option.all_some] at h ⊢
    exact Severity.meets_of_le hle h

section Mixed

/-- Two notes of equal severity on both sides of a grave one, the first of them without a recommendation. -/
def mixedNotes : List Issue :=
  [(new .low "src/pool.rs" "Unclear name").withNarrative "It says nothing." "",
    (new .blocker "src/pool.rs" "Connection leak").withNarrative "It is never closed." "Close it.",
    (new .low "src/main.rs" "Long line").withNarrative "It does not fit." "Break it."]

theorem stages_commute_of_mixed_notes :
    (∀ s, s ∈ [Stage.filter (some .low), .complete, .sort] ↔
        s ∈ [Stage.sort, .complete, .sort, .filter (some .low)]) ∧
      Stage.runAll [.filter (some .low), .complete, .sort] mixedNotes =
        Stage.runAll [.sort, .complete, .sort, .filter (some .low)] mixedNotes ∧
      Severity.low.rank ≤ Severity.high.rank ∧
      filterBySeverity (some .high) (aggregate mixedNotes (some .low)).issues =
        (aggregate mixedNotes (some .high)).issues := by
  have hsame : ∀ s, s ∈ [Stage.filter (some .low), .complete, .sort] ↔
      s ∈ [Stage.sort, .complete, .sort, .filter (some .low)] := by
    intro s
    simp only [List.mem_cons, List.not_mem_nil]
    tauto
  obtain ⟨hstages, -, -, hthresholds⟩ := stages_commute mixedNotes
  exact ⟨hsame, hstages _ _ hsame, by decide, hthresholds .low .high (by decide)⟩

end Mixed

end Issue

end ReviewPanel
