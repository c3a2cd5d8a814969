import Mathlib.Data.List.Basic
import ReviewPanel.Proofs.Issue.Representation

/-! # Aggregating what was aggregated

Sorting changes the order in which issues are compared. Since it does not matter which of two issues is
asked whether the other is its duplicate, the issues that aggregation leaves are no duplicates of each other
in any order, and aggregating them again changes nothing. -/
namespace ReviewPanel

namespace Text

theorem sameIgnoringCase_comm (a b : String) : sameIgnoringCase a b = sameIgnoringCase b a := Bool.beq_comm

/-- A text without blanks around it says nothing only if it is empty, whatever the case of its letters. -/
theorem isBlankText_of_sameIgnoringCase {a b : String}
    (h : sameIgnoringCase (trimmed a) (trimmed b) = true) : isBlankText a = isBlankText b := by
  have hlengths : (trim a.toList).length = (trim b.toList).length := by
    simp only [sameIgnoringCase, trimmed, String.toList_ofList, beq_iff_eq] at h
    simpa using congrArg List.length h
  rw [Bool.eq_iff_iff]
  simp [isBlankText, ← List.length_eq_zero_iff, hlengths]

end Text

theorem nodup_eraseDups {α : Type} [BEq α] [LawfulBEq α] (xs : List α) : xs.eraseDups.Nodup := by
  cases xs with
  | nil => simp
  | cons x rest =>
    rw [List.eraseDups_cons, List.nodup_cons]
    refine ⟨?_, nodup_eraseDups _⟩
    simp [List.mem_eraseDups]
termination_by xs.length
decreasing_by
  have hle := List.length_filter_le (fun y => !y == x) rest
  simp only [List.length_cons]
  omega

/-- Two lists without repetitions have the same elements in common, from either side. -/
theorem length_filter_contains_comm {α : Type} [BEq α] [LawfulBEq α] {xs ys : List α} (hx : xs.Nodup)
    (hy : ys.Nodup) : (xs.filter (ys.contains ·)).length = (ys.filter (xs.contains ·)).length := by
  apply List.Perm.length_eq
  rw [List.perm_ext_iff_of_nodup (hx.filter _) (hy.filter _)]
  intro x
  simp [and_comm]

namespace Issue

theorem overlaps_comm (a b : Issue) : a.overlaps b = b.overlaps a := by
  cases ha : a.lineRange <;> cases hb : b.lineRange <;> simp [overlaps, ha, hb, Bool.and_comm]

theorem sameCategory_comm (a b : Issue) : sameCategory a b = sameCategory b a := by
  rw [sameCategory, sameCategory, Text.sameIgnoringCase_comm (Text.trimmed b.category)]
  cases h : Text.sameIgnoringCase (Text.trimmed a.category) (Text.trimmed b.category) with
  | false => simp
  | true => rw [Text.isBlankText_of_sameIgnoringCase h]

theorem sharedWords_comm (a b : Issue) : sharedWords a b = sharedWords b a :=
  length_filter_contains_comm (nodup_eraseDups _) (nodup_eraseDups _)

theorem allWords_comm (a b : Issue) : allWords a b = allWords b a := by
  rw [allWords, allWords, sharedWords_comm a b, Nat.add_comm]

theorem titlesShare_comm (num den : Nat) (a b : Issue) : titlesShare num den a b = titlesShare num den b a := by
  rw [titlesShare, titlesShare, sharedWords_comm a b, allWords_comm a b]

theorem isDuplicate_comm (a b : Issue) : isDuplicate a b = isDuplicate b a := by
  have hpath : (Text.normalizePath a.file == Text.normalizePath b.file) =
      (Text.normalizePath b.file == Text.normalizePath a.file) := Bool.beq_comm
  have htitle : (a.normalizedTitle == b.normalizedTitle) = (b.normalizedTitle == a.normalizedTitle) :=
    Bool.beq_comm
  rw [isDuplicate, isDuplicate, hpath, htitle, overlaps_comm, sameCategory_comm, titlesShare_comm 3 5,
    titlesShare_comm 3 10]

/-- No issue is a duplicate of another. -/
def Distinct (issues : List Issue) : Prop := issues.Pairwise fun a b => isDuplicate a b = false

theorem Distinct.of_perm {xs ys : List Issue} (h : Distinct xs) (perm : xs.Perm ys) : Distinct ys :=
  (perm.pairwise_iff fun {a b} hab => (isDuplicate_comm b a).trans hab).mp h

theorem dedupeAfter_distinct (kept issues : List Issue) :
    (∀ k ∈ kept, ∀ i ∈ dedupeAfter kept issues, isDuplicate k i = false) ∧
      Distinct (dedupeAfter kept issues) := by
  induction issues generalizing kept with
  | nil => simp [dedupeAfter, Distinct]
  | cons i rest ih =>
    by_cases hany : kept.any (isDuplicate · i) = true
    · simp only [dedupeAfter, hany, if_true]
      exact ih kept
    · obtain ⟨hkept, hrest⟩ := ih (kept ++ [i])
      have hnew : ∀ k ∈ kept, isDuplicate k i = false := by simpa using hany
      simp only [dedupeAfter, hany, Bool.false_eq_true, if_false]
      constructor
      · intro k hk j hj
        rcases List.mem_cons.mp hj with rfl | hj
        · exact hnew k hk
        · exact hkept k (List.mem_append_left _ hk) j hj
      · exact List.pairwise_cons.mpr ⟨fun j hj => hkept i (by simp) j hj, hrest⟩

theorem dedupe_distinct (issues : List Issue) : Distinct (dedupe issues) := (dedupeAfter_distinct [] issues).2

theorem dedupeAfter_of_distinct {kept issues : List Issue} (h : Distinct (kept ++ issues)) :
    dedupeAfter kept issues = issues := by
  induction issues generalizing kept with
  | nil => rfl
  | cons i rest ih =>
    have hnew : ∀ k ∈ kept, isDuplicate k i = false := fun k hk =>
      (List.pairwise_append.mp h).2.2 k hk i List.mem_cons_self
    have hany : kept.any (isDuplicate · i) = false := by simpa using hnew
    rw [List.append_cons] at h
    simp [dedupeAfter, hany, ih h]

/-- Where no issue is a duplicate of another, all stay. -/
theorem dedupe_of_distinct {issues : List Issue} (h : Distinct issues) : dedupe issues = issues :=
  dedupeAfter_of_distinct h

/-- The issues are in the order in which they are reported. -/
def MostSevereFirst (issues : List Issue) : Prop := issues.Pairwise fun a b => b.severity.rank ≤ a.severity.rank

theorem mem_insertBySeverity {i j : Issue} {issues : List Issue} :
    j ∈ insertBySeverity i issues ↔ j = i ∨ j ∈ issues := by
  rw [(insertBySeverity_perm i issues).mem_iff, List.mem_cons]

theorem MostSevereFirst.insertBySeverity {issues : List Issue} (h : MostSevereFirst issues) (i : Issue) :
    MostSevereFirst (insertBySeverity i issues) := by
  induction issues with
  | nil => exact List.pairwise_singleton _ _
  | cons j rest ih =>
    obtain ⟨hj, hrest⟩ := List.pairwise_cons.mp h
    by_cases hlt : j.severity.rank < i.severity.rank
    · simp only [Issue.insertBySeverity, hlt, if_true]
      refine List.pairwise_cons.mpr ⟨fun a ha => ?_, h⟩
      rcases List.mem_cons.mp ha with rfl | ha
      · omega
      · have := hj a ha
        omega
    · simp only [Issue.insertBySeverity, hlt, if_false]
      refine List.pairwise_cons.mpr ⟨fun a ha => ?_, ih hrest⟩
      rcases mem_insertBySeverity.mp ha with rfl | ha
      · omega
      · exact hj a ha

theorem mostSevereFirst_foldl {sorted : List Issue} (h : MostSevereFirst sorted) (issues : List Issue) :
    MostSevereFirst (issues.foldl (fun sorted i => Issue.insertBySeverity i sorted) sorted) := by
  induction issues generalizing sorted with
  | nil => exact h
  | cons i rest ih => exact ih (h.insertBySeverity i)

theorem mostSevereFirst_sortBySeverity (issues : List Issue) : MostSevereFirst (sortBySeverity issues) :=
  mostSevereFirst_foldl .nil issues

/-- An issue goes behind those that are at least as severe. -/
theorem insertBySeverity_append_of_le {i : Issue} {front : List Issue}
    (h : ∀ j ∈ front, i.severity.rank ≤ j.severity.rank) (back : List Issue) :
    insertBySeverity i (front ++ back) = front ++ insertBySeverity i back := by
  induction front with
  | nil => rfl
  | cons j rest ih =>
    have hj := h j List.mem_cons_self
    have hrest := ih fun k hk => h k (List.mem_cons_of_mem _ hk)
    simp [insertBySeverity, Nat.not_lt.mpr hj, hrest]

theorem insertBySeverity_of_le {i : Issue} {issues : List Issue}
    (h : ∀ j ∈ issues, i.severity.rank ≤ j.severity.rank) : insertBySeverity i issues = issues ++ [i] := by
  simpa [insertBySeverity] using insertBySeverity_append_of_le h []

theorem foldl_insertBySeverity_of_sorted {sorted issues : List Issue} (h : MostSevereFirst (sorted ++ issues)) :
    issues.foldl (fun sorted i => insertBySeverity i sorted) sorted = sorted ++ issues := by
  induction issues generalizing sorted with
  | nil => simp
  | cons i rest ih =>
    have hi := insertBySeverity_of_le fun j hj => (List.pairwise_append.mp h).2.2 j hj i List.mem_cons_self
    rw [List.append_cons] at h ⊢
    rw [List.foldl_cons, hi, ih h]

/-- What is in order already stays as it is. -/
theorem sortBySeverity_of_sorted {issues : List Issue} (h : MostSevereFirst issues) :
    sortBySeverity issues = issues := foldl_insertBySeverity_of_sorted h

variable {issues : List Issue} {threshold : Option Severity}

theorem distinct_aggregate (issues : List Issue) (threshold : Option Severity) :
    Distinct (aggregate issues threshold).issues := by
  have hfiltered : Distinct (retainComplete (filterBySeverity threshold (dedupe issues))) := by
    rw [filterBySeverity_eq]
    exact ((dedupe_distinct issues).filter _).filter _
  exact hfiltered.of_perm (sortBySeverity_perm _).symm

/-- The issues that can be reported pass the filters. -/
theorem filterBySeverity_of_reportable (h : ∀ i ∈ issues, i.isReportable threshold = true) :
    filterBySeverity threshold issues = issues ∧ retainComplete issues = issues := by
  have hboth : ∀ i ∈ issues, threshold.all i.severity.meets = true ∧ i.isComplete = true := fun i hi => by
    simpa only [isReportable, Bool.and_eq_true] using h i hi
  rw [filterBySeverity_eq, retainComplete]
  exact ⟨List.filter_eq_self.mpr fun i hi => (hboth i hi).1, List.filter_eq_self.mpr fun i hi => (hboth i hi).2⟩

/-- Issues that are distinct, fit to be reported and in order are left as they are. -/
theorem aggregate_of_distinct (distinct : Distinct issues)
    (reportable : ∀ i ∈ issues, i.isReportable threshold = true) (sorted : MostSevereFirst issues) :
    aggregate issues threshold = ⟨issues, 0, 0, 0⟩ := by
  obtain ⟨hfilter, hcomplete⟩ := filterBySeverity_of_reportable reportable
  simp [aggregate, dedupe_of_distinct distinct, hfilter, hcomplete, sortBySeverity_of_sorted sorted]

/-- Aggregating issues a second time, under the same threshold, removes none of them and leaves them in
their order. -/
theorem aggregate_aggregate (issues : List Issue) (threshold : Option Severity) :
    aggregate (aggregate issues threshold).issues threshold = ⟨(aggregate issues threshold).issues, 0, 0, 0⟩ :=
  aggregate_of_distinct (distinct_aggregate issues threshold) (fun _ hi => (mem_aggregate.mp hi).2)
    (mostSevereFirst_sortBySeverity _)

end Issue

end ReviewPanel
