import ReviewPanel.Issue.Aggregate

/-! # What becomes of a finding

Deduplication loses no finding: an issue that goes is a duplicate of an earlier one that stays. The later
steps look only at the issues that stayed, so a finding is lost exactly when all issues that stand for it
are too mild or incomplete, however severe and complete it is itself. -/
namespace ReviewPanel.Issue

/-- The issue passes the steps that look at one issue at a time. -/
def isReportable (threshold : Option Severity) (i : Issue) : Bool :=
  threshold.all i.severity.meets && i.isComplete

/-- The finding of an issue is among some issues, as the issue itself or as a duplicate of it. -/
def Represented (issues : List Issue) (i : Issue) : Prop := ∃ k ∈ issues, k = i ∨ isDuplicate k i = true

theorem overlaps_self (i : Issue) : i.overlaps i = true := by
  cases hs : i.startLine with
  | none => cases he : i.endLine <;> simp [overlaps, lineRange, hs, he]
  | some s =>
    cases he : i.endLine with
    | none => simp [overlaps, lineRange, hs, he]
    | some e =>
      by_cases hle : s ≤ e
      · simp [overlaps, lineRange, hs, he, hle]
      · have hge : e ≤ s := (UInt32.le_total s e).resolve_left hle
        simp [overlaps, lineRange, hs, he, hle, hge]

theorem isDuplicate_self (i : Issue) : isDuplicate i i = true := by
  simp [isDuplicate, overlaps_self]

/-- Issues with one normal path, the same lines and one normal title tell the same finding. -/
theorem isDuplicate_of_normal_eq {a b : Issue} (path : Text.normalizePath a.file = Text.normalizePath b.file)
    (lines : a.lineRange = b.lineRange) (title : a.normalizedTitle = b.normalizedTitle) :
    isDuplicate a b = true := by
  have hoverlaps : a.overlaps b = b.overlaps b := by rw [overlaps, overlaps, lines]
  simp [isDuplicate, path, hoverlaps, overlaps_self, title]

/-- Issues that differ in nothing but what explains them and how severe they are tell the same finding. -/
theorem isDuplicate_of_eq {a b : Issue} (file : a.file = b.file) (startLine : a.startLine = b.startLine)
    (endLine : a.endLine = b.endLine) (title : a.title = b.title) : isDuplicate a b = true := by
  apply isDuplicate_of_normal_eq
  · rw [file]
  · rw [lineRange, lineRange, startLine, endLine]
  · rw [normalizedTitle, normalizedTitle, titleWords, titleWords, title]

theorem represented_iff {issues : List Issue} {i : Issue} :
    Represented issues i ↔ ∃ k ∈ issues, isDuplicate k i = true := by
  constructor
  · rintro ⟨k, hk, rfl | hdup⟩
    · exact ⟨k, hk, isDuplicate_self k⟩
    · exact ⟨k, hk, hdup⟩
  · rintro ⟨k, hk, hdup⟩
    exact ⟨k, hk, .inr hdup⟩

theorem dedupeAfter_append (kept xs ys : List Issue) :
    dedupeAfter kept (xs ++ ys) = dedupeAfter kept xs ++ dedupeAfter (kept ++ dedupeAfter kept xs) ys := by
  induction xs generalizing kept with
  | nil => rw [List.nil_append, dedupeAfter, List.append_nil, List.nil_append]
  | cons x xs ih =>
    simp only [List.cons_append, dedupeAfter]
    split
    · exact ih kept
    · rw [ih, List.cons_append, List.append_assoc kept, List.singleton_append]

/-- What is kept of the first issues does not depend on those that come later. -/
theorem dedupe_append (xs ys : List Issue) : dedupe (xs ++ ys) = dedupe xs ++ dedupeAfter (dedupe xs) ys :=
  dedupeAfter_append [] xs ys

theorem dedupeAfter_sublist (kept issues : List Issue) : (dedupeAfter kept issues).Sublist issues := by
  induction issues generalizing kept with
  | nil => exact .slnil
  | cons i rest ih =>
    rw [dedupeAfter]
    split
    · exact (ih kept).cons i
    · exact (ih (kept ++ [i])).cons_cons i

theorem mem_of_mem_dedupe {i : Issue} {issues : List Issue} (h : i ∈ dedupe issues) : i ∈ issues :=
  (dedupeAfter_sublist [] issues).subset h

/-- An issue stays unless an earlier one that stays is a duplicate of it. -/
theorem mem_dedupe_of_fresh {before : List Issue} {i : Issue}
    (fresh : ∀ k ∈ dedupe before, isDuplicate k i = false) (after : List Issue) :
    i ∈ dedupe (before ++ i :: after) := by
  have hany : (dedupe before).any (isDuplicate · i) = false := by
    rw [List.any_eq_false]
    intro k hk
    rw [fresh k hk]
    exact Bool.false_ne_true
  rw [dedupe_append, dedupeAfter, hany]
  exact List.mem_append_right _ List.mem_cons_self

theorem insertBySeverity_perm (i : Issue) (issues : List Issue) :
    (insertBySeverity i issues).Perm (i :: issues) := by
  induction issues with
  | nil => exact .refl _
  | cons j rest ih =>
    rw [insertBySeverity]
    split
    · exact .refl _
    · exact (ih.cons j).trans (.swap i j rest)

theorem foldl_insertBySeverity_perm (issues sorted : List Issue) :
    (issues.foldl (fun sorted i => insertBySeverity i sorted) sorted).Perm (issues ++ sorted) := by
  induction issues generalizing sorted with
  | nil => exact .refl _
  | cons i rest ih =>
    refine (ih (insertBySeverity i sorted)).trans ?_
    exact ((insertBySeverity_perm i sorted).append_left rest).trans List.perm_middle

theorem sortBySeverity_perm (issues : List Issue) : (sortBySeverity issues).Perm issues := by
  have h := foldl_insertBySeverity_perm issues []
  rwa [List.append_nil] at h

theorem filterBySeverity_eq (threshold : Option Severity) (issues : List Issue) :
    filterBySeverity threshold issues = issues.filter fun i => threshold.all i.severity.meets := by
  cases threshold with
  | none => exact (List.filter_eq_self.mpr fun _ _ => rfl).symm
  | some t => rfl

/-- After deduplication every issue is judged by itself. -/
theorem mem_aggregate {i : Issue} {issues : List Issue} {threshold : Option Severity} :
    i ∈ (aggregate issues threshold).issues ↔ i ∈ dedupe issues ∧ i.isReportable threshold = true := by
  rw [aggregate, (sortBySeverity_perm _).mem_iff, retainComplete, List.mem_filter, filterBySeverity_eq,
    List.mem_filter, and_assoc, isReportable, Bool.and_eq_true]

theorem represented_aggregate {i : Issue} {issues : List Issue} {threshold : Option Severity} :
    Represented (aggregate issues threshold).issues i ↔
      ∃ k ∈ dedupe issues, isDuplicate k i = true ∧ k.isReportable threshold = true := by
  rw [represented_iff]
  constructor
  · rintro ⟨k, hk, hdup⟩
    obtain ⟨hkept, hreportable⟩ := mem_aggregate.mp hk
    exact ⟨k, hkept, hdup, hreportable⟩
  · rintro ⟨k, hkept, hdup, hreportable⟩
    exact ⟨k, mem_aggregate.mpr ⟨hkept, hreportable⟩, hdup⟩

/-- The finding of an issue is lost: the issue is dropped for an earlier one, and no issue that stays in its
place is reportable. -/
structure Shadowed (threshold : Option Severity) (before : List Issue) (i : Issue) (after : List Issue) :
    Prop where
  dropped : ∃ k ∈ dedupe before, isDuplicate k i = true
  unreportable : ∀ k ∈ dedupe (before ++ i :: after), isDuplicate k i = true → k.isReportable threshold = false

theorem shadowed_iff {before after : List Issue} {threshold : Option Severity} {i : Issue}
    (reportable : i.isReportable threshold = true) :
    Shadowed threshold before i after ↔
      ¬ Represented (aggregate (before ++ i :: after) threshold).issues i := by
  rw [represented_aggregate]
  constructor
  · rintro shadowed ⟨k, hkept, hdup, hreportable⟩
    exact Bool.false_ne_true ((shadowed.unreportable k hkept hdup).symm.trans hreportable)
  · intro lost
    constructor
    · -- An issue that is not dropped would represent itself.
      by_cases hdropped : ∃ k ∈ dedupe before, isDuplicate k i = true
      · exact hdropped
      · have hkept : i ∈ dedupe (before ++ i :: after) := by
          apply mem_dedupe_of_fresh
          intro k hk
          rw [← Bool.not_eq_true]
          exact fun hdup => hdropped ⟨k, hk, hdup⟩
        exact absurd ⟨i, hkept, isDuplicate_self i, reportable⟩ lost
    · intro k hkept hdup
      rw [← Bool.not_eq_true]
      exact fun hreportable => lost ⟨k, hkept, hdup, hreportable⟩

/-- Of the issues that are complete and meet the threshold, aggregation represents all but those that are
shadowed, and so each of which all earlier duplicates are complete and meet the threshold as well. -/
theorem represented_aggregate_iff (before after : List Issue) (threshold : Option Severity) {i : Issue}
    (reportable : i.isReportable threshold = true) :
    (Represented (aggregate (before ++ i :: after) threshold).issues i ↔ ¬ Shadowed threshold before i after) ∧
      ((∀ k ∈ before, isDuplicate k i = true → k.isReportable threshold = true) →
        Represented (aggregate (before ++ i :: after) threshold).issues i) := by
  have hiff : Represented (aggregate (before ++ i :: after) threshold).issues i ↔
      ¬ Shadowed threshold before i after := by
    rw [shadowed_iff reportable, Classical.not_not]
  refine ⟨hiff, fun earlier => hiff.mpr fun shadowed => ?_⟩
  obtain ⟨k, hk, hdup⟩ := shadowed.dropped
  have hkept : k ∈ dedupe (before ++ i :: after) := by
    rw [dedupe_append]
    exact List.mem_append_left _ hk
  have hreportable := earlier k (mem_of_mem_dedupe hk) hdup
  exact Bool.false_ne_true ((shadowed.unreportable k hkept hdup).symm.trans hreportable)

section Twice

/-- Two lenses have seen one leak, and do not agree on how much it matters. -/
def mildLeak : Issue :=
  ((new .nit "src/pool.rs" "Connection leak").withLines 10 12).withNarrative "It is never closed." "Close it."

def graveLeak : Issue := { mildLeak with severity := .blocker }

theorem isDuplicate_leaks : isDuplicate mildLeak graveLeak = true := isDuplicate_of_eq rfl rfl rfl rfl

theorem represented_leak_without_threshold :
    graveLeak.isReportable none = true ∧
      (∀ k ∈ [mildLeak], isDuplicate k graveLeak = true → k.isReportable none = true) ∧
      Represented (aggregate [mildLeak, graveLeak] none).issues graveLeak := by
  have earlier : ∀ k ∈ [mildLeak], isDuplicate k graveLeak = true → k.isReportable none = true := by
    intro k hk _
    rw [List.mem_singleton.mp hk]
    decide
  exact ⟨by decide, earlier, (represented_aggregate_iff [mildLeak] [] none (by decide)).2 earlier⟩

/-- A blocker vanishes when the same finding was reported as a nit before. -/
theorem not_represented_grave_leak :
    graveLeak ∈ [mildLeak, graveLeak] ∧ graveLeak.isComplete = true ∧ graveLeak.severity.meets .high = true ∧
      ¬ Represented (aggregate [mildLeak, graveLeak] (some .high)).issues graveLeak := by
  have hdedupe : dedupe [mildLeak, graveLeak] = [mildLeak] := by
    simp [dedupe, dedupeAfter, isDuplicate_leaks]
  refine ⟨by simp, by decide, by decide, ?_⟩
  rw [represented_aggregate, hdedupe]
  rintro ⟨k, hk, -, hreportable⟩
  rw [List.mem_singleton.mp hk] at hreportable
  exact absurd hreportable (by decide)

end Twice

end ReviewPanel.Issue
