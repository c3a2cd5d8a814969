import Mathlib.Algebra.Order.Field.Rat
import Mathlib.Data.Finset.Card
import Mathlib.Tactic.Positivity
import ReviewPanel.Proofs.Issue.Idempotence
import ReviewPanel.Proofs.Text.Words

/-! # The relation between duplicates

Being a duplicate is a relation that looks at two issues alike: every issue is a duplicate of itself, and it does not
matter which of two is asked. Lines overlap if there is a line in both ranges. Titles are compared by the part of
their words that they share, and where there are no words at all, nothing is divided. -/
namespace ReviewPanel.Issue

/-- The issue is about its whole file. -/
def IsFileLevel (i : Issue) : Prop := i.startLine = none ∧ i.endLine = none

/-- The issue is about a line: one between its bounds, in whatever order they stand, or its only one. -/
def Covers (i : Issue) (line : UInt32) : Prop :=
  match i.startLine, i.endLine with
  | some s, some e => (s ≤ line ∧ line ≤ e) ∨ (e ≤ line ∧ line ≤ s)
  | some l, none => line = l
  | none, some l => line = l
  | none, none => False

section Lines

variable {i : Issue} {line : UInt32}

theorem eq_iff_between {l : UInt32} : line = l ↔ l ≤ line ∧ line ≤ l := by
  rw [eq_comm, UInt32.le_antisymm_iff]

theorem Covers.not_isFileLevel (h : i.Covers line) : ¬ i.IsFileLevel := by
  rintro ⟨start, stop⟩
  rw [Covers, start, stop] at h
  exact h

/-- The lines of an issue that has any go from the first to the last of its range. -/
structure HasLines (i : Issue) (lo hi : UInt32) : Prop where
  range_eq : i.lineRange = some (lo, hi)
  le : lo ≤ hi
  covers_iff : ∀ line, i.Covers line ↔ lo ≤ line ∧ line ≤ hi

theorem isFileLevel_or_hasLines (i : Issue) :
    (i.IsFileLevel ∧ i.lineRange = none) ∨ ∃ lo hi, i.HasLines lo hi := by
  cases start : i.startLine with
  | none =>
    cases stop : i.endLine with
    | none => exact .inl ⟨⟨start, stop⟩, by rw [lineRange, start, stop]⟩
    | some l =>
      refine .inr ⟨l, l, by rw [lineRange, start, stop], UInt32.le_refl l, fun line => ?_⟩
      rw [Covers, start, stop]
      exact eq_iff_between
  | some s =>
    cases stop : i.endLine with
    | none =>
      refine .inr ⟨s, s, by rw [lineRange, start, stop], UInt32.le_refl s, fun line => ?_⟩
      rw [Covers, start, stop]
      exact eq_iff_between
    | some e =>
      by_cases hle : s ≤ e
      · refine .inr ⟨s, e, by simp [lineRange, start, stop, hle], hle, fun line => ?_⟩
        rw [Covers, start, stop]
        refine or_iff_left_of_imp ?_
        rintro ⟨hfirst, hlast⟩
        exact ⟨UInt32.le_trans hle hfirst, UInt32.le_trans hlast hle⟩
      · have hge : e ≤ s := (UInt32.le_total s e).resolve_left hle
        refine .inr ⟨e, s, by simp [lineRange, start, stop, hle], hge, fun line => ?_⟩
        rw [Covers, start, stop]
        refine or_iff_right_of_imp ?_
        rintro ⟨hfirst, hlast⟩
        exact ⟨UInt32.le_trans hge hfirst, UInt32.le_trans hlast hge⟩

theorem HasLines.not_isFileLevel {lo hi : UInt32} (h : i.HasLines lo hi) : ¬ i.IsFileLevel :=
  Covers.not_isFileLevel ((h.covers_iff lo).mpr ⟨UInt32.le_refl lo, h.le⟩)

/-- Two issues overlap if both are about their whole files or there is a line that both are about. -/
theorem overlaps_iff {a b : Issue} :
    a.overlaps b = true ↔ (a.IsFileLevel ∧ b.IsFileLevel) ∨ ∃ line, a.Covers line ∧ b.Covers line := by
  rcases isFileLevel_or_hasLines a with ⟨ha, hrange⟩ | ⟨lo, hi, ha⟩
  · have hnone : ¬ ∃ line, a.Covers line ∧ b.Covers line := fun ⟨_, hcovers, _⟩ => hcovers.not_isFileLevel ha
    rcases isFileLevel_or_hasLines b with ⟨hb, hrange'⟩ | ⟨lo', hi', hb⟩
    · simp [overlaps, hrange, hrange', ha, hb]
    · simp [overlaps, hrange, hb.range_eq, hb.not_isFileLevel, hnone]
  · rcases isFileLevel_or_hasLines b with ⟨hb, hrange'⟩ | ⟨lo', hi', hb⟩
    · have hnone : ¬ ∃ line, a.Covers line ∧ b.Covers line := fun ⟨_, _, hcovers⟩ => hcovers.not_isFileLevel hb
      simp [overlaps, ha.range_eq, hrange', ha.not_isFileLevel, hnone]
    · rw [overlaps, ha.range_eq, hb.range_eq, or_iff_right fun h => ha.not_isFileLevel h.1]
      simp only [ha.covers_iff, hb.covers_iff, Bool.and_eq_true, decide_eq_true_eq]
      constructor
      · rintro ⟨hle, hle'⟩
        -- The greater of the two first lines is in both ranges.
        rcases UInt32.le_total lo lo' with hlo | hlo
        · exact ⟨lo', ⟨hlo, hle'⟩, UInt32.le_refl lo', hb.le⟩
        · exact ⟨lo, ⟨UInt32.le_refl lo, ha.le⟩, hlo, hle⟩
      · rintro ⟨line, ⟨hlo, hhi⟩, hlo', hhi'⟩
        exact ⟨UInt32.le_trans hlo hhi', UInt32.le_trans hlo' hhi⟩

end Lines

/-- The words of the normal title, which is cut at its blanks. -/
def titleTokens (i : Issue) : Finset (List Char) := (Text.pieces Text.isBlank i.normalizedTitle.toList).toFinset

/-- A quotient of counts, if the divisor is not zero. -/
def quotient? (n d : ℕ) : Option ℚ := if d = 0 then none else some (n / d)

/-- The part of the words of two titles that both have. Titles without words are alike. -/
def titleSimilarity? (a b : Issue) : Option ℚ :=
  if a.titleTokens = ∅ ∧ b.titleTokens = ∅ then some 1
  else quotient? (a.titleTokens ∩ b.titleTokens).card (a.titleTokens ∪ b.titleTokens).card

section Titles

variable {a b : Issue}

theorem areWords_titleWords (i : Issue) : Text.AreWords i.titleWords := Text.areWords_words _

theorem nodup_titleWordSet (i : Issue) : i.titleWordSet.Nodup := nodup_eraseDups _

theorem mem_titleTokens {i : Issue} {w : List Char} : w ∈ i.titleTokens ↔ w ∈ i.titleWordSet := by
  rw [titleTokens, normalizedTitle, String.toList_ofList, Text.pieces_isBlank_unwords (areWords_titleWords i),
    titleWordSet, List.mem_eraseDups, List.mem_toFinset]

theorem card_titleTokens (i : Issue) : i.titleTokens.card = i.titleWordSet.length := by
  have hset : i.titleTokens = i.titleWordSet.toFinset := by
    ext w
    rw [mem_titleTokens, List.mem_toFinset]
  rw [hset, List.toFinset_card_of_nodup (nodup_titleWordSet i)]

theorem card_inter_titleTokens (a b : Issue) : (a.titleTokens ∩ b.titleTokens).card = sharedWords a b := by
  have hset : a.titleTokens ∩ b.titleTokens = (a.titleWordSet.filter (b.titleWordSet.contains ·)).toFinset := by
    ext w
    rw [Finset.mem_inter, mem_titleTokens, mem_titleTokens, List.mem_toFinset, List.mem_filter, List.contains_iff_mem]
  rw [hset, List.toFinset_card_of_nodup ((nodup_titleWordSet a).filter _), sharedWords]

theorem card_union_titleTokens (a b : Issue) : (a.titleTokens ∪ b.titleTokens).card = allWords a b := by
  rw [Finset.card_union, card_inter_titleTokens, card_titleTokens, card_titleTokens, allWords]

theorem sharedWords_le (a b : Issue) : sharedWords a b ≤ allWords a b := by
  rw [← card_inter_titleTokens, ← card_union_titleTokens]
  exact Finset.card_le_card Finset.inter_subset_union

/-- All the words of two titles are none only if neither has any. -/
theorem allWords_eq_zero_iff : allWords a b = 0 ↔ a.titleTokens = ∅ ∧ b.titleTokens = ∅ := by
  rw [← card_union_titleTokens, Finset.card_eq_zero, Finset.union_eq_empty]

theorem titleSimilarity?_comm (a b : Issue) : titleSimilarity? a b = titleSimilarity? b a := by
  rw [titleSimilarity?, titleSimilarity?, Finset.inter_comm, Finset.union_comm]
  simp only [and_comm]

/-- The similarity of two titles: nothing is divided by zero, and comparing it with a fraction up to one is comparing
products of counts. -/
structure IsSimilarity (a b : Issue) (q : ℚ) : Prop where
  eq_some : titleSimilarity? a b = some q
  nonneg : 0 ≤ q
  le_one : q ≤ 1
  titlesShare_iff : ∀ num den : ℕ, num ≤ den → 0 < den → (titlesShare num den a b = true ↔ (num / den : ℚ) ≤ q)

theorem exists_isSimilarity (a b : Issue) : ∃ q, IsSimilarity a b q := by
  by_cases hempty : a.titleTokens = ∅ ∧ b.titleTokens = ∅
  · have hall : allWords a b = 0 := allWords_eq_zero_iff.mpr hempty
    have hshared : sharedWords a b = 0 := Nat.le_zero.mp (hall ▸ sharedWords_le a b)
    refine ⟨1, by rw [titleSimilarity?, if_pos hempty], by norm_num, le_refl 1, ?_⟩
    intro num den hle hden
    have hone : (num / den : ℚ) ≤ 1 := div_le_one_of_le₀ (by exact_mod_cast hle) (by positivity)
    simp [titlesShare, hall, hshared, hone]
  · have hall : allWords a b ≠ 0 := mt allWords_eq_zero_iff.mp hempty
    have hpos : (0 : ℚ) < allWords a b := by exact_mod_cast Nat.pos_of_ne_zero hall
    refine ⟨sharedWords a b / allWords a b, ?_, by positivity, ?_, ?_⟩
    · rw [titleSimilarity?, if_neg hempty, card_inter_titleTokens, card_union_titleTokens, quotient?, if_neg hall]
    · rw [div_le_one hpos]
      exact_mod_cast sharedWords_le a b
    · intro num den _ hden
      have hden : (0 : ℚ) < den := by exact_mod_cast hden
      rw [titlesShare, decide_eq_true_eq, div_le_div_iff₀ hden hpos, mul_comm (sharedWords a b : ℚ)]
      exact_mod_cast Iff.rfl

end Titles

/-- Every issue is a duplicate of itself, and of two issues each is a duplicate of the other or neither is. Their
lines overlap if both have none or there is one that both cover. The similarity of their titles is a part of one,
without any division by zero, and together with the paths, the lines and the categories it decides. -/
theorem isDuplicate_relation (a b : Issue) :
    isDuplicate a a = true ∧ isDuplicate a b = isDuplicate b a ∧
      (a.overlaps b = true ↔ (a.IsFileLevel ∧ b.IsFileLevel) ∨ ∃ line, a.Covers line ∧ b.Covers line) ∧
      ∃ q : ℚ, titleSimilarity? a b = some q ∧ titleSimilarity? b a = some q ∧ 0 ≤ q ∧ q ≤ 1 ∧
        (isDuplicate a b = true ↔
          Text.normalizePath a.file = Text.normalizePath b.file ∧ a.overlaps b = true ∧
            (a.normalizedTitle = b.normalizedTitle ∨ 3 / 5 ≤ q ∨ (sameCategory a b = true ∧ 3 / 10 ≤ q))) := by
  obtain ⟨q, hq⟩ := exists_isSimilarity a b
  have hmost : titlesShare 3 5 a b = true ↔ 3 / 5 ≤ q := by
    simpa using hq.titlesShare_iff 3 5 (by decide) (by decide)
  have hsome : titlesShare 3 10 a b = true ↔ 3 / 10 ≤ q := by
    simpa using hq.titlesShare_iff 3 10 (by decide) (by decide)
  refine ⟨isDuplicate_self a, isDuplicate_comm a b, overlaps_iff, q, hq.eq_some, ?_, hq.nonneg, hq.le_one, ?_⟩
  · rw [titleSimilarity?_comm]
    exact hq.eq_some
  · simp only [isDuplicate, Bool.and_eq_true, Bool.or_eq_true, beq_iff_eq, hmost, hsome, and_assoc, or_assoc]

end ReviewPanel.Issue
