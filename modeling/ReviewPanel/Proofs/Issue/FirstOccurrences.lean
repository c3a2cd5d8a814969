import Mathlib.Data.List.FinRange
import Mathlib.Data.List.Sort
import ReviewPanel.Proofs.Issue.Idempotence

/-! # First occurrences

Deduplication goes through the positions of a list and keeps each of them unless an earlier one that it has
kept holds a duplicate. The rule speaks of what is kept on both sides, and being a duplicate is not
transitive. Still, since it looks back only, it allows for one choice of positions. -/
namespace ReviewPanel

theorem mem_take_finRange {n k : Nat} {p : Fin n} : p ∈ (List.finRange n).take k ↔ p < k := by
  rw [List.mem_take_iff_getElem]
  simp [Fin.ext_iff]

namespace Issue

variable {issues : List Issue}

/-- The issue at a position is no duplicate of what deduplication keeps of those before it. -/
def isFresh (issues : List Issue) (p : Fin issues.length) : Bool :=
  !(dedupe (issues.take p)).any (isDuplicate · issues[p])

def freshPositions (issues : List Issue) : List (Fin issues.length) :=
  (List.finRange issues.length).filter (isFresh issues)

theorem mem_freshPositions {p : Fin issues.length} : p ∈ freshPositions issues ↔ isFresh issues p = true := by
  simp [freshPositions]

theorem freshPositions_ascending (issues : List Issue) : (freshPositions issues).Pairwise (· < ·) :=
  (List.pairwise_lt_finRange _).filter _

theorem dedupe_concat (issues : List Issue) (i : Issue) :
    dedupe (issues ++ [i]) = dedupe issues ++ [i].filter fun i => !(dedupe issues).any (isDuplicate · i) := by
  rw [dedupe_append, dedupeAfter, List.filter_singleton]
  cases (dedupe issues).any (isDuplicate · i) <;> rfl

/-- What is kept of the first issues stands at the fresh positions among them. -/
theorem dedupe_take (issues : List Issue) {n : Nat} (h : n ≤ issues.length) :
    dedupe (issues.take n) =
      (((List.finRange issues.length).take n).filter (isFresh issues)).map (issues[·]) := by
  induction n with
  | zero => rfl
  | succ n ih =>
    have hissues : issues.take (n + 1) = issues.take n ++ [issues[n]] := List.take_succ_eq_append_getElem h
    have hpositions : (List.finRange issues.length).take (n + 1) =
        (List.finRange issues.length).take n ++ [⟨n, h⟩] := by
      rw [List.take_succ_eq_append_getElem (by rw [List.length_finRange]; exact h)]
      simp
    -- The last of the first issues is kept exactly if its position is fresh.
    have hlast : ([issues[n]].filter fun i => !(dedupe (issues.take n)).any (isDuplicate · i)) =
        ([⟨n, h⟩].filter (isFresh issues)).map (issues[·]) := by
      rw [List.filter_singleton, List.filter_singleton, isFresh]
      cases (dedupe (issues.take n)).any (isDuplicate · issues[n]) <;> rfl
    rw [hissues, dedupe_concat, hlast, hpositions, List.filter_append, List.map_append,
      ih (Nat.le_of_succ_le h)]

theorem dedupe_eq_map (issues : List Issue) : dedupe issues = (freshPositions issues).map (issues[·]) := by
  have h := dedupe_take issues (Nat.le_refl _)
  rwa [List.take_length, List.take_of_length_le (by simp)] at h

/-- A position is not fresh exactly if an earlier fresh one holds a duplicate. -/
theorem isFresh_eq_false_iff {p : Fin issues.length} :
    isFresh issues p = false ↔
      ∃ q ∈ freshPositions issues, q < p ∧ isDuplicate issues[q] issues[p] = true := by
  have hkept : isFresh issues p =
      !(((List.finRange issues.length).take p).filter (isFresh issues)).any
        fun q => isDuplicate issues[q] issues[p] := by
    rw [isFresh, dedupe_take issues (Nat.le_of_lt p.isLt), List.any_map, Function.comp_def]
  rw [hkept, Bool.not_eq_false', List.any_eq_true]
  constructor
  · rintro ⟨q, hq, hdup⟩
    obtain ⟨hlt, hfresh⟩ := List.mem_filter.mp hq
    exact ⟨q, mem_freshPositions.mpr hfresh, mem_take_finRange.mp hlt, hdup⟩
  · rintro ⟨q, hq, hlt, hdup⟩
    exact ⟨q, List.mem_filter.mpr ⟨mem_take_finRange.mpr hlt, mem_freshPositions.mp hq⟩, hdup⟩

/-- The issue at a position is a duplicate of one at an earlier kept position. -/
def matchesKept (issues : List Issue) (kept : List (Fin issues.length)) (p : Fin issues.length) : Bool :=
  kept.any fun q => q.val < p.val && isDuplicate issues[q] issues[p]

theorem matchesKept_freshPositions (p : Fin issues.length) :
    matchesKept issues (freshPositions issues) p = !isFresh issues p := by
  rw [Bool.eq_iff_iff, Bool.not_eq_true', isFresh_eq_false_iff, matchesKept, List.any_eq_true]
  simp only [Bool.and_eq_true, decide_eq_true_eq, Fin.lt_def]

/-- Positions are chosen greedily: in ascending order, none whose issue is a duplicate of one at an earlier
chosen position, and all others. -/
structure Greedy (issues : List Issue) (kept : List (Fin issues.length)) : Prop where
  ascending : kept.Pairwise (· < ·)
  distinct : ∀ p ∈ kept, ∀ q ∈ kept, q < p → isDuplicate issues[q] issues[p] = false
  dropped : ∀ p, p ∉ kept → ∃ q ∈ kept, q < p ∧ isDuplicate issues[q] issues[p] = true

theorem greedy_freshPositions (issues : List Issue) : Greedy issues (freshPositions issues) := by
  constructor
  · exact freshPositions_ascending issues
  · intro p hp q hq hlt
    rw [← Bool.not_eq_true]
    intro hdup
    have hstale := isFresh_eq_false_iff.mpr ⟨q, hq, hlt, hdup⟩
    exact Bool.false_ne_true (hstale.symm.trans (mem_freshPositions.mp hp))
  · intro p hp
    rw [mem_freshPositions, Bool.not_eq_true] at hp
    exact isFresh_eq_false_iff.mp hp

/-- A position chosen by one greedy choice is chosen by another that agrees with it on what comes before. -/
theorem Greedy.mem_of_agree {kept kept' : List (Fin issues.length)} (h : Greedy issues kept)
    (h' : Greedy issues kept') {p : Fin issues.length} (agree : ∀ q < p, q ∈ kept' → q ∈ kept)
    (hp : p ∈ kept) : p ∈ kept' := by
  by_contra hnot
  obtain ⟨q, hq, hlt, hdup⟩ := h'.dropped p hnot
  have hdistinct := h.distinct p hp q (agree q hlt hq) hlt
  exact Bool.false_ne_true (hdistinct.symm.trans hdup)

theorem Greedy.mem_iff {kept kept' : List (Fin issues.length)} (h : Greedy issues kept)
    (h' : Greedy issues kept') (p : Fin issues.length) : p ∈ kept ↔ p ∈ kept' := by
  induction p using WellFoundedLT.induction with
  | ind p ih =>
    constructor
    · exact h.mem_of_agree h' fun q hlt => (ih q hlt).mpr
    · exact h'.mem_of_agree h fun q hlt => (ih q hlt).mp

theorem Greedy.eq_freshPositions {kept : List (Fin issues.length)} (h : Greedy issues kept) :
    kept = freshPositions issues :=
  h.ascending.eq_of_mem_iff (freshPositions_ascending issues) (h.mem_iff (greedy_freshPositions issues))

/-- A list holds the issues at greedily chosen positions. -/
def KeepsGreedily (issues result : List Issue) : Prop :=
  ∃ kept, Greedy issues kept ∧ kept.map (issues[·]) = result

/-- What deduplication has kept can stand for the issues that it was kept of, whatever follows. -/
theorem dedupe_dedupe_append (xs ys : List Issue) : dedupe (dedupe xs ++ ys) = dedupe (xs ++ ys) := by
  rw [dedupe_append, dedupe_append, dedupe_of_distinct (dedupe_distinct xs)]

/-- Deduplication keeps first occurrences greedily, and nothing else does; it can be done in parts, and doing
it twice changes nothing. -/
theorem dedupe_greedy (xs : List Issue) :
    (∀ result, KeepsGreedily xs result ↔ result = dedupe xs) ∧
      (∀ ys, dedupe (dedupe xs ++ ys) = dedupe (xs ++ ys)) ∧ dedupe (dedupe xs) = dedupe xs := by
  refine ⟨fun result => ⟨?_, ?_⟩, dedupe_dedupe_append xs, dedupe_of_distinct (dedupe_distinct xs)⟩
  · rintro ⟨kept, hgreedy, rfl⟩
    rw [dedupe_eq_map, hgreedy.eq_freshPositions]
  · rintro rfl
    exact ⟨freshPositions xs, greedy_freshPositions xs, (dedupe_eq_map xs).symm⟩

end Issue

end ReviewPanel
