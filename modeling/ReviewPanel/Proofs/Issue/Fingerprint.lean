import Mathlib.Data.List.Basic
import ReviewPanel.Proofs.Issue.Representation
import ReviewPanel.Proofs.Text.Words

/-! # What a fingerprint tells of an issue

The text of which a fingerprint is taken is divided at its last two line feeds, whatever the path holds. So
it determines the normal path, the lines and the normal title, and issues that agree in these are duplicates
of each other. -/
namespace ReviewPanel

/-- A list is divided in one way only at the last place of an element. -/
theorem eq_and_eq_of_append_cons_eq {α : Type} {c : α} {xs ys as bs : List α} (has : c ∉ as) (hbs : c ∉ bs)
    (h : xs ++ c :: as = ys ++ c :: bs) : xs = ys ∧ as = bs := by
  rcases List.append_eq_append_iff.mp h with ⟨mid, rfl, hrest⟩ | ⟨mid, rfl, hrest⟩
  · cases mid with
    | nil => exact ⟨(List.append_nil xs).symm, (List.cons.inj hrest).2⟩
    | cons m mid =>
      have hmem : c ∈ as := by
        rw [(List.cons.inj hrest).2]
        exact List.mem_append_right _ List.mem_cons_self
      exact absurd hmem has
  · cases mid with
    | nil => exact ⟨List.append_nil ys, (List.cons.inj hrest).2.symm⟩
    | cons m mid =>
      have hmem : c ∈ bs := by
        rw [(List.cons.inj hrest).2]
        exact List.mem_append_right _ List.mem_cons_self
      exact absurd hmem hbs

namespace Sha256

/-- Some texts have different digests if they are different. -/
def CollisionFree (texts : List (List Char)) : Prop :=
  ∀ t ∈ texts, ∀ u ∈ texts, hexOfText t = hexOfText u → t = u

instance (texts : List (List Char)) : Decidable (CollisionFree texts) :=
  inferInstanceAs (Decidable (∀ t ∈ texts, ∀ u ∈ texts, hexOfText t = hexOfText u → t = u))

end Sha256

namespace Issue

theorem newline_notMem_normalizedTitle (i : Issue) : '\n' ∉ i.normalizedTitle.toList := by
  rw [normalizedTitle, String.toList_ofList]
  intro h
  rcases Text.mem_unwords h with hblank | ⟨w, hw, hmem⟩
  · exact absurd hblank (by decide)
  · exact absurd (Text.mem_words hw hmem).2 (by decide)

theorem notMem_toDigits {c : Char} (hc : c.isDigit = false) (n : Nat) : c ∉ Nat.toDigits 10 n := by
  intro h
  rw [Nat.isDigit_of_mem_toDigits (by decide) (by decide) h] at hc
  cases hc

theorem newline_notMem_writeRange (range : Option (UInt32 × UInt32)) : '\n' ∉ writeRange range := by
  cases range with
  | none => exact List.not_mem_nil
  | some bounds =>
    rw [writeRange, List.mem_append, List.mem_cons, not_or, not_or]
    exact ⟨notMem_toDigits rfl _, by decide, notMem_toDigits rfl _⟩

theorem toDigits_toNat_injective : Function.Injective fun n : UInt32 => Nat.toDigits 10 n.toNat := by
  intro m n h
  have hvalue := congrArg (Nat.ofDigitChars 10 · 0) h
  simp only [Nat.ofDigitChars_ten_toDigits] at hvalue
  exact UInt32.toNat_inj.mp hvalue

theorem writeRange_injective : Function.Injective writeRange := by
  rintro (_ | ⟨lo, hi⟩) (_ | ⟨lo', hi'⟩) h
  · rfl
  · exact absurd h.symm (List.append_ne_nil_of_right_ne_nil _ (List.cons_ne_nil _ _))
  · exact absurd h (List.append_ne_nil_of_right_ne_nil _ (List.cons_ne_nil _ _))
  · obtain ⟨hlo, hhi⟩ := eq_and_eq_of_append_cons_eq (notMem_toDigits rfl _) (notMem_toDigits rfl _) h
    rw [toDigits_toNat_injective hlo, toDigits_toNat_injective hhi]

theorem fingerprintText_eq_iff {a b : Issue} :
    a.fingerprintText = b.fingerprintText ↔ Text.normalizePath a.file = Text.normalizePath b.file ∧
      a.lineRange = b.lineRange ∧ a.normalizedTitle = b.normalizedTitle := by
  constructor
  · intro h
    obtain ⟨hfront, htitle⟩ := eq_and_eq_of_append_cons_eq (newline_notMem_normalizedTitle a)
      (newline_notMem_normalizedTitle b) h
    obtain ⟨hpath, hrange⟩ := eq_and_eq_of_append_cons_eq (newline_notMem_writeRange _)
      (newline_notMem_writeRange _) hfront
    exact ⟨String.toList_inj.mp hpath, writeRange_injective hrange, String.toList_inj.mp htitle⟩
  · rintro ⟨hpath, hrange, htitle⟩
    rw [fingerprintText, fingerprintText, hpath, hrange, htitle]

/-- Deduplication is at least as coarse as the fingerprint. -/
theorem isDuplicate_of_fingerprintText_eq {a b : Issue} (h : a.fingerprintText = b.fingerprintText) :
    isDuplicate a b = true := by
  obtain ⟨hpath, hrange, htitle⟩ := fingerprintText_eq_iff.mp h
  exact isDuplicate_of_normal_eq hpath hrange htitle

theorem dedupe_pair_of_isDuplicate {a b : Issue} (h : isDuplicate a b = true) : dedupe [a, b] = [a] := by
  simp [dedupe, dedupeAfter, h]

theorem fingerprint_eq_iff {a b : Issue}
    (collisionFree : Sha256.CollisionFree [a.fingerprintText, b.fingerprintText]) :
    a.fingerprint = b.fingerprint ↔ a.fingerprintText = b.fingerprintText := by
  constructor
  · intro h
    exact collisionFree _ (by simp) _ (by simp) (String.ofList_inj.mp h)
  · intro h
    rw [fingerprint, fingerprint, h]

/-- The text whose digest is the fingerprint tells the normal path, the lines and the normal title apart, and
nothing else, whatever characters the path and the title hold. Of two issues with one such text the second
is removed as a duplicate. If the texts have different digests, so do the fingerprints. -/
theorem fingerprint_identifies (a b : Issue) :
    (a.fingerprintText = b.fingerprintText ↔ Text.normalizePath a.file = Text.normalizePath b.file ∧
      a.lineRange = b.lineRange ∧ a.normalizedTitle = b.normalizedTitle) ∧
    (a.fingerprintText = b.fingerprintText → dedupe [a, b] = [a]) ∧
    (Sha256.CollisionFree [a.fingerprintText, b.fingerprintText] →
      (a.fingerprint = b.fingerprint ↔ Text.normalizePath a.file = Text.normalizePath b.file ∧
        a.lineRange = b.lineRange ∧ a.normalizedTitle = b.normalizedTitle)) := by
  refine ⟨fingerprintText_eq_iff, ?_, ?_⟩
  · intro h
    exact dedupe_pair_of_isDuplicate (isDuplicate_of_fingerprintText_eq h)
  · intro collisionFree
    exact (fingerprint_eq_iff collisionFree).trans fingerprintText_eq_iff

/-- A path whose second line looks like a range of lines is not taken for one. -/
theorem fingerprint_identifies_of_broken_path :
    let a := (new .high "src/a.rs\n3-9" "Null deref!").withLines 9 3
    let b := (new .low " ./src/a.rs\n3-9" "null   DEREF").withLines 3 9
    let c := (new .high "src/a.rs" "Null deref!").withLines 3 9
    a.fingerprintText = b.fingerprintText ∧ dedupe [a, b] = [a] ∧
      Sha256.CollisionFree [a.fingerprintText, c.fingerprintText] ∧ a.fingerprint ≠ c.fingerprint := by
  intro a b c
  have htext : a.fingerprintText = b.fingerprintText := by decide +kernel
  have collisionFree : Sha256.CollisionFree [a.fingerprintText, c.fingerprintText] := by decide +kernel
  have hpath : Text.normalizePath a.file ≠ Text.normalizePath c.file := by decide +kernel
  refine ⟨htext, (fingerprint_identifies a b).2.1 htext, collisionFree, fun h => hpath ?_⟩
  exact (((fingerprint_identifies a c).2.2 collisionFree).mp h).1

end Issue

end ReviewPanel
