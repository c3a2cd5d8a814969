import Mathlib.Data.List.Basic
import ReviewPanel.Text.Lower

/-! # What is in lower case stays

Lowering a lowered text changes nothing. The runs of the case table lead to no code point that a run begins from, the
two characters of the lowered dotted I are in lower case, and so are both small sigmas: so no character of a lowered
text is lowered once more, whatever stands around it. -/
namespace ReviewPanel.Text

namespace CaseRun

def lastImage (r : CaseRun) : Nat := r.image + (r.last - r.first)

/-- The images of one run are behind the code points of another, or they fall between those of every second place. -/
def passes (r s : CaseRun) : Bool :=
  s.last < r.image || (s.step = 2 && (r.step = 2 || r.first = r.last) && (r.image + s.first) % 2 = 1)

/-- No code point of the runs, which are in ascending order, is an image of the run. -/
def misses (r : CaseRun) : List CaseRun → Bool
  | [] => true
  | s :: rest => if r.lastImage < s.first then true else r.passes s && misses r rest

/-- The images of a run are characters, and none of them is the dotted I. -/
def leadsToChars (r : CaseRun) : Bool :=
  (r.lastImage < 0xD800 || (0xDFFF < r.image && r.lastImage < 0x110000)) &&
    (r.lastImage < 0x130 || 0x130 < r.image)

/-- Where a run leads from a code point. -/
structure Leads (r : CaseRun) (n m : Nat) : Prop where
  first_le : r.first ≤ n
  le_last : n ≤ r.last
  step_dvd : (n - r.first) % r.step = 0
  image_eq : m = r.image + (n - r.first)

variable {r s : CaseRun} {n m : Nat}

theorem lower?_eq_some_iff : r.lower? n = some m ↔ r.Leads n m := by
  rw [lower?, Option.ite_none_right_eq_some, Option.some_inj]
  constructor
  · rintro ⟨⟨first_le, le_last, step_dvd⟩, image_eq⟩
    exact ⟨first_le, le_last, step_dvd, image_eq.symm⟩
  · rintro ⟨first_le, le_last, step_dvd, image_eq⟩
    exact ⟨⟨first_le, le_last, step_dvd⟩, image_eq.symm⟩

theorem Leads.bounds (h : r.Leads n m) : r.image ≤ m ∧ m ≤ r.lastImage := by
  obtain ⟨first_le, le_last, -, rfl⟩ := h
  rw [lastImage]
  omega

theorem Leads.lower?_eq_none (h : r.Leads n m) (passes : r.passes s = true) : s.lower? m = none := by
  have himage := h.bounds.1
  rw [Option.eq_none_iff_forall_ne_some]
  intro k hk
  have hleads := lower?_eq_some_iff.mp hk
  have hbehind := hleads.le_last
  simp only [CaseRun.passes, Bool.or_eq_true, Bool.and_eq_true, decide_eq_true_eq] at passes
  rcases passes with hahead | ⟨⟨htwo, hpairs⟩, hodd⟩
  · omega
  · obtain ⟨hfirst, hlast, hstep, rfl⟩ := h
    obtain ⟨hfirst', -, hstep', -⟩ := hleads
    rw [htwo] at hstep'
    rcases hpairs with htwo' | hone
    · rw [htwo'] at hstep
      omega
    · omega

theorem Leads.lowerCode_eq_none (h : r.Leads n m) {runs : List CaseRun} (misses : r.misses runs = true) :
    lowerCode runs m = none := by
  induction runs with
  | nil => rfl
  | cons s rest ih =>
    rw [lowerCode]
    rw [CaseRun.misses] at misses
    split at misses
    · next hbelow => rw [if_pos (Nat.lt_of_le_of_lt h.bounds.2 hbelow)]
    · obtain ⟨hpasses, hrest⟩ := Bool.and_eq_true_iff.mp misses
      rw [h.lower?_eq_none hpasses, ih hrest]
      exact ite_self none

theorem Leads.isValidChar (h : r.Leads n m) (leads : r.leadsToChars = true) : m.isValidChar ∧ m ≠ 0x130 := by
  obtain ⟨himage, hlast⟩ := h.bounds
  simp only [leadsToChars, Bool.or_eq_true, Bool.and_eq_true, decide_eq_true_eq] at leads
  rw [Nat.isValidChar]
  omega

end CaseRun

theorem exists_leads_of_lowerCode {runs : List CaseRun} {n m : Nat} (h : lowerCode runs n = some m) :
    ∃ r ∈ runs, r.Leads n m := by
  induction runs with
  | nil => exact absurd h (Option.some_ne_none m).symm
  | cons r rest ih =>
    rw [lowerCode] at h
    split at h
    · exact absurd h (Option.some_ne_none m).symm
    · split at h
      · next k hk => exact ⟨r, List.mem_cons_self, CaseRun.lower?_eq_some_iff.mp (hk.trans h)⟩
      · obtain ⟨s, hs, hleads⟩ := ih h
        exact ⟨s, List.mem_cons_of_mem r hs, hleads⟩

theorem caseRuns_miss : (caseRuns.all fun r => r.misses caseRuns) = true := by decide +kernel

theorem caseRuns_leadToChars : (caseRuns.all fun r => r.leadsToChars) = true := by decide +kernel

/-- A code point that others are lowered to is a character, and is not lowered itself. -/
theorem lowerCode_of_lowered {n m : Nat} (h : lowerCode caseRuns n = some m) :
    lowerCode caseRuns m = none ∧ m.isValidChar ∧ m ≠ 0x130 := by
  obtain ⟨r, hr, hleads⟩ := exists_leads_of_lowerCode h
  have hmisses := List.all_eq_true.mp caseRuns_miss r hr
  have hchars := List.all_eq_true.mp caseRuns_leadToChars r hr
  exact ⟨hleads.lowerCode_eq_none hmisses, hleads.isValidChar hchars⟩

/-- The character is left as it is by lowering, wherever it stands. -/
structure IsLow (c : Char) : Prop where
  code : lowerCode caseRuns c.toNat = none
  undotted : c.toNat ≠ 0x130

instance (c : Char) : Decidable (IsLow c) :=
  decidable_of_iff (lowerCode caseRuns c.toNat = none ∧ c.toNat ≠ 0x130)
    ⟨fun h => ⟨h.1, h.2⟩, fun h => ⟨h.code, h.undotted⟩⟩

theorem IsLow.lowerChar_eq {c : Char} (h : IsLow c) : lowerChar c = [c] := by
  rw [lowerChar, if_neg h.undotted, h.code]

theorem IsLow.ne_sigma {c : Char} (h : IsLow c) : c.toNat ≠ 0x3A3 := by
  intro hsigma
  have hcode := h.code
  rw [hsigma] at hcode
  exact absurd hcode (by decide +kernel)

theorem isLow_of_mem_lowerChar {c d : Char} (h : d ∈ lowerChar c) : IsLow d := by
  rw [lowerChar] at h
  split at h
  · rcases List.mem_pair.mp h with rfl | rfl <;> decide +kernel
  · next hdotted =>
    split at h
    · next m hm =>
      obtain ⟨hcode, hvalid, hne⟩ := lowerCode_of_lowered hm
      have hnat : (Char.ofNat m).toNat = m := by
        rw [Char.ofNat, dif_pos hvalid]
        rfl
      rw [List.mem_singleton.mp h]
      exact ⟨hnat.symm ▸ hcode, hnat.symm ▸ hne⟩
    · next hnone =>
      rw [List.mem_singleton.mp h]
      exact ⟨hnone, hdotted⟩

theorem isLow_of_mem_lowerAfter {before cs : List Char} {d : Char} (h : d ∈ lowerAfter before cs) : IsLow d := by
  induction cs generalizing before with
  | nil => cases h
  | cons c rest ih =>
    rw [lowerAfter] at h
    rcases List.mem_append.mp h with h | h
    · split at h
      · -- A capital sigma becomes one of the two small ones.
        split at h <;> rw [List.mem_singleton.mp h] <;> decide +kernel
      · exact isLow_of_mem_lowerChar h
    · exact ih h

theorem isLow_of_mem_lower {cs : List Char} {d : Char} (h : d ∈ lower cs) : IsLow d := isLow_of_mem_lowerAfter h

theorem lowerAfter_of_isLow {cs : List Char} (h : ∀ c ∈ cs, IsLow c) (before : List Char) :
    lowerAfter before cs = cs := by
  induction cs generalizing before with
  | nil => rfl
  | cons c rest ih =>
    have hc := h c List.mem_cons_self
    rw [lowerAfter, if_neg hc.ne_sigma, hc.lowerChar_eq, ih fun d hd => h d (List.mem_cons_of_mem c hd)]
    rfl

/-- A text in lower case is left as it is. -/
theorem lower_of_isLow {cs : List Char} (h : ∀ c ∈ cs, IsLow c) : lower cs = cs := lowerAfter_of_isLow h []

end ReviewPanel.Text
