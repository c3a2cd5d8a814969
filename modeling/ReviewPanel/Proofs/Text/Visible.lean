import Mathlib.Tactic.IntervalCases
import ReviewPanel.Text.Hex
import ReviewPanel.Text.Lines

/-! # Texts without control characters

A text without control characters is one line, and lines that are ended by line feeds fall apart again. -/
namespace ReviewPanel.Text

/-- None of the characters is a control character of ASCII. -/
def Visible (cs : List Char) : Prop := ∀ c ∈ cs, 32 ≤ c.toNat

instance : DecidablePred Visible := fun cs => List.decidableBAll (fun c : Char => 32 ≤ c.toNat) cs

namespace Visible

variable {cs ds : List Char}

theorem nil : Visible [] := fun _ hc => absurd hc List.not_mem_nil

theorem cons {c : Char} (hc : 32 ≤ c.toNat) (hcs : Visible cs) : Visible (c :: cs) :=
  List.forall_mem_cons.mpr ⟨hc, hcs⟩

theorem append (hcs : Visible cs) (hds : Visible ds) : Visible (cs ++ ds) :=
  List.forall_mem_append.mpr ⟨hcs, hds⟩

theorem flatMap {α : Type} {xs : List α} {f : α → List Char} (h : ∀ x ∈ xs, Visible (f x)) :
    Visible (xs.flatMap f) := by
  intro c hc
  obtain ⟨x, hx, hc⟩ := List.mem_flatMap.mp hc
  exact h x hx c hc

theorem hexDigits (count n : Nat) : Visible (Text.hexDigits count n) := by
  induction count generalizing n with
  | zero => exact nil
  | succ count ih =>
    have hdigit : n % 16 < 16 := Nat.mod_lt n (by omega)
    have hlast : 32 ≤ (hexDigit (n % 16)).toNat := by
      generalize n % 16 = d at hdigit
      interval_cases d <;> decide
    exact (ih (n / 16)).append (cons hlast nil)

theorem unbroken (h : Visible cs) : '\n' ∉ cs ∧ '\r' ∉ cs :=
  ⟨fun hmem => absurd (h _ hmem) (by decide), fun hmem => absurd (h _ hmem) (by decide)⟩

end Visible

/-! ## Lines -/

theorem endedLine_reverse {cs : List Char} (h : '\r' ∉ cs) : endedLine cs.reverse = cs := by
  rw [endedLine]
  · exact List.reverse_reverse cs
  · intro rest hrest
    have hmem : '\r' ∈ cs.reverse := hrest ▸ List.mem_cons_self
    exact h (List.mem_reverse.mp hmem)

theorem linesFrom_append {cs : List Char} (h : '\n' ∉ cs) (read rest : List Char) :
    linesFrom read (cs ++ '\n' :: rest) = endedLine (cs.reverse ++ read) :: linesFrom [] rest := by
  induction cs generalizing read with
  | nil => rfl
  | cons c cs ih =>
    rw [List.mem_cons, not_or] at h
    rw [List.cons_append, linesFrom, if_neg (Ne.symm h.1), ih h.2, List.reverse_cons, List.append_assoc]
    rfl

theorem linesFrom_flatMap_ended {ls : List (List Char)} (h : ∀ l ∈ ls, '\n' ∉ l) :
    linesFrom [] (ls.flatMap (· ++ ['\n'])) = ls.map fun l => endedLine l.reverse := by
  induction ls with
  | nil => rfl
  | cons l rest ih =>
    rw [List.flatMap_cons, List.append_assoc]
    change linesFrom [] (l ++ '\n' :: rest.flatMap (· ++ ['\n'])) = _
    rw [linesFrom_append (h l List.mem_cons_self), List.append_nil, List.map_cons,
      ih fun m hm => h m (List.mem_cons_of_mem l hm)]

theorem linesFrom_flatMap {ls : List (List Char)} (h : ∀ l ∈ ls, '\n' ∉ l ∧ '\r' ∉ l) :
    linesFrom [] (ls.flatMap (· ++ ['\n'])) = ls := by
  rw [linesFrom_flatMap_ended fun l hl => (h l hl).1,
    List.map_congr_left fun l hl => endedLine_reverse (h l hl).2, List.map_id']

end ReviewPanel.Text
