import Mathlib.Data.List.Induction
import Mathlib.Data.Nat.Digits.Defs
import Mathlib.Tactic.Ring
import ReviewPanel.Text.Ascii
import ReviewPanel.Text.Count

/-! # Spelled words and counts

A word is spelled in any case of its ASCII letters. A count below `2 ^ 64` is spelled in decimal digits, perhaps
behind a plus sign. -/
namespace ReviewPanel.Text

/-- A word without capital letters is compared by putting the other text in lower case. -/
theorem sameIgnoringCase_iff {word : String} (lower : asciiLower word = word) (text : String) :
    sameIgnoringCase word text = true ↔ asciiLower text = word := by
  rw [sameIgnoringCase, beq_iff_eq, eq_comm]
  conv_rhs => rw [← lower]
  rw [asciiLower, asciiLower, String.ofList_inj]

/-- Decimal digits, the first of them the greatest, that stand for a count below `2 ^ 64`. -/
structure AreDigits (digits : List Char) (n : ℕ) : Prop where
  nonempty : digits ≠ []
  isDigit : ∀ c ∈ digits, c.isDigit = true
  value_eq : Nat.ofDigits 10 (digits.reverse.map fun c => c.toNat - 48) = n
  lt : n < 2 ^ 64

/-- The text spells a count: digits, perhaps behind a plus sign. -/
def SpellsCount (cs : List Char) (n : ℕ) : Prop :=
  ∃ digits, (cs = digits ∨ cs = '+' :: digits) ∧ AreDigits digits n

theorem digitsValue_eq_ofDigits (digits : List Char) :
    digitsValue digits = Nat.ofDigits 10 (digits.reverse.map fun c => c.toNat - 48) := by
  induction digits using List.reverseRecOn with
  | nil => rfl
  | append_singleton digits c ih =>
    have hstep : digitsValue (digits ++ [c]) = digitsValue digits * 10 + (c.toNat - 48) := by
      rw [digitsValue, List.foldl_append]
      rfl
    rw [hstep, ih, List.reverse_concat, List.map_cons, Nat.ofDigits_cons]
    ring

/-- What follows a plus sign, if the text begins with one. -/
def unsigned (cs : List Char) : List Char :=
  match cs with
  | '+' :: rest => rest
  | _ => cs

/-- No digits begin with a plus sign. -/
theorem spellsCount_iff {cs : List Char} {n : ℕ} : SpellsCount cs n ↔ AreDigits (unsigned cs) n := by
  fun_cases unsigned cs with
  | case1 rest =>
    constructor
    · rintro ⟨digits, rfl | hcons, h⟩
      · exact absurd (h.isDigit '+' List.mem_cons_self) (by decide)
      · exact (List.cons.inj hcons).2 ▸ h
    · intro h
      exact ⟨rest, .inr rfl, h⟩
  | case2 _ hcs =>
    constructor
    · rintro ⟨digits, rfl | hcons, h⟩
      · exact h
      · exact absurd hcons (hcs digits)
    · intro h
      exact ⟨cs, .inl rfl, h⟩

theorem count?_eq_some_iff {cs : List Char} {n : ℕ} : count? cs = some n ↔ SpellsCount cs n := by
  have hcount : count? cs = if !(unsigned cs).isEmpty && (unsigned cs).all Char.isDigit &&
      digitsValue (unsigned cs) < Nat.pow 2 64 then some (digitsValue (unsigned cs)) else none := rfl
  rw [hcount, spellsCount_iff, Option.ite_none_right_eq_some, digitsValue_eq_ofDigits]
  simp only [Bool.and_eq_true, Bool.not_eq_true', List.isEmpty_eq_false_iff, List.all_eq_true, decide_eq_true_eq,
    Option.some.injEq]
  constructor
  · rintro ⟨⟨⟨nonempty, isDigit⟩, lt⟩, rfl⟩
    exact ⟨nonempty, isDigit, rfl, lt⟩
  · rintro ⟨nonempty, isDigit, rfl, lt⟩
    exact ⟨⟨⟨nonempty, isDigit⟩, lt⟩, rfl⟩

end ReviewPanel.Text
