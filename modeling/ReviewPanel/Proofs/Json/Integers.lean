import Mathlib.Tactic.IntervalCases
import ReviewPanel.Json.Printer
import ReviewPanel.Json.Reader
import ReviewPanel.Proofs.Text.Visible

/-! # Integers are read back

An integer that fits into 64 bits, with or without a sign, is read back from its decimal digits, whatever
may follow them in a JSON text. -/
namespace ReviewPanel.Json

/-- A text does not go on with what could be more of a number. -/
def Ends (rest : List Char) : Prop :=
  ∀ c ∈ rest.head?, c.isDigit = false ∧ c ≠ '.' ∧ c ≠ 'e' ∧ c ≠ 'E'

theorem ends_nil : Ends [] := by simp [Ends]

theorem ends_cons {c : Char} (h : c = ',' ∨ c = ']' ∨ c = '\x7d') (rest : List Char) : Ends (c :: rest) := by
  rcases h with rfl | rfl | rfl <;> simp [Ends]

/-- A number is read back from what is written of it, and no part of it is invisible. -/
structure Number.Returns (n : Number) : Prop where
  starts : ∃ c cs, writeNumber n = c :: cs ∧ (c = '-' ∨ c.isDigit = true)
  visible : Text.Visible (writeNumber n)
  reads : ∀ rest, Ends rest → ∃ token, readNumber (writeNumber n ++ rest) = some (token, rest) ∧
    token.number? = some n

section Digits

theorem isDigit_of_mem_writeNat {n : Nat} {c : Char} (h : c ∈ writeNat n) : c.isDigit = true :=
  Nat.isDigit_of_mem_toDigits (by omega) (by omega) h

theorem writeNat_ne_nil (n : Nat) : writeNat n ≠ [] := Nat.toDigits_ne_nil

/-- No number but zero itself begins with a zero. -/
theorem head?_writeNat_ne_zero {n : Nat} (h : 0 < n) : (writeNat n).head? ≠ some '0' := by
  induction n using Nat.strong_induction_on with
  | _ n ih =>
    rw [writeNat, Nat.toDigits_eq_if (by omega)]
    by_cases hn : n < 10
    · rw [if_pos hn]
      interval_cases n <;> decide
    · have hdiv : 0 < n / 10 := by omega
      have hhead := ih (n / 10) (by omega) hdiv
      obtain ⟨c, cs, hcs⟩ := List.exists_cons_of_ne_nil (writeNat_ne_nil (n / 10))
      rw [hcs] at hhead
      rw [if_neg hn]
      change ((writeNat (n / 10)) ++ _).head? ≠ some '0'
      rw [hcs]
      exact hhead

theorem length_writeNat_of_zero {n : Nat} (h : (writeNat n).head? = some '0') : (writeNat n).length = 1 := by
  cases n with
  | zero => rfl
  | succ n => exact absurd h (head?_writeNat_ne_zero (Nat.succ_pos n))

theorem foldl_digitValue (n : Nat) : (writeNat n).foldl (fun v c => v * 10 + digitValue c) 0 = n := by
  have hvalue : Nat.ofDigitChars 10 (Nat.toDigits 10 n) 0 = n := Nat.ofDigitChars_ten_toDigits
  rw [Nat.ofDigitChars_eq_foldl] at hvalue
  refine Eq.trans ?_ hvalue
  rw [writeNat]
  congr 1
  funext v c
  rw [Nat.mul_comm]
  rfl

theorem le_foldl_digitValue (v : Nat) (cs : List Char) :
    v ≤ cs.foldl (fun v c => v * 10 + digitValue c) v := by
  induction cs generalizing v with
  | nil => exact Nat.le_refl v
  | cons c rest ih =>
    have hrest := ih (v * 10 + digitValue c)
    rw [List.foldl_cons]
    omega

/-- All digits are taken when their value is in range. -/
theorem takeSignificand_eq {v : Nat} {cs : List Char}
    (h : cs.foldl (fun v c => v * 10 + digitValue c) v ≤ maxSignificand) :
    takeSignificand v cs = (cs.foldl (fun v c => v * 10 + digitValue c) v, []) := by
  induction cs generalizing v with
  | nil => rfl
  | cons c rest ih =>
    rw [List.foldl_cons] at h ⊢
    rw [takeSignificand, if_pos (Nat.le_trans (le_foldl_digitValue _ rest) h)]
    exact ih h

theorem takeSignificand_writeNat {n : Nat} (h : n ≤ maxSignificand) :
    takeSignificand 0 (writeNat n) = (n, []) := by
  have hvalue := foldl_digitValue n
  rw [takeSignificand_eq (hvalue.symm ▸ h), hvalue]

theorem takeWhile_writeNat (n : Nat) {rest : List Char} (h : Ends rest) :
    (writeNat n ++ rest).takeWhile Char.isDigit = writeNat n ∧
      (writeNat n ++ rest).dropWhile Char.isDigit = rest := by
  have hdigits : ∀ c ∈ writeNat n, c.isDigit = true := fun c hc => isDigit_of_mem_writeNat hc
  rw [List.takeWhile_append_of_pos hdigits, List.dropWhile_append_of_pos hdigits]
  cases rest with
  | nil => simp
  | cons c rest => simp [(h c rfl).1]

end Digits

theorem readFraction_of_ends {rest : List Char} (h : Ends rest) : readFraction rest = some (none, rest) := by
  cases rest with
  | nil => rfl
  | cons c rest =>
    rw [readFraction]
    rintro r ⟨⟩
    exact (h '.' rfl).2.1 rfl

theorem readExponent_of_ends {rest : List Char} (h : Ends rest) : readExponent rest = some (none, rest) := by
  cases rest with
  | nil => rfl
  | cons c rest =>
    obtain ⟨-, -, he, hE⟩ := h c rfl
    simp [readExponent, he, hE]

/-- The digits of a number are read as a token without fraction and exponent, after a sign or not. -/
theorem readNumber_writeNat (n : Nat) {rest : List Char} (h : Ends rest) :
    readNumber (writeNat n ++ rest) = some (⟨false, writeNat n, none, none⟩, rest) ∧
      readNumber ('-' :: (writeNat n ++ rest)) = some (⟨true, writeNat n, none, none⟩, rest) := by
  obtain ⟨htake, hdrop⟩ := takeWhile_writeNat n h
  have hsome : (writeNat n).isEmpty = false := List.isEmpty_eq_false_iff.mpr (writeNat_ne_nil n)
  have hlead : (writeNat n).head? = some '0' → (writeNat n).length = 1 := length_writeNat_of_zero
  have hunsigned : ∀ r, writeNat n ++ rest ≠ '-' :: r := by
    intro r hr
    obtain ⟨c, cs, hcs⟩ := List.exists_cons_of_ne_nil (writeNat_ne_nil n)
    rw [hcs, List.cons_append] at hr
    have hdigit := isDigit_of_mem_writeNat (hcs ▸ List.mem_cons_self : c ∈ writeNat n)
    rw [(List.cons.inj hr).1] at hdigit
    exact absurd hdigit (by decide)
  constructor
  · rw [readNumber]
    · simpa [htake, hdrop, hsome, readFraction_of_ends h, readExponent_of_ends h] using hlead
    · exact hunsigned
  · simpa [readNumber, htake, hdrop, hsome, readFraction_of_ends h, readExponent_of_ends h] using hlead

/-- An integer that has 64 bits, with a sign or without one. -/
def Number.IsWord : Number → Prop
  | .integer i => -(2 ^ 63) ≤ i ∧ i < 2 ^ 64
  | _ => False

theorem Number.IsWord.returns {n : Number} (h : n.IsWord) : n.Returns := by
  cases n with
  | single x => exact h.elim
  | double x => exact h.elim
  | integer i =>
    obtain ⟨hlow, hhigh⟩ := h
    have hvisible : Text.Visible (writeNat i.natAbs) := by
      intro c hc
      have hdigit := isDigit_of_mem_writeNat hc
      simp only [Char.isDigit, Bool.and_eq_true, decide_eq_true_eq] at hdigit
      exact Nat.le_trans (by decide) (Char.le_def.mp hdigit.1)
    have hsignificand : i.natAbs ≤ maxSignificand := by
      have hmax : maxSignificand = 18446744073709551615 := rfl
      omega
    by_cases hi : i < 0
    · have hwrite : writeNumber (.integer i) = '-' :: writeNat i.natAbs := by rw [writeNumber, if_pos hi]
      constructor
      · exact ⟨'-', _, hwrite, .inl rfl⟩
      · rw [hwrite]
        exact .cons (by decide) hvisible
      · intro rest hrest
        rw [hwrite]
        refine ⟨_, (readNumber_writeNat i.natAbs hrest).2, ?_⟩
        have hrange : ¬(i.natAbs = 0 ∨ Nat.pow 2 63 < i.natAbs) := by
          have hpow : Nat.pow 2 63 = 9223372036854775808 := rfl
          omega
        have hvalue : -(i.natAbs : Int) = i := by omega
        simp only [NumberToken.number?, takeSignificand_writeNat hsignificand, hrange, hvalue, ne_eq,
          not_true_eq_false, if_false, Bool.not_true, Bool.false_eq_true]
    · have hwrite : writeNumber (.integer i) = writeNat i.natAbs := by rw [writeNumber, if_neg hi]
      constructor
      · obtain ⟨c, cs, hcs⟩ := List.exists_cons_of_ne_nil (writeNat_ne_nil i.natAbs)
        exact ⟨c, cs, hwrite.trans hcs, .inr (isDigit_of_mem_writeNat (hcs ▸ List.mem_cons_self))⟩
      · rw [hwrite]
        exact hvisible
      · intro rest hrest
        rw [hwrite]
        refine ⟨_, (readNumber_writeNat i.natAbs hrest).1, ?_⟩
        have hvalue : (i.natAbs : Int) = i := by omega
        simp only [NumberToken.number?, takeSignificand_writeNat hsignificand, hvalue, ne_eq,
          not_true_eq_false, if_false, Bool.not_false, if_true]

end ReviewPanel.Json
