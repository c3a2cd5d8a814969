import Mathlib.Algebra.Group.Nat.Defs
import ReviewPanel.Instant

/-! # Points in time are read back

A point in time of the years 0 to 9999 is read back from what is written of it: each number has a fixed
number of digits, and what stands between them is neither a digit nor a blank. -/
namespace ReviewPanel.Instant

/-- A time of day on a day of the calendar, in a year of four digits. Only the last second of a minute may
be a leap second. -/
structure Regular (t : Instant) : Prop where
  year : 0 ≤ t.year ∧ t.year ≤ 9999
  month : 1 ≤ t.month ∧ t.month ≤ 12
  day : 1 ≤ t.day ∧ t.day ≤ daysIn t.year t.month
  hour : t.hour < 24
  minute : t.minute < 60
  second : t.second < 60
  nano : t.nano < 1000000000 ∨ t.second = 59 ∧ t.nano < 2000000000

/-! ## Digits -/

theorem digitChar_isDigit {d : Nat} (h : d < 10) : (Char.ofNat (48 + d)).isDigit = true := by
  revert d
  decide

theorem digitChar_value {d : Nat} (h : d < 10) : (Char.ofNat (48 + d)).toNat - 48 = d := by
  revert d
  decide

theorem length_digits (width n : Nat) : (digits width n).length = width := by
  induction width generalizing n with
  | zero => rfl
  | succ width ih => rw [digits, List.length_append, ih, List.length_singleton]

theorem isDigit_of_mem_digits {width n : Nat} {c : Char} (h : c ∈ digits width n) : c.isDigit = true := by
  induction width generalizing n with
  | zero => cases h
  | succ width ih =>
    rcases List.mem_append.mp h with h | h
    · exact ih h
    · rw [List.mem_singleton.mp h]
      exact digitChar_isDigit (Nat.mod_lt n (by omega))

theorem value_append_singleton (cs : List Char) (c : Char) :
    value (cs ++ [c]) = value cs * 10 + (c.toNat - 48) := by
  rw [value, List.foldl_append]
  rfl

/-- A number is the value of its digits if it has no more of them. -/
theorem value_digits {width n : Nat} (h : n < 10 ^ width) : value (digits width n) = n := by
  induction width generalizing n with
  | zero =>
    obtain rfl : n = 0 := by simpa using h
    rfl
  | succ width ih =>
    have hdiv : n / 10 < 10 ^ width := by
      rw [Nat.pow_succ] at h
      omega
    rw [digits, value_append_singleton, ih hdiv, digitChar_value (Nat.mod_lt n (by omega))]
    omega

theorem takeDigits_append {most : Nat} {ds rest : List Char} (hds : ∀ c ∈ ds, c.isDigit = true)
    (hlength : ds.length ≤ most) (hrest : ds.length = most ∨ ∀ c ∈ rest.head?, c.isDigit = false) :
    takeDigits most (ds ++ rest) = (ds, rest) := by
  induction ds generalizing most with
  | nil =>
    match most, rest, hrest with
    | 0, rest, _ => rfl
    | most + 1, [], _ => rfl
    | most + 1, c :: rest, .inr h => simp [takeDigits, h c rfl]
  | cons d ds ih =>
    match most, hlength with
    | most + 1, hlength =>
      have htail := ih (fun c hc => hds c (List.mem_cons_of_mem d hc)) (Nat.le_of_succ_le_succ hlength)
        (hrest.imp_left Nat.succ.inj)
      simp [takeDigits, hds d List.mem_cons_self, htail]

theorem readNumber_digits {most width n : Nat} {rest : List Char} (hwidth : 0 < width) (hmost : width ≤ most)
    (hrest : width = most ∨ ∀ c ∈ rest.head?, c.isDigit = false) (hn : n < 10 ^ width)
    (hrange : n < Nat.pow 2 63) : readNumber most (digits width n ++ rest) = .ok (n, rest) := by
  have hlength := length_digits width n
  have htake : takeDigits most (digits width n ++ rest) = (digits width n, rest) :=
    takeDigits_append (fun _ => isDigit_of_mem_digits) (hlength.symm ▸ hmost) (hlength.symm ▸ hrest)
  have hsome : (digits width n).isEmpty = false := by
    rw [List.isEmpty_eq_false_iff]
    exact List.ne_nil_of_length_pos (hlength.symm ▸ hwidth)
  obtain ⟨c, cs, hcs⟩ : ∃ c cs, digits width n ++ rest = c :: cs :=
    List.exists_cons_of_ne_nil (List.append_ne_nil_of_left_ne_nil (List.isEmpty_eq_false_iff.mp hsome) rest)
  rw [hcs] at htake ⊢
  simp only [readNumber, htake, hsome, value_digits hn, hrange, if_true, Bool.false_eq_true, if_false]

/-! ## Parts -/

theorem isBlank_of_isDigit {c : Char} (h : c.isDigit = true) : Text.isBlank c = false := by
  simp only [Char.isDigit, Bool.and_eq_true, decide_eq_true_eq] at h
  have hlow : 48 ≤ c.toNat := Char.le_def.mp h.1
  have hhigh : c.toNat ≤ 57 := Char.le_def.mp h.2
  simp [Text.isBlank, Text.blankRanges, Text.Ranges.contains]
  omega

theorem trimStart_cons {c : Char} (h : Text.isBlank c = false) (rest : List Char) :
    Text.trimStart (c :: rest) = c :: rest := by
  simp [Text.trimStart, h]

theorem trimStart_digits {width : Nat} (hwidth : 0 < width) (n : Nat) (rest : List Char) :
    Text.trimStart (digits width n ++ rest) = digits width n ++ rest := by
  obtain ⟨c, cs, hcs⟩ := List.exists_cons_of_length_pos (length_digits width n ▸ hwidth)
  have hdigit : c.isDigit = true := isDigit_of_mem_digits (hcs ▸ List.mem_cons_self)
  rw [hcs]
  exact trimStart_cons (isBlank_of_isDigit hdigit) _

theorem readField_digits {low high n : Nat} (hlow : low ≤ n) (hhigh : n ≤ high) (htwo : high < 100)
    (rest : List Char) : readField low high (digits 2 n ++ rest) = .ok (n, rest) := by
  have hrange : n < Nat.pow 2 63 := by
    have hpow : Nat.pow 2 63 = 9223372036854775808 := rfl
    omega
  have hread : readNumber 2 (digits 2 n ++ rest) = .ok (n, rest) :=
    readNumber_digits (by omega) (by omega) (.inl rfl) (by omega) hrange
  rw [readField, trimStart_digits (by omega), hread]
  exact if_pos ⟨hlow, hhigh⟩

theorem readMark_cons {mark : Char} (h : Text.isBlank mark = false) (rest : List Char) :
    readMark mark (mark :: rest) = .ok rest := by
  rw [readMark, trimStart_cons h]
  exact if_pos rfl

theorem readYear_writeYear {year : Int} (h : 0 ≤ year ∧ year ≤ 9999) (rest : List Char) :
    readYear (writeYear year ++ rest) = .ok (year, rest) := by
  have hread : readNumber 4 (digits 4 year.toNat ++ rest) = .ok (year.toNat, rest) := by
    have hpow : Nat.pow 2 63 = 9223372036854775808 := rfl
    exact readNumber_digits (by omega) (by omega) (.inl rfl) (by omega) (by omega)
  have hrange : -(Nat.pow 2 31 : Nat) ≤ year ∧ year < (Nat.pow 2 31 : Nat) := by
    have hpow : Nat.pow 2 31 = 2147483648 := rfl
    rw [hpow]
    omega
  have hfour : 0 < (digits 4 year.toNat).length := (length_digits 4 _).symm ▸ Nat.zero_lt_succ 3
  obtain ⟨c, cs, hcs⟩ := List.exists_cons_of_length_pos hfour
  have hdigit : c.isDigit = true := isDigit_of_mem_digits (hcs ▸ List.mem_cons_self)
  rw [writeYear, if_pos h, readYear, trimStart_digits (by omega)]
  rw [hcs, List.cons_append] at hread ⊢
  -- the bound is given a name, so that nobody counts down from it
  obtain ⟨bound, hbound⟩ : ∃ bound, Nat.pow 2 31 = bound := ⟨_, rfl⟩
  rw [hbound] at hrange ⊢
  have hminus : c ≠ '-' := by rintro rfl; exact absurd hdigit (by decide)
  have hplus : c ≠ '+' := by rintro rfl; exact absurd hdigit (by decide)
  simp only [hread, bind, Except.bind, Int.toNat_of_nonneg h.1]
  split
  · next heq => exact absurd (List.cons.inj heq).1 hminus
  · next heq => exact absurd (List.cons.inj heq).1 hplus
  · exact if_pos hrange

theorem readFraction_digits {width n : Nat} (hwidth : 0 < width) (hnine : width ≤ 9) (hn : n < 10 ^ width) :
    readFraction ('.' :: (digits width n ++ ['Z'])) = .ok (n * Nat.pow 10 (9 - width), ['Z']) := by
  have hrange : n < Nat.pow 2 63 := by
    have hpow : Nat.pow 2 63 = 9223372036854775808 := rfl
    have hle : 10 ^ width ≤ 10 ^ 9 := Nat.pow_le_pow_right (by omega) hnine
    omega
  have hread : readNumber 9 (digits width n ++ ['Z']) = .ok (n, ['Z']) :=
    readNumber_digits hwidth hnine (.inr (by simp)) hn hrange
  have hused : (digits width n ++ ['Z']).length - ['Z'].length = width := by
    rw [List.length_append, length_digits, Nat.add_sub_cancel]
  simp only [readFraction, hread, bind, Except.bind, hused]
  rfl

theorem readFraction_writeFraction {nano : Nat} (h : nano < 1000000000) :
    readFraction (writeFraction nano ++ ['Z']) = .ok (nano, ['Z']) := by
  rw [writeFraction]
  split
  · next hzero => rw [hzero]; rfl
  split
  · next hmillis =>
    have hpow : nano / 1000000 * Nat.pow 10 (9 - 3) = nano := by
      change nano / 1000000 * 1000000 = nano
      omega
    rw [List.cons_append, readFraction_digits (by omega) (by omega) (by omega), hpow]
  split
  · next hmicros =>
    have hpow : nano / 1000 * Nat.pow 10 (9 - 6) = nano := by
      change nano / 1000 * 1000 = nano
      omega
    rw [List.cons_append, readFraction_digits (by omega) (by omega) (by omega), hpow]
  · have hpow : nano * Nat.pow 10 (9 - 9) = nano := Nat.mul_one nano
    rw [List.cons_append, readFraction_digits (by omega) (by omega) (by omega), hpow]

theorem toUniversal_zero {t : Instant} (h : t.Regular) : t.toUniversal 0 = t := by
  have hhour := h.hour
  have hminute := h.minute
  have hsecond := h.second
  have hnotearly : ¬((t.hour * 3600 + t.minute * 60 + t.second : Nat) : Int) - 0 < 0 := by omega
  have hnotlate : ¬86400 ≤ ((t.hour * 3600 + t.minute * 60 + t.second : Nat) : Int) - 0 := by omega
  rw [toUniversal, if_neg hnotearly, if_neg hnotlate, Int.sub_zero, Int.toNat_natCast, atSecond]
  have hh : (t.hour * 3600 + t.minute * 60 + t.second) / 3600 = t.hour := by omega
  have hm : (t.hour * 3600 + t.minute * 60 + t.second) / 60 % 60 = t.minute := by omega
  have hs : (t.hour * 3600 + t.minute * 60 + t.second) % 60 = t.second := by omega
  rw [hh, hm, hs]

/-- A leap second is written as the second 60. -/
theorem write_eq {t : Instant} (h : t.Regular) : ∃ second nano, second ≤ 60 ∧ nano < 1000000000 ∧
    t.write = writeYear t.year ++ '-' :: (digits 2 t.month ++ '-' :: (digits 2 t.day ++ 'T' ::
      (digits 2 t.hour ++ ':' :: (digits 2 t.minute ++ ':' :: (digits 2 second ++
        (writeFraction nano ++ ['Z'])))))) ∧
    t.second = (if second = 60 then 59 else second) ∧
    t.nano = (if second = 60 then nano + 1000000000 else nano) := by
  have hsecond := h.second
  by_cases hleap : 1000000000 ≤ t.nano
  · obtain ⟨hlast, hnano⟩ := h.nano.resolve_left (by omega)
    refine ⟨60, t.nano - 1000000000, by omega, by omega, ?_, hlast, ?_⟩
    · simp [write, hleap, hlast]
    · rw [if_pos rfl]
      omega
  · have hne : t.second ≠ 60 := by omega
    refine ⟨t.second, t.nano, by omega, by omega, ?_, (if_neg hne).symm, (if_neg hne).symm⟩
    simp [write, hleap]

theorem daysIn_le (year : Int) (month : Nat) : daysIn year month ≤ 31 := by
  unfold daysIn
  split <;> (try split) <;> omega

theorem parse_write {t : Instant} (h : t.Regular) : parse (String.ofList t.write) = .ok t := by
  obtain ⟨second, nano, hsixty, hfraction, hwrite, hsecond, hnano⟩ := write_eq h
  have hdays : t.day ≤ 31 := Nat.le_trans h.day.2 (daysIn_le t.year t.month)
  have hrange : yearInRange t.year = true := by
    have hyear := h.year
    simp [yearInRange]
    omega
  have hdash (rest : List Char) : readMark '-' ('-' :: rest) = .ok rest := readMark_cons (by decide) rest
  have hcolon (rest : List Char) : readMark ':' (':' :: rest) = .ok rest := readMark_cons (by decide) rest
  have hseparator (rest : List Char) : readSeparator ('T' :: rest) = .ok rest := rfl
  have hzone : readZone (Text.trimStart ['Z']) = .ok (0, []) := rfl
  have hend : (Text.trimStart []).isEmpty = true := rfl
  rw [parse, String.toList_ofList, hwrite, readYear_writeYear h.year]
  simp only [bind, Except.bind, hdash, hcolon, hseparator, hzone, hend,
    readField_digits h.month.1 h.month.2 (by omega), readField_digits h.day.1 hdays (by omega),
    readField_digits (Nat.zero_le _) (Nat.le_of_lt_succ h.hour) (by omega),
    readField_digits (Nat.zero_le _) (Nat.le_of_lt_succ h.minute) (by omega),
    readField_digits (Nat.zero_le _) hsixty (by omega), readFraction_writeFraction hfraction,
    ← hsecond, ← hnano, hrange, h.day.2, toUniversal_zero h]
  rfl

end ReviewPanel.Instant
