import ReviewPanel.Proofs.Event.Instants

/-! # The times of a clock are regular

A count of milliseconds leads to a day of the calendar. The days of 400 years fall into centuries, these into
runs of four years, and these into years; only the last part of each may be a day longer. -/
namespace ReviewPanel.Instant

/-- The `n`-th day of 400 years, as the `day`-th day of a year: `century`, `olympiad` and `year` count the
centuries, the runs of four years and the years in front of it. -/
structure DayOfCycle (n century olympiad year day : Nat) : Prop where
  sum : n = 36524 * century + 1461 * olympiad + 365 * year + day
  century_le : century ≤ 3
  olympiad_le : olympiad ≤ 24
  year_le : year ≤ 3
  day_le : day ≤ 365
  /-- Only the last of four years has a leap day. -/
  leap : day = 365 → year = 3
  /-- The last year of a century has one only at the end of the 400 years. -/
  secular : olympiad = 24 → day = 365 → century = 3

theorem exists_dayOfCycle {n : Nat} (h : n < 146097) :
    ∃ century olympiad year day, DayOfCycle n century olympiad year day := by
  generalize hcentury : min (n / 36524) 3 = century
  obtain ⟨r, hr⟩ : ∃ r, n = 36524 * century + r := ⟨n - 36524 * century, by omega⟩
  have hrest : r ≤ 36524 ∧ century ≤ 3 ∧ (r = 36524 → century = 3) := by omega
  have holympiad : r / 1461 ≤ 24 := by omega
  generalize hyear : min (r % 1461 / 365) 3 = year
  obtain ⟨day, hday⟩ : ∃ day, r % 1461 = 365 * year + day := ⟨r % 1461 - 365 * year, by omega⟩
  have hsum : r = 1461 * (r / 1461) + 365 * year + day := by omega
  have hfour : r % 1461 < 1461 := Nat.mod_lt r (by omega)
  generalize r / 1461 = olympiad at hsum holympiad
  generalize r % 1461 = t at *
  exact ⟨century, olympiad, year, day, by omega, by omega, by omega, by omega, by omega, by omega, by omega⟩

namespace DayOfCycle

variable {n century olympiad year day : Nat}

/-- Without their leap days all years have 365 days. -/
theorem years_eq (h : DayOfCycle n century olympiad year day) :
    (n - n / 1460 + n / 36524 - n / 146096) / 365 = 100 * century + 4 * olympiad + year := by
  obtain ⟨hsum, hcentury, holympiad, hyear, hday, hleap, hsecular⟩ := h
  obtain ⟨late, hlate, hfours⟩ : ∃ late, (late ≤ day ∧ day < late + 365) ∧
      n / 1460 = 25 * century + olympiad + late := by
    by_cases hlate : 1460 ≤ 24 * century + olympiad + 365 * year + day
    · exact ⟨1, by omega, by omega⟩
    · exact ⟨0, by omega, by omega⟩
  obtain ⟨last, hcenturies, hend⟩ : ∃ last, n / 36524 = century + last ∧ n / 146096 = last := by
    by_cases hlast : olympiad = 24 ∧ day = 365
    · exact ⟨1, by omega, by omega⟩
    · exact ⟨0, by omega, by omega⟩
  have hdays : n - n / 1460 + n / 36524 - n / 146096 =
      365 * (100 * century + 4 * olympiad + year) + (day - late) := by
    rw [hfours, hcenturies, hend]
    clear hfours hcenturies hend hleap hsecular
    omega
  have hless : day - late < 365 := Nat.sub_lt_left_of_lt_add hlate.1 hlate.2
  rw [hdays, Nat.mul_add_div (Nat.succ_pos 364), Nat.div_eq_of_lt hless, Nat.add_zero]

theorem day_eq (h : DayOfCycle n century olympiad year day) {y : Nat}
    (hy : y = 100 * century + 4 * olympiad + year) : n - (365 * y + y / 4 - y / 100) = day := by
  obtain ⟨hsum, hcentury, holympiad, hyear, hday, hleap, hsecular⟩ := h
  have hfour : y / 4 = 25 * century + olympiad := by omega
  have hhundred : y / 100 = century := by omega
  omega

end DayOfCycle

/-- The month of the `day`-th day from the first of March, and the day of that month. -/
def monthOf (day : Nat) : Nat :=
  if (5 * day + 2) / 153 < 10 then (5 * day + 2) / 153 + 3 else (5 * day + 2) / 153 - 9

def dayOfMonth (day : Nat) : Nat := day - (153 * ((5 * day + 2) / 153) + 2) / 5 + 1

/-- Only the last day of a year from the first of March is the leap day. -/
theorem dayOfMonth_le {day : Nat} (h : day ≤ 365) :
    (1 ≤ monthOf day ∧ monthOf day ≤ 12) ∧ 1 ≤ dayOfMonth day ∧
      (dayOfMonth day ≤ daysIn 1 (monthOf day) ∨ day = 365 ∧ monthOf day = 2 ∧ dayOfMonth day = 29) := by
  have hall : ∀ day < 366, (1 ≤ monthOf day ∧ monthOf day ≤ 12) ∧ 1 ≤ dayOfMonth day ∧
      (dayOfMonth day ≤ daysIn 1 (monthOf day) ∨ day = 365 ∧ monthOf day = 2 ∧ dayOfMonth day = 29) := by
    decide +kernel
  exact hall day (Nat.lt_succ_of_le h)

theorem daysIn_one_le (year : Int) (month : Nat) : daysIn 1 month ≤ daysIn year month := by
  have hone : isLeap 1 = false := rfl
  simp only [daysIn, hone]
  split
  · cases isLeap year <;> decide
  · exact Nat.le_refl _

theorem ofDays_eq {days century olympiad year day : Nat}
    (h : DayOfCycle ((days + 719468) % 146097) century olympiad year day) {years : Nat}
    (hyears : years = 100 * century + 4 * olympiad + year + (days + 719468) / 146097 * 400) :
    ofDays days =
      ⟨if monthOf day ≤ 2 then years + 1 else years, monthOf day, dayOfMonth day, 0, 0, 0, 0⟩ := by
  simp only [ofDays, h.years_eq, h.day_eq rfl, hyears]
  rfl

theorem regular_ofDays {days : Nat} (h : (ofDays days).year ≤ 9999) : (ofDays days).Regular := by
  have hcycle : (days + 719468) % 146097 < 146097 := Nat.mod_lt _ (by omega)
  obtain ⟨century, olympiad, year, day, hday⟩ := exists_dayOfCycle hcycle
  obtain ⟨years, hyears⟩ : ∃ years,
      years = 100 * century + 4 * olympiad + year + (days + 719468) / 146097 * 400 := ⟨_, rfl⟩
  obtain ⟨hmonth, hfirst, hlast⟩ := dayOfMonth_le hday.day_le
  rw [ofDays_eq hday hyears] at h ⊢
  constructor
  · refine ⟨?_, h⟩
    change (0 : Int) ≤ if monthOf day ≤ 2 then (years : Int) + 1 else years
    split <;> omega
  · exact hmonth
  · refine ⟨hfirst, ?_⟩
    rcases hlast with hlast | ⟨hleap, hfebruary, heq⟩
    · exact Nat.le_trans hlast (daysIn_one_le _ _)
    · have hyear := hday.leap hleap
      have hsecular := hday.secular
      have holympiad := hday.olympiad_le
      have hisLeap : isLeap ((years : Int) + 1) = true := by
        simp [isLeap]
        omega
      simp [hfebruary, heq, daysIn, hisLeap]
  · exact Nat.succ_pos _
  · exact Nat.succ_pos _
  · exact Nat.succ_pos _
  · exact .inl (Nat.succ_pos _)

theorem regular_ofMillis {ms : Nat} (h : (ofMillis ms).year ≤ 9999) : (ofMillis ms).Regular := by
  have hdays : (ofDays (ms / 86400000)).Regular := regular_ofDays h
  have hsecond : ms / 1000 % 86400 < 86400 := Nat.mod_lt _ (by omega)
  constructor
  · exact hdays.year
  · exact hdays.month
  · exact hdays.day
  · simp only [ofMillis, atSecond]
    omega
  · exact Nat.mod_lt _ (by omega)
  · exact Nat.mod_lt _ (by omega)
  · simp only [ofMillis, atSecond]
    omega

end ReviewPanel.Instant
