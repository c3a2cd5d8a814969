/-! # Waiting

Nobody waits for longer than thirty years. -/
namespace ReviewPanel

def longestWait : Nat := 30 * 365 * 24 * 60 * 60 * 1000

/-- The milliseconds that pass for someone who means to wait for `ms`. -/
def waitFor (ms : Nat) : Nat := min ms longestWait

/-- A wait that is not too long is as long as it was meant to be. -/
theorem waitFor_of_le {ms : Nat} (h : ms ≤ longestWait) : waitFor ms = ms := Nat.min_eq_left h

theorem waitFor_le (ms : Nat) : waitFor ms ≤ longestWait := Nat.min_le_right _ _

@[simp] theorem waitFor_eq_zero {ms : Nat} : waitFor ms = 0 ↔ ms = 0 := by
  simp only [waitFor, longestWait]
  omega

end ReviewPanel
