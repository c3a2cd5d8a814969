import Mathlib.Algebra.Group.Nat.Defs
import ReviewPanel.Log.Metrics

/-! # Tallies

A tally says how often things happen in a piece of work, in numbers without a bound. The counters show the
tally of all the work since they were reset, as far as 64 bits can. -/
namespace ReviewPanel

/-- How often things happen. -/
@[ext] structure Tally where
  reviews : Nat := 0
  succeeded : Nat := 0
  failed : Nat := 0
  skipped : Nat := 0
  reported : Nat := 0
  malformed : Nat := 0
  events : Nat := 0
deriving Repr, DecidableEq

namespace Tally

instance : Add Tally where
  add t u :=
    { reviews := t.reviews + u.reviews
      succeeded := t.succeeded + u.succeeded
      failed := t.failed + u.failed
      skipped := t.skipped + u.skipped
      reported := t.reported + u.reported
      malformed := t.malformed + u.malformed
      events := t.events + u.events }

variable (t u : Tally)

@[simp] theorem reviews_add : (t + u).reviews = t.reviews + u.reviews := rfl

@[simp] theorem succeeded_add : (t + u).succeeded = t.succeeded + u.succeeded := rfl

@[simp] theorem failed_add : (t + u).failed = t.failed + u.failed := rfl

@[simp] theorem skipped_add : (t + u).skipped = t.skipped + u.skipped := rfl

@[simp] theorem reported_add : (t + u).reported = t.reported + u.reported := rfl

@[simp] theorem malformed_add : (t + u).malformed = t.malformed + u.malformed := rfl

@[simp] theorem events_add : (t + u).events = t.events + u.events := rfl

/-- The numbers, in the order of the counters. -/
def toList : List Nat :=
  [t.reviews, t.succeeded, t.failed, t.skipped, t.reported, t.malformed, t.events]

end Tally

namespace Metrics

/-- The counters after some more work. -/
def plus (m : Metrics) (t : Tally) : Metrics where
  reviewsStarted := m.reviewsStarted + UInt64.ofNat t.reviews
  lensesSucceeded := m.lensesSucceeded + UInt64.ofNat t.succeeded
  lensesFailed := m.lensesFailed + UInt64.ofNat t.failed
  lensesSkipped := m.lensesSkipped + UInt64.ofNat t.skipped
  issuesReported := m.issuesReported + UInt64.ofNat t.reported
  issuesMalformed := m.issuesMalformed + UInt64.ofNat t.malformed
  eventsEmitted := m.eventsEmitted + UInt64.ofNat t.events

@[simp] theorem plus_zero (m : Metrics) : m.plus {} = m := by
  simp [plus]

theorem plus_plus (m : Metrics) (t u : Tally) : (m.plus t).plus u = m.plus (t + u) := by
  simp [plus, UInt64.ofNat_add, UInt64.add_assoc]

theorem addReview_eq (m : Metrics) : m.addReview = m.plus { reviews := 1 } := by
  simp [addReview, plus]

theorem addSuccess_eq (m : Metrics) : m.addSuccess = m.plus { succeeded := 1 } := by
  simp [addSuccess, plus]

theorem addFailure_eq (m : Metrics) : m.addFailure = m.plus { failed := 1 } := by
  simp [addFailure, plus]

theorem addSkipped_eq (m : Metrics) : m.addSkipped = m.plus { skipped := 1 } := by
  simp [addSkipped, plus]

theorem addReported_eq (m : Metrics) (n : Nat) :
    m.addReported (UInt64.ofNat n) = m.plus { reported := n } := by
  simp [addReported, plus]

theorem addMalformed_eq (m : Metrics) (n : Nat) :
    m.addMalformed (UInt64.ofNat n) = m.plus { malformed := n } := by
  simp [addMalformed, plus]

theorem addEvent_eq (m : Metrics) : m.addEvent = m.plus { events := 1 } := by
  simp [addEvent, plus]

/-- A counter that was reset shows the number of times that something has happened since, unless it has passed
its end. -/
theorem toNat_toList_plus (t : Tally) :
    (zero.plus t).toList.map UInt64.toNat = t.toList.map (· % 2 ^ 64) := by
  simp [zero, plus, toList, Tally.toList]

end Metrics

end ReviewPanel
