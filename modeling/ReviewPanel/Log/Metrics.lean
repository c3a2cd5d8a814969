/-! # Counters

How often things have happened since the counters were last reset. A counter that passes the greatest
64-bit number starts again at zero. -/
namespace ReviewPanel

/-- The counters. -/
structure Metrics where
  reviewsStarted : UInt64
  lensesSucceeded : UInt64
  lensesFailed : UInt64
  /-- Lenses that were never started. -/
  lensesSkipped : UInt64
  issuesReported : UInt64
  issuesMalformed : UInt64
  eventsEmitted : UInt64
deriving Repr, DecidableEq, BEq, Inhabited

namespace Metrics

def zero : Metrics := ⟨0, 0, 0, 0, 0, 0, 0⟩

def addReview (m : Metrics) : Metrics := { m with reviewsStarted := m.reviewsStarted + 1 }

def addSuccess (m : Metrics) : Metrics := { m with lensesSucceeded := m.lensesSucceeded + 1 }

def addFailure (m : Metrics) : Metrics := { m with lensesFailed := m.lensesFailed + 1 }

def addSkipped (m : Metrics) : Metrics := { m with lensesSkipped := m.lensesSkipped + 1 }

def addReported (m : Metrics) (count : UInt64) : Metrics :=
  { m with issuesReported := m.issuesReported + count }

def addMalformed (m : Metrics) (count : UInt64) : Metrics :=
  { m with issuesMalformed := m.issuesMalformed + count }

def addEvent (m : Metrics) : Metrics := { m with eventsEmitted := m.eventsEmitted + 1 }

def toList (m : Metrics) : List UInt64 :=
  [m.reviewsStarted, m.lensesSucceeded, m.lensesFailed, m.lensesSkipped, m.issuesReported,
   m.issuesMalformed, m.eventsEmitted]

end Metrics

end ReviewPanel
