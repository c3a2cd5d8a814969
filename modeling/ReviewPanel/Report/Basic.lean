import ReviewPanel.Issue.Basic
import ReviewPanel.LensId
import ReviewPanel.ReviewError

/-! # What comes out of a review

The report of each lens that succeeded, a line of statistics for every lens, and the outcome of the
whole run. -/
namespace ReviewPanel

/-- What a lens found. -/
structure LensReport where
  lensId : LensId
  lensName : String
  summary : String
  issues : List Issue
  durationMs : Nat
  /-- The number of issues of the reply that could not be read. -/
  malformedDropped : Nat
deriving Repr, DecidableEq, BEq, Inhabited

/-- How a lens ended. -/
inductive LensStatus where
  | success
  | failed
deriving Repr, DecidableEq, BEq, Inhabited

/-- The statistics of one lens. -/
structure LensStat where
  lensId : LensId
  lensName : String
  status : LensStatus
  issueCount : Nat
  errorCode : Option ErrorCode
  errorMessage : Option String
  /-- Absent for a lens that never came to its own end. -/
  durationMs : Option Nat
deriving Repr, DecidableEq, BEq, Inhabited

/-- A lens without a report. -/
structure FailedLens where
  lensId : LensId
  lensName : String
  errorCode : ErrorCode
  errorMessage : String
deriving Repr, DecidableEq, BEq, Inhabited

/-- The outcome of a run that did not fail as a whole. -/
structure Outcome where
  summary : String
  issues : List Issue
  lensStats : List LensStat
  failedLenses : List FailedLens
  traceId : String
deriving Repr, DecidableEq, BEq, Inhabited

def Outcome.isPartial (o : Outcome) : Bool := !o.failedLenses.isEmpty

/-- The file, and perhaps the lines, on which a review is centred. -/
structure FocusTarget where
  file : String
  startLine : Option UInt32
  endLine : Option UInt32
deriving Repr, DecidableEq, BEq, Inhabited

namespace FocusTarget

def ofFile (file : String) : FocusTarget := ⟨file, none, none⟩

def withLines (f : FocusTarget) (a b : UInt32) : FocusTarget :=
  { f with startLine := some (min a b), endLine := some (max a b) }

end FocusTarget

end ReviewPanel
