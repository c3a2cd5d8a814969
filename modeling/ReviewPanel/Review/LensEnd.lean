import ReviewPanel.Concurrent.Settled
import ReviewPanel.Lens.Basic
import ReviewPanel.Log.Record
import ReviewPanel.Report.Basic
import ReviewPanel.Total

/-! # How the lenses ended

From the ends of its lenses a run draws up its statistics, its summary, and the issues that are to be
aggregated. -/
namespace ReviewPanel

/-- The error of a lens, and how long it was at work. -/
structure LensFailure where
  error : ReviewError
  durationMs : Nat
deriving Repr, DecidableEq, BEq, Inhabited

/-- A lens and its end. -/
structure LensEnd where
  lens : Lens
  settled : Settled LensReport LensFailure
deriving Repr, DecidableEq, Inhabited

namespace LensEnd

def report? (e : LensEnd) : Option LensReport :=
  match e.settled with
  | .returned r => some r
  | _ => none

def error? (e : LensEnd) : Option ReviewError :=
  match e.settled with
  | .returned _ => none
  | .failed f => some f.error
  | .crashed message => some ⟨.unknown, message⟩
  | .notStarted => some .notStarted

def duration? (e : LensEnd) : Option Nat :=
  match e.settled with
  | .returned r => some r.durationMs
  | .failed f => some f.durationMs
  | .crashed _ => none
  | .notStarted => none

def issueCount (e : LensEnd) : Nat := (e.report?.map (·.issues.length)).getD 0

def stat (e : LensEnd) : LensStat where
  lensId := e.lens.id
  lensName := e.lens.name
  status := if e.report?.isSome then .success else .failed
  issueCount := e.issueCount
  errorCode := e.error?.map (·.code)
  errorMessage := e.error?.map (·.message)
  durationMs := e.duration?

def failed? (e : LensEnd) : Option FailedLens :=
  e.error?.map fun error => ⟨e.lens.id, e.lens.name, error.code, error.message⟩

def summary? (e : LensEnd) : Option String :=
  e.report?.map fun r =>
    "**" ++ e.lens.name ++ "**: " ++ (if r.summary.isEmpty then "No summary provided." else r.summary)

def count (m : Metrics) (e : LensEnd) : Metrics :=
  match e.error? with
  | none => m.addSuccess
  | some error => if error.code = .notStarted then m.addSkipped else m.addFailure

def record (e : LensEnd) : LogRecord :=
  match e.error? with
  | none => .lensFinished e.lens.id (e.duration?.getD 0) e.issueCount
  | some error =>
    if error.code = .notStarted then .lensSkipped e.lens.id
    else .lensFailed e.lens.id (e.duration?.getD 0) error

def issues (es : List LensEnd) : List Issue := (es.filterMap report?).flatMap (·.issues)

def malformed (es : List LensEnd) : Nat := total (·.malformedDropped) (es.filterMap report?)

def failures (es : List LensEnd) : List FailedLens := es.filterMap failed?

def lastError? (es : List LensEnd) : Option ReviewError := (es.filterMap error?).getLast?

def failureNote (failed : List FailedLens) : String :=
  "Partial analysis: "
    ++ String.intercalate ", " (failed.map fun f => f.lensName ++ " (" ++ f.errorCode.name ++ ")") ++ " failed."

def summary (es : List LensEnd) : String :=
  let parts := String.intercalate "\n\n" (es.filterMap summary?)
  let failed := failures es
  if failed.isEmpty then parts
  else if parts.isEmpty then failureNote failed
  else parts ++ "\n\n" ++ failureNote failed

end LensEnd

end ReviewPanel
