import ReviewPanel.Issue.Aggregate
import ReviewPanel.Json.Basic
import ReviewPanel.LensId
import ReviewPanel.Log.Level
import ReviewPanel.Log.Metrics
import ReviewPanel.ReviewError

/-! # Records of the log

The log tells the operator how reviews go. Each record has a level, named fields, and the spans within
which it was written. -/
namespace ReviewPanel

/-- What a record tells. -/
inductive LogRecord where
  | unknownProfile (name : String)
  | reviewStarted (traceId : String) (lenses concurrency files : Nat)
  | malformedIssue (lens : LensId) (index : Nat) (reason : String)
  /-- The task with the given index broke off. -/
  | taskBrokeOff (lane index : Nat) (message : String)
  | lensFinished (lens : LensId) (durationMs issues : Nat)
  | lensFailed (lens : LensId) (durationMs : Nat) (error : ReviewError)
  | lensSkipped (lens : LensId)
  | aggregated (input malformed : Nat) (report : Issue.Aggregate)
  | reviewFinished (traceId : String) (durationMs issues failed : Nat) (success : Bool)
  | counters (metrics : Metrics)
deriving Repr, DecidableEq

namespace LogRecord

def lensEnded (lens : LensId) (durationMs issues : Nat) (error : Option ReviewError) : LogRecord :=
  match error with
  | none => .lensFinished lens durationMs issues
  | some e => .lensFailed lens durationMs e

def level : LogRecord → Level
  | .unknownProfile .. => .warn
  | .malformedIssue .. => .warn
  | .taskBrokeOff .. => .warn
  | .lensFailed .. => .warn
  | _ => .info

def counter (n : UInt64) : Json := .nat n.toNat

def fields : LogRecord → List (String × Json)
  | .unknownProfile name =>
    [("profile", .text name), ("message", .text "unknown review profile; ignoring")]
  | .reviewStarted traceId lenses concurrency files =>
    [("event", .text "review.started"), ("trace_id", .text traceId), ("lens_count", .nat lenses),
     ("concurrency", .nat concurrency), ("files", .nat files)]
  | .malformedIssue lens index reason =>
    [("lens", .text lens.name), ("index", .nat index), ("error", .text reason),
     ("message", .text "dropping malformed issue")]
  | .taskBrokeOff lane index message =>
    [("lane", .nat lane), ("index", .nat index), ("panic", .text message),
     ("message", .text "worker panicked")]
  | .lensFinished lens durationMs issues =>
    [("event", .text "lens.finished"), ("lens", .text lens.name), ("duration_ms", .nat durationMs),
     ("issue_count", .nat issues), ("success", .bool true)]
  | .lensFailed lens durationMs error =>
    [("event", .text "lens.finished"), ("lens", .text lens.name), ("duration_ms", .nat durationMs),
     ("success", .bool false), ("code", .text error.code.name), ("error", .text error.message)]
  | .lensSkipped lens => [("event", .text "lens.skipped"), ("lens", .text lens.name)]
  | .aggregated input malformed report =>
    [("event", .text "review.aggregated"), ("input", .nat input), ("malformed_dropped", .nat malformed),
     ("kept", .nat report.issues.length), ("duplicates_removed", .nat report.duplicatesRemoved),
     ("below_threshold", .nat report.belowThreshold),
     ("incomplete_dropped", .nat report.incompleteDropped)]
  | .reviewFinished traceId durationMs issues failed success =>
    [("event", .text "review.finished"), ("trace_id", .text traceId), ("duration_ms", .nat durationMs),
     ("total_issues", .nat issues), ("failed_lenses", .nat failed), ("success", .bool success)]
  | .counters m =>
    [("metric", .text "flush"), ("reviews_started", counter m.reviewsStarted),
     ("lenses_succeeded", counter m.lensesSucceeded), ("lenses_failed", counter m.lensesFailed),
     ("lenses_skipped", counter m.lensesSkipped), ("issues_reported", counter m.issuesReported),
     ("issues_malformed", counter m.issuesMalformed), ("events_emitted", counter m.eventsEmitted)]

def span (traceId : String) : Json :=
  .object [("name", .text "lensrev.review"), ("fields", .object [("trace_id", .text traceId)])]

/-- The JSON form of a record written within the reviews with the given traces, outermost first. -/
def encode (r : LogRecord) (traces : List String) : Json :=
  .object [("level", .text r.level.name), ("fields", .object r.fields),
    ("spans", .list (traces.map span))]

end LogRecord

end ReviewPanel
