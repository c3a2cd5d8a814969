import ReviewPanel.Review.LensEnd
import ReviewPanel.Review.LensRun
import ReviewPanel.Review.Plan
import ReviewPanel.Settings.Basic

/-! # A whole review

A review sends its first events, lets the lenses work side by side, and draws up the outcome when all have
ended. A lens that fails does no harm to the others, unless the caller wants the run to end with the first
failure; only a run in which every lens failed has no outcome. -/
namespace ReviewPanel

/-- How a review is to be carried out. -/
structure RunOptions where
  /-- The greatest number of lenses at work at a time. -/
  concurrency : Nat
  /-- There is an outcome even if every lens fails. -/
  partialOnAllFailed : Bool
  /-- The first failure cancels the run. -/
  failFast : Bool
deriving Repr, DecidableEq, BEq, Inhabited

namespace Settings

def runOptions (s : Settings) : RunOptions := ⟨s.concurrency, s.partialOnAllFailed, s.failFast⟩

def reviewOptions (s : Settings) : ReviewOptions := ⟨none, s.minSeverity, none, s.profile, none⟩

end Settings

/-- A lens in a run, with its place. -/
structure LensTask where
  lens : Lens
  trace : TraceContext
deriving Repr, DecidableEq, BEq, Inhabited

namespace LensTask

variable (diff : Diff) (context : ReviewContext) (failFast : Bool)

def start (_index : Nat) (t : LensTask) (now : Nat) (s : Session) : Start Session :=
  t.lens.begin diff context t.trace now (s.emit now t.trace (.agentStart t.lens.agent))

def closing (agent : AgentRef) : Ending LensReport ReviewError → EventKind
  | .returned r => .agentComplete agent r.issues.length
  | .failed e => .agentError agent e
  | .crashed c => .agentError agent ⟨.unknown, c.text⟩

def timed (durationMs : Nat) : Ending LensReport ReviewError → Ending LensReport LensFailure
  | .returned r => .returned r
  | .failed e => .failed ⟨e, durationMs⟩
  | .crashed c => .crashed c

def hasFailed : Ending LensReport ReviewError → Bool
  | .returned _ => false
  | .failed _ => true
  | .crashed _ => true

def finish (_index : Nat) (t : LensTask) (startedAt now : Nat) (s : Session) :
    Finish Session LensReport LensFailure :=
  let (ending, s) := t.lens.complete diff context startedAt now s
  { world := s.emit now t.trace (closing t.lens.agent ending)
    ending := timed (now - startedAt) ending
    cancels := failFast && hasFailed ending }

def worker : Worker Session LensTask LensReport LensFailure where
  start := start diff context
  finish := finish diff context failFast
  onCrash lane index message s := s.note [.taskBrokeOff lane index message]

end LensTask

namespace Session

/-- The lenses are queued, the first of them at the given position; each gets a span of its own. -/
def queue (root : TraceContext) (total : Nat) (position : Nat) : List Lens → Session →
    List LensTask × Session
  | [], s => ([], s)
  | lens :: rest, s =>
    let s := s.emit s.clock root (.agentQueued lens.agent position total)
    let (trace, ids) := root.child s.ids
    let (tasks, s) := queue root total (position + 1) rest { s with ids }
    (⟨lens, trace⟩ :: tasks, s)

/-- A run opens: it gets a trace, is counted, and tells which lenses it has. -/
def openRun (diff : Diff) (plan : Plan) (concurrency : Nat) (s : Session) :
    TraceContext × List LensTask × Session :=
  let (root, ids) := TraceContext.root s.ids
  let lenses := plan.lenses
  let s := { s with ids, metrics := s.metrics.addReview }
  let s := s.note [.reviewStarted root.traceId lenses.length concurrency diff.fileCount]
  let s := s.emit s.clock root (.orchestratorStart (lenses.map Lens.agent) concurrency)
  let (tasks, s) := s.queue root lenses.length 1 lenses
  (root, tasks, s)

/-- The ends of the lenses are counted and written to the log. -/
def collect (ends : List LensEnd) (s : Session) : Session :=
  { s with metrics := ends.foldl LensEnd.count s.metrics }.note (ends.map LensEnd.record)

/-- A run closes: the issues are aggregated, the last event is sent, and the outcome is decided. -/
def closeRun (diff : Diff) (plan : Plan) (partialOnAllFailed : Bool) (root : TraceContext)
    (startedAt : Nat) (ends : List LensEnd) (s : Session) : Except ReviewError Outcome × Session :=
  let s := s.collect ends
  let issues := LensEnd.issues ends
  let malformed := LensEnd.malformed ends
  let kept := Issue.aggregate issues plan.minSeverity
  let s := { s with metrics := s.metrics.addMalformed (UInt64.ofNat malformed) }
  let s := s.note [.aggregated issues.length malformed kept]
  let summary := LensEnd.summary ends
  let stats := ends.map LensEnd.stat
  let failed := LensEnd.failures ends
  let s := s.emit s.clock root (.orchestratorComplete summary kept.issues.length stats diff.fileCount)
  let finished (count : Nat) (success : Bool) : LogRecord :=
    .reviewFinished root.traceId (s.clock - startedAt) count failed.length success
  let outcome : Except ReviewError Outcome × Session :=
    let s := { s with metrics := s.metrics.addReported (UInt64.ofNat kept.issues.length) }
    (.ok ⟨summary, kept.issues, stats, failed, root.traceId⟩,
      (s.note [finished kept.issues.length true]).flush)
  if kept.issues.isEmpty && (ends.filterMap LensEnd.report?).isEmpty && !partialOnAllFailed then
    match LensEnd.lastError? ends with
    | some e => (.error e, (s.note [finished 0 false]).flush)
    | none => outcome
  else outcome

def review (diff : Diff) (options : ReviewOptions) (run : RunOptions) (plan : Plan) (token : Token)
    (s : Session) : Except ReviewError Outcome × Token × Session :=
  let concurrency := effectiveConcurrency run.concurrency plan.lenses.length
  let startedAt := s.clock
  let (root, tasks, s) := s.openRun diff plan concurrency
  let context : ReviewContext := ⟨options.projectContext, options.focus⟩
  let worker := LensTask.worker diff context run.failFast
  let ran := worker.run tasks concurrency token s.clock s
  let ends := List.zipWith LensEnd.mk plan.lenses ran.outcomes
  let s := { ran.world with clock := ran.now }
  let (result, s) := s.closeRun diff plan run.partialOnAllFailed root startedAt ends
  (result, ran.token, s)

/-- A review of a change under a token. Without a file to review, or without a lens that is known, there is
none. -/
def orchestrate (diff : Diff) (options : ReviewOptions) (run : RunOptions) (token : Token) (s : Session) :
    Except ReviewError Outcome × Token × Session :=
  if diff.isEmpty then (.error .noDiff, token, s)
  else
    let s := s.note options.profileRecords
    match options.plan with
    | .error e => (.error e, token, s)
    | .ok plan => s.review diff options run plan token

end Session

end ReviewPanel
