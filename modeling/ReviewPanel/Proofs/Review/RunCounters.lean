import ReviewPanel.Proofs.Log.Tally
import ReviewPanel.Proofs.Review.LensCalls

/-! # What the stages of a run count

Every event that a session sends is counted. Apart from that a run is counted when it opens, and what its
lenses came to is counted when it closes. -/
namespace ReviewPanel

namespace Session

/-- From one session to another the counters have gone up by a tally, whose events are those that were sent. -/
structure Counts (s : Session) (t : Tally) (s' : Session) : Prop where
  metrics_eq : s'.metrics = s.metrics.plus t
  length_events : s'.events.length = s.events.length + t.events

theorem Counts.trans {s s' s'' : Session} {t u : Tally} (h : s.Counts t s') (h' : s'.Counts u s'') :
    s.Counts (t + u) s'' where
  metrics_eq := by rw [h'.metrics_eq, h.metrics_eq, Metrics.plus_plus]
  length_events := by
    rw [h'.length_events, h.length_events, Tally.events_add]
    omega

/-- From one session to another only events were sent. -/
def Tells (s s' : Session) : Prop := ∃ n, s.Counts { events := n } s'

theorem Tells.refl (s : Session) : s.Tells s := ⟨0, (Metrics.plus_zero _).symm, rfl⟩

theorem Tells.trans {s s' s'' : Session} (h : s.Tells s') (h' : s'.Tells s'') : s.Tells s'' := by
  obtain ⟨n, hn⟩ := h
  obtain ⟨m, hm⟩ := h'
  exact ⟨n + m, hn.trans hm⟩

theorem counts_emit (s : Session) (now : Nat) (trace : TraceContext) (kind : EventKind) :
    s.Counts { events := 1 } (s.emit now trace kind) where
  metrics_eq := s.metrics.addEvent_eq
  length_events := by rw [events_emit, List.length_append, List.length_singleton]

theorem tells_emit (s : Session) (now : Nat) (trace : TraceContext) (kind : EventKind) :
    s.Tells (s.emit now trace kind) := ⟨1, s.counts_emit now trace kind⟩

theorem tells_emitAll (s : Session) (now : Nat) (trace : TraceContext) (kinds : List EventKind) :
    s.Tells (s.emitAll now trace kinds) := by
  induction kinds generalizing s with
  | nil => exact .refl s
  | cons kind rest ih => exact (s.tells_emit now trace kind).trans (ih _)

/-- A session that differs in neither its counters nor its events is as good as the first one. -/
theorem Tells.of_eq {s s' s'' : Session} (h : s.Tells s') (metrics : s''.metrics = s'.metrics)
    (events : s''.events = s'.events) : s.Tells s'' := by
  obtain ⟨n, hmetrics, hlength⟩ := h
  exact ⟨n, metrics.trans hmetrics, (congrArg List.length events).trans hlength⟩

theorem tells_queue (root : TraceContext) (total position : Nat) (lenses : List Lens) (s : Session) :
    s.Tells (s.queue root total position lenses).2 := by
  induction lenses generalizing position s with
  | nil => exact .refl s
  | cons lens rest ih =>
    let queued := s.emit s.clock root (.agentQueued lens.agent position total)
    have hqueued : s.Tells queued := s.tells_emit _ _ _
    let next : Session := { queued with ids := (root.child s.ids).2 }
    have hnext : s.Tells next := hqueued.of_eq rfl rfl
    exact hnext.trans (ih (position + 1) next)

theorem counts_openRun (diff : Diff) (plan : Plan) (concurrency : Nat) (s : Session) :
    ∃ n, s.Counts { reviews := 1, events := n } (s.openRun diff plan concurrency).2.2 := by
  let opened : Session := Session.note
    { s with ids := (TraceContext.root s.ids).2, metrics := s.metrics.addReview }
    [.reviewStarted (TraceContext.root s.ids).1.traceId plan.lenses.length concurrency diff.fileCount]
  have hopened : s.Counts { reviews := 1 } opened := ⟨s.metrics.addReview_eq, rfl⟩
  have hstarted := opened.tells_emit s.clock (TraceContext.root s.ids).1
    (.orchestratorStart (plan.lenses.map Lens.agent) concurrency)
  obtain ⟨n, hn⟩ := hstarted.trans (tells_queue (TraceContext.root s.ids).1 plan.lenses.length 1 plan.lenses _)
  have hcounts := hopened.trans hn
  exact ⟨0 + n, hcounts⟩

end Session

namespace LensTask

variable {diff : Diff} {context : ReviewContext} {failFast : Bool}

theorem tells_begin (lens : Lens) (trace : TraceContext) (now : Nat) (s : Session) :
    s.Tells (lens.begin diff context trace now s).world := by
  have hopened := s.tells_emitAll now trace (lens.opening diff context)
  cases h : Lens.overflows diff context with
  | true => rwa [Lens.begin_of_overflows lens trace now s h]
  | false =>
    rw [Lens.begin_of_not_overflows lens trace now s h]
    exact hopened.of_eq rfl rfl

theorem tells_perform (s : Session) (token : Token) (c : Call LensTask) :
    s.Tells ((worker diff context failFast).perform (s, token) c).1 := by
  cases c with
  | start index t time =>
    have hstarted := s.tells_emit time t.trace (.agentStart t.lens.agent)
    exact hstarted.trans (tells_begin t.lens t.trace time _)
  | finish lane u time =>
    obtain ⟨inFlight, records, hperform⟩ := perform_finish failFast s token lane u time
    rw [hperform]
    exact (s.tells_emit time u.task.trace _).of_eq rfl rfl

theorem tells_performAll (s : Session) (token : Token) (calls : List (Call LensTask)) :
    s.Tells ((worker diff context failFast).performAll (s, token) calls).1 := by
  induction calls generalizing s token with
  | nil => exact .refl s
  | cons c rest ih => exact (tells_perform s token c).trans (ih _ _)

end LensTask

namespace LensEnd

/-- A lens has failed, and not because it was not started. -/
def isFailed (e : LensEnd) : Bool := e.error?.any fun error => decide (error.code ≠ .notStarted)

def isSkipped (e : LensEnd) : Bool := e.error?.any fun error => decide (error.code = .notStarted)

theorem isSkipped_iff {e : LensEnd} :
    e.isSkipped = true ↔ ∃ error, e.error? = some error ∧ error.code = .notStarted := by
  simp [isSkipped, Option.any_eq_true]

/-- What the ends of lenses come to. -/
def tally (ends : List LensEnd) : Tally where
  succeeded := ends.countP (·.error?.isNone)
  failed := ends.countP isFailed
  skipped := ends.countP isSkipped

theorem foldl_count (ends : List LensEnd) (m : Metrics) : ends.foldl count m = m.plus (tally ends) := by
  induction ends generalizing m with
  | nil => exact m.plus_zero.symm
  | cons e rest ih =>
    have htally : count m e = m.plus (tally [e]) := by
      cases herror : e.error? with
      | none =>
        simp only [count, herror, m.addSuccess_eq]
        simp [tally, isFailed, isSkipped, herror]
      | some error =>
        by_cases hcode : error.code = .notStarted
        · simp only [count, herror, hcode, if_true, m.addSkipped_eq]
          simp [tally, isFailed, isSkipped, herror, hcode]
        · simp only [count, herror, hcode, if_false, m.addFailure_eq]
          simp [tally, isFailed, isSkipped, herror, hcode]
    have hrest : tally [e] + tally rest = tally (e :: rest) := by
      ext <;> simp [tally, List.countP_cons, Nat.add_comm]
    rw [List.foldl_cons, ih, htally, Metrics.plus_plus, hrest]

/-- Each lens is counted once. -/
theorem sum_tally (ends : List LensEnd) :
    (tally ends).succeeded + (tally ends).failed + (tally ends).skipped = ends.length := by
  induction ends with
  | nil => rfl
  | cons e rest ih =>
    simp only [tally, List.countP_cons, List.length_cons] at ih ⊢
    rw [← ih]
    cases herror : e.error? with
    | none => simp [isFailed, isSkipped, herror]; omega
    | some error => by_cases hcode : error.code = .notStarted <;> simp [isFailed, isSkipped, herror, hcode] <;> omega

end LensEnd

/-- The number of issues that a caller gets. -/
def Outcome.reported : Except ReviewError Outcome → Nat
  | .ok outcome => outcome.issues.length
  | .error _ => 0

/-- What a review counts that takes place. -/
def LensEnd.reviewTally (ends : List LensEnd) (reported events : Nat) : Tally :=
  { LensEnd.tally ends with reviews := 1, reported, malformed := LensEnd.malformed ends, events }

namespace Session

theorem counts_closeRun (diff : Diff) (plan : Plan) (partialOnAllFailed : Bool) (root : TraceContext)
    (startedAt : Nat) (ends : List LensEnd) (s : Session) :
    let closed := s.closeRun diff plan partialOnAllFailed root startedAt ends
    s.Counts (LensEnd.tally ends + { malformed := LensEnd.malformed ends, events := 1 } +
      { reported := Outcome.reported closed.1 }) closed.2 := by
  have hmetrics : ((ends.foldl LensEnd.count s.metrics).addMalformed
      (UInt64.ofNat (LensEnd.malformed ends))).addEvent =
      s.metrics.plus (LensEnd.tally ends + { malformed := LensEnd.malformed ends, events := 1 }) := by
    rw [LensEnd.foldl_count, Metrics.addMalformed_eq, Metrics.addEvent_eq, Metrics.plus_plus, Metrics.plus_plus]
    rfl
  intro closed
  constructor
  · rw [← Metrics.plus_plus, ← hmetrics]
    simp only [closed, closeRun]
    split
    · split
      · exact (Metrics.plus_zero _).symm
      · exact Metrics.addReported_eq _ _
    · exact Metrics.addReported_eq _ _
  · simp only [closed, closeRun]
    split
    · split <;> exact List.length_append
    · exact List.length_append

/-- A run counts as one review, with what its lenses came to. -/
theorem counts_run {diff : Diff} {plan : Plan} {concurrency : Nat} {s ran : Session}
    (told : (s.openRun diff plan concurrency).2.2.Tells ran) (partialOnAllFailed : Bool) (root : TraceContext)
    (startedAt : Nat) (ends : List LensEnd) :
    let closed := ran.closeRun diff plan partialOnAllFailed root startedAt ends
    ∃ events, s.Counts (LensEnd.reviewTally ends (Outcome.reported closed.1) events) closed.2 := by
  intro closed
  obtain ⟨opening, hopened⟩ := counts_openRun diff plan concurrency s
  obtain ⟨telling, htold⟩ := told
  have hclosed := (hopened.trans htold).trans
    (counts_closeRun diff plan partialOnAllFailed root startedAt ends ran)
  refine ⟨opening + telling + 1, ?_⟩
  convert hclosed using 1
  ext <;> simp [LensEnd.reviewTally, LensEnd.tally, closed]

end Session

end ReviewPanel
