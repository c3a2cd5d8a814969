import Mathlib.Data.List.Basic
import ReviewPanel.Proofs.Review.RunCounters
import ReviewPanel.Proofs.Review.PlannedLenses

/-! # The course of a review

A review that takes place queues its lenses, lets them work as a run of tasks, and draws up its result from
their ends. The run matters to the result only by the number of lenses that were started. -/
namespace ReviewPanel

namespace LensEnd

def worked (script : String → Script) (lens : Lens) : LensEnd :=
  ⟨lens, (LensTask.timed (lens.duration script) (lens.ending script)).settled⟩

def skipped (lens : Lens) : LensEnd := ⟨lens, .notStarted⟩

/-- The ends of lenses of which the first `k` were started. -/
def ofRun (script : String → Script) (k : Nat) (lenses : List Lens) : List LensEnd :=
  (lenses.take k).map (worked script) ++ (lenses.drop k).map skipped

theorem map_lens_ofRun (script : String → Script) (k : Nat) (lenses : List Lens) :
    (ofRun script k lenses).map (·.lens) = lenses := by
  rw [ofRun, List.map_append, List.map_map, List.map_map]
  change (lenses.take k).map id ++ (lenses.drop k).map id = lenses
  rw [List.map_id, List.map_id, List.take_append_drop]

theorem getElem?_ofRun (script : String → Script) (k i : Nat) (lenses : List Lens) :
    (ofRun script k lenses)[i]? = lenses[i]?.map fun lens =>
      if i < k then worked script lens else skipped lens := by
  rw [ofRun, List.getElem?_append, List.length_map, List.length_take]
  by_cases hi : i < k
  · by_cases hlength : i < lenses.length
    · rw [if_pos (by omega), List.getElem?_map, List.getElem?_take_of_lt hi]
      simp only [hi, if_true]
    · have hnone : lenses[i]? = none := List.getElem?_eq_none (Nat.le_of_not_lt hlength)
      have hskipped : (lenses.drop k).length ≤ i - min k lenses.length := by
        rw [List.length_drop]
        omega
      rw [if_neg (by omega), List.getElem?_map, List.getElem?_eq_none hskipped, hnone]
      rfl
  · rw [if_neg (by omega), List.getElem?_map, List.getElem?_drop]
    simp only [hi, if_false]
    by_cases hk : k ≤ lenses.length
    · rw [Nat.min_eq_left hk, Nat.add_sub_of_le (Nat.le_of_not_lt hi)]
    · rw [List.getElem?_eq_none (by omega), List.getElem?_eq_none (by omega)]

def completed (diff : Diff) (plan : Plan) (ends : List LensEnd) : EventKind :=
  .orchestratorComplete (summary ends) (Issue.aggregate (issues ends) plan.minSeverity).issues.length
    (ends.map stat) diff.fileCount

def outcome (plan : Plan) (traceId : String) (ends : List LensEnd) : Outcome :=
  ⟨summary ends, (Issue.aggregate (issues ends) plan.minSeverity).issues, ends.map stat, failures ends, traceId⟩

/-- The error of a review none of whose lenses has a report. -/
def fatal? (partialOnAllFailed : Bool) (ends : List LensEnd) : Option ReviewError :=
  if partialOnAllFailed || !(ends.filterMap report?).isEmpty then none else lastError? ends

def result (plan : Plan) (partialOnAllFailed : Bool) (traceId : String) (ends : List LensEnd) :
    Except ReviewError Outcome :=
  match fatal? partialOnAllFailed ends with
  | some e => .error e
  | none => .ok (outcome plan traceId ends)

theorem eq_outcome {plan : Plan} {partialOnAllFailed : Bool} {traceId : String} {ends : List LensEnd}
    {o : Outcome} (h : result plan partialOnAllFailed traceId ends = .ok o) : o = outcome plan traceId ends := by
  rw [result] at h
  split at h
  · cases h
  · exact (Except.ok.inj h).symm

end LensEnd

namespace Session

def openingEvents (root : TraceContext) (lenses : List Lens) (concurrency now : Nat) : List Event :=
  (.orchestratorStart (lenses.map Lens.agent) concurrency ::
    (lenses.zipIdx 1).map fun p => .agentQueued p.1.agent p.2 lenses.length).map
      (⟨Instant.ofMillis now, root, ·⟩)

theorem queue_eq (root : TraceContext) (total position : Nat) (lenses : List Lens) (s : Session) :
    let q := s.queue root total position lenses
    q.1.map (·.lens) = lenses ∧ (∀ t ∈ q.1, t.trace.traceId = root.traceId) ∧
      q.2.client = s.client ∧ q.2.clock = s.clock ∧
      q.2.events = s.events ++ (lenses.zipIdx position).map fun p =>
        ⟨Instant.ofMillis s.clock, root, .agentQueued p.1.agent p.2 total⟩ := by
  induction lenses generalizing position s with
  | nil => exact ⟨rfl, fun t ht => absurd ht List.not_mem_nil, rfl, rfl, (List.append_nil _).symm⟩
  | cons lens rest ih =>
    obtain ⟨hlens, htrace, hclient, hclock, hevents⟩ := ih (position + 1)
      { s.emit s.clock root (.agentQueued lens.agent position total) with ids := (root.child s.ids).2 }
    refine ⟨congrArg (lens :: ·) hlens, ?_, hclient, hclock, ?_⟩
    · intro t ht
      rcases List.mem_cons.mp ht with rfl | ht
      · rfl
      · exact htrace t ht
    · rw [List.zipIdx_cons, List.map_cons, List.append_cons]
      exact hevents

theorem openRun_eq (diff : Diff) (plan : Plan) (concurrency : Nat) (s : Session) :
    let o := s.openRun diff plan concurrency
    o.2.1.map (·.lens) = plan.lenses ∧ (∀ t ∈ o.2.1, t.trace.traceId = o.1.traceId) ∧
      o.2.2.client = s.client ∧ o.2.2.clock = s.clock ∧
      o.2.2.events = s.events ++ openingEvents o.1 plan.lenses concurrency s.clock := by
  obtain ⟨hlens, htrace, hclient, hclock, hevents⟩ := queue_eq (TraceContext.root s.ids).1 plan.lenses.length 1
    plan.lenses ((Session.note { s with ids := (TraceContext.root s.ids).2, metrics := s.metrics.addReview }
      [.reviewStarted (TraceContext.root s.ids).1.traceId plan.lenses.length concurrency diff.fileCount]).emit
        s.clock (TraceContext.root s.ids).1 (.orchestratorStart (plan.lenses.map Lens.agent) concurrency))
  refine ⟨hlens, htrace, hclient, hclock, ?_⟩
  rw [openingEvents, List.map_cons, List.map_map, List.append_cons]
  exact hevents

theorem events_closeRun (diff : Diff) (plan : Plan) (partialOnAllFailed : Bool) (root : TraceContext)
    (startedAt : Nat) (ends : List LensEnd) (s : Session) :
    (s.closeRun diff plan partialOnAllFailed root startedAt ends).2.events =
      s.events ++ [⟨Instant.ofMillis s.clock, root, LensEnd.completed diff plan ends⟩] := by
  simp only [closeRun]
  split
  · split <;> rfl
  · rfl

theorem client_closeRun (diff : Diff) (plan : Plan) (partialOnAllFailed : Bool) (root : TraceContext)
    (startedAt : Nat) (ends : List LensEnd) (s : Session) :
    (s.closeRun diff plan partialOnAllFailed root startedAt ends).2.client = s.client ∧
      (s.closeRun diff plan partialOnAllFailed root startedAt ends).2.clock = s.clock := by
  simp only [closeRun]
  split
  · split <;> exact ⟨rfl, rfl⟩
  · exact ⟨rfl, rfl⟩

theorem result_closeRun (diff : Diff) (plan : Plan) (partialOnAllFailed : Bool) (root : TraceContext)
    (startedAt : Nat) (ends : List LensEnd) (s : Session) :
    (s.closeRun diff plan partialOnAllFailed root startedAt ends).1 =
      LensEnd.result plan partialOnAllFailed root.traceId ends := by
  by_cases hreports : ends.filterMap LensEnd.report? = []
  · have hissues : LensEnd.issues ends = [] := by rw [LensEnd.issues, hreports, List.flatMap_nil]
    have hkept : (Issue.aggregate [] plan.minSeverity).issues = [] := by
      cases plan.minSeverity <;> rfl
    cases partialOnAllFailed with
    | true => simp [closeRun, LensEnd.result, LensEnd.fatal?, LensEnd.outcome]
    | false =>
      cases herror : LensEnd.lastError? ends <;>
        simp [closeRun, LensEnd.result, LensEnd.fatal?, LensEnd.outcome, hreports, hissues, hkept, herror]
  · have hsome : (ends.filterMap LensEnd.report?).isEmpty = false := List.isEmpty_eq_false_iff.mpr hreports
    simp [closeRun, LensEnd.result, LensEnd.fatal?, LensEnd.outcome, hsome]

end Session

namespace Pool

open Lens (answers)

variable {diff : Diff} {context : ReviewContext} {failFast : Bool} {capacity : Nat} {tasks : List LensTask}
  {token : Token} {now k : Nat} {s : Session} {calls : List (Call LensTask)}
  {last : Pool Session LensTask LensReport LensFailure}

/-- A lens that was started is at work for its own time, however long it has waited. -/
theorem Course.about_lens
    (c : Course (LensTask.worker diff context failFast) capacity tasks token now s k calls last) {i : Nat}
    (hi : i < k) {t : LensTask} (ht : tasks[i]? = some t) :
    ∃ lane startedAt, Call.about i calls = [.start i t startedAt,
      .finish lane ⟨i, t, startedAt⟩ (startedAt + t.lens.duration (answers diff context s.client.script))] := by
  obtain ⟨lane, ⟨index, task, startedAt⟩, time, rfl, htask, habout⟩ := c.about_eq hi
  obtain rfl : task = t := Option.some.inj (htask.symm.trans ht)
  have hmem : .finish lane ⟨index, task, startedAt⟩ time ∈ Call.about index calls := by
    rw [habout]
    exact List.mem_cons_of_mem _ List.mem_cons_self
  obtain ⟨before, after, hcalls⟩ := List.append_of_mem (List.mem_of_mem_filter hmem)
  obtain ⟨earlier, later, -, htime⟩ := Path.start_of_finish (hcalls ▸ c.path) rfl
  have hstage : (begun tasks token now s : Pool _ _ LensReport LensFailure).stage = (s, token) := rfl
  rw [LensTask.latency_worker, hstage, LensTask.script_performAll] at htime
  exact ⟨lane, startedAt, htime ▸ habout⟩

theorem Course.lookup_lens
    (c : Course (LensTask.worker diff context failFast) capacity tasks token now s k calls last) {i : Nat}
    (hi : i < k) {t : LensTask} (ht : tasks[i]? = some t) :
    last.ended.lookup i = some (LensEnd.worked (answers diff context s.client.script) t.lens).settled := by
  obtain ⟨lane, startedAt, habout⟩ := c.about_lens hi ht
  have hmem : .finish lane ⟨i, t, startedAt⟩ (startedAt + t.lens.duration (answers diff context s.client.script)) ∈
      Call.about i calls := by
    rw [habout]
    exact List.mem_cons_of_mem _ List.mem_cons_self
  obtain ⟨before, after, hcalls⟩ := List.append_of_mem (List.mem_of_mem_filter hmem)
  have hlookup := Path.lookup_ended (hcalls ▸ c.path)
  rw [LensTask.settled_worker, LensTask.script_performAll, Nat.add_sub_cancel_left] at hlookup
  exact hlookup

/-- The ends of the lenses depend on the run only by the number of those that were started. -/
theorem Course.ends_eq
    (c : Course (LensTask.worker diff context failFast) capacity tasks token now s k calls last) :
    List.zipWith LensEnd.mk (tasks.map (·.lens)) (last.toRun tasks.length calls).outcomes =
      LensEnd.ofRun (answers diff context s.client.script) k (tasks.map (·.lens)) := by
  apply List.ext_getElem?
  intro i
  rw [List.getElem?_zipWith, LensEnd.getElem?_ofRun, List.getElem?_map]
  cases ht : tasks[i]? with
  | none => rfl
  | some t =>
    have hi : i < tasks.length := (List.getElem?_eq_some_iff.mp ht).1
    rw [last.getElem?_outcomes_toRun calls hi]
    by_cases hk : i < k
    · rw [c.lookup_lens hk ht]
      simp only [Option.map_some, hk, if_true]
      rfl
    · rw [(c.books.waiting i (Nat.le_of_not_lt hk)).2]
      simp only [Option.map_some, hk, if_false]
      rfl

theorem Course.events_eq
    (c : Course (LensTask.worker diff context failFast) capacity tasks token now s k calls last) :
    last.world.events = s.events ++
      calls.flatMap (LensTask.told diff context (answers diff context s.client.script)) := by
  rw [← LensTask.events_performAll s token calls, ← c.stage_eq]

end Pool

namespace Session

/-- What the lenses of a review get in answer from the client of the session. -/
def answers (s : Session) (diff : Diff) (options : ReviewOptions) : String → Script :=
  Lens.answers diff ⟨options.projectContext, options.focus⟩ s.client.script

theorem orchestrate_of_isEmpty {diff : Diff} (empty : diff.isEmpty = true) (options : ReviewOptions)
    (run : RunOptions) (token : Token) (s : Session) :
    s.orchestrate diff options run token = (.error .noDiff, token, s) := by
  rw [orchestrate, if_pos empty]

theorem orchestrate_of_unplanned {diff : Diff} {options : ReviewOptions} {e : ReviewError}
    (nonempty : diff.isEmpty = false) (unplanned : options.plan = .error e) (run : RunOptions) (token : Token)
    (s : Session) :
    s.orchestrate diff options run token = (.error e, token, s.note options.profileRecords) := by
  simp only [orchestrate, nonempty, unplanned]
  rfl

/-- A review without lenses does not take place. -/
theorem orchestrate_of_no_lens {diff : Diff} {options : ReviewOptions} (h : options.lensesFor diff = [])
    (run : RunOptions) (token : Token) (s : Session) :
    ∃ e records, s.orchestrate diff options run token = (.error e, token, s.note records) := by
  cases nonempty : diff.isEmpty with
  | true =>
    refine ⟨.noDiff, [], ?_⟩
    rw [orchestrate_of_isEmpty nonempty, note, List.append_nil]
  | false =>
    rw [ReviewOptions.lensesFor, nonempty] at h
    have unplanned : options.plan = .error (.noLenses (options.requested.getD [])) :=
      if_pos (List.isEmpty_iff.mpr h)
    exact ⟨_, _, orchestrate_of_unplanned nonempty unplanned run token s⟩

/-- What is known of a review that takes place. -/
structure Reviewed (diff : Diff) (options : ReviewOptions) (run : RunOptions) (plan : Plan) (token : Token)
    (s : Session) (root : TraceContext) (tasks : List LensTask) (opened : Session) (k : Nat)
    (calls : List (Call LensTask)) (last : Pool Session LensTask LensReport LensFailure) : Prop where
  opened_eq : (s.note options.profileRecords).openRun diff plan
    (effectiveConcurrency run.concurrency plan.lenses.length) = (root, tasks, opened)
  tasks_lens : tasks.map (·.lens) = plan.lenses
  tasks_trace : ∀ t ∈ tasks, t.trace.traceId = root.traceId
  client_eq : opened.client = s.client
  course : Pool.Course
    (LensTask.worker diff ⟨options.projectContext, options.focus⟩ run.failFast)
    (effectiveConcurrency run.concurrency plan.lenses.length) tasks token s.clock opened k calls last
  events_eq : (s.orchestrate diff options run token).2.2.events = s.events ++
    (openingEvents root plan.lenses (effectiveConcurrency run.concurrency plan.lenses.length) s.clock ++
      (calls.flatMap (LensTask.told diff ⟨options.projectContext, options.focus⟩ (s.answers diff options)) ++
        [⟨Instant.ofMillis last.now, root,
          LensEnd.completed diff plan (LensEnd.ofRun (s.answers diff options) k plan.lenses)⟩]))
  result_eq : (s.orchestrate diff options run token).1 = LensEnd.result plan run.partialOnAllFailed
    root.traceId (LensEnd.ofRun (s.answers diff options) k plan.lenses)
  token_eq : (s.orchestrate diff options run token).2.1 = last.token.ring last.now
  lastClient_eq : (s.orchestrate diff options run token).2.2.client = last.world.client
  lastClock_eq : (s.orchestrate diff options run token).2.2.clock = last.now
  counts : ∃ events, s.Counts (LensEnd.reviewTally (LensEnd.ofRun (s.answers diff options) k plan.lenses)
    (Outcome.reported (s.orchestrate diff options run token).1) events) (s.orchestrate diff options run token).2.2

/-- A review that ends without being cancelled has started all its lenses. -/
theorem Reviewed.eq_length {diff : Diff} {options : ReviewOptions} {run : RunOptions} {plan : Plan}
    {token : Token} {s : Session} {root : TraceContext} {tasks : List LensTask} {opened : Session} {k : Nat}
    {calls : List (Call LensTask)} {last : Pool Session LensTask LensReport LensFailure}
    (h : Reviewed diff options run plan token s root tasks opened k calls last)
    (running : (s.orchestrate diff options run token).2.1.cancelled = false) : k = plan.lenses.length := by
  rw [h.token_eq, Token.cancelled_ring] at running
  rw [h.course.eq_length running, ← h.tasks_lens, List.length_map]

theorem Reviewed.ofRun_eq {diff : Diff} {options : ReviewOptions} {run : RunOptions} {plan : Plan}
    {token : Token} {s : Session} {root : TraceContext} {tasks : List LensTask} {opened : Session} {k : Nat}
    {calls : List (Call LensTask)} {last : Pool Session LensTask LensReport LensFailure}
    (h : Reviewed diff options run plan token s root tasks opened k calls last)
    (running : (s.orchestrate diff options run token).2.1.cancelled = false) :
    LensEnd.ofRun (s.answers diff options) k plan.lenses =
      plan.lenses.map (LensEnd.worked (s.answers diff options)) := by
  rw [LensEnd.ofRun, h.eq_length running, List.take_length, List.drop_length]
  exact List.append_nil _

theorem effectiveConcurrency_idem (requested tasks : Nat) :
    effectiveConcurrency (effectiveConcurrency requested tasks) tasks = effectiveConcurrency requested tasks := by
  simp only [effectiveConcurrency]
  omega

/-- A review of a change takes place when there is a file to review and a lens that is known. -/
theorem exists_reviewed {diff : Diff} {options : ReviewOptions} {plan : Plan}
    (nonempty : diff.isEmpty = false) (planned : options.plan = .ok plan) (run : RunOptions) (token : Token)
    (s : Session) :
    ∃ root tasks opened k calls last,
      Reviewed diff options run plan token s root tasks opened k calls last := by
  let concurrency := effectiveConcurrency run.concurrency plan.lenses.length
  let noted := s.note options.profileRecords
  let o := noted.openRun diff plan concurrency
  obtain ⟨hlens, htrace, hclient, hclock, hevents⟩ : o.2.1.map (·.lens) = plan.lenses ∧ _ :=
    openRun_eq diff plan concurrency noted
  have hlength : o.2.1.length = plan.lenses.length := by rw [← hlens, List.length_map]
  let worker := LensTask.worker diff ⟨options.projectContext, options.focus⟩ run.failFast
  obtain ⟨k, calls, last, c, hrun⟩ := worker.exists_course o.2.1 concurrency token o.2.2.clock o.2.2
  rw [hlength, effectiveConcurrency_idem] at c
  have hends := c.ends_eq
  rw [hlens, hclient] at hends
  have hevents' : last.world.events = s.events ++
      (openingEvents o.1 plan.lenses concurrency s.clock ++
        calls.flatMap (LensTask.told diff ⟨options.projectContext, options.focus⟩ (s.answers diff options))) := by
    rw [c.events_eq, hevents, hclient, List.append_assoc]
    rfl
  let close (ran : Run Session LensReport LensFailure) : Except ReviewError Outcome × Token × Session :=
    let closed := Session.closeRun diff plan run.partialOnAllFailed o.1 s.clock
      (List.zipWith LensEnd.mk plan.lenses ran.outcomes) { ran.world with clock := ran.now }
    (closed.1, ran.token, closed.2)
  have hreview : s.orchestrate diff options run token = close (last.toRun o.2.1.length calls) := by
    simp only [orchestrate, nonempty, planned]
    exact congrArg close hrun
  refine ⟨o.1, o.2.1, o.2.2, k, calls, last, rfl, hlens, htrace, hclient, hclock ▸ c, ?_, ?_, ?_, ?_, ?_, ?_⟩
  · rw [hreview]
    refine (events_closeRun _ _ _ _ _ _ _).trans ?_
    rw [hends]
    change last.world.events ++ _ = _
    rw [hevents', List.append_assoc, List.append_assoc]
    rfl
  · rw [hreview]
    refine (result_closeRun _ _ _ _ _ _ _).trans ?_
    rw [hends]
    rfl
  · rw [hreview]
    rfl
  · rw [hreview]
    exact (client_closeRun _ _ _ _ _ _ _).1
  · rw [hreview]
    exact (client_closeRun _ _ _ _ _ _ _).2
  · have hworld : last.world = (worker.performAll (o.2.2, token) calls).1 := congrArg Prod.fst c.stage_eq
    have htold : o.2.2.Tells last.world := hworld ▸ LensTask.tells_performAll o.2.2 token calls
    have hran : o.2.2.Tells { last.world with clock := last.now } := htold.of_eq rfl rfl
    obtain ⟨events, hmetrics, hlength⟩ := counts_run hran run.partialOnAllFailed o.1 s.clock
      (List.zipWith LensEnd.mk plan.lenses (last.toRun o.2.1.length calls).outcomes)
    have hofRun : LensEnd.ofRun (s.answers diff options) k plan.lenses =
        List.zipWith LensEnd.mk plan.lenses (last.toRun o.2.1.length calls).outcomes := hends.symm
    rw [hreview, hofRun]
    exact ⟨events, hmetrics, hlength⟩

/-- Nothing cancels a review under a token without an alarm when it goes on after failures and the client
does not cancel it. -/
theorem cancelled_orchestrate {diff : Diff} {options : ReviewOptions} {run : RunOptions} {s : Session}
    (keepsOn : run.failFast = false) (quiet : s.client.cancellingCall = none) :
    (s.orchestrate diff options run .fresh).2.1.cancelled = false := by
  cases nonempty : diff.isEmpty with
  | true =>
    rw [orchestrate_of_isEmpty nonempty]
    rfl
  | false =>
    cases planned : options.plan with
    | error e =>
      rw [orchestrate_of_unplanned nonempty planned]
      rfl
    | ok plan =>
      obtain ⟨root, tasks, opened, k, calls, last, h⟩ := exists_reviewed nonempty planned run .fresh s
      have hcourse := h.course
      rw [keepsOn] at hcourse
      have htoken : last.token = .fresh :=
        (congrArg Prod.snd hcourse.stage_eq).trans
          (LensTask.token_performAll_of_quiet (h.client_eq ▸ quiet) .fresh calls)
      rw [h.token_eq, htoken]
      rfl

/-- There is an outcome when the caller wants one even if every lens fails. -/
theorem exists_outcome {diff : Diff} {options : ReviewOptions} {plan : Plan} (nonempty : diff.isEmpty = false)
    (planned : options.plan = .ok plan) (run : RunOptions) (wanted : run.partialOnAllFailed = true)
    (token : Token) (s : Session) :
    ∃ outcome, (s.orchestrate diff options run token).1 = .ok outcome := by
  obtain ⟨root, tasks, opened, k, calls, last, h⟩ := exists_reviewed nonempty planned run token s
  refine ⟨LensEnd.outcome plan root.traceId (LensEnd.ofRun (s.answers diff options) k plan.lenses), ?_⟩
  rw [h.result_eq, LensEnd.result, LensEnd.fatal?, wanted]
  rfl

end Session

end ReviewPanel
