import ReviewPanel.Proofs.Review.CounterAccounts
import ReviewPanel.Proofs.Review.FailFast

/-! # The spans of a review

All that a review tells and asks is in one trace. The run itself tells in a span without a parent; every lens
gets a span below it when it is queued, and tells and asks in this span only. Where the spans that are drawn
differ, the events of one span are those of one lens, however the lenses take turns. -/
namespace ReviewPanel

/-- The spans that are drawn next from a supply. -/
def Ids.nextSpans (ids : Ids) (count : Nat) : List String := (List.range' ids.spans count).map ids.span

namespace EventKind

/-- The lens that tells of its own work. That a lens is queued is told by the run. -/
def worker? (kind : EventKind) : Option AgentRef := if kind.queued?.isSome then none else kind.agent?

theorem filter_worker?_framed {agents : List AgentRef} {concurrency : Nat} {body : List EventKind}
    (h : ∀ kind ∈ body, kind.queued? = none) (summary : String) (totalIssues : Nat)
    (lensStats : List LensStat) (filesAnalyzed : Nat) (agent : AgentRef) :
    (framed agents concurrency body summary totalIssues lensStats filesAnalyzed).filter
        (·.worker? = some agent) = body.filter (·.agent? = some agent) := by
  have hqueued : (queued agents).filter (·.worker? = some agent) = [] := by
    apply List.filter_eq_nil_iff.mpr
    intro kind hkind
    obtain ⟨p, -, rfl⟩ := List.mem_map.mp hkind
    exact Bool.false_ne_true
  have hbody : body.filter (·.worker? = some agent) = body.filter (·.agent? = some agent) := by
    apply List.filter_congr
    intro kind hkind
    rw [worker?, h kind hkind]
    rfl
  rw [framed, List.filter_cons_of_neg (by exact Bool.false_ne_true), List.filter_append, List.filter_append,
    hqueued, hbody]
  exact List.append_nil _

end EventKind

theorem LensTask.worker?_of_mem_kinds {diff : Diff} {context : ReviewContext} {script : String → Script}
    {c : Call LensTask} {kind : EventKind} (h : kind ∈ kinds diff context script c) :
    kind.worker? = some c.task.lens.agent := by
  rw [EventKind.worker?, queued?_of_mem_kinds h]
  exact agent?_of_mem_kinds h

namespace Session

/-- A lens that is queued gets a span of its own below that of the run. -/
theorem queue_spans (root : TraceContext) (total position : Nat) (lenses : List Lens) (s : Session) :
    let tasks := (s.queue root total position lenses).1
    (∀ t ∈ tasks, t.trace.parentSpanId = some root.spanId) ∧
      tasks.map (·.trace.spanId) = s.ids.nextSpans lenses.length := by
  induction lenses generalizing position s with
  | nil => exact ⟨fun t ht => absurd ht List.not_mem_nil, rfl⟩
  | cons lens rest ih =>
    obtain ⟨hparent, hspans⟩ := ih (position + 1)
      { s.emit s.clock root (.agentQueued lens.agent position total) with ids := (root.child s.ids).2 }
    constructor
    · intro t ht
      rcases List.mem_cons.mp ht with rfl | ht
      · rfl
      · exact hparent t ht
    · exact congrArg (s.ids.span s.ids.spans :: ·) hspans

theorem openRun_spans (diff : Diff) (plan : Plan) (concurrency : Nat) (s : Session) :
    let o := s.openRun diff plan concurrency
    o.1.parentSpanId = none ∧ (∀ t ∈ o.2.1, t.trace.parentSpanId = some o.1.spanId) ∧
      o.1.spanId :: o.2.1.map (·.trace.spanId) = s.ids.nextSpans (plan.lenses.length + 1) := by
  obtain ⟨hparent, hspans⟩ := queue_spans (TraceContext.root s.ids).1 plan.lenses.length 1 plan.lenses
    ((Session.note { s with ids := (TraceContext.root s.ids).2, metrics := s.metrics.addReview }
      [.reviewStarted (TraceContext.root s.ids).1.traceId plan.lenses.length concurrency diff.fileCount]).emit
        s.clock (TraceContext.root s.ids).1 (.orchestratorStart (plan.lenses.map Lens.agent) concurrency))
  exact ⟨rfl, hparent, congrArg (s.ids.span s.ids.spans :: ·) hspans⟩

/-- What a review tells and asks, placed in the span of the run and in the spans of its lenses. -/
structure Spanned (diff : Diff) (context : ReviewContext) (root : TraceContext) (tasks : List LensTask)
    (events : List Event) (asked : List Request) : Prop where
  traceId_eq : ∀ event ∈ events, event.trace.traceId = root.traceId
  root_parent : root.parentSpanId = none
  child : ∀ t ∈ tasks, t.trace.traceId = root.traceId ∧ t.trace.parentSpanId = some root.spanId
  distinct : (root.spanId :: tasks.map (·.trace.spanId)).Nodup
  /-- That the run starts and completes, and that a lens is queued, is told in the span of the run. -/
  frame : ∀ event ∈ events, event.kind.worker? = none → event.trace = root
  worker_mem : ∀ event ∈ events, ∀ agent, event.kind.worker? = some agent →
    agent ∈ tasks.map (·.lens.agent)
  work : ∀ t ∈ tasks, ∀ event ∈ events, event.kind.worker? = some t.lens.agent → event.trace = t.trace
  /-- The events of one span are those of one lens, in their order, and tell its whole story. -/
  group_eq : ∀ t ∈ tasks, events.filter (·.trace.spanId = t.trace.spanId) =
    events.filter (·.kind.worker? = some t.lens.agent)
  story : ∀ t ∈ tasks, EventKind.Story t.lens.agent
    ((events.filter (·.trace.spanId = t.trace.spanId)).map Event.kind)
  /-- A lens asks in its own span if it is started and does not break off before, and no other asks. -/
  asked_eq : asked = (tasks.filter fun t => !Lens.overflows diff context &&
    EventKind.tellStart (events.map Event.kind) t.lens.agent).map fun t => t.lens.request diff context t.trace

variable {diff : Diff} {options : ReviewOptions} {run : RunOptions} {plan : Plan} {token : Token} {s : Session}
  {root : TraceContext} {tasks : List LensTask} {opened : Session} {k : Nat} {calls : List (Call LensTask)}
  {last : Pool Session LensTask LensReport LensFailure}

theorem Reviewed.spans (h : Reviewed diff options run plan token s root tasks opened k calls last) :
    root.parentSpanId = none ∧ (∀ t ∈ tasks, t.trace.parentSpanId = some root.spanId) ∧
      root.spanId :: tasks.map (·.trace.spanId) = s.ids.nextSpans (plan.lenses.length + 1) := by
  have hspans := openRun_spans diff plan (effectiveConcurrency run.concurrency plan.lenses.length)
    (s.note options.profileRecords)
  rw [h.opened_eq] at hspans
  exact hspans

/-- An event of a review is told by the run, or by one of its lenses during a call. -/
theorem Reviewed.trace_of_mem (h : Reviewed diff options run plan token s root tasks opened k calls last)
    {new : List Event} (hnew : (s.orchestrate diff options run token).2.2.events = s.events ++ new)
    {event : Event} (hevent : event ∈ new) :
    (event.kind.worker? = none ∧ event.trace = root) ∨
      ∃ t ∈ tasks, event.kind.worker? = some t.lens.agent ∧ event.trace = t.trace := by
  rw [List.append_cancel_left (hnew.symm.trans h.events_eq)] at hevent
  rcases List.mem_append.mp hevent with hopening | hevent
  · obtain ⟨kind, hkind, rfl⟩ := List.mem_map.mp hopening
    refine .inl ⟨?_, rfl⟩
    rcases List.mem_cons.mp hkind with rfl | hkind
    · rfl
    · obtain ⟨p, -, rfl⟩ := List.mem_map.mp hkind
      rfl
  · rcases List.mem_append.mp hevent with htold | hlast
    · obtain ⟨call, hcall, htold⟩ := List.mem_flatMap.mp htold
      have hkind : event.kind ∈ LensTask.kinds _ _ _ call :=
        LensTask.map_kind_told call ▸ List.mem_map_of_mem htold
      exact .inr ⟨call.task, List.mem_of_getElem? (h.course.task_eq hcall).2,
        LensTask.worker?_of_mem_kinds hkind, LensTask.trace_of_mem_told htold⟩
    · rw [List.mem_singleton.mp hlast]
      exact .inl ⟨rfl, rfl⟩

theorem Reviewed.story_of_task (h : Reviewed diff options run plan token s root tasks opened k calls last)
    (distinct : (plan.lenses.map Lens.agent).Nodup) {t : LensTask} (ht : t ∈ tasks) :
    EventKind.Story t.lens.agent
      ((toldKinds diff options run plan s k calls).filter (·.worker? = some t.lens.agent)) := by
  obtain ⟨i, hi⟩ := List.mem_iff_getElem?.mp ht
  have hbody : ∀ kind ∈ calls.flatMap (LensTask.kinds diff ⟨options.projectContext, options.focus⟩
      (s.answers diff options)), kind.queued? = none := by
    intro kind hkind
    obtain ⟨call, -, hkind⟩ := List.mem_flatMap.mp hkind
    exact LensTask.queued?_of_mem_kinds hkind
  rw [toldKinds, EventKind.filter_worker?_framed hbody, h.story_eq distinct (h.getElem?_lenses hi)]
  split
  · obtain ⟨tools, hlook, hopening⟩ := LensTask.opening_eq t.lens diff ⟨options.projectContext, options.focus⟩
    rw [hopening]
    exact .told _ hlook (LensTask.closing_closing _ _)
  · exact .silent

/-- Since its span is that of no other lens and not that of the run, a lens tells all that is told in it. -/
theorem Reviewed.filter_spanId (h : Reviewed diff options run plan token s root tasks opened k calls last)
    (agents : (tasks.map (·.lens.agent)).Nodup) (spans : (root.spanId :: tasks.map (·.trace.spanId)).Nodup)
    {new : List Event} (hnew : (s.orchestrate diff options run token).2.2.events = s.events ++ new)
    {t : LensTask} (ht : t ∈ tasks) :
    new.filter (·.trace.spanId = t.trace.spanId) = new.filter (·.kind.worker? = some t.lens.agent) := by
  obtain ⟨hroot, htasks⟩ := List.nodup_cons.mp spans
  apply List.filter_congr
  intro event hevent
  rw [decide_eq_decide]
  rcases h.trace_of_mem hnew hevent with ⟨hworker, htrace⟩ | ⟨t', ht', hworker, htrace⟩
  · rw [hworker, htrace]
    exact iff_of_false (fun hspan => hroot (hspan ▸ List.mem_map_of_mem ht)) nofun
  · rw [hworker, htrace, Option.some.injEq]
    constructor
    · intro hspan
      rw [List.inj_on_of_nodup_map htasks ht' ht hspan]
    · intro hagent
      rw [List.inj_on_of_nodup_map agents ht' ht hagent]

theorem Reviewed.spanned (h : Reviewed diff options run plan token s root tasks opened k calls last)
    (distinct : (plan.lenses.map Lens.agent).Nodup)
    (fresh : (s.ids.nextSpans (plan.lenses.length + 1)).Nodup)
    {new : List Event} (hnew : (s.orchestrate diff options run token).2.2.events = s.events ++ new)
    (hkinds : new.map Event.kind = toldKinds diff options run plan s k calls) :
    let context : ReviewContext := ⟨options.projectContext, options.focus⟩
    Spanned diff context root tasks new (((tasks.take k).filter fun _ => !Lens.overflows diff context).map fun t =>
      t.lens.request diff context t.trace) := by
  intro context
  obtain ⟨hroot, hparent, hspans⟩ := h.spans
  have hdistinct : (root.spanId :: tasks.map (·.trace.spanId)).Nodup := hspans ▸ fresh
  have hagents : (tasks.map (·.lens.agent)).Nodup := h.agents_eq ▸ distinct
  have hgroup (t : LensTask) (ht : t ∈ tasks) := h.filter_spanId hagents hdistinct hnew ht
  refine ⟨?_, hroot, fun t ht => ⟨h.tasks_trace t ht, hparent t ht⟩, hdistinct, ?_, ?_, ?_, hgroup, ?_, ?_⟩
  · intro event hevent
    rcases h.trace_of_mem hnew hevent with ⟨-, htrace⟩ | ⟨t, ht, -, htrace⟩
    · rw [htrace]
    · rw [htrace]
      exact h.tasks_trace t ht
  · intro event hevent hnone
    rcases h.trace_of_mem hnew hevent with ⟨-, htrace⟩ | ⟨t, -, hworker, -⟩
    · exact htrace
    · cases hnone.symm.trans hworker
  · intro event hevent agent hagent
    rcases h.trace_of_mem hnew hevent with ⟨hnone, -⟩ | ⟨t, ht, hworker, -⟩
    · cases hnone.symm.trans hagent
    · rw [← Option.some.inj (hworker.symm.trans hagent)]
      exact List.mem_map_of_mem ht
  · intro t ht event hevent hagent
    rcases h.trace_of_mem hnew hevent with ⟨hnone, -⟩ | ⟨t', ht', hworker, htrace⟩
    · cases hnone.symm.trans hagent
    · have hsame : t'.lens.agent = t.lens.agent := Option.some.inj (hworker.symm.trans hagent)
      rw [htrace, List.inj_on_of_nodup_map hagents ht' ht hsame]
  · intro t ht
    have hstory := h.story_of_task distinct ht
    rw [← hkinds, List.filter_map] at hstory
    rw [hgroup t ht]
    exact hstory
  · rw [hkinds, ← h.filter_tellStart_tasks distinct, List.filter_filter]

/-- A review that takes place has one trace, which its outcome names. The run starts, queues its lenses and
completes in a span without a parent. Every lens has a span below it, and tells its story and asks the model, if it
gets to ask, in this span; if the spans that are drawn differ, the events of a span are those of its lens. -/
theorem orchestrate_spans (nonempty : diff.isEmpty = false) (planned : options.plan = .ok plan)
    (run : RunOptions) (token : Token) (s : Session)
    (fresh : (s.ids.nextSpans (plan.lenses.length + 1)).Nodup) :
    let done := s.orchestrate diff options run token
    ∃ (root : TraceContext) (tasks : List LensTask) (new : List Event) (asked : List Request),
      done.2.2.events = s.events ++ new ∧ done.2.2.client.calls = s.client.calls ++ asked ∧
      tasks.map (·.lens) = plan.lenses ∧
      Spanned diff ⟨options.projectContext, options.focus⟩ root tasks new asked ∧
      ∀ outcome, done.1 = .ok outcome → outcome.traceId = root.traceId := by
  intro done
  obtain ⟨root, tasks, opened, k, calls, last, h⟩ := exists_reviewed nonempty planned run token s
  obtain ⟨new, hnew, hkinds⟩ := h.exists_told
  have hdistinct : (plan.lenses.map Lens.agent).Nodup := ReviewOptions.nodup_agents_of_plan planned
  refine ⟨root, tasks, new, _, hnew, h.asked_eq, h.tasks_lens, h.spanned hdistinct fresh hnew hkinds, ?_⟩
  intro outcome houtcome
  rw [LensEnd.eq_outcome (h.result_eq.symm.trans houtcome)]
  rfl

/-- Two lenses at work together: the spans are drawn one after the other. -/
theorem orchestrate_spans_of_two_lenses :
    let diff : Diff := .ofFiles [⟨"lib.rs", none, .modify, [], "", 1, 0⟩]
    let options : ReviewOptions := ⟨some ["security", "correctness"], none, none, none, some ⟨"lib.rs", none, none⟩⟩
    let plan : Plan := ⟨[.ofId .security, .ofId .correctness], none⟩
    let s := Session.new (ScriptedClient.new.withLatency "security" 5) .counting
    (s.ids.nextSpans 3).Nodup ∧
      ∃ root tasks new asked,
        (s.orchestrate diff options ⟨2, false, false⟩ .fresh).2.2.events = s.events ++ new ∧
        tasks.map (·.lens) = plan.lenses ∧
        Spanned diff ⟨none, some ⟨"lib.rs", none, none⟩⟩ root tasks new asked := by
  intro diff options plan s
  have planned : options.plan = .ok plan := rfl
  have fresh : (s.ids.nextSpans (plan.lenses.length + 1)).Nodup := by decide
  have nonempty : diff.isEmpty = false := rfl
  obtain ⟨root, tasks, new, asked, hnew, -, hlenses, hspanned, -⟩ :=
    orchestrate_spans nonempty planned ⟨2, false, false⟩ .fresh s fresh
  exact ⟨fresh, root, tasks, new, asked, hnew, hlenses, hspanned⟩

end Session

end ReviewPanel
