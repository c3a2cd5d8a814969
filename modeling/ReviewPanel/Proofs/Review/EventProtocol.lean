import Mathlib.Data.List.Nodup
import ReviewPanel.Proofs.Review.PlannedLenses
import ReviewPanel.Proofs.Review.ReviewCourse

/-! # The protocol of events

However the lenses take turns and however each of them ends, the events of a review follow one protocol:
they say which lenses there are, queue them, tell for each lens that is started one story from its start to
its end, and close with the results. -/
namespace ReviewPanel

namespace EventKind

def started? : EventKind → Option AgentRef
  | .agentStart agent => some agent
  | _ => none

def isStart (kind : EventKind) : Bool := kind.started?.isSome

def isEnd : EventKind → Bool
  | .agentComplete .. => true
  | .agentError .. => true
  | _ => false

/-- A lens starts or ends. -/
def isBoundary (kind : EventKind) : Bool := kind.isStart || kind.isEnd

/-- The events that queue the lenses. -/
def queued (agents : List AgentRef) : List EventKind :=
  (agents.zipIdx 1).map fun p => .agentQueued p.1 p.2 agents.length

inductive Look (agent : AgentRef) : List EventKind → Prop where
  | none : Look agent []
  | read (tool : String) (input : Json) (summary : String) :
      Look agent [.toolCall agent tool input, .toolResult agent tool summary]

inductive Closing (agent : AgentRef) : EventKind → Prop where
  | complete (issueCount : Nat) : Closing agent (.agentComplete agent issueCount)
  | error (e : ReviewError) : Closing agent (.agentError agent e)

theorem Closing.agent?_eq {agent : AgentRef} {kind : EventKind} (h : Closing agent kind) :
    kind.agent? = some agent := by
  cases h <;> rfl

theorem Closing.isEnd_eq {agent : AgentRef} {kind : EventKind} (h : Closing agent kind) :
    kind.isEnd = true := by
  cases h <;> rfl

theorem Closing.started?_eq {agent : AgentRef} {kind : EventKind} (h : Closing agent kind) :
    kind.started? = none := by
  cases h <;> rfl

/-- What is told of a lens after it was queued: nothing, or all from its start to its end. -/
inductive Story (agent : AgentRef) : List EventKind → Prop where
  | silent : Story agent []
  | told {tools : List EventKind} {closing : EventKind} (thought : String) (look : Look agent tools)
      (ending : Closing agent closing) :
      Story agent (.agentStart agent :: .agentThinking agent thought :: (tools ++ [closing]))

/-- The protocol of a review by some lenses, of which no more than `concurrency` are at work at a time. -/
structure Protocol (agents : List AgentRef) (concurrency : Nat) (kinds : List EventKind) : Prop where
  frame : ∃ body summary totalIssues lensStats filesAnalyzed,
    kinds = .orchestratorStart agents concurrency ::
      (queued agents ++ (body ++ [.orchestratorComplete summary totalIssues lensStats filesAnalyzed])) ∧
      ∀ kind ∈ body, ∃ agent ∈ agents, kind.agent? = some agent
  story : ∀ i agent, agents[i]? = some agent → ∃ story, Story agent story ∧
    kinds.filter (·.agent? = some agent) = .agentQueued agent (i + 1) agents.length :: story
  started : kinds.filterMap started? <+: agents
  bounded : ∀ before, before <+: kinds → before.countP isStart ≤ before.countP isEnd + concurrency

theorem countP_filter_isBoundary {p : EventKind → Bool} (hp : ∀ kind, p kind = true → kind.isBoundary = true)
    (kinds : List EventKind) : (kinds.filter isBoundary).countP p = kinds.countP p := by
  rw [List.countP_filter]
  apply List.countP_congr
  intro kind _
  rw [Bool.and_eq_true]
  exact and_iff_left_of_imp (hp kind)

theorem isBoundary_of_isStart (kind : EventKind) (h : kind.isStart = true) : kind.isBoundary = true := by
  rw [isBoundary, h, Bool.true_or]

theorem isBoundary_of_isEnd (kind : EventKind) (h : kind.isEnd = true) : kind.isBoundary = true := by
  rw [isBoundary, h, Bool.or_true]

theorem filter_queued {agents : List AgentRef} (distinct : agents.Nodup) {i : Nat} {agent : AgentRef}
    (h : agents[i]? = some agent) (first total : Nat) :
    ((agents.zipIdx first).map fun p => agentQueued p.1 p.2 total).filter (·.agent? = some agent) =
      [.agentQueued agent (first + i) total] := by
  induction agents generalizing first i with
  | nil => cases h
  | cons a rest ih =>
    obtain ⟨hfresh, hrest⟩ := List.nodup_cons.mp distinct
    have hothers : agent ∉ rest → ((rest.zipIdx (first + 1)).map fun p =>
        agentQueued p.1 p.2 total).filter (·.agent? = some agent) = [] := by
      intro hagent
      rw [List.filter_eq_nil_iff]
      intro kind hkind heq
      obtain ⟨p, hp, rfl⟩ := List.mem_map.mp hkind
      have hp' : p.1 = agent := by simpa [agent?] using heq
      exact hagent (hp' ▸ List.fst_mem_of_mem_zipIdx hp)
    rw [List.zipIdx_cons, List.map_cons]
    cases i with
    | zero =>
      obtain rfl : a = agent := Option.some.inj h
      rw [List.filter_cons_of_pos (by simp [agent?]), hothers hfresh, Nat.add_zero]
    | succ i =>
      have hmem : agent ∈ rest := List.mem_of_getElem? h
      have hne : a ≠ agent := fun heq => hfresh (heq ▸ hmem)
      rw [List.filter_cons_of_neg (by simpa [agent?] using hne), ih hrest h, Nat.add_assoc, Nat.add_comm 1]

theorem started?_queued (agents : List AgentRef) : (queued agents).filterMap started? = [] := by
  rw [List.filterMap_eq_nil_iff]
  intro kind hkind
  obtain ⟨p, _, rfl⟩ := List.mem_map.mp hkind
  rfl

theorem filter_isBoundary_queued (agents : List AgentRef) : (queued agents).filter isBoundary = [] := by
  rw [List.filter_eq_nil_iff]
  intro kind hkind
  obtain ⟨p, _, rfl⟩ := List.mem_map.mp hkind
  exact Bool.false_ne_true

section Framed

/-- The events of a review: what happens between the queue and the results. -/
def framed (agents : List AgentRef) (concurrency : Nat) (body : List EventKind) (summary : String)
    (totalIssues : Nat) (lensStats : List LensStat) (filesAnalyzed : Nat) : List EventKind :=
  .orchestratorStart agents concurrency ::
    (queued agents ++ (body ++ [.orchestratorComplete summary totalIssues lensStats filesAnalyzed]))

variable {agents : List AgentRef} {concurrency : Nat} {body : List EventKind} {summary : String}
  {totalIssues : Nat} {lensStats : List LensStat} {filesAnalyzed : Nat}

theorem exists_front {kinds : List EventKind}
    (h : kinds = framed agents concurrency body summary totalIssues lensStats filesAnalyzed) :
    ∃ front, kinds = front ++ [.orchestratorComplete summary totalIssues lensStats filesAnalyzed] := by
  refine ⟨.orchestratorStart agents concurrency :: (queued agents ++ body), ?_⟩
  rw [h, framed, List.cons_append, List.append_assoc]

theorem filter_framed (distinct : agents.Nodup) {i : Nat} {agent : AgentRef} (h : agents[i]? = some agent) :
    (framed agents concurrency body summary totalIssues lensStats filesAnalyzed).filter
        (·.agent? = some agent) =
      .agentQueued agent (i + 1) agents.length :: body.filter (·.agent? = some agent) := by
  rw [framed, List.filter_cons_of_neg (by simp [agent?]), List.filter_append, List.filter_append, queued,
    filter_queued distinct h, Nat.add_comm 1]
  exact congrArg (_ :: ·) (List.append_nil _)

theorem filterMap_started?_framed :
    (framed agents concurrency body summary totalIssues lensStats filesAnalyzed).filterMap started? =
      body.filterMap started? := by
  rw [framed, List.filterMap_cons_none rfl, List.filterMap_append, List.filterMap_append, started?_queued]
  exact List.append_nil _

theorem filter_isBoundary_framed :
    (framed agents concurrency body summary totalIssues lensStats filesAnalyzed).filter isBoundary =
      body.filter isBoundary := by
  rw [framed, List.filter_cons_of_neg Bool.false_ne_true, List.filter_append, List.filter_append,
    filter_isBoundary_queued]
  exact List.append_nil _

end Framed

end EventKind

namespace LensTask

def kinds (diff : Diff) (context : ReviewContext) (script : String → Script) : Call LensTask → List EventKind
  | .start _ t _ => .agentStart t.lens.agent :: t.lens.opening diff context
  | .finish _ u time => [closing u.task.lens.agent (u.task.lens.endingAfter (time - u.startedAt) script)]

variable {diff : Diff} {context : ReviewContext} {script : String → Script}

theorem map_kind_told (c : Call LensTask) :
    (told diff context script c).map Event.kind = kinds diff context script c := by
  cases c with
  | start index t time =>
    rw [told, List.map_map]
    exact List.map_id _
  | finish lane u time => rfl

theorem trace_of_mem_told {c : Call LensTask} {event : Event} (h : event ∈ told diff context script c) :
    event.trace = c.task.trace := by
  cases c with
  | start index t time =>
    obtain ⟨kind, _, rfl⟩ := List.mem_map.mp h
    rfl
  | finish lane u time =>
    rw [List.mem_singleton.mp h]
    rfl

theorem opening_eq (lens : Lens) (diff : Diff) (context : ReviewContext) :
    ∃ tools, EventKind.Look lens.agent tools ∧
      lens.opening diff context = .agentThinking lens.agent (lens.thought diff) :: tools := by
  rw [Lens.opening]
  cases Lens.focusFile diff context with
  | none => exact ⟨[], .none, rfl⟩
  | some found =>
    simp only [Lens.focusEvents]
    cases Lens.focusRange found.1 found.2 with
    | none => exact ⟨[], .none, rfl⟩
    | some range => exact ⟨_, .read .., rfl⟩

theorem isBoundary_of_mem_opening {lens : Lens} {kind : EventKind} (h : kind ∈ lens.opening diff context) :
    kind.isBoundary = false := by
  obtain ⟨tools, hlook, hopening⟩ := opening_eq lens diff context
  rw [hopening] at h
  cases hlook <;> simp only [List.mem_cons, List.not_mem_nil, or_false] at h
  · rw [h]
    rfl
  · rcases h with rfl | rfl | rfl <;> rfl

theorem closing_closing (agent : AgentRef) (ending : Ending LensReport ReviewError) :
    EventKind.Closing agent (closing agent ending) := by
  cases ending with
  | returned r => exact .complete _
  | failed e => exact .error _
  | crashed c => exact .error _

theorem agent?_of_mem_kinds {c : Call LensTask} {kind : EventKind} (h : kind ∈ kinds diff context script c) :
    kind.agent? = some c.task.lens.agent := by
  cases c with
  | start index t time =>
    obtain ⟨tools, hlook, hopening⟩ := opening_eq t.lens diff context
    rw [kinds, hopening] at h
    cases hlook <;> simp only [List.mem_cons, List.not_mem_nil, or_false] at h
    · rcases h with rfl | rfl <;> rfl
    · rcases h with rfl | rfl | rfl | rfl <;> rfl
  | finish lane u time =>
    rw [List.mem_singleton.mp h]
    exact (closing_closing _ _).agent?_eq

/-- A call tells once that its lens starts or ends. -/
def boundary (script : String → Script) : Call LensTask → EventKind
  | .start _ t _ => .agentStart t.lens.agent
  | .finish _ u time => closing u.task.lens.agent (u.task.lens.endingAfter (time - u.startedAt) script)

theorem filter_kinds (c : Call LensTask) :
    (kinds diff context script c).filter EventKind.isBoundary = [boundary script c] := by
  cases c with
  | start index t time =>
    obtain ⟨tools, hlook, hopening⟩ := opening_eq t.lens diff context
    rw [kinds, hopening]
    cases hlook <;> rfl
  | finish lane u time =>
    apply List.filter_cons_of_pos
    exact EventKind.isBoundary_of_isEnd _ (closing_closing _ _).isEnd_eq

theorem isStart_boundary (c : Call LensTask) : (boundary script c).isStart = c.isStart := by
  cases c with
  | start index t time => rfl
  | finish lane u time => rw [EventKind.isStart, boundary, (closing_closing _ _).started?_eq]; rfl

theorem isEnd_boundary (c : Call LensTask) : (boundary script c).isEnd = c.isFinish := by
  cases c with
  | start index t time => rfl
  | finish lane u time => exact (closing_closing _ _).isEnd_eq

theorem filter_flatMap_kinds (calls : List (Call LensTask)) :
    (calls.flatMap (kinds diff context script)).filter EventKind.isBoundary = calls.map (boundary script) := by
  rw [List.filter_flatMap, List.map_eq_flatMap]
  exact congrArg (calls.flatMap ·) (funext filter_kinds)

theorem started?_kinds (c : Call LensTask) :
    (kinds diff context script c).filterMap EventKind.started? =
      (c.started?.map fun p => p.2.lens.agent).toList := by
  cases c with
  | start index t time =>
    obtain ⟨tools, hlook, hopening⟩ := opening_eq t.lens diff context
    rw [kinds, hopening]
    cases hlook <;> rfl
  | finish lane u time =>
    exact List.filterMap_cons_none (closing_closing _ _).started?_eq

end LensTask

namespace Pool

open LensTask

variable {diff : Diff} {context : ReviewContext} {failFast : Bool} {capacity : Nat} {tasks : List LensTask}
  {token : Token} {now k : Nat} {s : Session} {calls : List (Call LensTask)} {script : String → Script}
  {last : Pool Session LensTask LensReport LensFailure}

/-- Of what happens in a run, what is about one lens happens during the calls about it. -/
theorem Course.filter_kinds_eq
    (c : Course (worker diff context failFast) capacity tasks token now s k calls last)
    (distinct : (tasks.map (·.lens.agent)).Nodup) {i : Nat} {t : LensTask} (ht : tasks[i]? = some t) :
    (calls.flatMap (kinds diff context script)).filter (·.agent? = some t.lens.agent) =
      (Call.about i calls).flatMap (kinds diff context script) := by
  rw [List.filter_flatMap, Call.flatMap_about]
  apply List.flatMap_congr
  intro call hcall
  have hcalltask := (c.task_eq hcall).2
  by_cases hi : call.index = i
  · obtain rfl : call.task = t := Option.some.inj (hcalltask.symm.trans (hi ▸ ht))
    rw [if_pos hi, List.filter_eq_self]
    intro kind hkind
    exact decide_eq_true (agent?_of_mem_kinds hkind)
  · rw [if_neg hi, List.filter_eq_nil_iff]
    intro kind hkind heq
    have hagent : call.task.lens.agent = t.lens.agent :=
      Option.some.inj ((agent?_of_mem_kinds hkind).symm.trans (of_decide_eq_true heq))
    have hlt : call.index < (tasks.map (·.lens.agent)).length := by
      rw [List.length_map]
      exact (List.getElem?_eq_some_iff.mp hcalltask).1
    apply hi
    apply (List.getElem?_inj hlt distinct).mp
    rw [List.getElem?_map, List.getElem?_map, hcalltask, ht]
    exact congrArg some hagent

theorem Course.story_eq
    (c : Course (worker diff context failFast) capacity tasks token now s k calls last)
    (distinct : (tasks.map (·.lens.agent)).Nodup) {i : Nat} {t : LensTask} (ht : tasks[i]? = some t) :
    let script := Lens.answers diff context s.client.script
    (calls.flatMap (kinds diff context script)).filter (·.agent? = some t.lens.agent) =
      if i < k then .agentStart t.lens.agent :: (t.lens.opening diff context ++
        [closing t.lens.agent (t.lens.ending script)]) else [] := by
  intro script
  rw [c.filter_kinds_eq distinct ht]
  by_cases hi : i < k
  · obtain ⟨lane, startedAt, habout⟩ := c.about_lens hi ht
    rw [habout, if_pos hi, List.flatMap_cons, List.flatMap_singleton, kinds, kinds, Nat.add_sub_cancel_left]
    rfl
  · rw [(c.books.waiting i (Nat.le_of_not_lt hi)).1, if_neg hi]
    rfl

theorem Course.started_eq
    (c : Course (worker diff context failFast) capacity tasks token now s k calls last) :
    (calls.flatMap (kinds diff context script)).filterMap EventKind.started? =
      (tasks.take k).map (·.lens.agent) := by
  have hstarted : ∀ calls : List (Call LensTask),
      (calls.flatMap (kinds diff context script)).filterMap EventKind.started? =
        (calls.filterMap Call.started?).map fun p => p.2.lens.agent := by
    intro calls
    induction calls with
    | nil => rfl
    | cons call rest ih =>
      rw [List.flatMap_cons, List.filterMap_append, ih, started?_kinds, List.filterMap_cons]
      cases call.started? <;> rfl
  rw [hstarted, c.books.started]
  have hline := congrArg (List.map fun t : LensTask => t.lens.agent) (Lanes.map_snd_line 0 (tasks.take k))
  rw [List.map_map] at hline
  exact hline

/-- At no time have more lenses started than have ended and may be at work together. -/
theorem Course.countP_isStart_kinds_le
    (c : Course (worker diff context failFast) capacity tasks token now s k calls last) {before : List EventKind}
    (h : before.filter EventKind.isBoundary <+: calls.map (boundary script)) :
    before.countP EventKind.isStart ≤ before.countP EventKind.isEnd + capacity := by
  obtain ⟨earlier, ⟨later, hcalls⟩, hbefore⟩ := List.prefix_map_iff.mp h
  have hstarts : before.countP EventKind.isStart = earlier.countP Call.isStart := by
    rw [← EventKind.countP_filter_isBoundary EventKind.isBoundary_of_isStart, hbefore, List.countP_map]
    exact congrArg (List.countP · earlier) (funext isStart_boundary)
  have hends : before.countP EventKind.isEnd = earlier.countP Call.isFinish := by
    rw [← EventKind.countP_filter_isBoundary EventKind.isBoundary_of_isEnd, hbefore, List.countP_map]
    exact congrArg (List.countP · earlier) (funext isEnd_boundary)
  rw [hstarts, hends]
  exact c.countP_isStart_le hcalls.symm

end Pool

namespace Session

variable {diff : Diff} {options : ReviewOptions} {run : RunOptions} {plan : Plan} {token : Token} {s : Session}
  {root : TraceContext} {tasks : List LensTask} {opened : Session} {k : Nat} {calls : List (Call LensTask)}
  {last : Pool Session LensTask LensReport LensFailure}

theorem map_kind_openingEvents (root : TraceContext) (lenses : List Lens) (concurrency now : Nat) :
    (openingEvents root lenses concurrency now).map Event.kind =
      .orchestratorStart (lenses.map Lens.agent) concurrency :: EventKind.queued (lenses.map Lens.agent) := by
  rw [openingEvents, List.map_map, EventKind.queued, List.zipIdx_map, List.map_map, List.length_map]
  exact List.map_id _

theorem Reviewed.agents_eq (h : Reviewed diff options run plan token s root tasks opened k calls last) :
    tasks.map (·.lens.agent) = plan.lenses.map Lens.agent := by
  rw [← h.tasks_lens, List.map_map]
  rfl

theorem Reviewed.exists_new (h : Reviewed diff options run plan token s root tasks opened k calls last) :
    ∃ new, (s.orchestrate diff options run token).2.2.events = s.events ++ new ∧
      (∀ event ∈ new, event.trace.traceId = root.traceId) ∧
      new.map Event.kind = EventKind.framed (plan.lenses.map Lens.agent)
        (effectiveConcurrency run.concurrency plan.lenses.length)
        (calls.flatMap (LensTask.kinds diff ⟨options.projectContext, options.focus⟩ (s.answers diff options)))
        (LensEnd.summary (LensEnd.ofRun (s.answers diff options) k plan.lenses))
        (Issue.aggregate (LensEnd.issues (LensEnd.ofRun (s.answers diff options) k plan.lenses))
          plan.minSeverity).issues.length
        ((LensEnd.ofRun (s.answers diff options) k plan.lenses).map LensEnd.stat) diff.fileCount := by
  refine ⟨_, h.events_eq, ?_, ?_⟩
  · intro event hevent
    rcases List.mem_append.mp hevent with hopening | hevent
    · obtain ⟨kind, _, rfl⟩ := List.mem_map.mp hopening
      rfl
    · rcases List.mem_append.mp hevent with htold | hlast
      · obtain ⟨call, hcall, htold⟩ := List.mem_flatMap.mp htold
        rw [LensTask.trace_of_mem_told htold]
        exact h.tasks_trace _ (List.mem_of_getElem? (h.course.task_eq hcall).2)
      · rw [List.mem_singleton.mp hlast]
  · rw [List.map_append, List.map_append, map_kind_openingEvents, List.map_flatMap]
    simp only [LensTask.map_kind_told]
    rfl

/-- Of what happens in a review, a lens is queued, and then it has its story if it was started. -/
theorem Reviewed.story_eq (h : Reviewed diff options run plan token s root tasks opened k calls last)
    (distinct : (plan.lenses.map Lens.agent).Nodup) {i : Nat} {lens : Lens} (hlens : plan.lenses[i]? = some lens) :
    (calls.flatMap (LensTask.kinds diff ⟨options.projectContext, options.focus⟩ (s.answers diff options))).filter
        (·.agent? = some lens.agent) =
      if i < k then .agentStart lens.agent :: (lens.opening diff ⟨options.projectContext, options.focus⟩ ++
        [LensTask.closing lens.agent (lens.ending (s.answers diff options))]) else [] := by
  rw [← h.tasks_lens, List.getElem?_map] at hlens
  obtain ⟨t, ht, rfl⟩ := Option.map_eq_some_iff.mp hlens
  rw [answers, ← h.client_eq]
  exact h.course.story_eq (h.agents_eq ▸ distinct) ht

/-- A review that takes place follows the protocol. -/
theorem orchestrate_protocol (nonempty : diff.isEmpty = false) (planned : options.plan = .ok plan)
    (run : RunOptions) (token : Token) (s : Session) :
    ∃ new, (s.orchestrate diff options run token).2.2.events = s.events ++ new ∧
      EventKind.Protocol (plan.lenses.map Lens.agent) (max 1 (min run.concurrency plan.lenses.length))
        (new.map Event.kind) := by
  obtain ⟨root, tasks, opened, k, calls, last, h⟩ := exists_reviewed nonempty planned run token s
  obtain ⟨new, hnew, -, hkinds⟩ := h.exists_new
  have hdistinct : (plan.lenses.map Lens.agent).Nodup := ReviewOptions.nodup_agents_of_plan planned
  refine ⟨new, hnew, ?_⟩
  rw [hkinds]
  constructor
  · refine ⟨_, _, _, _, _, rfl, ?_⟩
    intro kind hkind
    obtain ⟨call, hcall, hkind⟩ := List.mem_flatMap.mp hkind
    refine ⟨call.task.lens.agent, ?_, LensTask.agent?_of_mem_kinds hkind⟩
    rw [← h.agents_eq]
    exact List.mem_map_of_mem (List.mem_of_getElem? (h.course.task_eq hcall).2)
  · intro i agent hagent
    refine ⟨_, ?_, EventKind.filter_framed hdistinct hagent⟩
    rw [List.getElem?_map] at hagent
    obtain ⟨lens, hlens, rfl⟩ := Option.map_eq_some_iff.mp hagent
    rw [h.story_eq hdistinct hlens]
    by_cases hi : i < k
    · obtain ⟨tools, hlook, hopening⟩ := LensTask.opening_eq lens diff
        ⟨options.projectContext, options.focus⟩
      rw [if_pos hi, hopening]
      exact .told _ hlook (LensTask.closing_closing _ _)
    · rw [if_neg hi]
      exact .silent
  · rw [EventKind.filterMap_started?_framed, h.course.started_eq, List.map_take, h.agents_eq]
    exact List.take_prefix _ _
  · intro before hbefore
    have hboundary := hbefore.filter EventKind.isBoundary
    rw [EventKind.filter_isBoundary_framed, LensTask.filter_flatMap_kinds] at hboundary
    exact h.course.countP_isStart_kinds_le hboundary

theorem orchestrate_protocol_of_two_lenses :
    let diff : Diff := .ofFiles [⟨"lib.rs", none, .modify, [], "", 1, 0⟩]
    let options : ReviewOptions := ⟨some ["security", "correctness", "security"], none, none, none, none⟩
    let plan : Plan := ⟨[.ofId .security, .ofId .correctness], none⟩
    let s : Session := .new .new .counting
    diff.isEmpty = false ∧ options.plan = .ok plan ∧
      ∃ new, (s.orchestrate diff options ⟨5, false, false⟩ .fresh).2.2.events = s.events ++ new ∧
        EventKind.Protocol [⟨.security, "Security"⟩, ⟨.correctness, "Correctness"⟩] 2 (new.map Event.kind) := by
  intro diff options plan s
  have nonempty : diff.isEmpty = false := rfl
  have planned : options.plan = .ok plan := rfl
  exact ⟨nonempty, planned, orchestrate_protocol nonempty planned ⟨5, false, false⟩ .fresh s⟩

end Session

end ReviewPanel
