import ReviewPanel.Proofs.Review.ScheduleIndependence
import ReviewPanel.Proofs.Review.TerminalDecision

/-! # Reviews that stop early

A review that is to end with its first failure starts no lens after one. Whatever stops a review, the lenses
at work come to their ends and count, the model is asked once for each lens that was started and never for
another, unless the lenses break off at their look at the focus, and nothing but the client or a failure has
cancelled it. -/
namespace ReviewPanel

namespace LensEnd

/-- The issues of a review are those of the lenses that were started. -/
theorem issues_ofRun (script : String → Script) (k : Nat) (lenses : List Lens) :
    issues (ofRun script k lenses) = (lenses.take k).flatMap fun lens => (lens.ending script).issues := by
  rw [issues, filterMap_ofRun fun _ => rfl]
  exact issues_map_worked script (lenses.take k)

end LensEnd

namespace LensTask

variable {diff : Diff} {context : ReviewContext} {script : String → Script}

/-- A call that is told to start or to end a lens has its place among the calls. -/
theorem exists_call_of_boundary {calls : List (Call LensTask)} {before after : List EventKind} {kind : EventKind}
    (hkind : kind.isBoundary = true)
    (h : (before ++ kind :: after).filter EventKind.isBoundary = calls.map (boundary script)) :
    ∃ earlier c later, calls = earlier ++ c :: later ∧ boundary script c = kind ∧
      earlier.map (boundary script) = before.filter EventKind.isBoundary := by
  rw [List.filter_append, List.filter_cons_of_pos hkind] at h
  obtain ⟨earlier, rest, rfl, hbefore, hrest⟩ := List.map_eq_append_iff.mp h.symm
  obtain ⟨c, later, rfl, hc, -⟩ := List.map_eq_cons_iff.mp hrest
  exact ⟨earlier, c, later, rfl, hc, hbefore⟩

/-- A call that fails is told as an error, and no other is. -/
theorem error?_boundary (c : Call LensTask) : (boundary script c).error?.isSome = fails script c := by
  cases c with
  | start index t time => rfl
  | finish lane u time =>
    rw [boundary, fails]
    cases u.task.lens.endingAfter (time - u.startedAt) script <;> rfl

theorem any_error?_eq (kinds : List EventKind) :
    (kinds.filter EventKind.isBoundary).any (·.error?.isSome) = kinds.any (·.error?.isSome) := by
  rw [List.any_filter]
  congr 1
  funext kind
  cases kind <;> rfl

theorem any_fails_eq (calls : List (Call LensTask)) :
    (calls.map (boundary script)).any (·.error?.isSome) = calls.any (fails script) := by
  rw [List.any_map]
  exact congrArg (List.any calls) (funext error?_boundary)

theorem asked_eq (c : Call LensTask) :
    asked diff context c = c.started?.toList.flatMap fun p => p.2.lens.requests diff context p.2.trace := by
  cases c with
  | start index t time => exact (List.append_nil _).symm
  | finish lane u time => rfl

/-- Either all lenses get to ask or none does. -/
theorem flatMap_requests (ts : List LensTask) :
    (ts.flatMap fun t => t.lens.requests diff context t.trace) =
      (ts.filter fun _ => !Lens.overflows diff context).map fun t => t.lens.request diff context t.trace := by
  cases hover : Lens.overflows diff context with
  | true => simp [Lens.requests, hover]
  | false => simp [Lens.requests, hover, List.map_eq_flatMap]

end LensTask

namespace Pool

open LensTask

variable {diff : Diff} {context : ReviewContext} {failFast : Bool} {capacity : Nat} {tasks : List LensTask}
  {token : Token} {now k : Nat} {s : Session} {calls : List (Call LensTask)}
  {last : Pool Session LensTask LensReport LensFailure}

/-- No lens is handed over after a failure when a run is to end with the first one. -/
theorem Course.not_fails_before_start
    (c : Course (worker diff context true) capacity tasks token now s k calls last)
    {earlier later : List (Call LensTask)} {index time : Nat} {t : LensTask}
    (h : calls = earlier ++ .start index t time :: later) :
    earlier.any (fails (Lens.answers diff context s.client.script)) = false := by
  have hrunning : ((worker diff context true).performAll (s, token) earlier).2.isCancelled time = false :=
    Path.running_of_start (h ▸ c.path)
  cases hfails : earlier.any (fails (Lens.answers diff context s.client.script)) with
  | false => rfl
  | true =>
    rw [token_performAll, hfails, Bool.and_self, Bool.or_true] at hrunning
    exact hrunning

/-- The model is asked once for each lens that is handed over, in their order, if they get to ask. -/
theorem Course.asked_eq
    (c : Course (worker diff context failFast) capacity tasks token now s k calls last) :
    calls.flatMap (asked diff context) =
      ((tasks.take k).filter fun _ => !Lens.overflows diff context).map fun t =>
        t.lens.request diff context t.trace := by
  let requests (t : LensTask) : List Request := t.lens.requests diff context t.trace
  have hasked : calls.flatMap (asked diff context) =
      (calls.filterMap Call.started?).flatMap fun p => requests p.2 := by
    rw [List.filterMap_eq_flatMap_toList, List.flatMap_assoc]
    exact congrArg (calls.flatMap ·) (funext LensTask.asked_eq)
  have hline := congrArg (List.flatMap requests) (Lanes.map_snd_line 0 (tasks.take k))
  rw [List.flatMap_map] at hline
  rw [hasked, c.books.started, ← LensTask.flatMap_requests]
  exact hline

end Pool

namespace Session

/-- What is told of the lenses of a review that may stop before all of them were started, what their
statistics are, and what the model is asked, if the lenses get to ask. -/
structure Stops (failFast asks : Bool) (lenses : List Lens) (script : String → Script) (kinds : List EventKind)
    (lensStats : List LensStat) (asked : List Request) : Prop where
  /-- After a failure no lens starts if the review is to end with the first one. -/
  start_notMem : failFast = true → ∀ (before : List EventKind) (agent : AgentRef) (e : ReviewError)
    (after : List EventKind), kinds = before ++ .agentError agent e :: after →
    ∀ other, .agentStart other ∉ after
  error_iff : ∀ lens ∈ lenses, ∀ e, .agentError lens.agent e ∈ kinds ↔
    .agentStart lens.agent ∈ kinds ∧ Lens.FailsWith (script lens.id.name).reply e
  /-- A lens that is at work at some time comes to its end after it. -/
  exists_closing : ∀ lens ∈ lenses, ∀ before after, kinds = before ++ after →
    .agentStart lens.agent ∈ before → (∀ kind ∈ before, ¬ EventKind.Closing lens.agent kind) →
    ∃ kind ∈ after, EventKind.Closing lens.agent kind
  length_stats : lensStats.length = lenses.length
  success_stat : ∀ (i : Nat) (lens : Lens), lenses[i]? = some lens → ∀ count,
    .agentComplete lens.agent count ∈ kinds →
    ∃ d, lensStats[i]? = some ⟨lens.id, lens.name, .success, count, none, none, d⟩
  failure_stat : ∀ (i : Nat) (lens : Lens), lenses[i]? = some lens → ∀ e, .agentError lens.agent e ∈ kinds →
    ∃ d, lensStats[i]? = some ⟨lens.id, lens.name, .failed, 0, some e.code, some e.message, d⟩
  skipped_stat : ∀ (i : Nat) (lens : Lens), lenses[i]? = some lens → .agentStart lens.agent ∉ kinds →
    lensStats[i]? = some ⟨lens.id, lens.name, .failed, 0, some .notStarted,
      some ReviewError.notStarted.message, none⟩
  /-- The model is asked once for each lens that starts, in the order of the lenses, if these get to ask, and
  otherwise not at all. -/
  labels_eq : asked.map (·.label) =
    (lenses.filter fun lens => asks && EventKind.tellStart kinds lens.agent).map (·.id.name)

/-- Nothing is told, counted or asked in a review without lenses. -/
theorem stops_nil (failFast asks : Bool) (script : String → Script) :
    Stops failFast asks [] script [] [] [] where
  start_notMem _ _ _ _ _ h :=
    absurd h.symm (List.append_ne_nil_of_right_ne_nil _ (List.cons_ne_nil _ _))
  error_iff _ hlens := absurd hlens List.not_mem_nil
  exists_closing _ hlens := absurd hlens List.not_mem_nil
  length_stats := rfl
  success_stat _ _ hlens := nomatch hlens
  failure_stat _ _ hlens := nomatch hlens
  skipped_stat _ _ hlens := nomatch hlens
  labels_eq := rfl

end Session

/-- An outcome has the results of all lenses that were started, and names those that were not. -/
structure Outcome.Keeps (o : Outcome) (lenses : List Lens) (kinds : List EventKind)
    (lensStats : List LensStat) (threshold : Option Severity) (found : Lens → List Issue) : Prop where
  lensStats_eq : o.lensStats = lensStats
  failed_mem : ∀ lens ∈ lenses, ∀ e, .agentError lens.agent e ∈ kinds →
    ⟨lens.id, lens.name, e.code, e.message⟩ ∈ o.failedLenses
  skipped_mem : ∀ lens ∈ lenses, .agentStart lens.agent ∉ kinds →
    ⟨lens.id, lens.name, .notStarted, ReviewError.notStarted.message⟩ ∈ o.failedLenses
  issues_eq : o.issues = (Issue.aggregate
    ((lenses.filter fun lens => EventKind.tellStart kinds lens.agent).flatMap found) threshold).issues

namespace Session

variable {diff : Diff} {options : ReviewOptions} {run : RunOptions} {plan : Plan} {token : Token} {s : Session}
  {root : TraceContext} {tasks : List LensTask} {opened : Session} {k : Nat} {calls : List (Call LensTask)}
  {last : Pool Session LensTask LensReport LensFailure}

/-- Of what is told, the starts and the ends of lenses are told by the calls. -/
theorem filter_toldKinds (diff : Diff) (options : ReviewOptions) (run : RunOptions) (plan : Plan) (s : Session)
    (k : Nat) (calls : List (Call LensTask)) :
    (toldKinds diff options run plan s k calls).filter EventKind.isBoundary =
      calls.map (LensTask.boundary (s.answers diff options)) := by
  rw [toldKinds, EventKind.filter_isBoundary_framed, LensTask.filter_flatMap_kinds]

theorem any_error?_toldKinds (diff : Diff) (options : ReviewOptions) (run : RunOptions) (plan : Plan)
    (s : Session) (k : Nat) (calls : List (Call LensTask)) :
    (toldKinds diff options run plan s k calls).any (·.error?.isSome) =
      calls.any (LensTask.fails (s.answers diff options)) := by
  rw [← LensTask.any_error?_eq, filter_toldKinds, LensTask.any_fails_eq]

theorem Reviewed.start_notMem (h : Reviewed diff options run plan token s root tasks opened k calls last)
    (failFast : run.failFast = true) {before after : List EventKind} {agent : AgentRef} {e : ReviewError}
    (told : toldKinds diff options run plan s k calls = before ++ .agentError agent e :: after)
    (other : AgentRef) : .agentStart other ∉ after := by
  intro hstart
  obtain ⟨mid, rest, rfl⟩ := List.append_of_mem hstart
  rw [← List.cons_append, ← List.append_assoc] at told
  have hfilter := filter_toldKinds diff options run plan s k calls
  rw [told] at hfilter
  obtain ⟨earlier, c, later, hcalls, hc, hearlier⟩ := LensTask.exists_call_of_boundary rfl hfilter
  have hcourse := h.course
  rw [failFast] at hcourse
  -- the failure is told by one of the calls before the start
  have hfails : earlier.any (LensTask.fails (s.answers diff options)) = true := by
    rw [← LensTask.any_fails_eq, hearlier, LensTask.any_error?_eq]
    simp [EventKind.error?]
  cases c with
  | start index t time =>
    have hnone := hcourse.not_fails_before_start hcalls
    rw [h.client_eq] at hnone
    exact Bool.false_ne_true (hnone.symm.trans hfails)
  | finish lane u time =>
    have hclosing : EventKind.Closing u.task.lens.agent (.agentStart other) :=
      hc ▸ LensTask.closing_closing _ _
    cases hclosing

theorem Reviewed.exists_closing (h : Reviewed diff options run plan token s root tasks opened k calls last)
    (distinct : (plan.lenses.map Lens.agent).Nodup) {i : Nat} {lens : Lens}
    (hlens : plan.lenses[i]? = some lens) {before after : List EventKind}
    (told : toldKinds diff options run plan s k calls = before ++ after)
    (started : .agentStart lens.agent ∈ before)
    (atWork : ∀ kind ∈ before, ¬ EventKind.Closing lens.agent kind) :
    ∃ kind ∈ after, EventKind.Closing lens.agent kind := by
  have hstart : .agentStart lens.agent ∈ toldKinds diff options run plan s k calls :=
    told ▸ List.mem_append_left _ started
  have hclosing := LensTask.closing_closing lens.agent (lens.ending (s.answers diff options))
  have hmem := (h.mem_toldKinds distinct hlens (EventKind.isBoundary_of_isEnd _ hclosing.isEnd_eq)
    hclosing.agent?_eq).mpr ⟨(h.agentStart_mem distinct hlens).mp hstart, .inr rfl⟩
  rw [told] at hmem
  rcases List.mem_append.mp hmem with hbefore | hafter
  · exact absurd hclosing (atWork _ hbefore)
  · exact ⟨_, hafter, hclosing⟩

theorem Reviewed.getElem?_lenses (h : Reviewed diff options run plan token s root tasks opened k calls last)
    {i : Nat} {t : LensTask} (ht : tasks[i]? = some t) : plan.lenses[i]? = some t.lens := by
  rw [← h.tasks_lens, List.getElem?_map, ht]
  rfl

theorem Reviewed.filter_tellStart_tasks
    (h : Reviewed diff options run plan token s root tasks opened k calls last)
    (distinct : (plan.lenses.map Lens.agent).Nodup) :
    tasks.filter (fun t => EventKind.tellStart (toldKinds diff options run plan s k calls) t.lens.agent) =
      tasks.take k := by
  have hfilter := (filter_eq_filter_take (q := fun _ => true) (k := k) fun i t ht =>
    (h.tellStart_eq distinct (h.getElem?_lenses ht)).trans (Bool.and_true _).symm).1
  rw [hfilter, List.filter_true]

theorem Reviewed.filter_tellStart
    (h : Reviewed diff options run plan token s root tasks opened k calls last)
    (distinct : (plan.lenses.map Lens.agent).Nodup) :
    plan.lenses.filter (fun lens => EventKind.tellStart (toldKinds diff options run plan s k calls) lens.agent) =
      plan.lenses.take k := by
  rw [← h.tasks_lens, List.filter_map, ← List.map_take]
  exact congrArg (List.map (·.lens)) (h.filter_tellStart_tasks distinct)

/-- The issues of an outcome are aggregated from those of the lenses that were started. -/
theorem Reviewed.issues_eq (h : Reviewed diff options run plan token s root tasks opened k calls last)
    {outcome : Outcome} (returned : (s.orchestrate diff options run token).1 = .ok outcome) :
    outcome.issues = (Issue.aggregate ((plan.lenses.take k).flatMap fun lens =>
      (lens.ending (s.answers diff options)).issues) plan.minSeverity).issues := by
  rw [LensEnd.eq_outcome (h.result_eq.symm.trans returned), LensEnd.outcome, LensEnd.issues_ofRun]

/-- What a model has been asked in a review, one request for each lens that was started if they got to ask. -/
theorem Reviewed.asked_eq (h : Reviewed diff options run plan token s root tasks opened k calls last) :
    let context : ReviewContext := ⟨options.projectContext, options.focus⟩
    (s.orchestrate diff options run token).2.2.client.calls = s.client.calls ++
      ((tasks.take k).filter fun _ => !Lens.overflows diff context).map fun t =>
        t.lens.request diff context t.trace := by
  have hworld : last.world = _ := congrArg Prod.fst h.course.stage_eq
  rw [h.lastClient_eq, hworld, (LensTask.calls_performAll opened token calls).1, h.client_eq, h.course.asked_eq]

theorem Reviewed.calls_eq (h : Reviewed diff options run plan token s root tasks opened k calls last) :
    ∃ asked, (s.orchestrate diff options run token).2.2.client.calls = s.client.calls ++ asked ∧
      asked.map (·.label) = ((plan.lenses.take k).filter fun _ =>
        !Lens.overflows diff ⟨options.projectContext, options.focus⟩).map (·.id.name) := by
  refine ⟨_, h.asked_eq, ?_⟩
  rw [← h.tasks_lens, ← List.map_take, List.filter_map, List.map_map, List.map_map]
  rfl

/-- What has become of the token of a review. -/
theorem Reviewed.token_orchestrate
    (h : Reviewed diff options run plan token s root tasks opened k calls last) :
    let done := s.orchestrate diff options run token
    done.2.1 = (token.cancelIf (s.client.cancelsBefore done.2.2.client ||
      run.failFast && (toldKinds diff options run plan s k calls).any (·.error?.isSome))).ring done.2.2.clock := by
  intro done
  have htoken : last.token = _ := congrArg Prod.snd h.course.stage_eq
  rw [LensTask.token_performAll, ← h.course.stage_eq, h.client_eq] at htoken
  rw [h.token_eq, h.lastClient_eq, h.lastClock_eq, htoken, any_error?_toldKinds]
  rfl

theorem Reviewed.stops (h : Reviewed diff options run plan token s root tasks opened k calls last)
    (distinct : (plan.lenses.map Lens.agent).Nodup) {asked : List Request}
    (labels : asked.map (·.label) = ((plan.lenses.take k).filter fun _ =>
      !Lens.overflows diff ⟨options.projectContext, options.focus⟩).map (·.id.name)) :
    Stops run.failFast (!Lens.overflows diff ⟨options.projectContext, options.focus⟩) plan.lenses
      (s.answers diff options) (toldKinds diff options run plan s k calls)
      ((LensEnd.ofRun (s.answers diff options) k plan.lenses).map LensEnd.stat) asked := by
  have hstat (i : Nat) (lens : Lens) (hlens : plan.lenses[i]? = some lens) :
      ((LensEnd.ofRun (s.answers diff options) k plan.lenses).map LensEnd.stat)[i]? =
        some (if i < k then LensEnd.worked (s.answers diff options) lens else LensEnd.skipped lens).stat := by
    rw [List.getElem?_map, LensEnd.getElem?_ofRun, hlens, Option.map_some, Option.map_some]
  constructor
  · exact fun failFast before agent e after told other => h.start_notMem failFast told other
  · intro lens hlens e
    obtain ⟨i, hi⟩ := List.mem_iff_getElem?.mp hlens
    rw [h.agentError_mem distinct hi, h.agentStart_mem distinct hi, LensEnd.error?_worked_iff]
  · intro lens hlens before after told started atWork
    obtain ⟨i, hi⟩ := List.mem_iff_getElem?.mp hlens
    exact h.exists_closing distinct hi told started atWork
  · rw [List.length_map, LensEnd.length_ofRun]
  · intro i lens hlens count hcomplete
    obtain ⟨hi, hnone, rfl⟩ := (h.agentComplete_mem distinct hlens).mp hcomplete
    rw [hstat i lens hlens, if_pos hi, LensEnd.stat_of_report hnone]
    exact ⟨_, rfl⟩
  · intro i lens hlens e herror
    obtain ⟨hi, hsome⟩ := (h.agentError_mem distinct hlens).mp herror
    rw [hstat i lens hlens, if_pos hi, LensEnd.stat_of_error hsome]
    exact ⟨_, rfl⟩
  · intro i lens hlens hstart
    rw [hstat i lens hlens, if_neg fun hi => hstart ((h.agentStart_mem distinct hlens).mpr hi)]
    rfl
  · rw [labels, ← h.filter_tellStart distinct, List.filter_filter]

theorem Reviewed.keeps (h : Reviewed diff options run plan token s root tasks opened k calls last)
    (distinct : (plan.lenses.map Lens.agent).Nodup) (traceId : String) (trace : TraceContext) :
    let ends := LensEnd.ofRun (s.answers diff options) k plan.lenses
    (LensEnd.outcome plan traceId ends).Keeps plan.lenses (toldKinds diff options run plan s k calls)
      (ends.map LensEnd.stat) plan.minSeverity fun lens =>
        (lens.run diff ⟨options.projectContext, options.focus⟩ trace s).1.issues := by
  intro ends
  constructor
  · rfl
  · intro lens hlens e herror
    obtain ⟨i, hi⟩ := List.mem_iff_getElem?.mp hlens
    obtain ⟨hk, hsome⟩ := (h.agentError_mem distinct hi).mp herror
    exact LensEnd.mem_failures.mpr
      ⟨_, LensEnd.mem_ofRun.mpr ⟨i, lens, hi, (if_pos hk).symm⟩, e, hsome, rfl⟩
  · intro lens hlens hstart
    obtain ⟨i, hi⟩ := List.mem_iff_getElem?.mp hlens
    have hk : ¬ i < k := fun hk => hstart ((h.agentStart_mem distinct hi).mpr hk)
    exact LensEnd.mem_failures.mpr
      ⟨_, LensEnd.mem_ofRun.mpr ⟨i, lens, hi, (if_neg hk).symm⟩, .notStarted, rfl, rfl⟩
  · rw [h.filter_tellStart distinct, LensEnd.outcome, LensEnd.issues_ofRun]
    simp only [Lens.fst_run]
    rfl

/-- A review that is to end with the first failure starts no lens after it. Lenses that are at work come to
their ends all the same, and their results count; the others are recorded as not started, and there are none
unless the review is cancelled. The model is asked once for each lens that starts, unless they break off at their
look at the focus: then it is asked nothing, and each of them ends with that crash. The review cancels its token if
it was to end with the first failure and there was one, and only then: otherwise the token is as the client and its
own alarm have left it. -/
theorem orchestrate_stopping (diff : Diff) (options : ReviewOptions) (run : RunOptions) (token : Token)
    (s : Session) :
    let lenses := options.lensesFor diff
    let context : ReviewContext := ⟨options.projectContext, options.focus⟩
    let done := s.orchestrate diff options run token
    ∃ (new : List Event) (lensStats : List LensStat) (asked : List Request),
      done.2.2.events = s.events ++ new ∧
      done.2.2.client.calls = s.client.calls ++ asked ∧
      Stops run.failFast (!Lens.overflows diff context) lenses (Lens.answers diff context s.client.script)
        (new.map Event.kind) lensStats asked ∧
      (done.2.1.cancelled = false → ∀ lens ∈ lenses, .agentStart lens.agent ∈ new.map Event.kind) ∧
      (lenses ≠ [] → ∃ front summary totalIssues, new.map Event.kind =
        front ++ [.orchestratorComplete summary totalIssues lensStats diff.fileCount]) ∧
      (∀ outcome, done.1 = .ok outcome → ∀ trace,
        outcome.Keeps lenses (new.map Event.kind) lensStats options.threshold fun lens =>
          (lens.run diff context trace s).1.issues) ∧
      done.2.1 = if lenses = [] then token else (token.cancelIf (s.client.cancelsBefore done.2.2.client ||
        run.failFast && (new.map Event.kind).any (·.error?.isSome))).ring done.2.2.clock := by
  intro lenses context done
  by_cases hlenses : lenses = []
  · obtain ⟨e, records, hdone⟩ : ∃ e records, done = (.error e, token, s.note records) :=
      orchestrate_of_no_lens hlenses run token s
    rw [hdone, hlenses]
    refine ⟨[], [], [], (List.append_nil _).symm, (List.append_nil _).symm, stops_nil _ _ _, ?_, ?_, ?_, rfl⟩
    · exact fun _ lens hlens => absurd hlens List.not_mem_nil
    · exact fun h => absurd rfl h
    · exact fun outcome h => nomatch h
  · obtain ⟨nonempty, plan, planned, hplan⟩ := ReviewOptions.exists_plan_of_lensesFor hlenses
    obtain ⟨root, tasks, opened, k, calls, last, h⟩ := exists_reviewed nonempty planned run token s
    obtain ⟨new, hnew, hkinds⟩ := h.exists_told
    obtain ⟨front, hfront, -⟩ := exists_front_toldKinds diff options run plan s k calls
    obtain ⟨asked, hasked, hlabels⟩ := h.calls_eq
    have hdistinct : (plan.lenses.map Lens.agent).Nodup := ReviewOptions.nodup_agents_of_plan planned
    have hthreshold : options.threshold = plan.minSeverity :=
      (congrArg Plan.minSeverity (ReviewOptions.plan_eq_ok planned).1).symm
    have hlenses' : lenses = plan.lenses := hplan
    refine ⟨new, (LensEnd.ofRun (s.answers diff options) k plan.lenses).map LensEnd.stat, asked, hnew, hasked, ?_⟩
    rw [if_neg hlenses, hlenses', hkinds, hthreshold]
    refine ⟨h.stops hdistinct hlabels, ?_, fun _ => ⟨front, _, _, hfront⟩, ?_, h.token_orchestrate⟩
    · intro running lens hmem
      obtain ⟨i, hi⟩ := List.mem_iff_getElem?.mp hmem
      rw [h.agentStart_mem hdistinct hi, h.eq_length running]
      exact (List.getElem?_eq_some_iff.mp hi).1
    · intro outcome houtcome trace
      rw [LensEnd.eq_outcome (h.result_eq.symm.trans houtcome)]
      exact h.keeps hdistinct root.traceId trace

/-- A lens that is to look at all lines which have a number of 32 bits is started and asks nothing, and it fails
although its model has an answer. -/
theorem orchestrate_asks_nothing_of_widest_focus :
    let diff : Diff := .ofFiles [⟨"lib.rs", none, .modify, [], "", 1, 0⟩]
    let options : ReviewOptions := ⟨some ["tests"], none, none, none, some ⟨"lib.rs", some 0, some 4294967295⟩⟩
    let s : Session := .new .new .counting
    let done := s.orchestrate diff options ⟨1, false, false⟩ .fresh
    (s.client.script "tests").reply = .returned (Findings.encode "No findings." []) ∧
      (done.2.2.events.map Event.kind).filterMap EventKind.started? = [(Lens.ofId .tests).agent] ∧
      (done.2.2.events.map Event.kind).filterMap EventKind.error? = [⟨.unknown, "attempt to add with overflow"⟩] ∧
      done.2.2.client.calls = [] := by
  refine ⟨rfl, ?_⟩
  decide +kernel

/-- One of two lenses at work fails: the other one comes to its end, and the third does not start. -/
example :
    let client := ((ScriptedClient.new.withReply "correctness" (.crashed (.message "lost"))).withLatency
      "correctness" 3).withLatency "security" 5
    let diff : Diff := .ofFiles [⟨"lib.rs", none, .modify, [], "", 1, 0⟩]
    let options : ReviewOptions := ⟨some ["correctness", "security", "performance"], none, none, none, none⟩
    let done := (Session.new client .counting).orchestrate diff options ⟨2, false, true⟩ .fresh
    done.2.1.cancelled = true ∧ done.2.2.client.calls.map (·.label) = ["correctness", "security"] ∧
      (done.2.2.events.map Event.kind).filterMap EventKind.error? = [⟨.unknown, "lost"⟩] ∧
      (done.2.2.events.map Event.kind).filterMap EventKind.completed? = [(Lens.ofId .security).agent] := by
  decide +kernel

end Session

end ReviewPanel
