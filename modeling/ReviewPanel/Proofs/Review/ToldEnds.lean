import ReviewPanel.Proofs.Review.OutcomeAgreement

/-! # What the events tell of each lens

From the events of a review it can be seen which lenses were started, and how each of them has ended. -/
namespace ReviewPanel

/-- The elements of a list that have a property which none has from some place on, and those that do not. -/
theorem filter_eq_filter_take {α : Type} {xs : List α} {p q : α → Bool} {k : Nat}
    (h : ∀ i x, xs[i]? = some x → p x = (decide (i < k) && q x)) :
    xs.filter p = (xs.take k).filter q ∧
      xs.filter (fun x => !p x) = (xs.take k).filter (fun x => !q x) ++ xs.drop k := by
  induction xs generalizing k with
  | nil => exact ⟨by rw [List.take_nil]; rfl, by rw [List.take_nil, List.drop_nil]; rfl⟩
  | cons x rest ih =>
    have hx := h 0 x rfl
    cases k with
    | zero =>
      have hrest := ih (k := 0) fun i y hy => by simpa using h (i + 1) y hy
      have hpx : p x = false := by simpa using hx
      rw [List.take_zero] at hrest ⊢
      rw [List.filter_cons_of_neg (by simp [hpx]), List.filter_cons_of_pos (by simp [hpx])]
      exact ⟨hrest.1, congrArg (x :: ·) hrest.2⟩
    | succ k =>
      have hrest := ih (k := k) fun i y hy => by simpa using h (i + 1) y hy
      have hpx : p x = q x := by simpa using hx
      rw [List.take_succ_cons, List.drop_succ_cons]
      cases hqx : q x with
      | true =>
        rw [hqx] at hpx
        simp only [List.filter_cons, hpx, hqx, if_true, Bool.not_true, Bool.false_eq_true, if_false]
        exact ⟨congrArg (x :: ·) hrest.1, hrest.2⟩
      | false =>
        rw [hqx] at hpx
        simp only [List.filter_cons, hpx, hqx, if_true, Bool.not_false, Bool.false_eq_true, if_false]
        exact ⟨hrest.1, congrArg (x :: ·) hrest.2⟩

namespace EventKind

def completed? : EventKind → Option AgentRef
  | .agentComplete agent _ => some agent
  | _ => none

def error? : EventKind → Option ReviewError
  | .agentError _ e => some e
  | _ => none

/-- It is told that a lens starts. -/
def tellStart (kinds : List EventKind) (agent : AgentRef) : Bool := kinds.any (·.started? = some agent)

/-- It is told that a lens has succeeded. -/
def tellSuccess (kinds : List EventKind) (agent : AgentRef) : Bool := kinds.any (·.completed? = some agent)

theorem tellStart_iff {kinds : List EventKind} {agent : AgentRef} :
    tellStart kinds agent = true ↔ .agentStart agent ∈ kinds := by
  rw [tellStart, List.any_eq_true]
  constructor
  · rintro ⟨kind, hkind, hagent⟩
    cases kind <;> simp only [started?, reduceCtorEq, Option.some.injEq, decide_eq_true_eq] at hagent
    exact hagent ▸ hkind
  · exact fun h => ⟨_, h, decide_eq_true rfl⟩

theorem tellSuccess_iff {kinds : List EventKind} {agent : AgentRef} :
    tellSuccess kinds agent = true ↔ ∃ count, .agentComplete agent count ∈ kinds := by
  rw [tellSuccess, List.any_eq_true]
  constructor
  · rintro ⟨kind, hkind, hagent⟩
    cases kind <;> simp only [completed?, reduceCtorEq, Option.some.injEq, decide_eq_true_eq] at hagent
    exact ⟨_, hagent ▸ hkind⟩
  · exact fun ⟨count, h⟩ => ⟨_, h, decide_eq_true rfl⟩

end EventKind

/-- How a lens fails with a reply: by an error, by findings that cannot be read, or by a crash. -/
inductive Lens.FailsWith : Ending Json ReviewError → ReviewError → Prop where
  | error (e : ReviewError) : FailsWith (.failed e) e
  | malformed {value : Json} {fault : Wire.Fault} (unread : Wire.decode Findings.decoder value = .error fault) :
      FailsWith (.returned value) (.malformedReply fault.message)
  | crash (c : Crash) : FailsWith (.crashed c) ⟨.unknown, c.text⟩

/-- A reply holds findings, or the lens fails with it. -/
theorem Lens.read_or_failsWith (reply : Ending Json ReviewError) :
    (∃ value findings, reply = .returned value ∧ Wire.decode Findings.decoder value = .ok findings) ∨
      ∃ e, FailsWith reply e := by
  cases reply with
  | returned value =>
    cases hread : Wire.decode Findings.decoder value with
    | ok findings => exact .inl ⟨value, findings, rfl, hread⟩
    | error fault => exact .inr ⟨_, .malformed hread⟩
  | failed e => exact .inr ⟨e, .error e⟩
  | crashed c => exact .inr ⟨_, .crash c⟩

namespace LensEnd

theorem report?_eq_none_iff (e : LensEnd) : e.report? = none ↔ ∃ error, e.error? = some error := by
  rcases e with ⟨lens, settled⟩
  cases settled <;> simp [report?, error?]

theorem stat_of_report {e : LensEnd} (h : e.error? = none) :
    e.stat = ⟨e.lens.id, e.lens.name, .success, e.issueCount, none, none, e.duration?⟩ := by
  rcases e with ⟨lens, settled⟩
  cases settled <;> cases h
  rfl

theorem stat_of_error {e : LensEnd} {error : ReviewError} (h : e.error? = some error) :
    e.stat = ⟨e.lens.id, e.lens.name, .failed, 0, some error.code, some error.message, e.duration?⟩ := by
  rcases e with ⟨lens, settled⟩
  cases settled <;> cases h <;> rfl

/-- The last event of a lens that was started tells its end. -/
theorem closing_worked (script : String → Script) (lens : Lens) :
    LensTask.closing lens.agent (lens.ending script) =
      match (worked script lens).error? with
      | some e => .agentError lens.agent e
      | none => .agentComplete lens.agent (worked script lens).issueCount := by
  rw [worked]
  cases lens.ending script <;> rfl

theorem report?_worked {script : String → Script} {lens : Lens} {value : Json} {findings : Findings}
    (hreply : (script lens.id.name).reply = .returned value)
    (hread : Wire.decode Findings.decoder value = .ok findings) :
    (worked script lens).report? = some (lens.report (lens.duration script) findings) := by
  rw [worked, Lens.ending, Lens.endingAfter, hreply, Lens.conclude, hread]
  rfl

theorem error?_worked {script : String → Script} {lens : Lens} {e : ReviewError}
    (h : Lens.FailsWith (script lens.id.name).reply e) : (worked script lens).error? = some e := by
  rw [worked, Lens.ending, Lens.endingAfter]
  generalize (script lens.id.name).reply = reply at h ⊢
  cases h with
  | error => rfl
  | malformed unread =>
    rw [Lens.conclude, unread]
    rfl
  | crash => rfl

theorem error?_worked_iff {script : String → Script} {lens : Lens} {e : ReviewError} :
    (worked script lens).error? = some e ↔ Lens.FailsWith (script lens.id.name).reply e := by
  refine ⟨fun h => ?_, error?_worked⟩
  rcases Lens.read_or_failsWith (script lens.id.name).reply with ⟨value, findings, hreply, hread⟩ | ⟨e', hfails⟩
  · have hnone := (report?_eq_none_iff _).mpr ⟨e, h⟩
    cases hnone.symm.trans (report?_worked hreply hread)
  · obtain rfl : e' = e := Option.some.inj ((error?_worked hfails).symm.trans h)
    exact hfails

/-- Only the model itself says of a lens that was started that it was not. -/
theorem reply_of_notStarted {script : String → Script} {lens : Lens} {e : ReviewError}
    (h : (worked script lens).error? = some e) (code : e.code = .notStarted) :
    (script lens.id.name).reply = .failed e := by
  have hfails := error?_worked_iff.mp h
  generalize (script lens.id.name).reply = reply at hfails ⊢
  cases hfails with
  | error => rfl
  | malformed => cases code
  | crash => cases code

theorem mem_ofRun {script : String → Script} {k : Nat} {lenses : List Lens} {e : LensEnd} :
    e ∈ ofRun script k lenses ↔ ∃ i lens, lenses[i]? = some lens ∧
      e = if i < k then worked script lens else skipped lens := by
  rw [List.mem_iff_getElem?]
  constructor
  · rintro ⟨i, hi⟩
    rw [getElem?_ofRun, Option.map_eq_some_iff] at hi
    obtain ⟨lens, hlens, rfl⟩ := hi
    exact ⟨i, lens, hlens, rfl⟩
  · rintro ⟨i, lens, hlens, rfl⟩
    exact ⟨i, by rw [getElem?_ofRun, hlens, Option.map_some]⟩

end LensEnd

namespace Session

/-- All that is told in a review with these calls, by which the first `k` lenses were started. -/
def toldKinds (diff : Diff) (options : ReviewOptions) (run : RunOptions) (plan : Plan) (s : Session) (k : Nat)
    (calls : List (Call LensTask)) : List EventKind :=
  EventKind.framed (plan.lenses.map Lens.agent) (effectiveConcurrency run.concurrency plan.lenses.length)
    (calls.flatMap (LensTask.kinds diff ⟨options.projectContext, options.focus⟩ (s.answers diff options)))
    (LensEnd.summary (LensEnd.ofRun (s.answers diff options) k plan.lenses))
    (Issue.aggregate (LensEnd.issues (LensEnd.ofRun (s.answers diff options) k plan.lenses))
      plan.minSeverity).issues.length
    ((LensEnd.ofRun (s.answers diff options) k plan.lenses).map LensEnd.stat) diff.fileCount

variable {diff : Diff} {options : ReviewOptions} {run : RunOptions} {plan : Plan} {token : Token} {s : Session}
  {root : TraceContext} {tasks : List LensTask} {opened : Session} {k : Nat} {calls : List (Call LensTask)}
  {last : Pool Session LensTask LensReport LensFailure}

theorem Reviewed.exists_told (h : Reviewed diff options run plan token s root tasks opened k calls last) :
    ∃ new, (s.orchestrate diff options run token).2.2.events = s.events ++ new ∧
      new.map Event.kind = toldKinds diff options run plan s k calls := by
  obtain ⟨new, hnew, -, hkinds⟩ := h.exists_new
  exact ⟨new, hnew, hkinds⟩

theorem name_ne_of_agent? {kind : EventKind} {agent : AgentRef} (h : kind.agent? = some agent) :
    kind.name ≠ "orchestrator_complete" := by
  cases kind <;> simp_all [EventKind.agent?, EventKind.name]

/-- The results are told once, at the end. -/
theorem exists_front_toldKinds (diff : Diff) (options : ReviewOptions) (run : RunOptions) (plan : Plan)
    (s : Session) (k : Nat) (calls : List (Call LensTask)) :
    ∃ front, toldKinds diff options run plan s k calls =
        front ++ [LensEnd.completed diff plan (LensEnd.ofRun (s.answers diff options) k plan.lenses)] ∧
      ∀ kind ∈ front, kind.name ≠ "orchestrator_complete" := by
  let agents := plan.lenses.map Lens.agent
  let body := calls.flatMap (LensTask.kinds diff ⟨options.projectContext, options.focus⟩ (s.answers diff options))
  refine ⟨.orchestratorStart agents (effectiveConcurrency run.concurrency plan.lenses.length) ::
    (EventKind.queued agents ++ body), ?_, ?_⟩
  · rw [toldKinds, EventKind.framed, List.cons_append, List.append_assoc]
    rfl
  · intro kind hkind
    rcases List.mem_cons.mp hkind with rfl | hkind
    · simp [EventKind.name]
    · rcases List.mem_append.mp hkind with hqueued | hbody
      · obtain ⟨p, -, rfl⟩ := List.mem_map.mp hqueued
        exact name_ne_of_agent? rfl
      · obtain ⟨call, -, hcall⟩ := List.mem_flatMap.mp hbody
        exact name_ne_of_agent? (LensTask.agent?_of_mem_kinds hcall)

section Lens

variable (h : Reviewed diff options run plan token s root tasks opened k calls last)
  (distinct : (plan.lenses.map Lens.agent).Nodup) {i : Nat} {lens : Lens}
  (hlens : plan.lenses[i]? = some lens)
include h distinct hlens

theorem Reviewed.mem_toldKinds {kind : EventKind} (boundary : kind.isBoundary = true)
    (agent : kind.agent? = some lens.agent) :
    kind ∈ toldKinds diff options run plan s k calls ↔ i < k ∧ (kind = .agentStart lens.agent ∨
      kind = LensTask.closing lens.agent (lens.ending (s.answers diff options))) :=
  h.mem_framed distinct hlens rfl boundary agent

theorem Reviewed.agentStart_mem :
    .agentStart lens.agent ∈ toldKinds diff options run plan s k calls ↔ i < k := by
  rw [h.mem_toldKinds distinct hlens rfl rfl]
  exact and_iff_left (.inl rfl)

theorem Reviewed.agentError_mem {e : ReviewError} :
    .agentError lens.agent e ∈ toldKinds diff options run plan s k calls ↔
      i < k ∧ (LensEnd.worked (s.answers diff options) lens).error? = some e := by
  rw [h.mem_toldKinds distinct hlens rfl rfl, LensEnd.closing_worked]
  cases (LensEnd.worked (s.answers diff options) lens).error? <;> simp [eq_comm]

theorem Reviewed.agentComplete_mem {count : Nat} :
    .agentComplete lens.agent count ∈ toldKinds diff options run plan s k calls ↔
      i < k ∧ (LensEnd.worked (s.answers diff options) lens).error? = none ∧
        count = (LensEnd.worked (s.answers diff options) lens).issueCount := by
  rw [h.mem_toldKinds distinct hlens rfl rfl, LensEnd.closing_worked]
  cases (LensEnd.worked (s.answers diff options) lens).error? <;> simp

theorem Reviewed.tellStart_eq :
    EventKind.tellStart (toldKinds diff options run plan s k calls) lens.agent = decide (i < k) := by
  rw [Bool.eq_iff_iff, EventKind.tellStart_iff, h.agentStart_mem distinct hlens, decide_eq_true_iff]

theorem Reviewed.tellSuccess_eq :
    EventKind.tellSuccess (toldKinds diff options run plan s k calls) lens.agent =
      (decide (i < k) && (LensEnd.worked (s.answers diff options) lens).error?.isNone) := by
  rw [Bool.eq_iff_iff, EventKind.tellSuccess_iff, Bool.and_eq_true, decide_eq_true_iff,
    Option.isNone_iff_eq_none]
  simp only [h.agentComplete_mem distinct hlens]
  exact ⟨fun ⟨_, hi, hnone, _⟩ => ⟨hi, hnone⟩, fun ⟨hi, hnone⟩ => ⟨_, hi, hnone, rfl⟩⟩

end Lens

end Session

end ReviewPanel
