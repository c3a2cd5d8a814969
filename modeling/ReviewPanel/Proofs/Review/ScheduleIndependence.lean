import ReviewPanel.Proofs.Review.PlannedLenses
import ReviewPanel.Proofs.Review.ReviewCourse

/-! # The schedule leaves no trace

Two reviews of one change in which the model gives the same replies come to the same outcome, apart from
identifiers and durations, however many lenses are at work at a time and however long each of them takes. -/
namespace ReviewPanel

def LensReport.untimed (r : LensReport) : LensReport := { r with durationMs := 0 }

def LensFailure.untimed (f : LensFailure) : LensFailure := { f with durationMs := 0 }

def LensStat.untimed (s : LensStat) : LensStat := { s with durationMs := none }

/-- The outcome without the durations and the identifier of the run. -/
def Outcome.untimed (o : Outcome) : Outcome :=
  { o with lensStats := o.lensStats.map LensStat.untimed, traceId := "" }

/-- The issues of a lens that has a report. -/
def Ending.issues : Ending LensReport ReviewError → List Issue
  | .returned r => r.issues
  | .failed _ => []
  | .crashed _ => []

namespace LensEnd

def untimed (e : LensEnd) : LensEnd where
  lens := e.lens
  settled := match e.settled with
    | .returned r => .returned r.untimed
    | .failed f => .failed f.untimed
    | .crashed m => .crashed m
    | .notStarted => .notStarted

theorem report?_untimed (e : LensEnd) : e.untimed.report? = e.report?.map LensReport.untimed := by
  rcases e with ⟨lens, settled⟩
  cases settled <;> rfl

theorem error?_untimed (e : LensEnd) : e.untimed.error? = e.error? := by
  rcases e with ⟨lens, settled⟩
  cases settled <;> rfl

theorem summary?_untimed (e : LensEnd) : e.untimed.summary? = e.summary? := by
  rw [summary?, report?_untimed, Option.map_map]
  rfl

theorem failed?_untimed (e : LensEnd) : e.untimed.failed? = e.failed? := by
  rw [failed?, error?_untimed]
  rfl

theorem untimed_stat (e : LensEnd) : e.untimed.stat.untimed = e.stat.untimed := by
  rcases e with ⟨lens, settled⟩
  cases settled <;> rfl

theorem reports_untimed (ends : List LensEnd) :
    (ends.map untimed).filterMap report? = (ends.filterMap report?).map LensReport.untimed := by
  rw [List.filterMap_map, List.map_filterMap]
  congr 1
  funext e
  exact report?_untimed e

theorem issues_untimed (ends : List LensEnd) : issues (ends.map untimed) = issues ends := by
  rw [issues, reports_untimed, List.flatMap_map]
  rfl

/-- What is collected from each lens by itself does not depend on the time if it does not for one lens. -/
theorem filterMap_untimed {β : Type} {f : LensEnd → Option β} (h : ∀ e, f e.untimed = f e)
    (ends : List LensEnd) : (ends.map untimed).filterMap f = ends.filterMap f := by
  rw [List.filterMap_map]
  congr 1
  funext e
  exact h e

theorem failures_untimed (ends : List LensEnd) : failures (ends.map untimed) = failures ends :=
  filterMap_untimed failed?_untimed ends

theorem summary_untimed (ends : List LensEnd) : summary (ends.map untimed) = summary ends := by
  rw [summary, filterMap_untimed summary?_untimed, failures_untimed]
  rfl

theorem fatal?_untimed (partialOnAllFailed : Bool) (ends : List LensEnd) :
    fatal? partialOnAllFailed (ends.map untimed) = fatal? partialOnAllFailed ends := by
  rw [fatal?, reports_untimed, List.isEmpty_map, lastError?, filterMap_untimed error?_untimed]
  rfl

theorem outcome_untimed (plan : Plan) (traceId : String) (ends : List LensEnd) :
    (outcome plan "" (ends.map untimed)).untimed = (outcome plan traceId ends).untimed := by
  have hstats : ((ends.map untimed).map stat).map LensStat.untimed = (ends.map stat).map LensStat.untimed := by
    rw [List.map_map, List.map_map, List.map_map]
    congr 1
    funext e
    exact untimed_stat e
  simp only [outcome, Outcome.untimed, summary_untimed, issues_untimed, failures_untimed, hstats]

/-- The result of a review depends on how long the lenses took only where it says how long they took. -/
theorem result_untimed (plan : Plan) (partialOnAllFailed : Bool) (traceId : String) (ends : List LensEnd) :
    (result plan partialOnAllFailed "" (ends.map untimed)).map Outcome.untimed =
      (result plan partialOnAllFailed traceId ends).map Outcome.untimed := by
  rw [result, result, fatal?_untimed]
  cases fatal? partialOnAllFailed ends with
  | some e => rfl
  | none => exact congrArg Except.ok (outcome_untimed plan traceId ends)

/-- Without the time that it took, the end of a lens that was started is that of a lens which gets its reply
at once. -/
theorem untimed_worked (script : String → Script) (lens : Lens) :
    (worked script lens).untimed =
      ⟨lens, (LensTask.timed 0 (lens.conclude 0 (script lens.id.name).reply).1).settled⟩ := by
  rw [worked, Lens.ending, Lens.endingAfter]
  cases (script lens.id.name).reply with
  | returned value =>
    simp only [Lens.conclude]
    split <;> rfl
  | failed e => rfl
  | crashed c => rfl

theorem map_untimed_worked {script₁ script₂ : String → Script} {lenses : List Lens}
    (reply : ∀ lens ∈ lenses, (script₁ lens.id.name).reply = (script₂ lens.id.name).reply) :
    (lenses.map (worked script₁)).map untimed = (lenses.map (worked script₂)).map untimed := by
  rw [List.map_map, List.map_map]
  apply List.map_congr_left
  intro lens hlens
  change (worked script₁ lens).untimed = (worked script₂ lens).untimed
  rw [untimed_worked, untimed_worked, reply lens hlens]

theorem issues_map_worked (script : String → Script) (lenses : List Lens) :
    issues (lenses.map (worked script)) = lenses.flatMap fun lens => (lens.ending script).issues := by
  induction lenses with
  | nil => rfl
  | cons lens rest ih =>
    rw [List.map_cons, List.flatMap_cons, ← ih, issues, List.filterMap_cons, worked, report?]
    cases lens.ending script <;> rfl

end LensEnd

namespace Session

theorem result_of_running {diff : Diff} {options : ReviewOptions} {run : RunOptions} {token : Token}
    {s : Session} {plan : Plan} (nonempty : diff.isEmpty = false) (planned : options.plan = .ok plan)
    (running : (s.orchestrate diff options run token).2.1.cancelled = false) :
    ∃ traceId, (s.orchestrate diff options run token).1 = LensEnd.result plan run.partialOnAllFailed traceId
      (plan.lenses.map (LensEnd.worked (s.answers diff options))) := by
  obtain ⟨root, tasks, opened, k, calls, last, h⟩ := exists_reviewed nonempty planned run token s
  exact ⟨root.traceId, by rw [h.result_eq, h.ofRun_eq running]⟩

/-- The lenses of a review get the same replies from clients that reply the same. -/
theorem reply_answers_congr {s₁ s₂ : Session} (diff : Diff) (options : ReviewOptions) {label : String}
    (h : (s₁.client.script label).reply = (s₂.client.script label).reply) :
    (s₁.answers diff options label).reply = (s₂.answers diff options label).reply := by
  rw [answers, answers, Lens.answers, Lens.answers]
  split
  · rfl
  · exact h

/-- Reviews of one change that are not cancelled come to the same outcome, apart from identifiers and
durations, if the model gives the same replies. An outcome has the issues that the lenses find by themselves,
aggregated in the order of the lenses. -/
theorem orchestrate_schedule_independent {diff : Diff} {options : ReviewOptions} {run₁ run₂ : RunOptions}
    {token₁ token₂ : Token} {s₁ s₂ : Session}
    (sameWish : run₁.partialOnAllFailed = run₂.partialOnAllFailed)
    (sameReplies : ∀ lens ∈ Lens.resolve options.requested,
      (s₁.client.script lens.id.name).reply = (s₂.client.script lens.id.name).reply)
    (running₁ : (s₁.orchestrate diff options run₁ token₁).2.1.cancelled = false)
    (running₂ : (s₂.orchestrate diff options run₂ token₂).2.1.cancelled = false) :
    (s₁.orchestrate diff options run₁ token₁).1.map Outcome.untimed =
        (s₂.orchestrate diff options run₂ token₂).1.map Outcome.untimed ∧
      ∀ outcome, (s₁.orchestrate diff options run₁ token₁).1 = .ok outcome →
        ∀ trace, outcome.issues = (Issue.aggregate
          ((Lens.resolve options.requested).flatMap fun lens =>
            (lens.run diff ⟨options.projectContext, options.focus⟩ trace s₁).1.issues)
          options.threshold).issues := by
  cases nonempty : diff.isEmpty with
  | true =>
    rw [orchestrate_of_isEmpty nonempty, orchestrate_of_isEmpty nonempty]
    exact ⟨rfl, fun outcome h => nomatch h⟩
  | false =>
    cases planned : options.plan with
    | error e =>
      rw [orchestrate_of_unplanned nonempty planned, orchestrate_of_unplanned nonempty planned]
      exact ⟨rfl, fun outcome h => nomatch h⟩
    | ok plan =>
      obtain ⟨hplan, -⟩ := ReviewOptions.plan_eq_ok planned
      have hlenses : plan.lenses = Lens.resolve options.requested := congrArg Plan.lenses hplan
      obtain ⟨traceId₁, h₁⟩ := result_of_running nonempty planned running₁
      obtain ⟨traceId₂, h₂⟩ := result_of_running nonempty planned running₂
      rw [← hlenses] at sameReplies ⊢
      have sameAnswers (lens : Lens) (hlens : lens ∈ plan.lenses) :=
        reply_answers_congr diff options (sameReplies lens hlens)
      constructor
      · rw [h₁, h₂, ← LensEnd.result_untimed plan _ traceId₁, ← LensEnd.result_untimed plan _ traceId₂,
          LensEnd.map_untimed_worked sameAnswers, sameWish]
      · intro outcome houtcome trace
        have houtcome := LensEnd.eq_outcome (h₁.symm.trans houtcome)
        rw [houtcome, LensEnd.outcome, LensEnd.issues_map_worked, hplan]
        simp only [Lens.fst_run]
        rfl

/-- Two lenses, of which one fails, at work together and slowly as well as one after the other and at once. -/
theorem orchestrate_independent_of_slow_client :
    let security := ScriptedClient.new.withReply "security" (.failed ⟨.rateLimited, "slow down"⟩)
    let slow := (security.withLatency "security" 7).withLatency "correctness" 9
    let diff : Diff := .ofFiles [⟨"lib.rs", none, .modify, [], "", 1, 0⟩]
    let options : ReviewOptions := ⟨some ["correctness", "security"], none, none, none, none⟩
    diff.isEmpty = false ∧ options.plan.isOk = true ∧
      ((new security .counting).orchestrate diff options ⟨1, false, false⟩ .fresh).1.map Outcome.untimed =
        ((new slow .counting).orchestrate diff options ⟨2, false, false⟩ .fresh).1.map Outcome.untimed := by
  intro security slow diff options
  have sameReplies (label : LensId) : (security.script label.name).reply = (slow.script label.name).reply := by
    cases label <;> rfl
  have running₁ : ((new security .counting).orchestrate diff options ⟨1, false, false⟩ .fresh).2.1.cancelled
      = false := cancelled_orchestrate rfl rfl
  have running₂ : ((new slow .counting).orchestrate diff options ⟨2, false, false⟩ .fresh).2.1.cancelled
      = false := cancelled_orchestrate rfl rfl
  have hsame := orchestrate_schedule_independent (by rfl) (fun lens _ => sameReplies lens.id) running₁ running₂
  exact ⟨rfl, rfl, hsame.1⟩

end Session

end ReviewPanel
