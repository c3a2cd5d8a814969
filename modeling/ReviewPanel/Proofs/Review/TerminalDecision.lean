import Mathlib.Data.List.Forall2
import ReviewPanel.Proofs.Review.ToldEnds

/-! # How a review is decided

A review fails as a whole only if the caller wants no partial outcome and no lens succeeded. Its error is then
that of its last lens, which is a placeholder if that lens was not started. The summary of an outcome has one
paragraph for each lens that succeeded, and one more if a lens failed. -/
namespace ReviewPanel

namespace LensEnd

theorem summary?_ne_empty {e : LensEnd} {p : String} (h : e.summary? = some p) : p ≠ "" := by
  obtain ⟨r, -, rfl⟩ := Option.map_eq_some_iff.mp h
  simp [String.append_eq_empty_iff]

theorem intercalate_ne_empty {separator p : String} (h : p ≠ "") (rest : List String) :
    String.intercalate separator (p :: rest) ≠ "" := by
  cases rest with
  | nil => rwa [String.intercalate_singleton]
  | cons q rest =>
    rw [String.intercalate_cons_cons, String.append_assoc]
    exact fun hempty => h (String.append_eq_empty_iff.mp hempty).1

/-- The paragraphs of a summary, the last of which names the lenses that failed. -/
def paragraphs (ends : List LensEnd) : List String :=
  ends.filterMap summary? ++ if failures ends = [] then [] else [failureNote (failures ends)]

/-- No paragraph is empty, so that the text tells whether there is one. -/
theorem summary_eq (ends : List LensEnd) : summary ends = String.intercalate "\n\n" (paragraphs ends) := by
  rw [summary, paragraphs]
  by_cases hfailed : failures ends = []
  · simp [hfailed]
  · cases hparts : ends.filterMap summary? with
    | nil => simp [hfailed]
    | cons p rest =>
      have hp : p ≠ "" := by
        obtain ⟨e, -, he⟩ := List.mem_filterMap.mp (hparts ▸ List.mem_cons_self (a := p) (l := rest))
        exact summary?_ne_empty he
      have hsome : (String.intercalate "\n\n" (p :: rest)).isEmpty = false :=
        String.isEmpty_eq_false_iff.mpr (intercalate_ne_empty hp rest)
      rw [if_neg hfailed, String.intercalate_append_of_ne_nil (List.cons_ne_nil p rest) (List.cons_ne_nil _ []),
        String.intercalate_singleton]
      simp [hfailed, hsome]

theorem exists_error_of_no_report {ends : List LensEnd} (h : ends.filterMap report? = []) {e : LensEnd}
    (he : e ∈ ends) : ∃ error, e.error? = some error :=
  (report?_eq_none_iff e).mp (List.filterMap_eq_nil_iff.mp h e he)

/-- If no lens has a report, the last error is that of the last lens. -/
theorem lastError?_eq {ends : List LensEnd} (h : ends.filterMap report? = []) :
    lastError? ends = ends.getLast?.bind error? := by
  cases hends : ends.getLast? with
  | none =>
    rw [List.getLast?_eq_none_iff.mp hends]
    rfl
  | some e =>
    obtain ⟨front, rfl⟩ := List.getLast?_eq_some_iff.mp hends
    obtain ⟨error, herror⟩ := exists_error_of_no_report h (List.mem_append_right _ (List.mem_singleton_self e))
    rw [lastError?, List.filterMap_append, List.filterMap_cons_some herror, List.filterMap_nil,
      List.getLast?_concat, Option.bind_some, herror]

/-- A review fails with the error of its last lens. -/
theorem result_eq_error_iff {plan : Plan} {partialOnAllFailed : Bool} {traceId : String}
    {ends : List LensEnd} {e : ReviewError} :
    result plan partialOnAllFailed traceId ends = .error e ↔
      partialOnAllFailed = false ∧ ends.filterMap report? = [] ∧ ends.getLast?.bind error? = some e := by
  have hresult : result plan partialOnAllFailed traceId ends = .error e ↔
      fatal? partialOnAllFailed ends = some e := by
    rw [result]
    cases fatal? partialOnAllFailed ends <;> simp
  rw [hresult, fatal?]
  cases partialOnAllFailed with
  | true => simp
  | false =>
    by_cases hreports : ends.filterMap report? = []
    · simp [hreports, lastError?_eq hreports]
    · simp [hreports]

/-- There is an error to fail with whenever no lens has a report. -/
theorem exists_result_eq_error_iff {plan : Plan} {partialOnAllFailed : Bool} {traceId : String}
    {ends : List LensEnd} (nonempty : ends ≠ []) :
    (∃ e, result plan partialOnAllFailed traceId ends = .error e) ↔
      partialOnAllFailed = false ∧ ends.filterMap report? = [] := by
  simp only [result_eq_error_iff]
  constructor
  · rintro ⟨e, hpartial, hreports, -⟩
    exact ⟨hpartial, hreports⟩
  · rintro ⟨hpartial, hreports⟩
    obtain ⟨error, herror⟩ := exists_error_of_no_report hreports (List.getLast_mem nonempty)
    refine ⟨error, hpartial, hreports, ?_⟩
    rw [List.getLast?_eq_some_getLast nonempty, Option.bind_some, herror]

theorem length_aggregate_of_no_report {ends : List LensEnd} (h : ends.filterMap report? = [])
    (threshold : Option Severity) : (Issue.aggregate (issues ends) threshold).issues.length = 0 := by
  rw [issues, h, List.flatMap_nil]
  cases threshold <;> rfl

theorem length_ofRun (script : String → Script) (k : Nat) (lenses : List Lens) :
    (ofRun script k lenses).length = lenses.length :=
  (List.length_map _).symm.trans (congrArg List.length (map_lens_ofRun script k lenses))

theorem ofRun_ne_nil {script : String → Script} {k : Nat} {lenses : List Lens} (h : lenses ≠ []) :
    ofRun script k lenses ≠ [] := by
  rw [← List.length_pos_iff, length_ofRun]
  exact List.length_pos_iff.mpr h

/-- The last lens was started if all of them were, and only then. -/
theorem getLast?_ofRun (script : String → Script) (k : Nat) (lenses : List Lens) :
    (ofRun script k lenses).getLast? = lenses.getLast?.map fun lens =>
      if lenses.length ≤ k then worked script lens else skipped lens := by
  rw [List.getLast?_eq_getElem?, length_ofRun, getElem?_ofRun, List.getLast?_eq_getElem?]
  cases hlast : lenses[lenses.length - 1]? with
  | none => rfl
  | some lens =>
    have hlength := (List.getElem?_eq_some_iff.mp hlast).1
    have hstarted : lenses.length - 1 < k ↔ lenses.length ≤ k := by omega
    simp only [Option.map_some, hstarted]

/-- No lens has a report if none of those that were started has. -/
theorem reports_ofRun_eq_nil_iff {script : String → Script} {k : Nat} {lenses : List Lens} :
    (ofRun script k lenses).filterMap report? = [] ↔
      ∀ i lens, lenses[i]? = some lens → i < k → (worked script lens).error? ≠ none := by
  rw [List.filterMap_eq_nil_iff]
  constructor
  · intro h i lens hlens hi hnone
    have hmem : worked script lens ∈ ofRun script k lenses :=
      mem_ofRun.mpr ⟨i, lens, hlens, (if_pos hi).symm⟩
    obtain ⟨error, herror⟩ := (report?_eq_none_iff _).mp (h _ hmem)
    exact Option.some_ne_none error (herror.symm.trans hnone)
  · intro h e he
    obtain ⟨i, lens, hlens, rfl⟩ := mem_ofRun.mp he
    by_cases hi : i < k
    · rw [if_pos hi, report?_eq_none_iff]
      exact Option.ne_none_iff_exists'.mp (h i lens hlens hi)
    · rw [if_neg hi]
      rfl

end LensEnd

/-- A paragraph says of a lens that has succeeded what the model has said, if anything. -/
def Lens.IsParagraph (script : String → Script) (lens : Lens) (p : String) : Prop :=
  ∃ value findings, (script lens.id.name).reply = .returned value ∧
    Wire.decode Findings.decoder value = .ok findings ∧
    p = "**" ++ lens.name ++ "**: " ++
      if Text.trimmed findings.summary = "" then "No summary provided." else Text.trimmed findings.summary

/-- What a lens says that has succeeded, the model has said. -/
theorem Lens.IsParagraph.of_answers {diff : Diff} {context : ReviewContext} {script : String → Script}
    {lens : Lens} {p : String} (h : lens.IsParagraph (answers diff context script) p) : lens.IsParagraph script p := by
  obtain ⟨value, findings, hreply, hread, hp⟩ := h
  exact ⟨value, findings, reply_of_answers hreply nofun, hread, hp⟩

namespace LensEnd

theorem isParagraph_worked {script : String → Script} {lens : Lens}
    (h : (worked script lens).error? = none) :
    ∃ p, (worked script lens).summary? = some p ∧ lens.IsParagraph script p := by
  rcases Lens.read_or_failsWith (script lens.id.name).reply with ⟨value, findings, hreply, hread⟩ | ⟨e, hfails⟩
  · rw [summary?, report?_worked hreply hread]
    refine ⟨_, rfl, value, findings, hreply, hread, ?_⟩
    simp only [Lens.report, String.isEmpty_iff]
    rfl
  · cases h.symm.trans (error?_worked hfails)

theorem forall₂_isParagraph (script : String → Script) (lenses : List Lens) :
    List.Forall₂ (Lens.IsParagraph script) (lenses.filter fun lens => (worked script lens).error?.isNone)
      ((lenses.map (worked script)).filterMap summary?) := by
  induction lenses with
  | nil => exact .nil
  | cons lens rest ih =>
    rw [List.map_cons]
    cases herror : (worked script lens).error? with
    | none =>
      obtain ⟨p, hp, hparagraph⟩ := isParagraph_worked herror
      rw [List.filter_cons_of_pos (by simp [herror]), List.filterMap_cons_some hp]
      exact .cons hparagraph ih
    | some e =>
      have hnone : (worked script lens).summary? = none := by
        rw [summary?, (report?_eq_none_iff _).mpr ⟨e, herror⟩, Option.map_none]
      rw [List.filter_cons_of_neg (by simp [herror]), List.filterMap_cons_none hnone]
      exact ih

/-- The lenses named as failed are those that have an error. -/
theorem agents_failures (ends : List LensEnd) :
    (failures ends).map (fun f => (⟨f.lensId, f.lensName⟩ : AgentRef)) =
      (ends.filter fun e => !e.error?.isNone).map (·.lens.agent) := by
  induction ends with
  | nil => rfl
  | cons e rest ih =>
    rw [failures] at ih ⊢
    cases herror : e.error? with
    | none =>
      have hfailed : e.failed? = none := by rw [failed?, herror, Option.map_none]
      rw [List.filterMap_cons_none hfailed, List.filter_cons_of_neg (by simp [herror]), ih]
    | some error =>
      have hfailed : e.failed? = some ⟨e.lens.id, e.lens.name, error.code, error.message⟩ := by
        rw [failed?, herror, Option.map_some]
      rw [List.filterMap_cons_some hfailed, List.filter_cons_of_pos (by simp [herror]), List.map_cons,
        List.map_cons, ih]
      rfl

theorem agents_failures_ofRun (script : String → Script) (k : Nat) (lenses : List Lens) :
    (failures (ofRun script k lenses)).map (fun f => (⟨f.lensId, f.lensName⟩ : AgentRef)) =
      ((lenses.take k).filter (fun lens => !(worked script lens).error?.isNone) ++ lenses.drop k).map
        Lens.agent := by
  have hskipped : ((lenses.drop k).map skipped).filter (fun e => !e.error?.isNone) =
      (lenses.drop k).map skipped := by
    rw [List.filter_eq_self]
    intro e he
    obtain ⟨lens, -, rfl⟩ := List.mem_map.mp he
    rfl
  rw [agents_failures, ofRun, List.filter_append, hskipped, List.filter_map, List.map_append, List.map_append,
    List.map_map, List.map_map]
  rfl

/-- What is collected from the ends of lenses but not from one that was not started comes from the others. -/
theorem filterMap_ofRun {β : Type} {f : LensEnd → Option β} (h : ∀ lens, f (skipped lens) = none)
    (script : String → Script) (k : Nat) (lenses : List Lens) :
    (ofRun script k lenses).filterMap f = ((lenses.take k).map (worked script)).filterMap f := by
  have hskipped : ((lenses.drop k).map skipped).filterMap f = [] := by
    rw [List.filterMap_eq_nil_iff]
    intro e he
    obtain ⟨lens, -, rfl⟩ := List.mem_map.mp he
    exact h lens
  rw [ofRun, List.filterMap_append, hskipped, List.append_nil]

theorem mem_failures {ends : List LensEnd} {f : FailedLens} :
    f ∈ failures ends ↔ ∃ e ∈ ends, ∃ error, e.error? = some error ∧
      f = ⟨e.lens.id, e.lens.name, error.code, error.message⟩ := by
  rw [failures, List.mem_filterMap]
  constructor
  · rintro ⟨e, he, hf⟩
    obtain ⟨error, herror, rfl⟩ := Option.map_eq_some_iff.mp hf
    exact ⟨e, he, error, herror, rfl⟩
  · rintro ⟨e, he, error, herror, rfl⟩
    exact ⟨e, he, by rw [failed?, herror, Option.map_some]⟩

end LensEnd

/-- The summary of an outcome names, in the order of the lenses, all that succeeded with what they say and
then all that failed with the codes of their errors. -/
structure Outcome.Summarizes (o : Outcome) (lenses : List Lens) (script : String → Script)
    (kinds : List EventKind) : Prop where
  summary_eq : ∃ parts, List.Forall₂ (Lens.IsParagraph script)
      (lenses.filter fun lens => EventKind.tellSuccess kinds lens.agent) parts ∧
    o.summary = String.intercalate "\n\n" (parts ++ if o.failedLenses = [] then [] else
      ["Partial analysis: " ++ String.intercalate ", " (o.failedLenses.map fun f =>
        f.lensName ++ " (" ++ f.errorCode.name ++ ")") ++ " failed."])
  failed_eq : o.failedLenses.map (fun f => (⟨f.lensId, f.lensName⟩ : AgentRef)) =
    (lenses.filter fun lens => !EventKind.tellSuccess kinds lens.agent).map Lens.agent
  code_eq : ∀ f ∈ o.failedLenses,
    (∃ e, .agentError ⟨f.lensId, f.lensName⟩ e ∈ kinds ∧ f.errorCode = e.code) ∨
      (.agentStart ⟨f.lensId, f.lensName⟩ ∉ kinds ∧ f.errorCode = .notStarted)

namespace Session

variable {diff : Diff} {options : ReviewOptions} {run : RunOptions} {plan : Plan} {token : Token} {s : Session}
  {root : TraceContext} {tasks : List LensTask} {opened : Session} {k : Nat} {calls : List (Call LensTask)}
  {last : Pool Session LensTask LensReport LensFailure}

theorem Reviewed.filter_tellSuccess
    (h : Reviewed diff options run plan token s root tasks opened k calls last)
    (distinct : (plan.lenses.map Lens.agent).Nodup) :
    let succeeded (lens : Lens) : Bool := EventKind.tellSuccess (toldKinds diff options run plan s k calls) lens.agent
    let reported (lens : Lens) : Bool := (LensEnd.worked (s.answers diff options) lens).error?.isNone
    plan.lenses.filter succeeded = (plan.lenses.take k).filter reported ∧
      plan.lenses.filter (fun lens => !succeeded lens) =
        (plan.lenses.take k).filter (fun lens => !reported lens) ++ plan.lenses.drop k :=
  filter_eq_filter_take fun _ _ hlens => h.tellSuccess_eq distinct hlens

theorem Reviewed.summarizes (h : Reviewed diff options run plan token s root tasks opened k calls last)
    (distinct : (plan.lenses.map Lens.agent).Nodup) (traceId : String) :
    (LensEnd.outcome plan traceId (LensEnd.ofRun (s.answers diff options) k plan.lenses)).Summarizes plan.lenses
      s.client.script (toldKinds diff options run plan s k calls) := by
  obtain ⟨hdone, hfailed⟩ := h.filter_tellSuccess distinct
  constructor
  · have hparts := (LensEnd.forall₂_isParagraph (s.answers diff options) (plan.lenses.take k)).imp
      fun _ _ => Lens.IsParagraph.of_answers
    refine ⟨_, hdone ▸ hparts, ?_⟩
    rw [← LensEnd.filterMap_ofRun fun _ => rfl]
    exact LensEnd.summary_eq _
  · rw [hfailed]
    exact LensEnd.agents_failures_ofRun (s.answers diff options) k plan.lenses
  · intro f hf
    obtain ⟨e, he, error, herror, rfl⟩ := LensEnd.mem_failures.mp hf
    obtain ⟨i, lens, hlens, rfl⟩ := LensEnd.mem_ofRun.mp he
    by_cases hi : i < k
    · rw [if_pos hi] at herror
      simp only [if_pos hi]
      exact .inl ⟨error, (h.agentError_mem distinct hlens).mpr ⟨hi, herror⟩, rfl⟩
    · rw [if_neg hi] at herror
      simp only [if_neg hi]
      cases herror
      exact .inr ⟨fun hstart => hi ((h.agentStart_mem distinct hlens).mp hstart), rfl⟩

/-- No lens has a report if none is told to have succeeded. -/
theorem Reviewed.reports_eq_nil_iff
    (h : Reviewed diff options run plan token s root tasks opened k calls last)
    (distinct : (plan.lenses.map Lens.agent).Nodup) :
    (LensEnd.ofRun (s.answers diff options) k plan.lenses).filterMap LensEnd.report? = [] ↔
      ∀ lens ∈ plan.lenses, ∀ count,
        .agentComplete lens.agent count ∉ toldKinds diff options run plan s k calls := by
  rw [LensEnd.reports_ofRun_eq_nil_iff]
  constructor
  · intro hfailed lens hmem count hcomplete
    obtain ⟨i, hlens⟩ := List.mem_iff_getElem?.mp hmem
    obtain ⟨hi, hnone, -⟩ := (h.agentComplete_mem distinct hlens).mp hcomplete
    exact hfailed i lens hlens hi hnone
  · intro hsilent i lens hlens hi hnone
    exact hsilent lens (List.mem_of_getElem? hlens) _ ((h.agentComplete_mem distinct hlens).mpr ⟨hi, hnone, rfl⟩)

theorem exists_stat_of_error {ends : List LensEnd} {e : ReviewError}
    (h : ends.getLast?.bind LensEnd.error? = some e) :
    ∃ stat ∈ ends.map LensEnd.stat, stat.status = .failed ∧ stat.errorCode = some e.code ∧
      stat.errorMessage = some e.message := by
  obtain ⟨last, hlast, herror⟩ := Option.bind_eq_some_iff.mp h
  refine ⟨last.stat, List.mem_map_of_mem (List.mem_of_getLast? hlast), ?_⟩
  rw [LensEnd.stat_of_error herror]
  exact ⟨rfl, rfl, rfl⟩

/-- A review fails if the caller wants no partial outcome and no lens succeeds, and has an outcome otherwise,
even one without issues. A review that fails tells its results all the same: there is no issue, and its error
is in the statistics. The summary of an outcome tells of every lens. -/
theorem orchestrate_decision (nonempty : diff.isEmpty = false) (planned : options.plan = .ok plan)
    (run : RunOptions) (token : Token) (s : Session) :
    let result := (s.orchestrate diff options run token).1
    ∃ (new : List Event) (front : List EventKind) (summary : String) (totalIssues : Nat)
      (lensStats : List LensStat),
      (s.orchestrate diff options run token).2.2.events = s.events ++ new ∧
      new.map Event.kind = front ++ [.orchestratorComplete summary totalIssues lensStats diff.fileCount] ∧
      (∀ kind ∈ front, kind.name ≠ "orchestrator_complete") ∧
      ((∃ e, result = .error e) ↔ run.partialOnAllFailed = false ∧
        ∀ lens ∈ plan.lenses, ∀ count, .agentComplete lens.agent count ∉ new.map Event.kind) ∧
      (∀ e, result = .error e → totalIssues = 0 ∧ ∃ stat ∈ lensStats, stat.status = .failed ∧
        stat.errorCode = some e.code ∧ stat.errorMessage = some e.message) ∧
      ∀ outcome, result = .ok outcome →
        outcome.Summarizes plan.lenses s.client.script (new.map Event.kind) := by
  intro result
  obtain ⟨root, tasks, opened, k, calls, last, h⟩ := exists_reviewed nonempty planned run token s
  obtain ⟨new, hnew, hkinds⟩ := h.exists_told
  obtain ⟨front, hfront, honce⟩ := exists_front_toldKinds diff options run plan s k calls
  have hdistinct : (plan.lenses.map Lens.agent).Nodup := ReviewOptions.nodup_agents_of_plan planned
  have hresult : result = LensEnd.result plan run.partialOnAllFailed root.traceId
    (LensEnd.ofRun (s.answers diff options) k plan.lenses) := h.result_eq
  rw [hresult]
  refine ⟨new, front, _, _, _, hnew, hkinds.trans hfront, honce, ?_, ?_, ?_⟩
  · rw [hkinds, ← h.reports_eq_nil_iff hdistinct]
    exact LensEnd.exists_result_eq_error_iff (LensEnd.ofRun_ne_nil (ReviewOptions.plan_eq_ok planned).2)
  · intro e he
    obtain ⟨-, hreports, hlast⟩ := LensEnd.result_eq_error_iff.mp he
    exact ⟨LensEnd.length_aggregate_of_no_report hreports _, exists_stat_of_error hlast⟩
  · intro outcome houtcome
    rw [LensEnd.eq_outcome houtcome, hkinds]
    exact h.summarizes hdistinct root.traceId

theorem orchestrate_decision_of_two_lenses :
    let client := ScriptedClient.new.withReply "security" (.failed ⟨.rateLimited, "slow down"⟩)
    let s : Session := .new client .counting
    let diff : Diff := .ofFiles [⟨"lib.rs", none, .modify, [], "", 1, 0⟩]
    let options : ReviewOptions := ⟨some ["correctness", "security"], none, none, none, none⟩
    let plan : Plan := ⟨[.ofId .correctness, .ofId .security], none⟩
    diff.isEmpty = false ∧ options.plan = .ok plan ∧ ∃ outcome new,
      (s.orchestrate diff options ⟨2, true, false⟩ .fresh).1 = .ok outcome ∧
        (s.orchestrate diff options ⟨2, true, false⟩ .fresh).2.2.events = s.events ++ new ∧
        outcome.Summarizes plan.lenses client.script (new.map Event.kind) := by
  intro client s diff options plan
  have nonempty : diff.isEmpty = false := rfl
  have planned : options.plan = .ok plan := rfl
  obtain ⟨outcome, houtcome⟩ := exists_outcome nonempty planned ⟨2, true, false⟩ rfl .fresh s
  obtain ⟨new, front, summary, totalIssues, lensStats, hnew, -, -, -, -, hsummary⟩ :=
    orchestrate_decision nonempty planned ⟨2, true, false⟩ .fresh s
  exact ⟨nonempty, planned, outcome, new, houtcome, hnew, hsummary outcome houtcome⟩

/-- A review that fails has the error of its last lens. If all lenses were started, it is the one that was
told of that lens; if one was not, it says so of the last one, whatever the others were told to have failed
with. -/
theorem orchestrate_error_of_last_lens (nonempty : diff.isEmpty = false) (planned : options.plan = .ok plan)
    {run : RunOptions} {token : Token} {s : Session} {e : ReviewError}
    (failed : (s.orchestrate diff options run token).1 = .error e)
    (client : ∀ lens ∈ plan.lenses, ∀ e, (s.client.script lens.id.name).reply = .failed e →
      e.code ≠ .notStarted) :
    ∃ (new : List Event) (last : Lens), (s.orchestrate diff options run token).2.2.events = s.events ++ new ∧
      plan.lenses.getLast? = some last ∧
      ((∀ lens ∈ plan.lenses, .agentStart lens.agent ∈ new.map Event.kind) →
        .agentError last.agent e ∈ new.map Event.kind ∧ e.code ≠ .notStarted) ∧
      ((∃ lens ∈ plan.lenses, .agentStart lens.agent ∉ new.map Event.kind) →
        .agentStart last.agent ∉ new.map Event.kind ∧ e = .notStarted) := by
  obtain ⟨root, tasks, opened, k, calls, idle, h⟩ := exists_reviewed nonempty planned run token s
  obtain ⟨new, hnew, hkinds⟩ := h.exists_told
  have hdistinct : (plan.lenses.map Lens.agent).Nodup := ReviewOptions.nodup_agents_of_plan planned
  obtain ⟨-, -, herror⟩ := LensEnd.result_eq_error_iff.mp (h.result_eq.symm.trans failed)
  rw [LensEnd.getLast?_ofRun] at herror
  cases hlast : plan.lenses.getLast? with
  | none =>
    rw [hlast] at herror
    cases herror
  | some last =>
    rw [hlast, Option.map_some, Option.bind_some] at herror
    have hplace : plan.lenses[plan.lenses.length - 1]? = some last := by rw [← List.getLast?_eq_getElem?, hlast]
    have hlength := (List.getElem?_eq_some_iff.mp hplace).1
    refine ⟨new, last, hnew, rfl, ?_, ?_⟩ <;> rw [hkinds]
    · intro hall
      have hk := (h.agentStart_mem hdistinct hplace).mp (hall last (List.mem_of_getElem? hplace))
      rw [if_pos (by omega)] at herror
      refine ⟨(h.agentError_mem hdistinct hplace).mpr ⟨hk, herror⟩, fun hcode => ?_⟩
      exact client last (List.mem_of_getElem? hplace) e
        (Lens.reply_of_answers (LensEnd.reply_of_notStarted herror hcode) nofun) hcode
    · rintro ⟨lens, hmem, hsilent⟩
      obtain ⟨i, hi⟩ := List.mem_iff_getElem?.mp hmem
      have hk : ¬ i < k := fun hk => hsilent ((h.agentStart_mem hdistinct hi).mpr hk)
      have hlt := (List.getElem?_eq_some_iff.mp hi).1
      rw [if_neg (by omega)] at herror
      refine ⟨fun hstart => ?_, (Option.some.inj herror).symm⟩
      have hstarted := (h.agentStart_mem hdistinct hplace).mp hstart
      omega

theorem orchestrate_error_of_two_failures :
    let client := (ScriptedClient.new.withReply "correctness" (.failed ⟨.networkError, "reset"⟩)).withReply
      "security" (.failed ⟨.rateLimited, "slow down"⟩)
    let s : Session := .new client .counting
    let diff : Diff := .ofFiles [⟨"lib.rs", none, .modify, [], "", 1, 0⟩]
    let options : ReviewOptions := ⟨some ["correctness", "security"], none, none, none, none⟩
    let plan : Plan := ⟨[.ofId .correctness, .ofId .security], none⟩
    let e : ReviewError := ⟨.rateLimited, "slow down"⟩
    diff.isEmpty = false ∧ options.plan = .ok plan ∧
      (s.orchestrate diff options ⟨2, false, false⟩ .fresh).1 = .error e ∧
      (∀ lens ∈ plan.lenses, ∀ e, (s.client.script lens.id.name).reply = .failed e → e.code ≠ .notStarted) ∧
      ∃ new, (s.orchestrate diff options ⟨2, false, false⟩ .fresh).2.2.events = s.events ++ new ∧
        ((∀ lens ∈ plan.lenses, .agentStart lens.agent ∈ new.map Event.kind) →
          .agentError (Lens.ofId .security).agent e ∈ new.map Event.kind ∧ e.code ≠ .notStarted) := by
  intro client s diff options plan e
  have nonempty : diff.isEmpty = false := rfl
  have planned : options.plan = .ok plan := rfl
  have failed : (s.orchestrate diff options ⟨2, false, false⟩ .fresh).1 = .error e := by decide +kernel
  have honest : ∀ lens ∈ plan.lenses, ∀ e, (s.client.script lens.id.name).reply = .failed e →
      e.code ≠ .notStarted := by
    intro lens hlens e he
    rcases List.mem_pair.mp hlens with rfl | rfl <;> cases he <;> decide
  obtain ⟨new, last, hnew, hlast, hstarted, -⟩ := orchestrate_error_of_last_lens nonempty planned failed honest
  obtain rfl : Lens.ofId .security = last := Option.some.inj hlast
  exact ⟨nonempty, planned, failed, honest, new, hnew, hstarted⟩

/-- A review that stops at its first failure does not fail with it, but with the placeholder of a lens that was
not started. -/
theorem orchestrate_error_of_skipped_lens :
    let client := ScriptedClient.new.withReply "correctness" (.failed ⟨.rateLimited, "slow down"⟩)
    let s : Session := .new client .counting
    let diff : Diff := .ofFiles [⟨"lib.rs", none, .modify, [], "", 1, 0⟩]
    let options : ReviewOptions := ⟨some ["correctness", "security"], none, none, none, none⟩
    let done := s.orchestrate diff options ⟨1, false, true⟩ .fresh
    (∀ (id : LensId) (e : ReviewError), (client.script id.name).reply = .failed e → e.code ≠ .notStarted) ∧
      done.1 = .error .notStarted ∧
      (done.2.2.events.map Event.kind).filterMap EventKind.started? = [(Lens.ofId .correctness).agent] ∧
      (done.2.2.events.map Event.kind).filterMap EventKind.error? = [⟨.rateLimited, "slow down"⟩] := by
  refine ⟨?_, by decide +kernel⟩
  intro id e he
  cases id <;> cases he
  decide

end Session

end ReviewPanel
