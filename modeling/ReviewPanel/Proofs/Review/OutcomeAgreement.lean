import ReviewPanel.Proofs.Review.EventProtocol

/-! # Events and results agree

What the last event of a review says about a lens is what the events of that lens have told, and what the
caller gets is what the last event says. -/
namespace ReviewPanel

/-- The statistics of a lens agree with what has happened in a review, in which the lens is answered by a
script. -/
structure LensStat.Agrees (stat : LensStat) (lens : Lens) (script : Script) (kinds : List EventKind) : Prop where
  lens_eq : stat.lensId = lens.id ∧ stat.lensName = lens.name
  success_iff : ∀ count, stat.status = .success ∧ stat.issueCount = count ↔
    .agentComplete lens.agent count ∈ kinds
  error_iff : ∀ e, .agentError lens.agent e ∈ kinds ↔ .agentStart lens.agent ∈ kinds ∧
    stat.status = .failed ∧ stat.errorCode = some e.code ∧ stat.errorMessage = some e.message
  crashed : ∀ c, script.reply = .crashed c → .agentStart lens.agent ∈ kinds →
    .agentError lens.agent ⟨.unknown, c.text⟩ ∈ kinds
  notStarted : .agentStart lens.agent ∉ kinds → stat.status = .failed ∧
    stat.errorCode = some .notStarted ∧ stat.errorMessage = some ReviewError.notStarted.message
  notStarted_iff : (∀ e, script.reply = .failed e → e.code ≠ .notStarted) →
    (stat.errorCode = some .notStarted ↔ .agentStart lens.agent ∉ kinds)
  duration_iff : ∀ d, stat.durationMs = some d ↔
    .agentStart lens.agent ∈ kinds ∧ (∀ c, script.reply ≠ .crashed c) ∧ d = waitFor script.latency

namespace LensStat

variable {lens : Lens} {script : Script} {kinds : List EventKind}

theorem agrees_of_silence
    (silent : ∀ kind : EventKind, kind.isBoundary = true → kind.agent? = some lens.agent → kind ∉ kinds) :
    (⟨lens.id, lens.name, .failed, 0, some .notStarted, some ReviewError.notStarted.message, none⟩ :
      LensStat).Agrees lens script kinds := by
  have hstart : .agentStart lens.agent ∉ kinds := silent _ rfl rfl
  constructor
  · exact ⟨rfl, rfl⟩
  · exact fun count => ⟨fun h => (nomatch h.1), fun h => absurd h (silent _ rfl rfl)⟩
  · exact fun e => ⟨fun h => absurd h (silent _ rfl rfl), fun h => absurd h.1 hstart⟩
  · exact fun c _ h => absurd h hstart
  · exact fun _ => ⟨rfl, rfl, rfl⟩
  · exact fun _ => ⟨fun _ => hstart, fun _ => rfl⟩
  · exact fun d => ⟨fun h => (nomatch h), fun h => absurd h.1 hstart⟩

theorem agrees_of_complete {count : Nat}
    (told : ∀ kind : EventKind, kind.isBoundary = true → kind.agent? = some lens.agent →
      (kind ∈ kinds ↔ kind = .agentStart lens.agent ∨ kind = .agentComplete lens.agent count))
    (uncrashed : ∀ c, script.reply ≠ .crashed c) :
    (⟨lens.id, lens.name, .success, count, none, none, some (waitFor script.latency)⟩ :
      LensStat).Agrees lens script kinds := by
  have hstart : .agentStart lens.agent ∈ kinds := (told _ rfl rfl).mpr (.inl rfl)
  constructor
  · exact ⟨rfl, rfl⟩
  · intro n
    rw [told _ rfl rfl]
    simp [eq_comm]
  · intro e
    rw [told _ rfl rfl]
    simp
  · exact fun c hc => absurd hc (uncrashed c)
  · exact fun h => absurd hstart h
  · exact fun _ => ⟨fun h => (nomatch h), fun h => absurd hstart h⟩
  · intro d
    simp [hstart, uncrashed, eq_comm]

theorem agrees_of_error {e : ReviewError} {duration? : Option Nat}
    (told : ∀ kind : EventKind, kind.isBoundary = true → kind.agent? = some lens.agent →
      (kind ∈ kinds ↔ kind = .agentStart lens.agent ∨ kind = .agentError lens.agent e))
    (crashed : ∀ c, script.reply = .crashed c → e = ⟨.unknown, c.text⟩)
    (own : e.code = .notStarted → script.reply = .failed e)
    (duration : ∀ d, duration? = some d ↔ (∀ c, script.reply ≠ .crashed c) ∧ d = waitFor script.latency) :
    (⟨lens.id, lens.name, .failed, 0, some e.code, some e.message, duration?⟩ :
      LensStat).Agrees lens script kinds := by
  have hstart : .agentStart lens.agent ∈ kinds := (told _ rfl rfl).mpr (.inl rfl)
  constructor
  · exact ⟨rfl, rfl⟩
  · intro n
    rw [told _ rfl rfl]
    simp
  · intro e'
    rw [told _ rfl rfl]
    rcases e with ⟨code, message⟩
    rcases e' with ⟨code', message'⟩
    simp [hstart, eq_comm]
  · exact fun c hc _ => (told _ rfl rfl).mpr (.inr (crashed c hc ▸ rfl))
  · exact fun h => absurd hstart h
  · intro client
    constructor
    · intro h
      have hcode : e.code = .notStarted := Option.some.inj h
      exact absurd hcode (client e (own hcode))
    · exact fun h => absurd hstart h
  · intro d
    simp [hstart, duration]

end LensStat

namespace LensEnd

theorem agrees_worked {lens : Lens} {script : String → Script} {kinds : List EventKind}
    (told : ∀ kind : EventKind, kind.isBoundary = true → kind.agent? = some lens.agent → (kind ∈ kinds ↔
      kind = .agentStart lens.agent ∨ kind = LensTask.closing lens.agent (lens.ending script))) :
    (worked script lens).stat.Agrees lens (script lens.id.name) kinds := by
  have htimed (d : Nat) : some (lens.duration script) = some d ↔ d = waitFor (script lens.id.name).latency := by
    rw [Option.some_inj, eq_comm]
    rfl
  rw [Lens.ending, Lens.endingAfter] at told
  rw [worked, Lens.ending, Lens.endingAfter]
  cases hreply : (script lens.id.name).reply with
  | returned value =>
    have huncrashed : ∀ c, (script lens.id.name).reply ≠ .crashed c := by simp [hreply]
    simp only [hreply, Lens.conclude] at told ⊢
    split at told
    · exact LensStat.agrees_of_complete told huncrashed
    · apply LensStat.agrees_of_error told
      · exact fun c hc => absurd hc (huncrashed c)
      · exact fun h => nomatch h
      · exact fun d => (htimed d).trans (and_iff_right huncrashed).symm
  | failed e =>
    have huncrashed : ∀ c, (script lens.id.name).reply ≠ .crashed c := by simp [hreply]
    simp only [hreply, Lens.conclude] at told ⊢
    apply LensStat.agrees_of_error told
    · exact fun c hc => absurd hc (huncrashed c)
    · exact fun _ => hreply
    · exact fun d => (htimed d).trans (and_iff_right huncrashed).symm
  | crashed c =>
    simp only [hreply, Lens.conclude] at told ⊢
    apply LensStat.agrees_of_error told
    · intro c' hc
      rw [hreply] at hc
      cases hc
      rfl
    · exact fun h => nomatch h
    · exact fun d => ⟨fun h => (nomatch h), fun h => absurd hreply (h.1 c)⟩

/-- The lenses without a report are those whose statistics say that they failed. -/
theorem map_failures (ends : List LensEnd) :
    ((failures ends).map fun f => (f.lensId, f.lensName, some f.errorCode, some f.errorMessage)) =
      ((ends.map stat).filter (·.status = .failed)).map fun t =>
        (t.lensId, t.lensName, t.errorCode, t.errorMessage) := by
  induction ends with
  | nil => rfl
  | cons e rest ih =>
    rw [failures] at ih ⊢
    rcases e with ⟨lens, settled⟩
    cases settled with
    | returned r => exact ih
    | failed f => exact congrArg (_ :: ·) ih
    | crashed m => exact congrArg (_ :: ·) ih
    | notStarted => exact congrArg (_ :: ·) ih

end LensEnd

/-- An outcome agrees with the events of its review, of which the last one holds the results. -/
structure Outcome.Agrees (outcome : Outcome) (summary : String) (totalIssues : Nat)
    (lensStats : List LensStat) (events : List Event) : Prop where
  lensStats_eq : outcome.lensStats = lensStats
  summary_eq : outcome.summary = summary
  failedLenses_eq :
    (outcome.failedLenses.map fun f => (f.lensId, f.lensName, some f.errorCode, some f.errorMessage)) =
      (lensStats.filter (·.status = .failed)).map fun t => (t.lensId, t.lensName, t.errorCode, t.errorMessage)
  length_issues : outcome.issues.length = totalIssues
  traceId_eq : ∀ event ∈ events, event.trace.traceId = outcome.traceId

namespace Session

variable {diff : Diff} {options : ReviewOptions} {run : RunOptions} {plan : Plan} {token : Token} {s : Session}
  {root : TraceContext} {tasks : List LensTask} {opened : Session} {k : Nat} {calls : List (Call LensTask)}
  {last : Pool Session LensTask LensReport LensFailure}

/-- A lens starts and ends in a review if it is one of the first, and only then. -/
theorem Reviewed.mem_framed (h : Reviewed diff options run plan token s root tasks opened k calls last)
    (distinct : (plan.lenses.map Lens.agent).Nodup) {i : Nat} {lens : Lens} (hlens : plan.lenses[i]? = some lens)
    {kinds : List EventKind} {concurrency totalIssues filesAnalyzed : Nat} {summary : String}
    {lensStats : List LensStat}
    (framed : kinds = EventKind.framed (plan.lenses.map Lens.agent) concurrency
      (calls.flatMap (LensTask.kinds diff ⟨options.projectContext, options.focus⟩ (s.answers diff options)))
      summary totalIssues lensStats filesAnalyzed)
    {kind : EventKind} (boundary : kind.isBoundary = true) (agent : kind.agent? = some lens.agent) :
    kind ∈ kinds ↔ i < k ∧ (kind = .agentStart lens.agent ∨
      kind = LensTask.closing lens.agent (lens.ending (s.answers diff options))) := by
  have hagent : (plan.lenses.map Lens.agent)[i]? = some lens.agent := by
    rw [List.getElem?_map, hlens]
    rfl
  have hmem : kind ∈ kinds ↔ kind ∈ kinds.filter (·.agent? = some lens.agent) := by
    rw [List.mem_filter, agent]
    simp
  have hqueued : ∀ position total, kind ≠ .agentQueued lens.agent position total := by
    rintro position total rfl
    cases boundary
  have hopening : kind ∉ lens.opening diff ⟨options.projectContext, options.focus⟩ := by
    intro hkind
    rw [LensTask.isBoundary_of_mem_opening hkind] at boundary
    cases boundary
  rw [hmem, framed, EventKind.filter_framed distinct hagent, h.story_eq distinct hlens, List.mem_cons,
    or_iff_right (hqueued _ _)]
  by_cases hi : i < k
  · rw [if_pos hi, List.mem_cons, List.mem_append, or_iff_right hopening, List.mem_singleton,
      and_iff_right hi]
  · rw [if_neg hi]
    exact ⟨fun h => absurd h List.not_mem_nil, fun h => absurd h.1 hi⟩

/-- The events of a review and what it returns tell the same. The statistics have an entry for each lens, in
order. A lens that was started and has not crashed, in its model or before it asked, has taken the time that
the model takes, however long it has waited. -/
theorem orchestrate_agreement (nonempty : diff.isEmpty = false) (planned : options.plan = .ok plan)
    (run : RunOptions) (token : Token) (s : Session) :
    ∃ (new : List Event) (front : List EventKind) (summary : String) (totalIssues : Nat)
      (lensStats : List LensStat),
      (s.orchestrate diff options run token).2.2.events = s.events ++ new ∧
      new.map Event.kind = front ++ [.orchestratorComplete summary totalIssues lensStats diff.fileCount] ∧
      lensStats.length = plan.lenses.length ∧
      (∀ (i : Nat) (lens : Lens), plan.lenses[i]? = some lens → ∃ stat, lensStats[i]? = some stat ∧
        stat.Agrees lens (s.answers diff options lens.id.name) (new.map Event.kind)) ∧
      ∀ outcome, (s.orchestrate diff options run token).1 = .ok outcome →
        outcome.Agrees summary totalIssues lensStats new := by
  obtain ⟨root, tasks, opened, k, calls, last, h⟩ := exists_reviewed nonempty planned run token s
  obtain ⟨new, hnew, htrace, hkinds⟩ := h.exists_new
  have hdistinct : (plan.lenses.map Lens.agent).Nodup := ReviewOptions.nodup_agents_of_plan planned
  obtain ⟨front, hfront⟩ := EventKind.exists_front hkinds
  refine ⟨new, front, _, _, _, hnew, hfront, ?_, ?_, ?_⟩
  · rw [List.length_map]
    exact (List.length_map _).symm.trans (congrArg List.length (LensEnd.map_lens_ofRun _ k _))
  · intro i lens hlens
    rw [List.getElem?_map, LensEnd.getElem?_ofRun, hlens]
    refine ⟨_, rfl, ?_⟩
    by_cases hi : i < k
    · simp only [hi, if_true]
      apply LensEnd.agrees_worked
      intro kind hboundary hagent
      rw [h.mem_framed hdistinct hlens hkinds hboundary hagent, and_iff_right hi]
    · simp only [hi, if_false]
      apply LensStat.agrees_of_silence
      intro kind hboundary hagent hmem
      exact hi ((h.mem_framed hdistinct hlens hkinds hboundary hagent).mp hmem).1
  · intro outcome houtcome
    rw [LensEnd.eq_outcome (h.result_eq.symm.trans houtcome)]
    exact ⟨rfl, rfl, LensEnd.map_failures _, rfl, htrace⟩

theorem orchestrate_agreement_of_two_lenses :
    let client := ScriptedClient.new.withReply "security" (.failed ⟨.rateLimited, "slow down"⟩)
    let s : Session := .new client .counting
    let diff : Diff := .ofFiles [⟨"lib.rs", none, .modify, [], "", 1, 0⟩]
    let options : ReviewOptions := ⟨some ["correctness", "security"], none, none, none, none⟩
    let plan : Plan := ⟨[.ofId .correctness, .ofId .security], none⟩
    diff.isEmpty = false ∧ options.plan = .ok plan ∧ ∃ outcome summary totalIssues lensStats new,
      (s.orchestrate diff options ⟨2, true, false⟩ .fresh).1 = .ok outcome ∧ lensStats.length = 2 ∧
        outcome.Agrees summary totalIssues lensStats new := by
  intro client s diff options plan
  have nonempty : diff.isEmpty = false := rfl
  have planned : options.plan = .ok plan := rfl
  obtain ⟨outcome, houtcome⟩ := exists_outcome nonempty planned ⟨2, true, false⟩ rfl .fresh s
  obtain ⟨new, front, summary, totalIssues, lensStats, -, -, hlength, -, hagrees⟩ :=
    orchestrate_agreement nonempty planned ⟨2, true, false⟩ .fresh s
  exact ⟨nonempty, planned, outcome, summary, totalIssues, lensStats, new, houtcome, hlength,
    hagrees outcome houtcome⟩

/-- The time that a lens has taken is not what its model means to take when that is more than thirty
years. -/
theorem durationMs_of_very_slow_model :
    let client := (ScriptedClient.new.withReply "correctness" (.failed ⟨.modelError, "late"⟩)).withLatency
      "correctness" 1000000000000
    let s : Session := .new client .counting
    let diff : Diff := .ofFiles [⟨"lib.rs", none, .modify, [], "", 1, 0⟩]
    let options : ReviewOptions := ⟨none, none, none, none, none⟩
    ∃ (new : List Event) (front : List EventKind) (summary : String) (totalIssues : Nat) (stat : LensStat),
      (s.orchestrate diff options ⟨1, true, false⟩ .fresh).2.2.events = s.events ++ new ∧
        new.map Event.kind = front ++ [.orchestratorComplete summary totalIssues [stat] 1] ∧
        stat.lensId = .correctness ∧ stat.errorCode = some .modelError ∧
        stat.durationMs = some 946080000000 ∧
        stat.durationMs ≠ some (client.script "correctness").latency := by
  intro client s diff options
  have nonempty : diff.isEmpty = false := rfl
  have planned : options.plan = .ok ⟨[.ofId .correctness], none⟩ := rfl
  have running : (s.orchestrate diff options ⟨1, true, false⟩ .fresh).2.1.cancelled = false :=
    cancelled_orchestrate rfl rfl
  obtain ⟨root, tasks, opened, k, calls, last, h⟩ :=
    exists_reviewed nonempty planned ⟨1, true, false⟩ .fresh s
  obtain ⟨new, hnew, -, hkinds⟩ := h.exists_new
  rw [h.ofRun_eq running] at hkinds
  obtain ⟨front, hfront⟩ := EventKind.exists_front hkinds
  have hlatency : (client.script "correctness").latency = 1000000000000 := rfl
  refine ⟨new, front, _, _, _, hnew, hfront, rfl, rfl, rfl, ?_⟩
  rw [hlatency]
  exact fun heq => absurd (Option.some.inj heq) (by decide)

end Session

end ReviewPanel
