import ReviewPanel.Proofs.Concurrent.PoolAccounting

/-! # The outcomes of a run are dense and in order

Of the tasks of a run, those before some place were started, in order, and each of them has left its own
state behind; all others have settled as never started. -/
namespace ReviewPanel

variable {σ τ ρ ε : Type}

/-- An account of a run in which the first `k` tasks were started: the calls of the worker, in order. -/
structure Run.Account (w : Worker σ τ ρ ε) (tasks : List τ) (token : Token) (now : Nat) (world : σ)
    (r : Run σ ρ ε) (k : Nat) (calls : List (Call τ)) : Prop where
  /-- The run is what the calls have made of it. -/
  world_eq : r.world = (w.performAll (world, token) calls).1
  token_eq : r.token = (w.performAll (world, token) calls).2.ring r.now
  history_eq : r.history = calls.map Call.mark
  sorted : calls.Pairwise fun c d => c.time ≤ d.time
  between : ∀ c ∈ calls, now ≤ c.time ∧ c.time ≤ r.now
  /-- The first `k` tasks are handed over in order, each once and with its own index. -/
  started : calls.filterMap Call.started? = Lanes.line 0 (tasks.take k)
  /-- Nothing happens to such a task but its start and then its end. -/
  about_started : ∀ i < k, ∃ lane u time, u.index = i ∧ tasks[i]? = some u.task ∧
    Call.about i calls = [.start i u.task u.startedAt, .finish lane u time]
  /-- The end of a task comes when its time is up. -/
  time_eq : ∀ before lane u time after, calls = before ++ .finish lane u time :: after →
    ∃ earlier later, before = earlier ++ .start u.index u.task u.startedAt :: later ∧
      time = u.startedAt + w.latency u (w.performAll (world, token) earlier).1
  /-- Its outcome is the state in which its end has left it. -/
  outcome_eq : ∀ before lane u time after, calls = before ++ .finish lane u time :: after →
    r.outcomes[u.index]? = some (w.settled u time (w.performAll (world, token) before).1)
  /-- The worker is never told of any other task. -/
  about_notStarted : ∀ i, k ≤ i → Call.about i calls = []
  outcome_notStarted : ∀ i, k ≤ i → i < tasks.length → r.outcomes[i]? = some .notStarted
  /-- No task is started once the token is cancelled. -/
  running : ∀ before i task time after, calls = before ++ .start i task time :: after →
    (w.performAll (world, token) before).2.isCancelled time = false

/-- Whatever the worker does and whenever the token is cancelled, a run has one outcome for each task. The
first tasks were started, in order, and their outcomes are their own; the others were not. If the token is
never cancelled, all of them were started. -/
theorem Worker.run_account (w : Worker σ τ ρ ε) (tasks : List τ) (concurrency : Nat) (token : Token)
    (now : Nat) (world : σ) :
    let r := w.run tasks concurrency token now world
    r.outcomes.length = tasks.length ∧
      ∃ k ≤ tasks.length, (r.token.cancelled = false → k = tasks.length) ∧
        ∃ calls, r.Account w tasks token now world k calls := by
  intro r
  obtain ⟨k, calls, last, c, hrun⟩ := w.exists_course tasks concurrency token now world
  obtain ⟨hsorted, hbetween⟩ := c.path.times
  have hr : r = last.toRun tasks.length calls := hrun
  rw [hr]
  refine ⟨last.length_outcomes_toRun _ _, k, c.books.le, c.eq_length, calls, ?_⟩
  constructor
  · exact congrArg Prod.fst c.stage_eq
  · rw [← c.stage_eq]
    rfl
  · rfl
  · exact hsorted
  · exact hbetween
  · exact c.books.started
  · exact fun i hi => c.about_eq hi
  · intro before lane u time after hcalls
    exact Pool.Path.start_of_finish (hcalls ▸ c.path) rfl
  · intro before lane u time after hcalls
    have hlookup := Pool.Path.lookup_ended (hcalls ▸ c.path)
    have htask := Pool.Path.task_of_finish (hcalls ▸ c.path)
    have hindex : u.index < tasks.length := (List.getElem?_eq_some_iff.mp htask).1
    rw [last.getElem?_outcomes_toRun calls hindex, hlookup]
    rfl
  · exact fun i hi => (c.books.waiting i hi).1
  · intro i hi hlt
    rw [last.getElem?_outcomes_toRun calls hlt, (c.books.waiting i hi).2]
    rfl
  · intro before i task time after hcalls
    exact Pool.Path.running_of_start (hcalls ▸ c.path)

end ReviewPanel
