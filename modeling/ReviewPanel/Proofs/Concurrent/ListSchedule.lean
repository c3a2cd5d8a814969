import ReviewPanel.Proofs.Concurrent.LaneTimes

/-! # Runs as list schedules

A run that is not cancelled starts its tasks when a list schedule does, returns when the last of them has
ended, and leaves no lane idle while a task waits. An alarm cuts the schedule at its time. -/
namespace ReviewPanel

variable {σ τ ρ ε : Type}

namespace Call

theorem time_mark (c : Call τ) : c.mark.time = c.time := by cases c <;> rfl

theorem countP_isStart_mark (calls : List (Call τ)) :
    (calls.map mark).countP Mark.isStart = calls.countP isStart := by
  rw [List.countP_map]
  congr 1
  funext c
  cases c <;> rfl

theorem countP_isFinish_mark (calls : List (Call τ)) :
    (calls.map mark).countP Mark.isFinish = calls.countP isFinish := by
  rw [List.countP_map]
  congr 1
  funext c
  cases c <;> rfl

end Call

theorem Lanes.map_line {β : Type} (f : Nat → τ → β) (first : Nat) (tasks : List τ) :
    (line first tasks).map (fun p => f p.1 p.2) = tasks.mapIdx fun i => f (first + i) := by
  induction tasks generalizing first with
  | nil => rfl
  | cons t rest ih =>
    simp [line, List.mapIdx_cons, ih, Nat.add_assoc, Nat.add_comm 1]

/-- No call of the worker cancels the run. -/
def Worker.Quiet (w : Worker σ τ ρ ε) (world : σ) (token : Token) : Prop :=
  ∀ calls, (w.performAll (world, token) calls).2 = token

namespace Pool

variable {w : Worker σ τ ρ ε} {capacity : Nat} {s s₀ : Pool σ τ ρ ε}

theorem Path.cancelled_mono {calls : List (Call τ)} (h : Path w capacity s₀ calls s)
    (cancelled : s₀.token.isCancelled s₀.now = true) : s.token.isCancelled s.now = true := by
  induction h with
  | refl => exact cancelled
  | snoc path step ih =>
    cases step with
    | start => exact Lanes.isCancelled_cancelIf ih _
    | finish lane hand first later busy => exact Lanes.isCancelled_cancelIf (Lanes.isCancelled_mono ih later) _

/-- It is the time of the last end of a task. -/
theorem Path.now_mem {calls : List (Call τ)} (h : Path w capacity s₀ calls s) :
    s.now = s₀.now ∨ ∃ lane u, .finish lane u s.now ∈ calls := by
  induction h with
  | refl => exact .inl rfl
  | snoc path step ih =>
    cases step with
    | start =>
      rcases ih with hnow | ⟨lane, u, hmem⟩
      · exact .inl hnow
      · exact .inr ⟨lane, u, List.mem_append_left _ hmem⟩
    | @finish lane u => exact .inr ⟨lane, u, by simp [Pool.finish]⟩

section Begun

variable {tasks : List τ} {token : Token} {now k : Nat} {world : σ} {calls : List (Call τ)}
  {latency : Nat → τ → Nat} {last : Pool σ τ ρ ε}

/-- The latencies of a run begin with those of the tasks that were handed over. -/
theorem Course.latencies_prefix (c : Course w capacity tasks token now world k calls last)
    (latency : Nat → τ → Nat) :
    ∃ rest, tasks.mapIdx latency = latencies latency calls ++ rest ∧ (k = tasks.length → rest = []) := by
  have htaken : latencies latency calls = (tasks.take k).mapIdx latency := by
    rw [latencies, c.books.started, Lanes.map_line]
    simp
  refine ⟨(tasks.drop k).mapIdx fun i => latency (i + (tasks.take k).length), ?_, ?_⟩
  · rw [htaken, ← List.mapIdx_append, List.take_append_drop]
  · intro hk
    simp [hk]

/-- A task starts at the time that the list schedule sets for it, if it starts at all. -/
theorem Course.started_iff (c : Course w capacity tasks token now world k calls last)
    (takes : w.Takes latency world token) {i start : Nat} :
    Mark.started i start ∈ calls.map Call.mark ↔
      i < k ∧ (listStarts (List.replicate capacity now) (tasks.mapIdx latency))[i]? = some start := by
  obtain ⟨rest, hlatencies, -⟩ := c.latencies_prefix latency
  have hstarts := (c.path.frees takes).1
  have hlength : (latencies latency calls).length = k := c.books.length_latencies
  have hmem : Mark.started i start ∈ calls.map Call.mark ↔
      (i, start) ∈ calls.filterMap (·.mark.start?) := by
    simp only [List.mem_map, List.mem_filterMap]
    constructor
    · rintro ⟨call, hcall, hmark⟩
      exact ⟨call, hcall, by simp [hmark, Mark.start?]⟩
    · rintro ⟨call, hcall, hstart⟩
      refine ⟨call, hcall, ?_⟩
      cases hmark : call.mark <;> simp_all [Mark.start?]
  rw [hmem, hstarts, hlatencies, listStarts_append, List.mem_iff_getElem?]
  simp only [List.getElem?_mapIdx, Option.map_eq_some_iff, Prod.mk.injEq]
  constructor
  · rintro ⟨j, t, ht, rfl, rfl⟩
    have hj := (List.getElem?_eq_some_iff.mp ht).1
    rw [length_listStarts, hlength] at hj
    exact ⟨hj, by rw [List.getElem?_append_left (by simpa [hlength] using hj), ht]⟩
  · rintro ⟨hi, hstart⟩
    rw [List.getElem?_append_left (by simpa [hlength] using hi)] at hstart
    exact ⟨i, start, hstart, rfl, rfl⟩

/-- A task that has come to its end was at work for its own time from its start in the list schedule on. -/
theorem Course.finish_time (c : Course w capacity tasks token now world k calls last)
    (takes : w.Takes latency world token) {lane time : Nat} {u : Underway τ} (h : .finish lane u time ∈ calls) :
    ∃ start d, (listStarts (List.replicate capacity now) (tasks.mapIdx latency))[u.index]? = some start ∧
      (tasks.mapIdx latency)[u.index]? = some d ∧ time = start + d := by
  obtain ⟨before, after, hcalls⟩ := List.append_of_mem h
  obtain ⟨earlier, later, hbefore, htime⟩ := Path.start_of_finish (hcalls ▸ c.path) rfl
  have htask := Path.task_of_finish (hcalls ▸ c.path)
  have hstart : Mark.started u.index u.startedAt ∈ calls.map Call.mark := by
    rw [hcalls, hbefore]
    simp [Call.mark]
  have hd : time = u.startedAt + latency u.index u.task := by
    rw [← takes earlier u]
    exact htime
  exact ⟨u.startedAt, latency u.index u.task, ((c.started_iff takes).mp hstart).2, by simp [htask], hd⟩

/-- The run is over when the last of its tasks is. -/
theorem Course.now_eq (c : Course w capacity tasks token now world k calls last)
    (takes : w.Takes latency world token) (all : k = tasks.length) :
    last.now = (List.zipWith (· + ·) (listStarts (List.replicate capacity now) (tasks.mapIdx latency))
      (tasks.mapIdx latency)).max?.getD now := by
  let starts := listStarts (List.replicate capacity now) (tasks.mapIdx latency)
  have hbounds := c.path.times.2
  have hnow : now ≤ last.now := c.path.now_le
  cases htasks : tasks with
  | nil =>
    rcases c.path.now_mem with heq | ⟨lane, u, hmem⟩
    · exact heq
    · have := (c.task_eq hmem).1
      simp [all, htasks] at this
  | cons first rest =>
    rw [← htasks]
    have hends : ∀ i start d : Nat, starts[i]? = some start → (tasks.mapIdx latency)[i]? = some d →
        now ≤ start ∧ start + d ≤ last.now := by
      intro i start d hstart hd
      have hi : i < k := by
        have := (List.getElem?_eq_some_iff.mp hd).1
        simpa [all] using this
      obtain ⟨call, hcall, hmark⟩ := List.mem_map.mp ((c.started_iff takes).mpr ⟨hi, hstart⟩)
      obtain ⟨lane, u, time, rfl, -, habout⟩ := c.about_eq hi
      have hfinish : .finish lane u time ∈ calls := by
        refine List.mem_of_mem_filter (p := fun e => decide (e.index = u.index)) ?_
        rw [Call.about] at habout
        simp [habout]
      obtain ⟨start', d', hstart', hd', htime⟩ := c.finish_time takes hfinish
      obtain rfl : start = start' := Option.some.inj (hstart.symm.trans hstart')
      obtain rfl : d = d' := Option.some.inj (hd.symm.trans hd')
      have hcallTime : call.time = start := by
        cases call <;> simp_all [Call.mark, Call.time]
      have h₁ := hbounds call hcall
      have h₂ := hbounds _ hfinish
      rw [hcallTime] at h₁
      exact ⟨h₁.1, htime ▸ h₂.2⟩
    have hmax : (List.zipWith (· + ·) starts (tasks.mapIdx latency)).max? = some last.now := by
      rw [List.max?_eq_some_iff]
      constructor
      · rw [List.mem_iff_getElem?]
        rcases c.path.now_mem with heq | ⟨lane, u, hmem⟩
        · -- no time has passed at all, so the first task has ended at once
          have hlast : last.now = now := heq
          have hlength : 0 < starts.length := by simp [starts, htasks]
          obtain ⟨start, hstart⟩ : ∃ start, starts[0]? = some start := ⟨_, List.getElem?_eq_getElem hlength⟩
          have hd : (tasks.mapIdx latency)[0]? = some (latency 0 first) := by simp [htasks]
          obtain ⟨hfrom, hto⟩ := hends 0 start _ hstart hd
          exact ⟨0, List.getElem?_zipWith_eq_some.mpr ⟨_, _, hstart, hd, by omega⟩⟩
        · obtain ⟨start, d, hstart, hd, htime⟩ := c.finish_time takes hmem
          exact ⟨u.index, List.getElem?_zipWith_eq_some.mpr ⟨_, _, hstart, hd, htime.symm⟩⟩
      · intro t ht
        obtain ⟨i, hi⟩ := List.mem_iff_getElem?.mp ht
        obtain ⟨start, d, hstart, hd, rfl⟩ := List.getElem?_zipWith_eq_some.mp hi
        exact (hends i start d hstart hd).2
    rw [hmax, Option.getD_some]

/-- While a task is in the line and the run goes on, time passes only when all lanes are at work. -/
theorem Course.busy (c : Course w capacity tasks token now world k calls last)
    (running : last.token.isCancelled last.now = false) {before after : List (Call τ)} {call : Call τ}
    (h : calls = before ++ call :: after) (passes : ∀ t ∈ now :: before.map Call.time, t < call.time)
    (waiting : before.countP Call.isStart < tasks.length) :
    before.countP Call.isStart = before.countP Call.isFinish + capacity := by
  obtain ⟨m, m', hbefore, hstep, hafter⟩ := Path.step_of_mem (h ▸ c.path)
  have hnow : m.now < call.time := by
    rcases hbefore.now_mem with heq | ⟨lane, u, hmem⟩
    · exact heq ▸ passes now List.mem_cons_self
    · exact passes _ (List.mem_cons_of_mem _ (List.mem_map_of_mem (f := Call.time) hmem))
  have hwaiting : m.todo ≠ [] := by
    obtain ⟨j, b⟩ := hbefore.books
    have hline := congrArg List.length b.line
    have hcount := b.countP_isStart
    simp only [Lanes.length_line, List.length_drop] at hline
    intro hempty
    rw [hempty, List.length_nil] at hline
    omega
  have hrunning : m.token.isCancelled m.now = false := by
    rw [← Bool.not_eq_true]
    intro hcancelled
    have hlast := hafter.cancelled_mono ((Path.refl.snoc hstep).cancelled_mono hcancelled)
    simp [running] at hlast
  cases hstep with
  | start next room running => exact absurd hnow (Nat.lt_irrefl _)
  | finish lane hand first later busy =>
    have hcount := hbefore.countP_isStart
    have hnone : (begun tasks token now world : Pool σ τ ρ ε).atWork.card = 0 := rfl
    rcases busy hnow with hfull | hempty | hcancelled
    · omega
    · exact absurd hempty hwaiting
    · simp [hrunning] at hcancelled

theorem Course.history_starts (c : Course w capacity tasks token now world k calls last)
    (takes : w.Takes latency world token) (all : k = tasks.length) :
    (calls.map Call.mark).filterMap Mark.start? =
      (listStarts (List.replicate capacity now) (tasks.mapIdx latency)).mapIdx Prod.mk := by
  obtain ⟨rest, hlatencies, hrest⟩ := c.latencies_prefix latency
  rw [List.filterMap_map, hlatencies, hrest all, List.append_nil]
  exact (c.path.frees takes).1

/-- A task that is never started was not to start before the run was cancelled. -/
theorem Course.cancelled_of_le (c : Course w capacity tasks token now world k calls last)
    (takes : w.Takes latency world token) (positive : 0 < capacity) {i start : Nat} (hi : k ≤ i)
    (hstart : (listStarts (List.replicate capacity now) (tasks.mapIdx latency))[i]? = some start) :
    last.token.isCancelled start = true := by
  obtain ⟨rest, hlatencies, -⟩ := c.latencies_prefix latency
  obtain ⟨idle, hfree, hidle⟩ := (c.path.frees takes).2.lanes_eq
  have hlt : i < tasks.length := by
    have := (List.getElem?_eq_some_iff.mp hstart).1
    simpa using this
  have htodo : last.todo ≠ [] := by
    have hline := congrArg List.length c.books.line
    simp only [Lanes.length_line, List.length_drop] at hline
    intro hempty
    rw [hempty, List.length_nil] at hline
    omega
  have hcancelled : last.token.isCancelled last.now = true := c.closed.resolve_left htodo
  -- it starts no earlier than the first lane comes free that takes no task
  have hle : earliest (freeAfter (List.replicate capacity now) (latencies latency calls)) ≤ start := by
    rw [hlatencies, listStarts_append, List.getElem?_append_right (by simpa [c.books.length_latencies] using hi)]
      at hstart
    exact earliest_le_listStarts (List.mem_of_getElem? hstart)
  refine Lanes.isCancelled_mono ?_ hle
  have hmem : earliest (freeAfter (List.replicate capacity now) (latencies latency calls)) ∈ idle := by
    rw [c.idle, Multiset.map_zero, Multiset.zero_add] at hfree
    rw [← hfree, Multiset.mem_coe]
    refine earliest_mem (List.ne_nil_of_length_pos ?_)
    simpa using positive
  obtain ⟨-, heq | hempty | hearlier⟩ := hidle _ hmem
  · exact heq ▸ hcancelled
  · exact absurd hempty htodo
  · exact hearlier

theorem Course.token_eq (c : Course w capacity tasks token now world k calls last) (quiet : w.Quiet world token) :
    last.token = token := (congrArg Prod.snd c.stage_eq).trans (quiet calls)

/-- A task starts only while the run is not cancelled. -/
theorem Course.exists_running (c : Course w capacity tasks token now world k calls last)
    (takes : w.Takes latency world token) {i start : Nat} (hi : i < k)
    (hstart : (listStarts (List.replicate capacity now) (tasks.mapIdx latency))[i]? = some start) :
    ∃ before, (w.performAll (world, token) before).2.isCancelled start = false := by
  obtain ⟨call, hcall, hmark⟩ := List.mem_map.mp ((c.started_iff takes).mpr ⟨hi, hstart⟩)
  obtain ⟨before, after, hcalls⟩ := List.append_of_mem hcall
  cases call with
  | finish lane u time => simp [Call.mark] at hmark
  | start index task time =>
    obtain ⟨-, rfl⟩ : index = i ∧ time = start := by simpa [Call.mark] using hmark
    exact ⟨before, Path.running_of_start (hcalls ▸ c.path)⟩

end Begun

end Pool

/-- A run whose tasks all start, on as many lanes as there are, as in a list schedule. -/
structure Run.OnSchedule (r : Run σ ρ ε) (lanes now : Nat) (latencies : List Nat) : Prop where
  starts_eq : r.history.filterMap Mark.start? =
    (listStarts (List.replicate lanes now) latencies).mapIdx Prod.mk
  /-- The run returns when the last task has ended, or at once if there is none. -/
  now_eq : r.now =
    (List.zipWith (· + ·) (listStarts (List.replicate lanes now) latencies) latencies).max?.getD now
  /-- When time passes before all tasks have started, all lanes are at work. -/
  busy : ∀ before m after, r.history = before ++ m :: after →
    (∀ t ∈ now :: before.map Mark.time, t < m.time) → before.countP Mark.isStart < latencies.length →
    before.countP Mark.isStart = before.countP Mark.isFinish + lanes

/-- A run that is cancelled at some time while its tasks start as in a list schedule. -/
structure Run.CutAt (r : Run σ ρ ε) (alarm : Nat) (starts : List Nat) : Prop where
  started : ∀ i start, starts[i]? = some start → start < alarm → Mark.started i start ∈ r.history
  notStarted : ∀ i start, starts[i]? = some start → alarm < start →
    r.outcomes[i]? = some .notStarted ∧ ∀ time, Mark.started i time ∉ r.history

theorem Pool.Course.onSchedule {w : Worker σ τ ρ ε} {capacity k now : Nat} {tasks : List τ} {token : Token}
    {world : σ} {calls : List (Call τ)} {last : Pool σ τ ρ ε} {latency : Nat → τ → Nat}
    (c : Course w capacity tasks token now world k calls last) (takes : w.Takes latency world token)
    (running : last.token.isCancelled last.now = false) :
    (last.toRun tasks.length calls).OnSchedule capacity now (tasks.mapIdx latency) where
  starts_eq := c.history_starts takes (c.eq_length running)
  now_eq := c.now_eq takes (c.eq_length running)
  busy := by
    intro before m after h passes waiting
    obtain ⟨xs, ys, hcalls, rfl, hys⟩ := List.map_eq_append_iff.mp h
    obtain ⟨call, zs, rfl, rfl, rfl⟩ := List.map_eq_cons_iff.mp hys
    have htimes : xs.map (Mark.time ∘ Call.mark) = xs.map Call.time := by simp [Call.time_mark]
    rw [Call.countP_isStart_mark, List.length_mapIdx] at waiting
    rw [List.map_map, htimes, Call.time_mark] at passes
    rw [Call.countP_isStart_mark, Call.countP_isFinish_mark]
    exact c.busy running hcalls passes waiting

theorem Token.isCancelled_cancelAt_fresh (alarm now : Nat) :
    (fresh.cancelAt alarm).isCancelled now = decide (alarm ≤ now) := rfl

theorem Pool.Course.cutAt {w : Worker σ τ ρ ε} {capacity k now alarm : Nat} {tasks : List τ}
    {world : σ} {calls : List (Call τ)} {last : Pool σ τ ρ ε} {latency : Nat → τ → Nat}
    (c : Course w capacity tasks (Token.fresh.cancelAt alarm) now world k calls last)
    (takes : w.Takes latency world (Token.fresh.cancelAt alarm))
    (quiet : w.Quiet world (Token.fresh.cancelAt alarm)) (positive : 0 < capacity) :
    (last.toRun tasks.length calls).CutAt alarm
      (listStarts (List.replicate capacity now) (tasks.mapIdx latency)) where
  started := by
    intro i start hstart hearly
    by_cases hi : i < k
    · exact (c.started_iff takes).mpr ⟨hi, hstart⟩
    · have hcancelled := c.cancelled_of_le takes positive (Nat.le_of_not_lt hi) hstart
      rw [c.token_eq quiet, Token.isCancelled_cancelAt_fresh, decide_eq_true_eq] at hcancelled
      omega
  notStarted := by
    intro i start hstart hlate
    have hi : k ≤ i := by
      by_contra hlt
      obtain ⟨before, hrunning⟩ := c.exists_running takes (Nat.lt_of_not_le hlt) hstart
      rw [quiet before, Token.isCancelled_cancelAt_fresh, decide_eq_false_iff_not] at hrunning
      omega
    have hlength : i < tasks.length := by simpa using (List.getElem?_eq_some_iff.mp hstart).1
    constructor
    · rw [last.getElem?_outcomes_toRun calls hlength, (c.books.waiting i hi).2]
      rfl
    · intro time hstarted
      exact absurd ((c.started_iff takes).mp hstarted).1 (Nat.not_lt.mpr hi)

/-- Whatever its tasks come to, a run that is not cancelled starts each of them when the first lane of a list
schedule comes free, leaves no lane idle while a task waits, and never has more tasks at work than there are
lanes. An alarm leaves the starts before it as they are and lets no task start after it. -/
theorem Worker.run_listSchedule (w : Worker σ τ ρ ε) (tasks : List τ) (latency : Nat → τ → Nat)
    (concurrency : Nat) (token : Token) (now : Nat) (world : σ) (takes : w.Takes latency world token) :
    let r := w.run tasks concurrency token now world
    let lanes := effectiveConcurrency concurrency tasks.length
    (r.token.cancelled = false → r.OnSchedule lanes now (tasks.mapIdx latency)) ∧
      (∀ before after, r.history = before ++ after →
        before.countP Mark.isStart ≤ before.countP Mark.isFinish + lanes) ∧
      ∀ alarm, token = Token.fresh.cancelAt alarm → w.Quiet world token →
        r.CutAt alarm (listStarts (List.replicate lanes now) (tasks.mapIdx latency)) := by
  intro r lanes
  obtain ⟨k, calls, last, c, hrun⟩ := w.exists_course tasks concurrency token now world
  have hr : r = last.toRun tasks.length calls := hrun
  rw [hr]
  refine ⟨c.onSchedule takes, ?_, ?_⟩
  · intro before after h
    obtain ⟨xs, ys, hcalls, rfl, -⟩ := List.map_eq_append_iff.mp h
    rw [Call.countP_isStart_mark, Call.countP_isFinish_mark]
    exact c.countP_isStart_le hcalls
  · rintro alarm rfl quiet
    exact c.cutAt takes quiet (Nat.le_max_left _ _)

section Naps

/-- A worker that waits for as long as a task says and does nothing else. -/
def Worker.nap : Worker Unit Nat Unit Unit where
  start _ ms _ _ := ⟨(), ms, false⟩
  finish _ _ _ _ _ := ⟨(), .returned (), false⟩
  onCrash _ _ _ _ := ()

theorem Worker.token_run_of_quiet {w : Worker σ τ ρ ε} {world : σ} {token : Token}
    (quiet : w.Quiet world token) (tasks : List τ) (concurrency now : Nat) :
    (w.run tasks concurrency token now world).token =
      token.ring (w.run tasks concurrency token now world).now := by
  obtain ⟨k, calls, last, c, hrun⟩ := w.exists_course tasks concurrency token now world
  rw [hrun]
  exact congrArg (Token.ring · last.now) (c.token_eq quiet)

theorem Worker.quiet_nap (token : Token) : nap.Quiet () token := by
  intro calls
  induction calls with
  | nil => rfl
  | cons c rest ih => cases c <;> exact ih

/-- Two lanes serve five tasks. An alarm between the starts of the last two leaves the last one out. -/
theorem Worker.run_listSchedule_of_naps :
    let tasks := [30, 10, 0, 10, 5]
    let whole := nap.run tasks 2 .fresh 0 ()
    let cut := nap.run tasks 2 (Token.fresh.cancelAt 15) 0 ()
    (∀ token, nap.Takes (fun _ ms => ms) () token) ∧ whole.token.cancelled = false ∧
      whole.OnSchedule 2 0 tasks ∧ whole.now = 30 ∧
      listStarts [0, 0] tasks = [0, 0, 10, 10, 20] ∧
      nap.Quiet () (Token.fresh.cancelAt 15) ∧ cut.CutAt 15 [0, 0, 10, 10, 20] := by
  intro tasks whole cut
  have takes (token : Token) : nap.Takes (fun _ ms => ms) () token := fun _ _ => rfl
  have latencies : tasks.mapIdx (fun _ ms => ms) = tasks := by decide
  have lanes : effectiveConcurrency 2 tasks.length = 2 := by decide
  have starts : listStarts [0, 0] tasks = [0, 0, 10, 10, 20] := by decide
  have running : whole.token.cancelled = false := by
    rw [token_run_of_quiet (quiet_nap .fresh)]
    rfl
  have quiet := quiet_nap (Token.fresh.cancelAt 15)
  have schedule := (run_listSchedule nap tasks (fun _ ms => ms) 2 .fresh 0 () (takes _)).1 running
  have cutShort := (run_listSchedule nap tasks (fun _ ms => ms) 2 _ 0 () (takes _)).2.2 15 rfl quiet
  rw [latencies, lanes] at schedule cutShort
  refine ⟨takes, running, schedule, ?_, starts, quiet, starts ▸ cutShort⟩
  have now_eq := schedule.now_eq
  simpa [starts, tasks] using now_eq

end Naps

end ReviewPanel
