import ReviewPanel.Proofs.Concurrent.LaneSimulation

/-! # What the calls of a run amount to

The calls so far determine a pool. Tasks leave the line in order, each of them is at work from its start to
its end, and its state is written down at its end and never again. -/
namespace ReviewPanel

variable {σ τ ρ ε : Type}

namespace Lanes

@[simp] theorem length_line (first : Nat) (tasks : List τ) : (line first tasks).length = tasks.length := by
  induction tasks generalizing first with
  | nil => rfl
  | cons t rest ih => rw [line, List.length_cons, ih, List.length_cons]

theorem map_snd_line (first : Nat) (tasks : List τ) : (line first tasks).map Prod.snd = tasks := by
  induction tasks generalizing first with
  | nil => rfl
  | cons t rest ih => rw [line, List.map_cons, ih]

theorem line_append (first : Nat) (xs ys : List τ) :
    line first (xs ++ ys) = line first xs ++ line (first + xs.length) ys := by
  induction xs generalizing first with
  | nil => rfl
  | cons x xs ih =>
    have hnext : first + (xs.length + 1) = first + 1 + xs.length := by omega
    rw [List.cons_append, line, ih, line, List.length_cons, hnext, List.cons_append]

theorem line_drop_eq_cons {tasks : List τ} {k index : Nat} {task : τ} {rest : List (Nat × τ)}
    (h : line k (tasks.drop k) = (index, task) :: rest) :
    index = k ∧ tasks[k]? = some task ∧ rest = line (k + 1) (tasks.drop (k + 1)) := by
  by_cases hk : k < tasks.length
  · rw [List.drop_eq_getElem_cons hk, line] at h
    obtain ⟨hfirst, hrest⟩ := List.cons.inj h
    obtain ⟨hindex, htask⟩ := Prod.mk.inj hfirst
    exact ⟨hindex.symm, List.getElem?_eq_some_iff.mpr ⟨hk, htask⟩, hrest.symm⟩
  · rw [List.drop_eq_nil_of_le (Nat.le_of_not_lt hk)] at h
    exact absurd h (List.cons_ne_nil _ _).symm

theorem line_take_succ {tasks : List τ} {k : Nat} {task : τ} (h : tasks[k]? = some task) :
    line 0 (tasks.take (k + 1)) = line 0 (tasks.take k) ++ [(k, task)] := by
  obtain ⟨hk, _⟩ := List.getElem?_eq_some_iff.mp h
  have hlength : (tasks.take k).length = k := List.length_take_of_le (Nat.le_of_lt hk)
  rw [List.take_add_one, h, line_append, hlength, Nat.zero_add]
  rfl

end Lanes

namespace Pool

variable {w : Worker σ τ ρ ε} {capacity : Nat} {s₀ s : Pool σ τ ρ ε} {calls : List (Call τ)}

theorem Path.stage_eq (h : Path w capacity s₀ calls s) : s.stage = w.performAll s₀.stage calls := by
  induction h with
  | refl => rfl
  | snoc path step ih =>
    rw [Worker.performAll_concat, ← ih]
    cases step <;> rfl

theorem Path.now_le (h : Path w capacity s₀ calls s) : s₀.now ≤ s.now := by
  induction h with
  | refl => exact Nat.le_refl _
  | snoc path step ih =>
    cases step with
    | start => exact ih
    | finish lane hand first later busy => exact ih.trans later

theorem Path.ended_eq (h : Path w capacity s₀ calls s) : ∃ more, s.ended = s₀.ended ++ more := by
  induction h with
  | refl => exact ⟨[], (List.append_nil _).symm⟩
  | snoc path step ih =>
    obtain ⟨more, hmore⟩ := ih
    cases step with
    | start => exact ⟨more, hmore⟩
    | @finish lane u time others hand first later busy =>
      rw [ended_finish, hmore, List.append_assoc]
      exact ⟨_, rfl⟩

theorem Path.card_atWork_le (h : Path w capacity s₀ calls s) (h₀ : s₀.atWork.card ≤ capacity) :
    s.atWork.card ≤ capacity := by
  induction h with
  | refl => exact h₀
  | snoc path step ih =>
    cases step with
    | start next room running =>
      rw [atWork_start, Multiset.card_cons]
      exact room
    | finish lane hand first later busy =>
      rw [hand, Multiset.card_cons] at ih
      exact Nat.le_of_succ_le ih

/-- The tasks at work are those that were handed over and have not come to their end. -/
theorem Path.countP_isStart (h : Path w capacity s₀ calls s) :
    s₀.atWork.card + calls.countP Call.isStart = calls.countP Call.isFinish + s.atWork.card := by
  induction h with
  | refl => rw [List.countP_nil, List.countP_nil, Nat.add_comm]
  | snoc path step ih =>
    rw [List.countP_append, List.countP_append]
    cases step with
    | start next room running =>
      rw [atWork_start, Multiset.card_cons]
      change _ + (_ + 1) = _ + 0 + _
      omega
    | finish lane hand first later busy =>
      rw [hand, Multiset.card_cons] at ih
      rw [atWork_finish]
      change _ + (_ + 0) = _ + 1 + _
      omega

/-- A task at work was handed over, and ends when its time is up. -/
theorem Path.due_eq (h : Path w capacity s₀ calls s) (h₀ : s₀.atWork = 0) {u : Underway τ} {time : Nat}
    (hu : (u, time) ∈ s.atWork) :
    ∃ before after, calls = before ++ .start u.index u.task u.startedAt :: after ∧
      time = u.startedAt + w.latency u (w.performAll s₀.stage before).1 := by
  induction h with
  | refl => exact absurd (h₀ ▸ hu) (Multiset.notMem_zero _)
  | @snoc calls s s' c path step ih =>
    cases step with
    | @start index task rest next room running =>
      rw [atWork_start] at hu
      rcases Multiset.mem_cons.mp hu with heq | hu
      · obtain ⟨rfl, rfl⟩ := Prod.mk.inj heq
        exact ⟨calls, [], rfl, by rw [← path.stage_eq]; rfl⟩
      · obtain ⟨before, after, hcalls, htime⟩ := ih hu
        exact ⟨before, after ++ [.start index task s.now], by rw [hcalls]; simp, htime⟩
    | @finish lane v due others hand first later busy =>
      obtain ⟨before, after, hcalls, htime⟩ := ih (hand ▸ Multiset.mem_cons_of_mem hu)
      exact ⟨before, after ++ [.finish lane v due], by rw [hcalls]; simp, htime⟩

/-- How the tasks stand when the first `k` of them have been handed over. -/
structure Books (tasks : List τ) (k : Nat) (calls : List (Call τ)) (s : Pool σ τ ρ ε) : Prop where
  le : k ≤ tasks.length
  line : s.todo = Lanes.line k (tasks.drop k)
  started : calls.filterMap Call.started? = Lanes.line 0 (tasks.take k)
  /-- Nothing is known of a task in the line. -/
  waiting : ∀ i, k ≤ i → Call.about i calls = [] ∧ s.ended.lookup i = none
  distinct : (s.atWork.map (·.1.index)).Nodup
  /-- Of a task at work, only the start is known. -/
  working : ∀ h ∈ s.atWork, h.1.index < k ∧ tasks[h.1.index]? = some h.1.task ∧
    Call.about h.1.index calls = [.start h.1.index h.1.task h.1.startedAt] ∧ s.ended.lookup h.1.index = none
  /-- Any other task has come to its end. -/
  done : ∀ i < k, i ∉ s.atWork.map (·.1.index) → ∃ lane u time, u.index = i ∧ tasks[i]? = some u.task ∧
    Call.about i calls = [.start i u.task u.startedAt, .finish lane u time]

theorem books_begun (tasks : List τ) (token : Token) (now : Nat) (world : σ) :
    Books tasks 0 [] (begun tasks token now world : Pool σ τ ρ ε) where
  le := Nat.zero_le _
  line := rfl
  started := rfl
  waiting _ _ := ⟨rfl, rfl⟩
  distinct := Multiset.nodup_zero
  working h hh := absurd hh (Multiset.notMem_zero h)
  done i hi := absurd hi (Nat.not_lt_zero i)

theorem Books.start {tasks : List τ} {k : Nat} (b : Books tasks k calls s) {index : Nat} {task : τ}
    {rest : List (Nat × τ)} (next : s.todo = (index, task) :: rest) :
    Books tasks (k + 1) (calls ++ [.start index task s.now]) (s.start w index task rest) := by
  obtain ⟨rfl, htask, hrest⟩ := Lanes.line_drop_eq_cons (b.line.symm.trans next)
  have hk := (List.getElem?_eq_some_iff.mp htask).1
  have habout : ∀ i, i ≠ index →
      Call.about i (calls ++ [.start index task s.now]) = Call.about i calls := by
    intro i hi
    exact Call.about_concat_of_ne (Ne.symm hi) calls
  constructor
  · exact hk
  · exact hrest
  · rw [List.filterMap_append, b.started, Lanes.line_take_succ htask]
    rfl
  · intro i hi
    rw [habout i (by omega)]
    exact b.waiting i (by omega)
  · rw [atWork_start, Multiset.map_cons, Multiset.nodup_cons]
    refine ⟨fun hmem => ?_, b.distinct⟩
    obtain ⟨h, hh, hindex⟩ := Multiset.mem_map.mp hmem
    have hlt := (b.working h hh).1
    simp only at hindex
    omega
  · intro h hh
    rcases Multiset.mem_cons.mp hh with rfl | hh
    · refine ⟨Nat.lt_succ_self _, htask, ?_, (b.waiting index (Nat.le_refl _)).2⟩
      have hself := Call.about_concat_self calls (.start index task s.now)
      rw [Call.index, (b.waiting index (Nat.le_refl _)).1] at hself
      exact hself
    · obtain ⟨hlt, ht, hcalls, hended⟩ := b.working h hh
      exact ⟨by omega, ht, by rw [habout _ (by omega), hcalls], hended⟩
  · intro i hi hmem
    rw [atWork_start, Multiset.map_cons, Multiset.mem_cons, not_or] at hmem
    obtain ⟨hne, hmem⟩ := hmem
    have hne : i ≠ index := hne
    rw [habout i hne]
    exact b.done i (by omega) hmem

theorem Books.finish {tasks : List τ} {k : Nat} (b : Books tasks k calls s) {lane time : Nat}
    {u : Underway τ} {others : Multiset (Underway τ × Nat)} (hand : s.atWork = (u, time) ::ₘ others) :
    Books tasks k (calls ++ [.finish lane u time]) (s.finish w lane u time others) := by
  obtain ⟨hlt, htask, hcalls, -⟩ := b.working (u, time) (hand ▸ Multiset.mem_cons_self _ _)
  simp only at hlt htask hcalls
  have hdistinct := b.distinct
  rw [hand, Multiset.map_cons, Multiset.nodup_cons] at hdistinct
  have habout : ∀ i, i ≠ u.index → Call.about i (calls ++ [.finish lane u time]) = Call.about i calls := by
    intro i hi
    exact Call.about_concat_of_ne (Ne.symm hi) calls
  have hended : ∀ i, i ≠ u.index → (s.finish w lane u time others).ended.lookup i = s.ended.lookup i := by
    intro i hi
    rw [ended_finish, List.lookup_append, List.lookup_cons, beq_eq_false_iff_ne.mpr hi]
    exact Option.or_none
  constructor
  · exact b.le
  · exact b.line
  · rw [List.filterMap_append, b.started]
    exact List.append_nil _
  · intro i hi
    rw [habout i (by omega), hended i (by omega)]
    exact b.waiting i hi
  · exact hdistinct.2
  · intro h hh
    have hne : h.1.index ≠ u.index := by
      intro heq
      exact hdistinct.1 (heq ▸ Multiset.mem_map_of_mem (·.1.index) hh)
    rw [habout _ hne, hended _ hne]
    exact b.working h (hand ▸ Multiset.mem_cons_of_mem hh)
  · intro i hi hmem
    by_cases hne : i = u.index
    · subst hne
      refine ⟨lane, u, time, rfl, htask, ?_⟩
      have hself := Call.about_concat_self calls (.finish lane u time)
      rw [Call.index, hcalls] at hself
      exact hself
    · rw [habout i hne]
      refine b.done i hi ?_
      rw [hand, Multiset.map_cons, Multiset.mem_cons, not_or]
      exact ⟨hne, hmem⟩

theorem Books.countP_isStart {tasks : List τ} {k : Nat} (b : Books tasks k calls s) :
    calls.countP Call.isStart = k := by
  have hle := b.le
  rw [← Call.length_filterMap_started, b.started, Lanes.length_line, List.length_take]
  omega

theorem Path.books {tasks : List τ} {token : Token} {now : Nat} {world : σ}
    (h : Path w capacity (begun tasks token now world) calls s) : ∃ k, Books tasks k calls s := by
  induction h with
  | refl => exact ⟨0, books_begun tasks token now world⟩
  | snoc path step ih =>
    obtain ⟨k, b⟩ := ih
    cases step with
    | start next room running => exact ⟨k + 1, b.start next⟩
    | finish lane hand first later busy => exact ⟨k, b.finish hand⟩

theorem Step.time_eq {c : Call τ} {s' : Pool σ τ ρ ε} (h : Step w capacity s c s') :
    c.time = s'.now ∧ s.now ≤ s'.now := by
  cases h with
  | start next room running => exact ⟨rfl, Nat.le_refl _⟩
  | finish lane hand first later busy => exact ⟨rfl, later⟩

theorem Path.times (h : Path w capacity s₀ calls s) :
    calls.Pairwise (fun c d => c.time ≤ d.time) ∧ ∀ c ∈ calls, s₀.now ≤ c.time ∧ c.time ≤ s.now := by
  induction h with
  | refl => exact ⟨.nil, fun c hc => absurd hc List.not_mem_nil⟩
  | @snoc calls s s' c path step ih =>
    obtain ⟨hsorted, hbounds⟩ := ih
    obtain ⟨htime, hnow⟩ := step.time_eq
    constructor
    · refine List.pairwise_append.mpr ⟨hsorted, List.pairwise_singleton _ _, fun d hd e he => ?_⟩
      rw [List.mem_singleton.mp he, htime]
      exact (hbounds d hd).2.trans hnow
    · intro d hd
      rcases List.mem_append.mp hd with hd | hd
      · exact ⟨(hbounds d hd).1, (hbounds d hd).2.trans hnow⟩
      · rw [List.mem_singleton.mp hd, htime]
        exact ⟨path.now_le.trans hnow, Nat.le_refl _⟩

theorem Path.running_of_start {before after : List (Call τ)} {index time : Nat} {task : τ}
    (h : Path w capacity s₀ (before ++ .start index task time :: after) s) :
    (w.performAll s₀.stage before).2.isCancelled time = false := by
  obtain ⟨m, m', hbefore, hstep, -⟩ := h.step_of_mem
  rw [← hbefore.stage_eq]
  cases hstep with
  | start next room running => exact running

theorem Path.start_of_finish {before after : List (Call τ)} {lane time : Nat} {u : Underway τ}
    (h : Path w capacity s₀ (before ++ .finish lane u time :: after) s) (h₀ : s₀.atWork = 0) :
    ∃ earlier later, before = earlier ++ .start u.index u.task u.startedAt :: later ∧
      time = u.startedAt + w.latency u (w.performAll s₀.stage earlier).1 := by
  obtain ⟨m, m', hbefore, hstep, -⟩ := h.step_of_mem
  cases hstep with
  | finish _ hand first later busy => exact hbefore.due_eq h₀ (hand ▸ Multiset.mem_cons_self _ _)

section Begun

variable {tasks : List τ} {token : Token} {now : Nat} {world : σ}

theorem Path.task_of_finish {before after : List (Call τ)} {lane time : Nat} {u : Underway τ}
    (h : Path w capacity (begun tasks token now world) (before ++ .finish lane u time :: after) s) :
    tasks[u.index]? = some u.task := by
  obtain ⟨m, m', hbefore, hstep, -⟩ := h.step_of_mem
  obtain ⟨k, b⟩ := hbefore.books
  cases hstep with
  | finish _ hand first later busy => exact (b.working (u, time) (hand ▸ Multiset.mem_cons_self _ _)).2.1

/-- What is written down about a task is the state in which its end has left it. -/
theorem Path.lookup_ended {before after : List (Call τ)} {lane time : Nat} {u : Underway τ}
    (h : Path w capacity (begun tasks token now world) (before ++ .finish lane u time :: after) s) :
    s.ended.lookup u.index = some (w.settled u time (w.performAll (world, token) before).1) := by
  obtain ⟨m, m', hbefore, hstep, hafter⟩ := h.step_of_mem
  obtain ⟨k, b⟩ := hbefore.books
  obtain ⟨more, hmore⟩ := hafter.ended_eq
  have hworld : m.world = (w.performAll (world, token) before).1 := congrArg Prod.fst hbefore.stage_eq
  cases hstep with
  | finish _ hand first later busy =>
    have hnone := (b.working (u, time) (hand ▸ Multiset.mem_cons_self _ _)).2.2.2
    rw [hmore, ended_finish, List.append_assoc, List.lookup_append, hnone, Option.none_or,
      List.singleton_append, List.lookup_cons, beq_self_eq_true, hworld]

/-- A whole run as a pool sees it, in which the first `k` tasks were handed over. -/
structure Course (w : Worker σ τ ρ ε) (capacity : Nat) (tasks : List τ) (token : Token) (now : Nat)
    (world : σ) (k : Nat) (calls : List (Call τ)) (last : Pool σ τ ρ ε) : Prop where
  path : Path w capacity (begun tasks token now world) calls last
  books : Books tasks k calls last
  idle : last.atWork = 0
  closed : last.Closed

variable {k : Nat} {last : Pool σ τ ρ ε}

theorem Course.stage_eq (c : Course w capacity tasks token now world k calls last) :
    (last.world, last.token) = w.performAll (world, token) calls := c.path.stage_eq

/-- A run that ends without being cancelled has handed over all tasks. -/
theorem Course.eq_length (c : Course w capacity tasks token now world k calls last)
    (running : last.token.isCancelled last.now = false) : k = tasks.length := by
  rcases c.closed with hempty | hcancelled
  · have hlength : (Lanes.line k (tasks.drop k)).length = 0 := by
      rw [← c.books.line, hempty, List.length_nil]
    rw [Lanes.length_line, List.length_drop] at hlength
    have hle := c.books.le
    omega
  · exact absurd (running.symm.trans hcancelled) Bool.false_ne_true

theorem Course.about_eq (c : Course w capacity tasks token now world k calls last) {i : Nat} (hi : i < k) :
    ∃ lane u time, u.index = i ∧ tasks[i]? = some u.task ∧
      Call.about i calls = [.start i u.task u.startedAt, .finish lane u time] := by
  apply c.books.done i hi
  rw [c.idle]
  exact Multiset.notMem_zero i

theorem Course.task_eq (c : Course w capacity tasks token now world k calls last) {call : Call τ}
    (h : call ∈ calls) : call.index < k ∧ tasks[call.index]? = some call.task := by
  have hmem : call ∈ Call.about call.index calls := List.mem_filter.mpr ⟨h, decide_eq_true rfl⟩
  by_cases hk : call.index < k
  · obtain ⟨lane, u, time, -, htask, habout⟩ := c.about_eq hk
    rw [habout] at hmem
    refine ⟨hk, htask.trans ?_⟩
    rcases List.mem_pair.mp hmem with heq | heq <;> exact congrArg some (congrArg Call.task heq.symm)
  · rw [(c.books.waiting _ (Nat.le_of_not_lt hk)).1] at hmem
    exact absurd hmem List.not_mem_nil

/-- No more tasks are at work at a time than there is room for. -/
theorem Course.countP_isStart_le (c : Course w capacity tasks token now world k calls last)
    {before after : List (Call τ)} (h : calls = before ++ after) :
    before.countP Call.isStart ≤ before.countP Call.isFinish + capacity := by
  obtain ⟨m, hm, -⟩ := Path.split (h ▸ c.path)
  have hcount := hm.countP_isStart
  have hcard := hm.card_atWork_le (Nat.zero_le _)
  have hnone : (begun tasks token now world : Pool σ τ ρ ε).atWork.card = 0 := rfl
  omega

end Begun

end Pool

theorem Worker.exists_course (w : Worker σ τ ρ ε) (tasks : List τ) (concurrency : Nat) (token : Token)
    (now : Nat) (world : σ) :
    ∃ k calls last,
      Pool.Course w (effectiveConcurrency concurrency tasks.length) tasks token now world k calls last ∧
        w.run tasks concurrency token now world = last.toRun tasks.length calls := by
  obtain ⟨calls, last, hpath, hidle, hclosed, hrun⟩ := w.exists_path tasks concurrency token now world
  obtain ⟨k, b⟩ := hpath.books
  exact ⟨k, calls, last, ⟨hpath, b, hidle, hclosed⟩, hrun⟩

end ReviewPanel
