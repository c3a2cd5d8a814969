import ReviewPanel.Proofs.Concurrent.Pool

/-! # Lanes serve a pool

Every turn of a lane is a sequence of calls that the pool allows. What carries the argument from turn to
turn is that the lanes that wait do so in the order of their times, that a lane with nothing in its hand
waits for no later time, and that no lane stops before the pool is closed. -/
namespace ReviewPanel

variable {σ τ ρ ε : Type}

namespace Lanes

open Pool

/-- The tasks in the hands of lanes that wait, with the times of their ends. -/
def hands (zs : List (Sleeper τ)) : Multiset (Underway τ × Nat) :=
  ↑(zs.filterMap fun z => z.hand.map fun u => (u, z.wakeAt))

/-- The pool that the lanes serve. -/
def pool (s : Lanes σ τ ρ ε) : Pool σ τ ρ ε :=
  ⟨s.world, s.token, s.now, s.todo, hands s.asleep, s.ended⟩

theorem insert_perm (z : Sleeper τ) (zs : List (Sleeper τ)) : (insert z zs).Perm (z :: zs) := by
  induction zs with
  | nil => exact .refl _
  | cons y rest ih =>
    rw [insert]
    split
    · exact (ih.cons y).trans (.swap z y rest)
    · exact .refl _

theorem mem_insert {z y : Sleeper τ} {zs : List (Sleeper τ)} : y ∈ insert z zs ↔ y = z ∨ y ∈ zs := by
  rw [(insert_perm z zs).mem_iff, List.mem_cons]

theorem hands_cons_some (lane : Nat) (u : Underway τ) (time : Nat) (zs : List (Sleeper τ)) :
    hands (⟨lane, some u, time⟩ :: zs) = (u, time) ::ₘ hands zs := rfl

theorem hands_cons_none (lane time : Nat) (zs : List (Sleeper τ)) :
    hands (⟨lane, none, time⟩ :: zs) = hands zs := rfl

theorem hands_insert (z : Sleeper τ) (zs : List (Sleeper τ)) : hands (insert z zs) = hands (z :: zs) :=
  Multiset.coe_eq_coe.mpr ((insert_perm z zs).filterMap _)

theorem mem_hands {h : Underway τ × Nat} {zs : List (Sleeper τ)} :
    h ∈ hands zs ↔ ∃ z ∈ zs, z.hand = some h.1 ∧ z.wakeAt = h.2 := by
  simp only [hands, Multiset.mem_coe, List.mem_filterMap, Option.map_eq_some_iff]
  constructor
  · rintro ⟨z, hz, u, hu, rfl⟩
    exact ⟨z, hz, hu, rfl⟩
  · rintro ⟨z, hz, hu, ht⟩
    exact ⟨z, hz, h.1, hu, by rw [ht]⟩

theorem card_hands_le (zs : List (Sleeper τ)) : (hands zs).card ≤ zs.length :=
  List.length_filterMap_le _ _

theorem card_hands {zs : List (Sleeper τ)} (h : ∀ z ∈ zs, z.hand ≠ none) : (hands zs).card = zs.length := by
  induction zs with
  | nil => rfl
  | cons z rest ih =>
    obtain ⟨lane, hand, time⟩ := z
    have hrest := ih fun y hy => h y (List.mem_cons_of_mem _ hy)
    cases hand with
    | none => exact absurd rfl (h _ List.mem_cons_self)
    | some u => rw [hands_cons_some, Multiset.card_cons, hrest, List.length_cons]

/-- The lanes that wait are in the order in which they go on, and only tasks are waited for. -/
structure Timely (now : Nat) (zs : List (Sleeper τ)) : Prop where
  sorted : zs.Pairwise fun y z => y.wakeAt ≤ z.wakeAt
  ahead : ∀ z ∈ zs, now ≤ z.wakeAt
  idle : ∀ z ∈ zs, z.hand = none → z.wakeAt = now

theorem sorted_insert {z : Sleeper τ} {zs : List (Sleeper τ)}
    (h : zs.Pairwise fun y z => y.wakeAt ≤ z.wakeAt) :
    (insert z zs).Pairwise fun y z => y.wakeAt ≤ z.wakeAt := by
  induction zs with
  | nil => exact List.pairwise_singleton _ _
  | cons y rest ih =>
    obtain ⟨hy, hrest⟩ := List.pairwise_cons.mp h
    rw [insert]
    split
    next hle =>
      refine List.pairwise_cons.mpr ⟨fun x hx => ?_, ih hrest⟩
      rcases mem_insert.mp hx with rfl | hx
      · exact hle
      · exact hy x hx
    next hlt =>
      refine List.pairwise_cons.mpr ⟨fun x hx => ?_, h⟩
      rcases List.mem_cons.mp hx with rfl | hx
      · exact Nat.le_of_not_le hlt
      · exact (Nat.le_of_not_le hlt).trans (hy x hx)

theorem Timely.insert {now : Nat} {z : Sleeper τ} {zs : List (Sleeper τ)} (h : Timely now zs)
    (ahead : now ≤ z.wakeAt) (idle : z.hand = none → z.wakeAt = now) : Timely now (insert z zs) where
  sorted := sorted_insert h.sorted
  ahead y hy := by
    rcases mem_insert.mp hy with rfl | hy
    · exact ahead
    · exact h.ahead y hy
  idle y hy := by
    rcases mem_insert.mp hy with rfl | hy
    · exact idle
    · exact h.idle y hy

theorem Timely.wake {now : Nat} {z : Sleeper τ} {zs : List (Sleeper τ)} (h : Timely now (z :: zs)) :
    Timely z.wakeAt zs where
  sorted := (List.pairwise_cons.mp h.sorted).2
  ahead := (List.pairwise_cons.mp h.sorted).1
  idle y hy hnone := by
    have hsorted := (List.pairwise_cons.mp h.sorted).1 y hy
    have hnow := h.idle y (List.mem_cons_of_mem _ hy) hnone
    have hahead := h.ahead z List.mem_cons_self
    omega

/-- When the clock moves, all lanes that wait hold a task. -/
theorem Timely.hand_ne_none {now : Nat} {z : Sleeper τ} {zs : List (Sleeper τ)}
    (h : Timely now (z :: zs)) (later : now < z.wakeAt) : ∀ y ∈ z :: zs, y.hand ≠ none := by
  intro y hy hnone
  have hnow := h.idle y hy hnone
  rcases List.mem_cons.mp hy with rfl | hy
  · omega
  · have hsorted := (List.pairwise_cons.mp h.sorted).1 y hy
    omega

/-- The lanes have served the pool so far; `spare` of them are awake, or have not begun. -/
structure Serves (w : Worker σ τ ρ ε) (capacity spare : Nat) (s₀ : Pool σ τ ρ ε) (s : Lanes σ τ ρ ε) :
    Prop where
  path : ∃ calls, Path w capacity s₀ calls s.pool ∧ s.history = calls.map Call.mark
  timely : Timely s.now s.asleep
  room : s.asleep.length + spare ≤ capacity
  staffed : s.asleep.length + spare = capacity ∨ s.pool.Closed

theorem isCancelled_mono {t : Token} {now later : Nat} (h : t.isCancelled now = true) (hle : now ≤ later) :
    t.isCancelled later = true := by
  obtain ⟨cancelled, alarm⟩ := t
  simp only [Token.isCancelled, Bool.or_eq_true, Option.any_eq_true, decide_eq_true_eq] at h ⊢
  rcases h with h | ⟨a, ha, hnow⟩
  · exact .inl h
  · exact .inr ⟨a, ha, hnow.trans hle⟩

theorem isCancelled_cancelIf {t : Token} {now : Nat} (h : t.isCancelled now = true) (c : Bool) :
    (t.cancelIf c).isCancelled now = true := by
  cases c with
  | false => exact h
  | true => rfl

variable {w : Worker σ τ ρ ε} {capacity spare : Nat} {s₀ : Pool σ τ ρ ε} {s : Lanes σ τ ρ ε}

theorem Serves.stop (h : Serves w capacity (spare + 1) s₀ s) (closed : s.pool.Closed) :
    Serves w capacity spare s₀ s where
  path := h.path
  timely := h.timely
  room := by
    have hroom := h.room
    omega
  staffed := .inr closed

theorem Serves.giveWay (h : Serves w capacity (spare + 1) s₀ s) (lane : Nat) :
    Serves w capacity spare s₀ { s with asleep := insert ⟨lane, none, s.now⟩ s.asleep } := by
  have hpool : pool { s with asleep := insert ⟨lane, none, s.now⟩ s.asleep } = s.pool := by
    simp only [pool, hands_insert, hands_cons_none]
  have hroom := h.room
  have hstaffed := h.staffed
  constructor
  · rw [hpool]
    exact h.path
  · exact h.timely.insert (Nat.le_refl _) fun _ => rfl
  · rw [length_insert]
    omega
  · rw [hpool, length_insert]
    rcases hstaffed with hall | hclosed
    · exact .inl (by omega)
    · exact .inr hclosed

theorem Serves.length_eq (h : Serves w capacity (spare + 1) s₀ s) {task : Nat × τ}
    {rest : List (Nat × τ)} (next : s.todo = task :: rest) (running : s.token.isCancelled s.now = false) :
    s.asleep.length + (spare + 1) = capacity := by
  rcases h.staffed with hall | hempty | hcancelled
  · exact hall
  · exact absurd (next.symm.trans hempty) (List.cons_ne_nil _ _)
  · exact absurd (running.symm.trans hcancelled) Bool.false_ne_true

/-- A lane that is awake has a free place in the pool. -/
theorem Serves.card_atWork_lt (h : Serves w capacity (spare + 1) s₀ s) :
    s.pool.atWork.card < capacity := by
  have hcard : s.pool.atWork.card ≤ s.asleep.length := card_hands_le s.asleep
  have hroom := h.room
  omega

def handOver (w : Worker σ τ ρ ε) (index : Nat) (task : τ) (rest : List (Nat × τ)) (s : Lanes σ τ ρ ε) :
    Lanes σ τ ρ ε :=
  let b := w.start index task s.now s.world
  { s with
    world := b.world
    token := s.token.cancelIf b.cancels
    todo := rest
    history := s.history ++ [.started index s.now] }

/-- A lane that is awake may take up a task and wait for its end. -/
theorem Serves.takeUp (h : Serves w capacity (spare + 1) s₀ s) (lane : Nat) {index : Nat} {task : τ}
    {rest : List (Nat × τ)} (next : s.todo = (index, task) :: rest)
    (running : s.token.isCancelled s.now = false) {time : Nat}
    (due : time = s.now + (w.start index task s.now s.world).latency) :
    Serves w capacity spare s₀ { s.handOver w index task rest with
      asleep := insert ⟨lane, some ⟨index, task, s.now⟩, time⟩ s.asleep } := by
  obtain ⟨calls, hpath, hhistory⟩ := h.path
  have hlength := h.length_eq next running
  have hpool : pool { s.handOver w index task rest with
      asleep := insert ⟨lane, some ⟨index, task, s.now⟩, time⟩ s.asleep } =
        s.pool.start w index task rest := by
    subst due
    simp only [pool, handOver, hands_insert, hands_cons_some]
    rfl
  constructor
  · refine ⟨_, hpool ▸ hpath.snoc (.start next h.card_atWork_lt running), ?_⟩
    rw [List.map_append, ← hhistory]
    rfl
  · exact h.timely.insert (by simp only [due]; omega) fun hnone => absurd hnone (Option.some_ne_none _)
  · rw [length_insert]
    omega
  · exact .inl (by rw [length_insert]; omega)

theorem Serves.doAtOnce (h : Serves w capacity (spare + 1) s₀ s) (lane : Nat) {index : Nat} {task : τ}
    {rest : List (Nat × τ)} (next : s.todo = (index, task) :: rest)
    (running : s.token.isCancelled s.now = false)
    (atOnce : (w.start index task s.now s.world).latency = 0) :
    Serves w capacity (spare + 1) s₀
      (finish w lane ⟨index, task, s.now⟩ (s.handOver w index task rest)) := by
  obtain ⟨calls, hpath, hhistory⟩ := h.path
  have hbegun := hpath.snoc (.start next h.card_atWork_lt running)
  have hhand : (s.pool.start w index task rest).atWork =
      (⟨index, task, s.now⟩, s.now + (w.start index task s.now s.world).latency) ::ₘ hands s.asleep := rfl
  rw [atOnce, Nat.add_zero] at hhand
  have hfirst : ∀ v ∈ hands s.asleep, s.now ≤ v.2 := by
    intro v hv
    obtain ⟨z, hz, _, ht⟩ := mem_hands.mp hv
    exact ht ▸ h.timely.ahead z hz
  have hended := hbegun.snoc (.finish lane hhand hfirst (Nat.le_refl _) fun hlt =>
    absurd hlt (Nat.lt_irrefl _))
  constructor
  · refine ⟨_, hended, ?_⟩
    rw [List.map_append, List.map_append, ← hhistory]
    rfl
  · exact h.timely
  · exact h.room
  · exact .inl (h.length_eq next running)

/-- A lane that is awake serves the pool until it waits or stops. -/
theorem Serves.claim (lane left : Nat) (todo : List (Nat × τ)) {s : Lanes σ τ ρ ε}
    (h : Serves w capacity (spare + 1) s₀ { s with todo }) :
    Serves w capacity spare s₀ (claim w lane left todo s) := by
  induction todo generalizing left s with
  | nil =>
    have hclaim : Lanes.claim w lane left [] s = { s with todo := [] } := by cases left <;> rfl
    rw [hclaim]
    exact h.stop (.inl rfl)
  | cons t rest ih =>
    obtain ⟨index, task⟩ := t
    cases left with
    | zero => exact h.giveWay lane
    | succ left =>
      rw [Lanes.claim]
      split
      next hcancelled => exact h.stop (.inr hcancelled)
      next hrunning =>
        have hrunning : s.token.isCancelled s.now = false := by simpa using hrunning
        dsimp only
        split
        next atOnce => exact ih left (h.doAtOnce lane rfl hrunning atOnce)
        next => exact h.takeUp lane rfl hrunning rfl

theorem Serves.wakeWithTask (h : Serves w capacity 0 s₀ s) {lane time : Nat} {u : Underway τ}
    {rest : List (Sleeper τ)} (first : s.asleep = ⟨lane, some u, time⟩ :: rest) :
    Serves w capacity 1 s₀ (finish w lane u { s with now := time, asleep := rest }) := by
  obtain ⟨calls, hpath, hhistory⟩ := h.path
  have htimely : Timely s.now (⟨lane, some u, time⟩ :: rest) := first ▸ h.timely
  have hlater : s.now ≤ time := htimely.ahead _ List.mem_cons_self
  have hhand : s.pool.atWork = (u, time) ::ₘ hands rest := by
    rw [← hands_cons_some lane, ← first]
    rfl
  have hfirst : ∀ v ∈ hands rest, time ≤ v.2 := by
    intro v hv
    obtain ⟨z, hz, _, ht⟩ := mem_hands.mp hv
    exact ht ▸ (List.pairwise_cons.mp htimely.sorted).1 z hz
  have hbusy : s.now < time → s.pool.atWork.card = capacity ∨ s.pool.Closed := by
    intro hlt
    have hcard : s.pool.atWork.card = s.asleep.length :=
      card_hands (first ▸ htimely.hand_ne_none hlt)
    rw [hcard]
    exact h.staffed
  have hended := hpath.snoc (.finish lane hhand hfirst hlater hbusy)
  have hroom := h.room
  have hlength : s.asleep.length = rest.length + 1 := by rw [first, List.length_cons]
  constructor
  · refine ⟨_, hended, ?_⟩
    rw [List.map_append, ← hhistory]
    rfl
  · exact htimely.wake
  · change rest.length + 1 ≤ capacity
    omega
  · rcases h.staffed with hall | hempty | hcancelled
    · left
      change rest.length + 1 = capacity
      omega
    · exact .inr (.inl hempty)
    · exact .inr (.inr (isCancelled_cancelIf (isCancelled_mono hcancelled hlater) _))

/-- A lane that gave way is awake again before any time has passed. -/
theorem Serves.wakeIdle (h : Serves w capacity 0 s₀ s) {lane time : Nat} {rest : List (Sleeper τ)}
    (first : s.asleep = ⟨lane, none, time⟩ :: rest) :
    Serves w capacity 1 s₀ { s with now := time, asleep := rest } := by
  have htimely : Timely s.now (⟨lane, none, time⟩ :: rest) := first ▸ h.timely
  have hnow : time = s.now := htimely.idle _ List.mem_cons_self rfl
  subst hnow
  have hpool : pool { s with asleep := rest } = s.pool := by
    simp only [pool, first, hands_cons_none]
  have hroom := h.room
  have hstaffed := h.staffed
  rw [first, List.length_cons] at hroom hstaffed
  constructor
  · rw [hpool]
    exact h.path
  · exact htimely.wake
  · exact hroom
  · rw [hpool]
    exact hstaffed

theorem Serves.resume (h : Serves w capacity 0 s₀ s) {z : Sleeper τ} {rest : List (Sleeper τ)}
    (first : s.asleep = z :: rest) :
    Serves w capacity 0 s₀ (resume w z { s with now := z.wakeAt, asleep := rest }) := by
  obtain ⟨lane, hand, time⟩ := z
  cases hand with
  | none => exact Serves.claim lane turn s.todo (h.wakeIdle first)
  | some u => exact Serves.claim lane (turn - 1) s.todo (h.wakeWithTask first)

/-- The lanes serve the pool until none of them waits any more. -/
theorem Serves.drain (h : Serves w capacity 0 s₀ s) :
    Serves w capacity 0 s₀ (drain w s) ∧ (drain w s).asleep = [] := by
  induction s using Lanes.drain.induct w with
  | case1 s hnil =>
    rw [Lanes.drain]
    split
    next => exact ⟨h, hnil⟩
    next z rest hcons => exact absurd (hnil.symm.trans hcons) (List.cons_ne_nil z rest).symm
  | case2 s z rest hcons ih =>
    rw [Lanes.drain]
    split
    next hnil => exact absurd (hnil.symm.trans hcons) (List.cons_ne_nil z rest).symm
    next z' rest' hcons' =>
      obtain ⟨rfl, rfl⟩ := List.cons.inj (hcons.symm.trans hcons')
      exact ih (h.resume hcons)

theorem Serves.startAll (lanes : List Nat) (h : Serves w capacity lanes.length s₀ s) :
    Serves w capacity 0 s₀ (startAll w lanes s) := by
  induction lanes generalizing s with
  | nil => exact h
  | cons lane rest ih => exact ih (Serves.claim lane turn s.todo h)

end Lanes

/-- A pool that is over, seen as a run of a number of tasks. -/
def Pool.toRun (s : Pool σ τ ρ ε) (tasks : Nat) (calls : List (Call τ)) : Run σ ρ ε where
  world := s.world
  token := s.token.ring s.now
  now := s.now
  outcomes := (List.range tasks).map fun i => (s.ended.lookup i).getD .notStarted
  history := calls.map Call.mark

theorem Pool.length_outcomes_toRun (s : Pool σ τ ρ ε) (tasks : Nat) (calls : List (Call τ)) :
    (s.toRun tasks calls).outcomes.length = tasks := by
  rw [toRun, List.length_map, List.length_range]

theorem Pool.getElem?_outcomes_toRun (s : Pool σ τ ρ ε) {i tasks : Nat} (calls : List (Call τ)) (hi : i < tasks) :
    (s.toRun tasks calls).outcomes[i]? = some ((s.ended.lookup i).getD .notStarted) := by
  rw [toRun, List.getElem?_map, List.getElem?_range hi, Option.map_some]

/-- Every run is a sequence of calls that a pool allows, up to the point where no task is at work and none
will be handed over. -/
theorem Worker.exists_path (w : Worker σ τ ρ ε) (tasks : List τ) (concurrency : Nat) (token : Token)
    (now : Nat) (world : σ) :
    ∃ calls last,
      Pool.Path w (effectiveConcurrency concurrency tasks.length) (Pool.begun tasks token now world) calls
        last ∧
      last.atWork = 0 ∧ last.Closed ∧ w.run tasks concurrency token now world = last.toRun tasks.length calls := by
  let begun : Lanes σ τ ρ ε := ⟨world, token, now, Lanes.line 0 tasks, [], [], []⟩
  let lanes := List.range (effectiveConcurrency concurrency tasks.length)
  have hlanes : lanes.length = effectiveConcurrency concurrency tasks.length := List.length_range
  have hpositive : 0 < effectiveConcurrency concurrency tasks.length := Nat.le_max_left _ _
  have hbegun : Lanes.Serves w lanes.length lanes.length (Pool.begun tasks token now world) begun := by
    refine ⟨⟨[], .refl, rfl⟩, ⟨.nil, by simp [begun], by simp [begun]⟩, ?_, .inl ?_⟩ <;> simp [begun]
  obtain ⟨hserves, hasleep⟩ := (hbegun.startAll lanes).drain
  obtain ⟨calls, hpath, hhistory⟩ := hserves.path
  refine ⟨calls, _, hlanes ▸ hpath, ?_, ?_, ?_⟩
  · rw [Lanes.pool, hasleep]
    rfl
  · rcases hserves.staffed with hall | hclosed
    · rw [hasleep, List.length_nil] at hall
      omega
    · exact hclosed
  · rw [Pool.toRun, ← hhistory]
    rfl

end ReviewPanel
