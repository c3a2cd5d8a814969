import Mathlib.Data.List.Induction
import Mathlib.Data.Multiset.Basic
import Mathlib.Data.Multiset.MapFold
import Mathlib.Data.Multiset.UnionInter
import ReviewPanel.Concurrent.Lanes

/-! # Runs without lanes

Seen from outside, a run is a sequence of calls of the worker: a task is handed over, and later it comes
to its end. A pool forgets which lane does what and keeps what decides which call may come next: the line,
the tasks at work with the times of their ends, and the token. Time passes only on the way to the end of a
task, and only while nothing else can be done. -/
namespace ReviewPanel

/-- A call of the worker. -/
inductive Call (τ : Type) where
  /-- A task is handed over. -/
  | start (index : Nat) (task : τ) (time : Nat)
  /-- The task in the hand of a lane comes to its end. -/
  | finish (lane : Nat) (hand : Underway τ) (time : Nat)

namespace Call

variable {τ : Type}

def index : Call τ → Nat
  | .start index _ _ => index
  | .finish _ hand _ => hand.index

def task : Call τ → τ
  | .start _ task _ => task
  | .finish _ hand _ => hand.task

def time : Call τ → Nat
  | .start _ _ time => time
  | .finish _ _ time => time

def started? : Call τ → Option (Nat × τ)
  | .start index task _ => some (index, task)
  | .finish _ _ _ => none

def isStart : Call τ → Bool
  | .start _ _ _ => true
  | .finish _ _ _ => false

def isFinish : Call τ → Bool
  | .start _ _ _ => false
  | .finish _ _ _ => true

def mark : Call τ → Mark
  | .start index _ time => .started index time
  | .finish _ hand time => .finished hand.index time

theorem length_filterMap_started (calls : List (Call τ)) :
    (calls.filterMap started?).length = calls.countP isStart := by
  rw [List.length_filterMap_eq_countP]
  congr 1
  funext call
  cases call <;> rfl

/-- The calls about one task, in their order. -/
def about (index : Nat) (calls : List (Call τ)) : List (Call τ) := calls.filter (·.index = index)

theorem about_concat_self (calls : List (Call τ)) (c : Call τ) :
    about c.index (calls ++ [c]) = about c.index calls ++ [c] := by
  rw [about, List.filter_append, List.filter_singleton, decide_eq_true rfl]
  rfl

theorem about_concat_of_ne {i : Nat} {c : Call τ} (h : c.index ≠ i) (calls : List (Call τ)) :
    about i (calls ++ [c]) = about i calls := by
  rw [about, List.filter_append, List.filter_singleton, decide_eq_false h]
  exact List.append_nil _

theorem flatMap_about {β : Type} (i : Nat) (calls : List (Call τ)) (f : Call τ → List β) :
    (about i calls).flatMap f = calls.flatMap fun c => if c.index = i then f c else [] := by
  induction calls with
  | nil => rfl
  | cons c rest ih =>
    rw [about] at ih ⊢
    rw [List.flatMap_cons, ← ih, List.filter_cons]
    by_cases hi : c.index = i <;> simp [hi]

end Call

variable {σ τ ρ ε : Type}

namespace Worker

/-- What a call makes of the world and of the token. -/
def perform (w : Worker σ τ ρ ε) (s : σ × Token) : Call τ → σ × Token
  | .start index task time =>
    let b := w.start index task time s.1
    (b.world, s.2.cancelIf b.cancels)
  | .finish lane u time =>
    let f := w.finish u.index u.task u.startedAt time s.1
    (match f.ending with
      | .crashed c => w.onCrash lane u.index c.text f.world
      | _ => f.world, s.2.cancelIf f.cancels)

/-- What several calls make of the world and of the token. -/
def performAll (w : Worker σ τ ρ ε) (s : σ × Token) (calls : List (Call τ)) : σ × Token :=
  calls.foldl w.perform s

theorem performAll_cons (w : Worker σ τ ρ ε) (s : σ × Token) (c : Call τ) (calls : List (Call τ)) :
    w.performAll s (c :: calls) = w.performAll (w.perform s c) calls := rfl

theorem performAll_append (w : Worker σ τ ρ ε) (s : σ × Token) (xs ys : List (Call τ)) :
    w.performAll s (xs ++ ys) = w.performAll (w.performAll s xs) ys := List.foldl_append

theorem performAll_concat (w : Worker σ τ ρ ε) (s : σ × Token) (xs : List (Call τ)) (c : Call τ) :
    w.performAll s (xs ++ [c]) = w.perform (w.performAll s xs) c := performAll_append w s xs [c]

def latency (w : Worker σ τ ρ ε) (u : Underway τ) (world : σ) : Nat :=
  (w.start u.index u.task u.startedAt world).latency

/-- The state in which a task settles that comes to its end in a world. -/
def settled (w : Worker σ τ ρ ε) (u : Underway τ) (time : Nat) (world : σ) : Settled ρ ε :=
  (w.finish u.index u.task u.startedAt time world).ending.settled

end Worker

/-- A run without its lanes. -/
structure Pool (σ τ ρ ε : Type) where
  world : σ
  token : Token
  now : Nat
  /-- The tasks in the line, with their indices. -/
  todo : List (Nat × τ)
  /-- The tasks at work, with the times of their ends. -/
  atWork : Multiset (Underway τ × Nat)
  /-- The tasks that have ended, in the order in which they did. -/
  ended : List (Nat × Settled ρ ε)

namespace Pool

def begun (tasks : List τ) (token : Token) (now : Nat) (world : σ) : Pool σ τ ρ ε :=
  ⟨world, token, now, Lanes.line 0 tasks, 0, []⟩

def stage (s : Pool σ τ ρ ε) : σ × Token := (s.world, s.token)

/-- No task will be handed over any more. -/
def Closed (s : Pool σ τ ρ ε) : Prop := s.todo = [] ∨ s.token.isCancelled s.now = true

def start (w : Worker σ τ ρ ε) (index : Nat) (task : τ) (rest : List (Nat × τ)) (s : Pool σ τ ρ ε) :
    Pool σ τ ρ ε :=
  let after := w.perform s.stage (.start index task s.now)
  let u : Underway τ := ⟨index, task, s.now⟩
  { s with
    world := after.1
    token := after.2
    todo := rest
    atWork := (u, s.now + w.latency u s.world) ::ₘ s.atWork }

def finish (w : Worker σ τ ρ ε) (lane : Nat) (u : Underway τ) (time : Nat)
    (others : Multiset (Underway τ × Nat)) (s : Pool σ τ ρ ε) : Pool σ τ ρ ε :=
  let after := w.perform s.stage (.finish lane u time)
  { s with
    world := after.1
    token := after.2
    now := time
    atWork := others
    ended := s.ended ++ [(u.index, w.settled u time s.world)] }

@[simp] theorem atWork_start (w : Worker σ τ ρ ε) (index : Nat) (task : τ) (rest : List (Nat × τ))
    (s : Pool σ τ ρ ε) : (s.start w index task rest).atWork =
      (⟨index, task, s.now⟩, s.now + w.latency ⟨index, task, s.now⟩ s.world) ::ₘ s.atWork := rfl

@[simp] theorem atWork_finish (w : Worker σ τ ρ ε) (lane : Nat) (u : Underway τ) (time : Nat)
    (others : Multiset (Underway τ × Nat)) (s : Pool σ τ ρ ε) :
    (s.finish w lane u time others).atWork = others := rfl

@[simp] theorem ended_finish (w : Worker σ τ ρ ε) (lane : Nat) (u : Underway τ) (time : Nat)
    (others : Multiset (Underway τ × Nat)) (s : Pool σ τ ρ ε) :
    (s.finish w lane u time others).ended = s.ended ++ [(u.index, w.settled u time s.world)] := rfl

/-- Which calls a pool allows, and what becomes of it. -/
inductive Step (w : Worker σ τ ρ ε) (capacity : Nat) : Pool σ τ ρ ε → Call τ → Pool σ τ ρ ε → Prop where
  /-- The first task of the line is handed over while there is room and the run is not cancelled. -/
  | start {s : Pool σ τ ρ ε} {index : Nat} {task : τ} {rest : List (Nat × τ)}
      (next : s.todo = (index, task) :: rest) (room : s.atWork.card < capacity)
      (running : s.token.isCancelled s.now = false) :
      Step w capacity s (.start index task s.now) (s.start w index task rest)
  /-- Of the tasks at work, one with the earliest end comes to it. -/
  | finish {s : Pool σ τ ρ ε} (lane : Nat) {u : Underway τ} {time : Nat}
      {others : Multiset (Underway τ × Nat)} (hand : s.atWork = (u, time) ::ₘ others)
      (first : ∀ v ∈ others, time ≤ v.2) (later : s.now ≤ time)
      (busy : s.now < time → s.atWork.card = capacity ∨ s.Closed) :
      Step w capacity s (.finish lane u time) (s.finish w lane u time others)

/-- The calls that lead from one pool to another. -/
inductive Path (w : Worker σ τ ρ ε) (capacity : Nat) (s₀ : Pool σ τ ρ ε) :
    List (Call τ) → Pool σ τ ρ ε → Prop where
  | refl : Path w capacity s₀ [] s₀
  | snoc {calls : List (Call τ)} {s s' : Pool σ τ ρ ε} {c : Call τ}
      (path : Path w capacity s₀ calls s) (step : Step w capacity s c s') :
      Path w capacity s₀ (calls ++ [c]) s'

variable {w : Worker σ τ ρ ε} {capacity : Nat}

/-- The last call is a step from where the calls before it lead. -/
theorem Path.concat_inv {s₀ s : Pool σ τ ρ ε} {xs : List (Call τ)} {c : Call τ}
    (h : Path w capacity s₀ (xs ++ [c]) s) : ∃ m, Path w capacity s₀ xs m ∧ Step w capacity m c s := by
  generalize hc : xs ++ [c] = calls at h
  cases h with
  | refl => exact absurd hc (List.append_ne_nil_of_right_ne_nil _ (List.cons_ne_nil _ _))
  | snoc path step =>
    obtain ⟨rfl, hlast⟩ := List.append_inj' hc rfl
    obtain rfl := List.singleton_inj.mp hlast
    exact ⟨_, path, step⟩

/-- Every sequence of calls can be cut in two at any place. -/
theorem Path.split {s₀ s : Pool σ τ ρ ε} {xs ys : List (Call τ)} (h : Path w capacity s₀ (xs ++ ys) s) :
    ∃ m, Path w capacity s₀ xs m ∧ Path w capacity m ys s := by
  induction ys using List.reverseRecOn generalizing s with
  | nil =>
    rw [List.append_nil] at h
    exact ⟨s, h, .refl⟩
  | append_singleton ys c ih =>
    rw [← List.append_assoc] at h
    obtain ⟨m, hpath, hstep⟩ := h.concat_inv
    obtain ⟨m', hx, hy⟩ := ih hpath
    exact ⟨m', hx, hy.snoc hstep⟩

/-- Every call in a sequence is a step between two pools on the way. -/
theorem Path.step_of_mem {s₀ s : Pool σ τ ρ ε} {xs ys : List (Call τ)} {c : Call τ}
    (h : Path w capacity s₀ (xs ++ c :: ys) s) :
    ∃ m m', Path w capacity s₀ xs m ∧ Step w capacity m c m' ∧ Path w capacity m' ys s := by
  rw [List.append_cons] at h
  obtain ⟨m', hx, hy⟩ := h.split
  obtain ⟨m, hm, hc⟩ := hx.concat_inv
  exact ⟨m, m', hm, hc, hy⟩

end Pool

end ReviewPanel
