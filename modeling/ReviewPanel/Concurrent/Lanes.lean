import ReviewPanel.Concurrent.Settled
import ReviewPanel.Concurrent.Token

/-! # Lanes

Tasks wait in a line. A fixed number of lanes serve it: a lane takes the first task, starts it, waits for
as long as the task takes, finishes it, and takes the next one. Lanes that have something to do act in
turn, and when all wait the clock moves on to the time at which the first of them goes on; of those with
the same time, the one that began to wait first comes first. A lane that has finished many tasks without
a wait gives way to the others before it goes on. A lane takes no task once the token is cancelled, but
what was started is finished. -/
namespace ReviewPanel

/-- The number of lanes: as many as requested, but no more than there are tasks, and at least one. -/
def effectiveConcurrency (requested tasks : Nat) : Nat := max 1 (min requested tasks)

/-- What the start of a task does: the world after it, how long the task takes from here, and whether it
cancels the run. -/
structure Start (σ : Type) where
  world : σ
  latency : Nat
  cancels : Bool

/-- What the end of a task does. -/
structure Finish (σ ρ ε : Type) where
  world : σ
  ending : Ending ρ ε
  cancels : Bool

/-- How tasks are done. All functions are told the index of the task. -/
structure Worker (σ τ ρ ε : Type) where
  start : (index : Nat) → (task : τ) → (now : Nat) → σ → Start σ
  finish : (index : Nat) → (task : τ) → (startedAt now : Nat) → σ → Finish σ ρ ε
  /-- What the crash of a task does beyond that. -/
  onCrash : (lane index : Nat) → (message : String) → σ → σ

/-- A task that was started and has not ended. -/
structure Underway (τ : Type) where
  index : Nat
  task : τ
  startedAt : Nat
deriving Repr

/-- A lane that waits: for the end of the task in its hand, or, with nothing in its hand, only for the
others to take their turns. -/
structure Sleeper (τ : Type) where
  lane : Nat
  hand : Option (Underway τ)
  wakeAt : Nat
deriving Repr

/-- What happened to a task, and when. -/
inductive Mark where
  | started (index time : Nat)
  | finished (index time : Nat)
deriving Repr, DecidableEq

/-- A run under way. -/
structure Lanes (σ τ ρ ε : Type) where
  world : σ
  token : Token
  now : Nat
  /-- The tasks in the line, with their indices. -/
  todo : List (Nat × τ)
  /-- The lanes that wait, in the order in which they go on. -/
  asleep : List (Sleeper τ)
  /-- The tasks that have ended, in the order in which they did. -/
  ended : List (Nat × Settled ρ ε)
  /-- All that happened, in order. -/
  history : List Mark

/-- A run that is over: what is left of it, and the state of every task, in the order of the tasks. -/
structure Run (σ ρ ε : Type) where
  world : σ
  token : Token
  now : Nat
  outcomes : List (Settled ρ ε)
  history : List Mark

namespace Lanes

variable {σ τ ρ ε : Type}

/-- A waiting lane put behind those that go on before it or at the same time. -/
def insert (z : Sleeper τ) : List (Sleeper τ) → List (Sleeper τ)
  | [] => [z]
  | y :: rest => if y.wakeAt ≤ z.wakeAt then y :: insert z rest else z :: y :: rest

@[simp] theorem length_insert (z : Sleeper τ) (ys : List (Sleeper τ)) :
    (insert z ys).length = ys.length + 1 := by
  induction ys with
  | nil => rfl
  | cons y rest ih =>
    simp only [insert]
    split <;> simp [ih]

def turn : Nat := 64

def finish (w : Worker σ τ ρ ε) (lane : Nat) (u : Underway τ) (s : Lanes σ τ ρ ε) : Lanes σ τ ρ ε :=
  let f := w.finish u.index u.task u.startedAt s.now s.world
  { s with
    world := match f.ending with
      | .crashed c => w.onCrash lane u.index c.text f.world
      | _ => f.world
    token := s.token.cancelIf f.cancels
    ended := s.ended ++ [(u.index, f.ending.settled)]
    history := s.history ++ [.finished u.index s.now] }

/-- What a lane does until it waits or stops, with at most `left` more tasks to finish in this turn; the
list is the line. -/
def claim (w : Worker σ τ ρ ε) (lane : Nat) :
    (left : Nat) → List (Nat × τ) → Lanes σ τ ρ ε → Lanes σ τ ρ ε
  | _, [], s => { s with todo := [] }
  | 0, todo, s => { s with todo, asleep := insert ⟨lane, none, s.now⟩ s.asleep }
  | left + 1, (index, task) :: rest, s =>
    if s.token.isCancelled s.now then { s with todo := (index, task) :: rest }
    else
      let b := w.start index task s.now s.world
      let begun := { s with
        world := b.world
        token := s.token.cancelIf b.cancels
        history := s.history ++ [.started index s.now] }
      let u : Underway τ := ⟨index, task, s.now⟩
      if b.latency = 0 then claim w lane left rest (finish w lane u begun)
      else { begun with
        todo := rest
        asleep := insert ⟨lane, some u, s.now + b.latency⟩ s.asleep }

def resume (w : Worker σ τ ρ ε) (z : Sleeper τ) (s : Lanes σ τ ρ ε) : Lanes σ τ ρ ε :=
  match z.hand with
  | some u => claim w z.lane (turn - 1) s.todo (finish w z.lane u s)
  | none => claim w z.lane turn s.todo s

/-- What is still to come of a run: a task in the line has its start and its end before it, a lane that
waits one more turn. -/
def remaining (s : Lanes σ τ ρ ε) : Nat := 2 * s.todo.length + s.asleep.length

@[simp] theorem asleep_finish (w : Worker σ τ ρ ε) (lane : Nat) (u : Underway τ) (s : Lanes σ τ ρ ε) :
    (finish w lane u s).asleep = s.asleep := rfl

/-- A lane that takes a task takes it out of the line for good; only one that may take none adds to what
is to come. -/
theorem remaining_claim (w : Worker σ τ ρ ε) (lane left : Nat) (todo : List (Nat × τ))
    (s : Lanes σ τ ρ ε) :
    (claim w lane left todo s).remaining
      ≤ 2 * todo.length + s.asleep.length + (if left = 0 then 1 else 0) := by
  induction todo generalizing left s with
  | nil => cases left <;> simp [claim, remaining]
  | cons t rest ih =>
    obtain ⟨index, task⟩ := t
    cases left with
    | zero => simp [claim, remaining, Nat.add_assoc]
    | succ left =>
      simp only [claim]
      split
      · simp [remaining]
      · split
        · refine Nat.le_trans (ih left _) ?_
          simp only [asleep_finish, List.length_cons]
          split <;> omega
        · simp only [remaining, length_insert, List.length_cons]
          omega

theorem remaining_resume (w : Worker σ τ ρ ε) (z : Sleeper τ) (s : Lanes σ τ ρ ε) :
    (resume w z s).remaining ≤ s.remaining := by
  simp only [resume]
  split
  · exact remaining_claim w z.lane (turn - 1) s.todo _
  · exact remaining_claim w z.lane turn s.todo s

def drain (w : Worker σ τ ρ ε) (s : Lanes σ τ ρ ε) : Lanes σ τ ρ ε :=
  match _asleep : s.asleep with
  | [] => s
  | z :: rest => drain w (resume w z { s with now := z.wakeAt, asleep := rest })
termination_by s.remaining
decreasing_by
  refine Nat.lt_of_le_of_lt (remaining_resume w z _) ?_
  simp [remaining, _asleep]

def line (first : Nat) : List τ → List (Nat × τ)
  | [] => []
  | t :: rest => (first, t) :: line (first + 1) rest

def startAll (w : Worker σ τ ρ ε) (lanes : List Nat) (s : Lanes σ τ ρ ε) : Lanes σ τ ρ ε :=
  lanes.foldl (fun s lane => claim w lane turn s.todo s) s

def outcome (s : Lanes σ τ ρ ε) (index : Nat) : Settled ρ ε := (s.ended.lookup index).getD .notStarted

end Lanes

/-- The tasks done by as many lanes as requested, from a time and a world on. -/
def Worker.run {σ τ ρ ε : Type} (w : Worker σ τ ρ ε) (tasks : List τ) (concurrency : Nat) (token : Token)
    (now : Nat) (world : σ) : Run σ ρ ε :=
  let begun : Lanes σ τ ρ ε := ⟨world, token, now, Lanes.line 0 tasks, [], [], []⟩
  let lanes := List.range (effectiveConcurrency concurrency tasks.length)
  let last := Lanes.drain w (Lanes.startAll w lanes begun)
  { world := last.world
    token := last.token.ring last.now
    now := last.now
    outcomes := (List.range tasks.length).map last.outcome
    history := last.history }

end ReviewPanel
