import Mathlib.Data.List.Basic
import ReviewPanel.Proofs.Concurrent.PoolAccounting

/-! # When lanes come free

A lane that is free takes the next task of the line, and comes free again when that task has ended. The times
at which lanes come free, and with them the starts of all tasks, follow from the latencies alone: each task
goes to the lane that comes free first. A pool keeps to these times whatever the order in which its lanes
take their turns. -/
namespace ReviewPanel

/-- The earliest of the times at which lanes come free. -/
def earliest (free : List Nat) : Nat := free.min?.getD 0

/-- The times at which lanes come free when the one that does so first has taken a task. -/
def claimEarliest (free : List Nat) (latency : Nat) : List Nat :=
  free.replace (earliest free) (earliest free + latency)

/-- The starts of tasks with the given latencies, each on the lane that comes free first. -/
def listStarts (free : List Nat) : (latencies : List Nat) → List Nat
  | [] => []
  | d :: rest => earliest free :: listStarts (claimEarliest free d) rest

/-- The times at which lanes come free when tasks with the given latencies have been taken. -/
def freeAfter (free latencies : List Nat) : List Nat := latencies.foldl claimEarliest free

theorem listStarts_append (free xs ys : List Nat) :
    listStarts free (xs ++ ys) = listStarts free xs ++ listStarts (freeAfter free xs) ys := by
  induction xs generalizing free with
  | nil => rfl
  | cons d rest ih => simp [listStarts, freeAfter, ih]

@[simp] theorem length_listStarts (free latencies : List Nat) :
    (listStarts free latencies).length = latencies.length := by
  induction latencies generalizing free with
  | nil => rfl
  | cons d rest ih => simp [listStarts, ih]

@[simp] theorem length_freeAfter (free latencies : List Nat) :
    (freeAfter free latencies).length = free.length := by
  induction latencies generalizing free with
  | nil => rfl
  | cons d rest ih =>
    have hlength : (claimEarliest free d).length = free.length := List.length_replace
    exact (ih _).trans hlength

theorem earliest_eq {free : List Nat} {t : Nat} (mem : t ∈ free) (least : ∀ x ∈ free, t ≤ x) :
    earliest free = t := by
  rw [earliest, List.min?_eq_some_iff.mpr ⟨mem, least⟩, Option.getD_some]

theorem earliest_mem {free : List Nat} (h : free ≠ []) : earliest free ∈ free := by
  cases hmin : free.min? with
  | none => exact absurd (List.min?_eq_none_iff.mp hmin) h
  | some t =>
    rw [earliest, hmin]
    exact (List.min?_eq_some_iff.mp hmin).1

theorem earliest_le {free : List Nat} {t : Nat} (mem : t ∈ free) : earliest free ≤ t := by
  cases hmin : free.min? with
  | none => exact absurd (List.min?_eq_none_iff.mp hmin) (List.ne_nil_of_mem mem)
  | some least =>
    rw [earliest, hmin]
    exact (List.min?_eq_some_iff.mp hmin).2 t mem

theorem replace_perm {a : Nat} (b : Nat) {xs : List Nat} (h : a ∈ xs) : (xs.replace a b).Perm (b :: xs.erase a) := by
  induction xs with
  | nil => simp at h
  | cons x rest ih =>
    by_cases hx : x = a
    · subst hx
      simp
    · have hrest : a ∈ rest := by simpa [Ne.symm hx] using h
      rw [List.replace_cons, List.erase_cons_tail (by simpa using hx)]
      simp only [beq_eq_false_iff_ne.mpr (Ne.symm hx)]
      exact ((ih hrest).cons x).trans (.swap b x _)

/-- Seen as a multiset, the least of the times is replaced. -/
theorem coe_claimEarliest {free : List Nat} {t : Nat} {others : Multiset Nat}
    (h : (free : Multiset Nat) = t ::ₘ others) (least : ∀ x ∈ others, t ≤ x) (d : Nat) :
    earliest free = t ∧ (claimEarliest free d : Multiset Nat) = (t + d) ::ₘ others := by
  have hmem : ∀ x, x ∈ free ↔ x = t ∨ x ∈ others := fun x => by
    rw [← Multiset.mem_coe, h, Multiset.mem_cons]
  have ht : t ∈ free := (hmem t).mpr (.inl rfl)
  have hearliest : earliest free = t := by
    refine earliest_eq ht fun x hx => ?_
    rcases (hmem x).mp hx with rfl | hx
    · exact Nat.le_refl _
    · exact least x hx
  refine ⟨hearliest, ?_⟩
  rw [claimEarliest, hearliest, Multiset.coe_eq_coe.mpr (replace_perm (t + d) ht), ← Multiset.cons_coe,
    ← Multiset.coe_erase, h, Multiset.erase_cons_head]

/-- The later tasks of a list schedule do not start before the earlier ones. -/
theorem earliest_le_listStarts {free latencies : List Nat} {s : Nat} (h : s ∈ listStarts free latencies) :
    earliest free ≤ s := by
  induction latencies generalizing free with
  | nil => simp [listStarts] at h
  | cons d rest ih =>
    rcases List.mem_cons.mp h with rfl | hrest
    · exact Nat.le_refl _
    · refine Nat.le_trans ?_ (ih hrest)
      by_cases hfree : free = []
      · simp [hfree, earliest]
      · have hperm := replace_perm (earliest free + d) (earliest_mem hfree)
        have hne : claimEarliest free d ≠ [] := by
          intro hnil
          have hlength := congrArg List.length hnil
          simp [claimEarliest, hfree] at hlength
        rcases List.mem_cons.mp (hperm.mem_iff.mp (earliest_mem hne)) with heq | hmem
        · exact heq ▸ Nat.le_add_right _ _
        · exact earliest_le (List.mem_of_mem_erase hmem)

namespace Mark

def time : Mark → Nat
  | .started _ time => time
  | .finished _ time => time

/-- The task that starts, and when. -/
def start? : Mark → Option (Nat × Nat)
  | .started index time => some (index, time)
  | .finished _ _ => none

def isStart (m : Mark) : Bool := m.start?.isSome

def isFinish (m : Mark) : Bool := m.start?.isNone

end Mark

variable {σ τ ρ ε : Type}

/-- In all worlds of a run, a task takes its own time. -/
def Worker.Takes (w : Worker σ τ ρ ε) (latency : Nat → τ → Nat) (world : σ) (token : Token) : Prop :=
  ∀ calls u, w.latency u (w.performAll (world, token) calls).1 = latency u.index u.task

namespace Pool

variable {w : Worker σ τ ρ ε} {capacity : Nat} {s s₀ : Pool σ τ ρ ε} {free : List Nat}

/-- The times at which the lanes of a pool come free. A lane is idle only because it has just come free, or
because by the time when it did so the line was empty or the run cancelled. -/
structure Frees (s : Pool σ τ ρ ε) (free : List Nat) : Prop where
  lanes_eq : ∃ idle : Multiset Nat, (free : Multiset Nat) = s.atWork.map Prod.snd + idle ∧
    ∀ t ∈ idle, t ≤ s.now ∧ (t = s.now ∨ s.todo = [] ∨ s.token.isCancelled t = true)
  ahead : ∀ h ∈ s.atWork, s.now ≤ h.2

theorem card_idle {atWork : Multiset (Underway τ × Nat)} {idle : Multiset Nat}
    (h : (free : Multiset Nat) = atWork.map Prod.snd + idle) : free.length = atWork.card + idle.card := by
  simpa using congrArg Multiset.card h

/-- A task is handed over at the time at which the first lane comes free. -/
theorem Frees.start (h : s.Frees free) {index : Nat} {task : τ} {rest : List (Nat × τ)}
    (next : s.todo = (index, task) :: rest) (room : s.atWork.card < free.length)
    (running : s.token.isCancelled s.now = false) {d : Nat}
    (latency : w.latency ⟨index, task, s.now⟩ s.world = d) :
    earliest free = s.now ∧ (s.start w index task rest).Frees (claimEarliest free d) := by
  obtain ⟨idle, hfree, hidle⟩ := h.lanes_eq
  have hnow : ∀ t ∈ idle, t = s.now := by
    intro t ht
    obtain ⟨hle, heq | hempty | hcancelled⟩ := hidle t ht
    · exact heq
    · simp [next] at hempty
    · have := Lanes.isCancelled_mono hcancelled hle
      simp [running] at this
  have hcard : 0 < idle.card := by
    have := card_idle hfree
    omega
  obtain ⟨t, ht⟩ := Multiset.card_pos_iff_exists_mem.mp hcard
  obtain ⟨others, rfl⟩ := Multiset.exists_cons_of_mem ht
  obtain rfl := hnow t ht
  rw [Multiset.add_cons] at hfree
  obtain ⟨hearliest, hclaimed⟩ := coe_claimEarliest hfree (d := d) (by
    intro x hx
    rcases Multiset.mem_add.mp hx with hx | hx
    · obtain ⟨v, hv, rfl⟩ := Multiset.mem_map.mp hx
      exact h.ahead v hv
    · exact Nat.le_of_eq (hnow x (Multiset.mem_cons_of_mem hx)).symm)
  refine ⟨hearliest, ⟨others, ?_, ?_⟩, ?_⟩
  · rw [hclaimed, atWork_start, Multiset.map_cons, Multiset.cons_add, latency]
  · intro t ht
    have hteq := hnow t (Multiset.mem_cons_of_mem ht)
    exact ⟨Nat.le_of_eq hteq, .inl hteq⟩
  · intro v hv
    rcases Multiset.mem_cons.mp hv with rfl | hv
    · exact Nat.le_add_right _ _
    · exact h.ahead v hv

/-- The lane whose task comes to its end has been due to come free then. -/
theorem Frees.finish (h : s.Frees free) {lane time : Nat} {u : Underway τ}
    {others : Multiset (Underway τ × Nat)} (hand : s.atWork = (u, time) ::ₘ others)
    (first : ∀ v ∈ others, time ≤ v.2) (later : s.now ≤ time)
    (busy : s.now < time → s.atWork.card = free.length ∨ s.Closed) :
    (s.finish w lane u time others).Frees free := by
  obtain ⟨idle, hfree, hidle⟩ := h.lanes_eq
  refine ⟨⟨time ::ₘ idle, ?_, ?_⟩, first⟩
  · rw [hfree, hand, Multiset.map_cons, Multiset.cons_add, Multiset.add_cons]
    rfl
  · intro t ht
    rcases Multiset.mem_cons.mp ht with rfl | ht
    · exact ⟨Nat.le_refl _, .inl rfl⟩
    · obtain ⟨hle, hcause⟩ := hidle t ht
      refine ⟨hle.trans later, ?_⟩
      have hkept (hc : s.token.isCancelled t = true) :
          (s.finish w lane u time others).token.isCancelled t = true := Lanes.isCancelled_cancelIf hc _
      rcases hcause with rfl | hempty | hcancelled
      · rcases Nat.eq_or_lt_of_le later with heq | hlt
        · exact .inl heq
        · -- time passes only when no lane is idle, or the pool is closed
          rcases busy hlt with hfull | hempty | hcancelled
          · have hcard := card_idle hfree
            have := Multiset.card_pos_iff_exists_mem.mpr ⟨_, ht⟩
            omega
          · exact .inr (.inl hempty)
          · exact .inr (.inr (hkept hcancelled))
      · exact .inr (.inl hempty)
      · exact .inr (.inr (hkept hcancelled))

section Begun

variable {tasks : List τ} {token : Token} {now k : Nat} {world : σ} {calls : List (Call τ)}
  {latency : Nat → τ → Nat} {last : Pool σ τ ρ ε}

/-- The latencies of the tasks that were handed over, in their order. -/
def latencies (latency : Nat → τ → Nat) (calls : List (Call τ)) : List Nat :=
  (calls.filterMap Call.started?).map fun p => latency p.1 p.2

theorem Books.length_latencies (b : Books tasks k calls s) : (latencies latency calls).length = k := by
  have hle := b.le
  simp only [latencies, b.started, List.length_map, Lanes.length_line, List.length_take]
  omega

theorem frees_begun (tasks : List τ) (token : Token) (now : Nat) (world : σ) (capacity : Nat) :
    (begun tasks token now world : Pool σ τ ρ ε).Frees (List.replicate capacity now) := by
  refine ⟨⟨(List.replicate capacity now : List Nat), by simp [begun], fun t ht => ?_⟩, by simp [begun]⟩
  have ht : t = now := List.eq_of_mem_replicate (Multiset.mem_coe.mp ht)
  exact ⟨Nat.le_of_eq ht, .inl ht⟩

/-- The tasks that have been handed over so far have started as in a list schedule. -/
theorem Path.frees (takes : w.Takes latency world token)
    (h : Path w capacity (begun tasks token now world) calls s) :
    calls.filterMap (·.mark.start?) =
        (listStarts (List.replicate capacity now) (latencies latency calls)).mapIdx Prod.mk ∧
      s.Frees (freeAfter (List.replicate capacity now) (latencies latency calls)) := by
  induction h with
  | refl => exact ⟨rfl, frees_begun tasks token now world capacity⟩
  | @snoc calls s s' c path step ih =>
    obtain ⟨hstarts, hfrees⟩ := ih
    cases step with
    | @start index task rest next room running =>
      obtain ⟨k, b⟩ := path.books
      have hindex : index = (latencies latency calls).length :=
        (Lanes.line_drop_eq_cons (b.line.symm.trans next)).1.trans b.length_latencies.symm
      have hd : w.latency ⟨index, task, s.now⟩ s.world = latency index task := by
        rw [← takes calls ⟨index, task, s.now⟩]
        exact congrArg (fun stage => w.latency ⟨index, task, s.now⟩ stage.1) path.stage_eq
      have hlatencies : latencies latency (calls ++ [.start index task s.now]) =
          latencies latency calls ++ [latency index task] := by
        simp [latencies, Call.started?]
      obtain ⟨hearliest, hnext⟩ := hfrees.start next (by simpa using room) running hd
      rw [hlatencies]
      constructor
      · rw [List.filterMap_append, hstarts, listStarts_append]
        simp [listStarts, hearliest, Call.mark, Mark.start?, hindex]
      · simpa [freeAfter] using hnext
    | @finish lane u time others hand first later busy =>
      have hlatencies : latencies latency (calls ++ [.finish lane u time]) = latencies latency calls := by
        simp [latencies, Call.started?]
      rw [hlatencies, List.filterMap_append, hstarts]
      exact ⟨List.append_nil _, hfrees.finish hand first later (by simpa using busy)⟩

end Begun

end Pool

end ReviewPanel
