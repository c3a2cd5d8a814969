import Mathlib.Data.Finset.Max
import ReviewPanel.Proofs.Client.Scripting
import ReviewPanel.Proofs.Concurrent.PoolAccounting

/-! # Traffic at a client

Requests come at any times, and each waits for its answer until its latency is over, in any order with
the others. The requests that lanes hand over all at once are one case of it. -/
namespace ReviewPanel

variable {τ : Type}

namespace Call

/-- The requests that came, with the times at which they did. -/
def arrival? : Call τ → Option (ℕ × τ)
  | .start _ task time => some (time, task)
  | .finish _ _ _ => none

/-- The next request, when it comes: requests are numbered in the order in which they come. -/
def next (calls : List (Call τ)) (task : τ) (now : ℕ) : Underway τ := ⟨calls.countP isStart, task, now⟩

end Call

namespace ScriptedClient

/-- The client after calls. -/
def after (c : ScriptedClient) (calls : List (Call Request)) : ScriptedClient :=
  (worker.performAll (c, .fresh) calls).1

@[simp] theorem after_nil (c : ScriptedClient) : c.after [] = c := rfl

@[simp] theorem after_start (c : ScriptedClient) (calls : List (Call Request)) (index time : ℕ) (r : Request) :
    c.after (calls ++ [.start index r time]) = (c.after calls).receive r := by
  rw [after, Worker.performAll_concat]
  rfl

@[simp] theorem after_finish (c : ScriptedClient) (calls : List (Call Request)) (lane time : ℕ)
    (u : Underway Request) : c.after (calls ++ [.finish lane u time]) = (c.after calls).release := by
  rw [after, Worker.performAll_concat]
  rfl

/-- Calls leave the scripts as they are. -/
@[simp] theorem script_after (c : ScriptedClient) (calls : List (Call Request)) :
    (c.after calls).script = c.script := by
  induction calls using List.reverseRecOn with
  | nil => rfl
  | append_singleton calls call ih =>
    cases call with
    | start index r time =>
      rw [after_start, ← ih]
      rfl
    | finish lane u time =>
      rw [after_finish, ← ih]
      rfl

/-- The log of a client grows by the requests, in the order in which they come. -/
theorem calls_after (c : ScriptedClient) (calls : List (Call Request)) :
    (c.after calls).calls = c.calls ++ (calls.filterMap Call.started?).map Prod.snd := by
  induction calls using List.reverseRecOn with
  | nil => exact (List.append_nil _).symm
  | append_singleton calls call ih =>
    rw [List.filterMap_append, List.map_append, ← List.append_assoc, ← ih]
    cases call with
    | start index r time =>
      rw [after_start]
      rfl
    | finish lane u time =>
      rw [after_finish]
      exact (List.append_nil _).symm

/-- Which calls may come to a client by a time, and which requests wait then, with the times at which they
are due. Others may be busy at a time at which an answer is due, and it comes later then; if the clock is
`prompt`, it stops at every such time until the answer is given. -/
inductive Traffic (c : ScriptedClient) (prompt : Prop) :
    List (Call Request) → Multiset (Underway Request × ℕ) → ℕ → Prop where
  | opened (now : ℕ) : Traffic c prompt [] 0 now
  | pass {calls : List (Call Request)} {waiting : Multiset (Underway Request × ℕ)} {now later : ℕ}
      (traffic : Traffic c prompt calls waiting now) (forward : now ≤ later)
      (stops : prompt → ∀ h ∈ waiting, later ≤ h.2) : Traffic c prompt calls waiting later
  | arrive {calls : List (Call Request)} {waiting : Multiset (Underway Request × ℕ)} {now : ℕ}
      (traffic : Traffic c prompt calls waiting now) (r : Request) :
      Traffic c prompt (calls ++ [.start (calls.countP Call.isStart) r now])
        ((Call.next calls r now, now + worker.latency (Call.next calls r now) (c.after calls)) ::ₘ waiting) now
  | answer {calls : List (Call Request)} {others : Multiset (Underway Request × ℕ)} {now due : ℕ}
      {u : Underway Request} (traffic : Traffic c prompt calls ((u, due) ::ₘ others) now) (lane : ℕ)
      (elapsed : due ≤ now) : Traffic c prompt (calls ++ [.finish lane u now]) others now

namespace Traffic

variable {c : ScriptedClient} {prompt : Prop} {calls : List (Call Request)}
  {waiting : Multiset (Underway Request × ℕ)} {now : ℕ}

/-- What came before any of the calls was traffic as well. -/
theorem of_prefix (h : Traffic c prompt calls waiting now) {before : List (Call Request)}
    (hbefore : before <+: calls) : ∃ waiting now, Traffic c prompt before waiting now := by
  induction h with
  | opened now =>
    rw [List.prefix_nil.mp hbefore]
    exact ⟨0, now, .opened now⟩
  | pass _ _ _ ih => exact ih hbefore
  | arrive traffic r ih =>
    rcases List.prefix_concat_iff.mp hbefore with rfl | hbefore
    · exact ⟨_, _, traffic.arrive r⟩
    · exact ih hbefore
  | answer traffic lane elapsed ih =>
    rcases List.prefix_concat_iff.mp hbefore with rfl | hbefore
    · exact ⟨_, _, traffic.answer lane elapsed⟩
    · exact ih hbefore

/-- Before an answer its request waits, and is due. -/
theorem of_finish (h : Traffic c prompt calls waiting now) {before : List (Call Request)} {lane time : ℕ}
    {u : Underway Request} (hbefore : before ++ [.finish lane u time] <+: calls) :
    ∃ due others, Traffic c prompt before ((u, due) ::ₘ others) time ∧ due ≤ time := by
  induction h with
  | opened =>
    exact absurd (List.prefix_nil.mp hbefore) (List.append_ne_nil_of_right_ne_nil _ (List.cons_ne_nil _ _))
  | pass _ _ _ ih => exact ih hbefore
  | arrive traffic r ih =>
    rcases List.prefix_concat_iff.mp hbefore with heq | hbefore
    · exact absurd (List.append_inj' heq rfl).2 (by simp)
    · exact ih hbefore
  | answer traffic lane elapsed ih =>
    rcases List.prefix_concat_iff.mp hbefore with heq | hbefore
    · obtain ⟨rfl, hlast⟩ := List.append_inj' heq rfl
      obtain ⟨-, rfl, rfl⟩ := Call.finish.inj (List.singleton_inj.mp hlast)
      exact ⟨_, _, traffic, elapsed⟩
    · exact ih hbefore

/-- A request is due when the latency of its label is over. -/
theorem due_eq (h : Traffic c prompt calls waiting now) :
    ∀ w ∈ waiting, w.2 = w.1.startedAt + c.delay w.1.task.label := by
  induction h with
  | opened => exact fun w hw => absurd hw (Multiset.notMem_zero w)
  | pass _ _ _ ih => exact ih
  | @arrive calls _ now traffic r ih =>
    intro w hw
    rcases Multiset.mem_cons.mp hw with rfl | hw
    · change now + waitFor ((c.after calls).script r.label).latency = _
      rw [script_after]
      rfl
    · exact ih w hw
  | answer _ _ _ ih => exact fun w hw => ih w (Multiset.mem_cons_of_mem hw)

theorem le_due (h : Traffic c prompt calls waiting now) (hprompt : prompt) : ∀ w ∈ waiting, now ≤ w.2 := by
  induction h with
  | opened => exact fun w hw => absurd hw (Multiset.notMem_zero w)
  | pass _ _ stops _ => exact stops hprompt
  | arrive _ r ih =>
    intro w hw
    rcases Multiset.mem_cons.mp hw with rfl | hw
    · exact Nat.le_add_right _ _
    · exact ih w hw
  | answer _ _ _ ih => exact fun w hw => ih w (Multiset.mem_cons_of_mem hw)

/-- The requests are numbered in the order in which they come. -/
theorem started_eq (h : Traffic c prompt calls waiting now) :
    calls.filterMap Call.started? = Lanes.line 0 ((calls.filterMap Call.started?).map Prod.snd) := by
  induction h with
  | opened => rfl
  | pass _ _ _ ih => exact ih
  | @arrive calls _ now _ r ih =>
    rw [List.filterMap_append, List.map_append, Lanes.line_append, ← ih, List.length_map,
      Call.length_filterMap_started, Nat.zero_add]
    rfl
  | @answer calls _ now _ u _ lane _ ih =>
    have hsame : (calls ++ [Call.finish lane u now]).filterMap Call.started? = calls.filterMap Call.started? :=
      List.filterMap_append.trans (List.append_nil _)
    rw [hsame]
    exact ih

/-- A clock that stops whenever an answer is due comes to any later time, and the requests that still wait
are due at that time or later. -/
theorem exists_until (h : Traffic c True calls waiting now) {time : ℕ} (later : now ≤ time) :
    ∃ more rest, Traffic c True (calls ++ more) rest time ∧ more.filterMap Call.arrival? = [] ∧
      rest ≤ waiting := by
  induction hcard : waiting.card generalizing calls waiting now with
  | zero =>
    obtain rfl := Multiset.card_eq_zero.mp hcard
    refine ⟨[], 0, ?_, rfl, le_refl _⟩
    rw [List.append_nil]
    exact h.pass later fun _ w hw => absurd hw (Multiset.notMem_zero w)
  | succ n ih =>
    obtain ⟨w, hw, hfirst⟩ := Multiset.exists_min_image Prod.snd
      (Multiset.card_pos.mp (by omega : 0 < waiting.card))
    by_cases htime : time ≤ w.2
    · refine ⟨[], waiting, ?_, rfl, le_refl _⟩
      rw [List.append_nil]
      exact h.pass later fun _ v hv => htime.trans (hfirst v hv)
    · -- The answer that is due first is given, and the others wait on.
      have hpassed := h.pass (h.le_due trivial w hw) fun _ => hfirst
      obtain ⟨others, rfl⟩ := Multiset.exists_cons_of_mem hw
      rw [Multiset.card_cons, Nat.succ_inj] at hcard
      obtain ⟨more, rest, htraffic, hmore, hrest⟩ :=
        ih (hpassed.answer 0 (le_refl _)) (Nat.le_of_not_le htime) hcard
      refine ⟨.finish 0 w.1 w.2 :: more, rest, ?_, hmore, hrest.trans (Multiset.le_cons_self _ _)⟩
      rw [List.append_cons]
      exact htraffic

/-- All requests that wait are answered some time. -/
theorem exists_drained (h : Traffic c True calls waiting now) :
    ∃ more time, Traffic c True (calls ++ more) 0 time ∧ more.filterMap Call.arrival? = [] := by
  by_cases hwaiting : waiting = 0
  · refine ⟨[], now, ?_, rfl⟩
    rw [List.append_nil]
    exact hwaiting ▸ h
  · obtain ⟨w, hw, hlast⟩ := Multiset.exists_max_image Prod.snd hwaiting
    obtain ⟨more, rest, htraffic, hmore, hrest⟩ :=
      h.exists_until ((h.le_due trivial w hw).trans (Nat.le_succ w.2))
    have hempty : rest = 0 := by
      refine Multiset.eq_zero_of_forall_notMem fun v hv => ?_
      have hlate := htraffic.le_due trivial v hv
      have hearly := hlast v (Multiset.mem_of_le hrest hv)
      omega
    exact ⟨more, _, hempty ▸ htraffic, hmore⟩

/-- Up to a time, requests may come at any times. -/
theorem exists_arrivals (c : ScriptedClient) (schedule : List (ℕ × Request))
    (sorted : schedule.Pairwise fun a b => a.1 ≤ b.1) {time : ℕ} (bound : ∀ a ∈ schedule, a.1 ≤ time) :
    ∃ calls waiting, Traffic c True calls waiting time ∧ calls.filterMap Call.arrival? = schedule := by
  induction schedule using List.reverseRecOn generalizing time with
  | nil => exact ⟨[], 0, .opened time, rfl⟩
  | append_singleton schedule a ih =>
    obtain ⟨hsorted, -, hlast⟩ := List.pairwise_append.mp sorted
    obtain ⟨calls, waiting, htraffic, hcalls⟩ := ih hsorted fun b hb => hlast b hb a List.mem_cons_self
    obtain ⟨more, rest, hmore, hnone, -⟩ := (htraffic.arrive a.2).exists_until
      (bound a (List.mem_append_right _ List.mem_cons_self))
    refine ⟨_, rest, hmore, ?_⟩
    rw [List.filterMap_append, List.filterMap_append, hcalls, hnone, List.append_nil]
    rfl

/-- Requests may come at any times, and all of them are answered. -/
theorem exists_of_schedule (c : ScriptedClient) (schedule : List (ℕ × Request))
    (sorted : schedule.Pairwise fun a b => a.1 ≤ b.1) :
    ∃ calls now, Traffic c True calls 0 now ∧ calls.filterMap Call.arrival? = schedule := by
  have hbound : ∃ time, ∀ a ∈ schedule, a.1 ≤ time := by
    rcases schedule.eq_nil_or_concat with rfl | ⟨earlier, a, rfl⟩
    · exact ⟨0, fun a ha => absurd ha List.not_mem_nil⟩
    · rw [List.concat_eq_append] at sorted ⊢
      refine ⟨a.1, fun b hb => ?_⟩
      rcases List.mem_append.mp hb with hb | hb
      · exact (List.pairwise_append.mp sorted).2.2 b hb a List.mem_cons_self
      · rw [List.mem_singleton.mp hb]
  obtain ⟨time, hbound⟩ := hbound
  obtain ⟨calls, waiting, htraffic, hcalls⟩ := exists_arrivals c schedule sorted hbound
  obtain ⟨more, now, hdrained, hmore⟩ := htraffic.exists_drained
  refine ⟨calls ++ more, now, hdrained, ?_⟩
  rw [List.filterMap_append, hcalls, hmore, List.append_nil]

/-- Requests that come together and are served by lanes are traffic. -/
theorem of_path {capacity : ℕ} {requests : List Request}
    {s : Pool ScriptedClient Request (Ending Json ReviewError) Unit}
    (h : Pool.Path worker capacity (Pool.begun requests .fresh 0 c) calls s) :
    Traffic c True calls s.atWork s.now := by
  induction h with
  | refl => exact .opened 0
  | @snoc calls m s call path step ih =>
    have hworld : m.world = c.after calls := congrArg Prod.fst path.stage_eq
    cases step with
    | @start index r rest next room running =>
      obtain ⟨k, b⟩ := path.books
      have hindex : index = calls.countP Call.isStart :=
        (Lanes.line_drop_eq_cons (b.line.symm.trans next)).1.trans b.countP_isStart.symm
      rw [Pool.atWork_start, hworld, hindex]
      exact ih.arrive r
    | @finish lane u time others hand first later busy =>
      rw [hand] at ih
      refine (ih.pass later fun _ w hw => ?_).answer lane (le_refl time)
      rcases Multiset.mem_cons.mp hw with rfl | hw
      · exact le_refl _
      · exact first w hw

end Traffic

/-- Nothing that the client does cancels the run by which it is served. -/
theorem token_performAll (c : ScriptedClient) (calls : List (Call Request)) :
    (worker.performAll (c, .fresh) calls).2 = .fresh := by
  induction calls using List.reverseRecOn with
  | nil => rfl
  | append_singleton calls call ih =>
    rw [Worker.performAll_concat, Worker.perform.eq_def]
    cases call <;> exact ih

/-- Requests that come together are traffic that ends, and each is answered by the script of its label. -/
theorem exists_traffic_serve (c : ScriptedClient) (requests : List Request) :
    ∃ calls now, Traffic c True calls 0 now ∧ calls.filterMap Call.started? = Lanes.line 0 requests ∧
      (c.serve requests).world = c.after calls ∧
      (c.serve requests).outcomes = requests.map fun r => .returned (c.script r.label).reply := by
  obtain ⟨k, calls, last, course, hrun⟩ := worker.exists_course requests requests.length .fresh 0 c
  have hstage := course.stage_eq
  have htoken : last.token = .fresh := (congrArg Prod.snd hstage).trans (token_performAll c calls)
  obtain rfl : k = requests.length := course.eq_length (by rw [htoken]; rfl)
  have hserve : c.serve requests = last.toRun requests.length calls := hrun
  have htraffic := Traffic.of_path course.path
  rw [course.idle] at htraffic
  refine ⟨calls, last.now, htraffic, ?_, ?_, ?_⟩
  · rw [course.books.started, List.take_length]
  · rw [hserve]
    exact congrArg Prod.fst hstage
  · rw [hserve]
    apply List.ext_getElem?
    intro i
    by_cases hi : i < requests.length
    · obtain ⟨lane, u, time, rfl, htask, habout⟩ := course.about_eq hi
      have hmem : Call.finish lane u time ∈ Call.about u.index calls := by
        rw [habout]
        exact List.mem_cons_of_mem _ List.mem_cons_self
      obtain ⟨before, more, rfl⟩ := List.append_of_mem (List.mem_of_mem_filter hmem)
      rw [last.getElem?_outcomes_toRun _ hi, course.path.lookup_ended, List.getElem?_map, htask]
      change some (Settled.returned ((c.after before).script u.task.label).reply) = _
      rw [script_after]
      rfl
    · have hle := Nat.le_of_not_lt hi
      rw [List.getElem?_eq_none (by rw [Pool.length_outcomes_toRun]; exact hle),
        List.getElem?_eq_none (by rw [List.length_map]; exact hle)]

end ScriptedClient

end ReviewPanel
