import Mathlib.Order.Bounds.Basic
import ReviewPanel.Proofs.Client.Traffic

/-! # Calls under way

The client counts the requests that came and were not yet answered, remembers how many there were at most,
and keeps a log. -/
namespace ReviewPanel

variable {τ : Type}

namespace Call

/-- The calls in which a request came that was not answered in any of the calls. -/
def unanswered (calls : List (Call τ)) : List (Call τ) :=
  calls.filter fun call => calls.all fun other => other.isStart || other.index != call.index

theorem unanswered_start {calls : List (Call τ)} {call : Call τ} (start : call.isStart = true)
    (fresh : ∀ other ∈ calls, other.index ≠ call.index) :
    unanswered (calls ++ [call]) = unanswered calls ++ [call] := by
  have hself : ((calls ++ [call]).all fun other => other.isStart || other.index != call.index) = true := by
    refine List.all_eq_true.mpr fun other hother => ?_
    rcases List.mem_append.mp hother with hother | hother
    · rw [bne_iff_ne.mpr (fresh other hother), Bool.or_true]
    · rw [List.mem_singleton.mp hother, start, Bool.true_or]
  rw [unanswered, List.filter_append, List.filter_singleton, hself]
  congr 1
  refine List.filter_congr fun other _ => ?_
  rw [List.all_append, List.all_cons, List.all_nil, start, Bool.true_or, Bool.true_and, Bool.and_true]

theorem unanswered_finish {calls : List (Call τ)} {call : Call τ} (finish : call.isStart = false) :
    unanswered (calls ++ [call]) = (unanswered calls).filter fun other => other.index ≠ call.index := by
  have hself : ((calls ++ [call]).all fun other => other.isStart || other.index != call.index) = false := by
    refine List.all_eq_false.mpr ⟨call, List.mem_append_right _ List.mem_cons_self, ?_⟩
    rw [finish, bne_self_eq_false, Bool.or_false]
    exact Bool.false_ne_true
  rw [unanswered, List.filter_append, List.filter_singleton, hself, unanswered, List.filter_filter]
  refine (List.append_nil _).trans (List.filter_congr fun other _ => ?_)
  rw [List.all_append, List.all_cons, List.all_nil, finish, Bool.false_or, Bool.and_true, Bool.and_comm]
  congr 1
  by_cases h : other.index = call.index
  · simp [h]
  · simp [h, Ne.symm h]

/-- To a request that was not answered there is no answer. -/
theorem isStart_of_unanswered {calls : List (Call τ)} {call other : Call τ} (h : call ∈ unanswered calls)
    (hother : other ∈ calls) (same : other.index = call.index) : other.isStart = true := by
  have hall := List.all_eq_true.mp (List.mem_filter.mp h).2 other hother
  rwa [same, bne_self_eq_false, Bool.or_false] at hall

/-- How many requests waited for an answer at the moments up to the last of the calls. -/
def levels (calls : List (Call τ)) : Set ℕ :=
  {n | ∃ before, before <+: calls ∧ (unanswered before).length = n}

theorem level_mem (calls : List (Call τ)) : (unanswered calls).length ∈ levels calls :=
  ⟨calls, List.prefix_refl calls, rfl⟩

theorem levels_nil : levels ([] : List (Call τ)) = {0} := by
  ext n
  constructor
  · rintro ⟨before, hbefore, rfl⟩
    rw [List.prefix_nil.mp hbefore]
    rfl
  · rintro rfl
    exact level_mem []

theorem levels_concat (calls : List (Call τ)) (call : Call τ) :
    levels (calls ++ [call]) = insert (unanswered (calls ++ [call])).length (levels calls) := by
  ext n
  constructor
  · rintro ⟨before, hbefore, rfl⟩
    rcases List.prefix_concat_iff.mp hbefore with rfl | hbefore
    · exact Set.mem_insert _ _
    · exact Set.mem_insert_of_mem _ ⟨before, hbefore, rfl⟩
  · rintro (rfl | ⟨before, hbefore, rfl⟩)
    · exact level_mem _
    · exact ⟨before, hbefore.trans (List.prefix_append _ _), rfl⟩

end Call

/-- How the calls stand to the requests that wait for an answer. -/
structure Ledger (calls : List (Call τ)) (waiting : Multiset (Underway τ × ℕ)) : Prop where
  bound : ∀ call ∈ calls, call.index < calls.countP Call.isStart
  distinct : (waiting.map (·.1.index)).Nodup
  unanswered : (Call.unanswered calls : Multiset (Call τ)) =
    waiting.map fun h => .start h.1.index h.1.task h.1.startedAt

namespace Ledger

variable {calls : List (Call τ)} {waiting : Multiset (Underway τ × ℕ)}

theorem nil : Ledger ([] : List (Call τ)) 0 where
  bound _ h := absurd h List.not_mem_nil
  distinct := Multiset.nodup_zero
  unanswered := rfl

theorem start_mem (l : Ledger calls waiting) {h : Underway τ × ℕ} (hh : h ∈ waiting) :
    .start h.1.index h.1.task h.1.startedAt ∈ Call.unanswered calls := by
  rw [← Multiset.mem_coe, l.unanswered]
  exact Multiset.mem_map_of_mem (fun h : Underway τ × ℕ => Call.start h.1.index h.1.task h.1.startedAt) hh

theorem length_unanswered (l : Ledger calls waiting) : (Call.unanswered calls).length = waiting.card := by
  rw [← Multiset.coe_card, l.unanswered, Multiset.card_map]

theorem index_lt (l : Ledger calls waiting) {h : Underway τ × ℕ} (hh : h ∈ waiting) :
    h.1.index < calls.countP Call.isStart :=
  l.bound _ (List.mem_of_mem_filter (l.start_mem hh))

theorem start (l : Ledger calls waiting) (task : τ) (now due : ℕ) :
    Ledger (calls ++ [.start (calls.countP Call.isStart) task now])
      ((Call.next calls task now, due) ::ₘ waiting) where
  bound call h := by
    have hcount : (calls ++ [Call.start (calls.countP Call.isStart) task now]).countP Call.isStart =
        calls.countP Call.isStart + 1 := List.countP_append
    rw [hcount]
    rcases List.mem_append.mp h with h | h
    · exact Nat.lt_succ_of_lt (l.bound call h)
    · rw [List.mem_singleton.mp h]
      exact Nat.lt_succ_self _
  distinct := by
    rw [Multiset.map_cons, Multiset.nodup_cons]
    refine ⟨fun hmem => ?_, l.distinct⟩
    obtain ⟨h, hh, hindex⟩ := Multiset.mem_map.mp hmem
    exact absurd hindex (Nat.ne_of_lt (l.index_lt hh))
  unanswered := by
    have hfresh : ∀ other ∈ calls,
        other.index ≠ (Call.start (calls.countP Call.isStart) task now).index :=
      fun other hother => Nat.ne_of_lt (l.bound other hother)
    rw [Call.unanswered_start rfl hfresh, ← Multiset.coe_add, l.unanswered, Multiset.map_cons, add_comm]
    rfl

theorem finish {u : Underway τ} {due : ℕ} {others : Multiset (Underway τ × ℕ)}
    (l : Ledger calls ((u, due) ::ₘ others)) (lane now : ℕ) :
    Ledger (calls ++ [.finish lane u now]) others where
  bound call h := by
    have hcount : (calls ++ [Call.finish lane u now]).countP Call.isStart = calls.countP Call.isStart :=
      List.countP_append
    rw [hcount]
    rcases List.mem_append.mp h with h | h
    · exact l.bound call h
    · rw [List.mem_singleton.mp h]
      exact l.index_lt (Multiset.mem_cons_self _ _)
  distinct := by
    have hdistinct := l.distinct
    rw [Multiset.map_cons, Multiset.nodup_cons] at hdistinct
    exact hdistinct.2
  unanswered := by
    have hdistinct := l.distinct
    rw [Multiset.map_cons, Multiset.nodup_cons] at hdistinct
    rw [Call.unanswered_finish rfl, ← Multiset.filter_coe, l.unanswered, Multiset.map_cons,
      Multiset.filter_cons_of_neg _ (fun hne => hne rfl), Multiset.filter_eq_self]
    intro call hcall
    obtain ⟨h, hh, rfl⟩ := Multiset.mem_map.mp hcall
    intro hindex
    exact hdistinct.1 (Multiset.mem_map.mpr ⟨h, hh, hindex⟩)

end Ledger

namespace ScriptedClient

theorem calls_after_prepared (steps : List ScriptStep) (calls : List (Call Request)) :
    ((prepared steps).after calls).calls = (calls.filterMap Call.started?).map Prod.snd := by
  rw [calls_after, prepared_eq]
  rfl

namespace Traffic

variable {c : ScriptedClient} {prompt : Prop} {calls : List (Call Request)}
  {waiting : Multiset (Underway Request × ℕ)} {now : ℕ}

theorem ledger (h : Traffic c prompt calls waiting now) : Ledger calls waiting := by
  induction h with
  | opened => exact .nil
  | pass _ _ _ ih => exact ih
  | arrive _ r ih => exact ih.start r _ _
  | answer _ lane _ ih => exact ih.finish lane _

theorem inFlight_eq (h : Traffic c prompt calls waiting now) :
    (c.after calls).inFlight = c.inFlight + waiting.card := by
  induction h with
  | opened => rfl
  | pass _ _ _ ih => exact ih
  | arrive _ r ih =>
    rw [after_start, Multiset.card_cons, ← Nat.add_assoc, ← ih]
    rfl
  | answer _ lane _ ih =>
    rw [Multiset.card_cons, ← Nat.add_assoc] at ih
    rw [after_finish, release, ih]
    rfl

theorem inFlight_prepared {steps : List ScriptStep} (h : Traffic (prepared steps) prompt calls waiting now) :
    ((prepared steps).after calls).inFlight = (Call.unanswered calls).length := by
  have hnone : (prepared steps).inFlight = 0 := by rw [prepared_eq]; rfl
  rw [h.inFlight_eq, hnone, Nat.zero_add, h.ledger.length_unanswered]

/-- The greatest number of calls under way is that of the requests that waited at the fullest moment. -/
theorem peak_isGreatest (h : Traffic c prompt calls waiting now) (idle : c.inFlight = 0)
    (low : c.peak = 0) : IsGreatest (Call.levels calls) (c.after calls).peak := by
  induction h with
  | opened =>
    rw [Call.levels_nil, after_nil, low]
    exact isGreatest_singleton
  | pass _ _ _ ih => exact ih
  | arrive traffic r ih =>
    have hlevel := (traffic.arrive r).ledger.length_unanswered
    rw [Multiset.card_cons, ← Nat.zero_add (Multiset.card _), ← idle, ← traffic.inFlight_eq] at hlevel
    rw [Call.levels_concat, hlevel, after_start, receive, max_comm]
    exact ih.insert _
  | answer traffic lane elapsed ih =>
    have hlevel := traffic.ledger.length_unanswered
    rw [Multiset.card_cons, ← (traffic.answer lane elapsed).ledger.length_unanswered] at hlevel
    have hle := ih.2 (Call.level_mem _)
    rw [hlevel] at hle
    rw [Call.levels_concat, after_finish, release, ← max_eq_right (Nat.le_of_succ_le hle)]
    exact ih.insert _

end Traffic

open ScriptStep

/-- What a client that was made by the steps has on record after calls. -/
structure Accounted (steps : List ScriptStep) (prompt : Prop) (calls : List (Call Request)) : Prop where
  /-- The log holds every request once, in the order in which they came. -/
  log : calls.filterMap Call.started? = Lanes.line 0 ((prepared steps).after calls).calls
  /-- At any moment, as many calls are under way as requests came that were not answered. -/
  inFlight : ∀ before, before <+: calls →
    ((prepared steps).after before).inFlight = (Call.unanswered before).length
  /-- A call that ends was under way, whatever its answer is, so that the count never runs below zero. -/
  counted : ∀ before lane u time, before ++ [.finish lane u time] <+: calls →
    .start u.index u.task u.startedAt ∈ Call.unanswered before ∧ 0 < ((prepared steps).after before).inFlight
  /-- When all requests are answered, no call is under way. -/
  idle : (∀ i < ((prepared steps).after calls).calls.length, ∃ call ∈ calls, call.isFinish ∧ call.index = i) →
    ((prepared steps).after calls).inFlight = 0
  peak : IsGreatest (Call.levels calls) ((prepared steps).after calls).peak
  /-- What is answered, and when, is what was said last of the label. -/
  answers : ∀ before lane u time, before ++ [.finish lane u time] <+: calls →
    (worker.finish u.index u.task u.startedAt time ((prepared steps).after before)).ending =
        .returned (lastReply u.task.label steps) ∧
      u.startedAt + waitFor (lastLatency u.task.label steps) ≤ time ∧
      (prompt → time = u.startedAt + waitFor (lastLatency u.task.label steps))

theorem Traffic.accounted {steps : List ScriptStep} {prompt : Prop} {calls : List (Call Request)}
    {waiting : Multiset (Underway Request × ℕ)} {now : ℕ}
    (h : Traffic (prepared steps) prompt calls waiting now) : Accounted steps prompt calls where
  log := by
    rw [calls_after_prepared]
    exact h.started_eq
  inFlight before hbefore := by
    obtain ⟨_, _, htraffic⟩ := h.of_prefix hbefore
    exact htraffic.inFlight_prepared
  counted before lane u time hbefore := by
    obtain ⟨due, others, htraffic, -⟩ := h.of_finish hbefore
    have hstart := htraffic.ledger.start_mem (Multiset.mem_cons_self _ _)
    rw [htraffic.inFlight_prepared]
    exact ⟨hstart, List.length_pos_of_mem hstart⟩
  idle answered := by
    have hlength : ((prepared steps).after calls).calls.length = calls.countP Call.isStart := by
      rw [calls_after_prepared, List.length_map, Call.length_filterMap_started]
    rw [h.inFlight_prepared, List.length_eq_zero_iff, List.eq_nil_iff_forall_not_mem]
    intro call hcall
    obtain ⟨other, hother, hfinish, hindex⟩ :=
      answered call.index (hlength ▸ h.ledger.bound call (List.mem_of_mem_filter hcall))
    have hstart := Call.isStart_of_unanswered hcall hother hindex
    cases other with
    | start => exact Bool.false_ne_true hfinish
    | finish => exact Bool.false_ne_true hstart
  peak := by
    refine h.peak_isGreatest ?_ ?_ <;> rw [prepared_eq] <;> rfl
  answers before lane u time hbefore := by
    obtain ⟨due, others, htraffic, hover⟩ := h.of_finish hbefore
    have hmem : (u, due) ∈ (u, due) ::ₘ others := Multiset.mem_cons_self _ _
    have hdue : due = u.startedAt + waitFor (lastLatency u.task.label steps) := by
      have hdelay := htraffic.due_eq (u, due) hmem
      rwa [delay, script_prepared] at hdelay
    refine ⟨?_, hdue ▸ hover, fun hprompt => hdue ▸ Nat.le_antisymm (htraffic.le_due hprompt _ hmem) hover⟩
    change Ending.returned (((prepared steps).after before).script u.task.label).reply = _
    rw [script_after, script_prepared]

/-- However a client was made, and whatever requests come to it at whatever times, its count of the calls
under way, its peak and its log are exact, and every answer is that of the steps that spoke of its label
last. Requests may indeed come at any times, and those that are served together are one case of it. -/
theorem accounts_exact (steps : List ScriptStep) :
    (∀ label, (prepared steps).script label = ⟨lastReply label steps, lastLatency label steps⟩) ∧
    (∀ label others, others.filterMap (replyFor? label) = steps.filterMap (replyFor? label) →
      others.filterMap (latencyFor? label) = steps.filterMap (latencyFor? label) →
      (prepared others).script label = (prepared steps).script label) ∧
    (∀ prompt calls waiting now, Traffic (prepared steps) prompt calls waiting now →
      Accounted steps prompt calls ∧ ((prepared steps).after calls).inFlight = waiting.card) ∧
    (∀ schedule : List (ℕ × Request), (schedule.Pairwise fun a b => a.1 ≤ b.1) →
      ∃ calls now, Traffic (prepared steps) True calls 0 now ∧
        calls.filterMap Call.arrival? = schedule) ∧
    ∀ requests, ∃ calls now, Traffic (prepared steps) True calls 0 now ∧
      calls.filterMap Call.started? = Lanes.line 0 requests ∧
      ((prepared steps).serve requests).world = (prepared steps).after calls ∧
      ((prepared steps).serve requests).outcomes =
        requests.map fun r => .returned (lastReply r.label steps) := by
  refine ⟨script_prepared steps, ?_, ?_, ?_, ?_⟩
  · intro label others replies latencies
    rw [script_prepared, script_prepared, lastReply, lastLatency, replies, latencies]
    rfl
  · intro prompt calls waiting now traffic
    refine ⟨traffic.accounted, ?_⟩
    rw [traffic.inFlight_prepared, traffic.ledger.length_unanswered]
  · intro schedule sorted
    exact Traffic.exists_of_schedule (prepared steps) schedule sorted
  · intro requests
    obtain ⟨calls, now, traffic, hstarted, hworld, houtcomes⟩ := exists_traffic_serve (prepared steps) requests
    refine ⟨calls, now, traffic, hstarted, hworld, houtcomes.trans ?_⟩
    simp only [script_prepared]

/-- Two requests that overlap, the first of which crashes the client: their labels are `a`, for which a
latency is set twice, and `b`. -/
theorem accounts_exact_of_overlap :
    let a : Request := ⟨"a", "", ⟨"findings", .null⟩, ⟨"t", "s", none⟩⟩
    let b : Request := { a with label := "b" }
    let steps : List ScriptStep :=
      [.latency "a" 10, .latency "b" 30, .reply "a" (.crashed (.message "gone")), .latency "a" 50]
    let calls : List (Call Request) :=
      [.start 0 a 0, .start 1 b 10, .finish 0 ⟨1, b, 10⟩ 40, .finish 0 ⟨0, a, 0⟩ 50]
    Accounted steps True calls ∧ ((prepared steps).after calls).inFlight = 0 ∧
      ((prepared steps).after calls).peak = 2 ∧ ((prepared steps).after calls).calls = [a, b] ∧
      (prepared steps).script "a" = ⟨.crashed (.message "gone"), 50⟩ ∧
      (prepared [.reply "a" (.crashed (.message "gone")), .latency "a" 10, .latency "a" 50]).script "a" =
        (prepared steps).script "a" := by
  intro a b steps calls
  have hfirst : Traffic (prepared steps) True _ _ 10 :=
    ((Traffic.opened 0).arrive a).pass (by decide) (by decide)
  have hsecond : Traffic (prepared steps) True _ _ 40 := (hfirst.arrive b).pass (by decide) (by decide)
  have hanswered : Traffic (prepared steps) True _ _ 50 :=
    (hsecond.answer 0 (by decide)).pass (by decide) (by decide)
  have htraffic : Traffic (prepared steps) True calls 0 50 := hanswered.answer 0 (by decide)
  obtain ⟨hscript, hsame, haccounted, -⟩ := accounts_exact steps
  obtain ⟨h, hinFlight⟩ := haccounted True calls 0 50 htraffic
  refine ⟨h, hinFlight, rfl, rfl, ?_, ?_⟩
  · rw [hscript]
    rfl
  · exact hsame "a" _ rfl rfl

end ScriptedClient

end ReviewPanel
