import ReviewPanel.Proofs.Concurrent.PoolAccounting
import ReviewPanel.Review.Orchestrate

/-! # Lenses as tasks

What the lenses of a run tell, how long they are at work and how they end follows from the calls of the
worker and from the script of the client, which no call changes. -/
namespace ReviewPanel

namespace Session

@[simp] theorem client_emit (s : Session) (now : Nat) (trace : TraceContext) (kind : EventKind) :
    (s.emit now trace kind).client = s.client := rfl

@[simp] theorem events_emit (s : Session) (now : Nat) (trace : TraceContext) (kind : EventKind) :
    (s.emit now trace kind).events = s.events ++ [⟨Instant.ofMillis now, trace, kind⟩] := rfl

theorem client_emitAll (s : Session) (now : Nat) (trace : TraceContext) (kinds : List EventKind) :
    (s.emitAll now trace kinds).client = s.client := by
  induction kinds generalizing s with
  | nil => rfl
  | cons kind rest ih => exact ih (s.emit now trace kind)

theorem events_emitAll (s : Session) (now : Nat) (trace : TraceContext) (kinds : List EventKind) :
    (s.emitAll now trace kinds).events = s.events ++ kinds.map (⟨Instant.ofMillis now, trace, ·⟩) := by
  induction kinds generalizing s with
  | nil => exact (List.append_nil _).symm
  | cons kind rest ih =>
    rw [List.map_cons, List.append_cons]
    exact ih (s.emit now trace kind)

end Session

theorem Token.cancelIf_cancelIf (t : Token) (a b : Bool) : (t.cancelIf a).cancelIf b = t.cancelIf (a || b) := by
  cases a <;> cases b <;> rfl

namespace ScriptedClient

/-- The call that cancels the run has come by the time that the client is in a later state. -/
def cancelsBefore (c later : ScriptedClient) : Bool :=
  c.cancellingCall.any fun n => decide (c.calls.length < n) && decide (n ≤ later.calls.length)

theorem cancelsBefore_trans {c mid later : ScriptedClient} (same : mid.cancellingCall = c.cancellingCall)
    (hmid : c.calls.length ≤ mid.calls.length) (hlater : mid.calls.length ≤ later.calls.length) :
    c.cancelsBefore later = (c.cancelsBefore mid || mid.cancelsBefore later) := by
  rw [cancelsBefore, cancelsBefore, cancelsBefore, same]
  cases c.cancellingCall with
  | none => rfl
  | some n =>
    simp only [Option.any_some]
    rw [Bool.eq_iff_iff]
    simp only [Bool.and_eq_true, Bool.or_eq_true, decide_eq_true_eq]
    omega

/-- A client that gets no call cancels nothing. -/
theorem cancelsBefore_of_eq {c later : ScriptedClient} (h : later.calls = c.calls) :
    c.cancelsBefore later = false := by
  rw [cancelsBefore, h]
  cases c.cancellingCall with
  | none => rfl
  | some n =>
    simp only [Option.any_some, Bool.and_eq_false_iff, decide_eq_false_iff_not]
    omega

theorem cancelsBefore_receive (c : ScriptedClient) (r : Request) :
    c.cancelsBefore (c.receive r) = c.nextCancels := by
  have hlength : (c.receive r).calls.length = c.calls.length + 1 := List.length_append
  rw [cancelsBefore, hlength, nextCancels]
  cases c.cancellingCall with
  | none => rfl
  | some n =>
    rw [Option.any_some, Bool.eq_iff_iff]
    simp only [Bool.and_eq_true, decide_eq_true_eq, beq_iff_eq, Option.some.injEq]
    omega

end ScriptedClient

namespace Lens

/-- How long a lens is at work when the model answers by a script. -/
def duration (lens : Lens) (script : String → Script) : Nat := waitFor (script lens.id.name).latency

/-- How a lens ends that was at work for some time. -/
def endingAfter (lens : Lens) (durationMs : Nat) (script : String → Script) : Ending LensReport ReviewError :=
  (lens.conclude durationMs (script lens.id.name).reply).1

def ending (lens : Lens) (script : String → Script) : Ending LensReport ReviewError :=
  lens.endingAfter (lens.duration script) script

/-- What the lenses of a review get in answer. Those that break off before they ask are as lenses whose model
crashes at once. -/
def answers (diff : Diff) (context : ReviewContext) (script : String → Script) : String → Script :=
  if overflows diff context then fun _ => ⟨.crashed .overflow, 0⟩ else script

variable {diff : Diff} {context : ReviewContext}

theorem answers_of_overflows (h : overflows diff context = true) (script : String → Script) :
    answers diff context script = fun _ => ⟨.crashed .overflow, 0⟩ := if_pos h

theorem answers_of_not_overflows (h : overflows diff context = false) (script : String → Script) :
    answers diff context script = script := if_neg (Bool.eq_false_iff.mp h)

/-- A lens that gets anything but the crash got it from the model. -/
theorem reply_of_answers {script : String → Script} {label : String} {reply : Ending Json ReviewError}
    (h : (answers diff context script label).reply = reply) (uncrashed : reply ≠ .crashed .overflow) :
    (script label).reply = reply := by
  cases hover : overflows diff context with
  | true =>
    rw [answers_of_overflows hover] at h
    exact absurd h.symm uncrashed
  | false => rwa [answers_of_not_overflows hover] at h

/-- What a lens asks the model when it begins. -/
def requests (lens : Lens) (diff : Diff) (context : ReviewContext) (trace : TraceContext) : List Request :=
  if overflows diff context then [] else [lens.request diff context trace]

section Begin

variable (lens : Lens) (trace : TraceContext) (now : Nat) (s : Session)

theorem begin_of_overflows (h : overflows diff context = true) :
    lens.begin diff context trace now s = ⟨s.emitAll now trace (lens.opening diff context), 0, false⟩ := if_pos h

theorem begin_of_not_overflows (h : overflows diff context = false) :
    lens.begin diff context trace now s =
      { world := { s.emitAll now trace (lens.opening diff context) with
          client := s.client.receive (lens.request diff context trace) }
        latency := s.client.delay lens.id.name
        cancels := s.client.nextCancels } := by
  rw [begin, if_neg (Bool.eq_false_iff.mp h), Session.client_emitAll]

theorem script_begin : (lens.begin diff context trace now s).world.client.script = s.client.script := by
  cases h : overflows diff context with
  | true => rw [begin_of_overflows lens trace now s h, Session.client_emitAll]
  | false =>
    rw [begin_of_not_overflows lens trace now s h]
    rfl

theorem events_begin : (lens.begin diff context trace now s).world.events =
    s.events ++ (lens.opening diff context).map (⟨Instant.ofMillis now, trace, ·⟩) := by
  cases h : overflows diff context with
  | true => rw [begin_of_overflows lens trace now s h, Session.events_emitAll]
  | false =>
    rw [begin_of_not_overflows lens trace now s h]
    exact Session.events_emitAll s now trace _

theorem latency_begin : (lens.begin diff context trace now s).latency =
    lens.duration (answers diff context s.client.script) := by
  cases h : overflows diff context with
  | true =>
    rw [begin_of_overflows lens trace now s h, answers_of_overflows h]
    rfl
  | false =>
    rw [begin_of_not_overflows lens trace now s h, answers_of_not_overflows h]
    rfl

theorem calls_begin :
    let after := (lens.begin diff context trace now s).world.client
    after.calls = s.client.calls ++ lens.requests diff context trace ∧
      after.cancellingCall = s.client.cancellingCall := by
  cases h : overflows diff context with
  | true =>
    rw [begin_of_overflows lens trace now s h, requests, h, Session.client_emitAll]
    exact ⟨(List.append_nil _).symm, rfl⟩
  | false =>
    rw [begin_of_not_overflows lens trace now s h, requests, h]
    exact ⟨rfl, rfl⟩

theorem cancels_begin :
    let begun := lens.begin diff context trace now s
    begun.cancels = s.client.cancelsBefore begun.world.client := by
  cases h : overflows diff context with
  | true =>
    rw [begin_of_overflows lens trace now s h]
    exact (ScriptedClient.cancelsBefore_of_eq (congrArg _ (Session.client_emitAll s now trace _))).symm
  | false =>
    rw [begin_of_not_overflows lens trace now s h]
    exact (ScriptedClient.cancelsBefore_receive _ _).symm

end Begin

/-- A lens that completes ends as it is answered, and nothing changes but the log and the number of calls under
way. -/
theorem complete_eq (lens : Lens) (diff : Diff) (context : ReviewContext) (startedAt now : Nat) (s : Session) :
    ∃ inFlight records, lens.complete diff context startedAt now s =
      (lens.endingAfter (now - startedAt) (answers diff context s.client.script),
        { s with client := { s.client with inFlight }, log := s.log ++ records }) := by
  cases h : overflows diff context with
  | true =>
    refine ⟨s.client.inFlight, [], ?_⟩
    rw [complete, if_pos h, answers_of_overflows h, List.append_nil]
    rfl
  | false =>
    refine ⟨s.client.inFlight - 1, (lens.conclude (now - startedAt) (s.client.script lens.id.name).reply).2, ?_⟩
    rw [complete, if_neg (Bool.eq_false_iff.mp h), answers_of_not_overflows h]
    rfl

/-- A lens ends in a run as it does by itself. -/
theorem fst_run (lens : Lens) (diff : Diff) (context : ReviewContext) (trace : TraceContext) (s : Session) :
    (lens.run diff context trace s).1 = lens.ending (answers diff context s.client.script) := by
  obtain ⟨inFlight, records, hcomplete⟩ := lens.complete_eq diff context s.clock
    (s.clock + (lens.begin diff context trace s.clock s).latency)
    (lens.begin diff context trace s.clock s).world
  refine (congrArg Prod.fst hcomplete).trans ?_
  rw [script_begin, latency_begin, Nat.add_sub_cancel_left]
  rfl

theorem fst_run_of_overflows (h : overflows diff context = true) (lens : Lens) (trace : TraceContext)
    (s : Session) : (lens.run diff context trace s).1 = .crashed .overflow := by
  rw [fst_run, answers_of_overflows h]
  rfl

theorem fst_run_of_not_overflows (h : overflows diff context = false) (lens : Lens) (trace : TraceContext)
    (s : Session) : (lens.run diff context trace s).1 = lens.ending s.client.script := by
  rw [fst_run, answers_of_not_overflows h]

end Lens

namespace LensTask

/-- What is told during a call, when the lenses are answered by a script. -/
def told (diff : Diff) (context : ReviewContext) (script : String → Script) : Call LensTask → List Event
  | .start _ t time => (.agentStart t.lens.agent :: t.lens.opening diff context).map
      (⟨Instant.ofMillis time, t.trace, ·⟩)
  | .finish _ u time => [⟨Instant.ofMillis time, u.task.trace,
      closing u.task.lens.agent (u.task.lens.endingAfter (time - u.startedAt) script)⟩]

variable {diff : Diff} {context : ReviewContext} {failFast : Bool}

open Lens (answers)

/-- At the end of a lens it is told how it ended, and nothing changes but the log and the number of calls under
way. -/
theorem perform_finish (failFast : Bool) (s : Session) (token : Token) (lane : Nat) (u : Underway LensTask)
    (time : Nat) :
    let ending := u.task.lens.endingAfter (time - u.startedAt) (answers diff context s.client.script)
    ∃ inFlight records, (worker diff context failFast).perform (s, token) (.finish lane u time) =
      ({ s.emit time u.task.trace (closing u.task.lens.agent ending) with
          client := { s.client with inFlight }, log := s.log ++ records },
        token.cancelIf (failFast && hasFailed ending)) := by
  intro ending
  obtain ⟨inFlight, records, hcomplete⟩ := u.task.lens.complete_eq diff context u.startedAt time s
  simp only [Worker.perform, worker, finish, hcomplete]
  split
  · exact ⟨inFlight, records ++ _, by simp only [Session.note, Session.emit, List.append_assoc]; rfl⟩
  · exact ⟨inFlight, records, rfl⟩

theorem script_perform (s : Session) (token : Token) (c : Call LensTask) :
    ((worker diff context failFast).perform (s, token) c).1.client.script = s.client.script := by
  cases c with
  | start index t time => exact t.lens.script_begin t.trace time (s.emit time t.trace (.agentStart t.lens.agent))
  | finish lane u time =>
    obtain ⟨inFlight, records, hperform⟩ := perform_finish failFast s token lane u time
    rw [hperform]
    rfl

theorem events_perform (s : Session) (token : Token) (c : Call LensTask) :
    ((worker diff context failFast).perform (s, token) c).1.events
      = s.events ++ told diff context (answers diff context s.client.script) c := by
  cases c with
  | start index t time =>
    refine (t.lens.events_begin t.trace time (s.emit time t.trace (.agentStart t.lens.agent))).trans ?_
    rw [Session.events_emit, List.append_assoc]
    rfl
  | finish lane u time =>
    obtain ⟨inFlight, records, hperform⟩ := perform_finish failFast s token lane u time
    rw [hperform]
    rfl

/-- What the model is asked during a call. -/
def asked (diff : Diff) (context : ReviewContext) : Call LensTask → List Request
  | .start _ t _ => t.lens.requests diff context t.trace
  | .finish _ _ _ => []

/-- The lens of a call comes to its end without a report. -/
def fails (script : String → Script) : Call LensTask → Bool
  | .start _ _ _ => false
  | .finish _ u time => hasFailed (u.task.lens.endingAfter (time - u.startedAt) script)

theorem calls_perform (s : Session) (token : Token) (c : Call LensTask) :
    let after := ((worker diff context failFast).perform (s, token) c).1.client
    after.calls = s.client.calls ++ asked diff context c ∧ after.cancellingCall = s.client.cancellingCall := by
  cases c with
  | start index t time => exact t.lens.calls_begin t.trace time (s.emit time t.trace (.agentStart t.lens.agent))
  | finish lane u time =>
    obtain ⟨inFlight, records, hperform⟩ := perform_finish failFast s token lane u time
    rw [hperform]
    exact ⟨(List.append_nil _).symm, rfl⟩

/-- Nothing cancels a run but the client, and a failure when the run is to end with the first one. -/
theorem token_perform (s : Session) (token : Token) (c : Call LensTask) :
    let after := (worker diff context failFast).perform (s, token) c
    after.2 = token.cancelIf (s.client.cancelsBefore after.1.client ||
      failFast && fails (answers diff context s.client.script) c) := by
  cases c with
  | start index t time =>
    simp only [fails, Bool.and_false, Bool.or_false]
    exact congrArg token.cancelIf
      (t.lens.cancels_begin t.trace time (s.emit time t.trace (.agentStart t.lens.agent)))
  | finish lane u time =>
    intro after
    have hcalls : after.1.client.calls = s.client.calls ++ [] := (calls_perform s token _).1
    rw [List.append_nil] at hcalls
    obtain ⟨inFlight, records, hperform⟩ := perform_finish failFast s token lane u time
    rw [ScriptedClient.cancelsBefore_of_eq hcalls, Bool.false_or]
    exact congrArg Prod.snd hperform

theorem calls_performAll (s : Session) (token : Token) (calls : List (Call LensTask)) :
    let after := ((worker diff context failFast).performAll (s, token) calls).1.client
    after.calls = s.client.calls ++ calls.flatMap (asked diff context) ∧
      after.cancellingCall = s.client.cancellingCall := by
  induction calls generalizing s token with
  | nil => exact ⟨(List.append_nil _).symm, rfl⟩
  | cons c rest ih =>
    let after := (worker diff context failFast).perform (s, token) c
    obtain ⟨hcalls, hcancelling⟩ : after.1.client.calls = _ ∧ _ := calls_perform s token c
    obtain ⟨hrest, hrestCancelling⟩ := ih after.1 after.2
    rw [hcalls, List.append_assoc] at hrest
    exact ⟨hrest, hrestCancelling.trans hcancelling⟩

theorem script_performAll (s : Session) (token : Token) (calls : List (Call LensTask)) :
    ((worker diff context failFast).performAll (s, token) calls).1.client.script = s.client.script := by
  induction calls generalizing s token with
  | nil => rfl
  | cons c rest ih =>
    rw [Worker.performAll_cons]
    exact (ih _ _).trans (script_perform s token c)

/-- A run is cancelled if the client has done so, or if it was to end with the first failure and there was
one. -/
theorem token_performAll (s : Session) (token : Token) (calls : List (Call LensTask)) :
    let after := (worker diff context failFast).performAll (s, token) calls
    after.2 = token.cancelIf
      (s.client.cancelsBefore after.1.client ||
        failFast && calls.any (fails (answers diff context s.client.script))) := by
  induction calls generalizing s token with
  | nil =>
    change token = token.cancelIf (s.client.cancelsBefore s.client || failFast && false)
    rw [ScriptedClient.cancelsBefore_of_eq rfl, Bool.and_false]
    rfl
  | cons c rest ih =>
    let mid := (worker diff context failFast).perform (s, token) c
    let after := (worker diff context failFast).performAll mid rest
    obtain ⟨hcalls, hcancelling⟩ : mid.1.client.calls = _ ∧ _ := calls_perform s token c
    have hrest : after.1.client.calls = _ := (calls_performAll mid.1 mid.2 rest).1
    have hclient : s.client.cancelsBefore after.1.client =
        (s.client.cancelsBefore mid.1.client || mid.1.client.cancelsBefore after.1.client) := by
      apply ScriptedClient.cancelsBefore_trans hcancelling
      · rw [hcalls, List.length_append]
        exact Nat.le_add_right _ _
      · rw [hrest, List.length_append]
        exact Nat.le_add_right _ _
    have hscript : mid.1.client.script = s.client.script := script_perform s token c
    have hmid : mid.2 = token.cancelIf
        (s.client.cancelsBefore mid.1.client || failFast && fails (answers diff context s.client.script) c) :=
      token_perform s token c
    have hafter : after.2 = mid.2.cancelIf
        (mid.1.client.cancelsBefore after.1.client ||
          failFast && rest.any (fails (answers diff context mid.1.client.script))) := ih mid.1 mid.2
    rw [hscript, hmid, Token.cancelIf_cancelIf] at hafter
    refine hafter.trans (congrArg token.cancelIf ?_)
    change _ = (s.client.cancelsBefore after.1.client || _)
    rw [hclient, List.any_cons, Bool.and_or_distrib_left]
    ac_rfl

theorem token_performAll_of_quiet {s : Session} (quiet : s.client.cancellingCall = none) (token : Token)
    (calls : List (Call LensTask)) : ((worker diff context false).performAll (s, token) calls).2 = token := by
  rw [token_performAll, ScriptedClient.cancelsBefore, quiet, Option.any_none, Bool.false_and, Bool.or_false]
  rfl

theorem events_performAll (s : Session) (token : Token) (calls : List (Call LensTask)) :
    ((worker diff context failFast).performAll (s, token) calls).1.events
      = s.events ++ calls.flatMap (told diff context (answers diff context s.client.script)) := by
  induction calls generalizing s token with
  | nil => exact (List.append_nil _).symm
  | cons c rest ih =>
    let after := (worker diff context failFast).perform (s, token) c
    have hrest := ih after.1 after.2
    rw [script_perform, events_perform, List.append_assoc] at hrest
    exact hrest

theorem latency_worker (u : Underway LensTask) (s : Session) :
    (worker diff context failFast).latency u s = u.task.lens.duration (answers diff context s.client.script) :=
  u.task.lens.latency_begin u.task.trace u.startedAt
    (s.emit u.startedAt u.task.trace (.agentStart u.task.lens.agent))

theorem settled_worker (u : Underway LensTask) (time : Nat) (s : Session) :
    (worker diff context failFast).settled u time s =
      (timed (time - u.startedAt) (u.task.lens.endingAfter (time - u.startedAt)
        (answers diff context s.client.script))).settled := by
  obtain ⟨inFlight, records, hcomplete⟩ := u.task.lens.complete_eq diff context u.startedAt time s
  simp only [Worker.settled, worker, finish, hcomplete]

end LensTask

end ReviewPanel
