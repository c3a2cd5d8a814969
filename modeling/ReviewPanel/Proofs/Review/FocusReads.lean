import Mathlib.Order.Interval.Finset.Nat
import ReviewPanel.Proofs.Log.Tally
import ReviewPanel.Proofs.Review.RegularEvents

/-! # The focus of a review

A lens tells that it reads the file in focus if the change has it, and how many lines. Nothing else of its work
depends on the focus. The number is that of the lines from the smaller to the greater bound, but it is counted in
words of 32 bits, for which all lines that have a number are too many: a lens that is to look at these breaks off
and asks nothing. -/
namespace ReviewPanel

namespace FocusTarget

/-- The number of lines from the smaller bound to the greater one. -/
def linesBetween (a b : UInt32) : ℕ := (Finset.Icc (min a.toNat b.toNat) (max a.toNat b.toNat)).card

/-- The number of lines of a file that are in focus. -/
def lines (focus : FocusTarget) (file : FileDiff) : ℕ :=
  match focus.startLine, focus.endLine with
  | some a, some b => linesBetween a b
  | some _, none => 1
  | none, some _ => 1
  | none, none => file.lineCount

/-- The words for the lines that are in focus. -/
def words (focus : FocusTarget) : String :=
  match focus.startLine, focus.endLine with
  | some a, some b => "lines " ++ toString (min a b) ++ "-" ++ toString (max a b)
  | some l, none => "line " ++ toString l
  | none, some l => "line " ++ toString l
  | none, none => "whole file"

/-- The bounds are the smallest and the greatest number of 32 bits. -/
def IsWidest (focus : FocusTarget) : Prop :=
  (focus.startLine = some 0 ∧ focus.endLine = some 4294967295) ∨
    (focus.startLine = some 4294967295 ∧ focus.endLine = some 0)

instance (focus : FocusTarget) : Decidable focus.IsWidest :=
  inferInstanceAs (Decidable ((focus.startLine = some 0 ∧ focus.endLine = some 4294967295) ∨
    (focus.startLine = some 4294967295 ∧ focus.endLine = some 0)))

theorem toNat_min_word (a b : UInt32) : (min a b).toNat = min a.toNat b.toNat := by
  change (if a ≤ b then a else b).toNat = _
  split
  · next h => exact (Nat.min_eq_left (UInt32.le_iff_toNat_le.mp h)).symm
  · next h => exact (Nat.min_eq_right (Nat.le_of_not_le (mt UInt32.le_iff_toNat_le.mpr h))).symm

theorem toNat_max_word (a b : UInt32) : (max a b).toNat = max a.toNat b.toNat := by
  change (if a ≤ b then b else a).toNat = _
  split
  · next h => exact (Nat.max_eq_right (UInt32.le_iff_toNat_le.mp h)).symm
  · next h => exact (Nat.max_eq_left (Nat.le_of_not_le (mt UInt32.le_iff_toNat_le.mpr h))).symm

theorem linesBetween_eq (a b : UInt32) : linesBetween a b = max a.toNat b.toNat - min a.toNat b.toNat + 1 := by
  rw [linesBetween, Nat.card_Icc, Nat.sub_add_comm min_le_max]

theorem linesBetween_le (a b : UInt32) : linesBetween a b ≤ 2 ^ 32 := by
  have hmax : max a.toNat b.toNat < 2 ^ 32 := max_lt a.toNat_lt b.toNat_lt
  rw [linesBetween_eq]
  omega

/-- The number of lines between two bounds as words count it. -/
theorem toNat_span (a b : UInt32) : (max a b - min a b).toNat + 1 = linesBetween a b := by
  have hle : min a b ≤ max a b := by
    rw [UInt32.le_iff_toNat_le, toNat_min_word, toNat_max_word]
    exact min_le_max
  rw [UInt32.toNat_sub_of_le _ _ hle, toNat_min_word, toNat_max_word, linesBetween_eq]

/-- Bounds are the widest if there are `2 ^ 32` lines between them. -/
theorem isWidest_iff {focus : FocusTarget} {a b : UInt32} (start : focus.startLine = some a)
    (stop : focus.endLine = some b) : focus.IsWidest ↔ linesBetween a b = 2 ^ 32 := by
  have ha : a.toNat < 2 ^ 32 := a.toNat_lt
  have hb : b.toNat < 2 ^ 32 := b.toNat_lt
  rw [IsWidest, start, stop, linesBetween_eq]
  simp only [Option.some.injEq, ← UInt32.toNat_inj, UInt32.reduceToNat]
  omega

/-- The lines in focus can be counted, unless the bounds are the widest. -/
theorem focusRange_eq (focus : FocusTarget) (file : FileDiff) :
    Lens.focusRange focus file = if focus.IsWidest then none else some (focus.lines file, focus.words) := by
  rw [Lens.focusRange, lines, words]
  cases start : focus.startLine with
  | none =>
    have hnarrow : ¬ focus.IsWidest := by simp [IsWidest, start]
    rw [if_neg hnarrow]
    cases focus.endLine <;> rfl
  | some a =>
    cases stop : focus.endLine with
    | none =>
      have hnarrow : ¬ focus.IsWidest := by simp [IsWidest, stop]
      rw [if_neg hnarrow]
    | some b =>
      have hcounted : linesBetween a b < UInt32.size ↔ ¬ linesBetween a b = 2 ^ 32 :=
        (linesBetween_le a b).lt_iff_ne
      simp only [toNat_span, hcounted, isWidest_iff start stop, ite_not]

end FocusTarget

/-- A session that tells something is otherwise what it was before. -/
theorem Session.emitAll_eq (s : Session) (now : ℕ) (trace : TraceContext) (kinds : List EventKind) :
    s.emitAll now trace kinds =
      { s with
        events := s.events ++ kinds.map (⟨Instant.ofMillis now, trace, ·⟩)
        metrics := s.metrics.plus { events := kinds.length } } := by
  induction kinds generalizing s with
  | nil => simp [emitAll]
  | cons kind rest ih =>
    have hcons : s.emitAll now trace (kind :: rest) = (s.emit now trace kind).emitAll now trace rest := rfl
    have hone : s.metrics.addEvent.plus { events := rest.length } =
        s.metrics.plus { events := (kind :: rest).length } := by
      rw [Metrics.addEvent_eq, Metrics.plus_plus, List.length_cons, Nat.add_comm]
      rfl
    rw [hcons, ih]
    simp only [emit, hone, List.append_assoc]
    rfl

namespace Lens

/-- The lenses of a review break off exactly if the change has the file in focus and the bounds are the widest. -/
theorem overflows_iff {diff : Diff} {context : ReviewContext} :
    overflows diff context = true ↔ ∃ focus file, context.focus = some focus ∧
      diff.findFile focus.file = some file ∧ focus.IsWidest := by
  rw [overflows, focusFile]
  cases context.focus with
  | none => simp
  | some focus =>
    simp only [Option.bind_eq_bind, Option.bind_some]
    cases hfile : diff.findFile focus.file with
    | none => simp [hfile]
    | some file => by_cases hwidest : focus.IsWidest <;> simp [hfile, FocusTarget.focusRange_eq, hwidest]

variable (lens : Lens) (diff : Diff) (context : ReviewContext) (trace : TraceContext) (s : Session)

/-- What a lens tells of its look at a file: that it uses the tool, for which lines of which file, and how many lines
of the file it has read. -/
def readEvents (focus : FocusTarget) (file : FileDiff) : List EventKind :=
  let line (l : Option UInt32) : Json := (l.map Json.ofWord).getD .null
  [.toolCall lens.agent "read_file" (.object
      [("endLine", line focus.endLine), ("path", .text file.path), ("startLine", line focus.startLine)]),
    .toolResult lens.agent "read_file" ("Read " ++ toString (focus.lines file) ++ " lines from " ++ file.path ++
      " (" ++ focus.words ++ ")")]

theorem focusEvents_eq (focus : FocusTarget) (file : FileDiff) :
    focusEvents lens.agent focus file = if focus.IsWidest then [] else lens.readEvents focus file := by
  rw [focusEvents, FocusTarget.focusRange_eq]
  by_cases hwidest : focus.IsWidest
  · rw [if_pos hwidest, if_pos hwidest]
  · rw [if_neg hwidest, if_neg hwidest, readEvents]
    simp only [canonical_lines file.path (isArgument_line focus.startLine) (isArgument_line focus.endLine)]
    rfl

/-- What a lens tells of its look at the focus. -/
def looks (diff : Diff) (focus : FocusTarget) : List EventKind :=
  match diff.findFile focus.file with
  | some file => if focus.IsWidest then [] else lens.readEvents focus file
  | none => []

theorem opening_unfocused :
    lens.opening diff { context with focus := none } = [.agentThinking lens.agent (lens.thought diff)] := rfl

theorem opening_focused (focus : FocusTarget) :
    lens.opening diff { context with focus := some focus } =
      .agentThinking lens.agent (lens.thought diff) :: lens.looks diff focus := by
  rw [opening, looks, focusFile]
  simp only [Option.bind_eq_bind, Option.bind_some]
  cases diff.findFile focus.file with
  | none => rfl
  | some file => exact congrArg (_ :: ·) (lens.focusEvents_eq focus file)

/-- A lens that works by itself asks the model once, and tells nothing after its opening. -/
theorem run_of_not_overflows (counted : overflows diff context = false) :
    let kinds := lens.opening diff context
    let durationMs := lens.duration s.client.script
    lens.run diff context trace s =
      (lens.ending s.client.script,
        { client := (s.client.receive (lens.request diff context trace)).release
          ids := s.ids
          metrics := s.metrics.plus { events := kinds.length }
          events := s.events ++ kinds.map (⟨Instant.ofMillis s.clock, trace, ·⟩)
          log := s.log ++ (lens.conclude durationMs (s.client.script lens.id.name).reply).2
          clock := s.clock + durationMs }) := by
  intro kinds durationMs
  have hdelay : s.client.delay lens.id.name = durationMs := rfl
  simp only [run, begin_of_not_overflows lens trace s.clock s counted, complete, counted, Session.emitAll_eq,
    hdelay, Nat.add_sub_cancel_left]
  rfl

/-- A lens that breaks off has told its opening, and has done nothing else. -/
theorem run_of_overflows (uncounted : overflows diff context = true) :
    let kinds := lens.opening diff context
    lens.run diff context trace s =
      (.crashed .overflow, { s with
        metrics := s.metrics.plus { events := kinds.length }
        events := s.events ++ kinds.map (⟨Instant.ofMillis s.clock, trace, ·⟩) }) := by
  intro kinds
  simp only [run, begin_of_overflows lens trace s.clock s uncounted, complete, uncounted, Session.emitAll_eq]
  rfl

/-- A focus adds to the work of a lens the events of a look at the file in focus, if the change has it, and nothing
else. The look is at the file that is found, and the number of its lines is told; but if the bounds are the widest,
the lens breaks off in place of the look, and leaves all as it was when it began. -/
theorem run_focused (focus : FocusTarget) :
    let focused := lens.run diff { context with focus := some focus } trace s
    let unfocused := lens.run diff { context with focus := none } trace s
    let told (kinds : List EventKind) : List Event := kinds.map (⟨Instant.ofMillis s.clock, trace, ·⟩)
    let thinking : EventKind := .agentThinking lens.agent (lens.thought diff)
    unfocused.2.events = s.events ++ told [thinking] ∧
    unfocused.2.client.calls = s.client.calls ++ [lens.request diff context trace] ∧
    (diff.findFile focus.file = none → focused = unfocused) ∧
    ∀ file, diff.findFile focus.file = some file →
      (¬ focus.IsWidest → focused = (unfocused.1,
        { unfocused.2 with
          events := unfocused.2.events ++ told (lens.readEvents focus file)
          metrics := unfocused.2.metrics.plus { events := 2 } })) ∧
      (focus.IsWidest → focused = (.crashed .overflow,
        { s with
          events := s.events ++ told [thinking]
          metrics := s.metrics.plus { events := 1 } })) := by
  intro focused unfocused told thinking
  have hunfocused := lens.run_of_not_overflows diff { context with focus := none } trace s rfl
  have hunfound (hnone : diff.findFile focus.file = none) :
      overflows diff { context with focus := some focus } = false := by
    rw [Bool.eq_false_iff, Ne, overflows_iff]
    simp [hnone]
  have hfound {file : FileDiff} (hfile : diff.findFile focus.file = some file) :
      overflows diff { context with focus := some focus } = true ↔ focus.IsWidest := by
    rw [overflows_iff]
    simp [hfile]
  refine ⟨congrArg (·.2.events) hunfocused, congrArg (·.2.client.calls) hunfocused, fun hnone => ?_,
    fun file hfile => ⟨fun hnarrow => ?_, fun hwidest => ?_⟩⟩
  · have hfocused := lens.run_of_not_overflows diff _ trace s (hunfound hnone)
    rw [opening_focused, looks, hnone] at hfocused
    exact hfocused.trans hunfocused.symm
  · have hcounted := Bool.eq_false_iff.mpr (mt (hfound hfile).mp hnarrow)
    have hfocused := lens.run_of_not_overflows diff _ trace s hcounted
    have hthree : (s.metrics.plus { events := 0 + 1 }).plus { events := 2 } =
        s.metrics.plus { events := (lens.readEvents focus file).length + 1 } := Metrics.plus_plus _ _ _
    simp only [opening_focused, looks, hfile, if_neg hnarrow, List.map_cons, List.length_cons] at hfocused
    simp only [focused, unfocused, hfocused, hunfocused, opening_unfocused, List.map_cons, List.map_nil,
      List.length_cons, List.length_nil, List.append_assoc, hthree]
    rfl
  · have hfocused := lens.run_of_overflows diff _ trace s ((hfound hfile).mpr hwidest)
    rw [opening_focused, looks, hfile] at hfocused
    simp only [if_pos hwidest] at hfocused
    exact hfocused

section Pool

/-- A change of a file whose bounds may be in focus. -/
def poolFile : FileDiff := .ofRaw "src/pool.rs" .modify "+fn take();\n"

def poolFocus (a b : UInt32) : FocusTarget := ⟨"./src/pool.rs", some a, some b⟩

theorem findFile_poolFocus (a b : UInt32) :
    (Diff.ofFiles [poolFile]).findFile (poolFocus a b).file = some poolFile := by
  change (Diff.ofFiles [poolFile]).findFile "./src/pool.rs" = some poolFile
  decide

/-- Ten lines are read of a file whose bounds stand the wrong way round. -/
theorem run_focused_of_reversed_bounds :
    let lens := ofId .tests
    let focus := poolFocus 12 3
    let run (focus : Option FocusTarget) :=
      lens.run (.ofFiles [poolFile]) ⟨none, focus⟩ ⟨"", "", none⟩ (.new .new .counting)
    (Diff.ofFiles [poolFile]).findFile focus.file = some poolFile ∧ ¬ focus.IsWidest ∧
      focus.lines poolFile = 10 ∧ focus.words = "lines 3-12" ∧
      (run (some focus)).1 = (run none).1 ∧ (run (some focus)).2.client.calls = (run none).2.client.calls ∧
      (run (some focus)).2.events = (run none).2.events ++
        (lens.readEvents focus poolFile).map (⟨Instant.ofMillis 0, ⟨"", "", none⟩, ·⟩) := by
  intro lens focus run
  have hfile := findFile_poolFocus 12 3
  have hnarrow : ¬ focus.IsWidest := by decide
  obtain ⟨-, -, -, hfound⟩ :=
    run_focused lens (.ofFiles [poolFile]) ⟨none, none⟩ ⟨"", "", none⟩ (.new .new .counting) focus
  have hrun : run (some focus) = _ := (hfound poolFile hfile).1 hnarrow
  exact ⟨hfile, hnarrow, by decide, by decide, congrArg (·.1) hrun, congrArg (·.2.client.calls) hrun,
    congrArg (·.2.events) hrun⟩

/-- A lens that is to look at all lines which have a number of 32 bits breaks off: there is no report, nothing is
told of the look, and the model is not asked. -/
theorem focus_on_all_lines :
    let focus := poolFocus 0 4294967295
    let run (focus : Option FocusTarget) :=
      (ofId .tests).run (.ofFiles [poolFile]) ⟨none, focus⟩ ⟨"", "", none⟩ (.new .new .counting)
    focus.lines poolFile = 4294967296 ∧
      (run (some focus)).1 = .crashed (.message "attempt to add with overflow") ∧
      (∃ r, (run none).1 = .returned r) ∧
      (run (some focus)).2.events = (run none).2.events ∧
      (run (some focus)).2.client.calls = [] ∧ (run none).2.client.calls.map (·.label) = ["tests"] := by
  intro focus run
  have hcount : focus.lines poolFile = 4294967296 := Nat.card_Icc 0 4294967295
  have hwidest : overflows (.ofFiles [poolFile]) ⟨none, some focus⟩ = true :=
    overflows_iff.mpr ⟨focus, poolFile, rfl, findFile_poolFocus _ _, by decide⟩
  have hfocused : run (some focus) = _ :=
    (ofId .tests).run_of_overflows (.ofFiles [poolFile]) ⟨none, some focus⟩ ⟨"", "", none⟩ (.new .new .counting)
      hwidest
  have hunfocused : run none = _ :=
    (ofId .tests).run_of_not_overflows (.ofFiles [poolFile]) ⟨none, none⟩ ⟨"", "", none⟩ (.new .new .counting)
      rfl
  have htold : (ofId .tests).opening (.ofFiles [poolFile]) ⟨none, some focus⟩ =
      [.agentThinking (ofId .tests).agent ((ofId .tests).thought (.ofFiles [poolFile]))] := by
    rw [(ofId .tests).opening_focused (.ofFiles [poolFile]) ⟨none, none⟩ focus, looks, findFile_poolFocus]
    rfl
  rw [hfocused, hunfocused, htold]
  exact ⟨hcount, rfl, ⟨_, rfl⟩, rfl, rfl, rfl⟩

end Pool

end Lens

end ReviewPanel
