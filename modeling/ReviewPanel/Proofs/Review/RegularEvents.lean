import ReviewPanel.Proofs.Event.Calendar
import ReviewPanel.Proofs.Event.Decoding
import ReviewPanel.Proofs.Review.PlannedLenses
import ReviewPanel.Proofs.Review.ReviewCourse

/-! # The events of a review are regular

A review gives nothing but objects of arguments to tools, and its times are those of a clock. Its events are
therefore read back as long as their numbers have 64 bits and the year has four digits. -/
namespace ReviewPanel

theorem IsArgument.canonical_eq {j : Json} (h : IsArgument j) : j.canonical = j := by
  cases j with
  | null => rfl
  | text s => rfl
  | number n =>
    cases n with
    | integer i => rfl
    | _ => exact h.elim
  | _ => exact h.elim

/-- A line, or nothing, is an argument. -/
theorem isArgument_line (line : Option UInt32) : IsArgument ((line.map Json.ofWord).getD .null) := by
  cases line with
  | none => trivial
  | some l =>
    have hlt : l.toNat < 2 ^ 32 := l.toNat_lt
    exact ⟨by omega, by omega⟩

namespace Lens

theorem canonical_lines (path : String) {first last : Json} (hfirst : IsArgument first) (hlast : IsArgument last) :
    Json.canonical (.object [("path", .text path), ("startLine", first), ("endLine", last)]) =
      .object [("endLine", last), ("path", .text path), ("startLine", first)] := by
  have hpath : "endLine" < "path" := by decide
  have hstart : "path" < "startLine" := by decide
  simp only [Json.canonical, Json.canonicalEntries, hfirst.canonical_eq, hlast.canonical_eq, Json.sorted,
    List.foldl_cons, List.foldl_nil, Json.insert, hstart.asymm, hstart.ne', hpath, hpath.ne, if_true, if_false]

/-- What a lens gives to its tool: the path of a file, and the first and the last line or nothing. -/
theorem toolInput_lines (path : String) {first last : Json} (hfirst : IsArgument first) (hlast : IsArgument last) :
    ToolInput (Json.canonical (.object [("path", .text path), ("startLine", first), ("endLine", last)])) := by
  have hpath : "endLine" < "path" := by decide
  have hstart : "path" < "startLine" := by decide
  have hend : "endLine" < "startLine" := by decide
  rw [canonical_lines path hfirst hlast]
  constructor
  · refine .cons ?_ (.cons ?_ (.cons (List.forall_mem_nil _) .nil))
    · exact List.forall_mem_cons.mpr ⟨hpath, List.forall_mem_cons.mpr ⟨hend, List.forall_mem_nil _⟩⟩
    · exact List.forall_mem_cons.mpr ⟨hstart, List.forall_mem_nil _⟩
  · refine List.forall_mem_cons.mpr ⟨hlast, List.forall_mem_cons.mpr ⟨trivial, ?_⟩⟩
    exact List.forall_mem_cons.mpr ⟨hfirst, List.forall_mem_nil _⟩

theorem hasToolInput_of_mem_opening {lens : Lens} {diff : Diff} {context : ReviewContext} {kind : EventKind}
    (h : kind ∈ lens.opening diff context) : kind.HasToolInput := by
  rw [opening] at h
  rcases List.mem_cons.mp h with rfl | h
  · trivial
  cases hfocus : focusFile diff context with
  | none =>
    rw [hfocus] at h
    cases h
  | some found =>
    simp only [hfocus, focusEvents] at h
    cases hrange : focusRange found.1 found.2 with
    | none =>
      rw [hrange] at h
      cases h
    | some range =>
      rw [hrange] at h
      rcases List.mem_cons.mp h with rfl | h
      · exact toolInput_lines _ (isArgument_line _) (isArgument_line _)
      · rw [List.mem_singleton.mp h]
        trivial

end Lens

namespace LensTask

variable {diff : Diff} {context : ReviewContext} {script : String → Script}

theorem hasToolInput_closing (agent : AgentRef) (ending : Ending LensReport ReviewError) :
    (closing agent ending).HasToolInput := by
  cases ending <;> trivial

theorem hasToolInput_of_mem_told {c : Call LensTask} {event : Event} (h : event ∈ told diff context script c) :
    event.kind.HasToolInput ∧ ∃ now, event.timestamp = .ofMillis now := by
  cases c with
  | start index t time =>
    obtain ⟨kind, hkind, rfl⟩ := List.mem_map.mp h
    refine ⟨?_, time, rfl⟩
    rcases List.mem_cons.mp hkind with rfl | hkind
    · trivial
    · exact Lens.hasToolInput_of_mem_opening hkind
  | finish lane u time =>
    rw [List.mem_singleton.mp h]
    exact ⟨hasToolInput_closing _ _, time, rfl⟩

end LensTask

namespace Session

theorem hasToolInput_of_mem_openingEvents {root : TraceContext} {lenses : List Lens} {concurrency now : Nat}
    {event : Event} (h : event ∈ openingEvents root lenses concurrency now) :
    event.kind.HasToolInput ∧ ∃ now, event.timestamp = .ofMillis now := by
  obtain ⟨kind, hkind, rfl⟩ := List.mem_map.mp h
  refine ⟨?_, now, rfl⟩
  rcases List.mem_cons.mp hkind with rfl | hkind
  · trivial
  · obtain ⟨p, -, rfl⟩ := List.mem_map.mp hkind
    trivial

/-- All that is told in a review is regular, as far as its numbers have 64 bits and its year four digits. -/
theorem orchestrate_regular (diff : Diff) (options : ReviewOptions) (run : RunOptions) (token : Token) (s : Session) :
    ∃ new, (s.orchestrate diff options run token).2.2.events = s.events ++ new ∧
      ∀ event ∈ new, event.kind.Fits → event.timestamp.year ≤ 9999 → event.Regular := by
  by_cases hlenses : options.lensesFor diff = []
  · obtain ⟨error, records, hdone⟩ := orchestrate_of_no_lens hlenses run token s
    refine ⟨[], ?_, fun event hevent => absurd hevent List.not_mem_nil⟩
    rw [hdone, List.append_nil]
    rfl
  · obtain ⟨nonempty, plan, planned, -⟩ := ReviewOptions.exists_plan_of_lensesFor hlenses
    obtain ⟨root, tasks, opened, k, calls, last, h⟩ := exists_reviewed nonempty planned run token s
    refine ⟨_, h.events_eq, ?_⟩
    intro event hevent hfits hyear
    have hclear : event.kind.HasToolInput ∧ ∃ now, event.timestamp = .ofMillis now := by
      rcases List.mem_append.mp hevent with hopening | hevent
      · exact hasToolInput_of_mem_openingEvents hopening
      rcases List.mem_append.mp hevent with htold | hlast
      · obtain ⟨call, -, htold⟩ := List.mem_flatMap.mp htold
        exact LensTask.hasToolInput_of_mem_told htold
      · rw [List.mem_singleton.mp hlast]
        exact ⟨trivial, last.now, rfl⟩
    obtain ⟨hinput, now, hnow⟩ := hclear
    rw [hnow] at hyear
    exact ⟨hnow ▸ Instant.regular_ofMillis hyear, hfits, hinput⟩

end Session

end ReviewPanel
