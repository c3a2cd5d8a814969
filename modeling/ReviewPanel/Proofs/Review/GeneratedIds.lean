import ReviewPanel.Proofs.Issue.Fingerprint
import ReviewPanel.Proofs.Issue.Idempotence
import ReviewPanel.Proofs.Review.FailFast

/-! # Generated identifiers

An issue which the model left without an identifier gets one from its lens and from the first digits of its
fingerprint. Such identifiers tell the findings of a review apart: issues with the same digits would have the
same fingerprint, and of two issues with one fingerprint aggregation leaves only one. -/
namespace ReviewPanel

namespace Issue

/-- The digits of the digest of a text that stand in an identifier. -/
def idDigits (text : List Char) : List Char := (Sha256.hexOfText text).take 12

/-- Some texts have different digits if they are different. -/
def CollisionFree (texts : List (List Char)) : Prop :=
  ∀ t ∈ texts, ∀ u ∈ texts, idDigits t = idDigits u → t = u

instance (texts : List (List Char)) : Decidable (CollisionFree texts) :=
  inferInstanceAs (Decidable (∀ t ∈ texts, ∀ u ∈ texts, idDigits t = idDigits u → t = u))

theorem length_idDigits (text : List Char) : (idDigits text).length = 12 := by
  have hlength : (Sha256.hexOfText text).length = 64 := by
    simp [Sha256.hexOfText, Sha256.State.hex, Text.length_hexDigits]
  rw [idDigits, List.length_take, hlength]
  rfl

theorem id_identified {i : Issue} (unnamed : Text.isBlankText i.id = true) (lens : LensId) :
    (i.identified lens).id = lens.name ++ "-" ++ String.ofList (idDigits i.fingerprintText) := by
  rw [identified, if_pos unnamed, fingerprint, String.toList_ofList]
  rfl

/-- Identifiers end with the digits, whatever the names of their lenses. -/
theorem idDigits_eq_of_id_eq {x y : String} {t u : List Char}
    (h : x ++ "-" ++ String.ofList (idDigits t) = y ++ "-" ++ String.ofList (idDigits u)) :
    idDigits t = idDigits u := by
  have hlist := congrArg String.toList h
  simp only [String.toList_append, String.toList_ofList] at hlist
  have hlength : (idDigits t).length = (idDigits u).length := by rw [length_idDigits, length_idDigits]
  exact (List.append_inj' hlist hlength).2

end Issue

namespace Lens

/-- The issues that can be read in the reply to a lens, as the model wrote them. -/
def entries (lens : Lens) (script : String → Script) : List Issue :=
  match (script lens.id.name).reply with
  | .returned value =>
    match Wire.decode Findings.decoder value with
    | .ok findings => findings.issues.filterMap fun j => (Wire.decode Issue.decoder j).toOption
    | .error _ => []
  | .failed _ => []
  | .crashed _ => []

/-- An issue that a model wrote, as the lens reports it. -/
def reported (lens : Lens) (entry : Issue) : Issue := entry.clampConfidence.identified lens.id

/-- The issues that the model left without an identifier. -/
def unnamed (lens : Lens) (script : String → Script) : List Issue :=
  (lens.entries script).filter fun entry => Text.isBlankText entry.id

/-- The issues to which some lenses give an identifier. -/
def generated (script : String → Script) (lenses : List Lens) : List Issue :=
  lenses.flatMap fun lens => (lens.unnamed script).map lens.reported

/-- The texts of which some lenses take a digest. -/
def fingerprinted (script : String → Script) (lenses : List Lens) : List (List Char) :=
  lenses.flatMap fun lens => (lens.unnamed script).map Issue.fingerprintText

variable {script : String → Script} {lenses : List Lens}

/-- What is reported of a reply is what can be read of its issues. -/
theorem issues_report (lens : Lens) (durationMs : ℕ) (findings : Findings) :
    (lens.report durationMs findings).issues =
      (findings.issues.filterMap fun j => (Wire.decode Issue.decoder j).toOption).map lens.reported := by
  change (lens.readIssues findings.issues).filterMap Except.toOption = _
  rw [readIssues, List.filterMap_map, List.map_filterMap]
  congr 1
  funext j
  rw [Function.comp_apply, Issue.ofReply]
  cases Wire.decode Issue.decoder j <;> rfl

theorem issues_ending (lens : Lens) (script : String → Script) :
    (lens.ending script).issues = (lens.entries script).map lens.reported := by
  rw [ending, endingAfter, entries]
  cases (script lens.id.name).reply with
  | returned value =>
    simp only [conclude]
    cases Wire.decode Findings.decoder value with
    | error fault => rfl
    | ok findings => exact lens.issues_report _ findings
  | failed e => rfl
  | crashed c => rfl

/-- What can be read in the answer to a lens, the model has written. -/
theorem entries_answers_subset (lens : Lens) (diff : Diff) (context : ReviewContext) (script : String → Script) :
    lens.entries (answers diff context script) ⊆ lens.entries script := by
  cases hover : overflows diff context with
  | true =>
    rw [answers_of_overflows hover]
    exact List.nil_subset _
  | false =>
    rw [answers_of_not_overflows hover]
    exact List.Subset.refl _

/-- The identifier that an issue is given is made of its lens and of its own fingerprint. -/
theorem id_of_mem_generated {i : Issue} (h : i ∈ generated script lenses) :
    i.fingerprintText ∈ fingerprinted script lenses ∧ ∃ lens ∈ lenses,
      i.id = lens.id.name ++ "-" ++ String.ofList (Issue.idDigits i.fingerprintText) := by
  obtain ⟨lens, hlens, hmem⟩ := List.mem_flatMap.mp h
  obtain ⟨entry, hentry, rfl⟩ := List.mem_map.mp hmem
  have hblank : Text.isBlankText entry.id = true := (List.mem_filter.mp hentry).2
  have htext : (lens.reported entry).fingerprintText = entry.fingerprintText := by
    rw [reported, Issue.identified, if_pos (by exact hblank)]
    rfl
  have hid : (lens.reported entry).id = _ := Issue.id_identified (i := entry.clampConfidence) hblank lens.id
  rw [htext]
  exact ⟨List.mem_flatMap.mpr ⟨lens, hlens, List.mem_map_of_mem hentry⟩, lens, hlens, hid⟩

/-- Issues that were given one identifier tell the same finding. -/
theorem isDuplicate_of_id_eq (collisionFree : Issue.CollisionFree (fingerprinted script lenses)) {a b : Issue}
    (ha : a ∈ generated script lenses) (hb : b ∈ generated script lenses) (h : a.id = b.id) :
    Issue.isDuplicate a b = true := by
  obtain ⟨hatext, lens, -, haid⟩ := id_of_mem_generated ha
  obtain ⟨hbtext, lens', -, hbid⟩ := id_of_mem_generated hb
  rw [haid, hbid] at h
  exact Issue.isDuplicate_of_fingerprintText_eq
    (collisionFree _ hatext _ hbtext (Issue.idDigits_eq_of_id_eq h))

end Lens

namespace Session

/-- The lenses that are told to start in a review. -/
def started (diff : Diff) (options : ReviewOptions) (run : RunOptions) (token : Token) (s : Session) :
    List Lens :=
  let new := (s.orchestrate diff options run token).2.2.events.drop s.events.length
  (options.lensesFor diff).filter fun lens => EventKind.tellStart (new.map Event.kind) lens.agent

variable {diff : Diff} {options : ReviewOptions} {run : RunOptions} {plan : Plan} {token : Token} {s : Session}
  {root : TraceContext} {tasks : List LensTask} {opened : Session} {k : Nat} {calls : List (Call LensTask)}
  {last : Pool Session LensTask LensReport LensFailure}

theorem Reviewed.started_eq (h : Reviewed diff options run plan token s root tasks opened k calls last)
    (distinct : (plan.lenses.map Lens.agent).Nodup) (lenses : options.lensesFor diff = plan.lenses) :
    s.started diff options run token = plan.lenses.take k := by
  obtain ⟨new, hnew, hkinds⟩ := h.exists_told
  rw [started, hnew, List.drop_left, hkinds, lenses]
  exact h.filter_tellStart distinct

/-- The issues of an outcome are aggregated from what was answered to the lenses that were started. -/
theorem issues_of_outcome {outcome : Outcome} (returned : (s.orchestrate diff options run token).1 = .ok outcome) :
    outcome.issues = (Issue.aggregate ((s.started diff options run token).flatMap fun lens =>
      (lens.entries (s.answers diff options)).map lens.reported) options.threshold).issues := by
  by_cases hlenses : options.lensesFor diff = []
  · obtain ⟨e, records, hdone⟩ := orchestrate_of_no_lens hlenses run token s
    rw [hdone] at returned
    cases returned
  · obtain ⟨nonempty, plan, planned, hplan⟩ := ReviewOptions.exists_plan_of_lensesFor hlenses
    obtain ⟨root, tasks, opened, k, calls, last, h⟩ := exists_reviewed nonempty planned run token s
    have hdistinct : (plan.lenses.map Lens.agent).Nodup := ReviewOptions.nodup_agents_of_plan planned
    have hthreshold : plan.minSeverity = options.threshold :=
      congrArg Plan.minSeverity (ReviewOptions.plan_eq_ok planned).1
    rw [h.issues_eq returned, h.started_eq hdistinct hplan, hthreshold]
    simp only [Lens.issues_ending]

/-- The issues of an outcome are those that the model wrote for the lenses that were started. An identifier
which the model left out is made of the lens and of the fingerprint of the issue. If the texts of which
fingerprints are taken in the review have different digits, no two issues of the outcome have such an
identifier in common. -/
theorem orchestrate_generated_ids {outcome : Outcome}
    (returned : (s.orchestrate diff options run token).1 = .ok outcome)
    (collisionFree : Issue.CollisionFree
      (Lens.fingerprinted s.client.script (s.started diff options run token))) :
    let started := s.started diff options run token
    let generated := Lens.generated s.client.script started
    (∀ i ∈ outcome.issues, ∃ lens ∈ started, ∃ entry ∈ lens.entries s.client.script,
      i = lens.reported entry) ∧
    (∀ i ∈ generated, ∃ lens ∈ started,
      i.id = lens.id.name ++ "-" ++ String.ofList (i.fingerprint.toList.take 12)) ∧
    outcome.issues.Pairwise fun a b => a ∈ generated → b ∈ generated → a.id ≠ b.id := by
  intro started generated
  refine ⟨?_, ?_, ?_⟩
  · intro i hi
    rw [issues_of_outcome returned] at hi
    have hfound := Issue.mem_of_mem_dedupe (Issue.mem_aggregate.mp hi).1
    obtain ⟨lens, hlens, hmem⟩ := List.mem_flatMap.mp hfound
    obtain ⟨entry, hentry, rfl⟩ := List.mem_map.mp hmem
    exact ⟨lens, hlens, entry, lens.entries_answers_subset _ _ _ hentry, rfl⟩
  · intro i hi
    obtain ⟨-, lens, hlens, hid⟩ := Lens.id_of_mem_generated hi
    rw [Issue.fingerprint, String.toList_ofList]
    exact ⟨lens, hlens, hid⟩
  · rw [issues_of_outcome returned]
    refine (Issue.distinct_aggregate _ _).imp fun {a b} hdistinct ha hb hid => ?_
    rw [Lens.isDuplicate_of_id_eq collisionFree ha hb hid] at hdistinct
    cases hdistinct

/-- Two lenses give identifiers to four issues, one of which both have found. -/
theorem orchestrate_generated_ids_of_two_lenses :
    let leak := (Issue.new .high "./src/pool.rs" "Connection leak!").withNarrative "Never closed." "Close it."
    let race := (leak.withLines 9 3).withCategory "concurrency"
    let client := (ScriptedClient.new.withReply "correctness" (.returned (Findings.encode "" [leak, race]))).withReply
      "security" (.returned (Findings.encode "" [race, { leak with title := "" }, { leak with id := "own" }]))
    let diff : Diff := .ofFiles [⟨"src/pool.rs", none, .modify, [], "", 1, 0⟩]
    let options : ReviewOptions := ⟨some ["correctness", "security"], none, none, none, none⟩
    let s := Session.new client .counting
    let generated := Lens.generated client.script (s.started diff options ⟨2, true, false⟩ .fresh)
    ∃ outcome, (s.orchestrate diff options ⟨2, true, false⟩ .fresh).1 = .ok outcome ∧
      Issue.CollisionFree (Lens.fingerprinted client.script (s.started diff options ⟨2, true, false⟩ .fresh)) ∧
      generated.length = 4 ∧ outcome.issues.length = 3 ∧
      outcome.issues.Pairwise fun a b => a ∈ generated → b ∈ generated → a.id ≠ b.id := by
  intro leak race client diff options s generated
  have planned : options.plan = .ok ⟨[.ofId .correctness, .ofId .security], none⟩ := rfl
  obtain ⟨outcome, houtcome⟩ : ∃ outcome, (s.orchestrate diff options ⟨2, true, false⟩ .fresh).1 = .ok outcome :=
    exists_outcome rfl planned ⟨2, true, false⟩ rfl .fresh s
  have collisionFree : Issue.CollisionFree
      (Lens.fingerprinted client.script (s.started diff options ⟨2, true, false⟩ .fresh)) := by
    decide +kernel
  have hgenerated : generated.length = 4 := by decide +kernel
  have hlength : (s.orchestrate diff options ⟨2, true, false⟩ .fresh).1.toOption.map (·.issues.length) = some 3 := by
    decide +kernel
  rw [houtcome] at hlength
  exact ⟨outcome, houtcome, collisionFree, hgenerated, Option.some.inj hlength,
    (orchestrate_generated_ids houtcome collisionFree).2.2⟩

end Session

end ReviewPanel
