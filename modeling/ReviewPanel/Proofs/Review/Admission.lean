import ReviewPanel.Proofs.Review.FailFast
import ReviewPanel.Proofs.Review.LensChoice

/-! # Reviews that are turned away

A review is turned away for two reasons only: there is no file to review, or the caller asks for lenses of
which none is known. Then nothing is told, asked or counted. Every other review takes place, by the lenses and
under the threshold that the caller or the profile chooses. -/
namespace ReviewPanel.Session

/-- A review is turned away with an error, and leaves all but the log as it was. -/
structure Refused (e : ReviewError) (s : Session) (token : Token)
    (done : Except ReviewError Outcome × Token × Session) : Prop where
  result_eq : done.1 = .error e
  token_eq : done.2.1 = token
  events_eq : done.2.2.events = s.events
  client_eq : done.2.2.client = s.client
  metrics_eq : done.2.2.metrics = s.metrics
  ids_eq : done.2.2.ids = s.ids
  clock_eq : done.2.2.clock = s.clock

/-- The issues that are left of what the lenses find that are told to have succeeded. -/
def keptIssues (lenses : List Lens) (threshold : Option Severity) (script : String → Script)
    (kinds : List EventKind) : List Issue :=
  (Issue.aggregate ((lenses.filter fun lens => EventKind.tellSuccess kinds lens.agent).flatMap fun lens =>
    (lens.ending script).issues) threshold).issues

/-- A review takes place by some lenses and under some threshold: it says which lenses it has and queues
them, closes with a record of each, and counts the issues that are left. -/
structure Conducted (diff : Diff) (lenses : List Lens) (threshold : Option Severity) (s : Session)
    (result : Except ReviewError Outcome) (kinds : List EventKind) : Prop where
  lenses_ne_nil : lenses ≠ []
  told : ∃ concurrency body summary lensStats,
    kinds = EventKind.framed (lenses.map Lens.agent) concurrency body summary
      (keptIssues lenses threshold s.client.script kinds).length lensStats diff.fileCount ∧
    lensStats.map (·.lensId) = lenses.map (·.id) ∧
    ∀ kind ∈ body, ∃ lens ∈ lenses, kind.agent? = some lens.agent
  issues_eq : ∀ outcome, result = .ok outcome →
    outcome.issues = keptIssues lenses threshold s.client.script kinds

variable {diff : Diff} {options : ReviewOptions} {run : RunOptions} {plan : Plan} {token : Token} {s : Session}
  {root : TraceContext} {tasks : List LensTask} {opened : Session} {k : Nat} {calls : List (Call LensTask)}
  {last : Pool Session LensTask LensReport LensFailure}

theorem refused_of_isEmpty (empty : diff.files = []) (options : ReviewOptions) (run : RunOptions)
    (token : Token) (s : Session) : Refused .noDiff s token (s.orchestrate diff options run token) := by
  rw [orchestrate_of_isEmpty (List.isEmpty_iff.mpr empty)]
  exact ⟨rfl, rfl, rfl, rfl, rfl, rfl, rfl⟩

theorem refused_of_asksInVain {names : List String} (nonempty : diff.files ≠ [])
    (inVain : options.AsksInVain names) (run : RunOptions) (token : Token) (s : Session) :
    Refused (.noLenses names) s token (s.orchestrate diff options run token) := by
  rw [orchestrate_of_unplanned (List.isEmpty_eq_false_iff.mpr nonempty) inVain.plan_eq]
  exact ⟨rfl, rfl, rfl, rfl, rfl, rfl, rfl⟩

theorem map_lensId_stat (ends : List LensEnd) :
    (ends.map LensEnd.stat).map (·.lensId) = (ends.map (·.lens)).map (·.id) := by
  rw [List.map_map, List.map_map]
  rfl

/-- Only what passes the filter adds to what is joined. -/
theorem flatMap_filter_eq {α β : Type} {xs : List α} {p : α → Bool} {f g : α → List β}
    (h : ∀ x ∈ xs, g x = if p x then f x else []) : (xs.filter p).flatMap f = xs.flatMap g := by
  induction xs with
  | nil => rfl
  | cons x rest ih =>
    have hx := h x List.mem_cons_self
    have hrest := ih fun y hy => h y (List.mem_cons_of_mem x hy)
    cases hp : p x with
    | true =>
      rw [hp, if_pos rfl] at hx
      rw [List.filter_cons_of_pos hp, List.flatMap_cons, List.flatMap_cons, hrest, hx]
    | false =>
      rw [hp, if_neg Bool.false_ne_true] at hx
      rw [List.filter_cons_of_neg (Bool.eq_false_iff.mp hp), List.flatMap_cons, hrest, hx, List.nil_append]

/-- A lens that succeeds has the issues which the model has found for it, and one that fails has none. -/
theorem issues_ending_answers (s : Session) (diff : Diff) (options : ReviewOptions) (lens : Lens) :
    (lens.ending (s.answers diff options)).issues =
      if (LensEnd.worked (s.answers diff options) lens).error?.isNone then (lens.ending s.client.script).issues
      else [] := by
  cases hover : Lens.overflows diff ⟨options.projectContext, options.focus⟩ with
  | true =>
    have hcrash : lens.ending (s.answers diff options) = .crashed .overflow := by
      rw [answers, Lens.answers_of_overflows hover]
      rfl
    rw [LensEnd.worked, hcrash]
    rfl
  | false =>
    rw [answers, Lens.answers_of_not_overflows hover, LensEnd.worked]
    cases lens.ending s.client.script <;> rfl

theorem Reviewed.keptIssues_eq (h : Reviewed diff options run plan token s root tasks opened k calls last)
    (distinct : (plan.lenses.map Lens.agent).Nodup) :
    keptIssues plan.lenses plan.minSeverity s.client.script (toldKinds diff options run plan s k calls) =
      (Issue.aggregate ((plan.lenses.take k).flatMap fun lens => (lens.ending (s.answers diff options)).issues)
        plan.minSeverity).issues := by
  rw [keptIssues, (h.filter_tellSuccess distinct).1,
    flatMap_filter_eq fun lens _ => issues_ending_answers s diff options lens]

theorem Reviewed.conducted (h : Reviewed diff options run plan token s root tasks opened k calls last)
    (distinct : (plan.lenses.map Lens.agent).Nodup) (nonempty : plan.lenses ≠ []) :
    Conducted diff plan.lenses plan.minSeverity s (s.orchestrate diff options run token).1
      (toldKinds diff options run plan s k calls) := by
  refine ⟨nonempty, ?_, ?_⟩
  · rw [h.keptIssues_eq distinct, ← LensEnd.issues_ofRun]
    refine ⟨_, _, _, _, rfl, ?_, ?_⟩
    · rw [map_lensId_stat, LensEnd.map_lens_ofRun]
    · intro kind hkind
      obtain ⟨call, hcall, hkind⟩ := List.mem_flatMap.mp hkind
      refine ⟨call.task.lens, ?_, LensTask.agent?_of_mem_kinds hkind⟩
      rw [← h.tasks_lens]
      exact List.mem_map_of_mem (List.mem_of_getElem? (h.course.task_eq hcall).2)
  · intro outcome houtcome
    rw [h.keptIssues_eq distinct, h.issues_eq houtcome]

theorem exists_conducted (nonempty : diff.files ≠ []) (admitted : ∀ names, ¬ options.AsksInVain names)
    (run : RunOptions) (token : Token) (s : Session) :
    let done := s.orchestrate diff options run token
    ∃ lenses threshold new, options.Chooses lenses ∧ options.Demands threshold ∧
      done.2.2.events = s.events ++ new ∧ Conducted diff lenses threshold s done.1 (new.map Event.kind) := by
  intro done
  have hlenses : Lens.resolve options.requested ≠ [] := ReviewOptions.resolve_requested_ne_nil admitted
  have planned : options.plan = .ok ⟨Lens.resolve options.requested, options.threshold⟩ :=
    if_neg (mt List.isEmpty_iff.mp hlenses)
  obtain ⟨root, tasks, opened, k, calls, last, h⟩ :=
    exists_reviewed (List.isEmpty_eq_false_iff.mpr nonempty) planned run token s
  obtain ⟨new, hnew, hkinds⟩ := h.exists_told
  refine ⟨_, _, new, options.chooses_resolve, options.demands_threshold, hnew, ?_⟩
  rw [hkinds]
  exact h.conducted (ReviewOptions.nodup_agents_of_plan planned) hlenses

/-- A review that takes place tells something. -/
theorem Conducted.not_refused {lenses : List Lens} {threshold : Option Severity} {new : List Event}
    {done : Except ReviewError Outcome × Token × Session} {e : ReviewError}
    (h : Conducted diff lenses threshold s done.1 (new.map Event.kind))
    (hnew : done.2.2.events = s.events ++ new) : ¬ Refused e s token done := by
  intro refused
  have hnil : new = [] := List.append_right_eq_self.mp (hnew.symm.trans refused.events_eq)
  obtain ⟨concurrency, body, summary, lensStats, hkinds, -⟩ := h.told
  rw [hnil] at hkinds
  cases hkinds

/-- A review is turned away if there is no file to review, and else if the caller lists names of which none
is that of a lens, whatever the profile. It leaves no trace then. Every other review takes place, with one
lens at least: by the lenses that the caller lists, or else those of a profile that is known, or else the
default, and under the threshold that the caller states, or else that of the profile, or else none. -/
theorem orchestrate_admission (diff : Diff) (options : ReviewOptions) (run : RunOptions) (token : Token)
    (s : Session) :
    let done := s.orchestrate diff options run token
    (diff.files = [] → Refused .noDiff s token done) ∧
    (∀ names, diff.files ≠ [] → options.AsksInVain names → Refused (.noLenses names) s token done) ∧
    (diff.files ≠ [] → (∀ names, ¬ options.AsksInVain names) → ∃ lenses threshold new,
      options.Chooses lenses ∧ options.Demands threshold ∧ done.2.2.events = s.events ++ new ∧
      Conducted diff lenses threshold s done.1 (new.map Event.kind)) ∧
    ((∃ e, Refused e s token done) ↔ diff.files = [] ∨ ∃ names, options.AsksInVain names) := by
  intro done
  have hempty (empty : diff.files = []) : Refused .noDiff s token done :=
    refused_of_isEmpty empty options run token s
  have hvain (names : List String) (nonempty : diff.files ≠ []) (inVain : options.AsksInVain names) :
      Refused (.noLenses names) s token done := refused_of_asksInVain nonempty inVain run token s
  refine ⟨hempty, hvain, fun nonempty admitted => exists_conducted nonempty admitted run token s, ?_⟩
  constructor
  · rintro ⟨e, refused⟩
    by_contra hnot
    obtain ⟨nonempty, hadmitted⟩ := not_or.mp hnot
    obtain ⟨lenses, threshold, new, -, -, hnew, hconducted⟩ :=
      exists_conducted nonempty (not_exists.mp hadmitted) run token s
    exact hconducted.not_refused hnew refused
  · rintro (empty | ⟨names, inVain⟩)
    · exact ⟨_, hempty empty⟩
    · by_cases empty : diff.files = []
      · exact ⟨_, hempty empty⟩
      · exact ⟨_, hvain names empty inVain⟩

/-- Names of no lens are turned away although a profile is named as well, and do not cancel the run. -/
theorem orchestrate_admission_of_unknown_lenses :
    let diff : Diff := .ofFiles [⟨"lib.rs", none, .modify, [], "", 1, 0⟩]
    let options : ReviewOptions := ⟨some ["style", " vibes"], none, none, some " Thorough ", none⟩
    let s : Session := .new .new .counting
    options.AsksInVain ["style", " vibes"] ∧ (∃ p, options.Profiled p ∧ p.lenses = LensId.all) ∧
      Refused (.noLenses ["style", " vibes"]) s .fresh (s.orchestrate diff options ⟨3, false, true⟩ .fresh) := by
  intro diff options s
  have inVain : options.AsksInVain ["style", " vibes"] := by
    refine ⟨rfl, List.cons_ne_nil _ _, fun name hname => LensId.parse?_eq_none_iff.mp ?_⟩
    have hnone : ∀ name ∈ ["style", " vibes"], LensId.parse? name = none := by decide
    exact hnone name hname
  have profiled : options.knownProfile = Profile.all[2]? := by decide
  exact ⟨inVain, ⟨_, ReviewOptions.knownProfile_eq_some_iff.mp profiled, rfl⟩,
    (orchestrate_admission diff options ⟨3, false, true⟩ .fresh s).2.1 _ (List.cons_ne_nil _ _) inVain⟩

end ReviewPanel.Session
