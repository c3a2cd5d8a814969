import ReviewPanel.Proofs.Review.TerminalDecision

/-! # Counters account for every review

Whatever reviews are asked for one after the other, the counters say in the end what was to be seen of them:
the results that were returned and the events that were sent. -/
namespace ReviewPanel

section Totals

variable {α β : Type}

theorem total_add (v w : α → Nat) (xs : List α) :
    total (fun x => v x + w x) xs = total v xs + total w xs := by
  induction xs with
  | nil => rfl
  | cons x rest ih =>
    rw [total_cons, total_cons, total_cons, ih]
    omega

theorem total_congr {v w : α → Nat} {xs : List α} (h : ∀ x ∈ xs, v x = w x) : total v xs = total w xs := by
  induction xs with
  | nil => rfl
  | cons x rest ih =>
    rw [total_cons, total_cons, h x List.mem_cons_self, ih fun y hy => h y (List.mem_cons_of_mem x hy)]

theorem total_map (w : β → Nat) (f : α → β) (xs : List α) : total w (xs.map f) = total (fun x => w (f x)) xs := by
  induction xs with
  | nil => rfl
  | cons x rest ih => rw [List.map_cons, total_cons, total_cons, ih]

theorem total_indicator (p : α → Bool) (xs : List α) :
    total (fun x => if p x then 1 else 0) xs = xs.countP p := by
  induction xs with
  | nil => rfl
  | cons x rest ih => rw [total_cons, ih, List.countP_cons, Nat.add_comm]

/-- What is counted can be counted for each key by itself. -/
theorem countP_eq_total [DecidableEq β] {p : α → Bool} {key : α → Option β} {keys : List β}
    (distinct : keys.Nodup) {xs : List α} (h : ∀ x ∈ xs, p x = true → ∃ b ∈ keys, key x = some b) :
    xs.countP p = total (fun b => (xs.filter (key · = some b)).countP p) keys := by
  induction xs with
  | nil => simpa using (total_indicator (fun _ => false) keys).symm
  | cons x rest ih =>
    have hrest := ih fun y hy => h y (List.mem_cons_of_mem x hy)
    have hsplit (b : β) : ((x :: rest).filter (key · = some b)).countP p =
        (rest.filter (key · = some b)).countP p + if p x && decide (key x = some b) then 1 else 0 := by
      by_cases hb : key x = some b <;> simp [hb, List.countP_cons]
    simp only [hsplit]
    rw [total_add, ← hrest, total_indicator, List.countP_cons]
    congr 1
    cases hp : p x with
    | false => simp
    | true =>
      obtain ⟨b, hb, hkey⟩ := h x List.mem_cons_self hp
      have hcount := List.count_eq_one_of_mem distinct hb
      rw [List.count_eq_countP] at hcount
      simpa [hkey, eq_comm, BEq.beq] using hcount.symm

/-- What is counted of elements none of which has it from some place on. -/
theorem total_eq_countP_take {w : α → Nat} {q : α → Bool} {k : Nat} {xs : List α}
    (h : ∀ i x, xs[i]? = some x → w x = if decide (i < k) && q x then 1 else 0) :
    total w xs = (xs.take k).countP q := by
  induction xs generalizing k with
  | nil => rw [List.take_nil]; rfl
  | cons x rest ih =>
    have hx := h 0 x rfl
    cases k with
    | zero =>
      have hrest := ih (k := 0) fun i y hy => by simpa using h (i + 1) y hy
      rw [List.take_zero] at hrest ⊢
      rw [total_cons, hrest, hx]
      rfl
    | succ k =>
      have hrest := ih (k := k) fun i y hy => by simpa using h (i + 1) y hy
      rw [total_cons, hrest, List.take_succ_cons, List.countP_cons, hx, Nat.add_comm]
      simp

end Totals

namespace EventKind

def queued? : EventKind → Option AgentRef
  | .agentQueued agent _ _ => some agent
  | _ => none

def isComplete (kind : EventKind) : Bool := kind.completed?.isSome

def isError (kind : EventKind) : Bool := kind.error?.isSome

/-- The number of agents that were queued and of which it is never told that they start. -/
def unstarted (kinds : List EventKind) : Nat :=
  (kinds.filterMap queued?).countP fun agent => !tellStart kinds agent

theorem isEnd_of_isComplete {kind : EventKind} (h : kind.isComplete = true) : kind.isEnd = true := by
  cases kind <;> first | rfl | cases h

theorem countP_isEnd (kinds : List EventKind) :
    kinds.countP isEnd = kinds.countP isComplete + kinds.countP isError := by
  induction kinds with
  | nil => rfl
  | cons kind rest ih =>
    rw [List.countP_cons, List.countP_cons, List.countP_cons, ih]
    cases kind <;> simp [isEnd, isComplete, isError, completed?, error?] <;> omega

theorem filterMap_queued?_framed (agents : List AgentRef) (concurrency : Nat) {body : List EventKind}
    (h : ∀ kind ∈ body, kind.queued? = none) (summary : String) (totalIssues : Nat)
    (lensStats : List LensStat) (filesAnalyzed : Nat) :
    (framed agents concurrency body summary totalIssues lensStats filesAnalyzed).filterMap queued? = agents := by
  have hbody : body.filterMap queued? = [] := List.filterMap_eq_nil_iff.mpr h
  have hqueued : (queued agents).filterMap queued? = agents := by
    rw [queued, List.filterMap_map]
    exact (List.filterMap_eq_map.symm ▸ List.zipIdx_map_fst 1 agents)
  rw [framed, List.filterMap_cons_none rfl, List.filterMap_append, List.filterMap_append, hqueued, hbody]
  exact List.append_nil _

end EventKind

theorem LensTask.queued?_of_mem_kinds {diff : Diff} {context : ReviewContext} {script : String → Script}
    {c : Call LensTask} {kind : EventKind} (h : kind ∈ kinds diff context script c) : kind.queued? = none := by
  cases c with
  | start index t time =>
    obtain ⟨tools, hlook, hopening⟩ := opening_eq t.lens diff context
    rw [kinds, hopening] at h
    cases hlook <;> simp only [List.mem_cons, List.not_mem_nil, or_false] at h
    · rcases h with rfl | rfl <;> rfl
    · rcases h with rfl | rfl | rfl | rfl <;> rfl
  | finish lane u time =>
    rw [List.mem_singleton.mp h]
    cases u.task.lens.endingAfter (time - u.startedAt) script <;> rfl

/-- The number of entries of a reply that cannot be read. -/
def Lens.unreadable (lens : Lens) : Ending Json ReviewError → Nat
  | .returned value =>
    match Wire.decode Findings.decoder value with
    | .ok findings => findings.issues.countP fun entry => !(Issue.ofReply lens.id entry).isOk
    | .error _ => 0
  | _ => 0

namespace LensEnd

variable (script : String → Script)

theorem malformedDropped_worked (lenses : List Lens) :
    total (·.malformedDropped) ((lenses.map (worked script)).filterMap report?) =
      total (fun lens => lens.unreadable (script lens.id.name).reply)
        (lenses.filter fun lens => (worked script lens).error?.isNone) := by
  induction lenses with
  | nil => rfl
  | cons lens rest ih =>
    rw [List.map_cons]
    rcases Lens.read_or_failsWith (script lens.id.name).reply with ⟨value, findings, hreply, hread⟩ | ⟨e, hfails⟩
    · have hreport := report?_worked hreply hread
      have hnone : (worked script lens).error? = none := by
        cases herror : (worked script lens).error? with
        | none => rfl
        | some e => cases hreport.symm.trans ((report?_eq_none_iff _).mpr ⟨e, herror⟩)
      have hunreadable : lens.unreadable (script lens.id.name).reply =
          (lens.report (lens.duration script) findings).malformedDropped := by
        simp only [Lens.unreadable, hreply, hread, Lens.report, Lens.readIssues, List.countP_map]
        rfl
      rw [List.filterMap_cons_some hreport, List.filter_cons_of_pos (by simp [hnone]), total_cons, total_cons,
        ih, hunreadable]
    · have herror := error?_worked hfails
      rw [List.filterMap_cons_none ((report?_eq_none_iff _).mpr ⟨e, herror⟩),
        List.filter_cons_of_neg (by simp [herror]), ih]

theorem malformed_ofRun (k : Nat) (lenses : List Lens) :
    malformed (ofRun script k lenses) = total (fun lens => lens.unreadable (script lens.id.name).reply)
      ((lenses.take k).filter fun lens => (worked script lens).error?.isNone) := by
  rw [malformed, filterMap_ofRun fun _ => rfl, malformedDropped_worked]

theorem succeeded_ofRun (k : Nat) (lenses : List Lens) :
    (tally (ofRun script k lenses)).succeeded =
      (lenses.take k).countP fun lens => (worked script lens).error?.isNone := by
  have hskipped : ((lenses.drop k).map skipped).countP (·.error?.isNone) = 0 := by
    rw [List.countP_map, List.countP_eq_zero]
    exact fun _ _ => Bool.false_ne_true
  change (ofRun script k lenses).countP (·.error?.isNone) = _
  rw [ofRun, List.countP_append, hskipped, List.countP_map]
  rfl

/-- A lens that has succeeded got its reply from the model. -/
theorem reply_of_worked {diff : Diff} {context : ReviewContext} {lens : Lens}
    (h : (worked (Lens.answers diff context script) lens).error? = none) :
    (Lens.answers diff context script lens.id.name).reply = (script lens.id.name).reply := by
  rcases Lens.read_or_failsWith (Lens.answers diff context script lens.id.name).reply with
    ⟨value, findings, hreply, -⟩ | ⟨e, hfails⟩
  · exact hreply.trans (Lens.reply_of_answers hreply nofun).symm
  · cases h.symm.trans (error?_worked hfails)

/-- If no model says of a lens that it was not started, the lenses that count as skipped are those that were
not started. -/
theorem skipped_ofRun {lenses : List Lens}
    (honest : ∀ lens ∈ lenses, ∀ e, (script lens.id.name).reply = .failed e → e.code ≠ .notStarted) (k : Nat) :
    (tally (ofRun script k lenses)).skipped = (lenses.drop k).length := by
  have hworked : ((lenses.take k).map (worked script)).countP isSkipped = 0 := by
    rw [List.countP_map, List.countP_eq_zero]
    intro lens hlens hskipped
    obtain ⟨e, herror, hcode⟩ := isSkipped_iff.mp hskipped
    exact honest lens (List.mem_of_mem_take hlens) e (reply_of_notStarted herror hcode) hcode
  have hskipped : ((lenses.drop k).map skipped).countP isSkipped = (lenses.drop k).length := by
    rw [List.countP_map, List.countP_eq_length]
    exact fun _ _ => rfl
  change (ofRun script k lenses).countP isSkipped = _
  rw [ofRun, List.countP_append, hworked, hskipped, Nat.zero_add]

end LensEnd

namespace Session

variable {diff : Diff} {options : ReviewOptions} {run : RunOptions} {plan : Plan} {token : Token} {s : Session}
  {root : TraceContext} {tasks : List LensTask} {opened : Session} {k : Nat} {calls : List (Call LensTask)}
  {last : Pool Session LensTask LensReport LensFailure}
  (h : Reviewed diff options run plan token s root tasks opened k calls last)
include h

/-- Each lens that was started comes to one end. -/
theorem Reviewed.countP_isEnd :
    (toldKinds diff options run plan s k calls).countP EventKind.isEnd = k := by
  have hfinished := h.course.path.countP_isStart
  rw [h.course.idle, h.course.books.countP_isStart] at hfinished
  have hnone : (Pool.begun tasks token s.clock opened : Pool _ _ LensReport LensFailure).atWork.card = 0 := rfl
  rw [← EventKind.countP_filter_isBoundary EventKind.isBoundary_of_isEnd, toldKinds,
    EventKind.filter_isBoundary_framed, LensTask.filter_flatMap_kinds, List.countP_map]
  have hends : EventKind.isEnd ∘ LensTask.boundary (s.answers diff options) = Call.isFinish :=
    funext LensTask.isEnd_boundary
  rw [hends]
  rw [Multiset.card_zero] at hfinished
  omega

/-- A lens is told to have succeeded once or not at all. -/
theorem Reviewed.countP_isComplete_agent (distinct : (plan.lenses.map Lens.agent).Nodup) {i : Nat} {lens : Lens}
    (hlens : plan.lenses[i]? = some lens) :
    ((toldKinds diff options run plan s k calls).filter (·.agent? = some lens.agent)).countP
        EventKind.isComplete =
      if decide (i < k) && (LensEnd.worked (s.answers diff options) lens).error?.isNone then 1 else 0 := by
  have hagent : (plan.lenses.map Lens.agent)[i]? = some lens.agent := by
    rw [List.getElem?_map, hlens]
    rfl
  rw [toldKinds, EventKind.filter_framed distinct hagent, h.story_eq distinct hlens]
  by_cases hi : i < k
  · have hopening : (lens.opening diff ⟨options.projectContext, options.focus⟩).countP EventKind.isComplete = 0 := by
      rw [List.countP_eq_zero]
      intro kind hkind hcomplete
      have hboundary := EventKind.isBoundary_of_isEnd _ (EventKind.isEnd_of_isComplete hcomplete)
      exact Bool.false_ne_true ((LensTask.isBoundary_of_mem_opening hkind).symm.trans hboundary)
    rw [if_pos hi, List.countP_cons, List.countP_cons, List.countP_append, hopening, LensEnd.closing_worked]
    cases herror : (LensEnd.worked (s.answers diff options) lens).error? <;>
      simp [hi, EventKind.isComplete, EventKind.completed?]
  · rw [if_neg hi]
    simp [hi, EventKind.isComplete, EventKind.completed?]

theorem Reviewed.countP_isComplete (distinct : (plan.lenses.map Lens.agent).Nodup) :
    (toldKinds diff options run plan s k calls).countP EventKind.isComplete =
      (plan.lenses.take k).countP fun lens => (LensEnd.worked (s.answers diff options) lens).error?.isNone := by
  have hkey : ∀ kind ∈ toldKinds diff options run plan s k calls, kind.isComplete = true →
      ∃ agent ∈ plan.lenses.map Lens.agent, kind.agent? = some agent := by
    intro kind hkind hcomplete
    have hboundary := EventKind.isBoundary_of_isEnd _ (EventKind.isEnd_of_isComplete hcomplete)
    have hbody := List.mem_filter.mpr ⟨hkind, hboundary⟩
    rw [toldKinds, EventKind.filter_isBoundary_framed] at hbody
    obtain ⟨call, hcall, hkind⟩ := List.mem_flatMap.mp (List.mem_filter.mp hbody).1
    refine ⟨call.task.lens.agent, ?_, LensTask.agent?_of_mem_kinds hkind⟩
    rw [← h.agents_eq]
    exact List.mem_map_of_mem (List.mem_of_getElem? (h.course.task_eq hcall).2)
  rw [countP_eq_total distinct hkey, total_map]
  exact total_eq_countP_take fun i lens hlens => h.countP_isComplete_agent distinct hlens

theorem Reviewed.unstarted_eq (distinct : (plan.lenses.map Lens.agent).Nodup) :
    EventKind.unstarted (toldKinds diff options run plan s k calls) = (plan.lenses.drop k).length := by
  have hqueued : (toldKinds diff options run plan s k calls).filterMap EventKind.queued? =
      plan.lenses.map Lens.agent := by
    apply EventKind.filterMap_queued?_framed
    intro kind hkind
    obtain ⟨call, hcall, hkind⟩ := List.mem_flatMap.mp hkind
    exact LensTask.queued?_of_mem_kinds hkind
  let started (lens : Lens) : Bool := EventKind.tellStart (toldKinds diff options run plan s k calls) lens.agent
  have hstarted : ∀ i lens, plan.lenses[i]? = some lens → started lens = (decide (i < k) && true) := by
    intro i lens hlens
    rw [Bool.and_true]
    exact h.tellStart_eq distinct hlens
  have hsilent : plan.lenses.filter (fun lens => !started lens) = _ := (filter_eq_filter_take hstarted).2
  rw [EventKind.unstarted, hqueued, List.countP_map, List.countP_eq_length_filter]
  exact (congrArg List.length hsilent).trans (by simp)

theorem Reviewed.malformed_eq (distinct : (plan.lenses.map Lens.agent).Nodup) :
    LensEnd.malformed (LensEnd.ofRun (s.answers diff options) k plan.lenses) =
      total (fun lens => lens.unreadable (s.client.script lens.id.name).reply) (plan.lenses.filter fun lens =>
        EventKind.tellSuccess (toldKinds diff options run plan s k calls) lens.agent) := by
  rw [LensEnd.malformed_ofRun, (h.filter_tellSuccess distinct).1]
  refine total_congr fun lens hlens => congrArg lens.unreadable ?_
  exact LensEnd.reply_of_worked _ (Option.isNone_iff_eq_none.mp (List.mem_filter.mp hlens).2)

/-- If no model says of a lens that it was not started, the lenses that are told to fail are those that count as
failed. -/
theorem Reviewed.countP_isError (distinct : (plan.lenses.map Lens.agent).Nodup)
    (honest : ∀ lens ∈ plan.lenses, ∀ e, (s.answers diff options lens.id.name).reply = .failed e →
      e.code ≠ .notStarted) :
    (LensEnd.tally (LensEnd.ofRun (s.answers diff options) k plan.lenses)).failed =
      (toldKinds diff options run plan s k calls).countP EventKind.isError := by
  have hk : k ≤ plan.lenses.length := by
    have hle := h.course.books.le
    rwa [← List.length_map (·.lens), h.tasks_lens] at hle
  have hends := h.countP_isEnd
  have hsum := LensEnd.sum_tally (LensEnd.ofRun (s.answers diff options) k plan.lenses)
  rw [EventKind.countP_isEnd, h.countP_isComplete distinct, ← LensEnd.succeeded_ofRun] at hends
  rw [LensEnd.length_ofRun, LensEnd.skipped_ofRun _ honest, List.length_drop] at hsum
  omega

end Session

/-- A review that is asked for: by whom, of what, and how. -/
structure Errand where
  session : Session
  diff : Diff
  options : ReviewOptions
  run : RunOptions
  token : Token

/-- What is to be seen of an errand: what was asked for, what was returned, and what was told. -/
structure Sighting where
  errand : Errand
  result : Except ReviewError Outcome
  kinds : List EventKind

namespace Errand

/-- The lenses of an errand: none if there is nothing to review. -/
def lenses (e : Errand) : List Lens := e.options.lensesFor e.diff

def reply (e : Errand) (lens : Lens) : Ending Json ReviewError := (e.session.client.script lens.id.name).reply

/-- The client never says of a lens that it was not started. -/
def Honest (e : Errand) : Prop := ∀ lens ∈ e.lenses, ∀ error, e.reply lens = .failed error → error.code ≠ .notStarted

/-- The session of an errand, with the counters where they are. -/
def start (e : Errand) (m : Metrics) : Session := { e.session with metrics := m }

def carryOut (e : Errand) (m : Metrics) : Except ReviewError Outcome × Token × Session :=
  (e.start m).orchestrate e.diff e.options e.run e.token

def sighting (e : Errand) (m : Metrics) : Sighting where
  errand := e
  result := (e.carryOut m).1
  kinds := ((e.carryOut m).2.2.events.drop e.session.events.length).map Event.kind

/-- Errands are carried out one after the other: what is to be seen of them, and the counters in the end. -/
def carryOutAll : List Errand → Metrics → List Sighting × Metrics
  | [], m => ([], m)
  | e :: rest, m =>
    let (later, last) := carryOutAll rest (e.carryOut m).2.2.metrics
    (e.sighting m :: later, last)

end Errand

namespace Sighting

/-- The number of entries that cannot be read in the replies of the lenses that have succeeded. -/
def unreadable (v : Sighting) : Nat :=
  total (fun lens => lens.unreadable (v.errand.reply lens))
    (v.errand.lenses.filter fun lens => EventKind.tellSuccess v.kinds lens.agent)

end Sighting

/-- A tally says what is to be seen of reviews. -/
structure Tally.Accounts (t : Tally) (seen : List Sighting) : Prop where
  reviews_eq : t.reviews = seen.countP fun v => v.errand.options.admits v.errand.diff
  sum_eq : t.succeeded + t.failed + t.skipped = total (·.errand.lenses.length) seen
  succeeded_eq : t.succeeded = total (·.kinds.countP EventKind.isComplete) seen
  failed_eq : (∀ v ∈ seen, v.errand.Honest) → t.failed = total (·.kinds.countP EventKind.isError) seen
  skipped_eq : (∀ v ∈ seen, v.errand.Honest) → t.skipped = total (EventKind.unstarted ·.kinds) seen
  reported_eq : t.reported = total (Outcome.reported ·.result) seen
  malformed_eq : t.malformed = total Sighting.unreadable seen
  events_eq : t.events = total (·.kinds.length) seen

theorem Tally.accounts_nil : ({} : Tally).Accounts [] where
  reviews_eq := rfl
  sum_eq := rfl
  succeeded_eq := rfl
  failed_eq _ := rfl
  skipped_eq _ := rfl
  reported_eq := rfl
  malformed_eq := rfl
  events_eq := rfl

theorem Tally.Accounts.cons {t u : Tally} {v : Sighting} {seen : List Sighting} (h : t.Accounts [v])
    (hseen : u.Accounts seen) : (t + u).Accounts (v :: seen) := by
  have hfirst (honest : ∀ w ∈ v :: seen, w.errand.Honest) : ∀ w ∈ [v], w.errand.Honest :=
    fun w hw => honest w (List.mem_singleton.mp hw ▸ List.mem_cons_self)
  have hlater (honest : ∀ w ∈ v :: seen, w.errand.Honest) : ∀ w ∈ seen, w.errand.Honest :=
    fun w hw => honest w (List.mem_cons_of_mem v hw)
  constructor
  · rw [reviews_add, h.reviews_eq, hseen.reviews_eq, List.countP_cons, List.countP_cons, List.countP_nil]
    omega
  · have hsum := h.sum_eq
    have hsums := hseen.sum_eq
    simp only [succeeded_add, failed_add, skipped_add, total_cons, total_nil] at hsum ⊢
    omega
  · rw [succeeded_add, h.succeeded_eq, hseen.succeeded_eq]
    rfl
  · intro honest
    rw [failed_add, h.failed_eq (hfirst honest), hseen.failed_eq (hlater honest)]
    rfl
  · intro honest
    rw [skipped_add, h.skipped_eq (hfirst honest), hseen.skipped_eq (hlater honest)]
    rfl
  · rw [reported_add, h.reported_eq, hseen.reported_eq]
    rfl
  · rw [malformed_add, h.malformed_eq, hseen.malformed_eq]
    rfl
  · rw [events_add, h.events_eq, hseen.events_eq]
    rfl

namespace Errand

theorem admits_iff (e : Errand) : e.options.admits e.diff = true ↔ e.lenses ≠ [] := by
  rw [lenses, ReviewOptions.lensesFor, ReviewOptions.admits, ReviewOptions.plan]
  cases e.diff.isEmpty with
  | true => simp
  | false =>
    cases hlenses : Lens.resolve e.options.requested <;> simp [Except.isOk, Except.toBool]

/-- A review that is refused counts for nothing. -/
theorem accounts_of_refused {e : Errand} (refused : e.lenses = []) (m : Metrics) :
    (e.carryOut m).2.2.metrics = m ∧ ({} : Tally).Accounts [e.sighting m] := by
  obtain ⟨error, records, hdone⟩ := Session.orchestrate_of_no_lens refused e.run e.token (e.start m)
  have hdone : e.carryOut m = (.error error, e.token, (e.start m).note records) := hdone
  have hkinds : (e.sighting m).kinds = [] := by
    rw [sighting, hdone]
    simp [Session.note, start]
  have hresult : (e.sighting m).result = .error error := by rw [sighting, hdone]
  have hrefused : (e.sighting m).errand.lenses = [] := refused
  have hadmits : (e.sighting m).errand.options.admits (e.sighting m).errand.diff = false := by
    rw [← Bool.not_eq_true, admits_iff]
    exact fun h => h hrefused
  refine ⟨by rw [hdone]; rfl, ?_⟩
  constructor
  · simp [hadmits]
  · simp [hrefused]
  · simp [hkinds]
  · simp [hkinds]
  · simp [hkinds, EventKind.unstarted]
  · simp [hresult, Outcome.reported]
  · simp [Sighting.unreadable, hrefused]
  · simp [hkinds]

/-- A review that takes place counts for what is to be seen of it. -/
theorem exists_tally_of_lens {e : Errand} (taken : e.lenses ≠ []) (m : Metrics) :
    ∃ t : Tally, (e.carryOut m).2.2.metrics = m.plus t ∧ t.Accounts [e.sighting m] := by
  obtain ⟨nonempty, plan, planned, hlenses⟩ := ReviewOptions.exists_plan_of_lensesFor taken
  have hlenses : e.lenses = plan.lenses := hlenses
  have hdistinct : (plan.lenses.map Lens.agent).Nodup := ReviewOptions.nodup_agents_of_plan planned
  obtain ⟨root, tasks, opened, k, calls, last, h⟩ := Session.exists_reviewed nonempty planned e.run e.token (e.start m)
  obtain ⟨new, hnew, htold⟩ := h.exists_told
  obtain ⟨events, hmetrics, hlength⟩ := h.counts
  have hadmits : (e.sighting m).errand.options.admits (e.sighting m).errand.diff = true := e.admits_iff.mpr taken
  have hseen : (e.sighting m).errand.lenses = plan.lenses := hlenses
  have hnew : (e.carryOut m).2.2.events = e.session.events ++ new := hnew
  have hkinds : (e.sighting m).kinds = Session.toldKinds e.diff e.options e.run plan (e.start m) k calls := by
    rw [sighting, hnew, List.drop_left, htold]
  have hclient (honest : e.Honest) : ∀ lens ∈ plan.lenses, ∀ error,
      ((e.start m).answers e.diff e.options lens.id.name).reply = .failed error → error.code ≠ .notStarted :=
    fun lens hlens error herror => honest lens (hlenses ▸ hlens) error (Lens.reply_of_answers herror nofun)
  refine ⟨_, hmetrics, ?_⟩
  constructor
  · simp [hadmits, LensEnd.reviewTally]
  · simp [hseen, LensEnd.reviewTally, LensEnd.sum_tally, LensEnd.length_ofRun]
  · simp only [total_cons, total_nil, hkinds, h.countP_isComplete hdistinct]
    exact LensEnd.succeeded_ofRun _ k _
  · intro honest
    simp only [total_cons, total_nil, hkinds, ← h.countP_isError hdistinct (hclient (honest _ List.mem_cons_self))]
    rfl
  · intro honest
    simp only [total_cons, total_nil, hkinds, h.unstarted_eq hdistinct]
    exact LensEnd.skipped_ofRun _ (hclient (honest _ List.mem_cons_self)) k
  · rfl
  · simp only [total_cons, total_nil, Sighting.unreadable, hseen, hkinds]
    exact h.malformed_eq hdistinct
  · have hlength : (e.session.events ++ new).length = e.session.events.length + events := hnew ▸ hlength
    rw [List.length_append] at hlength
    simp only [total_cons, total_nil, hkinds, ← htold, List.length_map]
    change events = _
    omega

theorem exists_tally (e : Errand) (m : Metrics) :
    ∃ t : Tally, (e.carryOut m).2.2.metrics = m.plus t ∧ t.Accounts [e.sighting m] := by
  by_cases refused : e.lenses = []
  · obtain ⟨hmetrics, haccounts⟩ := accounts_of_refused refused m
    exact ⟨{}, hmetrics.trans m.plus_zero.symm, haccounts⟩
  · exact exists_tally_of_lens refused m

theorem exists_tally_all (errands : List Errand) (m : Metrics) :
    ∃ t : Tally, (carryOutAll errands m).2 = m.plus t ∧ t.Accounts (carryOutAll errands m).1 := by
  induction errands generalizing m with
  | nil => exact ⟨{}, m.plus_zero.symm, Tally.accounts_nil⟩
  | cons e rest ih =>
    obtain ⟨t, hmetrics, hfirst⟩ := e.exists_tally m
    obtain ⟨u, hlast, hlater⟩ := ih (e.carryOut m).2.2.metrics
    refine ⟨t + u, ?_, hfirst.cons hlater⟩
    rw [carryOutAll, ← Metrics.plus_plus, ← hmetrics]
    exact hlast

/-- The counters, after they were reset and whatever reviews were asked for since, say what was to be seen of
these reviews, as far as 64 bits can. -/
theorem carryOutAll_accounts (errands : List Errand) :
    let done := carryOutAll errands .zero
    ∃ t : Tally, t.Accounts done.1 ∧ done.2.toList.map UInt64.toNat = t.toList.map (· % 2 ^ 64) := by
  intro done
  obtain ⟨t, hmetrics, haccounts⟩ := exists_tally_all errands .zero
  refine ⟨t, haccounts, ?_⟩
  rw [hmetrics, Metrics.toNat_toList_plus]

/-- The first errand is refused, in the second one lens has an entry that cannot be read and one fails, and the
third is cancelled before it begins. -/
theorem carryOutAll_accounts_of_three_errands :
    let client := (ScriptedClient.new.withReply "correctness"
      (.returned (.object [("summary", .text "Done."), ("issues", .list [.null])]))).withReply
      "security" (.failed ⟨.rateLimited, "slow down"⟩)
    let errand : Errand := ⟨.new client .counting, .ofFiles [⟨"lib.rs", none, .modify, [], "", 1, 0⟩],
      ⟨some ["correctness", "security"], none, none, none, none⟩, ⟨1, false, false⟩, .fresh⟩
    let done := carryOutAll
      [{ errand with diff := .ofFiles [] }, errand, { errand with token := Token.fresh.cancelAt 0 }] .zero
    (∀ v ∈ done.1, v.errand.Honest) ∧ done.2.toList = [2, 1, 1, 2, 0, 1, 14] ∧
      ∃ t : Tally, t.Accounts done.1 ∧ t.failed = 1 ∧ t.skipped = 2 ∧
        done.2.toList.map UInt64.toNat = t.toList.map (· % 2 ^ 64) := by
  intro client errand done
  have honest : ∀ v ∈ done.1, v.errand.Honest := by
    have hclient : ∀ (id : LensId) (e : ReviewError), (client.script id.name).reply = .failed e →
        e.code ≠ .notStarted := by
      intro id e he
      cases id <;> cases he
      decide
    intro v hv lens _ e he
    simp only [done, carryOutAll, List.mem_cons, List.not_mem_nil, or_false] at hv
    rcases hv with rfl | rfl | rfl <;> exact hclient lens.id e he
  obtain ⟨t, haccounts, hcounters⟩ := carryOutAll_accounts
    [{ errand with diff := .ofFiles [] }, errand, { errand with token := Token.fresh.cancelAt 0 }]
  have hfailed : total (·.kinds.countP EventKind.isError) done.1 = 1 := by decide +kernel
  have hskipped : total (EventKind.unstarted ·.kinds) done.1 = 2 := by decide +kernel
  exact ⟨honest, by decide +kernel, t, haccounts, (haccounts.failed_eq honest).trans hfailed,
    (haccounts.skipped_eq honest).trans hskipped, hcounters⟩

end Errand

end ReviewPanel
