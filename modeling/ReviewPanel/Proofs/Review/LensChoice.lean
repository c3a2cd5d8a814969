import ReviewPanel.Proofs.Review.PlannedLenses

/-! # The choice of lenses

The lenses of a review are those that the caller lists, if the list has an entry, or else those of the profile
that the caller names, if it is known, or else the default. Only a list of which no entry names a lens leaves
a review without lenses. -/
namespace ReviewPanel

namespace LensId

/-- A text names a lens, apart from blanks around it and the case of ASCII letters. -/
def IsNamed (name : String) : Prop := ∃ id : LensId, Text.asciiLower (Text.trimmed name) = id.name

theorem mem_all (id : LensId) : id ∈ all := by cases id <;> decide

theorem isNamed_name (id : LensId) : IsNamed id.name := ⟨id, by cases id <;> decide⟩

theorem parse?_eq_none_iff {name : String} : parse? name = none ↔ ¬ IsNamed name := by
  rw [parse?, List.find?_eq_none]
  constructor
  · rintro unknown ⟨id, hid⟩
    exact unknown id (mem_all id) (beq_iff_eq.mpr hid.symm)
  · intro unknown id _ hid
    exact unknown ⟨id, (beq_iff_eq.mp hid).symm⟩

end LensId

namespace Lens

theorem named_eq_nil_iff {names : List String} :
    named [] names = [] ↔ ∀ name ∈ names, ¬ LensId.IsNamed name := by
  induction names with
  | nil => exact iff_of_true rfl fun name h => absurd h List.not_mem_nil
  | cons name rest ih =>
    rw [named, List.forall_mem_cons, ← LensId.parse?_eq_none_iff]
    cases LensId.parse? name with
    | none => exact ih.trans (and_iff_right rfl).symm
    | some id => exact iff_of_false (List.cons_ne_nil _ _) fun h => Option.some_ne_none id h.1

theorem resolve_eq_nil_iff {names : List String} :
    resolve (some names) = [] ↔ names ≠ [] ∧ ∀ name ∈ names, ¬ LensId.IsNamed name := by
  rw [resolve, List.map_eq_nil_iff]
  cases names with
  | nil => exact iff_of_false (List.cons_ne_nil _ _) fun h => h.1 rfl
  | cons name rest => exact named_eq_nil_iff.trans (and_iff_right (List.cons_ne_nil _ _)).symm

end Lens

namespace Profile

/-- A profile has lenses, and names them so that they are found. -/
theorem resolve_lensNames_ne_nil {p : Profile} (h : p ∈ all) : Lens.resolve (some p.lensNames) ≠ [] := by
  have hlenses : ∀ p ∈ all, p.lenses ≠ [] := by decide
  obtain ⟨id, rest, hcons⟩ := List.exists_cons_of_ne_nil (hlenses p h)
  rw [Ne, Lens.resolve_eq_nil_iff, lensNames, hcons]
  exact fun hnil => hnil.2 id.name List.mem_cons_self id.isNamed_name

theorem spec_of_find? {name : String} {p : Profile} (h : find? name = some p) :
    p ∈ all ∧ Text.sameIgnoringCase p.name (Text.trimmed name) = true := by
  rw [find?] at h
  have hnamed := List.find?_some h
  exact ⟨List.mem_of_find?_eq_some h, hnamed⟩

theorem find?_ne_none {name : String} {p : Profile} (hp : p ∈ all)
    (named : Text.sameIgnoringCase p.name (Text.trimmed name) = true) : find? name ≠ none := by
  rw [find?, Ne, List.find?_eq_none]
  exact fun unknown => unknown p hp named

/-- A text names one profile at most. -/
theorem eq_of_sameIgnoringCase {p q : Profile} (hp : p ∈ all) (hq : q ∈ all) {name : String}
    (hpname : Text.sameIgnoringCase p.name name = true) (hqname : Text.sameIgnoringCase q.name name = true) :
    p = q := by
  have hdistinct : ∀ p ∈ all, ∀ q ∈ all,
      p.name.toList.map Char.toLower = q.name.toList.map Char.toLower → p = q := by decide
  rw [Text.sameIgnoringCase, beq_iff_eq] at hpname hqname
  exact hdistinct p hp q hq (hpname.trans hqname.symm)

end Profile

namespace ReviewOptions

/-- The caller lists names of which none is that of a lens. -/
structure AsksInVain (o : ReviewOptions) (names : List String) : Prop where
  listed : o.lenses = some names
  nonempty : names ≠ []
  unknown : ∀ name ∈ names, ¬ LensId.IsNamed name

/-- The caller names a profile, apart from blanks around the name and the case of ASCII letters. -/
structure Profiled (o : ReviewOptions) (p : Profile) : Prop where
  mem_all : p ∈ Profile.all
  named : ∃ name, o.profile = some name ∧ Text.sameIgnoringCase p.name (Text.trimmed name) = true

/-- Where the lenses of a review come from. -/
inductive Chooses (o : ReviewOptions) : List Lens → Prop where
  | listed {names : List String} (listed : o.lenses = some names) (nonempty : names ≠ []) :
      Chooses o (Lens.resolve (some names))
  | profiled {p : Profile} (unlisted : o.lenses.getD [] = []) (profiled : o.Profiled p) :
      Chooses o (Lens.resolve (some p.lensNames))
  | unspecified (unlisted : o.lenses.getD [] = []) (unprofiled : ∀ p, ¬ o.Profiled p) :
      Chooses o [Lens.ofId .correctness]

/-- Where the threshold of a review comes from. -/
inductive Demands (o : ReviewOptions) : Option Severity → Prop where
  | stated {severity : Severity} (stated : o.minSeverity = some severity) : Demands o (some severity)
  | profiled {p : Profile} (unstated : o.minSeverity = none) (profiled : o.Profiled p) :
      Demands o p.minSeverity
  | unspecified (unstated : o.minSeverity = none) (unprofiled : ∀ p, ¬ o.Profiled p) : Demands o none

variable {o : ReviewOptions}

theorem knownProfile_eq_some_iff {p : Profile} : o.knownProfile = some p ↔ o.Profiled p := by
  rw [knownProfile, Option.bind_eq_some_iff]
  constructor
  · rintro ⟨name, hname, hfind⟩
    obtain ⟨hp, hnamed⟩ := Profile.spec_of_find? hfind
    exact ⟨hp, name, hname, hnamed⟩
  · rintro ⟨hp, name, hname, hnamed⟩
    refine ⟨name, hname, ?_⟩
    cases hfind : Profile.find? name with
    | none => exact absurd hfind (Profile.find?_ne_none hp hnamed)
    | some q =>
      obtain ⟨hq, hqnamed⟩ := Profile.spec_of_find? hfind
      rw [Profile.eq_of_sameIgnoringCase hq hp hqnamed hnamed]

theorem not_profiled (h : o.knownProfile = none) (p : Profile) : ¬ o.Profiled p := by
  intro hp
  rw [knownProfile_eq_some_iff.mpr hp] at h
  cases h

theorem chooses_resolve (o : ReviewOptions) : o.Chooses (Lens.resolve o.requested) := by
  rw [requested]
  cases hlenses : o.lenses with
  | none =>
    cases hprofile : o.knownProfile with
    | none => exact .unspecified (by rw [hlenses]; rfl) (not_profiled hprofile)
    | some p => exact .profiled (by rw [hlenses]; rfl) (knownProfile_eq_some_iff.mp hprofile)
  | some names =>
    cases names with
    | nil =>
      cases hprofile : o.knownProfile with
      | none => exact .unspecified (by rw [hlenses]; rfl) (not_profiled hprofile)
      | some p => exact .profiled (by rw [hlenses]; rfl) (knownProfile_eq_some_iff.mp hprofile)
    | cons name rest => exact .listed hlenses (List.cons_ne_nil _ _)

theorem demands_threshold (o : ReviewOptions) : o.Demands o.threshold := by
  rw [threshold]
  cases hseverity : o.minSeverity with
  | some severity => exact .stated hseverity
  | none =>
    cases hprofile : o.knownProfile with
    | none => exact .unspecified hseverity (not_profiled hprofile)
    | some p => exact .profiled hseverity (knownProfile_eq_some_iff.mp hprofile)

theorem AsksInVain.requested_eq {names : List String} (h : o.AsksInVain names) : o.requested = some names := by
  obtain ⟨name, rest, rfl⟩ := List.exists_cons_of_ne_nil h.nonempty
  rw [requested, h.listed]

theorem AsksInVain.plan_eq {names : List String} (h : o.AsksInVain names) :
    o.plan = .error (.noLenses names) := by
  have hnil : Lens.resolve (some names) = [] := Lens.resolve_eq_nil_iff.mpr ⟨h.nonempty, h.unknown⟩
  rw [plan, h.requested_eq, hnil]
  rfl

/-- Nothing but a list without a known name leaves a review without lenses. -/
theorem resolve_requested_ne_nil (h : ∀ names, ¬ o.AsksInVain names) : Lens.resolve o.requested ≠ [] := by
  intro hnil
  have hchooses := o.chooses_resolve
  rw [hnil] at hchooses
  generalize hlenses : ([] : List Lens) = lenses at hchooses
  cases hchooses with
  | @listed names listed nonempty =>
    exact h names ⟨listed, nonempty, (Lens.resolve_eq_nil_iff.mp hlenses.symm).2⟩
  | profiled unlisted profiled => exact Profile.resolve_lensNames_ne_nil profiled.mem_all hlenses.symm
  | unspecified unlisted unprofiled => cases hlenses

end ReviewOptions

end ReviewPanel
