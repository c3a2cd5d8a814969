import Mathlib.Data.List.Sort
import ReviewPanel.Proofs.Review.LensChoice
import ReviewPanel.Proofs.Text.Spelling

/-! # The first names of lenses

The lenses that a list of names asks for come in the order in which they are first named, however they are
written. A list that goes on adds what it names for the first time, and the names of the lenses that were found
lead back to them. -/
namespace ReviewPanel

namespace LensId

/-- The text is the name of the lens, apart from blanks around it and the case of ASCII letters. -/
def isNamedBy (id : LensId) (text : String) : Bool := Text.sameIgnoringCase id.name (Text.trimmed text)

theorem parse?_eq_some_iff {text : String} {id : LensId} : parse? text = some id ↔ id.isNamedBy text = true := by
  have hlower : Text.asciiLower id.name = id.name := by cases id <;> decide
  rw [isNamedBy, Text.sameIgnoringCase_iff hlower, parse?]
  constructor
  · intro h
    have hname := List.find?_some h
    exact (beq_iff_eq.mp hname).symm
  · intro h
    rw [h]
    cases id <;> decide

theorem parse?_name (id : LensId) : parse? id.name = some id := by cases id <;> decide

/-- A text names one lens at most. -/
theorem isNamedBy_of_ne {text : String} {id other : LensId} (h : id.isNamedBy text = true) (hne : other ≠ id) :
    other.isNamedBy text = false := by
  rw [Bool.eq_false_iff]
  intro hother
  rw [← parse?_eq_some_iff] at h hother
  exact hne (Option.some.inj (hother.symm.trans h))

/-- The place of the first name of a lens. -/
def place (id : LensId) (names : List String) : ℕ := names.findIdx id.isNamedBy

theorem place_cons_of_named {id : LensId} {name : String} (h : id.isNamedBy name = true) (rest : List String) :
    id.place (name :: rest) = 0 := by
  rw [place, List.findIdx_cons, h]
  rfl

theorem place_cons_of_not_named {id : LensId} {name : String} (h : id.isNamedBy name = false)
    (rest : List String) : id.place (name :: rest) = id.place rest + 1 := by
  rw [place, List.findIdx_cons, h]
  rfl

end LensId

namespace Lens

/-- The lenses that some names ask for, apart from those that were taken before, in the order in which they are
first named. -/
structure FirstNamed (taken : List LensId) (names : List String) (ids : List LensId) : Prop where
  mem_iff : ∀ id, id ∈ ids ↔ id ∉ taken ∧ ∃ name ∈ names, id.isNamedBy name = true
  ascending : ids.Pairwise fun a b => a.place names < b.place names

theorem FirstNamed.unique {taken : List LensId} {names : List String} {ids ids' : List LensId}
    (h : FirstNamed taken names ids) (h' : FirstNamed taken names ids') : ids = ids' := by
  have irrefl : Std.Irrefl fun a b : LensId => a.place names < b.place names := ⟨fun _ => Nat.lt_irrefl _⟩
  have antisymm : Std.Antisymm fun a b : LensId => a.place names < b.place names :=
    ⟨fun _ _ hab hba => absurd (hab.trans hba) (Nat.lt_irrefl _)⟩
  exact h.ascending.eq_of_mem_iff h'.ascending fun id => (h.mem_iff id).trans (h'.mem_iff id).symm

/-- A name that asks for none of the lenses moves all their places by one. -/
theorem pairwise_place_cons {ids : List LensId} {name : String} {rest : List String}
    (others : ∀ id ∈ ids, id.isNamedBy name = false)
    (h : ids.Pairwise fun a b => a.place rest < b.place rest) :
    ids.Pairwise fun a b => a.place (name :: rest) < b.place (name :: rest) := by
  refine h.imp_of_mem fun {a b} ha hb hlt => ?_
  rw [LensId.place_cons_of_not_named (others a ha), LensId.place_cons_of_not_named (others b hb)]
  exact Nat.succ_lt_succ hlt

/-- A name in front that asks for nothing new. -/
theorem FirstNamed.cons_of_taken {taken ids : List LensId} {name : String} {rest : List String}
    (known : ∀ id, id.isNamedBy name = true → id ∈ taken) (h : FirstNamed taken rest ids) :
    FirstNamed taken (name :: rest) ids := by
  have hother (id : LensId) (fresh : id ∉ taken) : id.isNamedBy name = false :=
    Bool.eq_false_iff.mpr (mt (known id) fresh)
  refine ⟨fun id => ?_, pairwise_place_cons (fun id hid => hother id ((h.mem_iff id).mp hid).1) h.ascending⟩
  rw [h.mem_iff, List.exists_mem_cons_iff]
  refine and_congr_right fun fresh => (or_iff_right ?_).symm
  rw [hother id fresh]
  exact Bool.false_ne_true

/-- A name in front that asks for a lens for the first time. -/
theorem FirstNamed.cons_of_fresh {taken ids : List LensId} {found : LensId} {name : String} {rest : List String}
    (fresh : found ∉ taken) (asked : found.isNamedBy name = true) (h : FirstNamed (taken ++ [found]) rest ids) :
    FirstNamed taken (name :: rest) (found :: ids) := by
  have hmem (id : LensId) : id ∈ ids ↔ (id ∉ taken ∧ id ≠ found) ∧ ∃ text ∈ rest, id.isNamedBy text = true := by
    rw [h.mem_iff, List.mem_append, List.mem_singleton, not_or]
  have hother (id : LensId) (hne : id ≠ found) : id.isNamedBy name = false := LensId.isNamedBy_of_ne asked hne
  have hids (id : LensId) (hid : id ∈ ids) : id.isNamedBy name = false := hother id ((hmem id).mp hid).1.2
  refine ⟨fun id => ?_, List.pairwise_cons.mpr ⟨fun id hid => ?_, pairwise_place_cons hids h.ascending⟩⟩
  · rw [List.mem_cons, hmem, List.exists_mem_cons_iff]
    by_cases heq : id = found
    · simp [heq, fresh, asked]
    · simp [heq, hother id heq]
  · rw [LensId.place_cons_of_named asked, LensId.place_cons_of_not_named (hids id hid)]
    exact Nat.succ_pos _

theorem named_cons_of_taken {taken : List LensId} {name : String}
    (known : ∀ id, LensId.parse? name = some id → id ∈ taken) (rest : List String) :
    named taken (name :: rest) = named taken rest := by
  rw [named]
  cases hname : LensId.parse? name with
  | none => rfl
  | some found => simp only [if_pos (List.contains_iff_mem.mpr (known found hname))]

theorem named_cons_of_fresh {taken : List LensId} {name : String} {found : LensId}
    (h : LensId.parse? name = some found) (fresh : found ∉ taken) (rest : List String) :
    named taken (name :: rest) = found :: named (taken ++ [found]) rest := by
  simp only [named, h, if_neg (mt List.contains_iff_mem.mp fresh)]

/-- A name asks for a lens for the first time, or for nothing new. -/
theorem fresh_or_taken (taken : List LensId) (name : String) :
    (∃ found, LensId.parse? name = some found ∧ found ∉ taken) ∨
      ∀ id, LensId.parse? name = some id → id ∈ taken := by
  by_cases hfresh : ∃ found, LensId.parse? name = some found ∧ found ∉ taken
  · exact .inl hfresh
  · exact .inr fun id hid => by_contra fun hnew => hfresh ⟨id, hid, hnew⟩

theorem firstNamed_named (taken : List LensId) (names : List String) :
    FirstNamed taken names (named taken names) := by
  induction names generalizing taken with
  | nil => exact ⟨fun id => by simp [named], .nil⟩
  | cons name rest ih =>
    rcases fresh_or_taken taken name with ⟨found, hname, fresh⟩ | known
    · rw [named_cons_of_fresh hname fresh]
      exact (ih _).cons_of_fresh fresh (LensId.parse?_eq_some_iff.mp hname)
    · rw [named_cons_of_taken known]
      exact (ih _).cons_of_taken fun id hid => known id (LensId.parse?_eq_some_iff.mpr hid)

/-- Names that go on ask for the lenses that were not asked for before. -/
theorem named_append (taken : List LensId) (xs ys : List String) :
    named taken (xs ++ ys) = named taken xs ++ named (taken ++ named taken xs) ys := by
  induction xs generalizing taken with
  | nil => rw [List.nil_append, named, List.nil_append, List.append_nil]
  | cons name rest ih =>
    rw [List.cons_append]
    rcases fresh_or_taken taken name with ⟨found, hname, fresh⟩ | known
    · rw [named_cons_of_fresh hname fresh, named_cons_of_fresh hname fresh, ih, List.append_assoc]
      rfl
    · rw [named_cons_of_taken known, named_cons_of_taken known, ih]

/-- The names of different lenses ask for these lenses. -/
theorem named_map_name {taken ids : List LensId} (distinct : ids.Nodup) (fresh : ∀ id ∈ ids, id ∉ taken) :
    named taken (ids.map LensId.name) = ids := by
  induction ids generalizing taken with
  | nil => rfl
  | cons id rest ih =>
    obtain ⟨hid, hrest⟩ := List.nodup_cons.mp distinct
    obtain ⟨hfresh, hfreshRest⟩ := List.forall_mem_cons.mp fresh
    have hnext : ∀ other ∈ rest, other ∉ taken ++ [id] := by
      intro other hother hmem
      rcases List.mem_append.mp hmem with hmem | hmem
      · exact hfreshRest other hother hmem
      · exact hid (List.mem_singleton.mp hmem ▸ hother)
    rw [List.map_cons, named_cons_of_fresh id.parse?_name hfresh, ih hrest hnext]

/-- The lenses that a list of names asks for. -/
def askedFor (names : List String) : List LensId := (resolve (some names)).map (·.id)

theorem askedFor_eq (names : List String) : askedFor names = resolveIds (some names) := by
  rw [askedFor, resolve, List.map_map]
  exact List.map_id'' id_ofId _

/-- No names at all ask for the lenses that are there by default. -/
theorem askedFor_of_ne_nil {names : List String} (h : names ≠ []) : askedFor names = named [] names := by
  rw [askedFor_eq]
  cases names with
  | nil => exact absurd rfl h
  | cons name rest => rfl

/-- A list of names asks for the lenses that its entries name, each at its first place, and for no others. More
names add what they name for the first time, and the names of the lenses that were found ask for the same lenses
again. -/
theorem resolve_first_named {names : List String} (nonempty : names ≠ []) :
    (∀ ids, FirstNamed [] names ids ↔ ids = askedFor names) ∧ (askedFor names).Nodup ∧
      (∀ more, ∃ added, FirstNamed (askedFor names) more added ∧
        askedFor (names ++ more) = askedFor names ++ added) ∧
      (askedFor names ≠ [] → askedFor ((askedFor names).map LensId.name) = askedFor names) := by
  have hfirst := firstNamed_named [] names
  have hdistinct := (nodup_named [] names).1
  rw [askedFor_of_ne_nil nonempty]
  refine ⟨fun ids => ?_, hdistinct, fun more => ?_, fun hne => ?_⟩
  · constructor
    · exact fun h => h.unique hfirst
    · rintro rfl
      exact hfirst
  · refine ⟨_, firstNamed_named (named [] names) more, ?_⟩
    rw [askedFor_of_ne_nil (List.append_ne_nil_of_left_ne_nil nonempty more), named_append, List.nil_append]
  · rw [askedFor_of_ne_nil (mt List.map_eq_nil_iff.mp hne)]
    exact named_map_name hdistinct fun id _ => List.not_mem_nil

/-- Repeated names in other letters, blanks beyond ASCII and a name of no lens. -/
theorem resolve_first_named_of_mixed_names :
    let names := ["\u2003Tests", "style", "SECURITY\n", "tests"]
    names ≠ [] ∧ FirstNamed [] names [.tests, .security] ∧
      askedFor ["tests", "security"] = [.tests, .security] ∧
      ∃ added, FirstNamed [.tests, .security] ["TESTS", "performance"] added ∧
        askedFor (names ++ ["TESTS", "performance"]) = [.tests, .security] ++ added := by
  intro names
  have nonempty : names ≠ [] := List.cons_ne_nil _ _
  have hids : askedFor names = [.tests, .security] := by decide
  obtain ⟨hfirst, -, hmore, hback⟩ := resolve_first_named nonempty
  obtain ⟨added, hadded, happend⟩ := hmore ["TESTS", "performance"]
  have hnames : askedFor ((askedFor names).map LensId.name) = askedFor names :=
    hback (hids ▸ List.cons_ne_nil _ _ : askedFor names ≠ [])
  refine ⟨nonempty, (hfirst _).mpr hids.symm, ?_, added, ?_, ?_⟩
  · rw [hids] at hnames
    exact hnames
  · exact hids ▸ hadded
  · exact happend.trans (congrArg (· ++ added) hids)

end Lens

end ReviewPanel
