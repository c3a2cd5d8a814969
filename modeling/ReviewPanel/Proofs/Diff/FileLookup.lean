import Mathlib.Data.List.Nodup
import ReviewPanel.Diff.Basic
import ReviewPanel.Proofs.Text.NormalPath

/-! # Looking up files

A path that is looked up loses its leading `./`, while the paths of the files stay as they are, and the first
file that has the path or was renamed from it is found. So a file is found by its own path unless that begins
with `./` or a file ahead of it has left the path behind. -/
namespace ReviewPanel

namespace Text

/-- A path without its leading `./`. -/
def withoutDots (path : String) : String := String.ofList (dropDots path.toList)

theorem withoutDots_of_not_dotted {path : String} (h : ¬ IsDotted path) : withoutDots path = path := by
  rw [withoutDots, dropDots_of_not_dotted h, String.ofList_toList]

theorem not_isDotted_withoutDots (path : String) : ¬ IsDotted (withoutDots path) := by
  rw [IsDotted, withoutDots, String.toList_ofList]
  exact not_dotted_dropDots path.toList

theorem withoutDots_ne_of_dotted {path : String} (h : IsDotted path) : withoutDots path ≠ path :=
  fun heq => not_isDotted_withoutDots path (heq.symm ▸ h)

end Text

namespace FileDiff

/-- The path of a file, and the one before a renaming. -/
def ownPaths (f : FileDiff) : List String := f.path :: f.oldPath.toList

theorem mem_ownPaths {f : FileDiff} {path : String} :
    path ∈ f.ownPaths ↔ f.path = path ∨ f.oldPath = some path := by
  rw [ownPaths, List.mem_cons, Option.mem_toList, eq_comm]

end FileDiff

namespace Diff

/-- The file is the first one that has the path or had it before. -/
def LeadsTo (d : Diff) (path : String) (f : FileDiff) : Prop :=
  path ∈ f.ownPaths ∧ ∃ ahead behind, d.files = ahead ++ f :: behind ∧ ∀ g ∈ ahead, path ∉ g.ownPaths

/-- A file was renamed from the path and stands ahead of all files that are there now. -/
def IsShadowed (d : Diff) (path : String) : Prop :=
  ∃ ahead g behind, d.files = ahead ++ g :: behind ∧ g.oldPath = some path ∧ g.path ≠ path ∧
    ∀ f ∈ ahead, f.path ≠ path

variable {d : Diff} {f g : FileDiff} {path : String}

theorem findFile_eq_some_iff : d.findFile path = some f ↔ d.LeadsTo (Text.withoutDots path) f := by
  rw [findFile, List.find?_eq_some_iff_append, LeadsTo]
  simp only [FileDiff.mem_ownPaths, Text.withoutDots, Bool.or_eq_true, beq_iff_eq, Bool.not_eq_true',
    Bool.or_eq_false_iff, beq_eq_false_iff_ne, not_or, Ne]

theorem findFile_eq_none_iff :
    d.findFile path = none ↔ ∀ f ∈ d.files, Text.withoutDots path ∉ f.ownPaths := by
  rw [findFile, List.find?_eq_none]
  simp only [FileDiff.mem_ownPaths, Text.withoutDots, Bool.or_eq_true, beq_iff_eq]

theorem LeadsTo.mem (h : d.LeadsTo path f) : f ∈ d.files := by
  obtain ⟨-, ahead, behind, hfiles, -⟩ := h
  rw [hfiles]
  exact List.mem_append_right ahead List.mem_cons_self

theorem exists_leadsTo {written : String} (hf : f ∈ d.files) (own : Text.withoutDots written ∈ f.ownPaths) :
    ∃ g, d.findFile written = some g ∧ d.LeadsTo (Text.withoutDots written) g := by
  cases hfound : d.findFile written with
  | none => exact absurd own (findFile_eq_none_iff.mp hfound f hf)
  | some g => exact ⟨g, rfl, findFile_eq_some_iff.mp hfound⟩

/-- A list is divided at two entries, neither of them ahead of the other. -/
theorem eq_of_append_cons_eq {ahead ahead' behind behind' : List FileDiff} (hg : g ∉ ahead') (hf : f ∉ ahead)
    (h : ahead ++ g :: behind = ahead' ++ f :: behind') : g = f := by
  rcases List.append_eq_append_iff.mp h with ⟨mid, rfl, hrest⟩ | ⟨mid, rfl, hrest⟩
  · cases mid with
    | nil => exact (List.cons.inj hrest).1
    | cons m mid =>
      rw [(List.cons.inj hrest).1] at hg
      exact absurd (List.mem_append_right ahead List.mem_cons_self) hg
  · cases mid with
    | nil => exact (List.cons.inj hrest).1.symm
    | cons m mid =>
      rw [(List.cons.inj hrest).1] at hf
      exact absurd (List.mem_append_right ahead' List.mem_cons_self) hf

/-- The first file that has a path or had it before is at it unless the path is shadowed. -/
theorem LeadsTo.path_eq_iff (h : d.LeadsTo path g) : g.path = path ↔ ¬ d.IsShadowed path := by
  obtain ⟨own, ahead, behind, hfiles, hahead⟩ := h
  constructor
  · rintro hpath ⟨ahead', renamed, behind', hfiles', hold, hne, hahead'⟩
    -- The renamed file had the path, so it is not ahead of the one that is found, nor is that ahead of it.
    have hfound : g ∉ ahead' := fun hmem => hahead' g hmem hpath
    have hrenamed : renamed ∉ ahead := fun hmem => hahead renamed hmem (FileDiff.mem_ownPaths.mpr (.inr hold))
    exact hne (eq_of_append_cons_eq hfound hrenamed (hfiles.symm.trans hfiles') ▸ hpath)
  · intro visible
    by_contra hne
    exact visible ⟨ahead, g, behind, hfiles, (FileDiff.mem_ownPaths.mp own).resolve_left hne, hne,
      fun f hf hpath => hahead f hf (FileDiff.mem_ownPaths.mpr (.inl hpath))⟩

/-- What looking up a file by its own path comes to, with or without leading `./`. Without any in its own path,
it is found at that path exactly if the path is not shadowed. With them, no file is found for being at that
path. -/
structure Found (d : Diff) (f : FileDiff) : Prop where
  undotted : ¬ Text.IsDotted f.path → ∀ written, Text.withoutDots written = f.path →
    ∃ g, d.findFile written = some g ∧ (g.path = f.path ↔ ¬ d.IsShadowed f.path) ∧
      (d.paths.Nodup → ¬ d.IsShadowed f.path → g = f)
  dotted : Text.IsDotted f.path → ∀ g, d.findFile f.path = some g → g.path = f.path →
    g.oldPath = some (Text.withoutDots f.path)

theorem found (hf : f ∈ d.files) : d.Found f := by
  constructor
  · intro _ written hwritten
    have hown : Text.withoutDots written ∈ f.ownPaths := hwritten ▸ List.mem_cons_self
    obtain ⟨g, hfound, hleads⟩ := exists_leadsTo hf hown
    rw [hwritten] at hleads
    refine ⟨g, hfound, hleads.path_eq_iff, fun distinct visible => ?_⟩
    exact List.inj_on_of_nodup_map distinct hleads.mem hf (hleads.path_eq_iff.mpr visible)
  · intro dotted g hfound hpath
    obtain ⟨own, -⟩ := findFile_eq_some_iff.mp hfound
    refine (FileDiff.mem_ownPaths.mp own).resolve_left fun heq => ?_
    exact Text.withoutDots_ne_of_dotted dotted (heq.symm.trans hpath)

/-- No file is or was at a path with leading `./`. -/
def IsUndotted (d : Diff) : Prop := ∀ f ∈ d.files, ∀ path ∈ f.ownPaths, ¬ Text.IsDotted path

/-- The first file that has a path or had it before is found, and none is found if there is no such file. A file
is found by its own path unless this begins with `./` or is shadowed. -/
theorem findFile_finds_first (d : Diff) :
    (∀ path f, d.findFile path = some f ↔ d.LeadsTo (Text.withoutDots path) f) ∧
      (∀ path, d.findFile path = none ↔ ∀ f ∈ d.files, Text.withoutDots path ∉ f.ownPaths) ∧
      (∀ f ∈ d.files, d.Found f) ∧
      (d.IsUndotted → ∀ path, d.findFile path = none ↔
        ∀ f ∈ d.files, ∀ own ∈ f.ownPaths, Text.withoutDots own ≠ Text.withoutDots path) := by
  refine ⟨fun path f => findFile_eq_some_iff, fun path => findFile_eq_none_iff, fun f hf => found hf, ?_⟩
  intro undotted path
  rw [findFile_eq_none_iff]
  refine forall₂_congr fun f hf => ?_
  have hown : ∀ own ∈ f.ownPaths, Text.withoutDots own = own :=
    fun own hmem => Text.withoutDots_of_not_dotted (undotted f hf own hmem)
  constructor
  · intro hnot own hmem heq
    rw [hown own hmem] at heq
    exact hnot (heq ▸ hmem)
  · intro hne hmem
    exact hne _ hmem (hown _ hmem)

section Moved

/-- A new file at the path that another one was renamed from. -/
def replaced : FileDiff := .ofRaw "src/pool.rs" .add "+fn take();\n"

def moved : FileDiff := (FileDiff.ofRaw "src/lease.rs" .modify "").renamedFrom "src/pool.rs"

def dotted : FileDiff := .ofRaw "./src/main.rs" .modify ""

/-- The new file is found if it stands first. -/
theorem findFile_finds_first_of_moved :
    (ofFiles [replaced, moved]).findFile "././src/pool.rs" = some replaced ∧
      (ofFiles [replaced, moved]).IsUndotted ∧ (ofFiles [replaced, moved]).findFile "src/main.rs" = none := by
  obtain ⟨-, -, hfound, hnone⟩ := findFile_finds_first (ofFiles [replaced, moved])
  have hleads : (ofFiles [replaced, moved]).LeadsTo "src/pool.rs" replaced :=
    ⟨List.mem_cons_self, [], [moved], rfl, List.forall_mem_nil _⟩
  have hvisible : ¬ (ofFiles [replaced, moved]).IsShadowed replaced.path := hleads.path_eq_iff.mp rfl
  obtain ⟨g, hg, -, heq⟩ := (hfound replaced List.mem_cons_self).undotted (by decide) "././src/pool.rs" (by decide)
  have hundotted : (ofFiles [replaced, moved]).IsUndotted := by
    change ∀ f ∈ [replaced, moved], ∀ path ∈ f.ownPaths, ¬ Text.IsDotted path
    decide
  refine ⟨heq (by decide) hvisible ▸ hg, hundotted, (hnone hundotted "src/main.rs").mpr ?_⟩
  change ∀ f ∈ [replaced, moved], ∀ own ∈ f.ownPaths, Text.withoutDots own ≠ Text.withoutDots "src/main.rs"
  decide

/-- A file that stands behind one that has left its path is taken for that one, and a file whose path begins with
`./` is not found at all. -/
theorem misses_moved :
    (ofFiles [moved, replaced, dotted]).paths.Nodup ∧
      (ofFiles [moved, replaced, dotted]).findFile replaced.path = some moved ∧ moved.path ≠ replaced.path ∧
      (ofFiles [moved, replaced, dotted]).findFile dotted.path = none := by
  decide

end Moved

end Diff

end ReviewPanel
