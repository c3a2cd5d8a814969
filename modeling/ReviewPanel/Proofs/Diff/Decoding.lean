import ReviewPanel.Diff.Wire
import ReviewPanel.Proofs.Wire.Reading

/-! # Diffs are read back

A diff is read back from its JSON form if its counts have 64 bits. The line numbers of a hunk have 32 bits by
their type. -/
namespace ReviewPanel

open Json (Printable)
open Wire

theorem FileOperation.reads_encode (o : FileOperation) : Reads FileOperation.decoder o.encode o := by
  have hnamed : (all.map fun v => (v.name, v)).lookup o.name = some o := by cases o <;> rfl
  exact reads_named hnamed

theorem Hunk.reads_encode (h : Hunk) : Reads Hunk.decoder h.encode h := by
  refine reads_record _ ((((((Fields.reads_pure Hunk.mk).seq
    (Fields.reads_required rfl (reads_word h.oldStart))).seq
    (Fields.reads_required rfl (reads_word h.oldLines))).seq
    (Fields.reads_required rfl (reads_word h.newStart))).seq
    (Fields.reads_required rfl (reads_word h.newLines))).seq
    (Fields.reads_required rfl (reads_text h.content))) ?_
  simp

theorem Hunk.printable_encode (h : Hunk) (n : Nat) : h.encode.Printable (n + 1) :=
  Printable.object (by simp)

namespace DiffStats

/-- All counts have 64 bits. -/
structure Fits (s : DiffStats) : Prop where
  filesChanged : s.filesChanged < 2 ^ 64
  additions : s.additions < 2 ^ 64
  deletions : s.deletions < 2 ^ 64

theorem reads_encode {s : DiffStats} (h : s.Fits) : Reads decoder s.encode s := by
  refine reads_record _ ((((Fields.reads_pure DiffStats.mk).seq
    (Fields.reads_required rfl (reads_count h.filesChanged))).seq
    (Fields.reads_required rfl (reads_count h.additions))).seq
    (Fields.reads_required rfl (reads_count h.deletions))) ?_
  simp

theorem printable_encode {s : DiffStats} (h : s.Fits) (n : Nat) : s.encode.Printable (n + 1) :=
  Printable.object (by simp [Printable.nat h.filesChanged, Printable.nat h.additions, Printable.nat h.deletions])

end DiffStats

namespace FileDiff

/-- Both counts have 64 bits. -/
structure Fits (f : FileDiff) : Prop where
  additions : f.additions < 2 ^ 64
  deletions : f.deletions < 2 ^ 64

def fields (f : FileDiff) : List (String × Option Json) :=
  [("path", some (.text f.path)), ("oldPath", f.oldPath.map .text), ("operation", some f.operation.encode),
    ("hunks", some (.list (f.hunks.map Hunk.encode))), ("raw", some (.text f.raw)),
    ("additions", some (Json.nat f.additions)), ("deletions", some (Json.nat f.deletions))]

theorem distinct_fields (f : FileDiff) : (f.fields.map Prod.fst).Nodup := by
  simp [fields]

theorem reads_encode {f : FileDiff} (h : f.Fits) : Reads decoder f.encode f := by
  have hlookup := lookup_present f.distinct_fields
  refine reads_ofFields _ ((((((((Fields.reads_pure FileDiff.mk).seq
    (Fields.reads_required (hlookup "path") (reads_text f.path))).seq
    (Fields.reads_optional (hlookup "oldPath") (fun t _ => reads_text t) nofun)).seq
    (Fields.reads_required (hlookup "operation") f.operation.reads_encode)).seq
    (Fields.reads_withDefault (hlookup "hunks") (reads_list fun hunk _ => hunk.reads_encode))).seq
    (Fields.reads_withDefault (hlookup "raw") (reads_text f.raw))).seq
    (Fields.reads_withDefault (hlookup "additions") (reads_count h.additions))).seq
    (Fields.reads_withDefault (hlookup "deletions") (reads_count h.deletions))) f.distinct_fields

theorem printable_encode {f : FileDiff} (h : f.Fits) (n : Nat) : f.encode.Printable (n + 3) := by
  have hhunks := Printable.list_map fun hunk (_ : hunk ∈ f.hunks) => hunk.printable_encode n
  have hvalues : ∀ v ∈ f.fields, ∀ j, v.2 = some j → j.Printable (n + 2) := by
    simp [fields, FileOperation.encode, hhunks, Printable.nat h.additions, Printable.nat h.deletions]
  exact printable_ofFields hvalues

end FileDiff

namespace Diff

/-- All counts have 64 bits. -/
structure Fits (d : Diff) : Prop where
  files : ∀ f ∈ d.files, f.Fits
  stats : d.stats.Fits

theorem reads_encode {d : Diff} (h : d.Fits) : Reads decoder d.encode d := by
  refine reads_record _ (((Fields.reads_pure Diff.mk).seq
    (Fields.reads_required rfl (reads_list fun f hf => FileDiff.reads_encode (h.files f hf)))).seq
    (Fields.reads_withDefault rfl (DiffStats.reads_encode h.stats))) ?_
  simp

theorem printable_encode {d : Diff} (h : d.Fits) : d.encode.Printable 5 := by
  have hfiles := Printable.list_map fun f hf => FileDiff.printable_encode (h.files f hf) 0
  have hstats : d.stats.encode.Printable 4 := DiffStats.printable_encode h.stats 3
  exact Printable.object (by simp [hfiles, hstats])

end Diff

end ReviewPanel
