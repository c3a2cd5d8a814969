import ReviewPanel.Issue.Wire
import ReviewPanel.Proofs.Diff.Decoding
import ReviewPanel.Proofs.Event.Decoding
import ReviewPanel.Report.Wire
import ReviewPanel.Settings.Wire

/-! # Values come back from their texts

Names, pieces of evidence, diffs, failures, traces, statistics and settings are read back from the texts to
which they are written, whatever characters their strings hold and whatever may be missing. A field without a
value is left out, or in settings written as null; an empty string is a value. -/
namespace ReviewPanel

open Json (Printable)
open Wire

theorem Severity.reads_name (s : Severity) : Reads Wire.severity (.text s.name) s := by
  have hparse : Severity.parse s.name = .ok s := by cases s <;> rfl
  exact reads_parsed hparse _ _

namespace Evidence

def fields (e : Evidence) : List (String × Option Json) :=
  [("kind", some (.text e.kind)), ("title", some (.text e.title)), ("sourceId", some (.text e.sourceId)),
    ("file", e.file.map .text), ("excerpt", some (.text e.excerpt))]

theorem distinct_fields (e : Evidence) : (e.fields.map Prod.fst).Nodup := by
  simp [fields]

theorem reads_encode (e : Evidence) : Reads decoder e.encode e := by
  have hlookup := lookup_present e.distinct_fields
  exact reads_ofFields _ ((((((Fields.reads_pure Evidence.mk).seq
    (Fields.reads_required (hlookup "kind") (reads_text e.kind))).seq
    (Fields.reads_required (hlookup "title") (reads_text e.title))).seq
    (Fields.reads_withDefault (hlookup "sourceId") (reads_text e.sourceId))).seq
    (Fields.reads_optional (hlookup "file") (fun t _ => reads_text t) nofun)).seq
    (Fields.reads_withDefault (hlookup "excerpt") (reads_text e.excerpt))) e.distinct_fields

theorem printable_encode (e : Evidence) (n : Nat) : e.encode.Printable (n + 1) := by
  have hvalues : ∀ f ∈ e.fields, ∀ j, f.2 = some j → j.Printable n := by
    simp [fields]
  exact printable_ofFields hvalues

end Evidence

namespace TraceContext

def fields (t : TraceContext) : List (String × Option Json) :=
  [("traceId", some (.text t.traceId)), ("spanId", some (.text t.spanId)),
    ("parentSpanId", t.parentSpanId.map .text)]

theorem distinct_fields (t : TraceContext) : (t.fields.map Prod.fst).Nodup := by
  simp [fields]

theorem reads_encode (t : TraceContext) : Reads decoder t.encode t := by
  have hlookup := lookup_present t.distinct_fields
  exact reads_ofFields _ ((((Fields.reads_pure TraceContext.mk).seq
    (Fields.reads_required (hlookup "traceId") (reads_text t.traceId))).seq
    (Fields.reads_required (hlookup "spanId") (reads_text t.spanId))).seq
    (Fields.reads_optional (hlookup "parentSpanId") (fun s _ => reads_text s) nofun)) t.distinct_fields

theorem printable_encode (t : TraceContext) (n : Nat) : t.encode.Printable (n + 1) := by
  have hvalues : ∀ f ∈ t.fields, ∀ j, f.2 = some j → j.Printable n := by
    simp [fields]
  exact printable_ofFields hvalues

end TraceContext

theorem FailedLens.reads_encode (f : FailedLens) : Reads FailedLens.decoder f.encode f := by
  refine reads_record _ (((((Fields.reads_pure FailedLens.mk).seq
    (Fields.reads_required rfl f.lensId.reads_encode)).seq
    (Fields.reads_required rfl (reads_text f.lensName))).seq
    (Fields.reads_required rfl f.errorCode.reads_encode)).seq
    (Fields.reads_required rfl (reads_text f.errorMessage))) ?_
  simp

theorem FailedLens.printable_encode (f : FailedLens) (n : Nat) : f.encode.Printable (n + 1) :=
  Printable.object (by simp [LensId.encode, ErrorCode.encode])

namespace FocusTarget

def fields (f : FocusTarget) : List (String × Option Json) :=
  [("file", some (.text f.file)), ("startLine", f.startLine.map Json.ofWord), ("endLine", f.endLine.map Json.ofWord)]

theorem distinct_fields (f : FocusTarget) : (f.fields.map Prod.fst).Nodup := by
  simp [fields]

theorem reads_encode (f : FocusTarget) : Reads decoder f.encode f := by
  have hlookup := lookup_present f.distinct_fields
  exact reads_ofFields _ ((((Fields.reads_pure FocusTarget.mk).seq
    (Fields.reads_required (hlookup "file") (reads_text f.file))).seq
    (Fields.reads_optional (hlookup "startLine") (fun w _ => reads_word w) nofun)).seq
    (Fields.reads_optional (hlookup "endLine") (fun w _ => reads_word w) nofun)) f.distinct_fields

theorem printable_encode (f : FocusTarget) (n : Nat) : f.encode.Printable (n + 1) := by
  have hvalues : ∀ v ∈ f.fields, ∀ j, v.2 = some j → j.Printable n := by
    simp [fields]
  exact printable_ofFields hvalues

end FocusTarget

namespace Settings

/-- The number of lenses at a time has 64 bits. -/
structure Fits (s : Settings) : Prop where
  concurrency : s.concurrency < 2 ^ 64

theorem reads_encode {s : Settings} (h : s.Fits) : Reads decoder s.encode s := by
  have hprofile : Reads (nullable text) ((s.profile.map .text).getD .null) s.profile :=
    reads_nullable (fun t _ => reads_text t) nofun
  have hseverity : Reads (nullable Wire.severity)
      ((s.minSeverity.map fun v => .text v.name).getD .null) s.minSeverity :=
    reads_nullable (fun v _ => v.reads_name) nofun
  refine reads_record _ ((((((((Fields.reads_pure Settings.mk).seq
    (Fields.reads_withDefault rfl (reads_count h.concurrency))).seq
    (Fields.reads_withDefault rfl (reads_bool s.partialOnAllFailed))).seq
    (Fields.reads_withDefault rfl (reads_bool s.failFast))).seq
    (Fields.reads_field rfl hprofile)).seq
    (Fields.reads_field rfl hseverity)).seq
    (Fields.reads_withDefault rfl (reads_bool s.logJson))).seq
    (Fields.reads_withDefault rfl (reads_text s.logLevel))) ?_
  simp

theorem printable_encode {s : Settings} (h : s.Fits) (n : Nat) : s.encode.Printable (n + 1) := by
  have hprofile := Printable.getD_null (fun t => Printable.text (n := n) t) s.profile
  have hseverity := Printable.getD_null (fun v => Printable.text (n := n) (Severity.name v)) s.minSeverity
  exact Printable.object (by simp [hprofile, hseverity, Printable.nat h.concurrency])

end Settings

/-- A value is read back from the text that it is written to, and is written to the same text again. -/
structure RoundTrips {α : Type} (encode : α → Json) (decode : Decoder α) (v : α) : Prop where
  read_eq : decodeText decode (encode v).render = .ok v
  rewrite_eq : (decodeText decode (encode v).render).map (fun w => (encode w).render) = .ok (encode v).render

theorem roundTrips_of_reads {α : Type} {encode : α → Json} {decode : Decoder α} {v : α}
    (h : Reads decode (encode v) v) {n : Nat} (printable : (encode v).Printable n) (depth : n ≤ Json.maxDepth) :
    RoundTrips encode decode v := by
  have hread : decodeText decode (encode v).render = .ok v := decodeText_render h (printable.mono depth)
  refine ⟨hread, ?_⟩
  rw [hread]
  rfl

/-- Every value whose numbers have the widths of their fields makes the round trip through its text. -/
theorem wire_values_round_trip :
    (∀ v : Severity, RoundTrips (fun s : Severity => .text s.name) Wire.severity v) ∧
    (∀ v : LensId, RoundTrips LensId.encode LensId.decoder v) ∧
    (∀ v : ErrorCode, RoundTrips ErrorCode.encode ErrorCode.decoder v) ∧
    (∀ v : FileOperation, RoundTrips FileOperation.encode FileOperation.decoder v) ∧
    (∀ v : Evidence, RoundTrips Evidence.encode Evidence.decoder v) ∧
    (∀ v : Hunk, RoundTrips Hunk.encode Hunk.decoder v) ∧
    (∀ v : DiffStats, v.Fits → RoundTrips DiffStats.encode DiffStats.decoder v) ∧
    (∀ v : FileDiff, v.Fits → RoundTrips FileDiff.encode FileDiff.decoder v) ∧
    (∀ v : Diff, v.Fits → RoundTrips Diff.encode Diff.decoder v) ∧
    (∀ v : ReviewError, RoundTrips ReviewError.encode ReviewError.decoder v) ∧
    (∀ v : TraceContext, RoundTrips TraceContext.encode TraceContext.decoder v) ∧
    (∀ v : AgentRef, RoundTrips AgentRef.encode AgentRef.decoder v) ∧
    (∀ v : LensStat, v.Fits → RoundTrips LensStat.encode LensStat.decoder v) ∧
    (∀ v : FailedLens, RoundTrips FailedLens.encode FailedLens.decoder v) ∧
    (∀ v : FocusTarget, RoundTrips FocusTarget.encode FocusTarget.decoder v) ∧
    (∀ v : Settings, v.Fits → RoundTrips Settings.encode Settings.decoder v) := by
  have hflat : 1 ≤ Json.maxDepth := by decide
  refine ⟨?_, ?_, ?_, ?_, ?_, ?_, ?_, ?_, ?_, ?_, ?_, ?_, ?_, ?_, ?_, ?_⟩
  · exact fun v => roundTrips_of_reads v.reads_name (Printable.text v.name) hflat
  · exact fun v => roundTrips_of_reads v.reads_encode (Printable.text v.name) hflat
  · exact fun v => roundTrips_of_reads v.reads_encode (Printable.text v.name) hflat
  · exact fun v => roundTrips_of_reads v.reads_encode (Printable.text v.name) hflat
  · exact fun v => roundTrips_of_reads v.reads_encode (v.printable_encode 0) hflat
  · exact fun v => roundTrips_of_reads v.reads_encode (v.printable_encode 0) hflat
  · exact fun v h => roundTrips_of_reads (DiffStats.reads_encode h) (DiffStats.printable_encode h 0) hflat
  · exact fun v h => roundTrips_of_reads (FileDiff.reads_encode h) (FileDiff.printable_encode h 0) (by decide)
  · exact fun v h => roundTrips_of_reads (Diff.reads_encode h) (Diff.printable_encode h) (by decide)
  · exact fun v => roundTrips_of_reads v.reads_encode (v.printable_encode 0) hflat
  · exact fun v => roundTrips_of_reads v.reads_encode (v.printable_encode 0) hflat
  · exact fun v => roundTrips_of_reads v.reads_encode (v.printable_encode 0) hflat
  · exact fun v h => roundTrips_of_reads (LensStat.reads_encode h) (LensStat.printable_encode h 0) hflat
  · exact fun v => roundTrips_of_reads v.reads_encode (v.printable_encode 0) hflat
  · exact fun v => roundTrips_of_reads v.reads_encode (v.printable_encode 0) hflat
  · exact fun v h => roundTrips_of_reads (Settings.reads_encode h) (Settings.printable_encode h 0) hflat

/-- The greatest numbers, a control character, quotation marks, and empty strings that are not missing. -/
theorem wire_values_round_trip_of_extreme_values :
    let stats : DiffStats := ⟨2 ^ 64 - 1, 0, 1⟩
    let file : FileDiff := ⟨"a\x01\"\\é", some "", .rename, [⟨4294967295, 0, 1, 2, "+\n"⟩], "", 2 ^ 64 - 1, 0⟩
    let stat : LensStat := ⟨.tests, "", .failed, 2 ^ 64 - 1, some .unknown, some "", some (2 ^ 64 - 1)⟩
    let settings : Settings := { Settings.standard with concurrency := 2 ^ 64 - 1, profile := some "" }
    (stats.Fits ∧ RoundTrips DiffStats.encode DiffStats.decoder stats) ∧
      (file.Fits ∧ RoundTrips FileDiff.encode FileDiff.decoder file) ∧
      (Diff.Fits ⟨[file], stats⟩ ∧ RoundTrips Diff.encode Diff.decoder ⟨[file], stats⟩) ∧
      (stat.Fits ∧ RoundTrips LensStat.encode LensStat.decoder stat) ∧
      settings.Fits ∧ RoundTrips Settings.encode Settings.decoder settings := by
  intro stats file stat settings
  have hstats : stats.Fits := ⟨by decide, by decide, by decide⟩
  have hfile : file.Fits := ⟨by decide, by decide⟩
  have hdiff : Diff.Fits ⟨[file], stats⟩ := ⟨fun f hf => List.mem_singleton.mp hf ▸ hfile, hstats⟩
  have hstat : stat.Fits := ⟨by decide, fun ms hms => Option.some.inj hms ▸ by decide⟩
  have hsettings : settings.Fits := ⟨by decide⟩
  obtain ⟨-, -, -, -, -, -, rstats, rfile, rdiff, -, -, -, rstat, -, -, rsettings⟩ := wire_values_round_trip
  exact ⟨⟨hstats, rstats _ hstats⟩, ⟨hfile, rfile _ hfile⟩, ⟨hdiff, rdiff _ hdiff⟩, ⟨hstat, rstat _ hstat⟩,
    hsettings, rsettings _ hsettings⟩

end ReviewPanel
