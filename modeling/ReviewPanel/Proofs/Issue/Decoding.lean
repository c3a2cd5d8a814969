import ReviewPanel.Proofs.Binary.ExactRounding
import ReviewPanel.Proofs.Json.Canonical
import ReviewPanel.Proofs.Wire.RoundTrips

/-! # Issues are read back

An issue is read back from the value in which a client hands it on, unless its confidence is no finite number:
such a confidence is written as null, which is no number, and the issue is refused. -/
namespace ReviewPanel

open Wire

/-- A text that is empty if it is left out. -/
theorem Wire.Fields.reads_text_withDefault {entries : List (String × Json)} {key t : String}
    (h : entries.lookup key = some (.text t)) : (withDefault key text "").Reads entries t :=
  reads_withDefault h (reads_text t)

theorem Evidence.reads_canonical (e : Evidence) : Reads Evidence.decoder e.encode.canonical e := by
  have hlookup := Json.lookup_handed e.distinct_fields
  have hfile : (Json.handed e.fields).lookup "file" = e.file.map .text :=
    (hlookup "file").trans (Json.map_canonical_map (fun _ => rfl) e.file)
  exact reads_handed _ ((((((Fields.reads_pure Evidence.mk).seq
    (Fields.reads_required (hlookup "kind") (reads_text e.kind))).seq
    (Fields.reads_required (hlookup "title") (reads_text e.title))).seq
    (Fields.reads_text_withDefault (hlookup "sourceId"))).seq
    (Fields.reads_optional hfile (fun t _ => reads_text t) nofun)).seq
    (Fields.reads_text_withDefault (hlookup "excerpt")))

/-- A finite number of 32 bits is handed on in the wide format, and read from it without a loss. -/
theorem Wire.reads_single {x : Single} (finite : x.isFinite = true) :
    Reads single (Json.ofSingle x).canonical x := by
  intro s _
  rw [Json.ofSingle, if_pos finite]
  exact congrArg Except.ok (Single.toSingle_toDouble finite)

/-- What is no finite number is handed on as null, and null is no number. -/
theorem Wire.single_refuses {x : Single} (infinite : x.isFinite = false) (s : Source) :
    ∃ e, single s (Json.ofSingle x).canonical.draft = .error e := by
  rw [Json.ofSingle, infinite]
  exact ⟨_, rfl⟩

namespace Issue

def fields (i : Issue) : List (String × Option Json) :=
  [("id", some (.text i.id)), ("severity", some (.text i.severity.name)),
    ("category", some (.text i.category)), ("title", some (.text i.title)), ("file", some (.text i.file)),
    ("startLine", i.startLine.map Json.ofWord), ("endLine", i.endLine.map Json.ofWord),
    ("rationale", some (.text i.rationale)), ("recommendation", some (.text i.recommendation)),
    ("suggestedPatch", i.suggestedPatch.map .text), ("confidence", some (Json.ofSingle i.confidence)),
    ("symptom", some (.text i.symptom)), ("impact", some (.text i.impact)),
    ("evidence", some (.list (i.evidence.map Evidence.encode)))]

theorem distinct_fields (i : Issue) : (i.fields.map Prod.fst).Nodup := by
  simp [fields]

theorem reads_canonical {i : Issue} (finite : i.confidence.isFinite = true) :
    Reads decoder i.encode.canonical i := by
  have hlookup := Json.lookup_handed i.distinct_fields
  have hstart : (Json.handed i.fields).lookup "startLine" = i.startLine.map Json.ofWord :=
    (hlookup "startLine").trans (Json.map_canonical_map (fun _ => rfl) i.startLine)
  have hend : (Json.handed i.fields).lookup "endLine" = i.endLine.map Json.ofWord :=
    (hlookup "endLine").trans (Json.map_canonical_map (fun _ => rfl) i.endLine)
  have hpatch : (Json.handed i.fields).lookup "suggestedPatch" = i.suggestedPatch.map .text :=
    (hlookup "suggestedPatch").trans (Json.map_canonical_map (fun _ => rfl) i.suggestedPatch)
  have hevidence : (Json.handed i.fields).lookup "evidence" =
      some (.list (i.evidence.map fun e => e.encode.canonical)) := by
    refine (hlookup "evidence").trans (congrArg some (congrArg Json.list ?_))
    rw [Json.canonicalItems_eq_map, List.map_map]
    rfl
  have hfront := (((((Fields.reads_pure Issue.mk).seq
    (Fields.reads_text_withDefault (hlookup "id"))).seq
    (Fields.reads_required (hlookup "severity") i.severity.reads_name)).seq
    (Fields.reads_text_withDefault (hlookup "category"))).seq
    (Fields.reads_required (hlookup "title") (reads_text i.title))).seq
    (Fields.reads_required (hlookup "file") (reads_text i.file))
  have hmiddle := ((((hfront.seq
    (Fields.reads_optional hstart (fun w _ => reads_word w) nofun)).seq
    (Fields.reads_optional hend (fun w _ => reads_word w) nofun)).seq
    (Fields.reads_text_withDefault (hlookup "rationale"))).seq
    (Fields.reads_text_withDefault (hlookup "recommendation"))).seq
    (Fields.reads_optional hpatch (fun t _ => reads_text t) nofun)
  exact reads_handed _ ((((hmiddle.seq
    (Fields.reads_withDefault (hlookup "confidence") (reads_single finite))).seq
    (Fields.reads_text_withDefault (hlookup "symptom"))).seq
    (Fields.reads_text_withDefault (hlookup "impact"))).seq
    (Fields.reads_withDefault hevidence (reads_list fun e _ => e.reads_canonical)))

theorem decode_canonical {i : Issue} (finite : i.confidence.isFinite = true) :
    decode decoder i.encode.canonical = .ok i := reads_canonical finite .value trivial

/-- An issue whose confidence is no finite number is refused. -/
theorem decode_canonical_of_infinite {i : Issue} (infinite : i.confidence.isFinite = false) :
    ∃ e, decode decoder i.encode.canonical = .error e := by
  have hlookup := Json.lookup_handed i.distinct_fields
  have hconfidence : (Fields.withDefault "confidence" single defaultConfidence).Refuses (Json.handed i.fields) :=
    Fields.refuses_field (hlookup "confidence") (single_refuses infinite)
  -- three fields come behind the confidence
  exact decode_record_of_refuses _
    ((((hconfidence.seq_right _).seq_left _).seq_left _).seq_left _)

end Issue

end ReviewPanel
