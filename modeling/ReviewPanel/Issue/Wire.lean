import ReviewPanel.Issue.Basic
import ReviewPanel.Wire.Record

/-! # Issues in JSON -/
namespace ReviewPanel

open Json (ofFields ofWord)
open Wire

namespace Evidence

def encode (e : Evidence) : Json :=
  ofFields [("kind", some (.text e.kind)), ("title", some (.text e.title)),
    ("sourceId", some (.text e.sourceId)), ("file", e.file.map .text), ("excerpt", some (.text e.excerpt))]

def decoder : Decoder Evidence :=
  record "struct Evidence" <|
    .seq (.seq (.seq (.seq (.seq (.pure Evidence.mk)
      (.required "kind" text))
      (.required "title" text))
      (.withDefault "sourceId" text ""))
      (.optional "file" text))
      (.withDefault "excerpt" text "")

end Evidence

namespace Issue

def encode (i : Issue) : Json :=
  ofFields [("id", some (.text i.id)), ("severity", some (.text i.severity.name)),
    ("category", some (.text i.category)), ("title", some (.text i.title)), ("file", some (.text i.file)),
    ("startLine", i.startLine.map ofWord), ("endLine", i.endLine.map ofWord),
    ("rationale", some (.text i.rationale)), ("recommendation", some (.text i.recommendation)),
    ("suggestedPatch", i.suggestedPatch.map .text), ("confidence", some (Json.ofSingle i.confidence)),
    ("symptom", some (.text i.symptom)), ("impact", some (.text i.impact)),
    ("evidence", some (.list (i.evidence.map Evidence.encode)))]

/-- Reads an issue. Only its severity, title and file must be there. -/
def decoder : Decoder Issue :=
  record "struct ReviewIssue" <|
    .seq (.seq (.seq (.seq (.seq (.seq (.seq (.seq (.seq (.seq (.seq (.seq (.seq (.seq (.pure Issue.mk)
      (.withDefault "id" text ""))
      (.required "severity" Wire.severity))
      (.withDefault "category" text ""))
      (.required "title" text))
      (.required "file" text))
      (.optional "startLine" word))
      (.optional "endLine" word))
      (.withDefault "rationale" text ""))
      (.withDefault "recommendation" text ""))
      (.optional "suggestedPatch" text))
      (.withDefault "confidence" single defaultConfidence))
      (.withDefault "symptom" text ""))
      (.withDefault "impact" text ""))
      (.withDefault "evidence" (list Evidence.decoder) [])

end Issue

end ReviewPanel
