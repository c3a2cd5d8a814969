import ReviewPanel.Issue.Identity
import ReviewPanel.Issue.Wire
import ReviewPanel.Lens.Basic
import ReviewPanel.Request

/-! # The reply of the model

A reply is a summary and a list of issues. The issues are read one by one, so that one which cannot be
read does no harm to the others. -/
namespace ReviewPanel

/-- A reply, with its issues still unread. -/
structure Findings where
  summary : String
  issues : List Json
deriving Repr, BEq, Inhabited

namespace Findings

open Wire

def decoder : Decoder Findings :=
  record "struct LensFindings" <|
    .seq (.seq (.pure Findings.mk)
      (.withDefault "summary" text ""))
      (.withDefault "issues" (list any) [])

def encode (summary : String) (issues : List Issue) : Json :=
  Json.canonical (.object [("summary", .text summary), ("issues", .list (issues.map Issue.encode))])

def typed (type : String) : Json := .object [("type", .text type)]

def objectOf (required : List String) (properties : List (String × Json)) : Json :=
  .object [("type", .text "object"), ("required", .list (required.map .text)),
    ("properties", .object properties)]

def listOf (items : Json) : Json := .object [("type", .text "array"), ("items", items)]

def evidenceSchema : Json :=
  .object [("type", .text "object"),
    ("properties", .object
      [("kind", typed "string"), ("title", typed "string"), ("sourceId", typed "string"),
       ("file", typed "string"), ("excerpt", typed "string")])]

def issueSchema : Json :=
  objectOf ["severity", "title", "file", "rationale", "recommendation"]
    [("severity", .object [("enum", .list (Severity.all.map fun s => .text s.name))]),
     ("category", typed "string"), ("title", typed "string"), ("file", typed "string"),
     ("startLine", typed "integer"), ("endLine", typed "integer"),
     ("rationale", typed "string"), ("recommendation", typed "string"),
     ("suggestedPatch", typed "string"),
     ("confidence", .object [("type", .text "number"), ("minimum", Json.nat 0), ("maximum", Json.nat 1)]),
     ("symptom", typed "string"), ("impact", typed "string"), ("evidence", listOf evidenceSchema)]

def shape : OutputShape where
  name := "lens_findings"
  schema := Json.canonical <|
    objectOf ["summary", "issues"] [("summary", typed "string"), ("issues", listOf issueSchema)]

end Findings

namespace Issue

/-- The issue with an identifier made from its fingerprint, if it has none of its own. -/
def identified (lens : LensId) (i : Issue) : Issue :=
  if Text.isBlankText i.id then
    i.withId (lens.name ++ "-" ++ String.ofList (i.fingerprint.toList.take 12))
  else i

/-- An issue of a reply as the lens reports it, or why it cannot be read. -/
def ofReply (lens : LensId) (j : Json) : Except Wire.Fault Issue :=
  (Wire.decode decoder j).map fun i => i.clampConfidence.identified lens

end Issue

end ReviewPanel
