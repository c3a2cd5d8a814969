import ReviewPanel.Issue.Wire
import ReviewPanel.Report.Basic
import ReviewPanel.Wire.Names

/-! # Reports in JSON -/
namespace ReviewPanel

open Json (ofFields ofWord nat)
open Wire

namespace LensReport

def encode (r : LensReport) : Json :=
  .object [("lensId", r.lensId.encode), ("lensName", .text r.lensName), ("summary", .text r.summary),
    ("issues", .list (r.issues.map Issue.encode)), ("durationMs", nat r.durationMs),
    ("malformedDropped", nat r.malformedDropped)]

def decoder : Decoder LensReport :=
  record "struct LensReport" <|
    .seq (.seq (.seq (.seq (.seq (.seq (.pure LensReport.mk)
      (.required "lensId" LensId.decoder))
      (.required "lensName" text))
      (.required "summary" text))
      (.required "issues" (list Issue.decoder)))
      (.required "durationMs" millis))
      (.withDefault "malformedDropped" count 0)

end LensReport

namespace LensStatus

def all : List LensStatus := [.success, .failed]

def name : LensStatus → String
  | .success => "success"
  | .failed => "failed"

def encode (s : LensStatus) : Json := .text s.name

def decoder : Decoder LensStatus := named all name

end LensStatus

namespace LensStat

def encode (s : LensStat) : Json :=
  ofFields [("lensId", some s.lensId.encode), ("lensName", some (.text s.lensName)),
    ("status", some s.status.encode), ("issueCount", some (nat s.issueCount)),
    ("errorCode", s.errorCode.map ErrorCode.encode), ("errorMessage", s.errorMessage.map .text),
    ("durationMs", s.durationMs.map nat)]

def decoder : Decoder LensStat :=
  record "struct LensStat" <|
    .seq (.seq (.seq (.seq (.seq (.seq (.seq (.pure LensStat.mk)
      (.required "lensId" LensId.decoder))
      (.required "lensName" text))
      (.required "status" LensStatus.decoder))
      (.required "issueCount" count))
      (.optional "errorCode" ErrorCode.decoder))
      (.optional "errorMessage" text))
      (.optional "durationMs" millis)

end LensStat

namespace FailedLens

def encode (f : FailedLens) : Json :=
  .object [("lensId", f.lensId.encode), ("lensName", .text f.lensName), ("errorCode", f.errorCode.encode),
    ("errorMessage", .text f.errorMessage)]

def decoder : Decoder FailedLens :=
  record "struct FailedLens" <|
    .seq (.seq (.seq (.seq (.pure FailedLens.mk)
      (.required "lensId" LensId.decoder))
      (.required "lensName" text))
      (.required "errorCode" ErrorCode.decoder))
      (.required "errorMessage" text)

end FailedLens

namespace Outcome

def encode (o : Outcome) : Json :=
  .object [("summary", .text o.summary), ("issues", .list (o.issues.map Issue.encode)),
    ("lensStats", .list (o.lensStats.map LensStat.encode)),
    ("failedLenses", .list (o.failedLenses.map FailedLens.encode)), ("traceId", .text o.traceId)]

def decoder : Decoder Outcome :=
  record "struct OrchestrationOutcome" <|
    .seq (.seq (.seq (.seq (.seq (.pure Outcome.mk)
      (.required "summary" text))
      (.required "issues" (list Issue.decoder)))
      (.required "lensStats" (list LensStat.decoder)))
      (.required "failedLenses" (list FailedLens.decoder)))
      (.required "traceId" text)

end Outcome

namespace FocusTarget

def encode (f : FocusTarget) : Json :=
  ofFields [("file", some (.text f.file)), ("startLine", f.startLine.map ofWord),
    ("endLine", f.endLine.map ofWord)]

def decoder : Decoder FocusTarget :=
  record "struct FocusTarget" <|
    .seq (.seq (.seq (.pure FocusTarget.mk)
      (.required "file" text))
      (.optional "startLine" word))
      (.optional "endLine" word)

end FocusTarget

end ReviewPanel
