import ReviewPanel.Settings.Basic
import ReviewPanel.Wire.Names

/-! # Settings in JSON

Whatever is absent keeps its default. -/
namespace ReviewPanel.Settings

open Wire

def encode (s : Settings) : Json :=
  .object [("concurrency", .nat s.concurrency), ("partial_on_all_failed", .bool s.partialOnAllFailed),
    ("fail_fast", .bool s.failFast), ("profile", (s.profile.map .text).getD .null),
    ("min_severity", (s.minSeverity.map fun v => .text v.name).getD .null),
    ("log_json", .bool s.logJson), ("log_level", .text s.logLevel)]

def decoder : Decoder Settings :=
  record "struct ReviewConfig" <|
    .seq (.seq (.seq (.seq (.seq (.seq (.seq (.pure Settings.mk)
      (.withDefault "concurrency" count standard.concurrency))
      (.withDefault "partial_on_all_failed" bool standard.partialOnAllFailed))
      (.withDefault "fail_fast" bool standard.failFast))
      (.optional "profile" text))
      (.optional "min_severity" severity))
      (.withDefault "log_json" bool standard.logJson))
      (.withDefault "log_level" text standard.logLevel)

end ReviewPanel.Settings
