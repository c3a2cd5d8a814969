import ReviewPanel.Diff.Basic
import ReviewPanel.Wire.Names

/-! # Diffs in JSON -/
namespace ReviewPanel

open Json (ofFields ofWord nat)
open Wire

namespace FileOperation

def encode (o : FileOperation) : Json := .text o.name

def decoder : Decoder FileOperation := named all name

end FileOperation

namespace Hunk

def encode (h : Hunk) : Json :=
  .object [("oldStart", ofWord h.oldStart), ("oldLines", ofWord h.oldLines), ("newStart", ofWord h.newStart),
    ("newLines", ofWord h.newLines), ("content", .text h.content)]

def decoder : Decoder Hunk :=
  record "struct DiffHunk" <|
    .seq (.seq (.seq (.seq (.seq (.pure Hunk.mk)
      (.required "oldStart" word))
      (.required "oldLines" word))
      (.required "newStart" word))
      (.required "newLines" word))
      (.required "content" text)

end Hunk

namespace DiffStats

def encode (s : DiffStats) : Json :=
  .object [("filesChanged", nat s.filesChanged), ("additions", nat s.additions), ("deletions", nat s.deletions)]

def decoder : Decoder DiffStats :=
  record "struct DiffStats" <|
    .seq (.seq (.seq (.pure DiffStats.mk)
      (.required "filesChanged" count))
      (.required "additions" count))
      (.required "deletions" count)

end DiffStats

namespace FileDiff

def encode (f : FileDiff) : Json :=
  ofFields [("path", some (.text f.path)), ("oldPath", f.oldPath.map .text),
    ("operation", some f.operation.encode), ("hunks", some (.list (f.hunks.map Hunk.encode))),
    ("raw", some (.text f.raw)), ("additions", some (nat f.additions)),
    ("deletions", some (nat f.deletions))]

def decoder : Decoder FileDiff :=
  record "struct FileDiff" <|
    .seq (.seq (.seq (.seq (.seq (.seq (.seq (.pure FileDiff.mk)
      (.required "path" text))
      (.optional "oldPath" text))
      (.required "operation" FileOperation.decoder))
      (.withDefault "hunks" (list Hunk.decoder) []))
      (.withDefault "raw" text ""))
      (.withDefault "additions" count 0))
      (.withDefault "deletions" count 0)

end FileDiff

namespace Diff

def encode (d : Diff) : Json :=
  .object [("files", .list (d.files.map FileDiff.encode)), ("stats", d.stats.encode)]

def decoder : Decoder Diff :=
  record "struct ParsedDiff" <|
    .seq (.seq (.pure Diff.mk)
      (.required "files" (list FileDiff.decoder)))
      (.withDefault "stats" DiffStats.decoder ⟨0, 0, 0⟩)

end Diff

end ReviewPanel
