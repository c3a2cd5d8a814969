import ReviewPanel.Text.Hex
import ReviewPanel.Wire.Names

/-! # Traces and spans

All that belongs to one run carries its trace; within a trace, what one lens does carries the span of that
lens, whose parent is the span of the run. -/
namespace ReviewPanel

/-- Where a call or an event belongs. -/
structure TraceContext where
  traceId : String
  spanId : String
  parentSpanId : Option String
deriving Repr, DecidableEq, BEq, Inhabited

/-- A supply of identifiers, with the number of traces and spans that were drawn from it. -/
structure Ids where
  trace : Nat → String
  span : Nat → String
  traces : Nat
  spans : Nat

namespace Ids

/-- The supply whose identifiers are the hexadecimal forms of the natural numbers in order: 32 digits for
a trace and 16 for a span. -/
def counting : Ids where
  trace n := String.ofList (Text.hexDigits 32 n)
  span n := String.ofList (Text.hexDigits 16 n)
  traces := 0
  spans := 0

end Ids

namespace TraceContext

def root (ids : Ids) : TraceContext × Ids :=
  (⟨ids.trace ids.traces, ids.span ids.spans, none⟩,
    { ids with traces := ids.traces + 1, spans := ids.spans + 1 })

def child (t : TraceContext) (ids : Ids) : TraceContext × Ids :=
  (⟨t.traceId, ids.span ids.spans, some t.spanId⟩, { ids with spans := ids.spans + 1 })

open Wire

def entries (t : TraceContext) : List (String × Json) :=
  Json.present [("traceId", some (.text t.traceId)), ("spanId", some (.text t.spanId)),
    ("parentSpanId", t.parentSpanId.map .text)]

def encode (t : TraceContext) : Json := .object t.entries

def decoder : Decoder TraceContext :=
  record "struct TraceContext" <|
    .seq (.seq (.seq (.pure TraceContext.mk)
      (.required "traceId" text))
      (.required "spanId" text))
      (.optional "parentSpanId" text)

end TraceContext

end ReviewPanel
