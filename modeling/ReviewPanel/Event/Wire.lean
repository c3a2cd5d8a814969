import ReviewPanel.Event.Basic
import ReviewPanel.Json.Printer
import ReviewPanel.Report.Wire
import ReviewPanel.Wire.Tagged

/-! # Events in JSON

An event is written as one object: its time, its place, and beside them the fields of what happens, with
its name under `type`. For streaming, the object is framed as a server-sent event. -/
namespace ReviewPanel

open Json (nat)
open Wire

namespace AgentRef

def encode (a : AgentRef) : Json := .object [("id", a.id.encode), ("name", .text a.name)]

def decoder : Decoder AgentRef :=
  record "struct AgentRef" <|
    .seq (.seq (.pure AgentRef.mk)
      (.required "id" LensId.decoder))
      (.required "name" text)

end AgentRef

namespace EventKind

def fields : EventKind → List (String × Json)
  | .orchestratorStart agents concurrency =>
    [("agents", .list (agents.map AgentRef.encode)), ("concurrency", nat concurrency)]
  | .agentQueued agent position total =>
    [("agent", agent.encode), ("position", nat position), ("total", nat total)]
  | .agentStart agent => [("agent", agent.encode)]
  | .agentThinking agent thought => [("agent", agent.encode), ("thought", .text thought)]
  | .toolCall agent tool input => [("agent", agent.encode), ("tool", .text tool), ("input", input)]
  | .toolResult agent tool summary =>
    [("agent", agent.encode), ("tool", .text tool), ("summary", .text summary)]
  | .agentError agent error => [("agent", agent.encode), ("error", error.encode)]
  | .agentComplete agent issueCount => [("agent", agent.encode), ("issueCount", nat issueCount)]
  | .orchestratorComplete summary totalIssues lensStats filesAnalyzed =>
    [("summary", .text summary), ("totalIssues", nat totalIssues),
     ("lensStats", .list (lensStats.map LensStat.encode)), ("filesAnalyzed", nat filesAnalyzed)]

def entries (k : EventKind) : List (String × Json) := ("type", .text k.name) :: k.fields

def encode (k : EventKind) : Json := .object k.entries

def kinds : List (Kind EventKind) :=
  [{ tag := "orchestrator_start"
     name := "struct variant EventKind::OrchestratorStart"
     fields := .seq (.seq (.pure orchestratorStart)
       (.required "agents" (list AgentRef.decoder)))
       (.required "concurrency" count) },
   { tag := "agent_queued"
     name := "struct variant EventKind::AgentQueued"
     fields := .seq (.seq (.seq (.pure agentQueued)
       (.required "agent" AgentRef.decoder))
       (.required "position" count))
       (.required "total" count) },
   { tag := "agent_start"
     name := "struct variant EventKind::AgentStart"
     fields := .seq (.pure agentStart)
       (.required "agent" AgentRef.decoder) },
   { tag := "agent_thinking"
     name := "struct variant EventKind::AgentThinking"
     fields := .seq (.seq (.pure agentThinking)
       (.required "agent" AgentRef.decoder))
       (.required "thought" text) },
   { tag := "tool_call"
     name := "struct variant EventKind::ToolCall"
     fields := .seq (.seq (.seq (.pure toolCall)
       (.required "agent" AgentRef.decoder))
       (.required "tool" text))
       (.required "input" any) },
   { tag := "tool_result"
     name := "struct variant EventKind::ToolResult"
     fields := .seq (.seq (.seq (.pure toolResult)
       (.required "agent" AgentRef.decoder))
       (.required "tool" text))
       (.required "summary" text) },
   { tag := "agent_error"
     name := "struct variant EventKind::AgentError"
     fields := .seq (.seq (.pure agentError)
       (.required "agent" AgentRef.decoder))
       (.required "error" ReviewError.decoder) },
   { tag := "agent_complete"
     name := "struct variant EventKind::AgentComplete"
     fields := .seq (.seq (.pure agentComplete)
       (.required "agent" AgentRef.decoder))
       (.required "issueCount" count) },
   { tag := "orchestrator_complete"
     name := "struct variant EventKind::OrchestratorComplete"
     fields := .seq (.seq (.seq (.seq (.pure orchestratorComplete)
       (.required "summary" text))
       (.required "totalIssues" count))
       (.required "lensStats" (list LensStat.decoder)))
       (.required "filesAnalyzed" count) }]

def decoder : Decoder EventKind := tagged "internally tagged enum EventKind" "type" kinds

end EventKind

namespace Event

def encode (e : Event) : Json :=
  .object (("timestamp", .text (String.ofList e.timestamp.write)) :: e.trace.entries ++ e.kind.entries)

def decoder : Decoder Event :=
  flattened "struct AgentStreamEvent"
    (.seq (.seq (.seq (.seq (.pure fun timestamp traceId spanId parentSpanId kind =>
      (⟨timestamp, ⟨traceId, spanId, parentSpanId⟩, kind⟩ : Event))
      (.required "timestamp" instant))
      (.required "traceId" text))
      (.required "spanId" text))
      (.optional "parentSpanId" text))
    EventKind.decoder

/-- The event framed for a stream: a line with its name, a line with its JSON form, and an empty line. -/
def frame (e : Event) : String :=
  "event: " ++ e.kind.name ++ "\ndata: " ++ e.encode.render ++ "\n\n"

end Event

end ReviewPanel
