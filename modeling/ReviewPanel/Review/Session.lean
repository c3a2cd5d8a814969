import ReviewPanel.Client.Scripted
import ReviewPanel.Event.Basic
import ReviewPanel.Log.Record

/-! # Sessions

What reviews have in common when they follow one another: the client, the supply of identifiers, the
counters, the clock, and what was told to the listeners and to the log. -/
namespace ReviewPanel

/-- The state between reviews, and during one. -/
structure Session where
  client : ScriptedClient
  ids : Ids
  metrics : Metrics
  /-- The events in the order in which they were sent. -/
  events : List Event
  log : List LogRecord
  /-- Milliseconds since the start. -/
  clock : Nat

namespace Session

def new (client : ScriptedClient) (ids : Ids) : Session := ⟨client, ids, .zero, [], [], 0⟩

def emit (s : Session) (now : Nat) (trace : TraceContext) (kind : EventKind) : Session :=
  { s with
    metrics := s.metrics.addEvent
    events := s.events ++ [⟨Instant.ofMillis now, trace, kind⟩] }

def emitAll (s : Session) (now : Nat) (trace : TraceContext) (kinds : List EventKind) : Session :=
  kinds.foldl (fun s kind => s.emit now trace kind) s

def note (s : Session) (records : List LogRecord) : Session := { s with log := s.log ++ records }

def flush (s : Session) : Session := s.note [.counters s.metrics]

end Session

end ReviewPanel
