import ReviewPanel.Event.Basic
import ReviewPanel.Log.Metrics

/-! # Where events go

Events are sent to a sink: one that keeps them all, a channel at whose other end a receiver takes them one
by one, or a listener that looks at each of them and here notes its name. What is sent is counted, whether
or not anybody is there to receive it. -/
namespace ReviewPanel

/-- Where events go. -/
inductive Sink where
  | collecting (events : List Event)
  /-- The events that wait for the receiver, if that is still there. -/
  | channel (waiting : List Event) (isOpen : Bool)
  | listener (names : List String)
deriving Repr

namespace Sink

/-- An event is sent. Nothing enters a channel without a receiver. -/
def send (s : Sink) (e : Event) : Sink :=
  match s with
  | .collecting es => .collecting (es ++ [e])
  | .channel es true => .channel (es ++ [e]) true
  | .channel es false => .channel es false
  | .listener names => .listener (names ++ [e.kind.name])

def receive (s : Sink) : Option Event × Sink :=
  match s with
  | .channel (e :: rest) isOpen => (some e, .channel rest isOpen)
  | s => (none, s)

def close (s : Sink) : Sink :=
  match s with
  | .channel _ _ => .channel [] false
  | s => s

def collected (s : Sink) : List Event :=
  match s with
  | .collecting es => es
  | _ => []

def heard (s : Sink) : List String :=
  match s with
  | .listener names => names
  | _ => []

end Sink

/-- A sink, with the counters that know how many events were sent. -/
structure Stream where
  sink : Sink
  metrics : Metrics
deriving Repr

namespace Stream

def new (sink : Sink) : Stream := ⟨sink, .zero⟩

def emit (s : Stream) (time : Instant) (trace : TraceContext) (kind : EventKind) : Stream :=
  ⟨s.sink.send ⟨time, trace, kind⟩, s.metrics.addEvent⟩

end Stream

end ReviewPanel
