import ReviewPanel.Instant
import ReviewPanel.Lens.Basic
import ReviewPanel.Report.Basic
import ReviewPanel.Trace

/-! # Events

While a review goes on, it tells what is happening: the run itself starts and completes, each lens is
queued, starts, thinks, uses tools, and completes or fails. -/
namespace ReviewPanel

/-- The lens that an event is about. -/
structure AgentRef where
  id : LensId
  name : String
deriving Repr, DecidableEq, BEq, Inhabited

def Lens.agent (l : Lens) : AgentRef := ⟨l.id, l.name⟩

/-- What happens. -/
inductive EventKind where
  | orchestratorStart (agents : List AgentRef) (concurrency : Nat)
  /-- The position counts from one. -/
  | agentQueued (agent : AgentRef) (position total : Nat)
  | agentStart (agent : AgentRef)
  | agentThinking (agent : AgentRef) (thought : String)
  | toolCall (agent : AgentRef) (tool : String) (input : Json)
  | toolResult (agent : AgentRef) (tool summary : String)
  | agentError (agent : AgentRef) (error : ReviewError)
  | agentComplete (agent : AgentRef) (issueCount : Nat)
  | orchestratorComplete (summary : String) (totalIssues : Nat) (lensStats : List LensStat)
      (filesAnalyzed : Nat)
deriving Repr, BEq, Inhabited

namespace EventKind

def name : EventKind → String
  | .orchestratorStart .. => "orchestrator_start"
  | .agentQueued .. => "agent_queued"
  | .agentStart .. => "agent_start"
  | .agentThinking .. => "agent_thinking"
  | .toolCall .. => "tool_call"
  | .toolResult .. => "tool_result"
  | .agentError .. => "agent_error"
  | .agentComplete .. => "agent_complete"
  | .orchestratorComplete .. => "orchestrator_complete"

def agent? : EventKind → Option AgentRef
  | .orchestratorStart .. => none
  | .agentQueued agent .. => some agent
  | .agentStart agent => some agent
  | .agentThinking agent .. => some agent
  | .toolCall agent .. => some agent
  | .toolResult agent .. => some agent
  | .agentError agent .. => some agent
  | .agentComplete agent .. => some agent
  | .orchestratorComplete .. => none

end EventKind

/-- Something that happens, with its time and place. -/
structure Event where
  timestamp : Instant
  trace : TraceContext
  kind : EventKind
deriving Repr, BEq, Inhabited

end ReviewPanel
