import ReviewPanel.Concurrent.Lanes
import ReviewPanel.Lens.Findings

/-! # The scripted client

A client that answers every call as a script for its label says, after as long as the script says. It
keeps a record of its calls, and of how many were under way at a time. -/
namespace ReviewPanel

/-- How a call is answered, and after how many milliseconds. -/
structure Script where
  reply : Ending Json ReviewError
  latency : Nat

/-- The script of a label for which there is none: nothing was found, at once. -/
def Script.standard : Script := ⟨.returned (Findings.encode "No findings." []), 0⟩

/-- The client. -/
structure ScriptedClient where
  scripts : List (String × Script)
  /-- All calls, in the order in which they came. -/
  calls : List Request
  /-- The number of calls under way. -/
  inFlight : Nat
  /-- The greatest number of calls that were under way at a time. -/
  peak : Nat
  /-- The number of the call that cancels the run in which it comes, counted from one. -/
  cancellingCall : Option Nat

namespace ScriptedClient

def new : ScriptedClient := ⟨[], [], 0, 0, none⟩

def script (c : ScriptedClient) (label : String) : Script := (c.scripts.lookup label).getD .standard

def delay (c : ScriptedClient) (label : String) : Nat := waitFor (c.script label).latency

def setScript (label : String) (s : Script) : List (String × Script) → List (String × Script)
  | [] => [(label, s)]
  | (l, t) :: rest => if l = label then (l, s) :: rest else (l, t) :: setScript label s rest

def withReply (c : ScriptedClient) (label : String) (reply : Ending Json ReviewError) : ScriptedClient :=
  { c with scripts := setScript label { c.script label with reply } c.scripts }

def withFindings (c : ScriptedClient) (label summary : String) (issues : List Issue) : ScriptedClient :=
  c.withReply label (.returned (Findings.encode summary issues))

/-- The client that takes longer to answer calls with a label. -/
def withLatency (c : ScriptedClient) (label : String) (latency : Nat) : ScriptedClient :=
  { c with scripts := setScript label { c.script label with latency } c.scripts }

def nextCancels (c : ScriptedClient) : Bool := c.cancellingCall == some (c.calls.length + 1)

def receive (c : ScriptedClient) (r : Request) : ScriptedClient :=
  { c with
    calls := c.calls ++ [r]
    inFlight := c.inFlight + 1
    peak := max c.peak (c.inFlight + 1) }

def release (c : ScriptedClient) : ScriptedClient := { c with inFlight := c.inFlight - 1 }

/-- How calls are answered. The answer of a call, whatever it is, is what comes of it. -/
def worker : Worker ScriptedClient Request (Ending Json ReviewError) Unit where
  start _index r _now c := ⟨c.receive r, c.delay r.label, false⟩
  finish _index r _startedAt _now c := ⟨c.release, .returned (c.script r.label).reply, false⟩
  onCrash _lane _index _message c := c

/-- Calls that come in together, each answered after its own time. -/
def serve (c : ScriptedClient) (requests : List Request) :
    Run ScriptedClient (Ending Json ReviewError) Unit :=
  worker.run requests requests.length .fresh 0 c

end ScriptedClient

end ReviewPanel
