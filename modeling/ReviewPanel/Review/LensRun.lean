import ReviewPanel.Concurrent.Lanes
import ReviewPanel.Lens.Prompt
import ReviewPanel.Review.Session
import ReviewPanel.Text.Lower

/-! # One lens at work

A lens thinks aloud, looks at the file in focus if the change has it, and asks the model once. The reply
becomes its report, with the issues that can be read. The lines in focus are counted in words of 32 bits: a lens
that comes to more of them breaks off before it has looked, and asks nothing. -/
namespace ReviewPanel

/-- What all lenses of a review are told beside the change. -/
structure ReviewContext where
  projectContext : Option String
  focus : Option FocusTarget
deriving Repr, DecidableEq, BEq, Inhabited

namespace Lens

def thought (lens : Lens) (diff : Diff) : String :=
  "Reviewing " ++ toString diff.fileCount ++ (if diff.fileCount = 1 then " file" else " files")
    ++ " for " ++ Text.lowered lens.description

/-- The number of lines of a file that a focus covers, and the words for them, unless the bounds are too far
apart for the count. -/
def focusRange (focus : FocusTarget) (file : FileDiff) : Option (Nat × String) :=
  match focus.startLine, focus.endLine with
  | some a, some b =>
    let lines := (max a b - min a b).toNat + 1
    if lines < UInt32.size then
      some (lines, "lines " ++ toString (min a b) ++ "-" ++ toString (max a b))
    else none
  | some l, none => some (1, "line " ++ toString l)
  | none, some l => some (1, "line " ++ toString l)
  | none, none => some (file.lineCount, "whole file")

def readTool : String := "read_file"

def focusEvents (agent : AgentRef) (focus : FocusTarget) (file : FileDiff) : List EventKind :=
  match focusRange focus file with
  | some (lines, range) =>
    let line (l : Option UInt32) : Json := (l.map Json.ofWord).getD .null
    let input := Json.canonical <| .object
      [("path", .text file.path), ("startLine", line focus.startLine), ("endLine", line focus.endLine)]
    [.toolCall agent readTool input,
     .toolResult agent readTool
       ("Read " ++ toString lines ++ " lines from " ++ file.path ++ " (" ++ range ++ ")")]
  | none => []

def focusFile (diff : Diff) (context : ReviewContext) : Option (FocusTarget × FileDiff) := do
  let focus ← context.focus
  let file ← diff.findFile focus.file
  some (focus, file)

/-- The lenses of a review break off at their look at the focus. -/
def overflows (diff : Diff) (context : ReviewContext) : Bool :=
  match focusFile diff context with
  | some (focus, file) => (focusRange focus file).isNone
  | none => false

def opening (lens : Lens) (diff : Diff) (context : ReviewContext) : List EventKind :=
  .agentThinking lens.agent (lens.thought diff) ::
    match focusFile diff context with
    | some (focus, file) => focusEvents lens.agent focus file
    | none => []

def request (lens : Lens) (diff : Diff) (context : ReviewContext) (trace : TraceContext) : Request where
  label := lens.id.name
  prompt := lens.prompt diff context.projectContext
  shape := Findings.shape
  trace

/-- A lens begins: it tells what it does and asks the model, unless it breaks off. -/
def begin (lens : Lens) (diff : Diff) (context : ReviewContext) (trace : TraceContext) (now : Nat)
    (s : Session) : Start Session :=
  let s := s.emitAll now trace (lens.opening diff context)
  if overflows diff context then ⟨s, 0, false⟩
  else
    { world := { s with client := s.client.receive (lens.request diff context trace) }
      latency := s.client.delay lens.id.name
      cancels := s.client.nextCancels }

def readIssues (lens : Lens) (issues : List Json) : List (Except Wire.Fault Issue) :=
  issues.map (Issue.ofReply lens.id)

def report (lens : Lens) (durationMs : Nat) (findings : Findings) : LensReport :=
  let read := lens.readIssues findings.issues
  { lensId := lens.id
    lensName := lens.name
    summary := Text.trimmed findings.summary
    issues := read.filterMap Except.toOption
    durationMs
    malformedDropped := read.countP fun r => !r.isOk }

/-- The records about issues that could not be read; the first of the list has the index `index`. -/
def malformedRecords (lens : Lens) (index : Nat) : List (Except Wire.Fault Issue) → List LogRecord
  | [] => []
  | .ok _ :: rest => malformedRecords lens (index + 1) rest
  | .error e :: rest => .malformedIssue lens.id index e.message :: malformedRecords lens (index + 1) rest

def conclude (lens : Lens) (durationMs : Nat) (reply : Ending Json ReviewError) :
    Ending LensReport ReviewError × List LogRecord :=
  match reply with
  | .returned value =>
    match Wire.decode Findings.decoder value with
    | .ok findings =>
      (.returned (lens.report durationMs findings), lens.malformedRecords 0 (lens.readIssues findings.issues))
    | .error e => (.failed (.malformedReply e.message), [])
  | .failed e => (.failed e, [])
  | .crashed c => (.crashed c, [])

def complete (lens : Lens) (diff : Diff) (context : ReviewContext) (startedAt now : Nat) (s : Session) :
    Ending LensReport ReviewError × Session :=
  if overflows diff context then (.crashed .overflow, s)
  else
    let (ending, records) := lens.conclude (now - startedAt) (s.client.script lens.id.name).reply
    (ending, { s with client := s.client.release }.note records)

/-- A lens works by itself, from the time of the session on. -/
def run (lens : Lens) (diff : Diff) (context : ReviewContext) (trace : TraceContext) (s : Session) :
    Ending LensReport ReviewError × Session :=
  let begun := lens.begin diff context trace s.clock s
  let now := s.clock + begun.latency
  let (ending, s) := lens.complete diff context s.clock now begun.world
  (ending, { s with clock := now })

end Lens

end ReviewPanel
