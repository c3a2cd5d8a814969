import ReviewPanel.Binary.Numbers
import ReviewPanel.Severity

/-! # Issues

What a lens reports about a change. The texts that explain an issue may be empty, since a model may leave
them out; such an issue is incomplete. -/
namespace ReviewPanel

/-- A piece of supporting evidence. -/
structure Evidence where
  kind : String
  title : String
  sourceId : String
  file : Option String
  excerpt : String
deriving Repr, DecidableEq, BEq, Inhabited

/-- One finding. -/
structure Issue where
  id : String
  severity : Severity
  category : String
  title : String
  file : String
  startLine : Option UInt32
  endLine : Option UInt32
  rationale : String
  recommendation : String
  suggestedPatch : Option String
  /-- How sure the model is, from zero to one. -/
  confidence : Single
  symptom : String
  impact : String
  evidence : List Evidence
deriving Repr, DecidableEq, BEq, Inhabited

namespace Issue

def defaultConfidence : Single := Single.half

def new (severity : Severity) (file title : String) : Issue where
  id := ""
  severity
  category := ""
  title
  file
  startLine := none
  endLine := none
  rationale := ""
  recommendation := ""
  suggestedPatch := none
  confidence := defaultConfidence
  symptom := ""
  impact := ""
  evidence := []

def withId (i : Issue) (id : String) : Issue := { i with id }

def withCategory (i : Issue) (category : String) : Issue := { i with category }

def withLines (i : Issue) (first last : UInt32) : Issue :=
  { i with startLine := some first, endLine := some last }

def withNarrative (i : Issue) (rationale recommendation : String) : Issue :=
  { i with rationale, recommendation }

/-- The first and the last line, in ascending order. A single bound is a range of one line. -/
def lineRange (i : Issue) : Option (UInt32 × UInt32) :=
  match i.startLine, i.endLine with
  | some s, some e => if s ≤ e then some (s, e) else some (e, s)
  | some l, none => some (l, l)
  | none, some l => some (l, l)
  | none, none => none

/-- Both issues are about their whole files, or their lines have one in common. -/
def overlaps (a b : Issue) : Bool :=
  match a.lineRange, b.lineRange with
  | none, none => true
  | some (lo, hi), some (lo', hi') => lo ≤ hi' && lo' ≤ hi
  | _, _ => false

/-- The confidence brought into its range; what is no finite number becomes the default. -/
def clampConfidence (i : Issue) : Issue :=
  { i with confidence := if i.confidence.isFinite then i.confidence.clamp else defaultConfidence }

/-- Both the rationale and the recommendation say something. -/
def isComplete (i : Issue) : Bool :=
  !Text.isBlankText i.rationale && !Text.isBlankText i.recommendation

end Issue

end ReviewPanel
