import ReviewPanel.Text.Blank
import ReviewPanel.Text.Ascii

/-! # Severities

The ordered scale of a finding. Names are read without regard to blanks around them or to the case of
ASCII letters, and `critical` is another name for the top of the scale. -/
namespace ReviewPanel

/-- How much a finding matters, least first. -/
inductive Severity where
  | nit
  | low
  | medium
  | high
  | blocker
deriving Repr, DecidableEq, BEq, Inhabited

/-- A text that names no severity, as it was compared. -/
structure UnknownSeverity where
  name : String
deriving Repr, DecidableEq, BEq, Inhabited

def UnknownSeverity.message (e : UnknownSeverity) : String := "unknown severity: " ++ e.name

namespace Severity

def all : List Severity := [.blocker, .high, .medium, .low, .nit]

def rank : Severity → Nat
  | .nit => 0
  | .low => 1
  | .medium => 2
  | .high => 3
  | .blocker => 4

def name : Severity → String
  | .nit => "nit"
  | .low => "low"
  | .medium => "medium"
  | .high => "high"
  | .blocker => "blocker"

def meets (s threshold : Severity) : Bool := threshold.rank ≤ s.rank

/-- The severity of a name that has been trimmed and lowered. -/
def ofName? (s : String) : Option Severity :=
  if s = "blocker" ∨ s = "critical" then some .blocker
  else if s = "high" then some .high
  else if s = "medium" then some .medium
  else if s = "low" then some .low
  else if s = "nit" then some .nit
  else none

def key (s : String) : String := Text.asciiLower (Text.trimmed s)

def parse (s : String) : Except UnknownSeverity Severity :=
  match ofName? (key s) with
  | some v => .ok v
  | none => .error ⟨key s⟩

end Severity

end ReviewPanel
