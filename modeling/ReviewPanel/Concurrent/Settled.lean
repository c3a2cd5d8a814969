/-! # How tasks end

A task that is started returns a value, fails with an error, or crashes. A task that was never started
has settled as well. -/
namespace ReviewPanel

/-- What a crash leaves behind: a text, or something else. -/
inductive Crash where
  | message (text : String)
  | other
deriving Repr, DecidableEq, BEq, Inhabited

def Crash.text : Crash → String
  | .message s => s
  | .other => "worker panicked"

/-- The crash of an addition whose sum does not fit. -/
def Crash.overflow : Crash := .message "attempt to add with overflow"

/-- The end of a task that was started. -/
inductive Ending (ρ ε : Type) where
  | returned (value : ρ)
  | failed (error : ε)
  | crashed (crash : Crash)
deriving Repr, DecidableEq, Inhabited

/-- The state of a task when all is over. -/
inductive Settled (ρ ε : Type) where
  | returned (value : ρ)
  | failed (error : ε)
  | crashed (message : String)
  | notStarted
deriving Repr, DecidableEq, Inhabited

def Ending.settled : Ending ρ ε → Settled ρ ε
  | .returned v => .returned v
  | .failed e => .failed e
  | .crashed c => .crashed c.text

namespace Settled

def isReturned : Settled ρ ε → Bool
  | .returned _ => true
  | _ => false

def isNotStarted : Settled ρ ε → Bool
  | .notStarted => true
  | _ => false

end Settled

end ReviewPanel
