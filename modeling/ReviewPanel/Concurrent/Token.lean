import ReviewPanel.Concurrent.Wait

/-! # Cancellation

Whoever holds a token can cancel what runs under it, at once or by an alarm at a set time. An alarm rings
only while something runs; whatever runs finds the token cancelled from the time of the alarm on. -/
namespace ReviewPanel

/-- A token, with the earliest alarm that was set on it. -/
structure Token where
  cancelled : Bool
  alarm : Option Nat
deriving Repr, DecidableEq, BEq, Inhabited

namespace Token

def fresh : Token := ⟨false, none⟩

def cancel (t : Token) : Token := { t with cancelled := true }

def cancelIf (t : Token) (condition : Bool) : Token := if condition then t.cancel else t

/-- The token cancelled at a time, or earlier if it already would be. -/
def cancelAt (t : Token) (time : Nat) : Token :=
  { t with alarm := some (match t.alarm with | some a => min a time | none => time) }

def cancelAfter (t : Token) (now ms : Nat) : Token := t.cancelAt (now + waitFor ms)

def isCancelled (t : Token) (now : Nat) : Bool := t.cancelled || t.alarm.any (· ≤ now)

/-- The token after its alarm has had the occasion to ring, up to a time. -/
def ring (t : Token) (now : Nat) : Token := { t with cancelled := t.isCancelled now }

/-- After the alarm has had its occasion, the token is cancelled if it counts as such at that time. -/
@[simp] theorem cancelled_ring (t : Token) (now : Nat) : (t.ring now).cancelled = t.isCancelled now := rfl

end Token

end ReviewPanel
