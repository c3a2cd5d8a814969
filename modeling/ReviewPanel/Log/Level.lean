import ReviewPanel.Text.Ascii
import ReviewPanel.Text.Blank
import ReviewPanel.Text.Count

/-! # Levels of the log -/
namespace ReviewPanel

/-- How much a record of the log matters, most first. -/
inductive Level where
  | error
  | warn
  | info
  | debug
  | trace
deriving Repr, DecidableEq, BEq, Inhabited

namespace Level

/-- All levels, the first of them the one that matters most. -/
def all : List Level := [.error, .warn, .info, .debug, .trace]

def name : Level → String
  | .error => "ERROR"
  | .warn => "WARN"
  | .info => "INFO"
  | .debug => "DEBUG"
  | .trace => "TRACE"

/-- The level that a text asks for: by its name without regard to the case of ASCII letters, or by its
place, counted from one. All other texts ask for the middle one. -/
def parse (s : String) : Level :=
  let s := Text.trimmed s
  match Text.count? s.toList with
  | some n => if n = 0 then .info else all[n - 1]?.getD .info
  | none => (all.find? fun l => Text.sameIgnoringCase l.name s).getD .info

end Level

end ReviewPanel
