import ReviewPanel.Text.Blank
import ReviewPanel.Text.Ascii

/-! # Lens identifiers -/
namespace ReviewPanel

/-- The lenses that a change can be looked at through. -/
inductive LensId where
  | correctness
  | security
  | performance
  | simplicity
  | tests
deriving Repr, DecidableEq, BEq, Inhabited

namespace LensId

instance : LawfulBEq LensId where
  eq_of_beq {a b} h := by cases a <;> cases b <;> first | rfl | cases h
  rfl {a} := by cases a <;> rfl

def all : List LensId := [.correctness, .security, .performance, .simplicity, .tests]

def name : LensId → String
  | .correctness => "correctness"
  | .security => "security"
  | .performance => "performance"
  | .simplicity => "simplicity"
  | .tests => "tests"

/-- The lens that a text names, apart from blanks around it and the case of ASCII letters. -/
def parse? (s : String) : Option LensId :=
  let key := Text.asciiLower (Text.trimmed s)
  all.find? fun id => id.name == key

end LensId

end ReviewPanel
