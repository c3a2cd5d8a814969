import ReviewPanel.Lens.Basic

/-! # Profiles

A profile is a named choice of lenses and of a threshold. -/
namespace ReviewPanel

/-- A named choice of lenses and of a threshold. -/
structure Profile where
  name : String
  description : String
  lenses : List LensId
  minSeverity : Option Severity
deriving Repr, DecidableEq, BEq, Inhabited

namespace Profile

def all : List Profile :=
  [{ name := "quick"
     description := "Correctness only, high severity and above"
     lenses := [.correctness]
     minSeverity := some .high },
   { name := "standard"
     description := "Correctness and security, every severity"
     lenses := [.correctness, .security]
     minSeverity := none },
   { name := "thorough"
     description := "Every lens, every severity"
     lenses := LensId.all
     minSeverity := none },
   { name := "security"
     description := "Security only, medium severity and above"
     lenses := [.security]
     minSeverity := some .medium }]

/-- The profile that a text names, apart from blanks around it and the case of ASCII letters. -/
def find? (name : String) : Option Profile :=
  all.find? fun p => Text.sameIgnoringCase p.name (Text.trimmed name)

def lensNames (p : Profile) : List String := p.lenses.map LensId.name

end Profile

end ReviewPanel
