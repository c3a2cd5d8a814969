/-! # Letter case of ASCII

Names of settings, lenses and severities are compared without regard to the case of ASCII letters.
Letters beyond ASCII stand for themselves only. -/
namespace ReviewPanel.Text

def asciiLower (s : String) : String := String.ofList (s.toList.map Char.toLower)

def sameIgnoringCase (a b : String) : Bool := a.toList.map Char.toLower == b.toList.map Char.toLower

end ReviewPanel.Text
