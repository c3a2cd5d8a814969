import ReviewPanel.Text.Blank

/-! # Paths of files

Paths are compared in a normal form, without blanks around them and without leading `./`. -/
namespace ReviewPanel.Text

def dropDots : List Char → List Char
  | '.' :: '/' :: rest => dropDots rest
  | cs => cs

def normalizePath (path : String) : String := String.ofList (dropDots (trim path.toList))

end ReviewPanel.Text
