/-! # Lines of a text

A line ends at a line feed, and a carriage return right before it belongs to the ending. A line feed
at the very end opens no further line. -/
namespace ReviewPanel.Text

/-- The line whose characters, last one first, were read up to a line feed. -/
def endedLine : List Char → List Char
  | '\r' :: cs => cs.reverse
  | cs => cs.reverse

/-- The lines of the rest, the first of them continuing `read`, which holds its characters last one first. -/
def linesFrom (read : List Char) : List Char → List (List Char)
  | [] => if read.isEmpty then [] else [read.reverse]
  | c :: rest => if c = '\n' then endedLine read :: linesFrom [] rest else linesFrom (c :: read) rest

def lines (s : String) : List (List Char) := linesFrom [] s.toList

end ReviewPanel.Text
