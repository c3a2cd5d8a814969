/-! # Counts in text -/
namespace ReviewPanel.Text

def digitsValue (cs : List Char) : Nat := cs.foldl (fun n c => n * 10 + (c.toNat - 48)) 0

/-- The count below `2 ^ 64` that a text spells: decimal digits, perhaps behind a plus sign. -/
def count? (cs : List Char) : Option Nat :=
  let digits := match cs with
    | '+' :: rest => rest
    | _ => cs
  if !digits.isEmpty && digits.all Char.isDigit && digitsValue digits < Nat.pow 2 64 then some (digitsValue digits)
  else none

end ReviewPanel.Text
