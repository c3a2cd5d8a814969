import ReviewPanel.Text.CaseTables

/-! # Lowering a text

Every character is lowered by itself, with two exceptions: the dotted capital I becomes two
characters, and a capital sigma at the end of a word becomes the final sigma. -/
namespace ReviewPanel.Text

/-- The lower-case form of a code point, by the first run that holds it. -/
def lowerCode : List CaseRun → Nat → Option Nat
  | [], _ => none
  | r :: rest, n => if n < r.first then none else
      match r.lower? n with
      | some m => some m
      | none => lowerCode rest n

def lowerChar (c : Char) : List Char :=
  if c.toNat = 0x130 then ['i', Char.ofNat 0x307]
  else match lowerCode caseRuns c.toNat with
    | some n => [Char.ofNat n]
    | none => [c]

/-- The next character that is not case-ignorable is a cased letter. -/
def meetsCased (cs : List Char) : Bool :=
  match cs.dropWhile (fun c => caseIgnorableRanges.contains c.toNat) with
  | [] => false
  | c :: _ => casedRanges.contains c.toNat

/-- Lowers what follows; `before` holds the characters already passed, the last one first. -/
def lowerAfter (before : List Char) : List Char → List Char
  | [] => []
  | c :: rest =>
    (if c.toNat = 0x3A3 then
      if meetsCased before && !meetsCased rest then [Char.ofNat 0x3C2] else [Char.ofNat 0x3C3]
     else lowerChar c) ++ lowerAfter (c :: before) rest

def lower (cs : List Char) : List Char := lowerAfter [] cs

def lowered (s : String) : String := String.ofList (lower s.toList)

end ReviewPanel.Text
