import ReviewPanel.Json.Draft
import ReviewPanel.Text.Hex

/-! # Reading JSON

A text is read into a draft. The reader is total: it goes as far as the text is JSON and marks the place
where it stops. -/
namespace ReviewPanel.Json

def isGap (c : Char) : Bool := c = ' ' || c = '\n' || c = '\t' || c = '\r'

def skipGaps (cs : List Char) : List Char := cs.dropWhile isGap

/-! ## Numbers -/

def digitValue (c : Char) : Nat := c.toNat - 48

def maxSignificand : Nat := Nat.pow 2 64 - 1

/-- The leading digits whose value stays within the greatest significand, as a value and with the digits
that are left over. -/
def takeSignificand (value : Nat) : List Char → Nat × List Char
  | [] => (value, [])
  | c :: rest =>
    let next := value * 10 + digitValue c
    if next ≤ maxSignificand then takeSignificand next rest else (value, c :: rest)

def digitsValue (cs : List Char) : Nat := cs.foldl (fun n c => n * 10 + digitValue c) 0

/-- The parts of a number token: its sign, the digits before and after the point, and the exponent. -/
structure NumberToken where
  negative : Bool
  whole : List Char
  fraction : Option (List Char)
  exponent : Option (Bool × List Char)
deriving Repr

/-- The number of a token, if it is in range. Digits that do not fit into the significand are left out;
left out before the point they still count for the exponent. -/
def NumberToken.number? (t : NumberToken) : Option Number :=
  let (whole, dropped) := takeSignificand 0 t.whole
  let float (significand : Nat) (exponent : Int) : Option Number :=
    (Double.ofDecimal? significand exponent).map fun p => .double (Double.ofParts t.negative p)
  match t.fraction, t.exponent with
  | none, none =>
    if dropped ≠ [] then float whole dropped.length
    else if !t.negative then some (.integer whole)
    else if whole = 0 ∨ Nat.pow 2 63 < whole then float whole 0
    else some (.integer (-whole))
  | fraction, exponent =>
    let (significand, left) := takeSignificand whole (fraction.getD [])
    let shift : Int := dropped.length - ((fraction.getD []).length - left.length : Nat)
    match exponent with
    | none => float significand shift
    | some (negative, digits) =>
      let e := digitsValue digits
      if e < Nat.pow 2 31 then
        float significand (shift + if negative then -(e : Int) else e)
      else if significand ≠ 0 ∧ !negative then none
      else some (.double (Double.ofParts t.negative 0))

/-- Reads the exponent of a number, if there is one. `none` if its digits are missing. -/
def readExponent (cs : List Char) : Option (Option (Bool × List Char) × List Char) :=
  match cs with
  | c :: rest =>
    if c = 'e' || c = 'E' then
      let (negative, rest) := match rest with
        | '-' :: r => (true, r)
        | '+' :: r => (false, r)
        | r => (false, r)
      let digits := rest.takeWhile Char.isDigit
      if digits.isEmpty then none else some (some (negative, digits), rest.dropWhile Char.isDigit)
    else some (none, cs)
  | [] => some (none, [])

/-- Reads the digits after a point, if there is one. `none` if they are missing. -/
def readFraction (cs : List Char) : Option (Option (List Char) × List Char) :=
  match cs with
  | '.' :: rest =>
    let digits := rest.takeWhile Char.isDigit
    if digits.isEmpty then none else some (some digits, rest.dropWhile Char.isDigit)
  | _ => some (none, cs)

/-- Reads a number. A leading zero stands alone before the point. -/
def readNumber (cs : List Char) : Option (NumberToken × List Char) :=
  let (negative, rest) := match cs with
    | '-' :: r => (true, r)
    | r => (false, r)
  let whole := rest.takeWhile Char.isDigit
  if whole.isEmpty || (whole.head? == some '0' && whole.length ≠ 1) then none
  else do
    let (fraction, rest) ← readFraction (rest.dropWhile Char.isDigit)
    let (exponent, rest) ← readExponent rest
    return (⟨negative, whole, fraction, exponent⟩, rest)

/-! ## Strings -/

/-- A piece of a string token: a character, or a 16-bit unit written as four hexadecimal digits. -/
inductive Piece where
  | char (c : Char)
  | unit (n : Nat)
deriving Repr

def unitOf? (a b c d : Char) : Option Nat := do
  let a ← Text.hexValue? a
  let b ← Text.hexValue? b
  let c ← Text.hexValue? c
  let d ← Text.hexValue? d
  return ((a * 16 + b) * 16 + c) * 16 + d

def unescape? (c : Char) : Option Char :=
  if c = '"' ∨ c = '\\' ∨ c = '/' then some c
  else if c = 'n' then some '\n'
  else if c = 'r' then some '\r'
  else if c = 't' then some '\t'
  else if c = 'b' then some (Char.ofNat 8)
  else if c = 'f' then some (Char.ofNat 12)
  else none

/-- The pieces of a string up to its closing quote, and what follows the quote. -/
def readPieces : List Char → Option (List Piece × List Char)
  | [] => none
  | '"' :: rest => some ([], rest)
  | '\\' :: 'u' :: a :: b :: c :: d :: rest => do
    let n ← unitOf? a b c d
    let (ps, rest) ← readPieces rest
    return (.unit n :: ps, rest)
  | '\\' :: c :: rest => do
    let c ← unescape? c
    let (ps, rest) ← readPieces rest
    return (.char c :: ps, rest)
  | c :: rest =>
    if c = '\\' ∨ c.toNat < 32 then none
    else do
      let (ps, rest) ← readPieces rest
      return (.char c :: ps, rest)

/-- The characters of the pieces. `none` if half of a surrogate pair stands alone. -/
def joinPieces : List Piece → Option (List Char)
  | [] => some []
  | .char c :: rest => (joinPieces rest).map (c :: ·)
  | .unit hi :: .unit lo :: rest =>
    if 0xD800 ≤ hi ∧ hi < 0xDC00 then
      if 0xDC00 ≤ lo ∧ lo < 0xE000 then
        (joinPieces rest).map (Char.ofNat (0x10000 + (hi - 0xD800) * 0x400 + (lo - 0xDC00)) :: ·)
      else none
    else if 0xDC00 ≤ hi ∧ hi < 0xE000 then none
    else (joinPieces (.unit lo :: rest)).map (Char.ofNat hi :: ·)
  | .unit n :: rest =>
    if 0xD800 ≤ n ∧ n < 0xE000 then none else (joinPieces rest).map (Char.ofNat n :: ·)

/-- Reads a string behind its opening quote. The outer `none` means that the token is malformed, the
inner one that half of a surrogate pair stands alone. -/
def readText (cs : List Char) : Option (Option String × List Char) :=
  (readPieces cs).map fun (ps, rest) => ((joinPieces ps).map String.ofList, rest)

/-! ## Values -/

def afterWord? (word : List Char) (cs : List Char) : Option (List Char) :=
  if word.isPrefixOf cs then some (cs.drop word.length) else none

mutual
/-- Reads one value and what follows it. After a broken value nothing follows. -/
def readValue : Nat → List Char → Draft × List Char
  | 0, _ => (.broken, [])
  | fuel + 1, cs =>
    match skipGaps cs with
    | '"' :: rest =>
      match readText rest with
      | some (some s, rest) => (.text s, rest)
      | some (none, rest) => (.unpaired, rest)
      | none => (.broken, [])
    | '[' :: rest =>
      match skipGaps rest with
      | ']' :: rest => (.list [] true, rest)
      | rest =>
        let (items, closed, rest) := readItems fuel rest
        (.list items closed, rest)
    | '\x7b' :: rest =>
      match skipGaps rest with
      | '\x7d' :: rest => (.object [] true, rest)
      | rest =>
        let (entries, closed, rest) := readEntries fuel rest
        (.object entries closed, rest)
    | rest =>
      match afterWord? ['n', 'u', 'l', 'l'] rest with
      | some rest => (.null, rest)
      | none =>
        match afterWord? ['t', 'r', 'u', 'e'] rest with
        | some rest => (.bool true, rest)
        | none =>
          match afterWord? ['f', 'a', 'l', 's', 'e'] rest with
          | some rest => (.bool false, rest)
          | none =>
            match readNumber rest with
            | none => (.broken, [])
            | some (token, rest) =>
              match token.number? with
              | some n => (.number n, rest)
              | none => (.overflow, rest)

/-- Reads items up to the closing bracket, which it tells whether it found. -/
def readItems : Nat → List Char → List Draft × Bool × List Char
  | 0, _ => ([], false, [])
  | fuel + 1, cs =>
    let (item, rest) := readValue fuel cs
    match skipGaps rest with
    | ',' :: rest =>
      match skipGaps rest with
      | ']' :: _ => ([item], false, [])
      | rest =>
        let (items, closed, rest) := readItems fuel rest
        (item :: items, closed, rest)
    | ']' :: rest => ([item], true, rest)
    | _ => ([item], false, [])

/-- Reads entries up to the closing brace, which it tells whether it found. -/
def readEntries : Nat → List Char → List (Option String × Draft) × Bool × List Char
  | 0, _ => ([], false, [])
  | fuel + 1, cs =>
    match skipGaps cs with
    | '"' :: rest =>
      match readText rest with
      | some (key, rest) =>
        match skipGaps rest with
        | ':' :: rest =>
          let (value, rest) := readValue fuel rest
          match skipGaps rest with
          | ',' :: rest =>
            let (entries, closed, rest) := readEntries fuel rest
            ((key, value) :: entries, closed, rest)
          | '\x7d' :: rest => ([(key, value)], true, rest)
          | _ => ([(key, value)], false, [])
        | _ => ([(key, .broken)], false, [])
      | none => ([], false, [])
    | _ => ([], false, [])
end

def readDraft (cs : List Char) : Draft × List Char := readValue (cs.length + 1) cs

/-- The greatest number of lists and objects that may be open at a time. -/
def maxDepth : Nat := 127

/-- The value of a text that is one JSON value with blanks around it. -/
def parse? (s : String) : Option Json :=
  let (d, rest) := readDraft s.toList
  if (skipGaps rest).isEmpty then d.toJson? (some maxDepth) else none

end ReviewPanel.Json
