import ReviewPanel.Instant
import ReviewPanel.Text.Hex
import ReviewPanel.Toml.Basic

/-! # Numbers, dates and times of a settings file -/
namespace ReviewPanel.Toml

def moreDigits (isDigit : Char → Bool) : List Char → Option (List Char × List Char)
  | [] => some ([], [])
  | ['_'] => none
  | '_' :: c :: rest =>
    if isDigit c then (moreDigits isDigit rest).map fun (ds, left) => (c :: ds, left) else none
  | c :: rest =>
    if isDigit c then (moreDigits isDigit rest).map fun (ds, left) => (c :: ds, left)
    else some ([], c :: rest)

def readDigits (isDigit : Char → Bool) : List Char → Option (List Char × List Char)
  | c :: rest =>
    if isDigit c then (moreDigits isDigit rest).map fun (ds, left) => (c :: ds, left) else none
  | [] => none

def digitsValue (base : Nat) (ds : List Char) : Nat :=
  ds.foldl (fun n c => n * base + (Text.hexValue? c).getD 0) 0

def readSign : List Char → Bool × List Char
  | '-' :: rest => (true, rest)
  | '+' :: rest => (false, rest)
  | cs => (false, cs)

/-- The digits of a decimal integer: a zero alone, or no zero in front. -/
def readWhole : List Char → Option (List Char × List Char)
  | '0' :: rest => some (['0'], rest)
  | cs => readDigits Char.isDigit cs

def integer? (value : Int) : Option Toml :=
  if -(Nat.pow 2 63 : Nat) ≤ value ∧ value < (Nat.pow 2 63 : Nat) then some (.integer value) else none

def readBased (base : Nat) (isDigit : Char → Bool) (cs : List Char) : Option (Toml × List Char) := do
  let (ds, rest) ← readDigits isDigit cs
  let v ← integer? (digitsValue base ds)
  some (v, rest)

/-- The digits of a fraction behind the point, if there is one. -/
def readFraction : List Char → Option (Option (List Char) × List Char)
  | '.' :: rest => (readDigits Char.isDigit rest).map fun (ds, left) => (some ds, left)
  | cs => some (none, cs)

def readExponent : List Char → Option (Option Int × List Char)
  | c :: rest =>
    if c = 'e' ∨ c = 'E' then do
      let (negative, rest) := readSign rest
      let (ds, left) ← readDigits Char.isDigit rest
      let n : Int := digitsValue 10 ds
      some (some (if negative then -n else n), left)
    else some (none, c :: rest)
  | [] => some (none, [])

/-- Rounding `significand * 10 ^ exponent` to the 64-bit format gives a finite number. -/
def isFinite (significand : Nat) (exponent : Int) : Bool :=
  let top := exponent + (Nat.toDigits 10 significand).length
  if significand = 0 ∨ top < 309 then true
  else if 310 < top then false
  else
    let limit := Nat.pow 2 1024 - Nat.pow 2 970
    if exponent < 0 then significand < limit * Nat.pow 10 exponent.natAbs
    else significand * Nat.pow 10 exponent.toNat < limit

/-- A decimal number, with a fraction or an exponent a floating-point number. Beyond the range of that
format only a negative one is a number. -/
def readDecimal (cs : List Char) : Option (Toml × List Char) := do
  let (negative, rest) := readSign cs
  let (whole, rest) ← readWhole rest
  let (fraction, rest) ← readFraction rest
  let (exponent, rest) ← readExponent rest
  match fraction, exponent with
  | none, none =>
    let n : Int := digitsValue 10 whole
    let v ← integer? (if negative then -n else n)
    some (v, rest)
  | fraction, exponent =>
    let fraction := fraction.getD []
    let significand := digitsValue 10 (whole ++ fraction)
    if negative || isFinite significand (exponent.getD 0 - fraction.length) then some (.float, rest)
    else none

def afterWord? (word : List Char) (cs : List Char) : Option (List Char) :=
  if word.isPrefixOf cs then some (cs.drop word.length) else none

def readSpecial (cs : List Char) : Option (Toml × List Char) := do
  let rest := (readSign cs).2
  match afterWord? ['i', 'n', 'f'] rest with
  | some left => some (.float, left)
  | none => (afterWord? ['n', 'a', 'n'] rest).map fun left => (.float, left)

/-- Exactly `count` digits whose value lies between two bounds. -/
def readField (count low high : Nat) (cs : List Char) : Option (Nat × List Char) :=
  let ds := cs.take count
  let n := digitsValue 10 ds
  if ds.length = count ∧ ds.all Char.isDigit ∧ low ≤ n ∧ n ≤ high then some (n, cs.drop count) else none

def afterMark? (mark : Char) : List Char → Option (List Char)
  | c :: rest => if c = mark then some rest else none
  | [] => none

def afterTime? (cs : List Char) : Option (List Char) := do
  let (_, cs) ← readField 2 0 23 cs
  let cs ← afterMark? ':' cs
  let (_, cs) ← readField 2 0 59 cs
  let cs ← afterMark? ':' cs
  let (_, cs) ← readField 2 0 60 cs
  match cs with
  | '.' :: c :: rest => some (if c.isDigit then rest.dropWhile Char.isDigit else cs)
  | _ => some cs

def afterDate? (cs : List Char) : Option (List Char) := do
  let (year, cs) ← readField 4 0 9999 cs
  let cs ← afterMark? '-' cs
  let (month, cs) ← readField 2 1 12 cs
  let cs ← afterMark? '-' cs
  let (_, cs) ← readField 2 1 (Instant.daysIn year month) cs
  some cs

def afterOffset? : List Char → Option (List Char)
  | [] => none
  | c :: rest =>
    if c = 'Z' ∨ c = 'z' then some rest
    else if c = '+' ∨ c = '-' then do
      let (_, cs) ← readField 2 0 23 rest
      let cs ← afterMark? ':' cs
      let (_, cs) ← readField 2 0 59 cs
      some cs
    else none

/-- What follows the time of day behind a date, with its offset; the date alone if there is none. -/
def afterTimeOfDate (cs : List Char) : List Char :=
  match cs with
  | c :: rest =>
    if c = 'T' ∨ c = 't' ∨ c = ' ' then
      match afterTime? rest with
      | some left => (afterOffset? left).getD left
      | none => cs
    else cs
  | [] => cs

def readTime (cs : List Char) : Option (Toml × List Char) :=
  match afterDate? cs with
  | some rest => some (.time, afterTimeOfDate rest)
  | none => (afterTime? cs).map fun rest => (.time, rest)

def isHexDigit (c : Char) : Bool := (Text.hexValue? c).isSome

def readNumber (cs : List Char) : Option (Toml × List Char) :=
  match readTime cs with
  | some r => some r
  | none =>
    match cs with
    | '0' :: 'x' :: rest => readBased 16 isHexDigit rest
    | '0' :: 'o' :: rest => readBased 8 (fun c => '0' ≤ c && c ≤ '7') rest
    | '0' :: 'b' :: rest => readBased 2 (fun c => c = '0' || c = '1') rest
    | _ =>
      match readSpecial cs with
      | some r => some r
      | none => readDecimal cs

end ReviewPanel.Toml
