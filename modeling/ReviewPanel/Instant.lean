import ReviewPanel.Text.Blank
import ReviewPanel.Total

/-! # Points in time

A point in time is a date of the proleptic Gregorian calendar and a time of day, both in universal time.
It is written as `2024-05-06T07:08:09.123Z`, with as many digits of a second as are needed, by threes. It
is read from the same form with some freedom: blanks may stand between the parts, and the time may be
local with a stated offset. -/
namespace ReviewPanel

/-- A point in time. In a leap second `nano` goes on beyond a thousand million. -/
structure Instant where
  year : Int
  month : Nat
  day : Nat
  hour : Nat
  minute : Nat
  second : Nat
  nano : Nat
deriving Repr, DecidableEq, BEq, Inhabited

namespace Instant

/-- Why a text is no point in time. -/
inductive Fault where
  | tooShort
  | invalid
  | outOfRange
  | trailing
  | impossible
deriving Repr, DecidableEq, BEq

def Fault.message : Fault → String
  | .tooShort => "premature end of input"
  | .invalid => "input contains invalid characters"
  | .outOfRange => "input is out of range"
  | .trailing => "trailing input"
  | .impossible => "no possible date and time matching input"

/-! ## The calendar -/

/-- Every fourth year is a leap year, but of the full centuries only every fourth. -/
def isLeap (year : Int) : Bool := year % 4 = 0 && (year % 100 ≠ 0 || year % 400 = 0)

def daysIn (year : Int) (month : Nat) : Nat :=
  if month = 2 then if isLeap year then 29 else 28
  else if month = 4 ∨ month = 6 ∨ month = 9 ∨ month = 11 then 30
  else 31

def yearInRange (year : Int) : Bool := -262143 ≤ year && year ≤ 262142

def nextDay (t : Instant) : Instant :=
  if t.day < daysIn t.year t.month then { t with day := t.day + 1 }
  else if t.month < 12 then { t with month := t.month + 1, day := 1 }
  else { t with year := t.year + 1, month := 1, day := 1 }

def previousDay (t : Instant) : Instant :=
  if 1 < t.day then { t with day := t.day - 1 }
  else if 1 < t.month then { t with month := t.month - 1, day := daysIn t.year (t.month - 1) }
  else { t with year := t.year - 1, month := 12, day := 31 }

/-- The time of day set to a number of whole seconds since midnight. -/
def atSecond (t : Instant) (s : Nat) : Instant :=
  { t with hour := s / 3600, minute := s / 60 % 60, second := s % 60 }

/-- A local time moved to universal time; `offset` is the local clock's advance in seconds, less than a day. -/
def toUniversal (t : Instant) (offset : Int) : Instant :=
  let s : Int := (t.hour * 3600 + t.minute * 60 + t.second : Nat) - offset
  if s < 0 then t.previousDay.atSecond (s + 86400).toNat
  else if 86400 ≤ s then t.nextDay.atSecond (s - 86400).toNat
  else t.atSecond s.toNat

/-- The date that is a number of days after the start of the year 1970. The days are counted from the
first of March of the year zero, so that a leap day ends its year; 400 years have 146097 days. -/
def ofDays (days : Nat) : Instant :=
  let z := days + 719468
  let n := z % 146097
  let inCycle := (n - n / 1460 + n / 36524 - n / 146096) / 365
  let dayOfYear := n - (365 * inCycle + inCycle / 4 - inCycle / 100)
  let shifted := (5 * dayOfYear + 2) / 153
  let month := if shifted < 10 then shifted + 3 else shifted - 9
  let year := inCycle + z / 146097 * 400
  ⟨if month ≤ 2 then year + 1 else year, month, dayOfYear - (153 * shifted + 2) / 5 + 1, 0, 0, 0, 0⟩

/-- The time that is a number of milliseconds after the start of the year 1970. -/
def ofMillis (ms : Nat) : Instant :=
  { (ofDays (ms / 86400000)).atSecond (ms / 1000 % 86400) with nano := ms % 1000 * 1000000 }

/-! ## Writing -/

def digits : Nat → Nat → List Char
  | 0, _ => []
  | width + 1, n => digits width (n / 10) ++ [Char.ofNat (48 + n % 10)]

/-- The year: four digits, or more with a sign outside the years 0 to 9999. -/
def writeYear (year : Int) : List Char :=
  if 0 ≤ year ∧ year ≤ 9999 then digits 4 year.toNat
  else (if year < 0 then '-' else '+') :: digits (max 4 (Nat.toDigits 10 year.natAbs).length) year.natAbs

/-- The fraction of a second, in as many digits as it needs, by threes. -/
def writeFraction (nano : Nat) : List Char :=
  if nano = 0 then []
  else if nano % 1000000 = 0 then '.' :: digits 3 (nano / 1000000)
  else if nano % 1000 = 0 then '.' :: digits 6 (nano / 1000)
  else '.' :: digits 9 nano

def write (t : Instant) : List Char :=
  let leap := 1000000000 ≤ t.nano
  let second := if leap then t.second + 1 else t.second
  let nano := if leap then t.nano - 1000000000 else t.nano
  writeYear t.year ++ '-' :: digits 2 t.month ++ '-' :: digits 2 t.day ++ 'T' :: digits 2 t.hour
    ++ ':' :: digits 2 t.minute ++ ':' :: digits 2 second ++ writeFraction nano ++ ['Z']

/-! ## Reading -/

def value (cs : List Char) : Nat := cs.foldl (fun n c => n * 10 + (c.toNat - 48)) 0

/-- The leading decimal digits, at most `most` of them, and the rest. -/
def takeDigits : Nat → List Char → List Char × List Char
  | 0, cs => ([], cs)
  | _, [] => ([], [])
  | most + 1, c :: rest =>
    if c.isDigit then
      let (ds, rest) := takeDigits most rest
      (c :: ds, rest)
    else ([], c :: rest)

def readNumber (most : Nat) (cs : List Char) : Except Fault (Nat × List Char) :=
  match cs with
  | [] => .error .tooShort
  | _ =>
    let (ds, rest) := takeDigits most cs
    if ds.isEmpty then .error .invalid
    else if value ds < Nat.pow 2 63 then .ok (value ds, rest)
    else .error .outOfRange

def readField (low high : Nat) (cs : List Char) : Except Fault (Nat × List Char) := do
  let (n, rest) ← readNumber 2 (Text.trimStart cs)
  if low ≤ n ∧ n ≤ high then .ok (n, rest) else .error .outOfRange

/-- A year: up to four digits, or any number of them behind a sign. -/
def readYear (cs : List Char) : Except Fault (Int × List Char) := do
  let cs := Text.trimStart cs
  let (year, rest) ← match cs with
    | '-' :: rest => do
      let (n, rest) ← readNumber rest.length rest
      .ok (-(n : Int), rest)
    | '+' :: rest => do
      let (n, rest) ← readNumber rest.length rest
      .ok ((n : Int), rest)
    | _ => do
      let (n, rest) ← readNumber 4 cs
      .ok ((n : Int), rest)
  if -(Nat.pow 2 31 : Nat) ≤ year ∧ year < (Nat.pow 2 31 : Nat) then .ok (year, rest) else .error .outOfRange

/-- The text behind a mark, with blanks allowed in front of the mark. -/
def readMark (mark : Char) (cs : List Char) : Except Fault (List Char) :=
  match Text.trimStart cs with
  | [] => .error .tooShort
  | c :: rest => if c = mark then .ok rest else .error .invalid

/-- The fraction of a second in thousand-millionths; digits beyond the ninth are passed over. -/
def readFraction (cs : List Char) : Except Fault (Nat × List Char) :=
  match cs with
  | '.' :: rest => do
    let (n, left) ← readNumber 9 rest
    let used := rest.length - left.length
    .ok (n * Nat.pow 10 (9 - used), left.dropWhile Char.isDigit)
  | _ => .ok (0, cs)

def byteCount (cs : List Char) : Nat := total Char.utf8Size cs

/-- Two digits of an offset. The first may be at most `top`: above it a digit is out of range. -/
def readPair (top : Char) (cs : List Char) : Except Fault (Nat × List Char) :=
  if byteCount cs < 2 then .error .tooShort
  else match cs with
    | a :: b :: rest =>
      if a.isDigit ∧ b.isDigit then
        if a ≤ top then .ok (value [a, b], rest) else .error .outOfRange
      else .error .invalid
    | _ => .error .invalid

/-- The offset of a local time in seconds: `Z`, or hours and minutes behind a sign. -/
def readOffset (cs : List Char) : Except Fault (Int × List Char) :=
  match cs with
  | [] => .error .tooShort
  | c :: rest =>
    if c = 'Z' ∨ c = 'z' then .ok (0, rest)
    else if c = '+' ∨ c = '-' ∨ c.toNat = 0x2212 then do
      let (hours, rest) ← readPair '9' rest
      let rest := rest.dropWhile fun c => c = ':' || Text.isBlank c
      let (minutes, rest) ← readPair '5' rest
      let seconds : Int := (hours * 3600 + minutes * 60 : Nat)
      .ok (if c = '+' then seconds else -seconds, rest)
    else .error .invalid

def readZone (cs : List Char) : Except Fault (Int × List Char) :=
  match cs with
  | a :: b :: c :: rest =>
    if [a, b, c].map Char.toLower = ['u', 't', 'c'] then .ok (0, rest) else readOffset cs
  | _ => readOffset cs

/-- The text behind the letter or blank between date and time. -/
def readSeparator (cs : List Char) : Except Fault (List Char) :=
  match cs with
  | [] => .error .tooShort
  | c :: rest => if c = 'T' ∨ c = 't' ∨ c = ' ' then .ok rest else .error .invalid

def parse (s : String) : Except Fault Instant := do
  let (year, cs) ← readYear s.toList
  let cs ← readMark '-' cs
  let (month, cs) ← readField 1 12 cs
  let cs ← readMark '-' cs
  let (day, cs) ← readField 1 31 cs
  let cs ← readSeparator cs
  let (hour, cs) ← readField 0 23 cs
  let cs ← readMark ':' cs
  let (minute, cs) ← readField 0 59 cs
  let cs ← readMark ':' cs
  let (second, cs) ← readField 0 60 cs
  let (nano, cs) ← readFraction cs
  let (offset, cs) ← readZone (Text.trimStart cs)
  if !(Text.trimStart cs).isEmpty then .error .trailing
  else if !(yearInRange year && day ≤ daysIn year month) then .error .outOfRange
  else if !(-86400 < offset && offset < 86400) then .error .outOfRange
  else
    let leap := second = 60
    let t : Instant := ⟨year, month, day, hour, minute,
      if leap then 59 else second, if leap then nano + 1000000000 else nano⟩
    let u := t.toUniversal offset
    if yearInRange u.year then .ok u else .error .impossible

end Instant

end ReviewPanel
