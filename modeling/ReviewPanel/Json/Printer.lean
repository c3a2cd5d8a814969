import ReviewPanel.Json.Basic
import ReviewPanel.Binary.Notation
import ReviewPanel.Text.Hex

/-! # Writing JSON

The compact form: no blanks, quotes and backslashes escaped, control characters in their short form or
as four hexadecimal digits, every other character as it is. -/
namespace ReviewPanel.Json

def escapeChar (c : Char) : List Char :=
  if c = '"' then ['\\', '"']
  else if c = '\\' then ['\\', '\\']
  else if c = '\n' then ['\\', 'n']
  else if c = '\r' then ['\\', 'r']
  else if c = '\t' then ['\\', 't']
  else if c.toNat = 8 then ['\\', 'b']
  else if c.toNat = 12 then ['\\', 'f']
  else if c.toNat < 32 then '\\' :: 'u' :: Text.hexDigits 4 c.toNat
  else [c]

def writeText (s : String) : List Char := '"' :: s.toList.flatMap escapeChar ++ ['"']

def writeNat (n : Nat) : List Char := Nat.toDigits 10 n

def writeNumber : Number → List Char
  | .integer i => if i < 0 then '-' :: writeNat i.natAbs else writeNat i.natAbs
  | .single x => x.write
  | .double x => x.write

mutual
def write : Json → List Char
  | .null => ['n', 'u', 'l', 'l']
  | .bool true => ['t', 'r', 'u', 'e']
  | .bool false => ['f', 'a', 'l', 's', 'e']
  | .number n => writeNumber n
  | .text s => writeText s
  | .list [] => ['[', ']']
  | .list (j :: rest) => '[' :: write j ++ writeItems rest
  | .object [] => ['\x7b', '\x7d']
  | .object ((k, j) :: rest) => '\x7b' :: writeText k ++ ':' :: write j ++ writeEntries rest

def writeItems : List Json → List Char
  | [] => [']']
  | j :: rest => ',' :: write j ++ writeItems rest

def writeEntries : List (String × Json) → List Char
  | [] => ['\x7d']
  | (k, j) :: rest => ',' :: writeText k ++ ':' :: write j ++ writeEntries rest
end

def render (j : Json) : String := String.ofList j.write

end ReviewPanel.Json
