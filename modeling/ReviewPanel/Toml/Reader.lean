import ReviewPanel.Toml.Number
import ReviewPanel.Toml.Table
import ReviewPanel.Toml.Text

/-! # Reading a settings file -/
namespace ReviewPanel.Toml

def maxParts : Nat := 79

/-- The greatest number of lists and tables between brackets that may be open at a time. -/
def maxDepth : Nat := 79

def skipComment : List Char → List Char
  | '#' :: rest => rest.dropWhile isPlain
  | cs => cs

/-- What follows the rest of a line with nothing but blanks and a comment. -/
def afterLine? (cs : List Char) : Option (List Char) :=
  match skipComment (skipBlanks cs) with
  | [] => some []
  | rest => afterNewline? rest

/-- The text without blanks, comments and line ends in front, at most `most` of them. -/
def skipGaps : Nat → List Char → List Char
  | 0, cs => cs
  | most + 1, cs =>
    let cs := skipComment (skipBlanks cs)
    match afterNewline? cs with
    | some rest => skipGaps most rest
    | none => cs

/-- Reads a value. -/
abbrev Reader := List Char → Option (Toml × List Char)

/-- The items of a list up to its closing bracket, at most `most` of them. -/
def readItems (value : Reader) : Nat → List Char → Option (List Toml × List Char)
  | 0, _ => none
  | most + 1, cs =>
    match skipGaps cs.length cs with
    | ']' :: rest => some ([], rest)
    | cs => do
      let (v, rest) ← value cs
      match skipGaps rest.length rest with
      | ',' :: rest => do
        let (vs, rest) ← readItems value most rest
        some (v :: vs, rest)
      | ']' :: rest => some ([v], rest)
      | _ => none

def readPair (value : Reader) (cs : List Char) : Option ((List String × Toml) × List Char) := do
  let (key, rest) ← readKey? maxParts cs
  let rest ← afterMark? '=' rest
  let (v, rest) ← value (skipBlanks rest)
  some ((key, v), rest)

/-- The entries of a table between braces up to the closing one, at most `most` of them; `es` are those
before them. -/
def readPairs (value : Reader) (es : Entries) : Nat → List Char → Option (Entries × List Char)
  | 0, _ => none
  | most + 1, cs => do
    let ((path, v), rest) ← readPair value cs
    let key ← path.getLast?
    let es ← insertDotted path.dropLast key v .inline es
    match skipBlanks rest with
    | ',' :: rest => readPairs value es most rest
    | '\x7d' :: rest => some (es, rest)
    | _ => none

def readScalar (cs : List Char) : Option (Toml × List Char) :=
  match cs with
  | [] => none
  | c :: _ =>
    if c = '"' ∨ c = '\x27' then (readString? cs).map fun (s, rest) => (.text (String.ofList s), rest)
    else if c = 't' then (afterWord? ['t', 'r', 'u', 'e'] cs).map fun rest => (.bool true, rest)
    else if c = 'f' then (afterWord? ['f', 'a', 'l', 's', 'e'] cs).map fun rest => (.bool false, rest)
    else if c = 'i' ∨ c = 'n' then readSpecial cs
    else if c.isDigit ∨ c = '+' ∨ c = '-' then readNumber cs
    else none

/-- A value in which at most `depth` lists and tables between brackets are open at a time. -/
def readValue : Nat → Reader
  | 0, cs => readScalar cs
  | depth + 1, cs =>
    match cs with
    | '[' :: rest => (readItems (readValue depth) cs.length rest).map fun (vs, rest) => (.list vs, rest)
    | '\x7b' :: rest =>
      match skipBlanks rest with
      | '\x7d' :: rest => some (.table .inline [], rest)
      | _ => (readPairs (readValue depth) [] cs.length rest).map fun (es, rest) => (.table .inline es, rest)
    | _ => readScalar cs

/-- The path between the brackets of a header, and whether it may be repeated. -/
def readHeader (cs : List Char) : Option ((List String × Bool) × List Char) :=
  match cs with
  | '[' :: '[' :: rest => do
    let (path, rest) ← readKey? maxParts rest
    let rest ← afterMark? ']' rest
    let rest ← afterMark? ']' rest
    some ((path, true), rest)
  | '[' :: rest => do
    let (path, rest) ← readKey? maxParts rest
    let rest ← afterMark? ']' rest
    some ((path, false), rest)
  | _ => none

def readLine (d : Document) (cs : List Char) : Option (Document × List Char) :=
  match cs with
  | '[' :: _ => do
    let ((path, isRepeated), rest) ← readHeader cs
    let d ← d.openTable path isRepeated
    some (d, rest)
  | _ => do
    let ((path, v), rest) ← readPair (readValue maxDepth) cs
    let d ← d.insert path v
    some (d, rest)

/-- The file after its remaining lines, at most `most` of them. -/
def readDocument : Nat → Document → List Char → Option Document
  | 0, _, _ => none
  | most + 1, d, cs =>
    match skipBlanks cs with
    | [] => some d
    | c :: rest =>
      if c = '#' ∨ c = '\n' ∨ c = '\r' then do
        let rest ← afterLine? (c :: rest)
        readDocument most d rest
      else do
        let (d, rest) ← readLine d (c :: rest)
        let rest ← afterLine? rest
        readDocument most d rest

def skipMark : List Char → List Char
  | '\uFEFF' :: rest => rest
  | cs => cs

def parse? (s : String) : Option Entries := do
  let cs := skipMark s.toList
  let d ← readDocument (cs.length + 1) .empty cs
  d.close

end ReviewPanel.Toml
