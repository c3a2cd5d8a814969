import ReviewPanel.Issue.Basic
import ReviewPanel.Text.Lower
import ReviewPanel.Text.Path
import ReviewPanel.Text.Word
import ReviewPanel.Sha256

/-! # What an issue is about

Paths and titles are compared in normal forms: a path without blanks around it and without leading `./`,
a title as the sequence of its lower-case words. The fingerprint of an issue is the digest of the normal
path, the lines and the normal title. -/
namespace ReviewPanel

namespace Text

/-- The words of the rest, the first of them continuing `read`, which holds its characters last one first. -/
def wordsFrom (read : List Char) : List Char → List (List Char)
  | [] => if read.isEmpty then [] else [read.reverse]
  | c :: rest =>
    if isWordChar c then wordsFrom (c :: read) rest
    else if read.isEmpty then wordsFrom [] rest
    else read.reverse :: wordsFrom [] rest

def words (cs : List Char) : List (List Char) := wordsFrom [] cs

def unwords : List (List Char) → List Char
  | [] => []
  | [w] => w
  | w :: rest => w ++ ' ' :: unwords rest

end Text

namespace Issue

def titleWords (i : Issue) : List (List Char) := Text.words (Text.lower i.title.toList)

def normalizedTitle (i : Issue) : String := String.ofList (Text.unwords i.titleWords)

/-- The written form of the lines of an issue, empty for a whole file. -/
def writeRange : Option (UInt32 × UInt32) → List Char
  | none => []
  | some (lo, hi) => Nat.toDigits 10 lo.toNat ++ '-' :: Nat.toDigits 10 hi.toNat

/-- What the fingerprint is taken of: path, lines and title on a line each. -/
def fingerprintText (i : Issue) : List Char :=
  (Text.normalizePath i.file).toList ++ '\n' :: writeRange i.lineRange ++ '\n' :: i.normalizedTitle.toList

def fingerprint (i : Issue) : String := String.ofList (Sha256.hexOfText i.fingerprintText)

end Issue

end ReviewPanel
