import ReviewPanel.Issue.Identity

/-! # Aggregating issues

The issues of all lenses pass four steps: later duplicates go, then issues below the threshold, then
incomplete ones, and what is left is put in order, most severe first. -/
namespace ReviewPanel.Issue

def titleWordSet (i : Issue) : List (List Char) := i.titleWords.eraseDups

def sharedWords (a b : Issue) : Nat := (a.titleWordSet.filter (b.titleWordSet.contains ·)).length

def allWords (a b : Issue) : Nat := a.titleWordSet.length + b.titleWordSet.length - sharedWords a b

/-- At least `num` of `den` words are shared. Titles without words are alike. -/
def titlesShare (num den : Nat) (a b : Issue) : Bool := num * allWords a b ≤ den * sharedWords a b

/-- The categories agree up to blanks around them and the case of ASCII letters, and say something. -/
def sameCategory (a b : Issue) : Bool :=
  !Text.isBlankText a.category &&
    Text.sameIgnoringCase (Text.trimmed a.category) (Text.trimmed b.category)

/-- Two issues are the same finding when they overlap in one file and their titles have the same words,
or share three words in five, or three in ten under one category. -/
def isDuplicate (a b : Issue) : Bool :=
  Text.normalizePath a.file == Text.normalizePath b.file && a.overlaps b &&
    (a.normalizedTitle == b.normalizedTitle || titlesShare 3 5 a b ||
      (sameCategory a b && titlesShare 3 10 a b))

/-- The issues that are no duplicates of an earlier one that was kept; `kept` are those kept before. -/
def dedupeAfter (kept : List Issue) : List Issue → List Issue
  | [] => []
  | i :: rest =>
    if kept.any (isDuplicate · i) then dedupeAfter kept rest
    else i :: dedupeAfter (kept ++ [i]) rest

def dedupe (issues : List Issue) : List Issue := dedupeAfter [] issues

def filterBySeverity (threshold : Option Severity) (issues : List Issue) : List Issue :=
  match threshold with
  | none => issues
  | some t => issues.filter (·.severity.meets t)

def retainComplete (issues : List Issue) : List Issue := issues.filter isComplete

def insertBySeverity (i : Issue) : List Issue → List Issue
  | [] => [i]
  | j :: rest => if j.severity.rank < i.severity.rank then i :: j :: rest else j :: insertBySeverity i rest

/-- The issues with the most severe first, and otherwise in the order in which they came. -/
def sortBySeverity (issues : List Issue) : List Issue :=
  issues.foldl (fun sorted i => insertBySeverity i sorted) []

/-- The issues left by aggregation, and how many each step removed. -/
structure Aggregate where
  issues : List Issue
  duplicatesRemoved : Nat
  belowThreshold : Nat
  incompleteDropped : Nat
deriving Repr, DecidableEq

def aggregate (issues : List Issue) (threshold : Option Severity) : Aggregate :=
  let deduped := dedupe issues
  let filtered := filterBySeverity threshold deduped
  let complete := retainComplete filtered
  { issues := sortBySeverity complete
    duplicatesRemoved := issues.length - deduped.length
    belowThreshold := deduped.length - filtered.length
    incompleteDropped := filtered.length - complete.length }

end ReviewPanel.Issue
