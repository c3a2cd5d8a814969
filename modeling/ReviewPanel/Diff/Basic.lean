import ReviewPanel.Text.Lines
import ReviewPanel.Text.Path
import ReviewPanel.Total

/-! # Diffs

The change under review, file by file, as a parser of diffs hands it over. -/
namespace ReviewPanel

/-- What happened to a file. -/
inductive FileOperation where
  | add
  | modify
  | delete
  | rename
deriving Repr, DecidableEq, BEq, Inhabited

namespace FileOperation

def all : List FileOperation := [.add, .modify, .delete, .rename]

def name : FileOperation → String
  | .add => "add"
  | .modify => "modify"
  | .delete => "delete"
  | .rename => "rename"

def display : FileOperation → String
  | .add => "added"
  | .modify => "modified"
  | .delete => "deleted"
  | .rename => "renamed"

end FileOperation

/-- A run of lines that changed together, with its place in the old and in the new file. -/
structure Hunk where
  oldStart : UInt32
  oldLines : UInt32
  newStart : UInt32
  newLines : UInt32
  /-- The lines, each behind its marker. -/
  content : String
deriving Repr, DecidableEq, BEq, Inhabited

/-- How much a diff changes. -/
structure DiffStats where
  filesChanged : Nat
  additions : Nat
  deletions : Nat
deriving Repr, DecidableEq, BEq, Inhabited

/-- The change of one file. -/
structure FileDiff where
  path : String
  /-- The path before a renaming. -/
  oldPath : Option String
  operation : FileOperation
  hunks : List Hunk
  /-- The text of the change, with its headers. -/
  raw : String
  additions : Nat
  deletions : Nat
deriving Repr, DecidableEq, BEq, Inhabited

namespace FileDiff

def isHeader (line : List Char) : Bool :=
  ['+', '+', '+'].isPrefixOf line || ['-', '-', '-'].isPrefixOf line

def isAddition (line : List Char) : Bool := !isHeader line && ['+'].isPrefixOf line

def isDeletion (line : List Char) : Bool := !isHeader line && ['-'].isPrefixOf line

/-- The change that a text describes; its added and removed lines are counted. -/
def ofRaw (path : String) (operation : FileOperation) (raw : String) : FileDiff where
  path
  oldPath := none
  operation
  hunks := []
  raw
  additions := (Text.lines raw).countP isAddition
  deletions := (Text.lines raw).countP isDeletion

/-- The same change, to a file that had another path before. -/
def renamedFrom (f : FileDiff) (oldPath : String) : FileDiff :=
  { f with oldPath := some oldPath, operation := .rename }

def withHunks (f : FileDiff) (hunks : List Hunk) : FileDiff := { f with hunks }

/-- The number of lines of the new file that the change shows: as the hunks say, or, without hunks, the
number of lines of the text. -/
def lineCount (f : FileDiff) : Nat :=
  if f.hunks.isEmpty then (Text.lines f.raw).length else total (·.newLines.toNat) f.hunks

end FileDiff

/-- A whole change. -/
structure Diff where
  files : List FileDiff
  stats : DiffStats
deriving Repr, DecidableEq, BEq, Inhabited

namespace Diff

def ofFiles (files : List FileDiff) : Diff where
  files
  stats :=
    { filesChanged := files.length
      additions := total (·.additions) files
      deletions := total (·.deletions) files }

def isEmpty (d : Diff) : Bool := d.files.isEmpty

def fileCount (d : Diff) : Nat := d.files.length

def paths (d : Diff) : List String := d.files.map (·.path)

/-- The first file that has a path now or had it before; leading `./` of the path do not count. -/
def findFile (d : Diff) (path : String) : Option FileDiff :=
  let path := String.ofList (Text.dropDots path.toList)
  d.files.find? fun f => f.path == path || f.oldPath == some path

end Diff

end ReviewPanel
