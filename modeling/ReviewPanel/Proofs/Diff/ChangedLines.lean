import ReviewPanel.Diff.Basic
import ReviewPanel.Proofs.Text.Visible

/-! # Changed lines

The change of a file is written as the names of the file, then its hunks: a line that opens the hunk, and
the lines of its body, each behind a marker. The counts do not follow the hunks. A line that begins with
three plus or three minus signs is taken for a name wherever it stands, so that the changed lines are
counted but for those whose own text begins with two more of their marker. -/
namespace ReviewPanel

theorem total_eq_sum_map {α : Type} (weight : α → Nat) (xs : List α) : total weight xs = (xs.map weight).sum := by
  induction xs with
  | nil => rfl
  | cons x xs ih => simp [ih]

namespace Text

/-- Whether a line has the property does not depend on a carriage return at its end. -/
def IgnoresReturn (p : List Char → Bool) : Prop := ∀ l, p (l ++ ['\r']) = p l

theorem IgnoresReturn.endedLine {p : List Char → Bool} (h : IgnoresReturn p) (read : List Char) :
    p (Text.endedLine read) = p read.reverse := by
  rw [Text.endedLine.eq_def]
  split
  · rw [List.reverse_cons, h]
  · rfl

theorem isPrefixOf_append_return {start : List Char} (h : '\r' ∉ start) (l : List Char) :
    start.isPrefixOf (l ++ ['\r']) = start.isPrefixOf l := by
  rw [Bool.eq_iff_iff, List.isPrefixOf_iff_prefix, List.isPrefixOf_iff_prefix, List.prefix_concat_iff]
  constructor
  · rintro (rfl | hl)
    · exact absurd (List.mem_append_right l List.mem_cons_self) h
    · exact hl
  · exact .inr

theorem countP_linesFrom_flatMap {p : List Char → Bool} (h : IgnoresReturn p) {ls : List (List Char)}
    (unbroken : ∀ l ∈ ls, '\n' ∉ l) : (linesFrom [] (ls.flatMap (· ++ ['\n']))).countP p = ls.countP p := by
  rw [linesFrom_flatMap_ended unbroken, List.countP_map]
  congr 1
  funext l
  rw [Function.comp_apply, h.endedLine, List.reverse_reverse]

/-- A line feed at the end adds at most an empty line, and takes at most a carriage return from the last. -/
theorem countP_linesFrom_newline {p : List Char → Bool} (h : IgnoresReturn p) (empty : p [] = false)
    (read cs : List Char) : (linesFrom read (cs ++ ['\n'])).countP p = (linesFrom read cs).countP p := by
  induction cs generalizing read with
  | nil =>
    cases read with
    | nil => simp [linesFrom, endedLine, empty]
    | cons c read => simp [linesFrom, h.endedLine]
  | cons c cs ih =>
    by_cases hc : c = '\n'
    · simp [linesFrom, hc, List.countP_cons, ih]
    · simp [linesFrom, hc, ih]

/-- Characters that stand on one line. -/
structure Inline where
  chars : List Char
  unbroken : '\n' ∉ chars := by decide

end Text

/-- How a line of a hunk stands to the file. -/
inductive Marker where
  | context
  | added
  | removed
deriving Repr, DecidableEq

def Marker.char : Marker → Char
  | .context => ' '
  | .added => '+'
  | .removed => '-'

structure HunkLine where
  marker : Marker
  text : Text.Inline

namespace HunkLine

def line (l : HunkLine) : List Char := l.marker.char :: l.text.chars

/-- A changed line that begins as a line with a name does, since its text begins with two more of its
marker. -/
def readsAsName (l : HunkLine) : Bool :=
  l.marker ≠ .context && [l.marker.char, l.marker.char].isPrefixOf l.text.chars

theorem unbroken_line (l : HunkLine) : '\n' ∉ l.line := by
  have hmarker : '\n' ≠ l.marker.char := by cases l.marker <;> decide
  simp [line, hmarker, l.text.unbroken]

end HunkLine

/-- A hunk in writing: what follows the two signs that open it, and its lines. -/
structure WrittenHunk where
  place : Text.Inline
  body : List HunkLine

def WrittenHunk.lines (h : WrittenHunk) : List (List Char) :=
  ('@' :: '@' :: h.place.chars) :: h.body.map HunkLine.line

/-- The change of a file in writing: its old and its new name, either of which may be missing, and its
hunks. -/
structure WrittenChange where
  oldName : Option Text.Inline
  newName : Option Text.Inline
  hunks : List WrittenHunk

namespace WrittenChange

variable (w : WrittenChange)

def oldNameLine (name : Text.Inline) : List Char := '-' :: '-' :: '-' :: ' ' :: name.chars

def newNameLine (name : Text.Inline) : List Char := '+' :: '+' :: '+' :: ' ' :: name.chars

def lines : List (List Char) :=
  (w.oldName.map oldNameLine).toList ++ (w.newName.map newNameLine).toList ++
    w.hunks.flatMap WrittenHunk.lines

def body : List HunkLine := w.hunks.flatMap (·.body)

/-- A text consists of the lines of the change, the last of which need not be ended. -/
def Spells (raw : String) : Prop :=
  raw.toList = w.lines.flatMap (· ++ ['\n']) ∨ raw.toList ++ ['\n'] = w.lines.flatMap (· ++ ['\n'])

/-- The number of lines with a marker. -/
def marked (m : Marker) : Nat := w.body.countP fun l => l.marker = m

/-- The number of lines with a marker that do not read as names. -/
def plain (m : Marker) : Nat := w.body.countP fun l => l.marker = m && !l.readsAsName

theorem unbroken_lines : ∀ l ∈ w.lines, '\n' ∉ l := by
  intro l hl
  simp only [lines, List.mem_append, Option.mem_toList, Option.map_eq_some_iff, List.mem_flatMap,
    WrittenHunk.lines, List.mem_cons, List.mem_map] at hl
  rcases hl with (⟨name, -, rfl⟩ | ⟨name, -, rfl⟩) | ⟨h, -, rfl | ⟨b, -, rfl⟩⟩
  · simp [oldNameLine, name.unbroken]
  · simp [newNameLine, name.unbroken]
  · simp [h.place.unbroken]
  · exact b.unbroken_line

/-- A property that no name and no opening of a hunk has is counted over the bodies. -/
theorem countP_lines {p : List Char → Bool} (old : ∀ name, p (oldNameLine name) = false)
    (new : ∀ name, p (newNameLine name) = false) (opening : ∀ cs, p ('@' :: '@' :: cs) = false) :
    w.lines.countP p = w.body.countP fun l => p l.line := by
  have hold : (w.oldName.map oldNameLine).toList.countP p = 0 := by
    cases w.oldName <;> simp [old]
  have hnew : (w.newName.map newNameLine).toList.countP p = 0 := by
    cases w.newName <;> simp [new]
  have hhunk (h : WrittenHunk) : h.lines.countP p = h.body.countP fun l => p l.line := by
    simp [WrittenHunk.lines, opening, List.countP_map, Function.comp_def]
  simp [lines, body, List.countP_append, hold, hnew, List.countP_flatMap, Function.comp_def, hhunk]

theorem countP_lines_of_spells {w : WrittenChange} {raw : String} (spelled : w.Spells raw)
    {p : List Char → Bool} (h : Text.IgnoresReturn p) (empty : p [] = false) :
    (Text.lines raw).countP p = w.lines.countP p := by
  rw [← Text.countP_linesFrom_flatMap h w.unbroken_lines, Text.lines]
  rcases spelled with hended | hunended
  · rw [hended]
  · rw [← hunended, Text.countP_linesFrom_newline h empty]

/-- All lines with a marker are plain exactly if none of them reads as a name. -/
theorem plain_eq_marked_iff (m : Marker) :
    w.plain m = w.marked m ↔ ∀ l ∈ w.body, l.marker = m → l.readsAsName = false := by
  have hsplit := List.countP_eq_countP_filter_add w.body (fun l => decide (l.marker = m)) HunkLine.readsAsName
  rw [List.countP_filter, List.countP_filter] at hsplit
  have hnone : (w.body.countP fun l => l.marker = m && l.readsAsName) = 0 ↔
      ∀ l ∈ w.body, l.marker = m → l.readsAsName = false := by
    simp [List.countP_eq_zero]
  rw [← hnone, plain, marked, hsplit]
  omega

end WrittenChange

namespace FileDiff

/-- A line that begins with a sign and is not taken for a name. -/
def isChange (sign : Char) (line : List Char) : Bool := !isHeader line && [sign].isPrefixOf line

theorem ignoresReturn_isChange {sign : Char} (h : sign ≠ '\r') : Text.IgnoresReturn (isChange sign) := by
  intro l
  have hsign : '\r' ∉ [sign] := by simpa using h.symm
  rw [isChange, isChange, isHeader, isHeader, Text.isPrefixOf_append_return (by decide),
    Text.isPrefixOf_append_return (by decide), Text.isPrefixOf_append_return hsign]

theorem isChange_line {m : Marker} (changed : m ≠ .context) (l : HunkLine) :
    isChange m.char l.line = (l.marker = m && !l.readsAsName : Bool) := by
  rw [isChange, isHeader, HunkLine.line, HunkLine.readsAsName]
  cases m with
  | context => exact absurd rfl changed
  | added => cases h : l.marker <;> simp [Marker.char, List.isPrefixOf]
  | removed => cases h : l.marker <;> simp [Marker.char, List.isPrefixOf]

theorem countP_isChange {w : WrittenChange} {raw : String} (spelled : w.Spells raw) {m : Marker}
    (changed : m ≠ .context) : (Text.lines raw).countP (isChange m.char) = w.plain m := by
  have hreturn : Text.IgnoresReturn (isChange m.char) := ignoresReturn_isChange (by cases m <;> decide)
  have hopening (cs : List Char) : isChange m.char ('@' :: '@' :: cs) = false := by cases m <;> rfl
  rw [WrittenChange.countP_lines_of_spells spelled hreturn rfl,
    w.countP_lines (fun _ => rfl) (fun _ => rfl) hopening, WrittenChange.plain]
  simp only [isChange_line changed]

/-- The counts of a file against its change in writing: a line with a marker is counted unless it reads as a
name, and so all of them are if none does. -/
structure Counts (f : FileDiff) (w : WrittenChange) : Prop where
  additions_eq : f.additions = w.plain .added
  deletions_eq : f.deletions = w.plain .removed
  additions_iff : f.additions = w.marked .added ↔ ∀ l ∈ w.body, l.marker = .added → l.readsAsName = false
  deletions_iff : f.deletions = w.marked .removed ↔ ∀ l ∈ w.body, l.marker = .removed → l.readsAsName = false

theorem additions_ofRaw {w : WrittenChange} {raw : String} (spelled : w.Spells raw) (path : String)
    (operation : FileOperation) : (ofRaw path operation raw).additions = w.plain .added := by
  have hchanged : Marker.added ≠ .context := by decide
  exact countP_isChange spelled hchanged

theorem deletions_ofRaw {w : WrittenChange} {raw : String} (spelled : w.Spells raw) (path : String)
    (operation : FileOperation) : (ofRaw path operation raw).deletions = w.plain .removed := by
  have hchanged : Marker.removed ≠ .context := by decide
  exact countP_isChange spelled hchanged

/-- The counts of a file are those of its changed lines that do not read as names, and the totals of a diff
are the sums over its files, if these have 64 bits. -/
theorem counts_ofRaw (w : WrittenChange) {raw : String} (spelled : w.Spells raw) (path : String)
    (operation : FileOperation) (files : List FileDiff) :
    (ofRaw path operation raw).Counts w ∧
      ((files.map (·.additions)).sum < 2 ^ 64 → (files.map (·.deletions)).sum < 2 ^ 64 →
        (Diff.ofFiles files).stats =
          { filesChanged := files.length
            additions := (files.map (·.additions)).sum
            deletions := (files.map (·.deletions)).sum }) := by
  have hadditions := additions_ofRaw spelled path operation
  have hdeletions := deletions_ofRaw spelled path operation
  constructor
  · constructor
    · exact hadditions
    · exact hdeletions
    · rw [hadditions, w.plain_eq_marked_iff]
    · rw [hdeletions, w.plain_eq_marked_iff]
  · intro _ _
    simp only [Diff.ofFiles, total_eq_sum_map]

section Steps

/-- A file in which one assignment changes, and a step back becomes a step forward. -/
def steps : WrittenChange where
  oldName := some { chars := "a/src/counter.c".toList }
  newName := some { chars := "b/src/counter.c".toList }
  hunks :=
    [{ place := { chars := " -1,2 +1,2 @@".toList }
       body :=
        [⟨.context, { chars := "int i;".toList }⟩, ⟨.removed, { chars := "i = 0;".toList }⟩,
          ⟨.added, { chars := "i = 1;".toList }⟩] },
      { place := { chars := " -9 +9 @@".toList }
        body := [⟨.removed, { chars := "--i;".toList }⟩, ⟨.added, { chars := "++i;".toList }⟩] }]

def stepsText : String :=
  "--- a/src/counter.c\n+++ b/src/counter.c\n@@ -1,2 +1,2 @@\n int i;\n-i = 0;\n+i = 1;\n@@ -9 +9 @@\n---i;\n+++i;\n"

theorem spells_steps : steps.Spells stepsText := .inl (by decide)

theorem counts_ofRaw_of_steps :
    steps.Spells stepsText ∧ (ofRaw "src/counter.c" .modify stepsText).Counts steps ∧
      (Diff.ofFiles [ofRaw "src/counter.c" .modify stepsText]).stats = ⟨1, 1, 1⟩ := by
  obtain ⟨hcounts, htotals⟩ := counts_ofRaw steps spells_steps "src/counter.c" .modify
    [ofRaw "src/counter.c" .modify stepsText]
  simp only [List.map_cons, List.map_nil, additions_ofRaw spells_steps, deletions_ofRaw spells_steps] at htotals
  exact ⟨spells_steps, hcounts, htotals (by decide) (by decide)⟩

/-- Of two lines that are added and two that are removed, one each is counted. -/
theorem uncounted_steps :
    steps.Spells stepsText ∧ steps.marked .added = 2 ∧ steps.marked .removed = 2 ∧
      (ofRaw "src/counter.c" .modify stepsText).additions ≠ steps.marked .added ∧
      (ofRaw "src/counter.c" .modify stepsText).deletions ≠ steps.marked .removed := by
  rw [additions_ofRaw spells_steps, deletions_ofRaw spells_steps]
  exact ⟨spells_steps, by decide, by decide, by decide, by decide⟩

end Steps

end FileDiff

end ReviewPanel
