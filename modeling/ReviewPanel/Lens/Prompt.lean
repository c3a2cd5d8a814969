import ReviewPanel.Diff.Basic
import ReviewPanel.Lens.Basic

/-! # Prompts

A template is filled in one pass from left to right: a slot `{{key}}` gives way to the value of its
key, and what was put in is not looked at again. A slot without a value stays as it is. -/
namespace ReviewPanel

namespace Template

/-- The text up to the first pair of closing braces, and the text behind it. -/
def upToClose? : List Char → Option (List Char × List Char)
  | [] => none
  | '\x7d' :: '\x7d' :: rest => some ([], rest)
  | c :: rest => (upToClose? rest).map fun (key, left) => (c :: key, left)

theorem length_of_upToClose? {cs key rest : List Char} (h : upToClose? cs = some (key, rest)) :
    rest.length < cs.length := by
  fun_induction upToClose? cs generalizing key with
  | case1 => simp at h
  | case2 left =>
    simp only [Option.some.injEq, Prod.mk.injEq] at h
    simp only [← h.2, List.length_cons]
    omega
  | case3 c left _ ih =>
    cases hl : upToClose? left with
    | none => simp [hl] at h
    | some p =>
      obtain ⟨k, r⟩ := p
      simp only [hl, Option.map_some, Option.some.injEq, Prod.mk.injEq] at h
      have := ih (by rw [hl, h.2])
      simp only [List.length_cons]
      omega

def fill (value : List Char → Option (List Char)) : List Char → List Char
  | [] => []
  | '\x7b' :: '\x7b' :: rest =>
    match _found : upToClose? rest with
    | none => '\x7b' :: '\x7b' :: rest
    | some (key, left) =>
      match value key with
      | some v => v ++ fill value left
      | none => '\x7b' :: '\x7b' :: fill value rest
  | c :: rest => c :: fill value rest
termination_by cs => cs.length
decreasing_by
  · have := length_of_upToClose? _found
    simp only [List.length_cons]
    omega
  · simp only [List.length_cons]
    omega
  · simp only [List.length_cons]
    omega

end Template

namespace FileDiff

def listing (f : FileDiff) : String :=
  match f.oldPath with
  | some old => "- " ++ f.path ++ " (renamed from " ++ old ++ ")"
  | none => "- " ++ f.path ++ " (" ++ f.operation.display ++ ")"

/-- The text of the change, or that of its hunks if there is no text. -/
def body (f : FileDiff) : String :=
  if Text.isBlankText f.raw then String.intercalate "\n" (f.hunks.map (·.content)) else f.raw

def excerpt (f : FileDiff) : String :=
  "### " ++ f.path ++ " (" ++ f.operation.display ++ ", +" ++ toString f.additions ++ " -"
    ++ toString f.deletions ++ ")\n```diff\n" ++ String.ofList (Text.trimEnd f.body.toList) ++ "\n```"

end FileDiff

namespace Diff

def fileList (d : Diff) : String := String.intercalate "\n" (d.files.map FileDiff.listing)

def excerpts (d : Diff) : String := String.intercalate "\n\n" (d.files.map FileDiff.excerpt)

end Diff

namespace Lens

def contextText (context : Option String) : String :=
  match context with
  | some c => if Text.isBlankText c then "(none provided)" else Text.trimmed c
  | none => "(none provided)"

def slotValue (lens : Lens) (diff : Diff) (context : Option String) (key : String) : Option String :=
  if key = "lens" then some lens.name
  else if key = "rubric" then some lens.rubric.render
  else if key = "context" then some (contextText context)
  else if key = "files" then some diff.fileList
  else if key = "diff" then some diff.excerpts
  else none

def prompt (lens : Lens) (diff : Diff) (context : Option String) : String :=
  String.ofList <| Template.fill
    (fun key => (lens.slotValue diff context (String.ofList key)).map String.toList) lens.template.toList

end Lens

end ReviewPanel
