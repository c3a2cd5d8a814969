import Mathlib.Data.List.Infix
import ReviewPanel.Lens.Prompt

/-! # What a prompt is made of

A template is made of texts and slots. The slots that a lens knows give way to their values, and all else is
copied: the scan goes on behind what it has put in, and it ends whatever the template is. -/
namespace ReviewPanel

namespace Template

variable {value : List Char → Option (List Char)} {cs key rest : List Char}

/-- A pair of opening braces stands somewhere in the text. -/
def Opens (cs : List Char) : Prop := ['\x7b', '\x7b'] <:+: cs

/-- A pair of closing braces stands somewhere in the text. -/
def Closes (cs : List Char) : Prop := ['\x7d', '\x7d'] <:+: cs

instance (cs : List Char) : Decidable (Opens cs) := inferInstanceAs (Decidable (_ <:+: cs))

instance (cs : List Char) : Decidable (Closes cs) := inferInstanceAs (Decidable (_ <:+: cs))

/-! ## Texts and slots one by one -/

theorem upToClose?_cons {c : Char} (h : ¬['\x7d', '\x7d'] <+: c :: rest) :
    upToClose? (c :: rest) = (upToClose? rest).map fun (key, left) => (c :: key, left) := by
  rw [upToClose?]
  rintro left rfl rfl
  exact h ⟨left, rfl⟩

/-- A key without closing braces ends at the pair of braces behind it. -/
theorem upToClose?_append (h : '\x7d' ∉ key) (rest : List Char) :
    upToClose? (key ++ '\x7d' :: '\x7d' :: rest) = some (key, rest) := by
  induction key with
  | nil => rw [List.nil_append, upToClose?]
  | cons c key ih =>
    rw [List.mem_cons, not_or] at h
    have hc : ¬['\x7d', '\x7d'] <+: c :: (key ++ '\x7d' :: '\x7d' :: rest) := by
      rw [List.cons_prefix_cons]
      exact fun hstart => h.1 hstart.1
    rw [List.cons_append, upToClose?_cons hc, ih h.2, Option.map_some]

theorem upToClose?_of_not_closes (h : ¬Closes cs) : upToClose? cs = none := by
  induction cs with
  | nil => rw [upToClose?]
  | cons c rest ih =>
    have hhere : ¬['\x7d', '\x7d'] <+: c :: rest := fun hstart => h hstart.isInfix
    have hlater : ¬Closes rest := fun hfound => h (hfound.trans (List.suffix_cons c rest).isInfix)
    rw [upToClose?_cons hhere, ih hlater, Option.map_none]

theorem fill_cons {c : Char} (h : ¬['\x7b', '\x7b'] <+: c :: rest) :
    fill value (c :: rest) = c :: fill value rest := by
  rw [fill]
  rintro left rfl rfl
  exact h ⟨left, rfl⟩

/-- A text without a pair of opening braces is copied, if no such pair begins with its last character. -/
theorem fill_append_of_not_opens {text : List Char} (h : ¬Opens text) (hlast : text.getLast? ≠ some '\x7b')
    (rest : List Char) : fill value (text ++ rest) = text ++ fill value rest := by
  induction text with
  | nil => rfl
  | cons c text ih =>
    have hhere : ¬['\x7b', '\x7b'] <+: c :: (text ++ rest) := by
      rw [List.cons_prefix_cons]
      rintro ⟨rfl, hnext⟩
      cases text with
      | nil => exact hlast rfl
      | cons d text =>
        obtain rfl := (List.cons_prefix_cons.mp hnext).1
        exact h ⟨[], text, rfl⟩
    have hlater : ¬Opens text := fun hfound => h (hfound.trans (List.suffix_cons c text).isInfix)
    have hlast' : text.getLast? ≠ some '\x7b' := by
      cases text with
      | nil => nofun
      | cons d text => simpa [List.getLast?_cons_cons] using hlast
    rw [List.cons_append, fill_cons hhere, ih hlater hlast', List.cons_append]

theorem fill_append_of_notMem {text : List Char} (h : '\x7b' ∉ text) (rest : List Char) :
    fill value (text ++ rest) = text ++ fill value rest := by
  apply fill_append_of_not_opens
  · exact fun hfound => h (hfound.subset List.mem_cons_self)
  · exact fun hlast => h (List.mem_of_getLast? hlast)

/-- What comes of a slot is decided by its end and by the value of its key. -/
theorem fill_open (value : List Char → Option (List Char)) (rest : List Char) :
    fill value ('\x7b' :: '\x7b' :: rest) =
      match upToClose? rest with
      | none => '\x7b' :: '\x7b' :: rest
      | some (key, left) =>
        match value key with
        | some v => v ++ fill value left
        | none => '\x7b' :: '\x7b' :: fill value rest := by
  rw [fill]
  split
  · next hclose => rw [hclose]
  · next key left hclose => cases hvalue : value key <;> simp only [hclose, hvalue]

theorem fill_slot {v : List Char} (hkey : '\x7d' ∉ key) (hvalue : value key = some v) (rest : List Char) :
    fill value ('\x7b' :: '\x7b' :: (key ++ '\x7d' :: '\x7d' :: rest)) = v ++ fill value rest := by
  simp only [fill_open, upToClose?_append hkey, hvalue]

/-- A slot without a value is copied. -/
theorem fill_unknown (hopen : '\x7b' ∉ key) (hclose : '\x7d' ∉ key) (hvalue : value key = none)
    (rest : List Char) : fill value ('\x7b' :: '\x7b' :: (key ++ '\x7d' :: '\x7d' :: rest)) =
      '\x7b' :: '\x7b' :: (key ++ '\x7d' :: '\x7d' :: fill value rest) := by
  have hrest : fill value ('\x7d' :: '\x7d' :: rest) = '\x7d' :: '\x7d' :: fill value rest :=
    fill_append_of_notMem (by decide : '\x7b' ∉ ['\x7d', '\x7d']) rest
  have hkey : fill value (key ++ '\x7d' :: '\x7d' :: rest) = key ++ '\x7d' :: '\x7d' :: fill value rest := by
    rw [fill_append_of_notMem hopen, hrest]
  simp only [fill_open, upToClose?_append hclose, hvalue, hkey]

/-- A slot that is not closed is copied, with all that follows. -/
theorem fill_unclosed (h : ¬Closes rest) :
    fill value ('\x7b' :: '\x7b' :: rest) = '\x7b' :: '\x7b' :: rest := by
  simp only [fill_open, upToClose?_of_not_closes h]

/-! ## The scan turn by turn -/

/-- The text before the first pair of opening braces, and the text behind it. -/
def upToOpen? : List Char → Option (List Char × List Char)
  | [] => none
  | '\x7b' :: '\x7b' :: rest => some ([], rest)
  | c :: rest => (upToOpen? rest).map fun (front, after) => (c :: front, after)

/-- One turn of the scan: what stands before the next slot is copied, and the slot is filled or its braces
are copied. The answer is the finished text, or what is written by then and what is left of the template. -/
def turn (value : List Char → Option (List Char)) (written cs : List Char) :
    List Char ⊕ (List Char × List Char) :=
  match upToOpen? cs with
  | none => .inl (written ++ cs)
  | some (front, after) =>
    match upToClose? after with
    | none => .inl (written ++ cs)
    | some (key, left) =>
      match value key with
      | some v => .inr (written ++ front ++ v, left)
      | none => .inr (written ++ front ++ ['\x7b', '\x7b'], after)

/-- At most so many turns, one after the other. -/
def scan (value : List Char → Option (List Char)) : Nat → List Char → List Char → Option (List Char)
  | 0, _, _ => none
  | turns + 1, written, cs =>
    match turn value written cs with
    | .inl text => some text
    | .inr (written, left) => scan value turns written left

/-- The scan copies what stands before the next slot. -/
theorem fill_of_upToOpen? (value : List Char → Option (List Char)) {front after : List Char}
    (h : upToOpen? cs = some (front, after)) :
    cs = front ++ '\x7b' :: '\x7b' :: after ∧ fill value cs = front ++ fill value ('\x7b' :: '\x7b' :: after) := by
  fun_induction upToOpen? cs generalizing front with
  | case1 => cases h
  | case2 rest =>
    cases h
    exact ⟨rfl, rfl⟩
  | case3 c rest hfirst ih =>
    obtain ⟨⟨front', after'⟩, hopen, hpair⟩ := Option.map_eq_some_iff.mp h
    cases hpair
    obtain ⟨hcs, hfill⟩ := ih hopen
    rw [fill.eq_3 value c rest hfirst, hfill]
    exact ⟨congrArg (c :: ·) hcs, rfl⟩

theorem fill_of_upToOpen?_eq_none (h : upToOpen? cs = none) : fill value cs = cs := by
  fun_induction upToOpen? cs with
  | case1 => rw [fill]
  | case2 rest => cases h
  | case3 c rest hfirst ih => rw [fill.eq_3 value c rest hfirst, ih (Option.map_eq_none_iff.mp h)]

variable {written : List Char}

theorem eq_of_turn_eq_inl {text : List Char} (h : turn value written cs = .inl text) :
    text = written ++ fill value cs := by
  rw [turn] at h
  split at h
  · next hopen =>
    rw [fill_of_upToOpen?_eq_none hopen]
    exact (Sum.inl.inj h).symm
  · next front after hopen =>
    obtain ⟨hcs, hfill⟩ := fill_of_upToOpen? value hopen
    split at h
    · next hclose =>
      simp only [fill_open, hclose] at hfill
      rw [hfill, ← hcs]
      exact (Sum.inl.inj h).symm
    · split at h <;> cases h

/-- A turn that is not the last does a part of the work and uses up at least the two braces of a slot. -/
theorem eq_of_turn_eq_inr {written' left : List Char} (h : turn value written cs = .inr (written', left)) :
    written' ++ fill value left = written ++ fill value cs ∧ left.length + 2 ≤ cs.length := by
  rw [turn] at h
  split at h
  · cases h
  · next front after hopen =>
    obtain ⟨hcs, hfill⟩ := fill_of_upToOpen? value hopen
    have hlength : after.length + 2 ≤ cs.length := by
      simp only [hcs, List.length_append, List.length_cons]
      omega
    split at h
    · cases h
    · next key rest hclose =>
      have hrest := length_of_upToClose? hclose
      simp only [fill_open, hclose] at hfill
      split at h
      · next v hvalue =>
        cases h
        simp only [hvalue] at hfill
        exact ⟨by simp only [hfill, List.append_assoc], by omega⟩
      · next hvalue =>
        cases h
        simp only [hvalue] at hfill
        exact ⟨by simp [hfill], hlength⟩

/-- The scan ends after at most one turn more than there are pairs of characters. -/
theorem scan_eq_some {turns : Nat} (h : cs.length / 2 < turns) (written : List Char) :
    scan value turns written cs = some (written ++ fill value cs) := by
  induction turns generalizing written cs with
  | zero => exact absurd h (Nat.not_lt_zero _)
  | succ turns ih =>
    rw [scan]
    cases hturn : turn value written cs with
    | inl text => exact congrArg some (eq_of_turn_eq_inl hturn)
    | inr p =>
      obtain ⟨hwork, hlength⟩ := eq_of_turn_eq_inr hturn
      exact (ih (by omega) p.1).trans (congrArg some hwork)

end Template

namespace Lens

/-- What a template can ask for. -/
inductive Slot where
  | lens
  | rubric
  | files
  | diff
  | context
deriving Repr, DecidableEq

namespace Slot

def all : List Slot := [.lens, .rubric, .files, .diff, .context]

def key : Slot → String
  | .lens => "lens"
  | .rubric => "rubric"
  | .files => "files"
  | .diff => "diff"
  | .context => "context"

/-- What is put into the place of a slot. -/
def value (lens : Lens) (diff : Diff) (context : Option String) : Slot → String
  | .lens => lens.name
  | .rubric => lens.rubric.render
  | .files => diff.fileList
  | .diff => diff.excerpts
  | .context => contextText context

theorem mem_all (s : Slot) : s ∈ all := by
  cases s <;> simp [all]

end Slot

/-- A piece of a template: a text, a slot that a lens can fill, or a slot with another key. -/
inductive Piece where
  | literal (text : String)
  | known (slot : Slot)
  | unknown (key : String)

namespace Piece

/-- The piece in a template. -/
def written : Piece → String
  | .literal text => text
  | .known slot => Lens.slot slot.key
  | .unknown key => Lens.slot key

/-- The piece in a prompt. -/
def filled (lens : Lens) (diff : Diff) (context : Option String) : Piece → String
  | .literal text => text
  | .known slot => slot.value lens diff context
  | .unknown key => Lens.slot key

/-- A text opens no slot, alone or with a brace behind it. A key that is not known holds no braces. -/
def Proper : Piece → Prop
  | .literal text => ¬Template.Opens text.toList ∧ text.toList.getLast? ≠ some '\x7b'
  | .known _ => True
  | .unknown key => '\x7b' ∉ key.toList ∧ '\x7d' ∉ key.toList ∧ key ∉ Slot.all.map Slot.key

instance : DecidablePred Proper
  | .literal _ => inferInstanceAs (Decidable (_ ∧ _))
  | .known _ => inferInstanceAs (Decidable True)
  | .unknown _ => inferInstanceAs (Decidable (_ ∧ _))

end Piece

/-- Nothing, or a slot that is opened and not closed. -/
def Unclosed (tail : String) : Prop :=
  tail = "" ∨ ∃ rest : List Char, tail.toList = '\x7b' :: '\x7b' :: rest ∧ ¬Template.Closes rest

variable {lens : Lens} {diff : Diff} {context : Option String}

/-- The values of the slots as the scan looks them up. -/
def slotText (lens : Lens) (diff : Diff) (context : Option String) (key : List Char) : Option (List Char) :=
  (lens.slotValue diff context (String.ofList key)).map String.toList

theorem toList_slot (key : String) :
    (slot key).toList = '\x7b' :: '\x7b' :: (key.toList ++ ['\x7d', '\x7d']) := by
  simp [slot]

theorem slotText_key (lens : Lens) (diff : Diff) (context : Option String) (s : Slot) :
    lens.slotText diff context s.key.toList = some (s.value lens diff context).toList := by
  rw [slotText, String.ofList_toList]
  cases s <;> rfl

theorem slotText_of_unknown (lens : Lens) (diff : Diff) (context : Option String) {key : String}
    (h : key ∉ Slot.all.map Slot.key) :
    lens.slotText diff context key.toList = none := by
  have hne (s : Slot) : key ≠ s.key := fun hkey => h (hkey ▸ List.mem_map_of_mem s.mem_all)
  have hnone : lens.slotValue diff context key = none := by
    rw [slotValue]
    exact (((if_neg (hne .lens)).trans (if_neg (hne .rubric))).trans (if_neg (hne .context))).trans
      ((if_neg (hne .files)).trans (if_neg (hne .diff)))
  rw [slotText, String.ofList_toList, hnone, Option.map_none]

theorem fill_piece {piece : Piece} (h : piece.Proper) (rest : List Char) :
    Template.fill (lens.slotText diff context) (piece.written.toList ++ rest) =
      (piece.filled lens diff context).toList ++ Template.fill (lens.slotText diff context) rest := by
  cases piece with
  | literal text => exact Template.fill_append_of_not_opens h.1 h.2 rest
  | known s =>
    have hkey : '\x7d' ∉ s.key.toList := by cases s <;> decide
    have hfill := Template.fill_slot hkey (slotText_key lens diff context s) rest
    simpa [Piece.written, Piece.filled, toList_slot] using hfill
  | unknown key =>
    have hfill := Template.fill_unknown h.1 h.2.1
      (slotText_of_unknown lens diff context h.2.2) rest
    simpa [Piece.written, Piece.filled, toList_slot] using hfill

theorem fill_pieces {pieces : List Piece} (h : ∀ p ∈ pieces, p.Proper) (rest : List Char) :
    Template.fill (lens.slotText diff context) ((pieces.flatMap fun p => p.written.toList) ++ rest) =
      (pieces.flatMap fun p => (p.filled lens diff context).toList) ++
        Template.fill (lens.slotText diff context) rest := by
  induction pieces with
  | nil => rfl
  | cons piece pieces ih =>
    have hrest := ih fun p hp => h p (List.mem_cons_of_mem piece hp)
    rw [List.flatMap_cons, List.append_assoc, fill_piece (h piece List.mem_cons_self), hrest, List.flatMap_cons,
      List.append_assoc]

theorem fill_of_unclosed {tail : String} (h : Unclosed tail) :
    Template.fill (lens.slotText diff context) tail.toList = tail.toList := by
  rcases h with rfl | ⟨rest, htail, hclose⟩
  · rw [String.toList_empty, Template.fill]
  · rw [htail, Template.fill_unclosed hclose]

theorem toList_prompt (lens : Lens) (diff : Diff) (context : Option String) :
    (lens.prompt diff context).toList = Template.fill (lens.slotText diff context) lens.template.toList := by
  rw [prompt, String.toList_ofList]
  rfl

/-- A prompt is its template with the value of every slot that the lens knows in the place of the slot. The
values are not looked at again, slots with other keys stay as they are, and so does a slot that is never
closed, with all that follows. Whatever the template is, the scan ends: it takes at most one turn more than
there are pairs of characters in it. -/
theorem prompt_fills_slots (lens : Lens) (diff : Diff) (context : Option String) :
    (∀ (pieces : List Piece) (tail : String), (∀ p ∈ pieces, p.Proper) → Unclosed tail →
      lens.template = String.join (pieces.map Piece.written) ++ tail →
      lens.prompt diff context = String.join (pieces.map (Piece.filled lens diff context)) ++ tail) ∧
    Template.scan (lens.slotText diff context) (lens.template.length / 2 + 1) [] lens.template.toList =
      some (lens.prompt diff context).toList := by
  constructor
  · intro pieces tail proper unclosed htemplate
    apply String.toList_inj.mp
    rw [toList_prompt, htemplate, String.toList_append, String.toList_append, String.toList_join,
      String.toList_join, List.flatMap_map, List.flatMap_map, fill_pieces proper, fill_of_unclosed unclosed]
  · rw [toList_prompt, Template.scan_eq_some (by rw [String.length_toList]; exact Nat.lt_succ_self _),
      List.nil_append]

/-- Slots in the context, in a path and in a changed line stay as they are, and so does the slot at the end of
the template, which lacks a brace. -/
theorem prompt_fills_slots_of_nested_slots :
    let pieces : List Piece :=
      [.literal "\x7d \x7bx\x7d ", .known .context, .unknown "Diff", .literal "\x7d", .known .diff, .known .files]
    let tail := "\x7b\x7bdiff\x7d"
    let lens := { Lens.ofId .tests with template := String.join (pieces.map Piece.written) ++ tail }
    let diff : Diff := .ofFiles [⟨slot "files", none, .modify, [], "+" ++ slot "context", 1, 0⟩]
    lens.prompt diff (some ("see " ++ slot "diff")) =
      "\x7d \x7bx\x7d see " ++ slot "diff" ++ slot "Diff" ++ "\x7d" ++ "### " ++ slot "files" ++
        " (modified, +1 -0)\n```diff\n+" ++ slot "context" ++ "\n```- " ++ slot "files" ++ " (modified)" ++
        "\x7b\x7bdiff\x7d" := by
  intro pieces tail lens diff
  have proper : ∀ p ∈ pieces, p.Proper := by decide
  have unclosed : Unclosed tail := .inr ⟨['d', 'i', 'f', 'f', '\x7d'], String.toList_ofList, by decide⟩
  exact ((prompt_fills_slots lens diff _).1 pieces tail proper unclosed rfl).trans (by decide +kernel)

end Lens

end ReviewPanel
