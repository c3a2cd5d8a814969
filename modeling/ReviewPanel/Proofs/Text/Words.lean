import Mathlib.Data.List.Basic
import ReviewPanel.Issue.Identity

/-! # Words and lines of words

The words of a text are its pieces between all characters that are neither letters nor numbers. Words that are put
on a line, with one blank between one and the next, are read back from it, whether it is cut at blanks or at
everything that is no word character. -/
namespace ReviewPanel.Text

/-- The pieces of a text between the characters with a property, without the empty ones. -/
def pieces (p : Char → Bool) (cs : List Char) : List (List Char) := (cs.splitOnP p).filter fun w => !w.isEmpty

/-- There is something in each of the words, and nothing but letters and numbers. -/
def AreWords (ws : List (List Char)) : Prop := ∀ w ∈ ws, w ≠ [] ∧ ∀ c ∈ w, isWordChar c = true

section Pieces

variable {p : Char → Bool} {c : Char}

theorem pieces_append_cons (hc : p c = true) (xs ys : List Char) :
    pieces p (xs ++ c :: ys) = pieces p xs ++ pieces p ys := by
  rw [pieces, List.splitOnP_append_cons xs ys hc, List.filter_append]
  rfl

theorem pieces_nil : pieces p [] = [] := by
  rw [pieces, List.splitOnP_nil]
  rfl

theorem pieces_of_uncut {w : List Char} (nonempty : w ≠ []) (uncut : ∀ c ∈ w, p c = false) : pieces p w = [w] := by
  rw [pieces, List.splitOnP_eq_singleton uncut]
  exact List.filter_eq_self.mpr fun v hv => by simpa [List.mem_singleton.mp hv] using nonempty

/-- A line is cut at its blanks into the words that were put on it. -/
theorem pieces_unwords {ws : List (List Char)} (blank : p ' ' = true)
    (uncut : ∀ w ∈ ws, w ≠ [] ∧ ∀ c ∈ w, p c = false) : pieces p (unwords ws) = ws := by
  induction ws using unwords.induct with
  | case1 => exact pieces_nil
  | case2 w =>
    obtain ⟨nonempty, huncut⟩ := uncut w List.mem_cons_self
    exact pieces_of_uncut nonempty huncut
  | case3 w rest hrest ih =>
    obtain ⟨nonempty, huncut⟩ := uncut w List.mem_cons_self
    have hunwords : unwords (w :: rest) = w ++ ' ' :: unwords rest := by rw [unwords.eq_3 w rest hrest]
    rw [hunwords, pieces_append_cons blank, pieces_of_uncut nonempty huncut,
      ih fun v hv => uncut v (List.mem_cons_of_mem w hv), List.singleton_append]

end Pieces

/-- Word characters that were read, last one first, are one word if there are any. -/
theorem pieces_reverse {read : List Char} (hread : ∀ c ∈ read, isWordChar c = true) :
    pieces (fun c => !isWordChar c) read.reverse = if read.isEmpty then [] else [read.reverse] := by
  split
  · next hempty =>
    rw [List.isEmpty_iff.mp hempty]
    exact pieces_nil
  · next hsome =>
    refine pieces_of_uncut (by simpa using hsome) fun c hc => ?_
    rw [hread c (List.mem_reverse.mp hc)]
    rfl

theorem wordsFrom_eq_pieces {read : List Char} (hread : ∀ c ∈ read, isWordChar c = true) (cs : List Char) :
    wordsFrom read cs = pieces (fun c => !isWordChar c) (read.reverse ++ cs) := by
  induction cs generalizing read with
  | nil => rw [wordsFrom, List.append_nil, pieces_reverse hread]
  | cons c rest ih =>
    rw [wordsFrom]
    split
    · next hc =>
      have hmore : ∀ d ∈ c :: read, isWordChar d = true := List.forall_mem_cons.mpr ⟨hc, hread⟩
      rw [ih hmore, List.reverse_cons, List.append_assoc, List.singleton_append]
    · next hc =>
      rw [pieces_append_cons (by simpa using hc), pieces_reverse hread, ih (List.forall_mem_nil _)]
      split <;> rfl

/-- The words of a text are what is left of it between all other characters. -/
theorem words_eq_pieces (cs : List Char) : words cs = pieces (fun c => !isWordChar c) cs :=
  wordsFrom_eq_pieces (List.forall_mem_nil _) cs

theorem mem_wordsFrom {read cs w : List Char} (hw : w ∈ wordsFrom read cs) {c : Char} (hc : c ∈ w) :
    c ∈ read ∨ c ∈ cs ∧ isWordChar c = true := by
  induction cs generalizing read with
  | nil =>
    rw [wordsFrom] at hw
    split at hw
    · cases hw
    · rw [List.mem_singleton.mp hw, List.mem_reverse] at hc
      exact .inl hc
  | cons d rest ih =>
    rw [wordsFrom] at hw
    split at hw
    · next hd =>
      rcases ih hw with hread | ⟨hrest, hword⟩
      · rcases List.mem_cons.mp hread with rfl | hread
        · exact .inr ⟨List.mem_cons_self, hd⟩
        · exact .inl hread
      · exact .inr ⟨List.mem_cons_of_mem d hrest, hword⟩
    · have hlater (hw : w ∈ wordsFrom [] rest) : c ∈ d :: rest ∧ isWordChar c = true := by
        obtain ⟨hrest, hword⟩ := (ih hw).resolve_left List.not_mem_nil
        exact ⟨List.mem_cons_of_mem d hrest, hword⟩
      split at hw
      · exact .inr (hlater hw)
      · rcases List.mem_cons.mp hw with rfl | hw
        · exact .inl (List.mem_reverse.mp hc)
        · exact .inr (hlater hw)

/-- The words of a text are made of its characters, those of them that are letters and numbers. -/
theorem mem_words {cs w : List Char} (hw : w ∈ words cs) {c : Char} (hc : c ∈ w) :
    c ∈ cs ∧ isWordChar c = true := (mem_wordsFrom hw hc).resolve_left List.not_mem_nil

theorem areWords_words (cs : List Char) : AreWords (words cs) := by
  intro w hw
  refine ⟨?_, fun c hc => (mem_words hw hc).2⟩
  rw [words_eq_pieces] at hw
  simpa using (List.mem_filter.mp hw).2

/-- The words on a line are read back from it. -/
theorem words_unwords {ws : List (List Char)} (h : AreWords ws) : words (unwords ws) = ws := by
  rw [words_eq_pieces]
  refine pieces_unwords (by decide) fun w hw => ⟨(h w hw).1, fun c hc => ?_⟩
  rw [(h w hw).2 c hc]
  rfl

theorem mem_unwords {ws : List (List Char)} {c : Char} (h : c ∈ unwords ws) :
    c = ' ' ∨ ∃ w ∈ ws, c ∈ w := by
  induction ws using unwords.induct with
  | case1 => cases h
  | case2 w => exact .inr ⟨w, List.mem_singleton_self w, h⟩
  | case3 w rest hrest ih =>
    rw [unwords] at h
    · rcases List.mem_append.mp h with hw | h
      · exact .inr ⟨w, List.mem_cons_self, hw⟩
      · rcases List.mem_cons.mp h with rfl | h
        · exact .inl rfl
        · exact (ih h).imp_right fun ⟨v, hv, hc⟩ => ⟨v, List.mem_cons_of_mem _ hv, hc⟩
    · exact hrest

theorem Ranges.exists_of_contains {r : Ranges} {n : Nat} (h : r.contains n = true) :
    ∃ range ∈ r, range.1 ≤ n ∧ n ≤ range.2 := by
  induction r with
  | nil => exact absurd h Bool.false_ne_true
  | cons range rest ih =>
    rw [Ranges.contains] at h
    split at h
    · exact absurd h Bool.false_ne_true
    · split at h
      · exact ⟨range, List.mem_cons_self, by omega⟩
      · obtain ⟨other, hother, hn⟩ := ih h
        exact ⟨other, List.mem_cons_of_mem range hother, hn⟩

theorem blankRanges_wordless : (blankRanges.all fun range =>
    (List.range' range.1 (range.2 + 1 - range.1)).all fun n => !wordRanges.contains n) = true := by
  decide +kernel

/-- No blank character is a letter or a number. -/
theorem isWordChar_of_isBlank {c : Char} (h : isBlank c = true) : isWordChar c = false := by
  obtain ⟨range, hrange, hle⟩ := Ranges.exists_of_contains h
  have hall := List.all_eq_true.mp (List.all_eq_true.mp blankRanges_wordless range hrange) c.toNat
    (List.mem_range'_1.mpr (by omega))
  simpa [isWordChar] using hall

theorem isBlank_of_isWordChar {c : Char} (h : isWordChar c = true) : isBlank c = false := by
  rw [Bool.eq_false_iff]
  intro hblank
  exact Bool.false_ne_true ((isWordChar_of_isBlank hblank).symm.trans h)

/-- Cutting a line at blanks yields the words that were put on it as well. -/
theorem pieces_isBlank_unwords {ws : List (List Char)} (h : AreWords ws) : pieces isBlank (unwords ws) = ws :=
  pieces_unwords (by decide) fun w hw => ⟨(h w hw).1, fun c hc => isBlank_of_isWordChar ((h w hw).2 c hc)⟩

end ReviewPanel.Text
