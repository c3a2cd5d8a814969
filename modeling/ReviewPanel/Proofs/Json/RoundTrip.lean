import ReviewPanel.Proofs.Json.Integers
import ReviewPanel.Proofs.Json.Strings

/-! # JSON values are read back

What is written of a JSON value is one line of visible characters, and reading it gives the value again, in
the form of its draft. The numbers of the value have to come back by themselves. -/
namespace ReviewPanel.Json

mutual
/-- All numbers in a value have a property. -/
def AllNumbers (p : Number → Prop) : Json → Prop
  | .null => True
  | .bool _ => True
  | .number n => p n
  | .text _ => True
  | .list items => AllNumbersItems p items
  | .object entries => AllNumbersEntries p entries

def AllNumbersItems (p : Number → Prop) : List Json → Prop
  | [] => True
  | j :: rest => AllNumbers p j ∧ AllNumbersItems p rest

def AllNumbersEntries (p : Number → Prop) : List (String × Json) → Prop
  | [] => True
  | (_, j) :: rest => AllNumbers p j ∧ AllNumbersEntries p rest
end

theorem allNumbersItems_iff {p : Number → Prop} {items : List Json} :
    AllNumbersItems p items ↔ ∀ j ∈ items, j.AllNumbers p := by
  induction items with
  | nil => simp [AllNumbersItems]
  | cons j rest ih => simp [AllNumbersItems, ih]

theorem allNumbersEntries_iff {p : Number → Prop} {entries : List (String × Json)} :
    AllNumbersEntries p entries ↔ ∀ e ∈ entries, e.2.AllNumbers p := by
  induction entries with
  | nil => simp [AllNumbersEntries]
  | cons e rest ih => simp [AllNumbersEntries, ih]

theorem skipGaps_cons {c : Char} (h : isGap c = false) (cs : List Char) : skipGaps (c :: cs) = c :: cs := by
  rw [skipGaps, List.dropWhile_cons_of_neg (by simp [h])]

/-- With which characters a value may begin. -/
def Opens (c : Char) : Prop := isGap c = false ∧ c ≠ ']' ∧ c ≠ '\x7d'

instance : DecidablePred Opens :=
  fun c => inferInstanceAs (Decidable (isGap c = false ∧ c ≠ ']' ∧ c ≠ '\x7d'))

theorem opens_of_number {c : Char} (h : c = '-' ∨ c.isDigit = true) :
    Opens c ∧ c ≠ '"' ∧ c ≠ '[' ∧ c ≠ '\x7b' ∧ c ≠ 'n' ∧ c ≠ 't' ∧ c ≠ 'f' := by
  rcases h with rfl | hdigit
  · decide
  · have hne : ∀ d : Char, d.isDigit = false → c ≠ d := by
      rintro d hd rfl
      exact Bool.false_ne_true (hd.symm.trans hdigit)
    refine ⟨⟨?_, hne _ rfl, hne _ rfl⟩, hne _ rfl, hne _ rfl, hne _ rfl, hne _ rfl, hne _ rfl, hne _ rfl⟩
    simp [isGap, hne ' ' rfl, hne '\n' rfl, hne '\t' rfl, hne '\r' rfl]

theorem write_eq_cons {j : Json} (h : j.AllNumbers Number.Returns) : ∃ c cs, j.write = c :: cs ∧ Opens c := by
  cases j with
  | null => exact ⟨_, _, rfl, by decide⟩
  | bool b => cases b <;> exact ⟨_, _, rfl, by decide⟩
  | number n =>
    obtain ⟨c, cs, hcs, hc⟩ := Number.Returns.starts h
    exact ⟨c, cs, hcs, (opens_of_number hc).1⟩
  | text s => exact ⟨_, _, rfl, by decide⟩
  | list items => cases items <;> exact ⟨_, _, rfl, by decide⟩
  | object entries => cases entries <;> exact ⟨_, _, rfl, by decide⟩

theorem ends_writeItems (items : List Json) (rest : List Char) : Ends (writeItems items ++ rest) := by
  cases items with
  | nil => exact ends_cons (by decide) _
  | cons j items => exact ends_cons (by decide) _

theorem ends_writeEntries (entries : List (String × Json)) (rest : List Char) :
    Ends (writeEntries entries ++ rest) := by
  cases entries with
  | nil => exact ends_cons (by decide) _
  | cons e entries => exact ends_cons (by decide) _

theorem readValue_number {n : Number} (h : n.Returns) (fuel : Nat) {rest : List Char} (hrest : Ends rest) :
    readValue (fuel + 1) (writeNumber n ++ rest) = (.number n, rest) := by
  obtain ⟨c, cs, hcs, hc⟩ := h.starts
  obtain ⟨token, hread, hnumber⟩ := h.reads rest hrest
  obtain ⟨hopens, hquote, hbracket, hbrace, hn, ht, hf⟩ := opens_of_number hc
  rw [hcs] at hread ⊢
  have hword (d : Char) (ds : List Char) (hd : c ≠ d) : afterWord? (d :: ds) (c :: cs ++ rest) = none := by
    simp [afterWord?, Ne.symm hd]
  rw [readValue]
  split
  next r hr =>
    rw [List.cons_append, skipGaps_cons hopens.1] at hr
    exact absurd (List.cons.inj hr).1 hquote
  next r hr =>
    rw [List.cons_append, skipGaps_cons hopens.1] at hr
    exact absurd (List.cons.inj hr).1 hbracket
  next r hr =>
    rw [List.cons_append, skipGaps_cons hopens.1] at hr
    exact absurd (List.cons.inj hr).1 hbrace
  next =>
    rw [List.cons_append, skipGaps_cons hopens.1, ← List.cons_append]
    simp only [hword 'n' _ hn, hword 't' _ ht, hword 'f' _ hf, hread, hnumber]

theorem writeText_append (s : String) (rest : List Char) :
    writeText s ++ rest = '"' :: (s.toList.flatMap escapeChar ++ '"' :: rest) := by
  simp [writeText]

theorem readValue_text (s : String) (fuel : Nat) (rest : List Char) :
    readValue (fuel + 1) (writeText s ++ rest) = (.text s, rest) := by
  rw [writeText_append, readValue, skipGaps_cons (by decide)]
  simp only [readText_writeText]

section Steps

variable {fuel : Nat} {cs rest : List Char} {d : Draft}

theorem readValue_list {c : Char} (h : Opens c) {items : List Draft}
    (hitems : readItems fuel (c :: cs) = (items, true, rest)) :
    readValue (fuel + 1) ('[' :: c :: cs) = (.list items true, rest) := by
  rw [readValue, skipGaps_cons (by decide)]
  simp only [skipGaps_cons h.1]
  split
  next r hr => exact absurd (List.cons.inj hr).1 h.2.1
  next => rw [hitems]

theorem readItems_last (hvalue : readValue fuel cs = (d, ']' :: rest)) :
    readItems (fuel + 1) cs = ([d], true, rest) := by
  rw [readItems, hvalue]
  simp only [skipGaps_cons (show isGap ']' = false by decide)]

theorem readItems_more {c : Char} (h : Opens c) {more : List Char} {items : List Draft}
    (hvalue : readValue fuel cs = (d, ',' :: c :: more))
    (hitems : readItems fuel (c :: more) = (items, true, rest)) :
    readItems (fuel + 1) cs = (d :: items, true, rest) := by
  rw [readItems, hvalue]
  simp only [skipGaps_cons (show isGap ',' = false by decide), skipGaps_cons h.1]
  split
  next r hr => exact absurd (List.cons.inj hr).1 h.2.1
  next => rw [hitems]

theorem readValue_object {entries : List (Option String × Draft)}
    (hentries : readEntries fuel ('"' :: cs) = (entries, true, rest)) :
    readValue (fuel + 1) ('\x7b' :: '"' :: cs) = (.object entries true, rest) := by
  rw [readValue, skipGaps_cons (by decide)]
  simp only [skipGaps_cons (show isGap '"' = false by decide)]
  split
  next r hr => exact absurd (List.cons.inj hr).1 (by decide)
  next => rw [hentries]

theorem readEntries_last {key : String} (hvalue : readValue fuel cs = (d, '\x7d' :: rest)) :
    readEntries (fuel + 1) (writeText key ++ ':' :: cs) = ([(some key, d)], true, rest) := by
  rw [writeText_append, readEntries, skipGaps_cons (by decide)]
  simp only [readText_writeText, skipGaps_cons (show isGap ':' = false by decide), hvalue,
    skipGaps_cons (show isGap '\x7d' = false by decide)]

theorem readEntries_more {key : String} {more : List Char} {entries : List (Option String × Draft)}
    (hvalue : readValue fuel cs = (d, ',' :: more))
    (hentries : readEntries fuel more = (entries, true, rest)) :
    readEntries (fuel + 1) (writeText key ++ ':' :: cs) = ((some key, d) :: entries, true, rest) := by
  rw [writeText_append, readEntries, skipGaps_cons (by decide)]
  simp only [readText_writeText, skipGaps_cons (show isGap ':' = false by decide), hvalue,
    skipGaps_cons (show isGap ',' = false by decide), hentries]

end Steps

/-- All that is written in so many characters is read back. -/
structure ReadsBack (fuel : Nat) : Prop where
  value : ∀ j : Json, j.AllNumbers Number.Returns → j.write.length ≤ fuel → ∀ rest, Ends rest →
    readValue fuel (j.write ++ rest) = (j.draft, rest)
  items : ∀ (j : Json) (items : List Json), AllNumbersItems Number.Returns (j :: items) →
    j.write.length + (writeItems items).length ≤ fuel → ∀ rest,
      readItems fuel (j.write ++ (writeItems items ++ rest)) = (draftItems (j :: items), true, rest)
  entries : ∀ (k : String) (j : Json) (entries : List (String × Json)),
    AllNumbersEntries Number.Returns ((k, j) :: entries) →
      (writeText k).length + 1 + j.write.length + (writeEntries entries).length ≤ fuel → ∀ rest,
        readEntries fuel (writeText k ++ ':' :: (j.write ++ (writeEntries entries ++ rest))) =
          (draftEntries ((k, j) :: entries), true, rest)

theorem length_write_pos {j : Json} (h : j.AllNumbers Number.Returns) : 0 < j.write.length := by
  obtain ⟨c, cs, hcs, -⟩ := write_eq_cons h
  rw [hcs, List.length_cons]
  omega

theorem readsBack_zero : ReadsBack 0 where
  value j h hlength := by
    have hpos := length_write_pos h
    omega
  items j items h hlength := by
    have hpos := length_write_pos h.1
    omega
  entries k j entries h hlength := by omega

theorem ReadsBack.succ {fuel : Nat} (ih : ReadsBack fuel) : ReadsBack (fuel + 1) := by
  constructor
  · intro j h hlength rest hrest
    match j with
    | .null => rfl
    | .bool true => rfl
    | .bool false => rfl
    | .number n => exact readValue_number h fuel hrest
    | .text s => exact readValue_text s fuel rest
    | .list [] => rfl
    | .object [] => rfl
    | .list (j :: items) =>
      obtain ⟨c, cs, hcs, hc⟩ := write_eq_cons h.1
      simp only [write, List.cons_append, List.length_cons, List.length_append] at hlength
      have hitems := ih.items j items h (by omega) rest
      simp only [write, hcs, List.cons_append, List.append_assoc] at hitems ⊢
      exact readValue_list hc hitems
    | .object ((k, j) :: entries) =>
      simp only [write, List.cons_append, List.length_cons, List.length_append] at hlength
      have hentries := ih.entries k j entries h (by omega) rest
      simp only [write, List.cons_append, List.append_assoc, writeText_append] at hentries ⊢
      exact readValue_object hentries
  · intro j items h hlength rest
    match items with
    | [] =>
      have hvalue := ih.value j h.1 (by simpa [writeItems] using hlength) (']' :: rest) (ends_cons (by decide) rest)
      exact readItems_last hvalue
    | next :: items =>
      obtain ⟨c, cs, hcs, hc⟩ := write_eq_cons h.2.1
      simp only [writeItems, List.cons_append, List.length_cons, List.length_append] at hlength
      have hvalue := ih.value j h.1 (by omega) (writeItems (next :: items) ++ rest) (ends_writeItems _ _)
      have hitems := ih.items next items h.2 (by omega) rest
      simp only [writeItems, hcs, List.cons_append, List.append_assoc] at hvalue hitems ⊢
      exact readItems_more hc hvalue hitems
  · intro k j entries h hlength rest
    match entries with
    | [] =>
      have hvalue := ih.value j h.1 (by omega) ('\x7d' :: rest) (ends_cons (by decide) rest)
      exact readEntries_last hvalue
    | (key, next) :: entries =>
      simp only [writeEntries, List.cons_append, List.length_cons, List.length_append] at hlength
      have hvalue := ih.value j h.1 (by omega) (writeEntries ((key, next) :: entries) ++ rest)
        (ends_writeEntries _ _)
      have hentries := ih.entries key next entries h.2 (by omega) rest
      simp only [writeEntries, List.cons_append, List.append_assoc] at hvalue ⊢
      exact readEntries_more hvalue hentries

theorem readsBack (fuel : Nat) : ReadsBack fuel := by
  induction fuel with
  | zero => exact readsBack_zero
  | succ fuel ih => exact ih.succ

/-- A value is read back from its text. -/
theorem readDraft_render {j : Json} (h : j.AllNumbers Number.Returns) :
    readDraft j.render.toList = (j.draft, []) := by
  have hvalue := (readsBack (j.write.length + 1)).value j h (Nat.le_succ _) [] ends_nil
  rw [List.append_nil] at hvalue
  rw [readDraft, render, String.toList_ofList, hvalue]

mutual
/-- What is written has no control characters, and so it is one line. -/
theorem visible_write : ∀ j : Json, j.AllNumbers Number.Returns → Text.Visible j.write
  | .null, _ => by decide
  | .bool true, _ => by decide
  | .bool false, _ => by decide
  | .number _, h => Number.Returns.visible h
  | .text s, _ => visible_writeText s
  | .list [], _ => by decide
  | .list (j :: items), h => by
    rw [write, List.cons_append]
    exact .cons (by decide) (.append (visible_write j h.1) (visible_writeItems items h.2))
  | .object [], _ => by decide
  | .object ((k, j) :: entries), h => by
    have hvalue := (visible_write j h.1).append (visible_writeEntries entries h.2)
    rw [write, List.cons_append, List.cons_append, List.append_assoc, List.cons_append]
    exact .cons (by decide) (.append (visible_writeText k) (.cons (by decide) hvalue))

theorem visible_writeItems : ∀ items : List Json, AllNumbersItems Number.Returns items →
    Text.Visible (writeItems items)
  | [], _ => by decide
  | j :: items, h => by
    rw [writeItems, List.cons_append]
    exact .cons (by decide) (.append (visible_write j h.1) (visible_writeItems items h.2))

theorem visible_writeEntries : ∀ entries : List (String × Json), AllNumbersEntries Number.Returns entries →
    Text.Visible (writeEntries entries)
  | [], _ => by decide
  | (k, j) :: entries, h => by
    have hvalue := (visible_write j h.1).append (visible_writeEntries entries h.2)
    rw [writeEntries, List.cons_append, List.cons_append, List.append_assoc, List.cons_append]
    exact .cons (by decide) (.append (visible_writeText k) (.cons (by decide) hvalue))
end

end ReviewPanel.Json
