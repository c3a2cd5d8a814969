import Mathlib.Data.List.TakeWhile
import ReviewPanel.Text.Path

/-! # Normal paths

A path is spelled with any blanks around it and any number of `./` in front. Normalizing strips the blanks and
then each `./`, so it finds the path behind every spelling. But a blank that stands behind `./` comes to light when
the blanks are gone already, and only a second pass takes it away. -/
namespace ReviewPanel.Text

def beginsBlank (cs : List Char) : Bool := cs.head?.any isBlank

def endsBlank (cs : List Char) : Bool := cs.getLast?.any isBlank

/-- There is nothing but blanks. -/
def AllBlank (cs : List Char) : Prop := ∀ c ∈ cs, isBlank c = true

instance (cs : List Char) : Decidable (AllBlank cs) := inferInstanceAs (Decidable (∀ c ∈ cs, isBlank c = true))

theorem endsBlank_eq_beginsBlank_reverse (cs : List Char) : endsBlank cs = beginsBlank cs.reverse := by
  rw [endsBlank, beginsBlank, List.head?_reverse]

theorem trimEnd_eq_reverse (cs : List Char) : trimEnd cs = (trimStart cs.reverse).reverse := rfl

theorem trimStart_of_visible {cs : List Char} (h : beginsBlank cs = false) : trimStart cs = cs := by
  cases cs with
  | nil => rfl
  | cons c rest => exact List.dropWhile_cons_of_neg (Bool.eq_false_iff.mp h)

theorem trimEnd_of_visible {cs : List Char} (h : endsBlank cs = false) : trimEnd cs = cs := by
  rw [endsBlank_eq_beginsBlank_reverse] at h
  rw [trimEnd_eq_reverse, trimStart_of_visible h, List.reverse_reverse]

theorem trimStart_append_of_allBlank {front : List Char} (h : AllBlank front) (cs : List Char) :
    trimStart (front ++ cs) = trimStart cs := List.dropWhile_append_of_pos h

theorem trimEnd_append_of_allBlank {back : List Char} (h : AllBlank back) (cs : List Char) :
    trimEnd (cs ++ back) = trimEnd cs := by
  have hback : AllBlank back.reverse := fun c hc => h c (List.mem_reverse.mp hc)
  rw [trimEnd_eq_reverse, List.reverse_append, trimStart_append_of_allBlank hback, ← trimEnd_eq_reverse]

theorem beginsBlank_trimStart (cs : List Char) : beginsBlank (trimStart cs) = false := by
  have h := List.head?_dropWhile_not isBlank cs
  rw [beginsBlank, trimStart]
  cases hhead : (cs.dropWhile isBlank).head? with
  | none => rfl
  | some c =>
    rw [hhead] at h
    exact h

theorem endsBlank_trim (cs : List Char) : endsBlank (trim cs) = false := by
  rw [trim, trimEnd_eq_reverse, endsBlank_eq_beginsBlank_reverse, List.reverse_reverse, beginsBlank_trimStart]

theorem exists_trimStart (cs : List Char) : ∃ front, AllBlank front ∧ cs = front ++ trimStart cs :=
  ⟨cs.takeWhile isBlank, fun _ hc => List.mem_takeWhile_imp hc, List.takeWhile_append_dropWhile.symm⟩

theorem exists_trimEnd (cs : List Char) : ∃ back, AllBlank back ∧ cs = trimEnd cs ++ back := by
  obtain ⟨front, hfront, hcs⟩ := exists_trimStart cs.reverse
  refine ⟨front.reverse, fun c hc => hfront c (List.mem_reverse.mp hc), ?_⟩
  rw [trimEnd_eq_reverse, ← List.reverse_append, ← hcs, List.reverse_reverse]

/-- Trimming strips blanks from both ends. -/
theorem exists_trim (cs : List Char) :
    ∃ front back, AllBlank front ∧ AllBlank back ∧ cs = front ++ trim cs ++ back := by
  obtain ⟨front, hfront, hstart⟩ := exists_trimStart cs
  obtain ⟨back, hback, hend⟩ := exists_trimEnd (trimStart cs)
  refine ⟨front, back, hfront, hback, ?_⟩
  rw [List.append_assoc, trim, ← hend]
  exact hstart

theorem beginsBlank_trim (cs : List Char) : beginsBlank (trim cs) = false := by
  have h := beginsBlank_trimStart cs
  obtain ⟨back, -, hback⟩ := exists_trimEnd (trimStart cs)
  rw [hback] at h
  rw [trim]
  cases htrim : trimEnd (trimStart cs) with
  | nil => rfl
  | cons c rest =>
    rw [htrim] at h
    exact h

/-- Blanks around a text that neither begins nor ends with one are trimmed away. -/
theorem trim_append_append {front cs back : List Char} (hfront : AllBlank front) (hback : AllBlank back)
    (begins : beginsBlank cs = false) (ends : endsBlank cs = false) : trim (front ++ cs ++ back) = cs := by
  rw [trim, List.append_assoc, trimStart_append_of_allBlank hfront]
  cases cs with
  | nil =>
    have hnil : trimStart back = [] := List.dropWhile_eq_nil_iff.mpr hback
    rw [List.nil_append, hnil]
    rfl
  | cons c rest =>
    have hvisible : beginsBlank (c :: rest ++ back) = false := begins
    rw [trimStart_of_visible hvisible, trimEnd_append_of_allBlank hback, trimEnd_of_visible ends]

/-- The path begins with `./`. -/
def IsDotted (path : String) : Prop := ['.', '/'] <+: path.toList

instance (path : String) : Decidable (IsDotted path) :=
  inferInstanceAs (Decidable (['.', '/'] <+: path.toList))

theorem dropDots_of_not_dotted {cs : List Char} (h : ¬ ['.', '/'] <+: cs) : dropDots cs = cs := by
  fun_cases dropDots cs with
  | case1 rest => exact absurd (List.prefix_append ['.', '/'] rest) h
  | case2 => rfl

theorem not_dotted_dropDots (cs : List Char) : ¬ ['.', '/'] <+: dropDots cs := by
  fun_induction dropDots cs with
  | case1 rest ih => exact ih
  | case2 cs hcs =>
    rintro ⟨rest, rfl⟩
    exact hcs rest rfl

/-- `./` a number of times. -/
def dots : ℕ → List Char
  | 0 => []
  | n + 1 => '.' :: '/' :: dots n

theorem exists_dropDots (cs : List Char) : ∃ n, cs = dots n ++ dropDots cs := by
  fun_induction dropDots cs with
  | case1 rest ih =>
    obtain ⟨n, hn⟩ := ih
    exact ⟨n + 1, congrArg ('.' :: '/' :: ·) hn⟩
  | case2 cs => exact ⟨0, rfl⟩

theorem dropDots_dots_append (n : ℕ) {cs : List Char} (h : ¬ ['.', '/'] <+: cs) :
    dropDots (dots n ++ cs) = cs := by
  induction n with
  | zero => exact dropDots_of_not_dotted h
  | succ n ih => exact ih

theorem beginsBlank_dots_append (n : ℕ) {cs : List Char} (h : beginsBlank cs = false) :
    beginsBlank (dots n ++ cs) = false := by
  cases n with
  | zero => exact h
  | succ n => rfl

theorem endsBlank_dots (n : ℕ) : endsBlank (dots n) = false := by
  induction n with
  | zero => rfl
  | succ n ih =>
    cases n with
    | zero => rfl
    | succ n => exact ih

/-- What stands behind `./` ends with a blank if and only if the whole does. -/
theorem endsBlank_dots_append (n : ℕ) (cs : List Char) : endsBlank (dots n ++ cs) = endsBlank cs := by
  rw [endsBlank, endsBlank, List.getLast?_append]
  cases cs.getLast? with
  | none => exact endsBlank_dots n
  | some c => rfl

theorem endsBlank_dropDots (cs : List Char) : endsBlank (dropDots cs) = endsBlank cs := by
  obtain ⟨n, hn⟩ := exists_dropDots cs
  rw [← endsBlank_dots_append n, ← hn]

@[simp] theorem toList_normalizePath (path : String) :
    (normalizePath path).toList = dropDots (trim path.toList) := String.toList_ofList

/-- There is no blank at either end of the path, and no `./` in front. -/
structure IsNormalPath (path : String) : Prop where
  begins : beginsBlank path.toList = false
  ends : endsBlank path.toList = false
  undotted : ¬ IsDotted path

/-- The text is the path with blanks around it and `./` in front, all of them as often as you like. -/
def Spells (text path : String) : Prop :=
  ∃ front n back, AllBlank front ∧ AllBlank back ∧ text.toList = front ++ (dots n ++ path.toList) ++ back

/-- Blanks or `./` in front of a path and blanks behind it spell the same path. -/
theorem spells_normalizePath (path : String) : Spells path (normalizePath path) := by
  obtain ⟨front, back, hfront, hback, htext⟩ := exists_trim path.toList
  obtain ⟨n, hn⟩ := exists_dropDots (trim path.toList)
  refine ⟨front, n, back, hfront, hback, ?_⟩
  rw [toList_normalizePath, ← hn]
  exact htext

/-- Every spelling of a normal path is brought into its form. -/
theorem Spells.normalizePath_eq {text path : String} (h : Spells text path) (normal : IsNormalPath path) :
    normalizePath text = path := by
  obtain ⟨front, n, back, hfront, hback, htext⟩ := h
  have hends : endsBlank (dots n ++ path.toList) = false := by
    rw [endsBlank_dots_append]
    exact normal.ends
  have htrim : trim text.toList = dots n ++ path.toList := by
    rw [htext]
    exact trim_append_append hfront hback (beginsBlank_dots_append n normal.begins) hends
  rw [← String.toList_inj, toList_normalizePath, htrim, dropDots_dots_append n normal.undotted]

theorem not_isDotted_normalizePath (path : String) : ¬ IsDotted (normalizePath path) := by
  rw [IsDotted, toList_normalizePath]
  exact not_dotted_dropDots _

theorem endsBlank_normalizePath (path : String) : endsBlank (normalizePath path).toList = false := by
  rw [toList_normalizePath, endsBlank_dropDots, endsBlank_trim]

theorem IsNormalPath.normalizePath_eq {path : String} (normal : IsNormalPath path) : normalizePath path = path := by
  have spelled : Spells path path :=
    ⟨[], 0, [], List.forall_mem_nil _, List.forall_mem_nil _, (List.append_nil _).symm⟩
  exact spelled.normalizePath_eq normal

/-- The text has a blank right behind all the `./` in front of it. -/
def HidesBlank (text : String) : Prop :=
  ∃ n c rest, 0 < n ∧ isBlank c = true ∧ trim text.toList = dots n ++ c :: rest

theorem hidesBlank_iff {text : String} : HidesBlank text ↔ beginsBlank (normalizePath text).toList = true := by
  rw [toList_normalizePath]
  constructor
  · rintro ⟨n, c, rest, -, hc, htrim⟩
    have hundotted : ¬ ['.', '/'] <+: c :: rest := by
      rintro ⟨tail, htail⟩
      rw [← (List.cons.inj htail).1] at hc
      exact absurd hc (by decide)
    rw [htrim, dropDots_dots_append n hundotted]
    exact hc
  · intro h
    obtain ⟨n, hn⟩ := exists_dropDots (trim text.toList)
    cases hrest : dropDots (trim text.toList) with
    | nil =>
      rw [hrest] at h
      exact absurd h Bool.false_ne_true
    | cons c rest =>
      rw [hrest] at h hn
      refine ⟨n, c, rest, Nat.pos_of_ne_zero fun hzero => ?_, h, hn⟩
      -- Without a `./` the blank would be gone.
      have hvisible := beginsBlank_trim text.toList
      rw [hn, hzero] at hvisible
      exact Bool.false_ne_true (hvisible.symm.trans h)

theorem isNormalPath_normalizePath_iff {text : String} :
    IsNormalPath (normalizePath text) ↔ ¬ HidesBlank text := by
  rw [hidesBlank_iff, Bool.not_eq_true]
  exact ⟨IsNormalPath.begins, fun begins => ⟨begins, endsBlank_normalizePath text, not_isDotted_normalizePath text⟩⟩

theorem normalizePath_eq_self_iff {path : String} : normalizePath path = path ↔ IsNormalPath path := by
  refine ⟨fun hself => ?_, IsNormalPath.normalizePath_eq⟩
  obtain ⟨front, back, -, -, htext⟩ := exists_trim path.toList
  obtain ⟨n, hn⟩ := exists_dropDots (trim path.toList)
  rw [← toList_normalizePath, hself] at hn
  -- Neither pass has taken anything away.
  have hlength := congrArg List.length htext
  have hdropped := congrArg List.length hn
  simp only [List.length_append] at hlength hdropped
  have hfront : front = [] := List.length_eq_zero_iff.mp (by omega)
  have hback : back = [] := List.length_eq_zero_iff.mp (by omega)
  rw [hfront, hback, List.nil_append, List.append_nil] at htext
  have hends := endsBlank_normalizePath path
  have hundotted := not_isDotted_normalizePath path
  rw [hself] at hends hundotted
  exact ⟨htext ▸ beginsBlank_trim path.toList, hends, hundotted⟩

/-- Normalizing strips blanks and `./` from a path until no `./` is in front and no blank behind. The result is
normal, and stays the same when it is normalized again, unless a blank was hidden behind `./`. A normal path is
found behind each of its spellings, and behind nothing else. -/
theorem normalizePath_finds_spelled (text : String) :
    Spells text (normalizePath text) ∧ ¬ IsDotted (normalizePath text) ∧
      endsBlank (normalizePath text).toList = false ∧
      (beginsBlank (normalizePath text).toList = true ↔ HidesBlank text) ∧
      (normalizePath (normalizePath text) = normalizePath text ↔ ¬ HidesBlank text) ∧
      ∀ path, IsNormalPath path → (normalizePath text = path ↔ Spells text path) := by
  refine ⟨spells_normalizePath text, not_isDotted_normalizePath text, endsBlank_normalizePath text,
    hidesBlank_iff.symm, normalizePath_eq_self_iff.trans isNormalPath_normalizePath_iff, ?_⟩
  intro path normal
  constructor
  · rintro rfl
    exact spells_normalizePath text
  · intro spelled
    exact spelled.normalizePath_eq normal

theorem normalizePath_finds_spelled_of_blanks :
    IsNormalPath "src/my pool.rs" ∧ normalizePath "\t././src/my pool.rs \n" = "src/my pool.rs" := by
  have normal : IsNormalPath "src/my pool.rs" := ⟨by decide, by decide, by decide⟩
  have spelled : Spells "\t././src/my pool.rs \n" "src/my pool.rs" :=
    ⟨['\t'], 2, [' ', '\n'], List.forall_mem_singleton.mpr rfl,
      List.forall_mem_cons.mpr ⟨rfl, List.forall_mem_singleton.mpr rfl⟩, by decide⟩
  obtain ⟨-, -, -, -, -, hspelled⟩ := normalizePath_finds_spelled "\t././src/my pool.rs \n"
  exact ⟨normal, (hspelled "src/my pool.rs" normal).mpr spelled⟩

/-- The blank behind `./` is left, and goes only when the result is normalized again. -/
theorem normalizePath_hidden_blank :
    normalizePath "./ src/pool.rs" = " src/pool.rs" ∧
      normalizePath (normalizePath "./ src/pool.rs") = "src/pool.rs" := by
  decide

end ReviewPanel.Text
