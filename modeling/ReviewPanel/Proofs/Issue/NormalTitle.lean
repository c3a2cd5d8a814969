import Mathlib.Data.List.Chain
import ReviewPanel.Proofs.Issue.Idempotence
import ReviewPanel.Proofs.Text.Lowering
import ReviewPanel.Proofs.Text.Words

/-! # Normal titles

The normal title of an issue is a line of words in lower case. Lowering leaves such a line as it is, and its words
are read back from it, so an issue is the same finding under its normal title. -/
namespace ReviewPanel

namespace Text

/-- A line of words with one blank between one and the next, or nothing at all. -/
structure IsWordLine (cs : List Char) : Prop where
  words : ∃ ws : List (List Char), cs = [' '].intercalate ws ∧ AreWords ws
  begins : cs.head? ≠ some ' '
  ends : cs.getLast? ≠ some ' '
  single : cs.IsChain fun c d => ¬ (c = ' ' ∧ d = ' ')
  /-- There is no other blank, and so no end of a line. -/
  blank : ∀ c ∈ cs, isBlank c = true → c = ' '
  char : ∀ c ∈ cs, c ≠ ' ' → isWordChar c = true

theorem unwords_eq_intercalate (ws : List (List Char)) : unwords ws = [' '].intercalate ws := by
  induction ws using unwords.induct with
  | case1 => rfl
  | case2 w => simp [unwords, List.intercalate]
  | case3 w rest hrest ih =>
    rw [unwords.eq_3 w rest hrest, ih]
    cases rest with
    | nil => exact absurd rfl hrest
    | cons v rest => simp [List.intercalate, List.intersperse]

theorem AreWords.ne_blank {ws : List (List Char)} (h : AreWords ws) {w : List Char} (hw : w ∈ ws) :
    ∀ c ∈ w, c ≠ ' ' := by
  intro c hc hblank
  have hword := (h w hw).2 c hc
  rw [hblank] at hword
  exact absurd hword (by decide)

theorem head?_unwords {ws : List (List Char)} (h : AreWords ws) : (unwords ws).head? ≠ some ' ' := by
  intro hhead
  cases ws with
  | nil => cases hhead
  | cons w rest =>
    have hne := h.ne_blank List.mem_cons_self
    obtain ⟨c, cs, rfl⟩ := List.exists_cons_of_ne_nil (h w List.mem_cons_self).1
    have hfirst : (unwords ((c :: cs) :: rest)).head? = some c := by cases rest <;> rfl
    exact hne c List.mem_cons_self (Option.some.inj (hfirst.symm.trans hhead))

theorem getLast?_unwords {ws : List (List Char)} (h : AreWords ws) : (unwords ws).getLast? ≠ some ' ' := by
  induction ws using unwords.induct with
  | case1 => exact (Option.some_ne_none ' ').symm
  | case2 w =>
    intro hlast
    exact h.ne_blank List.mem_cons_self ' ' (List.mem_of_getLast? hlast) rfl
  | case3 w rest hrest ih =>
    obtain ⟨v, more, rfl⟩ := List.exists_cons_of_ne_nil (fun hnil => hrest hnil)
    have hmore : AreWords (v :: more) := fun u hu => h u (List.mem_cons_of_mem w hu)
    have hne : unwords (v :: more) ≠ [] := by
      obtain ⟨c, cs, rfl⟩ := List.exists_cons_of_ne_nil (hmore v List.mem_cons_self).1
      cases more <;> exact List.cons_ne_nil _ _
    rw [unwords.eq_3 w (v :: more) hrest, List.getLast?_append_of_ne_nil _ (List.cons_ne_nil _ _),
      List.getLast?_cons_of_ne_nil hne]
    exact ih hmore

/-- Two blanks are never next to each other. -/
theorem isChain_unwords {ws : List (List Char)} (h : AreWords ws) :
    (unwords ws).IsChain fun c d => ¬ (c = ' ' ∧ d = ' ') := by
  have hword {w : List Char} (hw : ∀ c ∈ w, c ≠ ' ') : w.IsChain fun c d => ¬ (c = ' ' ∧ d = ' ') := by
    have hpairwise : w.Pairwise fun c d => ¬ (c = ' ' ∧ d = ' ') :=
      List.pairwise_of_forall_mem_list fun c hc d _ hblank => hw c hc hblank.1
    exact hpairwise.isChain
  induction ws using unwords.induct with
  | case1 => exact .nil
  | case2 w => exact hword (h.ne_blank List.mem_cons_self)
  | case3 w rest hrest ih =>
    have hmore : AreWords rest := fun u hu => h u (List.mem_cons_of_mem w hu)
    have hne := h.ne_blank List.mem_cons_self
    rw [unwords.eq_3 w rest hrest, List.isChain_append]
    refine ⟨hword hne, ?_, fun c hc d _ hblank => hne c (List.mem_of_getLast? hc) hblank.1⟩
    rw [List.isChain_cons]
    refine ⟨fun d hd hblank => head?_unwords hmore ?_, ih hmore⟩
    rw [← hblank.2]
    exact hd

theorem isWordLine_unwords {ws : List (List Char)} (h : AreWords ws) : IsWordLine (unwords ws) := by
  have hchar (c : Char) (hc : c ∈ unwords ws) (hne : c ≠ ' ') : isWordChar c = true := by
    obtain ⟨w, hw, hmem⟩ := (mem_unwords hc).resolve_left hne
    exact (h w hw).2 c hmem
  refine ⟨⟨ws, unwords_eq_intercalate ws, h⟩, head?_unwords h, getLast?_unwords h, isChain_unwords h, ?_, hchar⟩
  intro c hc hblank
  by_contra hne
  exact Bool.false_ne_true ((isWordChar_of_isBlank hblank).symm.trans (hchar c hc hne))

end Text

namespace Issue

/-- The issue under its normal title. -/
def retitled (i : Issue) : Issue := { i with title := i.normalizedTitle }

theorem isLow_of_mem_normalizedTitle {i : Issue} {c : Char} (h : c ∈ i.normalizedTitle.toList) : Text.IsLow c := by
  rw [normalizedTitle, String.toList_ofList] at h
  rcases Text.mem_unwords h with rfl | ⟨w, hw, hmem⟩
  · decide
  · exact Text.isLow_of_mem_lower (Text.mem_words hw hmem).1

theorem titleWords_retitled (i : Issue) : i.retitled.titleWords = i.titleWords := by
  have hlower : Text.lower i.normalizedTitle.toList = i.normalizedTitle.toList :=
    Text.lower_of_isLow fun c hc => isLow_of_mem_normalizedTitle hc
  change Text.words (Text.lower i.normalizedTitle.toList) = i.titleWords
  rw [hlower, normalizedTitle, String.toList_ofList]
  exact Text.words_unwords (Text.areWords_words _)

theorem normalizedTitle_retitled (i : Issue) : i.retitled.normalizedTitle = i.normalizedTitle := by
  rw [normalizedTitle, titleWords_retitled, normalizedTitle]

theorem titlesShare_retitled (num den : Nat) (i other : Issue) :
    titlesShare num den i.retitled other = titlesShare num den i other := by
  have hset : i.retitled.titleWordSet = i.titleWordSet := by rw [titleWordSet, titleWords_retitled, titleWordSet]
  have hshared : sharedWords i.retitled other = sharedWords i other := by rw [sharedWords, hset, sharedWords]
  have hall : allWords i.retitled other = allWords i other := by rw [allWords, hset, hshared, allWords]
  rw [titlesShare, hshared, hall, titlesShare]

theorem isDuplicate_retitled (i other : Issue) : isDuplicate i.retitled other = isDuplicate i other := by
  rw [isDuplicate, normalizedTitle_retitled, titlesShare_retitled, titlesShare_retitled]
  rfl

/-- A normal title is a line of words, and an issue that bears its normal title keeps it: its fingerprint is the same
as before, and it is a duplicate of the same issues. -/
theorem normalizedTitle_canonical (i : Issue) :
    Text.IsWordLine i.normalizedTitle.toList ∧
      i.retitled.normalizedTitle = i.normalizedTitle ∧ i.retitled.fingerprint = i.fingerprint ∧
      ∀ other, isDuplicate i.retitled other = isDuplicate i other ∧
        isDuplicate other i.retitled = isDuplicate other i := by
  refine ⟨?_, normalizedTitle_retitled i, ?_, fun other => ⟨isDuplicate_retitled i other, ?_⟩⟩
  · rw [normalizedTitle, String.toList_ofList]
    exact Text.isWordLine_unwords (Text.areWords_words _)
  · rw [fingerprint, fingerprintText, normalizedTitle_retitled]
    rfl
  · rw [isDuplicate_comm, isDuplicate_retitled, isDuplicate_comm]

/-- A letter may fall apart into a letter and a mark, at which the word ends; a sigma that ends a word keeps its form. -/
example : (new .low "src/a.rs" "İZ: ΟΔΌΣ").normalizedTitle = "i z οδός" := by decide +kernel

end Issue

end ReviewPanel
