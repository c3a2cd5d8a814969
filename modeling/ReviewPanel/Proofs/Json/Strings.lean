import Mathlib.Tactic.IntervalCases
import ReviewPanel.Json.Printer
import ReviewPanel.Json.Reader
import ReviewPanel.Proofs.Text.Visible

/-! # Strings are read back

Whatever characters a string has, its token has no control character, and reading the token gives the string
again. -/
namespace ReviewPanel.Json

/-- A character as it is read from the way it is written: control characters without a short form are written
as units. -/
def pieceOf (c : Char) : Piece :=
  if c.toNat < 32 ∧ c ≠ '\n' ∧ c ≠ '\r' ∧ c ≠ '\t' ∧ c.toNat ≠ 8 ∧ c.toNat ≠ 12 then .unit c.toNat else .char c

theorem unitOf?_hexDigits {n : Nat} (h : n < 32) :
    ∃ a b c d, Text.hexDigits 4 n = [a, b, c, d] ∧ unitOf? a b c d = some n := by
  refine ⟨'0', '0', Text.hexDigit (n / 16), Text.hexDigit (n % 16), ?_, ?_⟩ <;> interval_cases n <;> rfl

section Pieces

variable (rest : List Char)

theorem readPieces_short {c e : Char} (long : e ≠ 'u') (h : unescape? e = some c) :
    readPieces ('\\' :: e :: rest) = (readPieces rest).map fun p => (.char c :: p.1, p.2) := by
  rw [readPieces]
  · rw [h]
    cases readPieces rest <;> rfl
  · rintro a b c d r rfl
    exact absurd rfl long

theorem readPieces_unit {n : Nat} (h : n < 32) :
    readPieces ('\\' :: 'u' :: Text.hexDigits 4 n ++ rest) =
      (readPieces rest).map fun p => (.unit n :: p.1, p.2) := by
  obtain ⟨a, b, c, d, hdigits, hunit⟩ := unitOf?_hexDigits h
  rw [hdigits]
  change readPieces ('\\' :: 'u' :: a :: b :: c :: d :: rest) = _
  rw [readPieces, hunit]
  cases readPieces rest <;> rfl

theorem readPieces_plain {c : Char} (quote : c ≠ '"') (backslash : c ≠ '\\') (visible : 32 ≤ c.toNat) :
    readPieces (c :: rest) = (readPieces rest).map fun p => (.char c :: p.1, p.2) := by
  rw [readPieces]
  · have hplain : ¬(c = '\\' ∨ c.toNat < 32) := not_or.mpr ⟨backslash, Nat.not_lt.mpr visible⟩
    rw [if_neg hplain]
    cases readPieces rest <;> rfl
  · exact quote
  · rintro a b c d r rfl
    exact absurd rfl backslash
  · rintro c r rfl
    exact absurd rfl backslash

/-- A character is read back from the way it is written. -/
theorem readPieces_escapeChar (c : Char) :
    readPieces (escapeChar c ++ rest) = (readPieces rest).map fun p => (pieceOf c :: p.1, p.2) := by
  rw [escapeChar]
  split_ifs with hquote hbackslash hfeed hreturn htab hback hform hcontrol
  · subst hquote
    exact readPieces_short rest (by decide) rfl
  · subst hbackslash
    exact readPieces_short rest (by decide) rfl
  · subst hfeed
    exact readPieces_short rest (by decide) rfl
  · subst hreturn
    exact readPieces_short rest (by decide) rfl
  · subst htab
    exact readPieces_short rest (by decide) rfl
  · obtain rfl : c = Char.ofNat 8 := by rw [← hback, Char.ofNat_toNat]
    exact readPieces_short rest (by decide) rfl
  · obtain rfl : c = Char.ofNat 12 := by rw [← hform, Char.ofNat_toNat]
    exact readPieces_short rest (by decide) rfl
  · rw [readPieces_unit rest hcontrol, pieceOf, if_pos ⟨hcontrol, hfeed, hreturn, htab, hback, hform⟩]
  · have hpiece : pieceOf c = .char c := if_neg fun h => hcontrol h.1
    rw [hpiece]
    exact readPieces_plain rest hquote hbackslash (Nat.le_of_not_lt hcontrol)

theorem readPieces_flatMap (cs : List Char) :
    readPieces (cs.flatMap escapeChar ++ '"' :: rest) = some (cs.map pieceOf, rest) := by
  induction cs with
  | nil => rfl
  | cons c cs ih =>
    rw [List.flatMap_cons, List.append_assoc, readPieces_escapeChar, ih]
    rfl

end Pieces

theorem joinPieces_char (c : Char) (ps : List Piece) :
    joinPieces (.char c :: ps) = (joinPieces ps).map (c :: ·) := by
  rw [joinPieces]

/-- A control character stands for itself, whatever unit may follow it. -/
theorem joinPieces_unit {n : Nat} (h : n < 32) (ps : List Piece) :
    joinPieces (.unit n :: ps) = (joinPieces ps).map (Char.ofNat n :: ·) := by
  have hlow : ¬(0xD800 ≤ n) := by omega
  have hhigh : ¬(0xDC00 ≤ n) := by omega
  match ps with
  | [] => simp [joinPieces, hlow]
  | .char c :: ps => simp [joinPieces, hlow]
  | .unit m :: ps => rw [joinPieces, if_neg (by simp [hlow]), if_neg (by simp [hhigh])]

theorem joinPieces_map (cs : List Char) : joinPieces (cs.map pieceOf) = some cs := by
  induction cs with
  | nil => rfl
  | cons c cs ih =>
    rw [List.map_cons]
    by_cases hcontrol : c.toNat < 32 ∧ c ≠ '\n' ∧ c ≠ '\r' ∧ c ≠ '\t' ∧ c.toNat ≠ 8 ∧ c.toNat ≠ 12
    · rw [pieceOf, if_pos hcontrol, joinPieces_unit hcontrol.1, ih, Char.ofNat_toNat]
      rfl
    · rw [pieceOf, if_neg hcontrol, joinPieces_char, ih]
      rfl

/-- A string is read back from its token, whatever follows. -/
theorem readText_writeText (s : String) (rest : List Char) :
    readText (s.toList.flatMap escapeChar ++ '"' :: rest) = some (some s, rest) := by
  simp only [readText, readPieces_flatMap, Option.map_some, joinPieces_map, String.ofList_toList]

/-- Every character is written without control characters. -/
theorem visible_escapeChar (c : Char) : Text.Visible (escapeChar c) := by
  have hshort : ∀ e : Char, 32 ≤ e.toNat → Text.Visible ['\\', e] :=
    fun e he => .cons (by decide) (.cons he .nil)
  rw [escapeChar]
  split_ifs with hquote hbackslash hfeed hreturn htab hback hform hcontrol
  · exact hshort '"' (by decide)
  · exact hshort '\\' (by decide)
  · exact hshort 'n' (by decide)
  · exact hshort 'r' (by decide)
  · exact hshort 't' (by decide)
  · exact hshort 'b' (by decide)
  · exact hshort 'f' (by decide)
  · exact .cons (by decide) (.cons (by decide) (.hexDigits 4 c.toNat))
  · exact .cons (Nat.le_of_not_lt hcontrol) .nil

theorem visible_writeText (s : String) : Text.Visible (writeText s) := by
  rw [writeText, List.cons_append]
  exact .cons (by decide) (.append (.flatMap fun c _ => visible_escapeChar c) (.cons (by decide) .nil))

end ReviewPanel.Json
