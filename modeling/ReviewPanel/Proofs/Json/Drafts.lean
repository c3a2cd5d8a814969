import Mathlib.Data.List.Nodup
import Mathlib.Data.String.Basic
import ReviewPanel.Proofs.Json.RoundTrip

/-! # Drafts of values

The draft of a value can be passed over, and it is the value again once it is known to be JSON, unless lists
and objects lie too deep in each other. Only the order of entries is lost. -/
namespace ReviewPanel.Json

mutual
/-- How many lists and objects lie in each other. -/
def height : Json → Nat
  | .null => 0
  | .bool _ => 0
  | .number _ => 0
  | .text _ => 0
  | .list items => heightItems items + 1
  | .object entries => heightEntries entries + 1

def heightItems : List Json → Nat
  | [] => 0
  | j :: rest => max j.height (heightItems rest)

def heightEntries : List (String × Json) → Nat
  | [] => 0
  | (_, j) :: rest => max j.height (heightEntries rest)
end

theorem heightItems_le {items : List Json} {n : Nat} :
    heightItems items ≤ n ↔ ∀ j ∈ items, j.height ≤ n := by
  induction items with
  | nil => simp [heightItems]
  | cons j rest ih => simp [heightItems, ih]

theorem heightEntries_le {entries : List (String × Json)} {n : Nat} :
    heightEntries entries ≤ n ↔ ∀ e ∈ entries, e.2.height ≤ n := by
  induction entries with
  | nil => simp [heightEntries]
  | cons e rest ih => simp [heightEntries, ih]

mutual
/-- The value with the keys of every object in ascending order. -/
def ordered : Json → Json
  | .null => .null
  | .bool b => .bool b
  | .number n => .number n
  | .text s => .text s
  | .list items => .list (orderedItems items)
  | .object entries => .object (sorted (orderedEntries entries))

def orderedItems : List Json → List Json
  | [] => []
  | j :: rest => ordered j :: orderedItems rest

def orderedEntries : List (String × Json) → List (String × Json)
  | [] => []
  | (k, j) :: rest => (k, ordered j) :: orderedEntries rest
end

theorem orderedEntries_eq_map (entries : List (String × Json)) :
    orderedEntries entries = entries.map fun e => (e.1, e.2.ordered) := by
  induction entries with
  | nil => rfl
  | cons e rest ih => simp [orderedEntries, ih]

namespace Draft

/-- So many lists and objects may be opened, where their number is limited. -/
def Allows (n : Nat) : Option Nat → Prop
  | none => True
  | some depth => n ≤ depth

theorem Allows.deeper? {depth : Option Nat} {n : Nat} (h : Allows (n + 1) depth) :
    ∃ inner, Draft.deeper? depth = some inner ∧ Allows n inner := by
  match depth with
  | none => exact ⟨none, rfl, trivial⟩
  | some (d + 1) => exact ⟨some d, rfl, Nat.le_of_succ_le_succ h⟩
  | some 0 => exact absurd h (Nat.not_succ_le_zero n)

theorem Allows.mono {depth : Option Nat} {m n : Nat} (h : Allows n depth) (hle : m ≤ n) : Allows m depth := by
  cases depth with
  | none => trivial
  | some d => exact Nat.le_trans hle h

end Draft

open Draft

mutual
/-- The draft of a value is JSON. -/
theorem toJson?_draft : ∀ (j : Json) (depth : Option Nat), Allows j.height depth →
    j.draft.toJson? depth = some j.ordered
  | .null, _, _ => rfl
  | .bool _, _, _ => rfl
  | .number _, _, _ => rfl
  | .text _, _, _ => rfl
  | .list items, depth, h => by
    obtain ⟨inner, hinner, hitems⟩ := Allows.deeper? h
    simp [draft, Draft.toJson?, hinner, items?_draft items inner hitems, ordered]
  | .object entries, depth, h => by
    obtain ⟨inner, hinner, hentries⟩ := Allows.deeper? h
    simp [draft, Draft.toJson?, hinner, entries?_draft entries inner hentries, ordered]

theorem items?_draft : ∀ (items : List Json) (depth : Option Nat), Allows (heightItems items) depth →
    Draft.items? depth (draftItems items) = some (orderedItems items)
  | [], _, _ => rfl
  | j :: rest, depth, h => by
    have hvalue := toJson?_draft j depth (h.mono (Nat.le_max_left _ _))
    have hrest := items?_draft rest depth (h.mono (Nat.le_max_right _ _))
    simp [draftItems, Draft.items?, hvalue, hrest, orderedItems]

theorem entries?_draft : ∀ (entries : List (String × Json)) (depth : Option Nat),
    Allows (heightEntries entries) depth →
      Draft.entries? depth (draftEntries entries) = some (orderedEntries entries)
  | [], _, _ => rfl
  | (k, j) :: rest, depth, h => by
    have hvalue := toJson?_draft j depth (h.mono (Nat.le_max_left _ _))
    have hrest := entries?_draft rest depth (h.mono (Nat.le_max_right _ _))
    simp [draftEntries, Draft.entries?, hvalue, hrest, orderedEntries]
end

mutual
theorem skippable_draft : ∀ j : Json, j.draft.skippable = true
  | .null => rfl
  | .bool _ => rfl
  | .number _ => rfl
  | .text _ => rfl
  | .list items => by rw [draft, Draft.skippable, skippableItems_draft items]; rfl
  | .object entries => by rw [draft, Draft.skippable, skippableEntries_draft entries]; rfl

theorem skippableItems_draft : ∀ items : List Json, Draft.skippableItems (draftItems items) = true
  | [] => rfl
  | j :: rest => by rw [draftItems, Draft.skippableItems, skippable_draft j, skippableItems_draft rest]; rfl

theorem skippableEntries_draft : ∀ entries : List (String × Json),
    Draft.skippableEntries (draftEntries entries) = true
  | [] => rfl
  | (k, j) :: rest => by
    rw [draftEntries, Draft.skippableEntries, skippable_draft j, skippableEntries_draft rest]
    rfl
end

/-- The value can be read back from its text: each of its numbers can, and at most `n` lists and objects lie
in each other. -/
structure Printable (n : Nat) (j : Json) : Prop where
  numbers : j.AllNumbers Number.Returns
  height : j.height ≤ n

namespace Printable

variable {n : Nat}

theorem mono {j : Json} {m : Nat} (h : j.Printable m) (hle : m ≤ n) : j.Printable n :=
  ⟨h.numbers, Nat.le_trans h.height hle⟩

@[simp] theorem null : Json.null.Printable n := ⟨trivial, Nat.zero_le n⟩

@[simp] theorem bool (b : Bool) : (Json.bool b).Printable n := ⟨trivial, Nat.zero_le n⟩

@[simp] theorem text (s : String) : (Json.text s).Printable n := ⟨trivial, Nat.zero_le n⟩

theorem word {value : Number} (h : value.IsWord) : (Json.number value).Printable n := ⟨h.returns, Nat.zero_le n⟩

theorem nat {value : Nat} (h : value < 2 ^ 64) : (Json.nat value).Printable n :=
  word ⟨by omega, by exact_mod_cast h⟩

@[simp] theorem ofWord (w : UInt32) : (Json.ofWord w).Printable n :=
  nat (Nat.lt_trans w.toNat_lt (by decide))

theorem getD_null {α : Type} {encode : α → Json} (h : ∀ v, (encode v).Printable n) (o : Option α) :
    ((o.map encode).getD Json.null).Printable n := by
  cases o with
  | none => exact null
  | some v => exact h v

theorem list {items : List Json} (h : ∀ j ∈ items, j.Printable n) : (Json.list items).Printable (n + 1) where
  numbers := allNumbersItems_iff.mpr fun j hj => (h j hj).numbers
  height := Nat.succ_le_succ (heightItems_le.mpr fun j hj => (h j hj).height)

theorem list_map {α : Type} {encode : α → Json} {vs : List α} (h : ∀ v ∈ vs, (encode v).Printable n) :
    (Json.list (vs.map encode)).Printable (n + 1) :=
  list (List.forall_mem_map.mpr h)

theorem object {entries : List (String × Json)} (h : ∀ e ∈ entries, e.2.Printable n) :
    (Json.object entries).Printable (n + 1) where
  numbers := allNumbersEntries_iff.mpr fun e he => (h e he).numbers
  height := Nat.succ_le_succ (heightEntries_le.mpr fun e he => (h e he).height)

end Printable

/-- The text of a value is that value, but for the order of entries. -/
theorem parse?_render {j : Json} (h : j.Printable maxDepth) : parse? j.render = some j.ordered := by
  have hvalue : j.draft.toJson? (some maxDepth) = some j.ordered := toJson?_draft j (some maxDepth) h.height
  rw [parse?, readDraft_render h.numbers]
  exact hvalue

section Sorted

variable {α : Type}

theorem lookup_cons_eq (k key : String) (v : α) (es : List (String × α)) :
    ((key, v) :: es).lookup k = if k = key then some v else es.lookup k := by
  by_cases hk : k = key
  · rw [if_pos hk, List.lookup_cons, beq_iff_eq.mpr hk]
  · rw [if_neg hk, List.lookup_cons, beq_eq_false_iff_ne.mpr hk]

theorem lookup_insert (k key : String) (v : α) (es : List (String × α)) :
    (insert key v es).lookup k = if k = key then some v else es.lookup k := by
  induction es with
  | nil => exact lookup_cons_eq k key v []
  | cons e rest ih =>
    obtain ⟨first, w⟩ := e
    rw [insert]
    by_cases hkey : key = first
    · rw [if_pos hkey, hkey, lookup_cons_eq, lookup_cons_eq]
      by_cases hk : k = first <;> simp [hk]
    · by_cases hlt : key < first
      · rw [if_neg hkey, if_pos hlt, lookup_cons_eq]
      · rw [if_neg hkey, if_neg hlt, lookup_cons_eq, lookup_cons_eq, ih]
        by_cases hk : k = first
        · subst hk
          simp [Ne.symm hkey]
        · simp [hk]

theorem lookup_orderedEntries (k : String) (entries : List (String × Json)) :
    (orderedEntries entries).lookup k = (entries.lookup k).map ordered := by
  induction entries with
  | nil => rfl
  | cons e rest ih =>
    obtain ⟨key, j⟩ := e
    rw [orderedEntries, lookup_cons_eq, lookup_cons_eq, ih]
    split <;> rfl

theorem lookup_eq_none_of_notMem {k : String} {es : List (String × α)} (h : k ∉ es.map Prod.fst) :
    es.lookup k = none := by
  induction es with
  | nil => rfl
  | cons e rest ih =>
    rw [List.map_cons, List.mem_cons, not_or] at h
    rw [lookup_cons_eq, if_neg h.1]
    exact ih h.2

theorem lookup_foldl_insert {es : List (String × α)} (distinct : (es.map Prod.fst).Nodup) (k : String)
    (into : List (String × α)) :
    (es.foldl (fun es e => insert e.1 e.2 es) into).lookup k = (es.lookup k).or (into.lookup k) := by
  induction es generalizing into with
  | nil => rfl
  | cons e rest ih =>
    obtain ⟨hfresh, hrest⟩ := List.nodup_cons.mp distinct
    rw [List.foldl_cons, ih hrest, lookup_insert, lookup_cons_eq]
    by_cases hk : k = e.1
    · subst hk
      rw [lookup_eq_none_of_notMem hfresh]
      simp
    · simp [hk]

/-- Entries with different keys are found by their keys in any order. -/
theorem lookup_sorted {es : List (String × α)} (distinct : (es.map Prod.fst).Nodup) (k : String) :
    (sorted es).lookup k = es.lookup k := by
  rw [sorted, lookup_foldl_insert distinct]
  exact Option.or_none

theorem insert_of_ascending {key : String} {v : α} {es : List (String × α)} (h : ∀ e ∈ es, e.1 < key) :
    insert key v es = es ++ [(key, v)] := by
  induction es with
  | nil => rfl
  | cons e rest ih =>
    have hlt : e.1 < key := h e List.mem_cons_self
    rw [insert, if_neg hlt.ne', if_neg hlt.asymm, ih fun d hd => h d (List.mem_cons_of_mem e hd)]
    rfl

theorem foldl_insert_of_ascending {es : List (String × α)} (h : es.Pairwise fun a b => a.1 < b.1)
    {into : List (String × α)} (hinto : ∀ a ∈ into, ∀ b ∈ es, a.1 < b.1) :
    es.foldl (fun es e => insert e.1 e.2 es) into = into ++ es := by
  induction es generalizing into with
  | nil => exact (List.append_nil into).symm
  | cons e rest ih =>
    obtain ⟨hfirst, hrest⟩ := List.pairwise_cons.mp h
    have happend : into ++ e :: rest = (into ++ [e]) ++ rest := List.append_cons into e rest
    rw [List.foldl_cons, insert_of_ascending fun a ha => hinto a ha e List.mem_cons_self, happend]
    apply ih hrest
    intro a ha b hb
    rcases List.mem_append.mp ha with ha | ha
    · exact hinto a ha b (List.mem_cons_of_mem e hb)
    · rw [List.mem_singleton.mp ha]
      exact hfirst b hb

/-- Entries with ascending keys stay as they are. -/
theorem sorted_of_ascending {es : List (String × α)} (h : es.Pairwise fun a b => a.1 < b.1) :
    sorted es = es :=
  foldl_insert_of_ascending h fun _ ha => absurd ha List.not_mem_nil

end Sorted

/-- The text of an object has the entries of the object. -/
theorem get?_parse?_render {entries : List (String × Json)} (h : (Json.object entries).Printable maxDepth)
    (distinct : (entries.map Prod.fst).Nodup) (k : String) :
    (parse? (Json.object entries).render).bind (·.get? k) = (entries.lookup k).map ordered := by
  have hdistinct : ((orderedEntries entries).map Prod.fst).Nodup := by
    simpa [orderedEntries_eq_map, Function.comp_def] using distinct
  rw [parse?_render h, ← lookup_orderedEntries]
  exact lookup_sorted hdistinct k

end ReviewPanel.Json
