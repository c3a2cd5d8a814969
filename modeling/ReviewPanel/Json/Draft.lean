import ReviewPanel.Json.Basic

/-! # What a text says before it is known to be JSON

A draft is the tree that a text draws as far as it can be read. It keeps what a JSON value forgets: the
order of the entries, entries with the same key, and the places where the text is no JSON. A reader that
expects something particular meets these places, and the values it did not expect, in the order of the
text. What nobody looks at, such as half of a surrogate pair in a value that is passed over, does no
harm. -/
namespace ReviewPanel.Json

/-- A value as read from a text. A list or an object is closed if the text goes on properly after its
last readable element, up to the closing bracket. -/
inductive Draft where
  | null
  | bool (value : Bool)
  | number (value : Number)
  /-- A number beyond the range of the 64-bit format. -/
  | overflow
  | text (value : String)
  /-- A string with half of a surrogate pair. -/
  | unpaired
  | list (items : List Draft) (closed : Bool)
  /-- An entry has no key if half of a surrogate pair stands in the place of its key. -/
  | object (entries : List (Option String × Draft)) (closed : Bool)
  /-- No value at all. -/
  | broken
deriving Repr, Inhabited

mutual
def draft : Json → Draft
  | .null => .null
  | .bool b => .bool b
  | .number n => .number n
  | .text s => .text s
  | .list items => .list (draftItems items) true
  | .object entries => .object (draftEntries entries) true

def draftItems : List Json → List Draft
  | [] => []
  | j :: rest => draft j :: draftItems rest

def draftEntries : List (String × Json) → List (Option String × Draft)
  | [] => []
  | (k, j) :: rest => (some k, draft j) :: draftEntries rest
end

namespace Draft

/-- The number of lists and objects that may still be opened inside one more of them, where the number is
limited. -/
def deeper? : Option Nat → Option (Option Nat)
  | none => some none
  | some 0 => none
  | some (depth + 1) => some (some depth)

mutual
/-- The value of a draft that is JSON throughout, with the keys of every object in ascending order. With
a limit at most that many lists and objects may be open at a time. -/
def toJson? (depth : Option Nat) : Draft → Option Json
  | .null => some .null
  | .bool b => some (.bool b)
  | .number n => some (.number n)
  | .text s => some (.text s)
  | .list items closed => do
    let depth ← deeper? depth
    if closed then (items? depth items).map .list else none
  | .object entries closed => do
    let depth ← deeper? depth
    if closed then (entries? depth entries).map fun es => .object (sorted es) else none
  | .overflow => none
  | .unpaired => none
  | .broken => none

def items? (depth : Option Nat) : List Draft → Option (List Json)
  | [] => some []
  | d :: rest => do
    let j ← d.toJson? depth
    let js ← items? depth rest
    return j :: js

/-- The keys and values of the entries, in the order of the text. -/
def entries? (depth : Option Nat) : List (Option String × Draft) → Option (List (String × Json))
  | [] => some []
  | (key, d) :: rest => do
    let k ← key
    let j ← d.toJson? depth
    let js ← entries? depth rest
    return (k, j) :: js
end

mutual
/-- The draft can be passed over: its brackets close, whatever its numbers and strings stand for. -/
def skippable : Draft → Bool
  | .list items closed => closed && skippableItems items
  | .object entries closed => closed && skippableEntries entries
  | .broken => false
  | _ => true

def skippableItems : List Draft → Bool
  | [] => true
  | d :: rest => d.skippable && skippableItems rest

def skippableEntries : List (Option String × Draft) → Bool
  | [] => true
  | (_, d) :: rest => d.skippable && skippableEntries rest
end

/-- The entries in front of the first one without a key, and whether the object goes on properly behind
them, up to its end. -/
def legible (closed : Bool) : List (Option String × Draft) → List (String × Draft) × Bool
  | [] => ([], closed)
  | (none, _) :: _ => ([], false)
  | (some k, d) :: rest =>
    let (es, closed) := legible closed rest
    ((k, d) :: es, closed)

def ofEntries (entries : List (String × Draft)) : Draft :=
  .object (entries.map fun (k, d) => (some k, d)) true

@[simp] theorem legible_map_some (closed : Bool) (entries : List (String × Draft)) :
    legible closed (entries.map fun (k, d) => (some k, d)) = (entries, closed) := by
  induction entries with
  | nil => rfl
  | cons e rest ih => simp [legible, ih]

end Draft

end ReviewPanel.Json
