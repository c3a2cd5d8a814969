import ReviewPanel.Wire.Decoder

/-! # Reading records

A record is read from an object, or from a list with its fields in the order of declaration. What is wrong
with an entry counts at its place; fields that are absent come to light only at the end of an object, in
the order in which the record declares them. -/
namespace ReviewPanel.Wire
open Json (Draft)

/-- A fault together with the place where it shows; the fault of the first place is the answer. -/
abbrev Placed (α : Type) := Except (Nat × Fault) α

/-- Both values, or the fault of the first place; the left one if they share it. -/
def Placed.both (f : Placed (α → β)) (a : Placed α) : Placed β :=
  match f, a with
  | .ok f, .ok a => .ok (f a)
  | .error e, .ok _ => .error e
  | .ok _, .error e => .error e
  | .error e, .error e' => .error (if e'.1 < e.1 then e' else e)

/-- The parts of a draft from which the fields of a record are read. -/
inductive Parts where
  | entries (entries : List (String × Draft))
  /-- The items of a list, and what the record is called when it lacks one. -/
  | items (items : List Draft) (closed : Bool) (expected : String)

def findEntry (key : String) (place : Nat) : List (String × Draft) → Option (Nat × Draft)
  | [] => none
  | (k, d) :: rest => if k = key then some (place, d) else findEntry key (place + 1) rest

/-- The fields of a record: their names in the order of declaration, and how they are read when the first
of them has a given index. -/
structure Fields (α : Type) where
  names : List String
  read : Source → Nat → Parts → Placed α

namespace Fields

def pure (v : α) : Fields α := ⟨[], fun _ _ _ => .ok v⟩

def seq (f : Fields (α → β)) (g : Fields α) : Fields β where
  names := f.names ++ g.names
  read s i parts := (f.read s i parts).both (g.read s (i + f.names.length) parts)

/-- A field that may be absent when `absent` says what it then holds. -/
def field (key : String) (decode : Decoder α) (absent : Option α) : Fields α where
  names := [key]
  read s i
    | .entries es =>
      match findEntry key 0 es with
      | some (place, d) => (decode s d).mapError (place, ·)
      | none =>
        match absent with
        | some v => .ok v
        | none => .error (es.length, .misfit (.missingField key))
    | .items ds closed expected =>
      match ds[i]? with
      | some d => (decode s d).mapError (i, ·)
      | none =>
        if !closed then .error (i, .syntaxError)
        else match absent with
          | some v => .ok v
          | none => .error (i, .misfit (.wrongLength i expected))

def required (key : String) (decode : Decoder α) : Fields α := field key decode none

def optional (key : String) (decode : Decoder α) : Fields (Option α) :=
  field key (nullable decode) (some none)

def withDefault (key : String) (decode : Decoder α) (value : α) : Fields α :=
  field key decode (some value)

end Fields

/-- The first thing wrong with the entries themselves: a known key for the second time, or, in a text, an
unknown key whose value cannot be passed over. -/
def entryFault (known : List String) (seen : List String) (place : Nat) :
    List (String × Draft) → Option (Nat × Fault)
  | [] => none
  | (k, d) :: rest =>
    if known.contains k then
      if seen.contains k then some (place, .misfit (.repeatedField k))
      else entryFault known (k :: seen) (place + 1) rest
    else if d.skippable then entryFault known seen (place + 1) rest
    else some (place, .syntaxError)

def elements (n : Nat) : String := if n = 1 then "1 element" else toString n ++ " elements"

/-- What is said about a list with more elements than the record has fields. -/
def tooLong (s : Source) (length fields : Nat) : Fault :=
  match s with
  | .value => .misfit (.wrongLength length "fewer elements in array")
  | .held => .misfit (.wrongLength length (elements fields ++ " in sequence"))
  | .text _ => .syntaxError

def Fields.ofEntries (fields : Fields α) (s : Source) (entries : List (String × Draft)) (closed : Bool) :
    Placed α :=
  let structural := match entryFault fields.names [] 0 entries with
    | some e => some e
    | none => if closed then none else some (entries.length, .syntaxError)
  Placed.both (match structural with
    | some e => .error e
    | none => .ok id) (fields.read s 0 (.entries entries))

def Fields.ofItems (fields : Fields α) (s : Source) (name : String) (ds : List Draft) (closed : Bool) :
    Placed α :=
  let n := fields.names.length
  let surplus : Placed (α → α) :=
    if n < ds.length then .error (n, tooLong s ds.length n)
    else if closed then .ok id else .error (n, .syntaxError)
  surplus.both (fields.read s 0 (.items ds closed (name ++ " with " ++ elements n)))

/-- A record, from an object or from a list with the fields in the order of declaration. -/
def record (name : String) (fields : Fields α) : Decoder α
  | s, .object entries closed => do
    let s ← s.inside
    let (entries, closed) := Draft.legible closed entries
    (fields.ofEntries s entries closed).mapError Prod.snd
  | s, .list ds closed => do
    let s ← s.inside
    (fields.ofItems s name ds closed).mapError Prod.snd
  | _, d => .error (unexpected d name)

end ReviewPanel.Wire
