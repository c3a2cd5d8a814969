import ReviewPanel.Wire.Record

/-! # Records of several kinds

One entry of a tagged record, its tag, tells which kind of record the others make up. A flattened record
has some fields of its own and leaves all other entries to a value of another type. -/
namespace ReviewPanel.Wire
open Json (Draft)

/-- One kind of a tagged record. -/
structure Kind (α : Type) where
  /-- The value of the tag. -/
  tag : String
  /-- What the record is called in messages. -/
  name : String
  fields : Fields α

/-- The kind that a tag names; a tag that was put aside may also be the number of the kind. -/
def kindOf (kinds : List (Kind α)) : Decoder (Kind α)
  | _, .text s => choose (kinds.map fun k => (k.tag, k)) s
  | .held, .number (.integer i) =>
    if i < 0 then .error (unexpected (.number (.integer i)) "variant identifier")
    else match kinds[i.toNat]? with
      | some k => .ok k
      | none => .error (.misfit (.wrongValue (.integer i)
          ("variant index 0 <= i < " ++ toString kinds.length)))
  | _, d => .error (unexpected d "variant identifier")

/-- Reads the tag out of the entries and keeps the others. All that is put aside must be JSON. -/
def takeTag (key : String) (kinds : List (Kind α)) (s : Source) (found : Option (Kind α))
    (kept : List (String × Draft)) : List (String × Draft) →
    Except Fault (Option (Kind α) × List (String × Draft))
  | [] => .ok (found, kept.reverse)
  | (k, d) :: rest =>
    if k = key then
      if found.isSome then .error (.misfit (.repeatedField key))
      else do
        let kind ← kindOf kinds s d
        takeTag key kinds s (some kind) kept rest
    else do
      let _ ← any s d
      takeTag key kinds s found ((k, d) :: kept) rest

/-- A record whose entry `key` tells its kind. In a list the tag comes first. -/
def tagged (name key : String) (kinds : List (Kind α)) : Decoder α
  | s, .object entries closed => do
    let s ← s.inside
    let (entries, closed) := Draft.legible closed entries
    let (kind, kept) ← takeTag key kinds s none [] entries
    if !closed then .error .syntaxError
    match kind with
    | none => .error (.misfit (.missingField key))
    | some kind => (kind.fields.ofEntries .held kept true).mapError Prod.snd
  | s, .list ds closed => do
    let s ← s.inside
    match ds with
    | [] => if closed then .error (.misfit (.missingField key)) else .error .syntaxError
    | d :: rest =>
      let kind ← kindOf kinds s d
      let _ ← items any s rest
      if !closed then .error .syntaxError
      (kind.fields.ofItems .held kind.name rest true).mapError Prod.snd
  | _, d => .error (unexpected d name)

/-- The first thing wrong with the entries of a record that takes in all unknown keys. -/
def takenFault (known : List String) (s : Source) (seen : List String) (place : Nat) :
    List (String × Draft) → Option (Nat × Fault)
  | [] => none
  | (k, d) :: rest =>
    if known.contains k then
      if seen.contains k then some (place, .misfit (.repeatedField k))
      else takenFault known s (k :: seen) (place + 1) rest
    else match any s d with
      | .ok _ => takenFault known s seen (place + 1) rest
      | .error e => some (place, e)

/-- A record of some fields of its own whose other entries together are a value of another type. It is
read from objects only. -/
def flattened (name : String) (fields : Fields (α → β)) (decode : Decoder α) : Decoder β
  | s, .object entries closed => do
    let s ← s.inside
    let (entries, closed) := Draft.legible closed entries
    let structural : Placed ((α → β) → (α → β)) :=
      match takenFault fields.names s [] 0 entries with
      | some e => .error e
      | none => if closed then .ok id else .error (entries.length, .syntaxError)
    let f ← (structural.both (fields.read s 0 (.entries entries))).mapError Prod.snd
    let rest := entries.filter fun e => !fields.names.contains e.1
    f <$> decode .held (.ofEntries rest)
  | _, d => .error (unexpected d name)

end ReviewPanel.Wire
