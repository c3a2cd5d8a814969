import ReviewPanel.Toml.Basic

/-! # Building tables

A table grows by keys and by headers. A dotted key may go on in a table that dotted keys or the headers of
lower tables brought about, a header may go on in every table but those between braces, and nothing is
ever said twice. -/
namespace ReviewPanel.Toml

/-- The entries with another value for a key that they have. -/
def replace (key : String) (value : Toml) : Entries → Entries
  | [] => []
  | (k, v) :: rest => if k = key then (k, value) :: rest else (k, v) :: replace key value rest

/-- The table under a path may be changed by a dotted key, or else by a header. -/
def mayEnter (dotted : Bool) (origin : Origin) : Bool :=
  match origin with
  | .implied => true
  | .dotted => true
  | .header => !dotted
  | .inline => false

/-- A change of a table that gives something back and that may be refused. -/
abbrev Change (α : Type) := Origin → Entries → Option (Entries × α)

/-- The change of the table under a path. Tables that are missing on the way are made, and of tables under
a repeated header the last is meant. -/
def alter (dotted : Bool) (change : Change α) (origin : Origin) : List String → Entries → Option (Entries × α)
  | [], es => change origin es
  | key :: path, es =>
    match es.lookup key with
    | none => do
      let made := if dotted then Origin.dotted else Origin.implied
      let (inner, a) ← alter dotted change made path []
      some (es ++ [(key, .table made inner)], a)
    | some (.table o inner) =>
      if mayEnter dotted o then do
        let (inner, a) ← alter dotted change o path inner
        some (replace key (.table o inner) es, a)
      else none
    | some (.tables items) =>
      match items.getLast? with
      | some (.table o inner) => do
        let (inner, a) ← alter dotted change o path inner
        some (replace key (.tables (items.dropLast ++ [.table o inner])) es, a)
      | _ => none
    | some _ => none

/-- A new entry under a dotted key. The table that gets the entry must have come about by a dotted key
exactly if there is a path to it. -/
def insertDotted (path : List String) (key : String) (value : Toml) (origin : Origin) (es : Entries) :
    Option Entries :=
  (alter true (fun o inner =>
    if (o == .dotted) == path.isEmpty || (inner.lookup key).isSome then none
    else some (inner ++ [(key, value)], ())) origin path es).map Prod.fst

/-- A file as far as it was read: the tables before the last header, the path of that header and whether
it is a repeated one, and the table that it opened. Before the first header the path is empty. -/
structure Document where
  root : Entries
  path : List String
  isRepeated : Bool
  current : Entries
deriving Repr, Inhabited

namespace Document

def empty : Document := ⟨[], [], false, []⟩

def put (es : Entries) (isRepeated : Bool) (key : String) : Change Unit := fun _ parent =>
  match parent.lookup key with
  | none => some (parent ++ [(key, if isRepeated then .tables [.table .header es] else .table .header es)], ())
  | some (.tables items) =>
    if isRepeated then some (replace key (.tables (items ++ [.table .header es])) parent, ()) else none
  | some _ => none

def close (d : Document) : Option Entries :=
  match d.path.getLast? with
  | none => some d.current
  | some key =>
    (alter false (put d.current d.isRepeated key) .header d.path.dropLast d.root).map Prod.fst

/-- A table taken out of its parent so that it can grow under a header of its own; only one that exists
for the sake of lower tables can. -/
def take (key : String) : Change Entries := fun _ parent =>
  match parent.lookup key with
  | none => some (parent, [])
  | some (.table .implied inner) => some (parent.filter (·.1 != key), inner)
  | some _ => none

def mayRepeat (key : String) : Change Entries := fun _ parent =>
  match parent.lookup key with
  | none => some (parent, [])
  | some (.tables _) => some (parent, [])
  | some _ => none

def openTable (d : Document) (path : List String) (isRepeated : Bool) : Option Document := do
  let root ← d.close
  let key ← path.getLast?
  let (root, current) ←
    alter false (if isRepeated then mayRepeat key else take key) .header path.dropLast root
  some ⟨root, path, isRepeated, current⟩

def insert (d : Document) (path : List String) (value : Toml) : Option Document := do
  let key ← path.getLast?
  let current ← insertDotted path.dropLast key value .header d.current
  some { d with current }

end Document

end ReviewPanel.Toml
