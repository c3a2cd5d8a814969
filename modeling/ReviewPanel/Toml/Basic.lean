/-! # Values of a settings file

The values of TOML. The numbers with a fraction and the dates and times that a file may hold are told
apart from the rest but not kept, since no setting takes one. -/
namespace ReviewPanel

/-- How a table came about, which decides what may still be added to it. -/
inductive Toml.Origin where
  /-- By the header of a table below it. -/
  | implied
  /-- By a dotted key. -/
  | dotted
  /-- By a header of its own. -/
  | header
  /-- Between braces; nothing may be added. -/
  | inline
deriving Repr, DecidableEq, BEq, Inhabited

/-- A value. -/
inductive Toml where
  | text (value : String)
  | integer (value : Int)
  | float
  | bool (value : Bool)
  | time
  | list (items : List Toml)
  | table (origin : Toml.Origin) (entries : List (String × Toml))
  /-- The tables under one repeated header. -/
  | tables (items : List Toml)
deriving Repr, Inhabited

namespace Toml

/-- The entries of a table, in the order of the file. -/
abbrev Entries := List (String × Toml)

def text? : Toml → Option String
  | .text s => some s
  | _ => none

def bool? : Toml → Option Bool
  | .bool b => some b
  | _ => none

def nat? : Toml → Option Nat
  | .integer i => if 0 ≤ i then some i.toNat else none
  | _ => none

end Toml

end ReviewPanel
