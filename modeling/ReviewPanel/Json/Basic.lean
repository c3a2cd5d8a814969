import ReviewPanel.Binary.Numbers

/-! # JSON values -/
namespace ReviewPanel

/-- A JSON number: an integer, or a floating-point number of one of the two widths. -/
inductive Json.Number where
  | integer (value : Int)
  | single (value : Single)
  | double (value : Double)
deriving Repr, DecidableEq, BEq, Inhabited

/-- A JSON value. An object lists its entries in the order in which they are written. -/
inductive Json where
  | null
  | bool (value : Bool)
  | number (value : Json.Number)
  | text (value : String)
  | list (items : List Json)
  | object (entries : List (String × Json))
deriving Repr, BEq, Inhabited

namespace Json

def nat (n : Nat) : Json := .number (.integer n)

def ofWord (w : UInt32) : Json := nat w.toNat

def ofSingle (x : Single) : Json := if x.isFinite then .number (.single x) else .null

/-- The entry put among entries with ascending keys, in place of an entry with its key. -/
def insert (key : String) (value : α) : List (String × α) → List (String × α)
  | [] => [(key, value)]
  | (k, v) :: rest =>
    if key = k then (key, value) :: rest
    else if key < k then (key, value) :: (k, v) :: rest
    else (k, v) :: insert key value rest

/-- The entries with ascending keys; of entries with one key the last stays. -/
def sorted (entries : List (String × α)) : List (String × α) :=
  entries.foldl (fun es e => insert e.1 e.2 es) []

def present (fields : List (String × Option Json)) : List (String × Json) :=
  fields.filterMap fun (k, v) => v.map (k, ·)

def ofFields (fields : List (String × Option Json)) : Json := .object (present fields)

mutual
/-- The value with the keys of every object in ascending order and every number in its widest form:
the form in which values are handed from one component to another. -/
def canonical : Json → Json
  | .number (.single x) => .number (.double x.toDouble)
  | .list items => .list (canonicalItems items)
  | .object entries => .object (sorted (canonicalEntries entries))
  | j => j

def canonicalItems : List Json → List Json
  | [] => []
  | j :: rest => canonical j :: canonicalItems rest

def canonicalEntries : List (String × Json) → List (String × Json)
  | [] => []
  | (k, j) :: rest => (k, canonical j) :: canonicalEntries rest
end

def get? (j : Json) (key : String) : Option Json :=
  match j with
  | .object entries => entries.lookup key
  | _ => none

end Json

end ReviewPanel
