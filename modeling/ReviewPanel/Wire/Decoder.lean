import ReviewPanel.Wire.Misfit
import ReviewPanel.Json.Reader

/-! # Reading typed values

A decoder turns a draft into a value of a type. It meets the parts of the draft in the order of the
text, and the first thing wrong is the answer. -/
namespace ReviewPanel.Wire
open Json (Draft)

/-- How a draft came about, as far as it matters for reading it. -/
inductive Source where
  /-- From a finished JSON value. -/
  | value
  /-- From a value that had to be put aside until the kind of record was known. -/
  | held
  /-- Straight from a text; `depth` more lists and objects may be opened. -/
  | text (depth : Nat)
deriving Repr, DecidableEq

def Source.inside : Source → Except Fault Source
  | .text 0 => .error .syntaxError
  | .text (depth + 1) => .ok (.text depth)
  | s => .ok s

/-- Reads a value of a type from a draft. -/
abbrev Decoder (α : Type) := Source → Draft → Except Fault α

def unexpected (d : Draft) (expected : String) : Fault :=
  match d with
  | .null => .misfit (.wrongKind .null expected)
  | .bool b => .misfit (.wrongKind (.bool b) expected)
  | .number (.integer i) => .misfit (.wrongKind (.integer i) expected)
  | .number (.single x) => .misfit (.wrongKind (.float x.toDouble) expected)
  | .number (.double x) => .misfit (.wrongKind (.float x) expected)
  | .text s => .misfit (.wrongKind (.text s) expected)
  | .list _ _ => .misfit (.wrongKind .list expected)
  | .object _ _ => .misfit (.wrongKind .object expected)
  | .overflow | .unpaired | .broken => .syntaxError

/-! ## Single values -/

def text : Decoder String
  | _, .text s => .ok s
  | _, d => .error (unexpected d "a string")

def bool : Decoder Bool
  | _, .bool b => .ok b
  | _, d => .error (unexpected d "a boolean")

/-- A natural number below `bound`; `width` is the name of the range. -/
def natural (width : String) (bound : Nat) : Decoder Nat
  | _, .number (.integer i) =>
    if 0 ≤ i ∧ i < bound then .ok i.toNat else .error (.misfit (.wrongValue (.integer i) width))
  | _, d => .error (unexpected d width)

def word : Decoder UInt32 := fun s d => (natural "u32" (Nat.pow 2 32) s d).map UInt32.ofNat

def count : Decoder Nat := natural "usize" (Nat.pow 2 64)

def millis : Decoder Nat := natural "u64" (Nat.pow 2 64)

/-- A 32-bit floating-point number, rounded from whatever number there is. -/
def single : Decoder Single
  | _, .number (.integer i) => .ok (Single.ofInt i)
  | _, .number (.single x) => .ok x
  | _, .number (.double x) => .ok x.toSingle
  | _, d => .error (unexpected d "f32")

def parsed (parse : String → Except ε α) (expected : String) (misfit : ε → Misfit) : Decoder α
  | _, .text s =>
    match parse s with
    | .ok v => .ok v
    | .error e => .error (.misfit (misfit e))
  | _, d => .error (unexpected d expected)

def severity : Decoder Severity := parsed Severity.parse "a string" .severity

def instant : Decoder Instant :=
  parsed Instant.parse "an RFC 3339 formatted date and time string" .instant

def any : Decoder Json := fun s d =>
  let depth := match s with
    | .text depth => some depth
    | _ => none
  match d.toJson? depth with
  | some j => .ok j
  | none => .error .syntaxError

def nullable (decode : Decoder α) : Decoder (Option α)
  | _, .null => .ok none
  | s, d => (decode s d).map some

/-- The items one after the other, up to the first that does not fit. -/
def items (decode : Decoder α) (s : Source) : List Draft → Except Fault (List α)
  | [] => .ok []
  | d :: rest => do
    let v ← decode s d
    let vs ← items decode s rest
    return v :: vs

def list (decode : Decoder α) : Decoder (List α)
  | s, .list ds closed => do
    let s ← s.inside
    let vs ← items decode s ds
    if closed then .ok vs else .error .syntaxError
  | _, d => .error (unexpected d "a sequence")

def choose (names : List (String × α)) (name : String) : Except Fault α :=
  match names.lookup name with
  | some v => .ok v
  | none => .error (.misfit (.unknownVariant name (names.map Prod.fst)))

/-- Nothing but null; what was put aside may also be an empty object. -/
def unit : Decoder Unit
  | _, .null => .ok ()
  | .held, .object [] _ => .ok ()
  | _, d => .error (unexpected d "unit")

/-- One of a set of names: the name alone, or an object with the name as its only key and null as its
value. In a text whatever is neither a string nor an object is no JSON for this purpose, and neither is
an object with further keys. -/
def variant (names : List (String × α)) : Decoder α
  | _, .text s => choose names s
  | .text depth, .object entries closed => do
    let s ← (Source.text depth).inside
    match Draft.legible closed entries with
    | ([], _) => .error .syntaxError
    | ((name, d) :: rest, closed) =>
      let v ← choose names name
      unit s d
      if closed && rest.isEmpty then .ok v else .error .syntaxError
  | s, .object entries _ =>
    match entries with
    | [(some name, d)] => do
      let v ← choose names name
      unit s d
      return v
    | _ => .error (.misfit (.wrongValue .object "map with a single key"))
  | .text _, _ => .error .syntaxError
  | _, d => .error (unexpected d "string or map")

/-! ## Entry points -/

def decode (d : Decoder α) (j : Json) : Except Fault α := d .value j.draft

/-- Reads a text that is one JSON value with blanks around it. -/
def decodeText (d : Decoder α) (s : String) : Except Fault α := do
  let (draft, rest) := Json.readDraft s.toList
  let v ← d (.text Json.maxDepth) draft
  if (Json.skipGaps rest).isEmpty then .ok v else .error .syntaxError

end ReviewPanel.Wire
