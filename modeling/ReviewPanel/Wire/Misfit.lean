import ReviewPanel.Json.Draft
import ReviewPanel.Binary.Notation
import ReviewPanel.Text.Quoted
import ReviewPanel.Severity
import ReviewPanel.Instant

/-! # Values that do not fit

What was wrong with a JSON value that was to be read as something in particular. -/
namespace ReviewPanel.Wire

/-- What stood in the place of the expected value. -/
inductive Found where
  | null
  | bool (value : Bool)
  | integer (value : Int)
  | float (value : Double)
  | text (value : String)
  | list
  | object
deriving Repr, DecidableEq, BEq

def Found.describe : Found → String
  | .null => "null"
  | .bool b => "boolean `" ++ (if b then "true" else "false") ++ "`"
  | .integer i => "integer `" ++ toString i ++ "`"
  | .float x => "floating point `" ++ String.ofList x.write ++ "`"
  | .text s => "string " ++ Text.quoted s
  | .list => "sequence"
  | .object => "map"

/-- Why a value does not fit. -/
inductive Misfit where
  /-- A value of another kind. -/
  | wrongKind (found : Found) (expected : String)
  /-- A value of the right kind that is out of range. -/
  | wrongValue (found : Found) (expected : String)
  /-- A list with too few or too many elements. -/
  | wrongLength (length : Nat) (expected : String)
  | unknownVariant (name : String) (known : List String)
  | missingField (name : String)
  | repeatedField (name : String)
  | severity (error : UnknownSeverity)
  | instant (error : Instant.Fault)
deriving Repr, DecidableEq, BEq

def alternatives : List String → String
  | [] => "there are no variants"
  | [a] => "expected `" ++ a ++ "`"
  | [a, b] => "expected `" ++ a ++ "` or `" ++ b ++ "`"
  | names => "expected one of " ++ String.intercalate ", " (names.map fun n => "`" ++ n ++ "`")

def Misfit.message : Misfit → String
  | .wrongKind found expected => "invalid type: " ++ found.describe ++ ", expected " ++ expected
  | .wrongValue found expected => "invalid value: " ++ found.describe ++ ", expected " ++ expected
  | .wrongLength length expected => "invalid length " ++ toString length ++ ", expected " ++ expected
  | .unknownVariant name known => "unknown variant `" ++ name ++ "`, " ++ alternatives known
  | .missingField name => "missing field `" ++ name ++ "`"
  | .repeatedField name => "duplicate field `" ++ name ++ "`"
  | .severity e => e.message
  | .instant e => e.message

/-- Why no value could be read: the text is not JSON at this place, or the value there does not fit. -/
inductive Fault where
  | syntaxError
  | misfit (cause : Misfit)
deriving Repr, DecidableEq, BEq

def Fault.message : Fault → String
  | .syntaxError => "syntax error"
  | .misfit m => m.message

end ReviewPanel.Wire
