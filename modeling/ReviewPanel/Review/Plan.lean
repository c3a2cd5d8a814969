import ReviewPanel.Diff.Basic
import ReviewPanel.Lens.Profile
import ReviewPanel.Log.Record
import ReviewPanel.Report.Basic

/-! # What is to be reviewed

The wishes of the caller and the profile together say which lenses look at the change and which issues
count. A caller's own choice goes before that of the profile. -/
namespace ReviewPanel

/-- The wishes of the caller. -/
structure ReviewOptions where
  lenses : Option (List String)
  minSeverity : Option Severity
  projectContext : Option String
  profile : Option String
  focus : Option FocusTarget
deriving Repr, DecidableEq, BEq, Inhabited

/-- The lenses of a review, and the severity that an issue must have. -/
structure Plan where
  lenses : List Lens
  minSeverity : Option Severity
deriving Repr, DecidableEq, BEq, Inhabited

namespace ReviewOptions

def knownProfile (o : ReviewOptions) : Option Profile := o.profile.bind Profile.find?

def profileRecords (o : ReviewOptions) : List LogRecord :=
  match o.profile with
  | none => []
  | some name => if (Profile.find? name).isSome then [] else [.unknownProfile name]

def requested (o : ReviewOptions) : Option (List String) :=
  match o.lenses, o.knownProfile with
  | some (name :: rest), _ => some (name :: rest)
  | _, some p => some p.lensNames
  | names, none => names

def threshold (o : ReviewOptions) : Option Severity :=
  match o.minSeverity with
  | some s => some s
  | none => o.knownProfile.bind (·.minSeverity)

def plan (o : ReviewOptions) : Except ReviewError Plan :=
  let lenses := Lens.resolve o.requested
  if lenses.isEmpty then .error (.noLenses (o.requested.getD []))
  else .ok ⟨lenses, o.threshold⟩

/-- A review of a change takes place: there is a file to review, and a lens that is known. -/
def admits (o : ReviewOptions) (diff : Diff) : Bool := !diff.isEmpty && o.plan.isOk

end ReviewOptions

end ReviewPanel
