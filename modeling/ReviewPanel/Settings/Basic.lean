import ReviewPanel.Log.Level
import ReviewPanel.Severity
import ReviewPanel.Text.Count
import ReviewPanel.Text.Quoted

/-! # Settings

The defaults of a process for its reviews. Variables of the environment override them one by one, each
by a rule of its own. -/
namespace ReviewPanel

/-- The defaults of a process for its reviews. -/
structure Settings where
  concurrency : Nat
  partialOnAllFailed : Bool
  failFast : Bool
  profile : Option String
  minSeverity : Option Severity
  logJson : Bool
  logLevel : String
deriving Repr, DecidableEq, BEq, Inhabited

/-- The number of lenses at work at a time when the caller does not say. -/
def defaultConcurrency : Nat := 3

/-- Why there are no settings. -/
inductive SettingsError where
  /-- There is no file at the path. -/
  | missingFile (path : String)
  /-- The file is no text. -/
  | unreadableFile
  | malformed
  | invalidVariable (name value : String)
deriving Repr, DecidableEq, BEq

def SettingsError.message : SettingsError → String
  | .missingFile path =>
    "failed to read config file " ++ path ++ ": No such file or directory (os error 2)"
  | .unreadableFile => "failed to read config file"
  | .malformed => "failed to parse config"
  | .invalidVariable name value => "invalid value for " ++ name ++ ": " ++ Text.quoted value

namespace Settings

def standard : Settings where
  concurrency := defaultConcurrency
  partialOnAllFailed := false
  failFast := false
  profile := none
  minSeverity := none
  logJson := false
  logLevel := "info"

def switch? (s : String) : Option Bool :=
  let key := Text.asciiLower (Text.trimmed s)
  if ["1", "true", "yes", "on"].contains key then some true
  else if ["0", "false", "no", "off"].contains key then some false
  else none

def checked (name : String) (read? : String → Option α) (value : String) : Except SettingsError α :=
  match read? value with
  | some v => .ok v
  | none => .error (.invalidVariable name value)

def override (lookup : String → Option String) (name : String)
    (change : Settings → String → Except SettingsError Settings) (s : Settings) :
    Except SettingsError Settings :=
  match lookup name with
  | none => .ok s
  | some value => change s value

def setConcurrency (s : Settings) (value : String) : Except SettingsError Settings :=
  (checked "LENSREV_CONCURRENCY" (fun v => Text.count? (Text.trim v.toList)) value).map fun concurrency =>
    { s with concurrency }

def setPartialOnAllFailed (s : Settings) (value : String) : Except SettingsError Settings :=
  (checked "LENSREV_PARTIAL_ON_ALL_FAILED" switch? value).map fun partialOnAllFailed =>
    { s with partialOnAllFailed }

def setFailFast (s : Settings) (value : String) : Except SettingsError Settings :=
  (checked "LENSREV_FAIL_FAST" switch? value).map fun failFast => { s with failFast }

def setProfile (s : Settings) (value : String) : Except SettingsError Settings :=
  .ok { s with profile := if Text.isBlankText value then none else some (Text.trimmed value) }

def setMinSeverity (s : Settings) (value : String) : Except SettingsError Settings :=
  (checked "LENSREV_MIN_SEVERITY" (fun v => (Severity.parse v).toOption) value).map fun severity =>
    { s with minSeverity := some severity }

def setLogFormat (s : Settings) (value : String) : Except SettingsError Settings :=
  .ok { s with logJson := Text.sameIgnoringCase (Text.trimmed value) "json" }

def setLogLevel (s : Settings) (value : String) : Except SettingsError Settings :=
  .ok { s with logLevel := Text.trimmed value }

/-- The settings with what the variables of an environment override, in a fixed order. -/
def overlay (s : Settings) (lookup : String → Option String) : Except SettingsError Settings := do
  let s ← override lookup "LENSREV_CONCURRENCY" setConcurrency s
  let s ← override lookup "LENSREV_PARTIAL_ON_ALL_FAILED" setPartialOnAllFailed s
  let s ← override lookup "LENSREV_FAIL_FAST" setFailFast s
  let s ← override lookup "LENSREV_PROFILE" setProfile s
  let s ← override lookup "LENSREV_MIN_SEVERITY" setMinSeverity s
  let s ← override lookup "LENSREV_LOG_FORMAT" setLogFormat s
  override lookup "LENSREV_LOG_LEVEL" setLogLevel s

def level (s : Settings) : Level := Level.parse s.logLevel

end Settings

end ReviewPanel
