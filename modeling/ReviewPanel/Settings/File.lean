import ReviewPanel.Settings.Basic
import ReviewPanel.Toml.Reader

/-! # Settings from a file

A file may set any of the settings; entries with other keys are passed over. -/
namespace ReviewPanel.Settings

/-- The value of a key, which must be of the right kind, or a default. -/
def entry (es : Toml.Entries) (key : String) (read? : Toml → Option α) (absent : α) : Option α :=
  match es.lookup key with
  | none => some absent
  | some v => read? v

def severity? (v : Toml) : Option Severity := do
  let s ← v.text?
  (Severity.parse s).toOption

def ofEntries? (es : Toml.Entries) : Option Settings := do
  let concurrency ← entry es "concurrency" Toml.nat? standard.concurrency
  let partialOnAllFailed ← entry es "partial_on_all_failed" Toml.bool? standard.partialOnAllFailed
  let failFast ← entry es "fail_fast" Toml.bool? standard.failFast
  let profile ← entry es "profile" (fun v => v.text?.map some) standard.profile
  let minSeverity ← entry es "min_severity" (fun v => (severity? v).map some) standard.minSeverity
  let logJson ← entry es "log_json" Toml.bool? standard.logJson
  let logLevel ← entry es "log_level" Toml.text? standard.logLevel
  some { concurrency, partialOnAllFailed, failFast, profile, minSeverity, logJson, logLevel }

def ofText (s : String) : Except SettingsError Settings :=
  match Toml.parse? s >>= ofEntries? with
  | some settings => .ok settings
  | none => .error .malformed

def ofBytes (bytes : ByteArray) : Except SettingsError Settings :=
  match String.fromUTF8? bytes with
  | some s => ofText s
  | none => .error .unreadableFile

end ReviewPanel.Settings
