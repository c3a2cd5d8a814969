import Mathlib.Tactic.SplitIfs
import ReviewPanel.Proofs.Text.Spelling
import ReviewPanel.Settings.Basic

/-! # Settings under an environment

Each variable of an environment has a say in one field of the settings, whatever the others are. Four of them can
hold values that are refused, and the first that does is blamed. Hence two environments, one laid over the other,
do what one does that looks into the second first. -/
namespace ReviewPanel

namespace Severity

/-- The names of a severity. -/
def words : Severity → List String
  | .blocker => ["blocker", "critical"]
  | s => [s.name]

/-- The text is a name of the severity, apart from blanks around it and the case of ASCII letters. -/
def IsSpelled (s : Severity) (text : String) : Prop :=
  ∃ word ∈ s.words, Text.sameIgnoringCase word (Text.trimmed text) = true

theorem asciiLower_of_mem_words {s : Severity} : ∀ word ∈ s.words, Text.asciiLower word = word := by
  cases s <;> decide

theorem ofName?_eq_some_iff {name : String} {s : Severity} : ofName? name = some s ↔ name ∈ s.words := by
  constructor
  · intro h
    rw [ofName?] at h
    split_ifs at h with hblocker hhigh hmedium hlow hnit <;> cases h
    · simpa [words] using hblocker
    · exact List.mem_singleton.mpr hhigh
    · exact List.mem_singleton.mpr hmedium
    · exact List.mem_singleton.mpr hlow
    · exact List.mem_singleton.mpr hnit
  · have hwords : ∀ word ∈ s.words, ofName? word = some s := by cases s <;> decide
    exact hwords name

theorem toOption_parse (text : String) : (parse text).toOption = ofName? (key text) := by
  rw [parse]
  cases ofName? (key text) <;> rfl

theorem toOption_parse_eq_some_iff {text : String} {s : Severity} :
    (parse text).toOption = some s ↔ s.IsSpelled text := by
  rw [toOption_parse, ofName?_eq_some_iff]
  constructor
  · intro h
    exact ⟨key text, h, (Text.sameIgnoringCase_iff (asciiLower_of_mem_words _ h) _).mpr rfl⟩
  · rintro ⟨word, hword, hsame⟩
    rw [key, (Text.sameIgnoringCase_iff (asciiLower_of_mem_words _ hword) _).mp hsame]
    exact hword

end Severity

namespace Settings

/-- The words for a switch that is on or off. -/
def switchWords : Bool → List String
  | true => ["1", "true", "yes", "on"]
  | false => ["0", "false", "no", "off"]

/-- The text is a word for the switch, apart from blanks around it and the case of ASCII letters. -/
def SpellsSwitch (text : String) (b : Bool) : Prop :=
  ∃ word ∈ switchWords b, Text.sameIgnoringCase word (Text.trimmed text) = true

theorem spellsSwitch_iff {text : String} {b : Bool} :
    SpellsSwitch text b ↔ Text.asciiLower (Text.trimmed text) ∈ switchWords b := by
  have hlower : ∀ word ∈ switchWords b, Text.asciiLower word = word := by cases b <;> decide
  constructor
  · rintro ⟨word, hword, hsame⟩
    rw [(Text.sameIgnoringCase_iff (hlower word hword) _).mp hsame]
    exact hword
  · intro h
    exact ⟨_, h, (Text.sameIgnoringCase_iff (hlower _ h) _).mpr rfl⟩

theorem switch?_eq_some_iff {text : String} {b : Bool} : switch? text = some b ↔ SpellsSwitch text b := by
  rw [spellsSwitch_iff, switch?]
  generalize Text.asciiLower (Text.trimmed text) = key
  constructor
  · intro h
    split_ifs at h with hon hoff <;> cases h
    · exact List.contains_iff_mem.mp hon
    · exact List.contains_iff_mem.mp hoff
  · revert key
    cases b <;> decide

def countOf? (value : String) : Option Nat := Text.count? (Text.trim value.toList)

theorem countOf?_eq_some_iff {value : String} {n : Nat} :
    countOf? value = some n ↔ Text.SpellsCount (Text.trim value.toList) n := Text.count?_eq_some_iff

def thresholdOf? (value : String) : Option (Option Severity) := (Severity.parse value).toOption.map some

theorem thresholdOf?_eq_some_iff {value : String} {threshold : Option Severity} :
    thresholdOf? value = some threshold ↔ ∃ severity, threshold = some severity ∧ severity.IsSpelled value := by
  rw [thresholdOf?, Option.map_eq_some_iff]
  refine exists_congr fun severity => ?_
  rw [Severity.toOption_parse_eq_some_iff, and_comm, eq_comm]

/-! ## One variable -/

/-- A field after a variable was looked at: a value says what it becomes, and without one it stays as it is. -/
def Follows (value : Option String) (Says : String → α → Prop) (old new : α) : Prop :=
  match value with
  | none => new = old
  | some v => Says v new

theorem Follows.trans {value later : Option String} {Says : String → α → Prop} {a b c : α}
    (h : Follows value Says a b) (h' : Follows later Says b c) : Follows (later.or value) Says a c := by
  cases later with
  | none =>
    obtain rfl : c = b := h'
    exact h
  | some v => exact h'

/-- What a variable has said once, it says again. -/
theorem Follows.again {value : Option String} {Says : String → α → Prop} {a b : α}
    (h : Follows value Says a b) : Follows value Says b b := by
  cases value with
  | none => rfl
  | some v => exact h

/-- The variables whose values can be refused, in the order in which they are looked at. -/
inductive CheckedVariable where
  | concurrency
  | partialOnAllFailed
  | failFast
  | minSeverity
deriving Repr, DecidableEq

namespace CheckedVariable

def all : List CheckedVariable := [.concurrency, .partialOnAllFailed, .failFast, .minSeverity]

theorem mem_all (c : CheckedVariable) : c ∈ all := by cases c <;> decide

def name : CheckedVariable → String
  | .concurrency => "LENSREV_CONCURRENCY"
  | .partialOnAllFailed => "LENSREV_PARTIAL_ON_ALL_FAILED"
  | .failFast => "LENSREV_FAIL_FAST"
  | .minSeverity => "LENSREV_MIN_SEVERITY"

/-- The value can be read. -/
def Accepts : CheckedVariable → String → Prop
  | .concurrency, value => ∃ n, Text.SpellsCount (Text.trim value.toList) n
  | .partialOnAllFailed, value => ∃ b, SpellsSwitch value b
  | .failFast, value => ∃ b, SpellsSwitch value b
  | .minSeverity, value => ∃ s : Severity, s.IsSpelled value

def accepts : CheckedVariable → String → Bool
  | .concurrency, value => (countOf? value).isSome
  | .partialOnAllFailed, value => (switch? value).isSome
  | .failFast, value => (switch? value).isSome
  | .minSeverity, value => (thresholdOf? value).isSome

theorem accepts_iff {c : CheckedVariable} {value : String} : c.accepts value = true ↔ c.Accepts value := by
  cases c with
  | concurrency => simp only [accepts, Accepts, countOf?, Option.isSome_iff_exists, Text.count?_eq_some_iff]
  | partialOnAllFailed => simp only [accepts, Accepts, Option.isSome_iff_exists, switch?_eq_some_iff]
  | failFast => simp only [accepts, Accepts, Option.isSome_iff_exists, switch?_eq_some_iff]
  | minSeverity =>
    simp only [accepts, Accepts, thresholdOf?, Option.isSome_map, Option.isSome_iff_exists,
      Severity.toOption_parse_eq_some_iff]

/-- The environment gives the variable a value that is refused. -/
def IsRefused (env : String → Option String) (c : CheckedVariable) (value : String) : Prop :=
  env c.name = some value ∧ ¬ c.Accepts value

/-- The value is refused, and none of a variable before it. -/
def IsFirstRefused (env : String → Option String) (c : CheckedVariable) (value : String) : Prop :=
  c.IsRefused env value ∧ ∃ before after, all = before ++ c :: after ∧ ∀ b ∈ before, ∀ v, ¬ b.IsRefused env v

/-- The error for the value of a variable, if it is refused. -/
def fault? (env : String → Option String) (c : CheckedVariable) : Option SettingsError :=
  (env c.name).bind fun value => if c.accepts value then none else some (.invalidVariable c.name value)

theorem fault?_eq_some_iff {env : String → Option String} {c : CheckedVariable} {e : SettingsError} :
    c.fault? env = some e ↔ ∃ value, c.IsRefused env value ∧ e = .invalidVariable c.name value := by
  rw [fault?, Option.bind_eq_some_iff]
  refine exists_congr fun value => ?_
  rw [Option.ite_none_left_eq_some, accepts_iff, Option.some.injEq, IsRefused, and_assoc, @eq_comm _ e]

/-- There is no error for a variable that is absent or whose value can be read. -/
theorem fault?_eq_none_iff {env : String → Option String} {c : CheckedVariable} :
    c.fault? env = none ↔ ∀ value, ¬ c.IsRefused env value := by
  rw [Option.eq_none_iff_forall_ne_some]
  constructor
  · intro hnone value refused
    exact hnone _ (fault?_eq_some_iff.mpr ⟨value, refused, rfl⟩)
  · intro accepted e he
    obtain ⟨value, refused, -⟩ := fault?_eq_some_iff.mp he
    exact accepted value refused

end CheckedVariable

/-! ## All variables -/

variable {env later : String → Option String} {s s' s'' : Settings}

/-- Settings after the variables of an environment were looked at, each for a field of its own. -/
structure Overlaid (env : String → Option String) (s s' : Settings) : Prop where
  concurrency : Follows (env "LENSREV_CONCURRENCY") (fun v n => Text.SpellsCount (Text.trim v.toList) n)
    s.concurrency s'.concurrency
  partialOnAllFailed : Follows (env "LENSREV_PARTIAL_ON_ALL_FAILED") SpellsSwitch
    s.partialOnAllFailed s'.partialOnAllFailed
  failFast : Follows (env "LENSREV_FAIL_FAST") SpellsSwitch s.failFast s'.failFast
  profile : Follows (env "LENSREV_PROFILE")
    (fun v profile => profile = if Text.isBlankText v then none else some (Text.trimmed v)) s.profile s'.profile
  minSeverity : Follows (env "LENSREV_MIN_SEVERITY")
    (fun v threshold => ∃ severity, threshold = some severity ∧ severity.IsSpelled v) s.minSeverity s'.minSeverity
  logJson : Follows (env "LENSREV_LOG_FORMAT")
    (fun v json => json = Text.sameIgnoringCase (Text.trimmed v) "json") s.logJson s'.logJson
  logLevel : Follows (env "LENSREV_LOG_LEVEL") (fun v level => level = Text.trimmed v) s.logLevel s'.logLevel

theorem Overlaid.trans (h : Overlaid env s s') (h' : Overlaid later s' s'') :
    Overlaid (fun name => (later name).or (env name)) s s'' where
  concurrency := h.concurrency.trans h'.concurrency
  partialOnAllFailed := h.partialOnAllFailed.trans h'.partialOnAllFailed
  failFast := h.failFast.trans h'.failFast
  profile := h.profile.trans h'.profile
  minSeverity := h.minSeverity.trans h'.minSeverity
  logJson := h.logJson.trans h'.logJson
  logLevel := h.logLevel.trans h'.logLevel

theorem Overlaid.again (h : Overlaid env s s') : Overlaid env s' s' where
  concurrency := h.concurrency.again
  partialOnAllFailed := h.partialOnAllFailed.again
  failFast := h.failFast.again
  profile := h.profile.again
  minSeverity := h.minSeverity.again
  logJson := h.logJson.again
  logLevel := h.logLevel.again

/-- What the settings become if no value is refused. -/
def followed (env : String → Option String) (s : Settings) : Settings where
  concurrency := ((env "LENSREV_CONCURRENCY").bind countOf?).getD s.concurrency
  partialOnAllFailed := ((env "LENSREV_PARTIAL_ON_ALL_FAILED").bind switch?).getD s.partialOnAllFailed
  failFast := ((env "LENSREV_FAIL_FAST").bind switch?).getD s.failFast
  profile := ((env "LENSREV_PROFILE").map fun v =>
    if Text.isBlankText v then none else some (Text.trimmed v)).getD s.profile
  minSeverity := ((env "LENSREV_MIN_SEVERITY").bind thresholdOf?).getD s.minSeverity
  logJson := ((env "LENSREV_LOG_FORMAT").map fun v => Text.sameIgnoringCase (Text.trimmed v) "json").getD s.logJson
  logLevel := ((env "LENSREV_LOG_LEVEL").map Text.trimmed).getD s.logLevel

/-- A variable whose values can be refused. -/
theorem follows_checked_iff (env : String → Option String) (c : CheckedVariable) (read? : String → Option α)
    {Says : String → α → Prop} (reads : ∀ v, c.accepts v = (read? v).isSome)
    (spec : ∀ {v a}, read? v = some a ↔ Says v a) (old new : α) :
    Follows (env c.name) Says old new ↔
      c.fault? env = none ∧ new = ((env c.name).bind read?).getD old := by
  rw [CheckedVariable.fault?]
  cases env c.name with
  | none => exact (and_iff_right rfl).symm
  | some v =>
    change Says v new ↔ _
    simp only [Option.bind_some, reads, ← spec]
    cases read? v with
    | none => exact iff_of_false (fun h => nomatch h) fun h => nomatch h.1
    | some a => simp [eq_comm]

/-- A variable of which every value is taken. -/
theorem follows_iff {value : Option String} {said : String → α} {old new : α} :
    Follows value (fun v a => a = said v) old new ↔ new = (value.map said).getD old := by
  cases value <;> exact Iff.rfl

theorem override_checked (env : String → Option String) (c : CheckedVariable) (read? : String → Option α)
    (put : Settings → α → Settings) (old : α) (reads : ∀ v, c.accepts v = (read? v).isSome) (same : put s old = s) :
    override env c.name (fun s v => (checked c.name read? v).map (put s)) s =
      match c.fault? env with
      | some e => .error e
      | none => .ok (put s (((env c.name).bind read?).getD old)) := by
  rw [override, CheckedVariable.fault?]
  cases env c.name with
  | none => simp only [Option.bind_none, Option.getD_none, same]
  | some v =>
    simp only [Option.bind_some, reads, checked]
    cases read? v <;> rfl

theorem override_unchecked (env : String → Option String) (name : String) (said : String → α)
    (put : Settings → α → Settings) (old : α) (same : put s old = s) :
    override env name (fun s v => .ok (put s (said v))) s = .ok (put s (((env name).map said).getD old)) := by
  rw [override]
  cases env name with
  | none => rw [Option.map_none, Option.getD_none, same]
  | some v => rfl

theorem setMinSeverity_eq (s : Settings) (value : String) :
    setMinSeverity s value =
      (checked "LENSREV_MIN_SEVERITY" thresholdOf? value).map fun minSeverity => { s with minSeverity } := by
  rw [setMinSeverity, checked, checked, thresholdOf?]
  cases (Severity.parse value).toOption <;> rfl

/-- The first value that is refused decides, and if there is none all variables are followed. -/
theorem overlay_eq (env : String → Option String) (s : Settings) :
    s.overlay env =
      match CheckedVariable.all.findSome? (·.fault? env) with
      | some e => .error e
      | none => .ok (s.followed env) := by
  have hconcurrency (s : Settings) : override env "LENSREV_CONCURRENCY" setConcurrency s = _ :=
    override_checked env .concurrency countOf? (fun s concurrency => { s with concurrency }) s.concurrency
      (fun _ => rfl) rfl
  have hpartial (s : Settings) : override env "LENSREV_PARTIAL_ON_ALL_FAILED" setPartialOnAllFailed s = _ :=
    override_checked env .partialOnAllFailed switch?
      (fun s partialOnAllFailed => { s with partialOnAllFailed }) s.partialOnAllFailed (fun _ => rfl) rfl
  have hfailFast (s : Settings) : override env "LENSREV_FAIL_FAST" setFailFast s = _ :=
    override_checked env .failFast switch? (fun s failFast => { s with failFast }) s.failFast (fun _ => rfl) rfl
  have hprofile (s : Settings) : override env "LENSREV_PROFILE" setProfile s = _ :=
    override_unchecked env _ _ (fun s profile => { s with profile }) s.profile rfl
  have hminSeverity (s : Settings) : override env "LENSREV_MIN_SEVERITY" setMinSeverity s = _ :=
    (congrArg (override env "LENSREV_MIN_SEVERITY" · s) (funext₂ setMinSeverity_eq)).trans
      (override_checked env .minSeverity thresholdOf? (fun s minSeverity => { s with minSeverity }) s.minSeverity
        (fun _ => rfl) rfl)
  have hlogFormat (s : Settings) : override env "LENSREV_LOG_FORMAT" setLogFormat s = _ :=
    override_unchecked env _ _ (fun s logJson => { s with logJson }) s.logJson rfl
  have hlogLevel (s : Settings) : override env "LENSREV_LOG_LEVEL" setLogLevel s = _ :=
    override_unchecked env _ _ (fun s logLevel => { s with logLevel }) s.logLevel rfl
  simp only [overlay, hconcurrency, hpartial, hfailFast, hprofile, hminSeverity, hlogFormat, hlogLevel,
    CheckedVariable.all, List.findSome?_cons, List.findSome?_nil]
  cases CheckedVariable.concurrency.fault? env with
  | some e => rfl
  | none =>
    cases CheckedVariable.partialOnAllFailed.fault? env with
    | some e => rfl
    | none =>
      cases CheckedVariable.failFast.fault? env with
      | some e => rfl
      | none => cases CheckedVariable.minSeverity.fault? env <;> rfl

/-- A refusal is an error about the first variable whose value is refused, and shows the value as it is. -/
theorem overlay_eq_error_iff {e : SettingsError} :
    s.overlay env = .error e ↔
      ∃ c value, CheckedVariable.IsFirstRefused env c value ∧ e = .invalidVariable c.name value := by
  have hfirst : s.overlay env = .error e ↔ CheckedVariable.all.findSome? (·.fault? env) = some e := by
    rw [overlay_eq]
    cases CheckedVariable.all.findSome? (·.fault? env) <;> simp
  rw [hfirst, List.findSome?_eq_some_iff]
  simp only [CheckedVariable.fault?_eq_some_iff, CheckedVariable.fault?_eq_none_iff]
  constructor
  · rintro ⟨before, c, after, hall, ⟨value, refused, he⟩, hbefore⟩
    exact ⟨c, value, ⟨refused, before, after, hall, hbefore⟩, he⟩
  · rintro ⟨c, value, ⟨refused, before, after, hall, hbefore⟩, he⟩
    exact ⟨before, c, after, hall, ⟨value, refused, he⟩, hbefore⟩

theorem overlaid_iff :
    Overlaid env s s' ↔ (∀ c ∈ CheckedVariable.all, c.fault? env = none) ∧ s' = s.followed env := by
  have hconcurrency := follows_checked_iff env .concurrency countOf? (fun _ => rfl) countOf?_eq_some_iff
    s.concurrency s'.concurrency
  have hpartial := follows_checked_iff env .partialOnAllFailed switch? (fun _ => rfl) switch?_eq_some_iff
    s.partialOnAllFailed s'.partialOnAllFailed
  have hfailFast := follows_checked_iff env .failFast switch? (fun _ => rfl) switch?_eq_some_iff
    s.failFast s'.failFast
  have hminSeverity := follows_checked_iff env .minSeverity thresholdOf? (fun _ => rfl) thresholdOf?_eq_some_iff
    s.minSeverity s'.minSeverity
  constructor
  · intro h
    obtain ⟨concurrency, hconcurrency⟩ := hconcurrency.mp h.concurrency
    obtain ⟨partialOnAllFailed, hpartial⟩ := hpartial.mp h.partialOnAllFailed
    obtain ⟨failFast, hfailFast⟩ := hfailFast.mp h.failFast
    obtain ⟨minSeverity, hminSeverity⟩ := hminSeverity.mp h.minSeverity
    refine ⟨List.forall_mem_cons.mpr ⟨concurrency, List.forall_mem_cons.mpr ⟨partialOnAllFailed,
      List.forall_mem_cons.mpr ⟨failFast, List.forall_mem_singleton.mpr minSeverity⟩⟩⟩, ?_⟩
    cases s'
    simp only [followed, mk.injEq]
    exact ⟨hconcurrency, hpartial, hfailFast, follows_iff.mp h.profile, hminSeverity, follows_iff.mp h.logJson,
      follows_iff.mp h.logLevel⟩
  · rintro ⟨accepted, rfl⟩
    constructor
    · exact hconcurrency.mpr ⟨accepted _ (CheckedVariable.mem_all _), rfl⟩
    · exact hpartial.mpr ⟨accepted _ (CheckedVariable.mem_all _), rfl⟩
    · exact hfailFast.mpr ⟨accepted _ (CheckedVariable.mem_all _), rfl⟩
    · exact follows_iff.mpr rfl
    · exact hminSeverity.mpr ⟨accepted _ (CheckedVariable.mem_all _), rfl⟩
    · exact follows_iff.mpr rfl
    · exact follows_iff.mpr rfl

theorem overlay_eq_ok_iff : s.overlay env = .ok s' ↔ Overlaid env s s' := by
  rw [overlaid_iff, overlay_eq, ← List.findSome?_eq_none_iff]
  cases CheckedVariable.all.findSome? (·.fault? env) <;> simp [eq_comm]

theorem exists_overlay_eq_error_iff :
    (∃ e, s.overlay env = .error e) ↔ ∃ c value, CheckedVariable.IsRefused env c value := by
  constructor
  · rintro ⟨e, he⟩
    obtain ⟨c, value, first, -⟩ := overlay_eq_error_iff.mp he
    exact ⟨c, value, first.1⟩
  · rintro ⟨c, value, refused⟩
    cases hoverlay : s.overlay env with
    | error e => exact ⟨e, rfl⟩
    | ok s' =>
      obtain ⟨accepted, -⟩ := overlaid_iff.mp (overlay_eq_ok_iff.mp hoverlay)
      exact absurd refused (CheckedVariable.fault?_eq_none_iff.mp (accepted c c.mem_all) value)

/-- The values of four variables decide whether an environment is refused, whatever the settings are, and the error
shows the first that cannot be read. If there is none, each variable that is present decides on its own field,
and all else stays as it is. Two environments one after the other do what one does that looks into the second
first, and the same environment once more changes nothing. -/
theorem overlay_follows_environment (env : String → Option String) :
    (∀ s : Settings, (∃ e, s.overlay env = .error e) ↔ ∃ c value, CheckedVariable.IsRefused env c value) ∧
      (∀ (s : Settings) (e : SettingsError), s.overlay env = .error e ↔
        ∃ c value, CheckedVariable.IsFirstRefused env c value ∧ e = .invalidVariable c.name value) ∧
      (∀ s s' : Settings, s.overlay env = .ok s' ↔ Overlaid env s s') ∧
      (∀ (later : String → Option String) (s s' s'' : Settings), s.overlay env = .ok s' →
        s'.overlay later = .ok s'' → s.overlay (fun name => (later name).or (env name)) = .ok s'') ∧
      ∀ s s' : Settings, s.overlay env = .ok s' → s'.overlay env = .ok s' := by
  refine ⟨fun s => exists_overlay_eq_error_iff, fun s e => overlay_eq_error_iff, fun s s' => overlay_eq_ok_iff,
    fun later s s' s'' h h' => ?_, fun s s' h => ?_⟩
  · exact overlay_eq_ok_iff.mpr ((overlay_eq_ok_iff.mp h).trans (overlay_eq_ok_iff.mp h'))
  · exact overlay_eq_ok_iff.mpr (overlay_eq_ok_iff.mp h).again

section Shell

/-- The environment of a shell. -/
def shell (name : String) : Option String :=
  [("LENSREV_CONCURRENCY", " +8\n"), ("LENSREV_PROFILE", " thorough "), ("LENSREV_MIN_SEVERITY", "CRITICAL"),
    ("LENSREV_LOG_FORMAT", "json")].lookup name

/-- The environment of a job that the shell runs. -/
def job (name : String) : Option String :=
  [("LENSREV_FAIL_FAST", "Yes"), ("LENSREV_PROFILE", "\t"), ("LENSREV_LOG_FORMAT", "text"),
    ("LENSREV_MIN_SEVERITY", "high")].lookup name

theorem overlay_follows_environment_of_job :
    let first := { standard with
      concurrency := 8, profile := some "thorough", minSeverity := some .blocker, logJson := true }
    let second := { standard with concurrency := 8, failFast := true, minSeverity := some .high }
    standard.overlay shell = .ok first ∧ first.overlay job = .ok second ∧
      standard.overlay (fun name => (job name).or (shell name)) = .ok second ∧
      second.overlay job = .ok second := by
  intro first second
  have hfirst : standard.overlay shell = .ok first := by decide
  have hsecond : first.overlay job = .ok second := by decide
  obtain ⟨-, -, -, hboth, -⟩ := overlay_follows_environment shell
  obtain ⟨-, -, -, -, hagain⟩ := overlay_follows_environment job
  exact ⟨hfirst, hsecond, hboth _ _ _ _ hfirst hsecond, hagain _ _ hsecond⟩

end Shell

end Settings

end ReviewPanel
