import ReviewPanel.Event.Wire
import ReviewPanel.Proofs.Event.Instants
import ReviewPanel.Proofs.Wire.TaggedReading

/-! # Events are read back

An event is read back from its JSON form if its numbers have 64 bits and its time has a year of four digits. -/
namespace ReviewPanel

open Json (Printable)
open Wire

/-! ## Parts of events -/

theorem LensId.reads_encode (id : LensId) : Reads LensId.decoder id.encode id := by
  have hnamed : (all.map fun v => (v.name, v)).lookup id.name = some id := by cases id <;> rfl
  exact reads_named hnamed

theorem ErrorCode.reads_encode (c : ErrorCode) : Reads ErrorCode.decoder c.encode c := by
  have hnamed : (all.map fun v => (v.name, v)).lookup c.name = some c := by cases c <;> rfl
  exact reads_named hnamed

theorem LensStatus.reads_encode (s : LensStatus) : Reads LensStatus.decoder s.encode s := by
  have hnamed : (all.map fun v => (v.name, v)).lookup s.name = some s := by cases s <;> rfl
  exact reads_named hnamed

theorem ReviewError.reads_encode (e : ReviewError) : Reads ReviewError.decoder e.encode e := by
  refine reads_record _ (((Fields.reads_pure ReviewError.mk).seq
    (Fields.reads_required rfl e.code.reads_encode)).seq
    (Fields.reads_required rfl (reads_text e.message))) ?_
  simp

theorem ReviewError.printable_encode (e : ReviewError) (n : Nat) : e.encode.Printable (n + 1) :=
  Printable.object (by simp [ErrorCode.encode])

theorem AgentRef.reads_encode (a : AgentRef) : Reads AgentRef.decoder a.encode a := by
  refine reads_record _ (((Fields.reads_pure AgentRef.mk).seq
    (Fields.reads_required rfl a.id.reads_encode)).seq
    (Fields.reads_required rfl (reads_text a.name))) ?_
  simp

theorem AgentRef.printable_encode (a : AgentRef) (n : Nat) : a.encode.Printable (n + 1) :=
  Printable.object (by simp [LensId.encode])

namespace LensStat

/-- All numbers of the statistics have 64 bits. -/
structure Fits (s : LensStat) : Prop where
  issueCount : s.issueCount < 2 ^ 64
  durationMs : ∀ ms, s.durationMs = some ms → ms < 2 ^ 64

def fields (s : LensStat) : List (String × Option Json) :=
  [("lensId", some s.lensId.encode), ("lensName", some (.text s.lensName)),
    ("status", some s.status.encode), ("issueCount", some (Json.nat s.issueCount)),
    ("errorCode", s.errorCode.map ErrorCode.encode), ("errorMessage", s.errorMessage.map .text),
    ("durationMs", s.durationMs.map Json.nat)]

theorem distinct_fields (s : LensStat) : (s.fields.map Prod.fst).Nodup := by
  simp [fields]

theorem reads_encode {s : LensStat} (h : s.Fits) : Reads decoder s.encode s := by
  have hlookup := lookup_present s.distinct_fields
  have hrequired := ((((Fields.reads_pure LensStat.mk).seq
    (Fields.reads_required (hlookup "lensId") s.lensId.reads_encode)).seq
    (Fields.reads_required (hlookup "lensName") (reads_text s.lensName))).seq
    (Fields.reads_required (hlookup "status") s.status.reads_encode)).seq
    (Fields.reads_required (hlookup "issueCount") (reads_count h.issueCount))
  have hoptional := ((hrequired.seq
    (Fields.reads_optional (hlookup "errorCode") (fun c _ => c.reads_encode) nofun)).seq
    (Fields.reads_optional (hlookup "errorMessage") (fun t _ => reads_text t) nofun)).seq
    (Fields.reads_optional (hlookup "durationMs") (fun ms hms => reads_millis (h.durationMs ms hms)) nofun)
  exact reads_ofFields _ hoptional s.distinct_fields

theorem printable_encode {s : LensStat} (h : s.Fits) (n : Nat) : s.encode.Printable (n + 1) := by
  have hvalues : ∀ f ∈ s.fields, ∀ j, f.2 = some j → j.Printable n := by
    simp [fields, LensId.encode, ErrorCode.encode, LensStatus.encode, Printable.nat h.issueCount]
    exact fun ms hms => Printable.nat (h.durationMs ms hms)
  exact printable_ofFields hvalues

end LensStat

/-! ## What happens -/

/-- A string, an integer of 64 bits, or nothing. -/
def IsArgument : Json → Prop
  | .null => True
  | .text _ => True
  | .number n => n.IsWord
  | _ => False

/-- The input of a tool: an object of arguments with its keys in order. -/
inductive ToolInput : Json → Prop where
  | object {entries : List (String × Json)} (ascending : entries.Pairwise fun a b => a.1 < b.1)
      (arguments : ∀ e ∈ entries, IsArgument e.2) : ToolInput (.object entries)

theorem IsArgument.ordered_eq {j : Json} (h : IsArgument j) : j.ordered = j := by
  cases j with
  | null => rfl
  | text s => rfl
  | number n => rfl
  | _ => exact h.elim

theorem IsArgument.printable {j : Json} (h : IsArgument j) (n : Nat) : j.Printable n := by
  cases j with
  | null => exact Printable.null
  | text s => exact Printable.text s
  | number value => exact Printable.word h
  | _ => exact h.elim

theorem ToolInput.ordered_eq {j : Json} (h : ToolInput j) : j.ordered = j := by
  cases h with
  | @object entries ascending arguments =>
    have heach : ∀ e ∈ entries, (e.1, e.2.ordered) = id e := by
      intro e he
      rw [(arguments e he).ordered_eq, id]
    rw [Json.ordered, Json.orderedEntries_eq_map, List.map_congr_left heach, List.map_id,
      Json.sorted_of_ascending ascending]

theorem ToolInput.printable {j : Json} (h : ToolInput j) (n : Nat) : j.Printable (n + 1) := by
  cases h with
  | object ascending arguments => exact Printable.object fun e he => (arguments e he).printable n

namespace EventKind

/-- All numbers of the event have 64 bits. -/
def Fits : EventKind → Prop
  | .orchestratorStart _ concurrency => concurrency < 2 ^ 64
  | .agentQueued _ position total => position < 2 ^ 64 ∧ total < 2 ^ 64
  | .agentStart _ => True
  | .agentThinking _ _ => True
  | .toolCall _ _ _ => True
  | .toolResult _ _ _ => True
  | .agentError _ _ => True
  | .agentComplete _ issueCount => issueCount < 2 ^ 64
  | .orchestratorComplete _ totalIssues lensStats filesAnalyzed =>
    totalIssues < 2 ^ 64 ∧ (∀ s ∈ lensStats, s.Fits) ∧ filesAnalyzed < 2 ^ 64

/-- A tool is given an object of arguments. -/
def HasToolInput : EventKind → Prop
  | .toolCall _ _ input => ToolInput input
  | _ => True

structure Regular (k : EventKind) : Prop where
  fits : k.Fits
  input : k.HasToolInput

/-- The fields of an event are read by the decoder that its name selects. -/
theorem exists_kind {k : EventKind} (h : k.Regular) : ∃ kind : Kind EventKind,
    (kinds.map fun kind => (kind.tag, kind)).lookup k.name = some kind ∧ kind.tag = k.name ∧
      kind.fields.Reads k.fields k := by
  cases k with
  | orchestratorStart agents concurrency =>
    refine ⟨_, rfl, rfl, ?_⟩
    exact ((Fields.reads_pure orchestratorStart).seq
      (Fields.reads_required rfl (reads_list fun a _ => a.reads_encode))).seq
      (Fields.reads_required rfl (reads_count h.fits))
  | agentQueued agent position total =>
    refine ⟨_, rfl, rfl, ?_⟩
    exact (((Fields.reads_pure agentQueued).seq
      (Fields.reads_required rfl agent.reads_encode)).seq
      (Fields.reads_required rfl (reads_count h.fits.1))).seq
      (Fields.reads_required rfl (reads_count h.fits.2))
  | agentStart agent =>
    refine ⟨_, rfl, rfl, ?_⟩
    exact (Fields.reads_pure agentStart).seq (Fields.reads_required rfl agent.reads_encode)
  | agentThinking agent thought =>
    refine ⟨_, rfl, rfl, ?_⟩
    exact ((Fields.reads_pure agentThinking).seq
      (Fields.reads_required rfl agent.reads_encode)).seq
      (Fields.reads_required rfl (reads_text thought))
  | toolCall agent tool input =>
    refine ⟨_, rfl, rfl, ?_⟩
    exact (((Fields.reads_pure toolCall).seq
      (Fields.reads_required rfl agent.reads_encode)).seq
      (Fields.reads_required rfl (reads_text tool))).seq
      (Fields.reads_required rfl (reads_any h.input.ordered_eq))
  | toolResult agent tool summary =>
    refine ⟨_, rfl, rfl, ?_⟩
    exact (((Fields.reads_pure toolResult).seq
      (Fields.reads_required rfl agent.reads_encode)).seq
      (Fields.reads_required rfl (reads_text tool))).seq
      (Fields.reads_required rfl (reads_text summary))
  | agentError agent error =>
    refine ⟨_, rfl, rfl, ?_⟩
    exact ((Fields.reads_pure agentError).seq
      (Fields.reads_required rfl agent.reads_encode)).seq
      (Fields.reads_required rfl error.reads_encode)
  | agentComplete agent issueCount =>
    refine ⟨_, rfl, rfl, ?_⟩
    exact ((Fields.reads_pure agentComplete).seq
      (Fields.reads_required rfl agent.reads_encode)).seq
      (Fields.reads_required rfl (reads_count h.fits))
  | orchestratorComplete summary totalIssues lensStats filesAnalyzed =>
    refine ⟨_, rfl, rfl, ?_⟩
    exact ((((Fields.reads_pure orchestratorComplete).seq
      (Fields.reads_required rfl (reads_text summary))).seq
      (Fields.reads_required rfl (reads_count h.fits.1))).seq
      (Fields.reads_required rfl (reads_list fun s hs => LensStat.reads_encode (h.fits.2.1 s hs)))).seq
      (Fields.reads_required rfl (reads_count h.fits.2.2))

theorem distinct_entries (k : EventKind) : (k.entries.map Prod.fst).Nodup := by
  cases k <;> simp [entries, fields]

theorem reads_encode {k : EventKind} (h : k.Regular) : Reads decoder k.encode k := by
  obtain ⟨kind, hnamed, htag, hfields⟩ := exists_kind h
  rw [← htag] at hnamed
  have hread := reads_tagged "internally tagged enum EventKind" hnamed hfields k.distinct_entries
  rw [htag] at hread
  exact hread

theorem printable_fields {k : EventKind} (h : k.Regular) : ∀ e ∈ k.fields, e.2.Printable 2 := by
  cases k with
  | orchestratorStart agents concurrency =>
    have hagents := Printable.list_map fun a (_ : a ∈ agents) => a.printable_encode 0
    have hconcurrency : (Json.nat concurrency).Printable 2 := Printable.nat h.fits
    simp [fields, hagents, hconcurrency]
  | agentQueued agent position total =>
    simp [fields, agent.printable_encode, Printable.nat h.fits.1, Printable.nat h.fits.2]
  | agentStart agent => simp [fields, agent.printable_encode]
  | agentThinking agent thought => simp [fields, agent.printable_encode]
  | toolCall agent tool input => simp [fields, agent.printable_encode, ToolInput.printable h.input]
  | toolResult agent tool summary => simp [fields, agent.printable_encode]
  | agentError agent error => simp [fields, agent.printable_encode, error.printable_encode]
  | agentComplete agent issueCount => simp [fields, agent.printable_encode, Printable.nat h.fits]
  | orchestratorComplete summary totalIssues lensStats filesAnalyzed =>
    have hstats := Printable.list_map fun s hs => LensStat.printable_encode (h.fits.2.1 s hs) 0
    simp [fields, hstats, Printable.nat h.fits.1, Printable.nat h.fits.2.2]

end EventKind

/-! ## Events -/

namespace Event

/-- The time of the event has a year of four digits, its numbers have 64 bits, and what a tool is given is an
object of arguments. -/
structure Regular (e : Event) : Prop where
  timestamp : e.timestamp.Regular
  kind : e.kind.Regular

def frontNames : List String := ["timestamp", "traceId", "spanId", "parentSpanId"]

/-- The fields that every event has: its time and its place. -/
def frontFields (e : Event) : List (String × Option Json) :=
  [("timestamp", some (.text (String.ofList e.timestamp.write))), ("traceId", some (.text e.trace.traceId)),
    ("spanId", some (.text e.trace.spanId)), ("parentSpanId", e.trace.parentSpanId.map .text)]

def entries (e : Event) : List (String × Json) := Json.present e.frontFields ++ e.kind.entries

theorem encode_eq (e : Event) : e.encode = .object e.entries := rfl

theorem distinct_frontFields (e : Event) : (e.frontFields.map Prod.fst).Nodup := by
  simp [frontFields]

theorem mem_frontNames {e : Event} {entry : String × Json} (h : entry ∈ Json.present e.frontFields) :
    entry.1 ∈ frontNames :=
  (keys_present e.frontFields).subset (List.mem_map_of_mem h)

/-- No kind of event has a field with the name of one that every event has. -/
theorem notMem_frontNames {k : EventKind} {entry : String × Json} (h : entry ∈ k.entries) :
    entry.1 ∉ frontNames := by
  revert entry
  cases k <;> simp [EventKind.entries, EventKind.fields, frontNames]

theorem distinct_entries (e : Event) : (e.entries.map Prod.fst).Nodup := by
  rw [entries, List.map_append, List.nodup_append]
  refine ⟨e.distinct_frontFields.sublist (keys_present _), e.kind.distinct_entries, ?_⟩
  rintro _ hfront _ hkind rfl
  obtain ⟨entry, hentry, hkey⟩ := List.mem_map.mp hkind
  obtain ⟨front, hmem, rfl⟩ := List.mem_map.mp hfront
  exact notMem_frontNames hentry (hkey ▸ mem_frontNames hmem)

theorem lookup_entries (e : Event) (key : String) (h : key ∈ frontNames) :
    e.entries.lookup key = (e.frontFields.lookup key).join := by
  have hnone : e.kind.entries.lookup key = none := by
    apply Json.lookup_eq_none_of_notMem
    intro hmem
    obtain ⟨entry, hentry, rfl⟩ := List.mem_map.mp hmem
    exact notMem_frontNames hentry h
  rw [entries, List.lookup_append, hnone, Option.or_none, lookup_present e.distinct_frontFields]

/-- The name of what happens stands under `type`. -/
theorem lookup_type (e : Event) : e.entries.lookup "type" = some (.text e.kind.name) := by
  have hnone : (Json.present e.frontFields).lookup "type" = none := by
    rw [lookup_present e.distinct_frontFields]
    rfl
  rw [entries, List.lookup_append, hnone, Option.none_or, EventKind.entries, Json.lookup_cons_eq, if_pos rfl]

theorem reads_encode {e : Event} (h : e.Regular) : Reads decoder e.encode e := by
  have htime : Reads instant (.text (String.ofList e.timestamp.write)) e.timestamp :=
    reads_parsed (Instant.parse_write h.timestamp) _ _
  have hrequired := (((Fields.reads_pure fun timestamp traceId spanId parentSpanId kind =>
    (⟨timestamp, ⟨traceId, spanId, parentSpanId⟩, kind⟩ : Event)).seq
    (Fields.reads_required (e.lookup_entries "timestamp" (by simp [frontNames])) htime)).seq
    (Fields.reads_required (e.lookup_entries "traceId" (by simp [frontNames])) (reads_text e.trace.traceId))).seq
    (Fields.reads_required (e.lookup_entries "spanId" (by simp [frontNames])) (reads_text e.trace.spanId))
  have hfields := hrequired.seq (Fields.reads_optional (e.lookup_entries "parentSpanId" (by simp [frontNames]))
    (fun t _ => reads_text t) nofun)
  exact reads_flattened _ (fun _ => mem_frontNames) (fun _ => notMem_frontNames) hfields
    (EventKind.reads_encode h.kind) e.distinct_entries

theorem printable_encode {e : Event} (h : e.Regular) : e.encode.Printable 3 := by
  rw [encode_eq]
  apply Printable.object
  intro entry hentry
  rcases List.mem_append.mp hentry with hfront | hkind
  · have hvalues : ∀ f ∈ e.frontFields, ∀ j, f.2 = some j → j.Printable 2 := by
      simp [frontFields]
    exact hvalues _ (mem_present.mp hfront) _ rfl
  · rcases List.mem_cons.mp hkind with rfl | hfield
    · exact Printable.text e.kind.name
    · exact EventKind.printable_fields h.kind entry hfield

end Event

end ReviewPanel
