import Mathlib.Data.List.TakeWhile
import ReviewPanel.Proofs.Binary.UnitRange
import ReviewPanel.Proofs.Client.Scripting
import ReviewPanel.Proofs.Issue.Decoding
import ReviewPanel.Proofs.Review.GeneratedIds

/-! # What a lens reports of a reply

The entries of a reply are read one by one. Each of them that can be read is reported with an identifier and with
a confidence in range, whatever stands beside it, and what was reported once is reported unchanged. -/
namespace ReviewPanel

namespace Text

theorem isBlankText_eq_false {s : String} {c : Char} (hmem : c ∈ s.toList) (hc : isBlank c = false) :
    isBlankText s = false := by
  have hstart : c ∈ trimStart s.toList := by
    rw [← List.takeWhile_append_dropWhile (p := isBlank) (l := s.toList)] at hmem
    rcases List.mem_append.mp hmem with h | h
    · exact absurd (List.mem_takeWhile_imp h) (Bool.eq_false_iff.mp hc)
    · exact h
  rw [isBlankText, trim, trimEnd, List.isEmpty_reverse, Bool.eq_false_iff]
  intro hempty
  have hblank := List.dropWhile_eq_nil_iff.mp (List.isEmpty_iff.mp hempty) c (List.mem_reverse.mpr hstart)
  exact Bool.eq_false_iff.mp hc hblank

/-- A hexadecimal digit in lower case. -/
def IsHexDigit (c : Char) : Prop := ('0' ≤ c ∧ c ≤ '9') ∨ ('a' ≤ c ∧ c ≤ 'f')

instance : DecidablePred IsHexDigit :=
  fun c => inferInstanceAs (Decidable (('0' ≤ c ∧ c ≤ '9') ∨ ('a' ≤ c ∧ c ≤ 'f')))

theorem isHexDigit_of_mem_hexDigits {count n : ℕ} {c : Char} (h : c ∈ hexDigits count n) : IsHexDigit c := by
  induction count generalizing n with
  | zero => cases h
  | succ count ih =>
    rcases List.mem_append.mp h with h | h
    · exact ih h
    · obtain rfl := List.mem_singleton.mp h
      have hdigit : n % 16 < 16 := Nat.mod_lt n (by omega)
      generalize n % 16 = d at hdigit
      interval_cases d <;> decide

end Text

theorem Sha256.isHexDigit_of_mem_hexOfText {text : List Char} {c : Char} (h : c ∈ hexOfText text) :
    Text.IsHexDigit c := by
  obtain ⟨w, -, hc⟩ := List.mem_flatMap.mp h
  exact Text.isHexDigit_of_mem_hexDigits hc

namespace Issue

/-- An issue is what a lens reports of an entry of the reply. It may have an identifier of its own and another
confidence, and is the entry otherwise. -/
structure ReportedFrom (lens : LensId) (entry i : Issue) : Prop where
  others : i = { entry with id := i.id, confidence := i.confidence }
  named : Text.isBlankText i.id = false
  own_id : Text.isBlankText entry.id = false → i.id = entry.id
  generated_id : Text.isBlankText entry.id = true → ∃ digits : List Char,
    digits <+: i.fingerprint.toList ∧ digits.length = 12 ∧ (∀ c ∈ digits, Text.IsHexDigit c) ∧
      i.id = lens.name ++ "-" ++ String.ofList digits
  in_range : i.confidence.InUnitRange
  own_confidence : entry.confidence.InUnitRange → i.confidence = entry.confidence
  clamped : entry.confidence.isFinite = true → i.confidence.value = max 0 (min 1 entry.confidence.value)

theorem inUnitRange_clampConfidence (i : Issue) : i.clampConfidence.confidence.InUnitRange := by
  rw [clampConfidence]
  split
  · exact i.confidence.inUnitRange_clamp
  · exact Single.inUnitRange_half

theorem clampConfidence_of_inUnitRange {i : Issue} (h : i.confidence.InUnitRange) : i.clampConfidence = i := by
  rw [clampConfidence, if_pos h.finite, h.clamp_eq]

theorem identified_of_named {i : Issue} (named : Text.isBlankText i.id = false) (lens : LensId) :
    i.identified lens = i := if_neg (Bool.eq_false_iff.mp named)

theorem named_identified (lens : LensId) (i : Issue) : Text.isBlankText (i.identified lens).id = false := by
  cases hid : Text.isBlankText i.id with
  | false => rw [identified_of_named hid, hid]
  | true =>
    -- the dash is not blank
    rw [id_identified hid]
    exact Text.isBlankText_eq_false (c := '-') (by simp) (by decide)

end Issue

namespace Lens

theorem reportedFrom_reported (lens : Lens) (entry : Issue) :
    Issue.ReportedFrom lens.id entry (lens.reported entry) := by
  have hconfidence : (lens.reported entry).confidence = entry.clampConfidence.confidence := by
    rw [reported, Issue.identified]
    split <;> rfl
  have hfingerprint : (lens.reported entry).fingerprint = entry.fingerprint := by
    rw [reported, Issue.identified]
    split <;> rfl
  refine ⟨?_, Issue.named_identified lens.id _, fun named => ?_, fun unnamed => ?_, ?_, fun range => ?_,
    fun finite => ?_⟩
  · rw [reported, Issue.identified]
    split <;> rfl
  · rw [reported, Issue.identified_of_named (i := entry.clampConfidence) named]
    rfl
  · refine ⟨Issue.idDigits entry.fingerprintText, ?_, Issue.length_idDigits _, fun c hc => ?_,
      Issue.id_identified (i := entry.clampConfidence) unnamed lens.id⟩
    · rw [hfingerprint, Issue.fingerprint, String.toList_ofList]
      exact List.take_prefix 12 _
    · exact Sha256.isHexDigit_of_mem_hexOfText (List.mem_of_mem_take hc)
  · exact hconfidence ▸ entry.inUnitRange_clampConfidence
  · rw [hconfidence, Issue.clampConfidence_of_inUnitRange range]
  · rw [hconfidence, Issue.clampConfidence, if_pos finite]
    exact entry.confidence.value_clamp

/-- What was reported once is reported as it is. -/
theorem reported_reported (lens : Lens) (entry : Issue) :
    lens.reported (lens.reported entry) = lens.reported entry := by
  have h := lens.reportedFrom_reported entry
  rw [reported, Issue.clampConfidence_of_inUnitRange h.in_range, Issue.identified_of_named h.named]

end Lens

/-! ## The reply -/

namespace Findings

/-- The reply with a summary and with any values in place of its issues. -/
def reply (summary : String) (items : List Json) : Json :=
  .object [("issues", .list items), ("summary", .text summary)]

theorem encode_eq_reply (summary : String) (issues : List Issue) :
    encode summary issues = reply summary (issues.map fun i => i.encode.canonical) := by
  rw [encode, Json.canonical, Json.canonicalEntries_eq_map]
  simp only [List.map_cons, List.map_nil, Json.canonical, Json.canonicalItems_eq_map, List.map_map]
  have hne : ("issues" : String) ≠ "summary" := by decide
  have hlt : ("issues" : String) < "summary" := by decide
  simp only [Json.sorted, List.foldl_cons, List.foldl_nil, Json.insert, if_neg hne, if_pos hlt]
  rfl

theorem decode_reply (summary : String) (items : List Json) :
    Wire.decode decoder (reply summary items) = .ok ⟨summary, items.map Json.ordered⟩ := by
  let entries : List (String × Json) := [("issues", .list items), ("summary", .text summary)]
  have hsummary : (Wire.Fields.withDefault "summary" Wire.text "").Reads entries summary :=
    Wire.Fields.reads_text_withDefault rfl
  have hissues : (Wire.Fields.withDefault "issues" (Wire.list Wire.any) []).Reads entries
      (items.map Json.ordered) := Wire.Fields.reads_withDefault rfl (Wire.reads_list_any items)
  have hfields := ((Wire.Fields.reads_pure Findings.mk).seq hsummary).seq hissues
  exact Wire.reads_record "struct LensFindings" hfields (by simp [entries]) .value trivial

end Findings

namespace Issue

/-- What the model wrote as an entry of its reply, if it is an issue. The keys of objects are put in order when
the reply is taken apart. -/
def read? (j : Json) : Option Issue := (Wire.decode decoder j.ordered).toOption

/-- An issue that is handed on is read back, unless its confidence is no finite number. -/
theorem read?_encode (i : Issue) :
    read? i.encode.canonical = Option.guard (fun i => i.confidence.isFinite) i := by
  rw [read?, Json.ordered_canonical, Option.guard]
  cases hfinite : i.confidence.isFinite with
  | true =>
    rw [decode_canonical hfinite]
    rfl
  | false =>
    obtain ⟨e, he⟩ := decode_canonical_of_infinite hfinite
    rw [he]
    rfl

/-- An entry is read or it is not. -/
theorem length_filterMap_read? (items : List Json) :
    (items.filterMap read?).length + (items.countP fun j => (read? j).isNone) = items.length := by
  rw [List.length_filterMap_eq_countP, List.length_eq_countP_add_countP fun j => (read? j).isSome]
  congr 1
  refine List.countP_congr fun j _ => ?_
  cases read? j <;> simp

theorem filterMap_read?_encode (issues : List Issue) :
    (issues.map fun i => i.encode.canonical).filterMap read? =
      issues.filter fun i => i.confidence.isFinite := by
  rw [List.filterMap_map, ← List.filterMap_eq_filter]
  exact List.filterMap_congr fun i _ => i.read?_encode

end Issue

theorem Lens.malformedDropped_report (lens : Lens) (durationMs : ℕ) (findings : Findings) :
    (lens.report durationMs findings).malformedDropped =
      findings.issues.countP fun j => (Wire.decode Issue.decoder j).toOption.isNone := by
  change (lens.readIssues findings.issues).countP (fun r => !r.isOk) = _
  rw [readIssues, List.countP_map]
  refine List.countP_congr fun j _ => ?_
  rw [Function.comp_apply, Issue.ofReply]
  cases Wire.decode Issue.decoder j <;> exact Iff.rfl

/-! ## The trip of a reply -/

namespace Lens

variable (lens : Lens) (diff : Diff) (context : ReviewContext) (trace : TraceContext) (s : Session)

/-- A lens returns a report of a reply, whatever the entries of the reply are: it has the entries that can be
read, and counts the others. -/
theorem run_withReply (counted : overflows diff context = false) (summary : String) (items : List Json) :
    ∃ r, (lens.run diff context trace
        { s with client := s.client.withReply lens.id.name (.returned (Findings.reply summary items)) }).1 =
          .returned r ∧
      r.summary = Text.trimmed summary ∧
      r.issues = (items.filterMap Issue.read?).map lens.reported ∧
      r.malformedDropped = items.countP fun j => (Issue.read? j).isNone := by
  rw [fst_run_of_not_overflows counted, ending, endingAfter, ScriptedClient.script_withReply_self]
  simp only [conclude, Findings.decode_reply]
  refine ⟨_, rfl, rfl, ?_, ?_⟩
  · rw [issues_report, List.filterMap_map]
    rfl
  · rw [malformedDropped_report, List.countP_map]
    rfl

/-- A lens reads the entries of a reply independently of each other. Its report of two lists of any values, one
behind the other, has the issues of the first and then those of the second, and the entries that are dropped add
up. Every entry is reported or dropped, and the issues are in their order those that can be read, with nothing
but a missing identifier and a confidence out of range replaced. There is no report of any reply only if the lens
breaks off at its look at the focus. -/
theorem report_of_appended_entries (summary : String) (xs ys : List Json) :
    let answered (items : List Json) := (lens.run diff context trace
      { s with client := s.client.withReply lens.id.name (.returned (Findings.reply summary items)) }).1
    (overflows diff context = true → ∀ items, answered items = .crashed .overflow) ∧
    (overflows diff context = false → ∃ first second both, answered xs = .returned first ∧
      answered ys = .returned second ∧ answered (xs ++ ys) = .returned both ∧
      both.issues = first.issues ++ second.issues ∧
      both.malformedDropped = first.malformedDropped + second.malformedDropped ∧
      both.issues.length + both.malformedDropped = (xs ++ ys).length ∧
      List.Forall₂ (Issue.ReportedFrom lens.id) ((xs ++ ys).filterMap Issue.read?) both.issues) := by
  intro answered
  refine ⟨fun uncounted items => fst_run_of_overflows uncounted lens trace _, fun counted => ?_⟩
  obtain ⟨first, hfirst, -, hissues, hdropped⟩ := lens.run_withReply diff context trace s counted summary xs
  obtain ⟨second, hsecond, -, hissues', hdropped'⟩ := lens.run_withReply diff context trace s counted summary ys
  obtain ⟨both, hboth, -, hall, hnone⟩ := lens.run_withReply diff context trace s counted summary (xs ++ ys)
  refine ⟨first, second, both, hfirst, hsecond, hboth, ?_, ?_, ?_, ?_⟩
  · rw [hall, hissues, hissues', List.filterMap_append, List.map_append]
  · rw [hnone, hdropped, hdropped', List.countP_append]
  · rw [hall, hnone, List.length_map, Issue.length_filterMap_read?]
  · rw [hall, List.forall₂_map_right_iff, List.forall₂_same]
    exact fun entry _ => lens.reportedFrom_reported entry

/-- An entry that cannot be read stands ahead of one that can. That the focus is on all lines does no harm if the
change does not have the file. -/
theorem report_of_appended_entries_of_two :
    let lens := ofId .security
    let context : ReviewContext := ⟨none, some ⟨"lib.rs", some 0, some 4294967295⟩⟩
    let leak : Json := (Issue.new .high "src/pool.rs" "Connection leak").encode.canonical
    let answered (items : List Json) := (lens.run (.ofFiles []) context ⟨"", "", none⟩
      (.new (ScriptedClient.new.withReply "security" (.returned (Findings.reply "Two." items))) .counting)).1
    overflows (.ofFiles []) context = false ∧ ∃ first second both, answered [.null] = .returned first ∧
      answered [leak] = .returned second ∧ answered [.null, leak] = .returned both ∧
      both.issues = first.issues ++ second.issues ∧ both.issues.length + both.malformedDropped = 2 := by
  intro lens context leak answered
  have counted : overflows (.ofFiles []) context = false := rfl
  obtain ⟨first, second, both, hfirst, hsecond, hboth, hissues, -, hlength, -⟩ :=
    (report_of_appended_entries lens (.ofFiles []) context ⟨"", "", none⟩ (.new .new .counting) "Two." [.null]
      [leak]).2 counted
  exact ⟨counted, first, second, both, hfirst, hsecond, hboth, hissues, hlength⟩

/-- There is no report of a reply if the change has the file and the focus is on all its lines. -/
theorem no_report_of_widest_focus :
    let diff : Diff := .ofFiles [⟨"lib.rs", none, .modify, [], "", 1, 0⟩]
    let context : ReviewContext := ⟨none, some ⟨"lib.rs", some 0, some 4294967295⟩⟩
    let answered (items : List Json) := ((ofId .tests).run diff context ⟨"", "", none⟩
      (.new (ScriptedClient.new.withReply "tests" (.returned (Findings.reply "Two." items))) .counting)).1
    answered [.null] = .crashed (.message "attempt to add with overflow") ∧
      ¬ ∃ report, answered [.null] = .returned report := by
  intro diff context answered
  have hcrash : answered [.null] = .crashed (.message "attempt to add with overflow") :=
    fst_run_of_overflows rfl _ _ _
  rw [hcrash]
  exact ⟨rfl, fun ⟨_, hreport⟩ => nomatch hreport⟩

/-- A lens reports the findings whose confidence is a finite number, and drops the others. -/
theorem run_withFindings (counted : overflows diff context = false) (summary : String) (issues : List Issue) :
    ∃ r, (lens.run diff context trace
        { s with client := s.client.withFindings lens.id.name summary issues }).1 = .returned r ∧
      r.summary = Text.trimmed summary ∧
      r.issues = (issues.filter fun i => i.confidence.isFinite).map lens.reported ∧
      r.malformedDropped = issues.countP fun i => !i.confidence.isFinite := by
  rw [ScriptedClient.withFindings, Findings.encode_eq_reply]
  obtain ⟨r, hreturned, hsummary, hissues, hdropped⟩ :=
    lens.run_withReply diff context trace s counted summary (issues.map fun i => i.encode.canonical)
  refine ⟨r, hreturned, hsummary, hissues.trans (by rw [Issue.filterMap_read?_encode]), hdropped.trans ?_⟩
  rw [List.countP_map]
  refine List.countP_congr fun i _ => ?_
  simp [Issue.read?_encode]

variable {issues : List Issue}

theorem filter_isFinite (finite : ∀ i ∈ issues, i.confidence.isFinite = true) :
    (issues.filter fun i => i.confidence.isFinite) = issues ∧
      (issues.countP fun i => !i.confidence.isFinite) = 0 := by
  refine ⟨List.filter_eq_self.mpr finite, List.countP_eq_zero.mpr fun i hi => ?_⟩
  rw [finite i hi]
  exact Bool.false_ne_true

/-- Findings survive the trip through a lens: it reports them in their order with identifiers and with their
confidence in range, and drops those whose confidence is no finite number, and no others. What was reported is
reported unchanged if it makes the trip again. Only a lens that breaks off at its look at the focus loses them
all. -/
theorem findings_survive (summary : String) (issues : List Issue) :
    let trip (summary : String) (issues : List Issue) := (lens.run diff context trace
      { s with client := s.client.withFindings lens.id.name summary issues }).1
    let readable := issues.filter fun i => i.confidence.isFinite
    (overflows diff context = true → trip summary issues = .crashed .overflow) ∧
    (overflows diff context = false → ∃ r, trip summary issues = .returned r ∧
      r.summary = Text.trimmed summary ∧
      r.issues = readable.map (fun i => i.clampConfidence.identified lens.id) ∧
      List.Forall₂ (Issue.ReportedFrom lens.id) readable r.issues ∧
      r.malformedDropped = issues.countP (fun i => !i.confidence.isFinite) ∧
      ((∀ i ∈ issues, i.confidence.isFinite = true) → readable = issues ∧ r.malformedDropped = 0) ∧
      ∀ summary', ∃ again, trip summary' r.issues = .returned again ∧
        again.issues = r.issues ∧ again.malformedDropped = 0) := by
  intro trip readable
  refine ⟨fun uncounted => fst_run_of_overflows uncounted lens trace _, fun counted => ?_⟩
  obtain ⟨r, hreturned, hsummary, hissues, hdropped⟩ :=
    lens.run_withFindings diff context trace s counted summary issues
  refine ⟨r, hreturned, hsummary, hissues, ?_, hdropped, fun finite => ?_, fun summary' => ?_⟩
  · rw [hissues, List.forall₂_map_right_iff, List.forall₂_same]
    exact fun entry _ => lens.reportedFrom_reported entry
  · rw [hdropped]
    exact filter_isFinite finite
  · have hfinite : ∀ i ∈ r.issues, i.confidence.isFinite = true := by
      rw [hissues]
      exact List.forall_mem_map.mpr fun entry _ => (lens.reportedFrom_reported entry).in_range.finite
    obtain ⟨again, hagain, -, hsame, hnone⟩ :=
      lens.run_withFindings diff context trace s counted summary' r.issues
    obtain ⟨hall, hzero⟩ := filter_isFinite hfinite
    refine ⟨again, hagain, ?_, hnone.trans hzero⟩
    rw [hsame, hall, hissues, List.map_map]
    refine List.map_congr_left fun entry _ => ?_
    rw [Function.comp_apply, reported_reported]

/-- Confidences of one and a half and of minus zero, an identifier of blanks and a piece of evidence make the
trip. -/
theorem findings_survive_of_two :
    let leak := { Issue.new .high "./src/pool.rs" "Connection leak!" with confidence := ⟨0x3FC00000⟩, id := " \t" }
    let race := { (leak.withLines 9 3) with
      id := "own", confidence := ⟨0x80000000⟩, evidence := [⟨"code", "", "", some "", "take();"⟩] }
    let s := Session.new (ScriptedClient.new.withFindings "security" " Two. " [leak, race]) .counting
    ∃ r, ((Lens.ofId .security).run (.ofFiles []) ⟨none, none⟩ ⟨"", "", none⟩ s).1 = .returned r ∧
      r.summary = "Two." ∧ r.malformedDropped = 0 ∧
      r.issues = [{ leak with id := (leak.identified .security).id, confidence := .one }, race] := by
  intro leak race s
  obtain ⟨r, hreturned, hsummary, hissues, -, -, hfinite, -⟩ :=
    (findings_survive (Lens.ofId .security) (.ofFiles []) ⟨none, none⟩ ⟨"", "", none⟩
      (Session.new .new .counting) " Two. " [leak, race]).2 rfl
  obtain ⟨hreadable, hdropped⟩ := hfinite (by decide)
  rw [hreadable] at hissues
  exact ⟨r, hreturned, hsummary.trans (by decide), hdropped, hissues.trans (by decide +kernel)⟩

/-- A finding is lost if the change has the file in focus and the focus is on all its lines, but not without a
focus. -/
theorem findings_lost_in_widest_focus :
    let leak := (Issue.new .high "lib.rs" "Connection leak").withLines 10 12
    let diff : Diff := .ofFiles [⟨"lib.rs", none, .modify, [], "", 1, 0⟩]
    let trip (focus : Option FocusTarget) := ((ofId .tests).run diff ⟨none, focus⟩ ⟨"", "", none⟩
      (.new (ScriptedClient.new.withFindings "tests" "One." [leak]) .counting)).1
    leak.confidence.isFinite = true ∧
      trip (some ⟨"lib.rs", some 0, some 4294967295⟩) = .crashed (.message "attempt to add with overflow") ∧
      ∃ r, trip none = .returned r ∧ r.issues.map (·.title) = ["Connection leak"] := by
  intro leak diff trip
  refine ⟨by decide, fst_run_of_overflows rfl _ _ _, ?_⟩
  obtain ⟨r, hreturned, -, hissues, -⟩ := (ofId .tests).run_withFindings diff ⟨none, none⟩ ⟨"", "", none⟩
    (.new .new .counting) rfl "One." [leak]
  refine ⟨r, hreturned, ?_⟩
  rw [hissues]
  decide +kernel

end Lens

end ReviewPanel
