import ReviewPanel.Client.Scripted
import ReviewPanel.Proofs.Json.Drafts

/-! # How a client is scripted

A client is made step by step, and each step says one thing about one label: how it is answered, or after
how long. What holds in the end is what was said of either last. -/
namespace ReviewPanel

/-- A step in the making of a client. -/
inductive ScriptStep where
  /-- A reply, which may be an error or a crash. -/
  | reply (label : String) (answer : Ending Json ReviewError)
  | findings (label summary : String) (issues : List Issue)
  | latency (label : String) (ms : ℕ)

namespace ScriptStep

def apply (c : ScriptedClient) : ScriptStep → ScriptedClient
  | .reply label answer => c.withReply label answer
  | .findings label summary issues => c.withFindings label summary issues
  | .latency label ms => c.withLatency label ms

/-- The reply that a step sets for a label. -/
def replyFor? (label : String) : ScriptStep → Option (Ending Json ReviewError)
  | .reply l answer => if label = l then some answer else none
  | .findings l summary issues =>
    if label = l then some (.returned (Findings.encode summary issues)) else none
  | .latency _ _ => none

/-- The latency that a step sets for a label. -/
def latencyFor? (label : String) : ScriptStep → Option ℕ
  | .latency l ms => if label = l then some ms else none
  | _ => none

/-- The reply that was set last for a label: nothing was found, if there was none. -/
def lastReply (label : String) (steps : List ScriptStep) : Ending Json ReviewError :=
  (steps.filterMap (replyFor? label)).getLast?.getD (.returned (Findings.encode "No findings." []))

/-- The latency that was set last for a label: none, if there was none. -/
def lastLatency (label : String) (steps : List ScriptStep) : ℕ :=
  (steps.filterMap (latencyFor? label)).getLast?.getD 0

/-- What was said last, when one more thing is said first. -/
theorem getLast?_filterMap_cons {α β : Type} (f : α → Option β) (x : α) (xs : List α) (b : β) :
    ((x :: xs).filterMap f).getLast?.getD b = (xs.filterMap f).getLast?.getD ((f x).getD b) := by
  cases hx : f x with
  | none => rw [List.filterMap_cons_none hx, Option.getD_none]
  | some y => rw [List.filterMap_cons_some hx, List.getLast?_cons, Option.getD_some, Option.getD_some]

end ScriptStep

namespace ScriptedClient

open ScriptStep

/-- The client that is made by the steps. -/
def prepared (steps : List ScriptStep) : ScriptedClient := steps.foldl ScriptStep.apply .new

theorem lookup_setScript (label l : String) (s : Script) (scripts : List (String × Script)) :
    (setScript label s scripts).lookup l = if l = label then some s else scripts.lookup l := by
  induction scripts with
  | nil => exact Json.lookup_cons_eq l label s []
  | cons entry rest ih =>
    obtain ⟨k, t⟩ := entry
    rw [setScript]
    by_cases hk : k = label
    · rw [if_pos hk, hk, Json.lookup_cons_eq, Json.lookup_cons_eq]
      by_cases h : l = label
      · rw [if_pos h, if_pos h]
      · rw [if_neg h, if_neg h, if_neg h]
    · rw [if_neg hk, Json.lookup_cons_eq, Json.lookup_cons_eq, ih]
      by_cases h : l = k
      · have hl : l ≠ label := h ▸ hk
        rw [if_pos h, if_pos h, if_neg hl]
      · rw [if_neg h, if_neg h]

theorem script_setScript (c : ScriptedClient) (label l : String) (s : Script) :
    ({ c with scripts := setScript label s c.scripts } : ScriptedClient).script l =
      if l = label then s else c.script l := by
  rw [script, lookup_setScript]
  by_cases h : l = label
  · rw [if_pos h, if_pos h, Option.getD_some]
  · rw [if_neg h, if_neg h, script]

theorem script_withReply (c : ScriptedClient) (label l : String) (reply : Ending Json ReviewError) :
    (c.withReply label reply).script l =
      ⟨(if l = label then some reply else none).getD (c.script l).reply, (c.script l).latency⟩ := by
  rw [withReply, script_setScript]
  by_cases h : l = label
  · rw [if_pos h, if_pos h, Option.getD_some, h]
  · rw [if_neg h, if_neg h, Option.getD_none]

theorem script_withReply_self (c : ScriptedClient) (label : String) (reply : Ending Json ReviewError) :
    (c.withReply label reply).script label = { c.script label with reply } := by
  rw [script_withReply, if_pos rfl, Option.getD_some]

theorem script_withLatency (c : ScriptedClient) (label l : String) (ms : ℕ) :
    (c.withLatency label ms).script l =
      ⟨(c.script l).reply, (if l = label then some ms else none).getD (c.script l).latency⟩ := by
  rw [withLatency, script_setScript]
  by_cases h : l = label
  · rw [if_pos h, if_pos h, Option.getD_some, h]
  · rw [if_neg h, if_neg h, Option.getD_none]

/-- A step changes the half of the script that it speaks of, and only for its own label. -/
theorem script_apply (c : ScriptedClient) (step : ScriptStep) (label : String) :
    (step.apply c).script label =
      ⟨(step.replyFor? label).getD (c.script label).reply,
        (step.latencyFor? label).getD (c.script label).latency⟩ := by
  cases step with
  | reply l answer => exact script_withReply c l label answer
  | findings l summary issues => exact script_withReply c l label _
  | latency l ms => exact script_withLatency c l label ms

theorem script_foldl_apply (c : ScriptedClient) (steps : List ScriptStep) (label : String) :
    (steps.foldl ScriptStep.apply c).script label =
      ⟨(steps.filterMap (replyFor? label)).getLast?.getD (c.script label).reply,
        (steps.filterMap (latencyFor? label)).getLast?.getD (c.script label).latency⟩ := by
  induction steps generalizing c with
  | nil => rfl
  | cons step rest ih =>
    rw [List.foldl_cons, ih, script_apply, getLast?_filterMap_cons, getLast?_filterMap_cons]

theorem script_prepared (steps : List ScriptStep) (label : String) :
    (prepared steps).script label = ⟨lastReply label steps, lastLatency label steps⟩ :=
  script_foldl_apply .new steps label

/-- The steps make the scripts of a client, and leave the rest of it as it was. -/
theorem foldl_apply_eq (c : ScriptedClient) (steps : List ScriptStep) :
    steps.foldl ScriptStep.apply c = { c with scripts := (steps.foldl ScriptStep.apply c).scripts } := by
  induction steps generalizing c with
  | nil => rfl
  | cons step rest ih =>
    have hstep : step.apply c = { c with scripts := (step.apply c).scripts } := by cases step <;> rfl
    rw [List.foldl_cons, ih, hstep]

theorem prepared_eq (steps : List ScriptStep) :
    prepared steps = { new with scripts := (prepared steps).scripts } := foldl_apply_eq .new steps

end ScriptedClient

end ReviewPanel
