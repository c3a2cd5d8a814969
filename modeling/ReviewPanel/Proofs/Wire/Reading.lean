import Mathlib.Data.List.Forall2
import ReviewPanel.Proofs.Json.Drafts
import ReviewPanel.Wire.Names
import ReviewPanel.Wire.Tagged

/-! # What decoders read

A decoder reads a value from a JSON value if it does so wherever the JSON value comes from. Records, lists and
records of several kinds read what their parts read. -/
namespace ReviewPanel.Wire

open Json (Draft)

variable {α β : Type}

/-- So many lists and objects may lie in each other. -/
def Source.Allows (n : Nat) : Source → Prop
  | .text depth => n ≤ depth
  | _ => True

theorem Source.Allows.mono {s : Source} {m n : Nat} (h : s.Allows n) (hle : m ≤ n) : s.Allows m := by
  cases s with
  | text depth => exact Nat.le_trans hle h
  | value => trivial
  | held => trivial

theorem Source.Allows.inside {s : Source} {n : Nat} (h : s.Allows (n + 1)) :
    ∃ inner, s.inside = .ok inner ∧ inner.Allows n := by
  match s with
  | .text (depth + 1) => exact ⟨.text depth, rfl, Nat.le_of_succ_le_succ h⟩
  | .text 0 => exact absurd h (Nat.not_succ_le_zero n)
  | .value => exact ⟨.value, rfl, trivial⟩
  | .held => exact ⟨.held, rfl, trivial⟩

/-- A decoder reads a value from a JSON value. -/
def Reads (decode : Decoder α) (j : Json) (v : α) : Prop :=
  ∀ s : Source, s.Allows j.height → decode s j.draft = .ok v

/-! ## Single values -/

theorem reads_text (s : String) : Reads text (.text s) s := fun _ _ => rfl

theorem reads_natural (width : String) {bound n : Nat} (h : n < bound) :
    Reads (natural width bound) (Json.nat n) n := by
  intro s _
  have hrange : 0 ≤ (n : Int) ∧ (n : Int) < bound := by omega
  exact if_pos hrange

theorem reads_count {n : Nat} (h : n < 2 ^ 64) : Reads count (Json.nat n) n := reads_natural _ h

theorem reads_millis {n : Nat} (h : n < 2 ^ 64) : Reads millis (Json.nat n) n := reads_natural _ h

theorem reads_bool (b : Bool) : Reads bool (.bool b) b := fun _ _ => rfl

theorem reads_word (w : UInt32) : Reads word (Json.ofWord w) w := by
  intro s hs
  have hread : natural "u32" (Nat.pow 2 32) s (Json.nat w.toNat).draft = .ok w.toNat :=
    reads_natural "u32" w.toNat_lt s hs
  rw [word, Json.ofWord, hread]
  exact congrArg Except.ok UInt32.ofNat_toNat

theorem reads_parsed {ε : Type} {parse : String → Except ε α} {s : String} {v : α} (h : parse s = .ok v)
    (expected : String) (misfit : ε → Misfit) : Reads (parsed parse expected misfit) (.text s) v := by
  intro source _
  simp only [Json.draft, parsed, h]

theorem reads_named {values : List α} {name : α → String} {v : α}
    (h : (values.map fun v => (name v, v)).lookup (name v) = some v) :
    Reads (named values name) (.text (name v)) v := by
  intro s _
  change choose _ (name v) = .ok v
  rw [choose, h]

theorem any_draft (j : Json) {s : Source} (h : s.Allows j.height) : any s j.draft = .ok j.ordered := by
  cases s with
  | text depth => rw [any, Json.toJson?_draft j (some depth) h]
  | value => simp only [any, Json.toJson?_draft j none trivial]
  | held => simp only [any, Json.toJson?_draft j none trivial]

theorem reads_any {j : Json} (h : j.ordered = j) : Reads any j j := by
  intro s hs
  rw [any_draft j hs, h]

theorem Reads.nullable {decode : Decoder α} {j : Json} {v : α} (h : Reads decode j v) (something : j ≠ .null) :
    Reads (nullable decode) j (some v) := by
  intro s hs
  have hread := h s hs
  cases j with
  | null => exact absurd rfl something
  | _ => exact congrArg (Except.map some) hread

/-- What there is not is written as null. -/
theorem reads_nullable {decode : Decoder α} {encode : α → Json} {o : Option α}
    (h : ∀ v, o = some v → Reads decode (encode v) v) (something : ∀ v, encode v ≠ .null) :
    Reads (nullable decode) ((o.map encode).getD .null) o := by
  cases o with
  | none => exact fun _ _ => rfl
  | some v => exact (h v rfl).nullable (something v)

/-! ## Lists -/

theorem items_draft {decode : Decoder α} {encode : α → Json} {s : Source} :
    ∀ vs : List α, (∀ v ∈ vs, Reads decode (encode v) v) → s.Allows (Json.heightItems (vs.map encode)) →
      items decode s (Json.draftItems (vs.map encode)) = .ok vs
  | [], _, _ => rfl
  | v :: vs, h, hs => by
    have hfirst := h v List.mem_cons_self s (hs.mono (Nat.le_max_left _ _))
    have hrest := items_draft vs (fun w hw => h w (List.mem_cons_of_mem v hw)) (hs.mono (Nat.le_max_right _ _))
    simp only [List.map_cons, Json.draftItems, items, hfirst, hrest]
    rfl

theorem reads_list {decode : Decoder α} {encode : α → Json} {vs : List α}
    (h : ∀ v ∈ vs, Reads decode (encode v) v) : Reads (list decode) (.list (vs.map encode)) vs := by
  intro s hs
  obtain ⟨inner, hinner, hallows⟩ := Source.Allows.inside hs
  simp only [Json.draft, list, hinner]
  change (items decode inner (Json.draftItems (vs.map encode)) >>= fun vs => Except.ok vs) = .ok vs
  rw [items_draft vs h hallows]
  rfl

/-! ## Records -/

/-- The drafts of entries. -/
def drafts (entries : List (String × Json)) : List (String × Draft) := entries.map fun e => (e.1, e.2.draft)

theorem draftEntries_eq (entries : List (String × Json)) :
    Json.draftEntries entries = (drafts entries).map fun (k, d) => (some k, d) := by
  induction entries with
  | nil => rfl
  | cons e rest ih => simp [Json.draftEntries, drafts, ih]

theorem legible_draftEntries (entries : List (String × Json)) :
    Draft.legible true (Json.draftEntries entries) = (drafts entries, true) := by
  rw [draftEntries_eq, Draft.legible_map_some]

theorem findEntry_drafts (key : String) (entries : List (String × Json)) (place : Nat) :
    (findEntry key place (drafts entries)).map Prod.snd = (entries.lookup key).map Json.draft := by
  induction entries generalizing place with
  | nil => rfl
  | cons e rest ih =>
    rw [Json.lookup_cons_eq]
    change (if e.1 = key then some (place, e.2.draft) else findEntry key (place + 1) (drafts rest)).map _ = _
    by_cases hkey : key = e.1
    · simp [hkey]
    · rw [if_neg (Ne.symm hkey), if_neg hkey]
      exact ih (place + 1)

/-- The fields of a record read a value from entries. -/
def Fields.Reads (fields : Fields α) (entries : List (String × Json)) (v : α) : Prop :=
  ∀ (s : Source) (i : Nat), (∀ e ∈ entries, s.Allows e.2.height) →
    fields.read s i (.entries (drafts entries)) = .ok v

namespace Fields

variable {entries : List (String × Json)}

theorem reads_pure (v : α) : (Fields.pure v).Reads entries v := fun _ _ _ => rfl

theorem Reads.seq {f : Fields (α → β)} {g : α → β} {field : Fields α} {v : α} (hf : f.Reads entries g)
    (hfield : field.Reads entries v) : (f.seq field).Reads entries (g v) := by
  intro s i hs
  have hfirst := hf s i hs
  have hlast := hfield s (i + f.names.length) hs
  simp only [Fields.seq, hfirst, hlast, Placed.both]

theorem mem_of_lookup {key : String} {j : Json} (h : entries.lookup key = some j) : (key, j) ∈ entries := by
  induction entries with
  | nil => cases h
  | cons e rest ih =>
    rw [Json.lookup_cons_eq] at h
    by_cases hkey : key = e.1
    · rw [if_pos hkey] at h
      obtain rfl := Option.some.inj h
      exact hkey ▸ List.mem_cons_self
    · rw [if_neg hkey] at h
      exact List.mem_cons_of_mem e (ih h)

theorem reads_field {key : String} {decode : Decoder α} {absent : Option α} {j : Json} {v : α}
    (h : entries.lookup key = some j) (hv : Wire.Reads decode j v) : (field key decode absent).Reads entries v := by
  intro s i hs
  have hfound := findEntry_drafts key entries 0
  rw [h] at hfound
  obtain ⟨⟨place, d⟩, hentry, rfl⟩ := Option.map_eq_some_iff.mp hfound
  simp only [field, hentry, hv s (hs _ (mem_of_lookup h))]
  rfl

theorem reads_absent {key : String} {decode : Decoder α} {v : α} (h : entries.lookup key = none) :
    (field key decode (some v)).Reads entries v := by
  intro s i _
  have hfound := findEntry_drafts key entries 0
  rw [h] at hfound
  simp only [field, Option.map_eq_none_iff.mp hfound]

theorem reads_required {key : String} {decode : Decoder α} {j : Json} {v : α} (h : entries.lookup key = some j)
    (hv : Wire.Reads decode j v) : (required key decode).Reads entries v := reads_field h hv

theorem reads_withDefault {key : String} {decode : Decoder α} {default : α} {j : Json} {v : α}
    (h : entries.lookup key = some j) (hv : Wire.Reads decode j v) :
    (withDefault key decode default).Reads entries v := reads_field h hv

/-- A field that may be absent is absent exactly if there is no value. -/
theorem reads_optional {key : String} {decode : Decoder α} {encode : α → Json} {o : Option α}
    (h : entries.lookup key = o.map encode) (hv : ∀ v, o = some v → Wire.Reads decode (encode v) v)
    (something : ∀ v, encode v ≠ .null) : (optional key decode).Reads entries o := by
  cases o with
  | none => exact reads_absent h
  | some v => exact reads_field h ((hv v rfl).nullable (something v))

end Fields

theorem fresh_cons {key : String} {seen : List String} {rest : List (String × Json)}
    (hkey : key ∉ rest.map Prod.fst) (hrest : ∀ e ∈ rest, e.1 ∉ seen) : ∀ e ∈ rest, e.1 ∉ key :: seen := by
  intro e he hmem
  rcases List.mem_cons.mp hmem with rfl | hmem
  · exact hkey (List.mem_map_of_mem he)
  · exact hrest e he hmem

theorem entryFault_drafts {entries : List (String × Json)} (distinct : (entries.map Prod.fst).Nodup)
    (known seen : List String) (fresh : ∀ e ∈ entries, e.1 ∉ seen) (place : Nat) :
    entryFault known seen place (drafts entries) = none := by
  induction entries generalizing seen place with
  | nil => rfl
  | cons e rest ih =>
    obtain ⟨hfirst, hrest⟩ := List.nodup_cons.mp distinct
    have hseen : seen.contains e.1 = false := by simpa using fresh e List.mem_cons_self
    have hlater : ∀ d ∈ rest, d.1 ∉ seen := fun d hd => fresh d (List.mem_cons_of_mem e hd)
    change entryFault known seen place ((e.1, e.2.draft) :: drafts rest) = none
    rw [entryFault, hseen, Json.skippable_draft]
    split
    · exact ih hrest (e.1 :: seen) (fresh_cons hfirst hlater) (place + 1)
    · exact ih hrest seen hlater (place + 1)

theorem Fields.Reads.ofEntries {fields : Fields α} {entries : List (String × Json)} {v : α}
    (h : fields.Reads entries v) (distinct : (entries.map Prod.fst).Nodup) {s : Source}
    (hs : ∀ e ∈ entries, s.Allows e.2.height) : fields.ofEntries s (drafts entries) true = .ok v := by
  have hfault := entryFault_drafts distinct fields.names [] (fun _ _ => List.not_mem_nil) 0
  simp only [Fields.ofEntries, hfault, h s 0 hs]
  rfl

section Present

variable {fields : List (String × Option Json)}

theorem mem_present {key : String} {j : Json} :
    (key, j) ∈ Json.present fields ↔ (key, some j) ∈ fields := by
  simp [Json.present]

theorem keys_present (fields : List (String × Option Json)) :
    ((Json.present fields).map Prod.fst).Sublist (fields.map Prod.fst) := by
  induction fields with
  | nil => exact List.Sublist.slnil
  | cons f rest ih =>
    obtain ⟨key, value⟩ := f
    cases value with
    | none => exact ih.cons key
    | some j => exact ih.cons_cons key

/-- A field is found exactly if it is present. -/
theorem lookup_present (distinct : (fields.map Prod.fst).Nodup) (key : String) :
    (Json.present fields).lookup key = (fields.lookup key).join := by
  induction fields with
  | nil => rfl
  | cons f rest ih =>
    obtain ⟨k, value⟩ := f
    obtain ⟨hfresh, hrest⟩ := List.nodup_cons.mp distinct
    rw [Json.lookup_cons_eq]
    cases value with
    | some j =>
      change ((k, j) :: Json.present rest).lookup key = _
      rw [Json.lookup_cons_eq, ih hrest]
      split <;> rfl
    | none =>
      change (Json.present rest).lookup key = _
      rw [ih hrest]
      split
      · next hkey => rw [hkey, Json.lookup_eq_none_of_notMem hfresh]; rfl
      · rfl

end Present

/-- A record is read from an object that has its fields. -/
theorem reads_record {fields : Fields α} {entries : List (String × Json)} {v : α} (name : String)
    (h : fields.Reads entries v) (distinct : (entries.map Prod.fst).Nodup) :
    Reads (record name fields) (.object entries) v := by
  intro s hs
  obtain ⟨inner, hinner, hallows⟩ := Source.Allows.inside hs
  have hentries : ∀ e ∈ entries, inner.Allows e.2.height :=
    fun e he => hallows.mono (Json.heightEntries_le.mp (Nat.le_refl _) e he)
  have hread := h.ofEntries distinct hentries
  simp only [Json.draft, record, hinner, bind, Except.bind, legible_draftEntries, hread, Except.mapError]

/-- A record is read from an object that has those of its fields which are present. -/
theorem reads_ofFields {fields : Fields α} {written : List (String × Option Json)} {v : α} (name : String)
    (h : fields.Reads (Json.present written) v) (distinct : (written.map Prod.fst).Nodup) :
    Reads (record name fields) (Json.ofFields written) v :=
  reads_record name h (distinct.sublist (keys_present written))

theorem printable_ofFields {written : List (String × Option Json)} {n : Nat}
    (h : ∀ f ∈ written, ∀ j, f.2 = some j → j.Printable n) : (Json.ofFields written).Printable (n + 1) :=
  Json.Printable.object fun _ he => h _ (mem_present.mp he) _ rfl

end ReviewPanel.Wire
