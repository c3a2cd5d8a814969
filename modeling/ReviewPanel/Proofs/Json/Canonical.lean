import ReviewPanel.Proofs.Wire.Reading

/-! # Values as they are handed on

In a canonical value the keys of every object ascend, so putting its keys in order once more changes nothing.
The fields of a record are found in it as they were written, with their own values made canonical. -/
namespace ReviewPanel.Json

section Sorted

variable {α β : Type} {es : List (String × α)}

/-- The entries are in the order of their keys, and no key comes twice. -/
def Ascending (es : List (String × α)) : Prop := es.Pairwise fun a b => a.1 < b.1

theorem Ascending.distinct (h : Ascending es) : (es.map Prod.fst).Nodup :=
  List.pairwise_map.mpr (h.imp fun hlt => hlt.ne)

theorem mem_of_mem_insert {key : String} {v : α} {e : String × α} (h : e ∈ insert key v es) :
    e = (key, v) ∨ e ∈ es := by
  induction es with
  | nil => exact .inl (List.mem_singleton.mp h)
  | cons first rest ih =>
    rw [insert] at h
    split at h
    · exact (List.mem_cons.mp h).imp_right (List.mem_cons_of_mem first)
    · split at h
      · exact List.mem_cons.mp h
      · rcases List.mem_cons.mp h with rfl | h
        · exact .inr List.mem_cons_self
        · exact (ih h).imp_right (List.mem_cons_of_mem first)

theorem Ascending.insert (h : Ascending es) (key : String) (v : α) : Ascending (insert key v es) := by
  induction es with
  | nil => exact List.pairwise_singleton _ _
  | cons first rest ih =>
    obtain ⟨hfirst, hrest⟩ := List.pairwise_cons.mp h
    rw [Json.insert]
    split
    · next heq =>
      subst heq
      exact List.pairwise_cons.mpr ⟨hfirst, hrest⟩
    · next hne =>
      split
      · next hlt =>
        refine List.pairwise_cons.mpr ⟨fun e he => ?_, h⟩
        rcases List.mem_cons.mp he with rfl | he
        · exact hlt
        · exact hlt.trans (hfirst e he)
      · next hge =>
        refine List.pairwise_cons.mpr ⟨fun e he => ?_, ih hrest⟩
        rcases mem_of_mem_insert he with rfl | he
        · exact lt_of_le_of_ne (not_lt.mp hge) (Ne.symm hne)
        · exact hfirst e he

theorem ascending_foldl_insert {into : List (String × α)} (h : Ascending into) (es : List (String × α)) :
    Ascending (es.foldl (fun es e => Json.insert e.1 e.2 es) into) := by
  induction es generalizing into with
  | nil => exact h
  | cons e rest ih => exact ih (h.insert e.1 e.2)

theorem ascending_sorted (es : List (String × α)) : Ascending (sorted es) := ascending_foldl_insert .nil es

theorem sorted_sorted (es : List (String × α)) : sorted (sorted es) = sorted es :=
  sorted_of_ascending (ascending_sorted es)

/-! The order looks at the keys alone. -/

theorem insert_map (g : α → β) (key : String) (v : α) (es : List (String × α)) :
    insert key (g v) (es.map fun e => (e.1, g e.2)) = (insert key v es).map fun e => (e.1, g e.2) := by
  induction es with
  | nil => rfl
  | cons first rest ih =>
    rw [List.map_cons, insert, insert, ih]
    split
    · rfl
    · split <;> rfl

theorem foldl_insert_map (g : α → β) (es into : List (String × α)) :
    (es.map fun e => (e.1, g e.2)).foldl (fun es e => insert e.1 e.2 es) (into.map fun e => (e.1, g e.2)) =
      (es.foldl (fun es e => insert e.1 e.2 es) into).map fun e => (e.1, g e.2) := by
  induction es generalizing into with
  | nil => rfl
  | cons e rest ih =>
    rw [List.map_cons, List.foldl_cons, List.foldl_cons, insert_map g e.1 e.2 into]
    exact ih _

theorem sorted_map (g : α → β) (es : List (String × α)) :
    sorted (es.map fun e => (e.1, g e.2)) = (sorted es).map fun e => (e.1, g e.2) :=
  foldl_insert_map g es []

end Sorted

theorem canonicalItems_eq_map (items : List Json) : canonicalItems items = items.map canonical := by
  induction items with
  | nil => rfl
  | cons j rest ih => rw [canonicalItems, ih, List.map_cons]

mutual
/-- A canonical value has its keys in order. -/
theorem ordered_canonical : ∀ j : Json, j.canonical.ordered = j.canonical
  | .null => rfl
  | .bool _ => rfl
  | .number (.integer _) => rfl
  | .number (.single _) => rfl
  | .number (.double _) => rfl
  | .text _ => rfl
  | .list items => by rw [canonical, ordered, orderedItems_canonicalItems items]
  | .object entries => by
    rw [canonical, ordered, orderedEntries_eq_map, ← sorted_map, ← orderedEntries_eq_map,
      orderedEntries_canonicalEntries entries, sorted_sorted]

theorem orderedItems_canonicalItems : ∀ items : List Json,
    orderedItems (canonicalItems items) = canonicalItems items
  | [] => rfl
  | j :: rest => by rw [canonicalItems, orderedItems, ordered_canonical j, orderedItems_canonicalItems rest]

theorem orderedEntries_canonicalEntries : ∀ entries : List (String × Json),
    orderedEntries (canonicalEntries entries) = canonicalEntries entries
  | [] => rfl
  | (k, j) :: rest => by
    rw [canonicalEntries, orderedEntries, ordered_canonical j, orderedEntries_canonicalEntries rest]
end

theorem canonicalEntries_eq_map (entries : List (String × Json)) :
    canonicalEntries entries = entries.map fun e => (e.1, e.2.canonical) := by
  induction entries with
  | nil => rfl
  | cons e rest ih => rw [canonicalEntries, ih, List.map_cons]

theorem lookup_canonicalEntries (k : String) (entries : List (String × Json)) :
    (canonicalEntries entries).lookup k = (entries.lookup k).map canonical := by
  induction entries with
  | nil => rfl
  | cons e rest ih =>
    obtain ⟨key, j⟩ := e
    rw [canonicalEntries, lookup_cons_eq, lookup_cons_eq, ih]
    split <;> rfl

/-- The entries of the canonical value of a record. -/
def handed (fields : List (String × Option Json)) : List (String × Json) :=
  sorted (canonicalEntries (present fields))

/-- A field is found in the canonical value exactly if it is present. -/
theorem lookup_handed {fields : List (String × Option Json)} (distinct : (fields.map Prod.fst).Nodup)
    (key : String) : (handed fields).lookup key = (fields.lookup key).join.map canonical := by
  have hdistinct : ((canonicalEntries (present fields)).map Prod.fst).Nodup := by
    rw [canonicalEntries_eq_map, List.map_map]
    exact distinct.sublist (Wire.keys_present fields)
  rw [handed, lookup_sorted hdistinct, lookup_canonicalEntries, Wire.lookup_present distinct]

/-- Values that are canonical already, or are not there, stay as they are. -/
theorem map_canonical_map {α : Type} {encode : α → Json} (h : ∀ v, (encode v).canonical = encode v)
    (o : Option α) : (o.map encode).map canonical = o.map encode := by
  cases o with
  | none => rfl
  | some v => exact congrArg some (h v)

end ReviewPanel.Json

namespace ReviewPanel.Wire

/-- A record is read from its canonical value. -/
theorem reads_handed {α : Type} {fields : Fields α} {written : List (String × Option Json)} {v : α}
    (name : String) (h : fields.Reads (Json.handed written) v) :
    Reads (record name fields) (Json.ofFields written).canonical v :=
  reads_record name h (Json.ascending_sorted _).distinct

theorem items_any {items : List Json} {s : Source} (h : s.Allows (Json.heightItems items)) :
    Wire.items any s (Json.draftItems items) = .ok (items.map Json.ordered) := by
  induction items with
  | nil => rfl
  | cons j rest ih =>
    have hfirst := any_draft j (h.mono (Nat.le_max_left _ _))
    have hrest := ih (h.mono (Nat.le_max_right _ _))
    simp only [Json.draftItems, Wire.items, hfirst, hrest, List.map_cons]
    rfl

/-- Any values are read from a list, with the keys of their objects in order. -/
theorem reads_list_any (items : List Json) : Reads (list any) (.list items) (items.map Json.ordered) := by
  intro s hs
  obtain ⟨inner, hinner, hallows⟩ := Source.Allows.inside hs
  simp only [Json.draft, list, hinner]
  change (Wire.items any inner (Json.draftItems items) >>= fun vs => Except.ok vs) = _
  rw [items_any hallows]
  rfl

/-! ## What is refused -/

variable {α β : Type} {entries : List (String × Json)}

/-- The fields of a record cannot be read from some entries. -/
def Fields.Refuses (fields : Fields α) (entries : List (String × Json)) : Prop :=
  ∀ (s : Source) (i : Nat), ∃ e, fields.read s i (.entries (drafts entries)) = .error e

namespace Fields

theorem Refuses.seq_left {f : Fields (α → β)} (h : f.Refuses entries) (g : Fields α) :
    (f.seq g).Refuses entries := by
  intro s i
  obtain ⟨e, he⟩ := h s i
  simp only [seq, he]
  cases g.read s (i + f.names.length) (.entries (drafts entries)) with
  | ok v => exact ⟨e, rfl⟩
  | error e' => exact ⟨_, rfl⟩

theorem Refuses.seq_right {g : Fields α} (h : g.Refuses entries) (f : Fields (α → β)) :
    (f.seq g).Refuses entries := by
  intro s i
  obtain ⟨e, he⟩ := h s (i + f.names.length)
  simp only [seq, he]
  cases f.read s i (.entries (drafts entries)) with
  | ok v => exact ⟨e, rfl⟩
  | error e' => exact ⟨_, rfl⟩

/-- A field is refused if what stands in its place cannot be read. -/
theorem refuses_field {key : String} {decode : Decoder α} {absent : Option α} {j : Json}
    (h : entries.lookup key = some j) (hj : ∀ s : Source, ∃ e, decode s j.draft = .error e) :
    (field key decode absent).Refuses entries := by
  intro s i
  have hfound := findEntry_drafts key entries 0
  rw [h] at hfound
  obtain ⟨⟨place, d⟩, hentry, rfl⟩ := Option.map_eq_some_iff.mp hfound
  obtain ⟨e, he⟩ := hj s
  simp only [field, hentry, he]
  exact ⟨_, rfl⟩

end Fields

theorem decode_record_of_refuses {fields : Fields α} (name : String) (h : fields.Refuses entries) :
    ∃ e, decode (record name fields) (.object entries) = .error e := by
  obtain ⟨e, he⟩ := h .value 0
  simp only [decode, Json.draft, record, Source.inside, bind, Except.bind, legible_draftEntries,
    Fields.ofEntries, he]
  split <;> exact ⟨_, rfl⟩

end ReviewPanel.Wire
