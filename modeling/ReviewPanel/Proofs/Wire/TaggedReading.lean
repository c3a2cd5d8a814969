import ReviewPanel.Proofs.Wire.Reading

/-! # What decoders of several kinds read

A tagged record is read as the kind that its tag names, and a flattened record as its own fields together
with the value of the other entries. Both are read from the text of a value as well. -/
namespace ReviewPanel.Wire

open Json (Draft)

variable {α β : Type}

/-! ## Tagged records -/

theorem takeTag_drafts {key : String} {kinds : List (Kind α)} {found : Option (Kind α)} {s : Source}
    {entries : List (String × Json)} (untagged : key ∉ entries.map Prod.fst)
    (hs : ∀ e ∈ entries, s.Allows e.2.height) (kept : List (String × Draft)) :
    takeTag key kinds s found kept (drafts entries) = .ok (found, kept.reverse ++ drafts entries) := by
  induction entries generalizing kept with
  | nil => exact congrArg (fun ds => Except.ok (found, ds)) (List.append_nil _).symm
  | cons e rest ih =>
    rw [List.map_cons, List.mem_cons, not_or] at untagged
    have hvalue := any_draft e.2 (hs e List.mem_cons_self)
    have hrest := ih untagged.2 (fun d hd => hs d (List.mem_cons_of_mem e hd)) ((e.1, e.2.draft) :: kept)
    change takeTag key kinds s found kept ((e.1, e.2.draft) :: drafts rest) = _
    rw [takeTag, if_neg (Ne.symm untagged.1), hvalue]
    change takeTag key kinds s found ((e.1, e.2.draft) :: kept) (drafts rest) = _
    rw [hrest, List.reverse_cons, List.append_assoc]
    rfl

/-- A tagged record is read from an object that begins with the tag and has the fields of its kind. -/
theorem reads_tagged {key : String} {kinds : List (Kind α)} {kind : Kind α}
    {entries : List (String × Json)} {v : α} (name : String)
    (named : (kinds.map fun k => (k.tag, k)).lookup kind.tag = some kind) (h : kind.fields.Reads entries v)
    (distinct : (key :: entries.map Prod.fst).Nodup) :
    Reads (tagged name key kinds) (.object ((key, .text kind.tag) :: entries)) v := by
  intro s hs
  obtain ⟨huntagged, hdistinct⟩ := List.nodup_cons.mp distinct
  obtain ⟨inner, hinner, hallows⟩ := Source.Allows.inside hs
  have hentries : ∀ e ∈ entries, inner.Allows e.2.height := fun e he =>
    hallows.mono (Json.heightEntries_le.mp (Nat.le_refl _) e (List.mem_cons_of_mem _ he))
  have hkind : kindOf kinds inner (.text kind.tag) = .ok kind := by
    rw [kindOf, choose, named]
  have htake : takeTag key kinds inner none [] (drafts ((key, .text kind.tag) :: entries)) =
      .ok (some kind, drafts entries) := by
    change takeTag key kinds inner none [] ((key, .text kind.tag) :: drafts entries) = _
    rw [takeTag, if_pos rfl, hkind]
    exact takeTag_drafts huntagged hentries []
  have hread := h.ofEntries hdistinct (s := .held) fun _ _ => trivial
  simp only [Json.draft, tagged, hinner, bind, Except.bind, legible_draftEntries, htake, hread, Except.mapError]
  rfl

/-! ## Flattened records -/

theorem takenFault_drafts {s : Source} {entries : List (String × Json)}
    (distinct : (entries.map Prod.fst).Nodup) (hs : ∀ e ∈ entries, s.Allows e.2.height)
    (known seen : List String) (fresh : ∀ e ∈ entries, e.1 ∉ seen) (place : Nat) :
    takenFault known s seen place (drafts entries) = none := by
  induction entries generalizing seen place with
  | nil => rfl
  | cons e rest ih =>
    obtain ⟨hfirst, hrest⟩ := List.nodup_cons.mp distinct
    have hseen : seen.contains e.1 = false := by simpa using fresh e List.mem_cons_self
    have hlater : ∀ d ∈ rest, d.1 ∉ seen := fun d hd => fresh d (List.mem_cons_of_mem e hd)
    have hdeep : ∀ d ∈ rest, s.Allows d.2.height := fun d hd => hs d (List.mem_cons_of_mem e hd)
    change takenFault known s seen place ((e.1, e.2.draft) :: drafts rest) = none
    rw [takenFault, hseen, any_draft e.2 (hs e List.mem_cons_self)]
    split
    · exact ih hrest hdeep (e.1 :: seen) (fresh_cons hfirst hlater) (place + 1)
    · exact ih hrest hdeep seen hlater (place + 1)

theorem filter_drafts {p : String → Bool} {own rest : List (String × Json)} (hown : ∀ e ∈ own, p e.1 = false)
    (hrest : ∀ e ∈ rest, p e.1 = true) :
    (drafts (own ++ rest)).filter (fun e => p e.1) = drafts rest := by
  have hnone : (drafts own).filter (fun e => p e.1) = [] := by
    rw [List.filter_eq_nil_iff]
    intro d hd
    obtain ⟨e, he, rfl⟩ := List.mem_map.mp hd
    simp [hown e he]
  have hall : (drafts rest).filter (fun e => p e.1) = drafts rest := by
    rw [List.filter_eq_self]
    intro d hd
    obtain ⟨e, he, rfl⟩ := List.mem_map.mp hd
    exact hrest e he
  rw [drafts, List.map_append, List.filter_append]
  change (drafts own).filter _ ++ (drafts rest).filter _ = drafts rest
  rw [hnone, hall, List.nil_append]

/-- A flattened record is read from an object that has its own fields first and then the entries of the
other value. -/
theorem reads_flattened {fields : Fields (α → β)} {decode : Decoder α} {own rest : List (String × Json)}
    {f : α → β} {v : α} (name : String) (hown : ∀ e ∈ own, e.1 ∈ fields.names)
    (hrest : ∀ e ∈ rest, e.1 ∉ fields.names) (h : fields.Reads (own ++ rest) f)
    (hv : Reads decode (.object rest) v) (distinct : ((own ++ rest).map Prod.fst).Nodup) :
    Reads (flattened name fields decode) (.object (own ++ rest)) (f v) := by
  intro s hs
  obtain ⟨inner, hinner, hallows⟩ := Source.Allows.inside hs
  have hentries : ∀ e ∈ own ++ rest, inner.Allows e.2.height :=
    fun e he => hallows.mono (Json.heightEntries_le.mp (Nat.le_refl _) e he)
  have hfault := takenFault_drafts distinct hentries fields.names [] (fun _ _ => List.not_mem_nil) 0
  have hfilter : (drafts (own ++ rest)).filter (fun e => !fields.names.contains e.1) = drafts rest :=
    filter_drafts (p := fun key => !fields.names.contains key) (fun e he => by simpa using hown e he)
      (fun e he => by simpa using hrest e he)
  have hothers : decode .held (.ofEntries (drafts rest)) = .ok v := by
    rw [Draft.ofEntries, ← draftEntries_eq]
    exact hv .held trivial
  simp only [Json.draft, flattened, hinner, bind, Except.bind, legible_draftEntries, hfault,
    h inner 0 hentries, hfilter, hothers]
  rfl

/-! ## Texts -/

/-- What is read from a value is read from its text. -/
theorem decodeText_render {decode : Decoder α} {j : Json} {v : α} (h : Reads decode j v)
    (printable : j.Printable Json.maxDepth) : decodeText decode j.render = .ok v := by
  have hread : decode (.text Json.maxDepth) j.draft = .ok v := h _ printable.height
  rw [decodeText, Json.readDraft_render printable.numbers]
  simp only [hread]
  rfl

end ReviewPanel.Wire
