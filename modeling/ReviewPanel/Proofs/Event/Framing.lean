import ReviewPanel.Proofs.Event.Decoding

/-! # Frames of events

The frame of an event falls into its lines at the line feeds that the frame itself puts there: whatever the
strings of the event hold, its JSON form has no line feed and no carriage return. -/
namespace ReviewPanel

open Wire

theorem EventKind.name_mem (k : EventKind) : k.name ∈ kinds.map Kind.tag := by
  cases k <;> simp [kinds, name]

theorem EventKind.visible_name (k : EventKind) : Text.Visible k.name.toList := by
  have hall : ∀ name ∈ kinds.map Kind.tag, Text.Visible name.toList := by decide
  exact hall k.name k.name_mem

namespace Event

/-- The event is framed with its JSON form: no line of the form breaks the frame, the name on the first line
is the one in the form, and the form is the event. -/
structure Framed (e : Event) (data : String) : Prop where
  frame_eq : e.frame = "event: " ++ e.kind.name ++ "\ndata: " ++ data ++ "\n\n"
  unbroken : '\n' ∉ data.toList ∧ '\r' ∉ data.toList
  lines_eq : Text.lines e.frame = [("event: " ++ e.kind.name).toList, ("data: " ++ data).toList, []]
  type_eq : (Json.parse? data).bind (·.get? "type") = some (.text e.kind.name)
  decoded : decodeText decoder data = .ok e

theorem lines_frame {e : Event} (unbroken : '\n' ∉ e.encode.render.toList ∧ '\r' ∉ e.encode.render.toList) :
    Text.lines e.frame =
      [("event: " ++ e.kind.name).toList, ("data: " ++ e.encode.render).toList, []] := by
  have hframe : e.frame.toList =
      [("event: " ++ e.kind.name).toList, ("data: " ++ e.encode.render).toList, []].flatMap (· ++ ['\n']) := by
    simp [frame]
  have hname := e.kind.visible_name.unbroken
  rw [Text.lines, hframe]
  apply Text.linesFrom_flatMap
  simp [hname.1, hname.2, unbroken.1, unbroken.2]

theorem framed_of_regular {e : Event} (h : e.Regular) : e.Framed e.encode.render := by
  have hprintable : e.encode.Printable Json.maxDepth := (printable_encode h).mono (by decide)
  have hunbroken : '\n' ∉ e.encode.render.toList ∧ '\r' ∉ e.encode.render.toList := by
    rw [Json.render, String.toList_ofList]
    exact (Json.visible_write e.encode hprintable.numbers).unbroken
  constructor
  · rfl
  · exact hunbroken
  · exact lines_frame hunbroken
  · rw [encode_eq] at hprintable ⊢
    rw [Json.get?_parse?_render hprintable e.distinct_entries, lookup_type]
    rfl
  · exact decodeText_render (reads_encode h) hprintable

/-- An event whose strings try to break out of the frame. -/
def outbreak : Event where
  timestamp := ⟨2024, 2, 29, 23, 59, 59, 120000000⟩
  trace := ⟨"t\n\nevent: x", "s\r", some "\"p\\"⟩
  kind := .toolCall ⟨.security, "Security\ndata: \x7b\x7d\n\n"⟩ "read_file" <| .object
    [("endLine", .null), ("path", .text "a\r\nb"), ("startLine", .number (.integer 10))]

theorem framed_of_outbreak : outbreak.Regular ∧ outbreak.Framed outbreak.encode.render := by
  have htime : outbreak.timestamp.Regular := by
    constructor <;> decide
  have hinput : ToolInput (.object
      [("endLine", .null), ("path", .text "a\r\nb"), ("startLine", .number (.integer 10))]) := by
    constructor
    · decide
    · simp [IsArgument, Json.Number.IsWord]
  have hregular : outbreak.Regular := ⟨htime, trivial, hinput⟩
  exact ⟨hregular, framed_of_regular hregular⟩

end Event

end ReviewPanel
