import ReviewPanel.Trace

/-! # Requests to the model

A request asks the model for a JSON value of a given shape. -/
namespace ReviewPanel

/-- The name and the JSON schema of an expected reply. -/
structure OutputShape where
  name : String
  schema : Json
deriving Repr, BEq, Inhabited

/-- One call of the model. -/
structure Request where
  /-- Who asks: for a review, the identifier of the lens. -/
  label : String
  prompt : String
  shape : OutputShape
  trace : TraceContext
deriving Repr, BEq, Inhabited

open Wire

namespace OutputShape

def encode (s : OutputShape) : Json := .object [("name", .text s.name), ("schema", s.schema)]

def decoder : Decoder OutputShape :=
  record "struct OutputShape" <|
    .seq (.seq (.pure OutputShape.mk)
      (.required "name" text))
      (.required "schema" any)

end OutputShape

namespace Request

def encode (r : Request) : Json :=
  .object [("label", .text r.label), ("prompt", .text r.prompt), ("shape", r.shape.encode),
    ("trace", r.trace.encode)]

def decoder : Decoder Request :=
  record "struct GenerateRequest" <|
    .seq (.seq (.seq (.seq (.pure Request.mk)
      (.required "label" text))
      (.required "prompt" text))
      (.required "shape" OutputShape.decoder))
      (.required "trace" TraceContext.decoder)

end Request

end ReviewPanel
