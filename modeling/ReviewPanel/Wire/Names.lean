import ReviewPanel.LensId
import ReviewPanel.ReviewError
import ReviewPanel.Wire.Record

/-! # Values known by a name

Lenses and error codes are written as strings, an error as its code and message. -/
namespace ReviewPanel

open Wire

namespace Wire

def named (values : List α) (name : α → String) : Decoder α := variant (values.map fun v => (name v, v))

end Wire

namespace LensId

def encode (id : LensId) : Json := .text id.name

def decoder : Decoder LensId := named all name

end LensId

namespace ErrorCode

def encode (c : ErrorCode) : Json := .text c.name

def decoder : Decoder ErrorCode := named all name

end ErrorCode

namespace ReviewError

def encode (e : ReviewError) : Json := .object [("code", e.code.encode), ("message", .text e.message)]

def decoder : Decoder ReviewError :=
  record "struct ReviewError" <|
    .seq (.seq (.pure ReviewError.mk)
      (.required "code" ErrorCode.decoder))
      (.required "message" text)

end ReviewError

end ReviewPanel
