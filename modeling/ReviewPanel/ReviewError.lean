/-! # Failures of a review

A failure has a code, on which callers decide, and a message for people. -/
namespace ReviewPanel

/-- The class of a failure. -/
inductive ErrorCode where
  /-- The diff holds no files, and the run never starts. -/
  | noDiff
  /-- None of the requested lenses is known. -/
  | noLenses
  | networkError
  | rateLimited
  | invalidApiKey
  /-- The model failed, or its reply does not have the expected shape. -/
  | modelError
  /-- The lens was never started, because the run was cancelled. -/
  | notStarted
  /-- The lens broke off without an error of its own. -/
  | unknown
deriving Repr, DecidableEq, BEq, Inhabited

namespace ErrorCode

def all : List ErrorCode :=
  [.noDiff, .noLenses, .networkError, .rateLimited, .invalidApiKey, .modelError, .notStarted, .unknown]

def name : ErrorCode → String
  | .noDiff => "NO_DIFF"
  | .noLenses => "NO_LENSES"
  | .networkError => "NETWORK_ERROR"
  | .rateLimited => "RATE_LIMITED"
  | .invalidApiKey => "INVALID_API_KEY"
  | .modelError => "MODEL_ERROR"
  | .notStarted => "NOT_STARTED"
  | .unknown => "UNKNOWN_ERROR"

end ErrorCode

/-- A classified failure. -/
structure ReviewError where
  code : ErrorCode
  message : String
deriving Repr, DecidableEq, BEq, Inhabited

namespace ReviewError

def display (e : ReviewError) : String := e.code.name ++ ": " ++ e.message

def noDiff : ReviewError := ⟨.noDiff, "no files to review"⟩

def noLenses (requested : List String) : ReviewError :=
  ⟨.noLenses, "none of the requested lenses is known: " ++ String.intercalate ", " requested⟩

def notStarted : ReviewError := ⟨.notStarted, "lens was not started because the run was cancelled"⟩

/-- A reply of the model that does not have the expected shape, with what was found wrong. -/
def malformedReply (reason : String) : ReviewError :=
  ⟨.modelError, "malformed structured output: " ++ reason⟩

end ReviewError

end ReviewPanel
