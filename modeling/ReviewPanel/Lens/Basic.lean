import ReviewPanel.LensId
import ReviewPanel.Severity

/-! # Lenses

A lens is one way of looking at a change: what to look for, and what each severity means there. The
lenses are fixed, and a caller asks for them by name. -/
namespace ReviewPanel

/-- What each severity means for a lens. -/
structure Rubric where
  blocker : String
  high : String
  medium : String
  low : String
  nit : String
deriving Repr, DecidableEq, BEq, Inhabited

namespace Rubric

def describe (r : Rubric) : Severity → String
  | .blocker => r.blocker
  | .high => r.high
  | .medium => r.medium
  | .low => r.low
  | .nit => r.nit

def render (r : Rubric) : String :=
  String.intercalate "\n" (Severity.all.map fun s => "- " ++ s.name ++ ": " ++ r.describe s)

end Rubric

/-- A way of looking at a change. -/
structure Lens where
  id : LensId
  name : String
  description : String
  /-- The instruction for the model, with slots for what depends on the review. -/
  template : String
  rubric : Rubric
deriving Repr, DecidableEq, BEq, Inhabited

namespace Lens

def slot (key : String) : String := "\x7b\x7b" ++ key ++ "\x7d\x7d"

def templateFor (points : List String) : String :=
  "You are the " ++ slot "lens" ++ " reviewer on a code review panel.\n\nFocus:\n"
    ++ String.intercalate "\n" (points.map ("- " ++ ·))
    ++ "\n\nOnly report problems introduced or exposed by this diff. "
    ++ "Skip anything another lens would own unless it is severe.\n\nSeverity rubric:\n" ++ slot "rubric"
    ++ "\n\nProject context:\n" ++ slot "context" ++ "\n\nChanged files:\n" ++ slot "files"
    ++ "\n\nDiff:\n" ++ slot "diff"
    ++ "\n\nRespond with a JSON object: \x7b\"summary\": string, \"issues\": [issue]\x7d. "
    ++ "Each issue needs severity, category, title, file, startLine, endLine, rationale, "
    ++ "recommendation, confidence (0-1), symptom, impact, and evidence. "
    ++ "Return an empty issues array when the diff is clean."

def ofId : LensId → Lens
  | .correctness =>
    { id := .correctness
      name := "Correctness"
      description := "Logic errors, broken invariants, and behaviour regressions"
      template := templateFor
        ["wrong results, off-by-one errors, unhandled cases",
         "broken invariants and error handling that swallows failures",
         "concurrency hazards and resource leaks"]
      rubric :=
        { blocker := "data loss, crash, or wrong result on a common path"
          high := "wrong result or crash on a realistic edge case"
          medium := "incorrect behaviour on an unusual path"
          low := "latent bug unlikely to trigger"
          nit := "questionable but harmless construct" } }
  | .security =>
    { id := .security
      name := "Security"
      description := "Injection, authz gaps, secret handling, and unsafe input processing"
      template := templateFor
        ["injection (SQL, shell, template, path traversal)",
         "missing authentication or authorization checks",
         "secrets in code or logs, weak cryptography, unsafe deserialization"]
      rubric :=
        { blocker := "remotely exploitable without authentication"
          high := "exploitable by an authenticated or adjacent attacker"
          medium := "defence-in-depth gap with a plausible attack path"
          low := "hardening opportunity"
          nit := "style issue with a security flavour" } }
  | .performance =>
    { id := .performance
      name := "Performance"
      description := "Hot-path regressions, needless allocation, and unbounded work"
      template := templateFor
        ["algorithmic regressions and unbounded loops or queries",
         "repeated I/O or allocation on hot paths",
         "blocking calls inside async code"]
      rubric :=
        { blocker := "makes a core path unusable at expected scale"
          high := "measurable regression on a hot path"
          medium := "inefficiency on a warm path"
          low := "minor waste"
          nit := "micro-optimisation" } }
  | .simplicity =>
    { id := .simplicity
      name := "Simplicity"
      description := "Needless complexity, duplication, and unclear structure"
      template := templateFor
        ["duplicated logic and dead code",
         "abstractions that do not pay for themselves",
         "names or control flow that hide intent"]
      rubric :=
        { blocker := "change cannot be maintained safely as written"
          high := "complexity likely to cause bugs soon"
          medium := "noticeable maintenance burden"
          low := "small clarity improvement"
          nit := "naming or formatting preference" } }
  | .tests =>
    { id := .tests
      name := "Tests"
      description := "Missing, weak, or misleading test coverage for the change"
      template := templateFor
        ["new behaviour without tests",
         "assertions that cannot fail or test the wrong thing",
         "flaky timing or ordering assumptions"]
      rubric :=
        { blocker := "critical path changed with no coverage at all"
          high := "important branch left untested"
          medium := "weak assertions on changed behaviour"
          low := "extra case worth adding"
          nit := "test naming or layout" } }

def all : List Lens := LensId.all.map ofId

def defaultIds : List LensId := [.correctness]

/-- The lenses that some names ask for, each at its first place; names of no lens are passed over.
`taken` are the lenses found before. -/
def named (taken : List LensId) : List String → List LensId
  | [] => []
  | s :: rest =>
    match LensId.parse? s with
    | none => named taken rest
    | some id => if taken.contains id then named taken rest else id :: named (taken ++ [id]) rest

def resolveIds (requested : Option (List String)) : List LensId :=
  match requested with
  | none => defaultIds
  | some [] => defaultIds
  | some (s :: rest) => named [] (s :: rest)

def resolve (requested : Option (List String)) : List Lens := (resolveIds requested).map ofId

end Lens

end ReviewPanel
