import HistoryMetrics.Smell.Detector

/-! # Detection of smells in a source file

    The metrics that the detectors need are computed once for all of them; then every detector looks
    at every type. Types are told apart by their places, so that types of one name keep verdicts of
    their own. -/

namespace HistoryMetrics

/-- The metrics that detectors need. -/
def requiredMetrics (ds : List Detector) : List String := sortedIds (ds.flatMap Detector.requires)

/-- **The verdicts on a type**, by its place and its name. -/
structure Finding where
  index : Nat
  typeName : String
  verdicts : List Verdict

namespace Detection

/-- The logger of the detection. -/
def logger : String := rootLogger ++ ".smells.registry"

/-- The failure of a detector as the failure of its smell. -/
def attributed (d : Detector) (path : String) : Failure → Failure
  | .fault f => .problem (.smellDetection d.smell.name path f.shown)
  | other => other

/-- Runs a detector on a type. -/
def runDetector (d : Detector) (index : Nat) : Calculation (Option Verdict) := fun a =>
  match d.detect index a with
  | (.error f, a') => (.error (attributed d a'.outline.path f), a')
  | done => done

/-- Runs detectors on a type, one after the other. -/
def runDetectors (index : Nat) : List Detector → Calculation (List Verdict)
  | [] => fun a => (.ok [], a)
  | d :: ds => fun a =>
    match runDetector d index a with
    | (.error f, a') => (.error f, a')
    | (.ok v, a') =>
      match runDetectors index ds a' with
      | (.error f, a'') => (.error f, a'')
      | (.ok vs, a'') => (.ok (v.toList ++ vs), a'')

/-- What is logged about a type with verdicts. -/
def record (path typeName : String) (vs : List Verdict) : LogRecord :=
  .plain .debug logger (path ++ ":" ++ typeName ++ " " ++
    ", ".intercalate (vs.map fun v => v.smell.name))

/-- Runs detectors on `count` types from the given place on. -/
def scan (ds : List Detector) : (count index : Nat) → Calculation (List Finding)
  | 0, _ => fun a => (.ok [], a)
  | count + 1, index => fun a =>
    match runDetectors index ds a with
    | (.error f, a') => (.error f, a')
    | (.ok vs, a') =>
      if vs.isEmpty then scan ds count (index + 1) a'
      else
        let name := (a'.outline.types[index]?.map TypeOutline.name).getD ""
        match scan ds count (index + 1) (a'.logged (record a'.outline.path name vs)) with
        | (.error f, a'') => (.error f, a'')
        | (.ok rest, a'') => (.ok (⟨index, name, vs⟩ :: rest), a'')

end Detection

/-- **Detects smells**: the verdicts on the types that have any, in the order of the types. -/
def detectSmells (ds : List Detector) (e : Engine) : Calculation (List Finding) := fun a =>
  if ds.isEmpty then (.ok [], a)
  else
    match e.compute (some (requiredMetrics ds)) a with
    | (.error f, a') => (.error f, a')
    | (.ok _, a') => Detection.scan ds a'.outline.types.length 0 a'

end HistoryMetrics
