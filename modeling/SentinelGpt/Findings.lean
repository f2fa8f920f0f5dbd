import SentinelGpt.JsonWriter

/-! Observations and findings of the scan engines, and the deterministic result the
analysis layer receives. -/
namespace SentinelGpt

def maxEvidenceChars : Nat := 512

inductive Severity where
  | info
  | low
  | medium
  | high
  | critical
  deriving DecidableEq, Repr

namespace Severity

def value : Severity → PyStr
  | .info => py "info"
  | .low => py "low"
  | .medium => py "medium"
  | .high => py "high"
  | .critical => py "critical"

def all : List Severity := [.info, .low, .medium, .high, .critical]

def ofValue? (text : PyStr) : Option Severity := all.find? fun s => s.value == text

end Severity

inductive Confidence where
  | low
  | medium
  | high
  deriving DecidableEq, Repr

def Confidence.value : Confidence → PyStr
  | .low => py "low"
  | .medium => py "medium"
  | .high => py "high"

/- Control characters become blanks, and a long text ends in an ellipsis. -/
def boundEvidence (python : Python) (text : PyStr) (limit : Nat) : PyStr :=
  let cleaned := text.map fun c => if python.isPrintable c || c == 0x09 then c else 0x20
  if cleaned.length ≤ limit then cleaned else cleaned.take (limit - 1) ++ [0x2026]

def sha16 (python : Python) (identity : PyStr) : Except PyError PyStr := do
  return (← hexdigest python identity).take 16

structure Observation where
  id : PyStr
  category : PyStr
  title : PyStr
  detail : PyStr
  evidence : PyStr
  location : PyStr
  deriving DecidableEq, Repr

namespace Observation

def makeId (python : Python) (category title location : PyStr) : Except PyError PyStr :=
  sha16 python (category ++ py "|" ++ title ++ py "|" ++ location)

def create (python : Python) (category title detail evidence location : PyStr) :
    Except PyError Observation := do
  return {
    id := ← makeId python category title location
    category, title, detail, location
    evidence := boundEvidence python evidence maxEvidenceChars }

def toDict (o : Observation) : Json := .dict [
  (py "id", .str o.id),
  (py "category", .str o.category),
  (py "title", .str o.title),
  (py "detail", .str o.detail),
  (py "evidence", .str o.evidence),
  (py "location", .str o.location)]

end Observation

structure Finding where
  id : PyStr
  category : PyStr
  title : PyStr
  description : PyStr
  severity : Severity
  confidence : Confidence
  evidence : PyStr
  location : PyStr
  recommendation : PyStr
  observationIds : List PyStr
  deriving DecidableEq, Repr

namespace Finding

def makeId (python : Python) (category title location : PyStr) : Except PyError PyStr :=
  sha16 python (py "finding|" ++ category ++ py "|" ++ title ++ py "|" ++ location)

def create (python : Python) (category title description : PyStr) (severity : Severity)
    (confidence : Confidence) (evidence location recommendation : PyStr)
    (observationIds : List PyStr) : Except PyError Finding := do
  return {
    id := ← makeId python category title location
    category, title, description, severity, confidence, location, recommendation, observationIds
    evidence := boundEvidence python evidence maxEvidenceChars }

def toDict (f : Finding) : Json := .dict [
  (py "id", .str f.id),
  (py "category", .str f.category),
  (py "title", .str f.title),
  (py "description", .str f.description),
  (py "severity", .str f.severity.value),
  (py "confidence", .str f.confidence.value),
  (py "evidence", .str f.evidence),
  (py "location", .str f.location),
  (py "recommendation", .str f.recommendation),
  (py "observation_ids", .list (f.observationIds.map .str))]

end Finding

structure HttpAnalysisResult where
  engineName : PyStr
  targetHostname : PyStr
  requestScheme : PyStr
  requestPort : Nat
  requestPath : PyStr
  status : Option Int
  redirectCount : Nat
  truncated : Bool
  contentType : PyStr
  responseBytes : Option Nat
  observations : List Observation
  findings : List Finding
  errorKind : Option PyStr
  errorDetail : PyStr
  engineVersion : PyStr
  deriving Repr

theorem createdFinding {python : Python} {category title description evidence location
    recommendation : PyStr} {severity : Severity} {confidence : Confidence}
    {observationIds : List PyStr} {f : Finding}
    (ok : Finding.create python category title description severity confidence evidence location
      recommendation observationIds = .ok f) :
    encodable f.id = true ∧ encodable f.category = true := by
  unfold Finding.create Finding.makeId sha16 hexdigest encode at ok
  split at ok
  · rename_i identity
    cases ok
    refine ⟨encodableTake 16 (python.digestEncodable _), ?_⟩
    simp only [encodableAppend, Bool.and_eq_true] at identity
    exact identity.1.1.1.1.2
  · contradiction

theorem createdAs {python : Python} {category title description evidence location
    recommendation : PyStr} {severity : Severity} {confidence : Confidence}
    {observationIds : List PyStr} {f : Finding}
    (ok : Finding.create python category title description severity confidence evidence location
      recommendation observationIds = .ok f) :
    f.category = category ∧ f.title = title ∧ f.location = location := by
  obtain ⟨id, -, ok⟩ := bindOk ok
  cases ok
  exact ⟨rfl, rfl, rfl⟩

end SentinelGpt
