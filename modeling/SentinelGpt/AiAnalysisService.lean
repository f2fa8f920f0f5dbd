import SentinelGpt.ResponseValidator

/-! The analysis service: prompt, provider, validation. A provider failure and a refused
response both become an unavailable assessment over the same evidence. -/
namespace SentinelGpt.AiAnalysisService
open ResponseValidator

inductive ProviderFailure where
  | analysisProviderError (kind : AnalysisFailureKind) (detail : PyStr)
  | other (exception : PyError)

structure EvidenceAnalyzer where
  provider : PyStr
  model : PyStr
  modelVersion : PyStr
  analyze : EvidenceSet → List CandidateGroup → PyStr → PyStr → Except ProviderFailure Raw

def metadataBase (analyzer : EvidenceAnalyzer) : MetadataBase :=
  [(py "provider", analyzer.provider),
   (py "model", analyzer.model),
   (py "model_version", analyzer.modelVersion),
   (py "prompt_schema_version", promptSchemaVersion),
   (py "output_schema_version", outputSchemaVersion)]

def unavailable (e : EvidenceSet) (kind : AnalysisFailureKind) (detail : PyStr) (now : Time) :
    AssessmentUnavailable where
  evidenceSetId := e.evidenceSetId
  failureKind := kind
  detail := (detail.take 300).map fun c => if c == 0x0A then 0x20 else c
  createdAt := now

def candidates (python : Python) (e : EvidenceSet) :
    Option (List CandidateGroup) → Except PyError (List CandidateGroup)
  | some groups => .ok groups
  | none => buildCandidateGroups python e

/- `clock n` is the reading of the clock after `n` readings in this call. -/
def analyze (python : Python) (analyzer : EvidenceAnalyzer) (clock : Nat → Time)
    (e : EvidenceSet) (candidateGroups : Option (List CandidateGroup)) :
    Except PyError (EvidenceSet × Outcome) := do
  let groups ← candidates python e candidateGroups
  match analyzer.analyze e groups systemInstructionsV1 (buildUserPrompt e groups) with
  | .error (.analysisProviderError kind detail) =>
    return (e, .unavailable (unavailable e kind (detail.take 500) (clock 0)))
  | .error (.other exception) =>
    return (e, .unavailable (unavailable e .unexpected exception.name (clock 0)))
  | .ok raw =>
    let validation ← validateAnalysisResponse python raw e (metadataBase analyzer) (clock 0)
    if validation.accepted then
      match validation.assessment with
      | some assessment => return (e, .assessment assessment)
      | none => throw .assertionError
    else
      let kind := validation.failureKind.getD .schemaInvalid
      let detail := (join (py "; ") validation.errors).take 300
      return (e, .unavailable (unavailable e kind detail (clock 1)))

end SentinelGpt.AiAnalysisService
