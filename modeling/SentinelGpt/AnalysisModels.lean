import SentinelGpt.Findings
import Mathlib.Data.List.Dedup

/-! The evidence set, the candidate groups built from it and the prompt that carries
both, and the models of what the AI layer answers. -/
namespace SentinelGpt

inductive EvidenceStatus where
  | supported
  | inferred
  | unsupported
  deriving DecidableEq, Repr

namespace EvidenceStatus

def value : EvidenceStatus → PyStr
  | .supported => py "supported"
  | .inferred => py "inferred"
  | .unsupported => py "unsupported"

def all : List EvidenceStatus := [.supported, .inferred, .unsupported]

def ofValue? (text : PyStr) : Option EvidenceStatus := all.find? fun s => s.value == text

end EvidenceStatus

inductive AnalysisFailureKind where
  | providerUnavailable
  | authenticationFailed
  | timeout
  | malformedResponse
  | schemaInvalid
  | limitExceeded
  | unexpected
  deriving DecidableEq, Repr

def AnalysisFailureKind.value : AnalysisFailureKind → PyStr
  | .providerUnavailable => py "provider_unavailable"
  | .authenticationFailed => py "authentication_failed"
  | .timeout => py "timeout"
  | .malformedResponse => py "malformed_response"
  | .schemaInvalid => py "schema_invalid"
  | .limitExceeded => py "limit_exceeded"
  | .unexpected => py "unexpected"

def strList (texts : List PyStr) : Json := .list (texts.map .str)

def sortedStr (texts : List PyStr) : List PyStr :=
  texts.insertionSort fun a b => leStr a b = true

def sortedSet (texts : List PyStr) : List PyStr := sortedStr texts.dedup

@[simp] theorem memSortedStr {text : PyStr} {texts : List PyStr} :
    text ∈ sortedStr texts ↔ text ∈ texts := List.mem_insertionSort _

@[simp] theorem memSortedSet {text : PyStr} {texts : List PyStr} :
    text ∈ sortedSet texts ↔ text ∈ texts := by
  rw [sortedSet, memSortedStr, List.mem_dedup]

structure Claim where
  text : PyStr
  findingIds : List PyStr
  status : EvidenceStatus
  detail : PyStr
  deriving DecidableEq, Repr

def Claim.toDict (c : Claim) : Json := .dict [
  (py "text", .str c.text),
  (py "finding_ids", strList c.findingIds),
  (py "status", .str c.status.value),
  (py "detail", .str c.detail)]

structure CorrelatedGroup where
  groupId : PyStr
  title : PyStr
  findingIds : List PyStr
  rationale : PyStr
  status : EvidenceStatus
  deriving DecidableEq, Repr

namespace CorrelatedGroup

def deriveGroupId (python : Python) (title : PyStr) (findingIds : List PyStr) :
    Except PyError PyStr :=
  sha16 python (py "group|" ++ title ++ py "|" ++ join (py "|") (sortedStr findingIds))

def toDict (g : CorrelatedGroup) : Json := .dict [
  (py "group_id", .str g.groupId),
  (py "title", .str g.title),
  (py "finding_ids", strList g.findingIds),
  (py "rationale", .str g.rationale),
  (py "status", .str g.status.value)]

end CorrelatedGroup

structure RemediationItem where
  title : PyStr
  detail : PyStr
  findingIds : List PyStr
  deriving DecidableEq, Repr

def RemediationItem.toDict (r : RemediationItem) : Json := .dict [
  (py "title", .str r.title),
  (py "detail", .str r.detail),
  (py "finding_ids", strList r.findingIds)]

structure ProviderMetadata where
  provider : PyStr
  model : PyStr
  modelVersion : PyStr
  promptSchemaVersion : PyStr
  outputSchemaVersion : PyStr
  createdAt : Time
  nondeterministic : Bool
  deriving DecidableEq, Repr

def ProviderMetadata.toDict (python : Python) (m : ProviderMetadata) : Json := .dict [
  (py "provider", .str m.provider),
  (py "model", .str m.model),
  (py "model_version", .str m.modelVersion),
  (py "prompt_schema_version", .str m.promptSchemaVersion),
  (py "output_schema_version", .str m.outputSchemaVersion),
  (py "created_at", .str (python.isoformat m.createdAt)),
  (py "nondeterministic", .bool m.nondeterministic)]

structure Assessment where
  assessmentId : PyStr
  evidenceSetId : PyStr
  overallSummary : PyStr
  priority : Severity
  correlatedGroups : List CorrelatedGroup
  remediation : List RemediationItem
  limitations : List PyStr
  claims : List Claim
  unsupportedClaimCount : Nat
  providerMetadata : Option ProviderMetadata
  deriving DecidableEq, Repr

namespace Assessment

def deriveAssessmentId (python : Python) (evidenceSetId provider model promptSchemaVersion
    outputSchemaVersion contentCanonical : PyStr) : Except PyError PyStr :=
  sha16 python (join (py "|") [py "assessment", evidenceSetId, provider, model,
    promptSchemaVersion, outputSchemaVersion, contentCanonical])

def toDict (python : Python) (a : Assessment) : List (PyStr × Json) := [
  (py "assessment_id", .str a.assessmentId),
  (py "evidence_set_id", .str a.evidenceSetId),
  (py "overall_summary", .str a.overallSummary),
  (py "priority", .str a.priority.value),
  (py "correlated_groups", .list (a.correlatedGroups.map CorrelatedGroup.toDict)),
  (py "remediation", .list (a.remediation.map RemediationItem.toDict)),
  (py "limitations", strList a.limitations),
  (py "claims", .list (a.claims.map Claim.toDict)),
  (py "unsupported_claim_count", .int a.unsupportedClaimCount),
  (py "provider_metadata", (a.providerMetadata.map (ProviderMetadata.toDict python)).getD .null)]

end Assessment

structure AssessmentUnavailable where
  evidenceSetId : PyStr
  failureKind : AnalysisFailureKind
  detail : PyStr
  createdAt : Time
  deriving DecidableEq, Repr

def AssessmentUnavailable.toDict (python : Python) (u : AssessmentUnavailable) :
    List (PyStr × Json) := [
  (py "evidence_set_id", .str u.evidenceSetId),
  (py "failure_kind", .str u.failureKind.value),
  (py "detail", .str u.detail),
  (py "created_at", .str (python.isoformat u.createdAt))]

inductive Outcome where
  | assessment (value : Assessment)
  | unavailable (value : AssessmentUnavailable)
  deriving DecidableEq, Repr

/-! The evidence set. Its id is a digest, so that it always encodes. -/

def evidenceSchemaVersion : PyStr := py "sgpt.evidence.v1"

structure EvidenceSet where
  evidenceSetId : PyStr
  result : HttpAnalysisResult
  idEncodable : encodable evidenceSetId = true

namespace EvidenceSet

def optionInt (n : Option Int) : Json := (n.map Json.int).getD .null

def optionStr (s : Option PyStr) : Json := (s.map Json.str).getD .null

def engineDict (r : HttpAnalysisResult) : Json :=
  .dict [(py "name", .str r.engineName), (py "version", .str r.engineVersion)]

def requestDict (r : HttpAnalysisResult) : Json := .dict [
  (py "scheme", .str r.requestScheme),
  (py "port", .int r.requestPort),
  (py "path", .str r.requestPath),
  (py "status", optionInt r.status),
  (py "redirect_count", .int r.redirectCount),
  (py "truncated", .bool r.truncated),
  (py "content_type", .str r.contentType),
  (py "response_bytes", optionInt (r.responseBytes.map Int.ofNat)),
  (py "error_kind", optionStr r.errorKind),
  (py "error_detail", .str r.errorDetail)]

def canonical (r : HttpAnalysisResult) : List (PyStr × Json) := [
  (py "schema_version", .str evidenceSchemaVersion),
  (py "engine", engineDict r),
  (py "target_hostname", .str r.targetHostname),
  (py "request", requestDict r),
  (py "observations", .list (r.observations.map Observation.toDict)),
  (py "findings", .list (r.findings.map Finding.toDict))]

def sortedById (r : HttpAnalysisResult) : HttpAnalysisResult := { r with
  findings := r.findings.insertionSort fun a b => leStr a.id b.id = true
  observations := r.observations.insertionSort fun a b => leStr a.id b.id = true }

/- The canonical form encodes (`dumpsEncodable`), so that hashing it never raises. -/
def deriveId (python : Python) (canonicalWithoutId : List (PyStr × Json)) : PyStr :=
  (python.sha256 (dumpsStable (.dict canonicalWithoutId))).take 16

def fromResult (python : Python) (result : HttpAnalysisResult) : EvidenceSet where
  evidenceSetId := deriveId python (canonical (sortedById result))
  result := sortedById result
  idEncodable := encodableTake 16 (python.digestEncodable _)

variable (e : EvidenceSet)

def findings : List Finding := e.result.findings

def findingIds : List PyStr := e.findings.map Finding.id

def hasFinding (findingId : PyStr) : Bool := e.findingIds.contains findingId

def toDict : Json := .dict [
  (py "schema_version", .str evidenceSchemaVersion),
  (py "evidence_set_id", .str e.evidenceSetId),
  (py "engine", engineDict e.result),
  (py "target_hostname", .str e.result.targetHostname),
  (py "request", requestDict e.result),
  (py "observations", .list (e.result.observations.map Observation.toDict)),
  (py "findings", .list (e.findings.map Finding.toDict))]

end EvidenceSet

def timeoutFinding : Finding where
  id := py "71987160c52803ae"
  category := py "http.transport"
  title := py "No HTTP response obtained"
  description := (py "The validated transport could not complete the exchange; the destination " ++
      py "may be down, filtered, or misconfigured.")
  severity := .info
  confidence := .high
  evidence := py "connect_timeout"
  location := py "https://example.com/"
  recommendation := py "Verify availability out-of-band; retry later."
  observationIds := [py "835ae58ceca64ccd"]

def timeoutResult : HttpAnalysisResult where
  engineName := py "http-security-analysis"
  targetHostname := py "example.com"
  requestScheme := py "https"
  requestPort := 443
  requestPath := py "/"
  status := none
  redirectCount := 0
  truncated := false
  contentType := []
  responseBytes := none
  observations := []
  findings := [timeoutFinding]
  errorKind := some (py "connect_timeout")
  errorDetail := py "timed out"
  engineVersion := py "1"

def timeoutEvidence : EvidenceSet :=
  ⟨py "71b2b4bea99209ff", timeoutResult, pyEncodable _⟩

/-! Deterministic clusters of the findings, one for each category. -/

def categories : List (PyStr × PyStr) :=
  [(py "http.security-headers", py "Missing security-header family"),
   (py "http.cookies", py "Cookie hygiene cluster"),
   (py "http.transport", py "Transport / TLS posture"),
   (py "http.server-info", py "Server-information disclosure")]

structure CandidateGroup where
  groupId : PyStr
  category : PyStr
  title : PyStr
  findingIds : List PyStr
  deriving DecidableEq, Repr

def CandidateGroup.toDict (g : CandidateGroup) : Json := .dict [
  (py "group_id", .str g.groupId),
  (py "category", .str g.category),
  (py "title", .str g.title),
  (py "finding_ids", strList g.findingIds)]

def categoryIds (e : EvidenceSet) (category : PyStr) : List PyStr :=
  sortedStr ((e.findings.filter fun f => f.category == category).map Finding.id)

def candidateGroup (python : Python) (e : EvidenceSet) (category title : PyStr) :
    Except PyError CandidateGroup := do
  let ids := categoryIds e category
  return {
    groupId := ← sha16 python (py "candidate|" ++ category ++ py "|" ++ join (py "|") ids)
    category, title
    findingIds := ids }

def sortedGroups (groups : List CandidateGroup) : List CandidateGroup :=
  groups.insertionSort fun a b => leStr a.groupId b.groupId = true

def knownCategories (e : EvidenceSet) : List (PyStr × PyStr) :=
  categories.filter fun c => (e.findings.map Finding.category).contains c.1

def extraCategories (e : EvidenceSet) : List PyStr :=
  sortedSet ((e.findings.map Finding.category).filter fun c =>
    !(categories.map Prod.fst).contains c)

def buildCandidateGroups (python : Python) (e : EvidenceSet) :
    Except PyError (List CandidateGroup) := do
  let groups ← (knownCategories e).mapM fun c => candidateGroup python e c.1 c.2
  let extras ← (extraCategories e).mapM fun c => candidateGroup python e c (c ++ py " cluster")
  return sortedGroups (sortedGroups groups ++ extras)

def promptSchemaVersion : PyStr := py "v1"

def outputSchemaVersion : PyStr := py "v1"

def systemInstructionsV1 : PyStr := py "You are a security-analysis assistant for SentinelGPT.

You will receive ONE JSON document containing:
  * evidence_set: deterministic findings (and observations) produced by a
    passive HTTP analysis engine, plus request/transport metadata;
  * candidate_groups: pre-computed finding-ID clusters.

Hard rules:
1. Use ONLY the supplied evidence. Never invent findings, hosts,
   headers, cookies, vulnerabilities, CVEs, or CWEs.
2. Do not invent finding IDs. Every claim MUST reference existing finding
   IDs from the evidence set.
3. Distinguish evidence-backed conclusions from inference. If you reason
   beyond the literal findings, mark that claim INFERRED; if you cannot
   anchor it to any supplied ID, mark it UNSUPPORTED.
4. Preserve severity/confidence semantics: do not escalate a LOW/HIGH
   finding into CRITICAL without new evidence — and you have none.
5. Return remediation guidance that maps to specific findings where possible.
6. State limitations explicitly when evidence is thin or absent.
7. Output ONLY one JSON object matching this schema, with no prose around it:

\x7b
  \"overall_summary\": string,
  \"priority\": \"info\" | \"low\" | \"medium\" | \"high\" | \"critical\",
  \"correlated_groups\": [
    \x7b\"title\": string, \"finding_ids\": [string], \"rationale\": string\x7d
  ],
  \"remediation\": [
    \x7b\"title\": string, \"detail\": string, \"finding_ids\": [string]\x7d
  ],
  \"limitations\": [string],
  \"claims\": [
    \x7b\"text\": string, \"finding_ids\": [string],
     \"status\": \"supported\" | \"inferred\" | \"unsupported\",
     \"detail\": string\x7d
  ]
\x7d

Claim \"status\" semantics: use \"supported\" when the statement restates what
the referenced findings literally record; \"inferred\" when you reason beyond
the literal findings; \"unsupported\" only for statements you cannot anchor.
The validator independently re-checks every reference and will force
\"unsupported\" on unknown IDs regardless of what you declare.

Any finding_ids you output that do not exist in the evidence set will be
marked UNSUPPORTED and counted against your response.
"

def buildUserPrompt (e : EvidenceSet) (candidateGroups : List CandidateGroup) : PyStr :=
  dumpsStable (.dict [
    (py "prompt_schema_version", .str promptSchemaVersion),
    (py "output_schema_version", .str outputSchemaVersion),
    (py "evidence_set", e.toDict),
    (py "candidate_groups", .list (candidateGroups.map CandidateGroup.toDict))])

end SentinelGpt
