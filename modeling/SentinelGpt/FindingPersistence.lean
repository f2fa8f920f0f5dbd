import SentinelGpt.ScanRepository
import SentinelGpt.Fingerprinting
import Mathlib.Data.List.Dedup
import Mathlib.Data.List.ReduceOption

/-! The private half of the scan service that stores what a scan has found: findings with
their identities, typed evidence, and the lifecycle history of every fingerprint. -/
namespace SentinelGpt
open ReadCommitted

def categoryFallback : PyStr := py "MISSING_SECURITY_HEADER"

def engineCategoryToCanonical : List (PyStr × PyStr) :=
  [(py "http.security-headers", py "MISSING_SECURITY_HEADER"),
   (py "http.cookies", py "MISSING_SECURITY_HEADER"),
   (py "http.transport", py "WEAK_CIPHER"),
   (py "http.server-info", py "MISSING_SECURITY_HEADER")]

def lookup {α : Type} (table : List (PyStr × α)) (key : PyStr) : Option α :=
  (table.find? fun entry => entry.1 == key).map Prod.snd

def canonicalCategoryCode (python : Python) (engineCategory : PyStr) : PyStr :=
  (lookup engineCategoryToCanonical engineCategory).getD (python.upper engineCategory)

/- A category that is not seeded is stored under the fallback, which is. -/
def mapCategory (python : Python) (engineCategory : PyStr) : Nat :=
  (lookup findingCategories (canonicalCategoryCode python engineCategory)).getD
    ((lookup findingCategories categoryFallback).getD 0)

/- None for a category without a rule, a title without an identifier, and for every
ValueError on the way to the digest. -/
def safeFingerprint (python : Python) (hostname canonicalCategory title location : PyStr) :
    Option PyStr :=
  match Fingerprinting.generateFingerprintFromFinding python hostname canonicalCategory title
      location with
  | .ok fingerprint => some fingerprint
  | .error _ => none

/- Every exception of the digest is one `_safe_fingerprint` expects. -/
theorem fingerprintErrors {python : Python} {hostname category title location : PyStr} {e : PyError}
    (raised : Fingerprinting.generateFingerprintFromFinding python hostname category title location =
      .error e) : e = .unsupportedFingerprintCategory ∨ e.isValueError = true := by
  unfold Fingerprinting.generateFingerprintFromFinding at raised
  cases identified : Fingerprinting.extractIdentifier python category title location with
  | error f =>
    rw [identified] at raised
    cases raised
    unfold Fingerprinting.extractIdentifier at identified
    left
    grind
  | ok identifier =>
    rw [identified] at raised
    simp only [bind, Except.bind, Fingerprinting.generateFingerprint] at raised
    right
    split at raised
    · cases raised; rfl
    · rw [hexdigest, encode] at raised
      split at raised
      · contradiction
      · cases raised; rfl

structure FindingIdentity where
  scanId : Nat
  targetId : Nat
  hostname : PyStr
  affectedAssetDefault : PyStr
  deriving DecidableEq, Repr

/- The target of a scan may be gone; an identity is resolved even then. -/
def identityOf (scan : Scan) : Option Target → FindingIdentity
  | none => ⟨scan.id, scan.targetId, [], py "/"⟩
  | some target =>
    let trimmed := rstrip 0x2F target.normalizedUrl
    ⟨scan.id, scan.targetId, target.hostname, if trimmed.isEmpty then py "/" else trimmed⟩

def resolveFindingIdentity (env : Env) (scan : Scan) : Prog FindingIdentity :=
  env.read .persistTarget fun db => identityOf scan (db.target? scan.targetId)

def engineCodeOf (engineId : Nat) : PyStr :=
  match scanEngines.find? fun entry => entry.1 == engineId with
  | none => py "unknown"
  | some entry => entry.2.take 50

def engineCodeForExecution (env : Env) (execution : ScanEngineExecution) : Prog PyStr :=
  env.read .engineCode fun _ => engineCodeOf execution.scanEngineId

def findingFingerprint (python : Python) (identity : FindingIdentity) (f : Finding) : Option PyStr :=
  safeFingerprint python identity.hostname (canonicalCategoryCode python f.category) f.title
    f.location

def findingRow (env : Env) (identity : FindingIdentity) (execution : ScanEngineExecution)
    (engineCode : PyStr) (index : Nat) (f : Finding) : ScanFinding where
  id := env.newId .addFindings index
  executionId := execution.id
  categoryId := mapCategory env.python f.category
  severityId := severityLevels f.severity
  title := f.title.take 200
  description := f.description
  evidence := f.evidence
  location := f.location.take 500
  recommendation := f.recommendation
  fingerprint := findingFingerprint env.python identity f
  targetId := some identity.targetId
  scanId := some identity.scanId
  sourceEngineCode := some engineCode
  affectedAsset := some ((if f.location.isEmpty then identity.affectedAssetDefault else f.location).take 500)

def findingRows (env : Env) (identity : FindingIdentity) (execution : ScanEngineExecution)
    (engineCode : PyStr) (findings : List Finding) : List ScanFinding :=
  findings.mapIdx (findingRow env identity execution engineCode)

def classifyEvidenceType (python : Python) (f : Finding) : EvidenceType :=
  let title := python.lower f.title
  let category := python.lower f.category
  let evidence := python.lower f.evidence
  if (py "request ").isPrefixOf evidence || Fingerprinting.occurs (py "request metadata") title then
    .requestMetadata
  else if (py "response body").isPrefixOf evidence ||
      Fingerprinting.occurs (py "response body") title then .responseBodySnippet
  else if Fingerprinting.occurs (py "header") title || Fingerprinting.occurs (py "header") category then
    .rawHeader
  else .toolOutputSnippet

def evidenceContent (f : Finding) : PyStr :=
  let content := if !f.evidence.isEmpty then f.evidence
    else if !f.description.isEmpty then f.description else f.title
  content.take 2048

def evidenceRow (env : Env) (index : Nat) (f : Finding) : Option FindingEvidence :=
  let content := evidenceContent f
  if (strip content).isEmpty then none
  else some ⟨env.newId .addFindings index, classifyEvidenceType env.python f, content⟩

/- `_persist_evidence`: the rows wait in the session for its next flush. -/
def evidenceRows (env : Env) (findings : List Finding) : List FindingEvidence :=
  (findings.mapIdx (evidenceRow env)).reduceOption

def previousScanId (env : Env) (scan : Scan) : Prog (Option Nat) :=
  match scan.parentScanId with
  | some parent => return some parent
  | none => env.read .previousScan fun db => db.mostRecentCompleted scan.targetId scan.id

def fingerprintsForScan (env : Env) (scanId : Nat) : Prog (List PyStr) :=
  env.read .previousFingerprints fun db => db.fingerprintsForScan scanId

def fingerprintsIfAny (env : Env) : Option Nat → Prog (List PyStr)
  | none => return []
  | some previous => fingerprintsForScan env previous

/- `_previous_scan_id` and the fingerprints of that scan, none without one. -/
def previousFingerprints (env : Env) (scan : Scan) : Prog (List PyStr) := do
  fingerprintsIfAny env (← previousScanId env scan)

def latestStatusMap (env : Env) (targetId : Nat) (fingerprints : List PyStr) :
    Prog (PyStr → Option LifecycleStatus) :=
  if fingerprints.isEmpty then return fun _ => none
  else do
    env.read .latestCodes fun _ => ()
    env.read .latestStatus fun db fingerprint => db.latestStatus targetId fingerprint

def lifecycleRow (env : Env) (scan : Scan) (current previous : List PyStr)
    (latest : PyStr → Option LifecycleStatus) (index : Nat) (fingerprint : PyStr) :
    Option FindingStatusHistory :=
  (deriveLifecycleStatus (current.contains fingerprint) (previous.contains fingerprint)
    (latest fingerprint)).map fun status =>
      { fingerprint, targetId := scan.targetId, status, observedInScanId := scan.id
        effectiveAt := env.clock .recordLifecycle index }

/- One row for each fingerprint found now or in the previous scan, in some order. -/
def lifecycleRows (env : Env) (scan : Scan) (current previous : List PyStr)
    (latest : PyStr → Option LifecycleStatus) : List FindingStatusHistory :=
  ((current ++ previous).dedup.mapIdx (lifecycleRow env scan current previous latest)).reduceOption

/- The flush at the end sends what the session holds: the evidence and the history. -/
def recordLifecycle (env : Env) (scan : Scan) (current : List PyStr)
    (evidence : List FindingEvidence) : Prog Unit := do
  let previous ← previousFingerprints env scan
  let latest ← latestStatusMap env scan.targetId (current ++ previous)
  env.read .lifecycleIds fun _ => ()
  env.write .recordLifecycle
    [.insertEvidence evidence, .insertHistory (lifecycleRows env scan current previous latest)]

def currentFingerprints (python : Python) (identity : FindingIdentity) (findings : List Finding) :
    List PyStr :=
  (findings.filterMap (findingFingerprint python identity)).filter fun fp => !fp.isEmpty

def persistFindings (env : Env) (scan : Scan) (execution : ScanEngineExecution)
    (result : HttpAnalysisResult) : Prog Unit := do
  let identity ← resolveFindingIdentity env scan
  env.read .categoryIds fun _ => ()
  env.read .severityIds fun _ => ()
  let engineCode ← engineCodeForExecution env execution
  env.write .addFindings [.insertFindings (findingRows env identity execution engineCode result.findings)]
  recordLifecycle env scan (currentFingerprints env.python identity result.findings)
    (evidenceRows env result.findings)

end SentinelGpt
