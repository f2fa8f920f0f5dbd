import SentinelGpt.FindingPersistence
import SentinelGpt.FallbackTemplates
import SentinelGpt.PythonNumbers
import SentinelGpt.UrlSplit

/-! The scan service: the job that runs the authorized chain of a queued scan in stages,
one transaction each, and the cancellation of a scan. -/
namespace SentinelGpt
open ReadCommitted

def attestationActive (attestation : AuthorizationAttestation) (now : Time) : Bool :=
  attestation.status == .confirmed && attestation.expiresAt.all fun expires => now < expires

def originOf (python : Python) (target : Target) : Except PyError Origin := do
  let parts ← urlsplit python target.normalizedUrl
  let lowered := python.lower parts.scheme
  let scheme := if lowered.isEmpty then py "https" else lowered
  let defaultPort := if scheme = py "https" then 443 else 80
  let port ← parts.port
  return {
    hostname := match parts.hostname python with
      | none => target.hostname
      | some [] => target.hostname
      | some name => name
    scheme
    port := match port with
      | none => defaultPort
      | some 0 => defaultPort
      | some n => n
    path := if parts.path.isEmpty then py "/" else parts.path }

def originForTarget (env : Env) (targetId : Nat) : Prog Origin := do
  match ← env.read .getTarget fun db => db.target? targetId with
  | none => throw .notFoundError
  | some target => ofExcept (originOf env.python target)

def attestationReason : PyStr := py "authorization attestation no longer valid"

def rejectionEntries (scan : Scan) : List (PyStr × PyStr) :=
  [(py "from", ScanStatus.queued.code), (py "to", ScanStatus.rejected.code),
   (py "reason", attestationReason), ownerEntry scan]

def rejectUnauthorized (env : Env) (scan : Scan) : Prog Unit := do
  recordAudit env .rejectAudit scan (rejectionEntries scan)
  let engine ← engineId env .rejectEngineId headersAnalyzer
  let execution ← createExecution env .rejectExecution scan.id engine (py "unknown") .failed none
  markExecution env .rejectMark execution.id .failed (some attestationReason)
  let _ ← tryTransition env .rejectTransition scan.id .running .rejected none
    (some (env.now .rejectTransition))
  env.commit .rejectCommit

def failureEntries (scan : Scan) (exc : PyError) : List (PyStr × PyStr) :=
  [(py "from", ScanStatus.running.code), (py "to", ScanStatus.rejected.code),
   (py "reason", exc.name), ownerEntry scan]

/- The controlled failure of the chain. A session whose flush failed refuses every later
statement, so that after a failed audit record nothing here is sent. -/
def rejectFailed (env : Env) (scan : Scan) (execution : ScanEngineExecution) (exc : PyError)
    (flushFailed : Bool) : Prog Unit := do
  if flushFailed then throw (.other (py "PendingRollbackError"))
  markExecution env .failMark execution.id .failed (some exc.name)
  recordAudit env .failAudit scan (failureEntries scan exc)
  let _ ← tryTransition env .failTransition scan.id .running .rejected none
    (some (env.now .failTransition))
  env.commit .failCommit

def successEntries (scan : Scan) : List (PyStr × PyStr) :=
  [(py "from", ScanStatus.running.code), (py "to", py "EXECUTION_SUCCEEDED"), ownerEntry scan]

/- The chain itself, outside every transaction, and the record of its success. None when
the scan has been rejected for its failure. -/
def runPipeline (env : Env) (scan : Scan) (execution : ScanEngineExecution) (origin : Origin) :
    Prog (Option HttpAnalysisResult) := do
  let ran := env.pipeline.run origin
  let body : Prog (Option HttpAnalysisResult) := do
    .call .pipelineRun (.pure ())
    let result ← ofExcept ran
    recordAudit env .auditSucceeded scan (successEntries scan)
    return some result
  body.tryCatch fun exc => do
    rejectFailed env scan execution exc (match ran with | .ok _ => true | .error _ => false)
    return none

def completeScan (env : Env) (scan : Scan) (execution : ScanEngineExecution)
    (result : HttpAnalysisResult) : Prog Unit := do
  markExecution env .markSucceeded execution.id .succeeded none
  persistFindings env scan execution result
  let _ ← tryTransition env .scanComplete scan.id .running .scanComplete none none
  let _ ← tryTransition env .aiAnalysis scan.id .scanComplete .aiAnalysis none none
  env.commit .aiCommit

structure AssessmentDocument where
  payload : List (PyStr × Json)
  isAvailable : Bool
  failureKind : Option PyStr
  provider : PyStr
  model : PyStr
  deriving Repr

def notConfigured (evidence : EvidenceSet) : AssessmentDocument where
  payload := [(py "evidence_set_id", .str evidence.evidenceSetId),
    (py "failure_kind", .text "provider_unavailable"),
    (py "detail", .text "AI provider not configured")]
  isAvailable := false
  failureKind := some (py "provider_unavailable")
  provider := py "none"
  model := py "unavailable"

def documentOf (python : Python) : Outcome → AssessmentDocument
  | .unavailable value => ⟨value.toDict python, false, some value.failureKind.value, py "none",
      py "unavailable"⟩
  | .assessment value => ⟨value.toDict python, true, none,
      (value.providerMetadata.map ProviderMetadata.provider).getD (py "unknown"),
      (value.providerMetadata.map ProviderMetadata.model).getD (py "unknown")⟩

def dictSet (members : List (PyStr × Json)) (name : PyStr) (value : Json) : List (PyStr × Json) :=
  match members with
  | [] => [(name, value)]
  | (k, v) :: rest => if k = name then (k, value) :: rest else (k, v) :: dictSet rest name value

def setDefault (members : List (PyStr × Json)) (name : PyStr) (value : Json) :
    List (PyStr × Json) :=
  match Json.get? members name with
  | some _ => members
  | none => members ++ [(name, value)]

def perFindingFallbackPayload (python : Python) (result : HttpAnalysisResult) :
    List (PyStr × Json) :=
  result.findings.foldl (fun members f => dictSet members f.id
    (FallbackTemplates.buildFallbackExplanation python f.id f.category).toDict) []

def analyzeEvidence (env : Env) (evidence : EvidenceSet) : Prog AssessmentDocument := do
  env.attempt .makeAnalyzer
  match env.analyzer with
  | none => return notConfigured evidence
  | some analyzer =>
    .call .analyze (.pure ())
    env.attempt .analyze
    let answer ← ofExcept
      (AiAnalysisService.analyze env.python analyzer env.aiClock evidence none)
    return documentOf env.python answer.2

/- `_coerce_count`; `str.isdigit` holds of digits that `int` does not read, too. -/
def coerceCount (python : Python) : Json → Except PyError Int
  | .bool value => .ok (if value then 1 else 0)
  | .int n => .ok n
  | .str text =>
    if !text.isEmpty && text.all python.isDigit then (intOfText python text).elim (.error .valueError) .ok else .ok 0
  | _ => .ok 0

def assessmentRow (execution : ScanEngineExecution) (document : AssessmentDocument)
    (payload : List (PyStr × Json)) (count : Int) (id : Nat) : ScanAiAssessment where
  id := id
  executionId := execution.id
  provider := document.provider
  model := document.model
  promptSchemaVersion := promptSchemaVersion
  outputSchemaVersion := outputSchemaVersion
  isAvailable := document.isAvailable
  failureKind := document.failureKind
  unsupportedClaimCount := count
  payload := payload

/- A row that is there already is changed in place, and sent with the commit. -/
def assessmentWrite (env : Env) (execution : ScanEngineExecution) (document : AssessmentDocument)
    (payload : List (PyStr × Json)) (count : Int) : Option Nat → Write
  | some id => .updateAssessment id (assessmentRow execution document payload count id)
  | none => .insertAssessment
      (assessmentRow execution document payload count (env.newId .upsertAssessment 0))

def upsertAiAssessment (env : Env) (execution : ScanEngineExecution)
    (document : AssessmentDocument) (payload : List (PyStr × Json)) (count : Int) : Prog Unit := do
  let existing ← env.read .upsertSelect fun db =>
    (db.assessments.find? fun a => a.executionId == execution.id).map ScanAiAssessment.id
  env.write .upsertAssessment [assessmentWrite env execution document payload count existing]

def assessScan (env : Env) (scan : Scan) (execution : ScanEngineExecution)
    (result : HttpAnalysisResult) : Prog Unit := do
  env.attempt .evidence
  let document ← analyzeEvidence env (EvidenceSet.fromResult env.python result)
  env.attempt .fallback
  let payload := setDefault document.payload (py "findings")
    (.dict (perFindingFallbackPayload env.python result))
  -- The count is asked of the payload itself.
  let count ← ofExcept (coerceCount env.python (.dict payload))
  upsertAiAssessment env execution document payload count
  let final := if document.isAvailable then ScanStatus.reportReady else .reportReadyDegraded
  let _ ← tryTransition env .finalTransition scan.id .aiAnalysis final none
    (some (env.now .finalTransition))
  env.commit .finalCommit

def startChain (env : Env) (scan : Scan) : Prog (ScanEngineExecution × Origin) := do
  env.attempt .buildPipeline
  let origin ← originForTarget env scan.targetId
  let engine ← engineId env .engineId (env.pipeline.engineCode.getD headersAnalyzer)
  let execution ← createExecution env .createExecution scan.id engine
    ((env.pipeline.engineVersion.getD (py "1")).take 50) .running (some (env.now .createExecution))
  env.commit .startCommit
  return (execution, origin)

def finishChain (env : Env) (scan : Scan) (execution : ScanEngineExecution) :
    Option HttpAnalysisResult → Prog Unit
  | none => return ()
  | some result => do
    completeScan env scan execution result
    assessScan env scan execution result

def secureChain (env : Env) (scan : Scan) : Prog Unit := do
  let started ← startChain env scan
  finishChain env scan started.1 (← runPipeline env scan started.1 started.2)

def attestationHolds (env : Env) (attestation : Option AuthorizationAttestation) : Bool :=
  attestation.any fun a => attestationActive a (env.now .getAttestation)

def runClaimed (env : Env) (scan : Scan) : Prog Unit := do
  let attestation ← env.read .getAttestation fun db =>
    db.attestation? scan.authorizationAttestationId
  if attestationHolds env attestation then secureChain env scan
  else rejectUnauthorized env scan

def claimScan (env : Env) (scan : Scan) : Prog Bool := do
  statusIdsByCode env .statusIds
  tryTransition env .claim scan.id .queued .running (some (env.now .claim)) none

def runFound (env : Env) : Option Scan → Prog Unit
  | none => return ()
  | some scan => do if ← claimScan env scan then runClaimed env scan else return ()

def executeScanJob (env : Env) (scanId : Nat) : Prog Unit := do
  runFound env (← getById env .getScan scanId)

def buildBackgroundJob (env : Env) (scanId : Nat) : Prog Unit :=
  (executeScanJob env scanId).session

/-! Cancellation. -/

structure ScanDetails where
  id : Nat
  targetId : Nat
  statusCode : PyStr
  scanProfileCode : PyStr
  initiatedByUserId : Nat
  authorizationAttestationId : Nat
  queuedAt : Option Time
  startedAt : Option Time
  completedAt : Option Time
  createdAt : Time
  deriving DecidableEq, Repr

def getVisibleScan (env : Env) (site : Site) (principal : Option Nat) (scanId : Nat) :
    Prog Scan := do
  match ← getById env site scanId with
  | none => throw .notFoundError
  | some scan =>
    if principal.any fun user => scan.initiatedByUserId != user then throw .notFoundError
    else return scan

def details (env : Env) (statusSite profileSite : Site) (scan : Scan) : Prog ScanDetails := do
  let statusCode ← env.read statusSite fun _ => scan.status.code
  let profile ← env.read profileSite fun _ =>
    scanProfiles.find? fun entry => entry.1 == scan.scanProfileId
  match profile with
  | none => throw .lookupError
  | some entry =>
    return ⟨scan.id, scan.targetId, statusCode, entry.2, scan.initiatedByUserId,
      scan.authorizationAttestationId, scan.queuedAt, scan.startedAt, scan.completedAt,
      scan.createdAt⟩

def cancelScan (env : Env) (principal : Option Nat) (scanId : Nat) : Prog ScanDetails := do
  let scan ← getVisibleScan env (.cancelGetScan scanId) principal scanId
  let current ← env.read .cancelStatusCode fun _ => scan.status
  if current.isTerminal || current == .running then throw .invalidScanStateError
  statusIdsByCode env .cancelStatusIds
  let ended := env.now .cancelTransition
  if ← tryTransition env .cancelTransition scan.id current .cancelled none (some ended) then
    -- The session still holds the row, and the UPDATE has changed it there too.
    details env .cancelDetails .cancelProfile (scan.moved .cancelled none (some ended))
  else throw .invalidScanStateError

def cancelRequest (env : Env) (principal : Option Nat) (scanId : Nat) : Prog Unit :=
  Program.session do
    let _ ← cancelScan env principal scanId
    env.commit .cancelCommit

end SentinelGpt
