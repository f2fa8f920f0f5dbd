import SentinelGpt.ScanService

/-! The worker's task around the scan job, and the handler of its failures. -/
namespace SentinelGpt
open ReadCommitted

def tryStuckStates (env : Env) (scan : Scan) : Prog (Option ScanStatus) := do
  if ← tryTransition env .markFromRunning scan.id .running .rejected none
      (some (env.now .markFromRunning)) then return some .running
  else if ← tryTransition env .markFromQueued scan.id .queued .rejected none
      (some (env.now .markFromQueued)) then return some .queued
  else return none

def crashEntries (scan : Scan) (claimedFrom : ScanStatus) (reason : PyStr) : List (PyStr × PyStr) :=
  [(py "from", claimedFrom.code), (py "to", ScanStatus.rejected.code),
   (py "reason", py "worker_crashed:" ++ reason), ownerEntry scan]

def recordWorkerCrash (env : Env) (scan : Scan) (claimedFrom : ScanStatus) (reason : PyStr) :
    Prog Unit := do
  match ← env.read .markEngineId fun _ => engineIdOf headersAnalyzer with
  | none => pure ()
  | some engine =>
    let execution ← createExecution env .markExecution scan.id engine (py "worker-unknown") .failed
      none
    markExecution env .markMark execution.id .failed (some (reason.take 500))
  recordAudit env .markAudit scan (crashEntries scan claimedFrom reason)

def recordIfMoved (env : Env) (scan : Scan) (reason : PyStr) : Option ScanStatus → Prog Unit
  | none => return ()
  | some claimedFrom => recordWorkerCrash env scan claimedFrom reason

def markFound (env : Env) (reason : PyStr) : Option Scan → Prog Unit
  | none => return ()
  | some scan => do
    statusIdsByCode env .markStatusIds
    recordIfMoved env scan reason (← tryStuckStates env scan)
    env.commit .markCommit

def markScanRejected (env : Env) (scanId : Nat) (reason : PyStr) : Prog Unit :=
  Program.session do markFound env reason (← getById env .markGetScan scanId)

def runScanJob (env : Env) (scanId : Nat) : Prog Unit :=
  Program.session do
    env.attempt .settings
    executeScanJob env scanId

/- The exceptions the task takes for outcomes the service has recorded itself. -/
def PyError.isExpectedOutcome : PyError → Bool
  | .attestationNotConfirmedError | .scannerExecutionBlockedError | .targetUnresolvedError => true
  | _ => false

def executeScanJobTask (env : Env) (scanId : Nat) : Prog Unit :=
  (runScanJob env scanId).tryCatch fun exc =>
    if exc.isExpectedOutcome then pure () else markScanRejected env scanId exc.name

/-! One queued scan of an attested target, for the runs below. -/

def answeredResult : HttpAnalysisResult :=
  { timeoutResult with status := some 200, findings := [], errorKind := none, errorDetail := [] }

def plainPipeline (result : HttpAnalysisResult) : ScanPipeline where
  engineCode := some headersAnalyzer
  engineVersion := none
  run _ := .ok result

def plainEnv (python : Python) (time : Time) (pipeline : ScanPipeline)
    (fault : Site → Option PyError) : Env where
  python := python
  clock _ _ := time
  newId _ index := 100 * time + index
  fault := fault
  pipeline := pipeline
  analyzer := none
  aiClock _ := time

def noFault (_ : Site) : Option PyError := none

def queuedScan (id : Nat) (parent : Option Nat) : Scan where
  id := id
  targetId := 1
  scanProfileId := 2
  initiatedByUserId := 1
  authorizationAttestationId := 1
  status := .queued
  parentScanId := parent
  queuedAt := some 0
  startedAt := none
  completedAt := none
  createdAt := 0

def queuedDb : Db where
  scans := [queuedScan 1 none]
  executions := []
  findings := []
  evidence := []
  history := []
  assessments := []
  auditLog := []
  attestations := [⟨1, 1, .confirmed, none, 0⟩]
  targets := [⟨1, none, some 1, py "example.com", py "https://example.com/", false⟩]
  memberships := []

end SentinelGpt
