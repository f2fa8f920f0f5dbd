import SentinelGpt.ScanAdmission
import SentinelGpt.ScanTasks
import SentinelGpt.ScanMoves

/-! What the requests and jobs on scans may do, statement by statement and commit by commit:
every transaction they commit has one of a few forms. -/
namespace SentinelGpt
open ReadCommitted

inductive Request where
  | task (env : Env) (scanId : Nat)
  | job (env : Env) (scanId : Nat)
  | backgroundJob (env : Env) (scanId : Nat)
  | handler (env : Env) (scanId : Nat) (reason : PyStr)
  | cancel (env : Env) (principal : Option Nat) (scanId : Nat)
  | revocation (env : Env) (user attestationId : Nat) (reason : PyStr)
  | admission (env : Env) (principal : Option Nat) (executionEnabled : Bool) (request : Admission)

namespace Request

def program : Request → Prog Unit
  | .task env scanId => executeScanJobTask env scanId
  | .job env scanId => runScanJob env scanId
  | .backgroundJob env scanId => buildBackgroundJob env scanId
  | .handler env scanId reason => markScanRejected env scanId reason
  | .cancel env principal scanId => cancelRequest env principal scanId
  | .revocation env user attestationId reason => revokeRequest env user attestationId reason
  | .admission env principal executionEnabled request =>
      admissionRequest env principal executionEnabled request

/- The stored scan a request is about. -/
def scan? : Request → Option Nat
  | .task _ scanId | .job _ scanId | .backgroundJob _ scanId | .handler _ scanId _ |
    .cancel _ _ scanId => some scanId
  | .revocation _ _ _ _ | .admission _ _ _ _ => none

end Request

def commits (log : Log) : List Site :=
  log.filterMap fun
    | .commit site => some site
    | _ => none

@[simp] theorem commitsNil : commits [] = [] := rfl

inductive Authorized (env : Env) (s : Nat) (scan : Scan) : Log → Prop where
  | checked {db₀ db₁ db₂ db₃ : Db} {claim : List Write} {attestation : AuthorizationAttestation}
      (loaded : db₀.scan? s = some scan)
      (found : db₃.attestation? scan.authorizationAttestationId = some attestation)
      (active : attestationActive attestation (env.now .getAttestation) = true) (claimed : claim ≠ [])
      (rest : Log) :
      Authorized env s scan (.exec .getScan db₀ [] :: .exec .statusIds db₁ [] ::
        .exec .claim db₂ claim :: .exec .getAttestation db₃ [] :: rest)

def CommitsMove (s : Nat) (m : ScanStatus × ScanStatus) (log : Log) : Prop :=
  ∃ before site after, log = before ++ .commit site :: after ∧ m ∈ moves s before

def Claims (s : Nat) (log : Log) : Prop := CommitsMove s (.queued, .running) log

def Started (env : Env) (s : Nat) (log : Log) : Prop :=
  ∃ before after engine version startedAt, log = before ++ .commit .startCommit :: after ∧
    (.queued, .running) ∈ moves s before ∧
    .insertExecution (executionRow env .createExecution s engine version .running startedAt) ∈
      staged before

structure TransitionRow (s : Nat) (code : PyStr) (entry : AuditLogEntry) : Prop where
  action : entry.actionCode = py "SCAN_STATE_TRANSITION"
  entity : entry.entityId = s
  entered : lookup entry.metadataJson (py "to") = some code

inductive Lost (s : Nat) (site : Site) (source : ScanStatus) (ms : List (ScanStatus × ScanStatus))
    (cs : List Site) (log : Log) : Prop where
  | missed {before after : Log} {db : Db} (split : log = before ++ .exec site db [] :: after)
      (other : db.statusOf s ≠ some source) (moved : moves s before = ms) (done : commits before = cs)

inductive Attempt (s : Nat) (log : Log) (site : Site) (source target : ScanStatus)
    (before : List (ScanStatus × ScanStatus)) (cs : List Site) :
    List Write → List (ScanStatus × ScanStatus) → Prop where
  | found {startedAt completedAt : Option Time} :
      Attempt s log site source target before cs [.transition s target startedAt completedAt]
        [(source, target)]
  | missed (lost : Lost s site source before cs log) : Attempt s log site source target before cs [] []

inductive Selects (scan : Scan) (log : Log) : Option Nat → Prop where
  | parent {id : Nat} (given : scan.parentScanId = some id) : Selects scan log (some id)
  | recent {db : Db} (orphan : scan.parentScanId = none) (read : .exec .previousScan db [] ∈ log) :
      Selects scan log (db.mostRecentCompleted scan.targetId scan.id)

inductive Compares (scan : Scan) (log : Log) : Option Nat → List PyStr → Prop where
  | none (selected : Selects scan log none) : Compares scan log none []
  | some {id : Nat} {db : Db} (selected : Selects scan log (some id))
      (read : .exec .previousFingerprints db [] ∈ log) :
      Compares scan log (some id) (db.fingerprintsForScan id)

inductive Knows (scan : Scan) (log : Log) (fingerprints : List PyStr) :
    (PyStr → Option LifecycleStatus) → Prop where
  | nothing {latest : PyStr → Option LifecycleStatus} (empty : fingerprints = []) :
      Knows scan log fingerprints latest
  | read {before after : Log} {db : Db} (split : log = before ++ .exec .latestStatus db [] :: after)
      (none : ∀ rows, .insertHistory rows ∉ staged before) :
      Knows scan log fingerprints (db.latestStatus scan.targetId)

def fingerprintsOf (rows : List ScanFinding) : List PyStr :=
  (rows.filterMap ScanFinding.fingerprint).filter fun fp => !fp.isEmpty

inductive Records (env : Env) (s : Nat) (log : Log) (rows : List ScanFinding) :
    List FindingStatusHistory → Prop where
  | recorded {scan : Scan} {db : Db} {compared : Option Nat} {previous : List PyStr}
      {latest : PyStr → Option LifecycleStatus}
      (loaded : .exec .getScan db [] ∈ log ∧ db.scan? s = some scan)
      (owned : ∀ f ∈ rows, f.scanId = some s ∧ f.executionId = env.newId .createExecution 0)
      (compares : Compares scan log compared previous)
      (knows : Knows scan log (fingerprintsOf rows ++ previous) latest) :
      Records env s log rows (lifecycleRows env scan (fingerprintsOf rows) previous latest)

inductive HandlerRows (env : Env) (s : Nat) : List Write → Prop where
  | none : HandlerRows env s []
  | recorded {engine : Nat} {version : PyStr} {at_ : Time} {reason : Option PyStr} :
      HandlerRows env s
        [.insertExecution (executionRow env .markExecution s engine version .failed none),
         .markExecution (env.newId .markExecution 0) .failed at_ reason]

inductive AssessmentWrite (executionId : Nat) : Write → Prop where
  | inserted {row : ScanAiAssessment} (of_ : row.executionId = executionId) :
      AssessmentWrite executionId (.insertAssessment row)
  | updated {id : Nat} {row : ScanAiAssessment} (of_ : row.executionId = executionId) :
      AssessmentWrite executionId (.updateAssessment id row)

/- The transactions a job, a failure handler or a cancellation commits: where, with which
writes and moves of its scan, and after which commits. -/
inductive Committed (env : Env) (s : Nat) (log : Log) :
    Site → List Write → List (ScanStatus × ScanStatus) → List Site → Prop where
  | start {scan : Scan} {engine : Nat} {version : PyStr} {startedAt claimedAt : Option Time}
      (authorized : Authorized env s scan log) :
      Committed env s log .startCommit
        [.transition s .running claimedAt none,
         .insertExecution (executionRow env .createExecution s engine version .running startedAt)]
        [(.queued, .running)] []
  | refused {entry : AuditLogEntry} {engine : Nat} {version : PyStr}
      {claimedAt began ended : Option Time} {marked : Time} {reason : Option PyStr} (row : TransitionRow s ScanStatus.rejected.code entry) :
      Committed env s log .rejectCommit
        [.transition s .running claimedAt none, .insertAudit entry,
         .insertExecution (executionRow env .rejectExecution s engine version .failed none),
         .markExecution (env.newId .rejectExecution 0) .failed marked reason,
         .transition s .rejected began ended]
        [(.queued, .running), (.running, .rejected)] []
  | failed {entry : AuditLogEntry} {marked : Time} {reason : Option PyStr} {ws : List Write}
      {ms : List (ScanStatus × ScanStatus)} (started : Started env s log)
      (row : TransitionRow s ScanStatus.rejected.code entry)
      (attempt : Attempt s log .failTransition .running .rejected [] [.startCommit] ws ms) :
      Committed env s log .failCommit
        ([.markExecution (env.newId .createExecution 0) .failed marked reason, .insertAudit entry] ++ ws)
        ms [.startCommit]
  | completed {entry : AuditLogEntry} {db : Db} {marked : Time} {rows : List ScanFinding}
      {evidence : List FindingEvidence} {history : List FindingStatusHistory} {ws ws' : List Write}
      {ms ms' : List (ScanStatus × ScanStatus)} (started : Started env s log)
      (audited : .exec .auditSucceeded db [.insertAudit entry] ∈ log)
      (row : TransitionRow s (py "EXECUTION_SUCCEEDED") entry)
      (records : Records env s log rows history)
      (completes : Attempt s log .scanComplete .running .scanComplete [] [.startCommit] ws ms)
      (analyses : Attempt s log .aiAnalysis .scanComplete .aiAnalysis ms [.startCommit] ws' ms')
      (both : ms ≠ [] → ms' ≠ []) :
      Committed env s log .aiCommit
        ([.insertAudit entry, .markExecution (env.newId .createExecution 0) .succeeded marked none,
          .insertFindings rows, .insertEvidence evidence, .insertHistory history] ++ ws ++ ws')
        (ms ++ ms') [.startCommit]
  | assessed {entry : AuditLogEntry} {db : Db} {w : Write} {final : ScanStatus} {ws : List Write}
      {ms : List (ScanStatus × ScanStatus)} (started : Started env s log)
      (audited : .exec .auditSucceeded db [.insertAudit entry] ∈ log)
      (assessment : AssessmentWrite (env.newId .createExecution 0) w)
      (ends : final = .reportReady ∨ final = .reportReadyDegraded)
      (attempt : Attempt s log .finalTransition .aiAnalysis final [] [.startCommit, .aiCommit] ws ms) :
      Committed env s log .finalCommit (w :: ws) ms [.startCommit, .aiCommit]
  | idle {cs : List Site} : Committed env s log .markCommit [] [] cs
  | handled {source : ScanStatus} {entry : AuditLogEntry} {rows : List Write} {ended : Option Time}
      {cs : List Site} (stuck : source = .queued ∨ source = .running)
      (recorded : HandlerRows env s rows) (row : TransitionRow s ScanStatus.rejected.code entry) :
      Committed env s log .markCommit
        (.transition s .rejected none ended :: (rows ++ [.insertAudit entry])) [(source, .rejected)] cs
  | cancelled {source : ScanStatus} {db : Db} {ended : Option Time}
      (found : .exec .cancelTransition db [.transition s .cancelled none ended] ∈ log)
      (here : db.statusOf s = some source) (may : source.mayMove .cancelled = true) :
      Committed env s log .cancelCommit [.transition s .cancelled none ended] [(source, .cancelled)] []

structure Launches (env : Env) (s : Nat) (log : Log) : Prop where
  authorized : ∃ scan, Authorized env s scan log
  started : Started env s log
  next : ∃ before, log = before ++ [.commit .startCommit]
  once : commits log = [.startCommit]

/- A client on a scan sees the moves it has staged; in return its statements are sound, its
transactions of the forms above, and its pipeline runs only when authorized and started. -/
def scanRules (env : Env) (s : Nat) : Contract Db Write Site where
  assume log
    | .exec _ db _ => ∀ m ∈ (moves s log).getLast?, db.statusOf s = some m.2
    | _ => True
  guarantee log
    | .exec _ db writes => Sound (some s) db writes
    | .commit site => Committed env s log site (staged log) (moves s log) (commits log)
    | .call site => site = .pipelineRun → Launches env s log
    | _ => True

inductive Covers (log : Log) (attestationId targetId : Nat) : Prop where
  | read {db : Db} (event : .exec .latestActiveConfirmed db [] ∈ log)
      (covers : (attestationId, targetId) ∈ db.attestationKeys)

inductive OtherCommitted (env : Env) (log : Log) : Site → List Write → List Site → Prop where
  | revoked {id : Nat} {entry : AuditLogEntry} (other : entry.actionCode = py "ATTESTATION_REVOKED") :
      OtherCommitted env log .revokeCommit [.revokeAttestation id, .insertAudit entry] []
  | admitted {row : Scan} {entry : AuditLogEntry} (named : row.id = env.newId .insertScan 0)
      (queued : row.status = .queued ∧ row.completedAt = none)
      (other : entry.actionCode = py "SCAN_REQUESTED")
      (covers : Covers log row.authorizationAttestationId row.targetId) :
      OtherCommitted env log .admitCommit [.insertScan row, .insertAudit entry] []

def otherRules (env : Env) : Contract Db Write Site where
  assume _ _ := True
  guarantee log
    | .exec _ db writes => Sound none db writes
    | .commit site => OtherCommitted env log site (staged log) (commits log)
    | .call site => site ≠ .pipelineRun
    | _ => True

def Request.rules : Request → Contract Db Write Site
  | .task env scanId | .job env scanId | .backgroundJob env scanId | .handler env scanId _ |
    .cancel env _ scanId => scanRules env scanId
  | .revocation env _ _ _ | .admission env _ _ _ => otherRules env

end SentinelGpt
