import Mathlib.Data.List.Sort
import SentinelGpt.FindingExplanation
import SentinelGpt.LoopDict

/-! The report of a scan: what the assembler reads of one state of the tables. -/
namespace SentinelGpt

def LifecycleStatus.code : LifecycleStatus → PyStr
  | .new => py "NEW"
  | .persistent => py "PERSISTENT"
  | .resolved => py "RESOLVED"
  | .regressed => py "REGRESSED"

namespace ReportAssembler
open FindingExplanation LoopDict

def reportSchemaVersion : PyStr := py "sgpt.report.v1"

structure ReportScanMetadata where
  targetHostname : PyStr
  targetNormalizedUrl : PyStr
  scanId : Nat
  scanProfile : PyStr
  scanStatus : PyStr
  initiatedByUserId : Nat
  queuedAt : Option Time
  startedAt : Option Time
  completedAt : Option Time
  deriving DecidableEq, Repr

structure ReportEngineSummary where
  engineCode : PyStr
  toolVersionSnapshot : PyStr
  status : ExecutionStatus
  startedAt : Option Time
  completedAt : Option Time
  errorMessage : Option PyStr
  deriving DecidableEq, Repr

structure ReportFinding where
  id : Nat
  severity : PyStr
  category : PyStr
  title : PyStr
  description : PyStr
  evidence : PyStr
  location : PyStr
  recommendation : PyStr
  fingerprint : Option PyStr
  affectedAsset : Option PyStr
  sourceEngineCode : Option PyStr
  evidenceRows : List (EvidenceType × PyStr)
  deriving DecidableEq, Repr

structure ReportAssessment where
  available : Bool
  provider : PyStr
  model : PyStr
  promptSchemaVersion : PyStr
  outputSchemaVersion : PyStr
  failureKind : Option PyStr
  unsupportedClaimCount : Int
  overallSummary : PyStr
  priority : Option PyStr
  payload : List (PyStr × Json)
  deriving Repr

structure ReportDocument where
  schemaVersion : PyStr
  generatedAt : Time
  scan : ReportScanMetadata
  engines : List ReportEngineSummary
  findings : List ReportFinding
  assessment : Option ReportAssessment
  severityCounts : List (PyStr × Nat)
  lifecycleCounts : List (PyStr × Nat)
  deriving Repr

def profileCode (profileId : Nat) : PyStr :=
  match scanProfiles.find? fun entry => entry.1 == profileId with
  | some entry => entry.2
  | none => py "unknown"

/- `started_at ASC NULLS LAST`. -/
def startsBefore (a b : ScanEngineExecution) : Prop :=
  match a.startedAt, b.startedAt with
  | _, none => True
  | none, some _ => False
  | some first, some second => first ≤ second

instance (a b : ScanEngineExecution) : Decidable (startsBefore a b) := by
  unfold startsBefore
  split <;> infer_instance

def engines (db : Db) (scanId : Nat) : List ReportEngineSummary :=
  ((db.executions.filter fun x => x.scanId == scanId).insertionSort startsBefore).filterMap fun x =>
    (scanEngines.find? fun entry => entry.1 == x.scanEngineId).map fun entry =>
      ⟨entry.2, x.toolVersionSnapshot, x.status, x.startedAt, x.completedAt, x.errorMessage⟩

def reportFinding (db : Db) (f : ScanFinding) : Option ReportFinding := do
  let (dto, category) ← joined f
  let evidence := db.evidence.filter fun ev => ev.findingId == f.id
  return {
    id := dto.id, severity := dto.severity, category, title := dto.title
    description := dto.description, evidence := dto.evidence, location := dto.location
    recommendation := dto.recommendation, fingerprint := f.fingerprint
    affectedAsset := f.affectedAsset, sourceEngineCode := f.sourceEngineCode
    evidenceRows := evidence.map fun ev => (ev.evidenceType, ev.content) }

def findings (db : Db) (scanId : Nat) : List ReportFinding :=
  (db.findings.filter fun f => ofScan db scanId f.executionId).filterMap (reportFinding db)

def assessment (python : Python) (db : Db) (scanId : Nat) : Except PyError (Option ReportAssessment) :=
  match getAssessment db scanId with
  | none => return none
  | some row => do
    let overallSummary ← strJson python ((Json.get? row.payload (py "overall_summary")).getD (.str []))
    let priority ← match Json.get? row.payload (py "priority") with
      | none | some .null => pure none
      | some value => some <$> strJson python value
    return some {
      available := row.isAvailable, provider := row.provider, model := row.model
      promptSchemaVersion := row.promptSchemaVersion, outputSchemaVersion := row.outputSchemaVersion
      failureKind := row.failureKind, unsupportedClaimCount := row.unsupportedClaimCount
      overallSummary, priority, payload := row.payload }

def laterRow (a b : FindingStatusHistory) : Prop := b.effectiveAt ≤ a.effectiveAt

instance (a b : FindingStatusHistory) : Decidable (laterRow a b) := inferInstanceAs (Decidable (_ ≤ _))

instance : Std.Total laterRow := ⟨fun a b => Nat.le_total b.effectiveAt a.effectiveAt⟩

instance : IsTrans FindingStatusHistory laterRow := ⟨fun _ _ _ first second => Nat.le_trans second first⟩

def historyRows (db : Db) (targetId : Nat) (fingerprints : List PyStr) : List FindingStatusHistory :=
  (db.history.filter fun row => row.targetId == targetId && fingerprints.contains row.fingerprint).insertionSort
    laterRow

def lifecycleCounts (db : Db) (targetId : Nat) (fingerprints : List (Option PyStr)) : List (PyStr × Nat) :=
  let fps := (fingerprints.filterMap id).filter fun fp => !fp.isEmpty
  if fps.isEmpty then []
  else
    let latest := firsts ((historyRows db targetId fps).map fun row => (row.fingerprint, row.status.code))
    tally (latest.map Prod.snd)

def assemble (python : Python) (now : Time) (db : Db) (scanId : Nat) : Except PyError (Option ReportDocument) :=
  match db.scan? scanId with
  | none => return none
  | some scan => do
    let target := db.target? scan.targetId
    let found := findings db scanId
    let assessed ← assessment python db scanId
    return some {
      schemaVersion := reportSchemaVersion
      generatedAt := now
      scan := {
        targetHostname := (target.map Target.hostname).getD []
        targetNormalizedUrl := (target.map Target.normalizedUrl).getD []
        scanId := scan.id
        scanProfile := profileCode scan.scanProfileId
        scanStatus := scan.status.code
        initiatedByUserId := scan.initiatedByUserId
        queuedAt := scan.queuedAt
        startedAt := scan.startedAt
        completedAt := scan.completedAt }
      engines := engines db scanId
      findings := found
      assessment := assessed
      severityCounts := tally (found.map ReportFinding.severity)
      lifecycleCounts := lifecycleCounts db scan.targetId (found.map ReportFinding.fingerprint) }

end ReportAssembler
end SentinelGpt
