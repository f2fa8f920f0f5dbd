import SentinelGpt.ScanTasks

/-! The stages of a scan job that runs alone: the exceptions each can meet, in the order
of their points, and the state it leaves when it meets none. -/
namespace SentinelGpt
open ReadCommitted

def hazardOf {α : Type} : Except PyError α → List (Option PyError)
  | .ok _ => []
  | .error e => [some e]

def Env.faults (env : Env) (sites : List Site) : List (Option PyError) := sites.map env.fault

theorem faultsAppend (env : Env) (sites sites' : List Site) :
    env.faults (sites ++ sites') = env.faults sites ++ env.faults sites' := List.map_append

section Views
variable (db : Db) (ws : List Write)

abbrev seen (db : Db) (ws : List Write) : Db := view Write.effect db ws

theorem seenSnoc (db : Db) (ws : List Write) (w : Write) :
    seen db (ws ++ [w]) = Write.effect (seen db ws) w := viewAppend _ _ _ _

theorem seenAppend (db : Db) (ws ws' : List Write) : seen (seen db ws) ws' = seen db (ws ++ ws') :=
  (viewAppend _ _ _ _).symm

def Write.keepsScans : Write → Bool
  | .insertScan _ | .transition _ _ _ _ => false
  | _ => true

theorem scanStays {db : Db} {id : Nat} (here : (db.statusOf id).isSome = true) (ws : List Write) :
    ((seen db ws).statusOf id).isSome = true := by
  induction ws generalizing db with
  | nil => exact here
  | cons w rest ih =>
    rw [seen, viewCons]
    refine ih ?_
    cases w with
    | insertScan row =>
      simp only [Db.statusOf, Db.scan?, Option.isSome_map, Write.effect, List.find?_append] at here ⊢
      simp [here]
    | transition scanId target startedAt completedAt =>
      rw [Db.statusTransition, Option.isSome_map]
      exact here
    | _ => exact here

theorem movedLast {db : Db} {id : Nat} (here : (db.statusOf id).isSome = true) (ws : List Write)
    (target : ScanStatus) (startedAt completedAt : Option Time) :
    (seen db (ws ++ [.transition id target startedAt completedAt])).statusOf id = some target := by
  rw [seenSnoc, Db.statusTransition]
  obtain ⟨status, found⟩ := Option.isSome_iff_exists.mp (scanStays here ws)
  rw [found]
  simp

def Write.keepsFindings : Write → Bool
  | .insertFindings _ | .insertHistory _ => false
  | _ => true

theorem scansKept {ws : List Write} (keeps : ws.all Write.keepsScans = true) (db : Db) :
    (seen db ws).scans = db.scans := by
  induction ws generalizing db with
  | nil => rfl
  | cons w rest ih =>
    simp only [List.all_cons, Bool.and_eq_true] at keeps
    rw [seen, viewCons, ih keeps.2]
    cases w <;> first | rfl | simp [Write.keepsScans] at keeps

theorem statusKept {ws : List Write} (keeps : ws.all Write.keepsScans = true) (db : Db) (id : Nat) :
    (seen db ws).statusOf id = db.statusOf id := by
  simp only [Db.statusOf, Db.scan?, scansKept keeps db]

theorem findingsKept {ws : List Write} (keeps : ws.all Write.keepsFindings = true) (db : Db) :
    (seen db ws).findings = db.findings ∧ (seen db ws).history = db.history := by
  induction ws generalizing db with
  | nil => exact ⟨rfl, rfl⟩
  | cons w rest ih =>
    simp only [List.all_cons, Bool.and_eq_true] at keeps
    rw [seen, viewCons]
    obtain ⟨findings, history⟩ := ih keeps.2 (Write.effect db w)
    rw [findings, history]
    cases w <;> first | exact ⟨rfl, rfl⟩ | simp [Write.keepsFindings] at keeps

theorem targetsKept (db : Db) (ws : List Write) : (seen db ws).targets = db.targets := by
  induction ws generalizing db with
  | nil => rfl
  | cons w rest ih =>
    rw [seen, viewCons, ← seen, ih]
    cases w <;> rfl

end Views

section Rules
variable {env : Env} {α : Type} {store : Db} {pending : List Write}

theorem passesStatement (site : Site) (writes : Db → List Write) (result : Db → α) :
    Passes Write.effect (env.statement site writes result) store pending [env.fault site] store
      (pending ++ writes (seen store pending)) (result (seen store pending)) := by
  unfold Env.statement
  cases env.fault site with
  | some e => exact ⟨fun f same => by cases same; exact ⟨rfl, rfl⟩, fun none => by contradiction⟩
  | none => exact ⟨fun f some => by contradiction, fun _ => rfl⟩

theorem passesRead (site : Site) (result : Db → α) :
    Passes Write.effect (env.read site result) store pending [env.fault site] store pending
      (result (seen store pending)) := by
  have passes : Passes Write.effect (env.read site result) store pending [env.fault site] store
      (pending ++ []) (result (seen store pending)) := passesStatement site (fun _ => []) result
  rwa [List.append_nil] at passes

theorem passesWrite (site : Site) (writes : List Write) :
    Passes Write.effect (env.write site writes) store pending [env.fault site] store
      (pending ++ writes) () :=
  passesStatement site (fun _ => writes) fun _ => ()

theorem passesAttempt (site : Site) :
    Passes Write.effect (env.attempt site) store pending [env.fault site] store pending () := by
  unfold Env.attempt
  cases env.fault site with
  | some e => exact ⟨fun f same => by cases same; exact ⟨rfl, rfl⟩, fun none => by contradiction⟩
  | none => exact ⟨fun f some => by contradiction, fun _ => rfl⟩

theorem passesCommit (site : Site) :
    Passes Write.effect (env.commit site) store pending [env.fault site] (seen store pending) []
      () := by
  unfold Env.commit
  cases env.fault site with
  | some e => exact ⟨fun f same => by cases same; exact ⟨rfl, rfl⟩, fun none => by contradiction⟩
  | none => exact ⟨fun f some => by contradiction, fun _ => rfl⟩

theorem passesCall (site : Site) :
    Passes Write.effect (.call site (.pure ()) : Prog Unit) store pending [] store pending () :=
  ⟨fun e some => by contradiction, fun _ => rfl⟩

theorem passesExcept {r : Except PyError α} {a : α} (ok : r = .ok a) :
    Passes Write.effect (ofExcept r) store pending (hazardOf r) store pending a := by
  subst ok
  exact ⟨fun e some => by contradiction, fun _ => rfl⟩

theorem passesTryTransition (site : Site) (scanId : Nat) (source target : ScanStatus)
    (startedAt completedAt : Option Time) :
    Passes Write.effect (tryTransition env site scanId source target startedAt completedAt) store
      pending [env.fault site] store
      (pending ++ if (seen store pending).statusOf scanId = some source then
        [.transition scanId target startedAt completedAt] else [])
      (decide ((seen store pending).statusOf scanId = some source)) :=
  passesStatement site _ _

theorem passesTransition (site : Site) {scanId : Nat} {source : ScanStatus} (target : ScanStatus)
    (startedAt completedAt : Option Time) (here : (seen store pending).statusOf scanId = some source) :
    Passes Write.effect (tryTransition env site scanId source target startedAt completedAt) store
      pending [env.fault site] store
      (pending ++ [.transition scanId target startedAt completedAt]) true := by
  have passes : Passes Write.effect (tryTransition env site scanId source target startedAt
      completedAt) store pending [env.fault site] store _ _ :=
    passesTryTransition site scanId source target startedAt completedAt
  simpa only [here, if_true, decide_true] using passes

theorem passesNoTransition (site : Site) {scanId : Nat} {source : ScanStatus} (target : ScanStatus)
    (startedAt completedAt : Option Time) (other : (seen store pending).statusOf scanId ≠ some source) :
    Passes Write.effect (tryTransition env site scanId source target startedAt completedAt) store
      pending [env.fault site] store pending false := by
  have passes : Passes Write.effect (tryTransition env site scanId source target startedAt
      completedAt) store pending [env.fault site] store _ _ :=
    passesTryTransition site scanId source target startedAt completedAt
  simpa only [other, if_false, decide_false, List.append_nil] using passes

theorem passesCreate (site : Site) (scanId engine : Nat) (version : PyStr)
    (status : ExecutionStatus) (startedAt : Option Time) :
    Passes Write.effect (createExecution env site scanId engine version status startedAt) store
      pending [env.fault site] store
      (pending ++ [.insertExecution (executionRow env site scanId engine version status startedAt)])
      (executionRow env site scanId engine version status startedAt) :=
  (passesWrite site _).bind (.pure _)

theorem passesMark (site : Site) (executionId : Nat) (status : ExecutionStatus)
    (errorMessage : Option PyStr) :
    Passes Write.effect (markExecution env site executionId status errorMessage) store pending
      [env.fault site] store
      (pending ++ [.markExecution executionId status (env.now site) errorMessage]) () :=
  passesWrite site _

theorem passesEngine {site : Site} {code : PyStr} {id : Nat} (seeded : engineIdOf code = some id) :
    Passes Write.effect (engineId env site code) store pending [env.fault site] store pending id := by
  refine .bind (passesRead _ _) ?_
  rw [seeded]
  exact .pure id

end Rules

def Db.comparedScan (db : Db) (scan : Scan) : Option Nat :=
  scan.parentScanId.or (db.mostRecentCompleted scan.targetId scan.id)

def Db.fingerprintsIfAny (db : Db) : Option Nat → List PyStr
  | none => []
  | some previous => db.fingerprintsForScan previous

def Db.comparedFingerprints (db : Db) (scan : Scan) : List PyStr :=
  db.fingerprintsIfAny (db.comparedScan scan)

def recordedHistory (env : Env) (scan : Scan) (current : List PyStr) (db : Db) :
    List FindingStatusHistory :=
  lifecycleRows env scan current (db.comparedFingerprints scan) (db.latestStatus scan.targetId)

def lifecycleSites (scan : Scan) (current : List PyStr) (db : Db) : List Site :=
  (if scan.parentScanId.isNone then [.previousScan] else []) ++
  (if (db.comparedScan scan).isSome then [.previousFingerprints] else []) ++
  (if (current ++ db.comparedFingerprints scan).isEmpty then [] else [.latestCodes, .latestStatus]) ++
  [.lifecycleIds, .recordLifecycle]

section Lifecycle
variable {env : Env} {store : Db} {pending : List Write}

theorem passesIfAny (found : Option Nat) :
    Passes Write.effect (fingerprintsIfAny env found) store pending
      (env.faults (if found.isSome then [.previousFingerprints] else [])) store pending
      ((seen store pending).fingerprintsIfAny found) := by
  cases found with
  | none => exact .pure []
  | some previous => exact passesRead _ _

theorem passesPrevious (scan : Scan) :
    Passes Write.effect (previousFingerprints env scan) store pending
      (env.faults (if scan.parentScanId.isNone then [.previousScan] else []) ++
        env.faults (if ((seen store pending).comparedScan scan).isSome then
          [.previousFingerprints] else []))
      store pending ((seen store pending).comparedFingerprints scan) := by
  refine .bind ?_ (passesIfAny _)
  unfold previousScanId Db.comparedScan
  cases scan.parentScanId with
  | some parent => exact .pure _
  | none => exact passesRead _ _

theorem lifecycleRowsNil (scan : Scan) {current previous : List PyStr}
    (none : (current ++ previous).isEmpty = true) (latest : PyStr → Option LifecycleStatus) :
    lifecycleRows env scan current previous latest = [] := by
  rw [List.isEmpty_iff] at none
  rw [lifecycleRows, none, List.dedup_nil, List.mapIdx_nil, List.reduceOption_nil]

theorem passesLatest (env : Env) (store : Db) (pending : List Write) (scan : Scan) (fingerprints : List PyStr) :
    ∃ latest, Passes Write.effect (latestStatusMap env scan.targetId fingerprints) store pending
        (env.faults (if fingerprints.isEmpty then [] else [.latestCodes, .latestStatus])) store
        pending latest ∧
      (fingerprints.isEmpty = false → latest = (seen store pending).latestStatus scan.targetId) := by
  unfold latestStatusMap
  cases fingerprints.isEmpty with
  | true => exact ⟨_, .pure _, fun some => by contradiction⟩
  | false => exact ⟨_, (passesRead _ _).bind (passesRead _ _), fun _ => rfl⟩

theorem passesLifecycle (env : Env) (store : Db) (pending : List Write) (scan : Scan) (current : List PyStr) (evidence : List FindingEvidence) :
    Passes Write.effect (recordLifecycle env scan current evidence) store pending
      (env.faults (lifecycleSites scan current (seen store pending))) store
      (pending ++ [.insertEvidence evidence,
        .insertHistory (recordedHistory env scan current (seen store pending))]) () := by
  obtain ⟨latest, passes, same⟩ := passesLatest env store pending scan
    (current ++ (seen store pending).comparedFingerprints scan)
  have rows : lifecycleRows env scan current ((seen store pending).comparedFingerprints scan) latest =
      recordedHistory env scan current (seen store pending) := by
    cases none : (current ++ (seen store pending).comparedFingerprints scan).isEmpty with
    | true => rw [recordedHistory, lifecycleRowsNil scan none, lifecycleRowsNil scan none]
    | false => rw [recordedHistory, same none]
  rw [lifecycleSites, faultsAppend, faultsAppend, faultsAppend, ← rows, List.append_assoc]
  exact (passesPrevious scan).bind (passes.bind ((passesRead _ _).bind (passesWrite _ _)))

/- What `_persist_findings` stages: the findings, then what it records about them. -/
def persistedRows (env : Env) (scan : Scan) (execution : ScanEngineExecution)
    (result : HttpAnalysisResult) (db : Db) : List ScanFinding :=
  findingRows env (identityOf scan (db.target? scan.targetId)) execution
    (engineCodeOf execution.scanEngineId) result.findings

def foundNow (env : Env) (scan : Scan) (result : HttpAnalysisResult) (db : Db) : List PyStr :=
  currentFingerprints env.python (identityOf scan (db.target? scan.targetId)) result.findings

def withFindings (env : Env) (scan : Scan) (execution : ScanEngineExecution)
    (result : HttpAnalysisResult) (db : Db) : Db :=
  Write.effect db (.insertFindings (persistedRows env scan execution result db))

theorem filterMapIdx {α β γ : Type} (f : Nat → α → β) (g : β → Option γ) (h : α → Option γ)
    (same : ∀ i a, g (f i a) = h a) (l : List α) : (l.mapIdx f).filterMap g = l.filterMap h := by
  induction l generalizing f with
  | nil => rfl
  | cons a rest ih =>
    simp only [List.mapIdx_cons, List.filterMap_cons, same]
    rw [ih (fun i => f (i + 1)) fun i a => same (i + 1) a]

theorem persistedOwned {env : Env} {scan : Scan} {execution : ScanEngineExecution}
    {result : HttpAnalysisResult} {db : Db} {row : ScanFinding}
    (member : row ∈ persistedRows env scan execution result db) : row.scanId = some scan.id := by
  obtain ⟨i, bound, rfl⟩ := List.mem_mapIdx.mp member
  simp only [findingRow, identityOf]
  split <;> rfl

theorem fingerprintsAdded (env : Env) (scan : Scan) (execution : ScanEngineExecution)
    (result : HttpAnalysisResult) (db : Db) (id : Nat) :
    (withFindings env scan execution result db).fingerprintsForScan id =
      db.fingerprintsForScan id ++ if id = scan.id then foundNow env scan result db else [] := by
  have found : ((persistedRows env scan execution result db).filterMap ScanFinding.fingerprint) =
      result.findings.filterMap
        (findingFingerprint env.python (identityOf scan (db.target? scan.targetId))) :=
    filterMapIdx (findingRow env _ execution _) ScanFinding.fingerprint _ (fun _ _ => rfl) _
  have mine : (persistedRows env scan execution result db).filter (fun f => f.scanId == some id) =
      if id = scan.id then persistedRows env scan execution result db else [] := by
    split
    · rename_i same
      refine List.filter_eq_self.mpr fun row member => ?_
      simp [persistedOwned member, same]
    · rename_i other
      refine List.filter_eq_nil_iff.mpr fun row member => ?_
      simp [persistedOwned member, Ne.symm other]
  simp only [Db.fingerprintsForScan, withFindings, Write.effect, List.filter_append,
    List.filterMap_append, mine]
  split
  · rw [found]; rfl
  · rfl

def persistSites (env : Env) (scan : Scan) (result : HttpAnalysisResult) (db : Db) : List Site :=
  [.persistTarget, .categoryIds, .severityIds, .engineCode, .addFindings] ++
    lifecycleSites scan (foundNow env scan result db) db

theorem comparedAdded (env : Env) (scan : Scan) (execution : ScanEngineExecution)
    (result : HttpAnalysisResult) (db : Db) (fp : PyStr) :
    fp ∈ (withFindings env scan execution result db).comparedFingerprints scan ↔
      fp ∈ db.comparedFingerprints scan ∨
        (db.comparedScan scan = some scan.id ∧ fp ∈ foundNow env scan result db) := by
  have same : (withFindings env scan execution result db).comparedScan scan =
      db.comparedScan scan := rfl
  rw [Db.comparedFingerprints, Db.comparedFingerprints, same]
  cases db.comparedScan scan with
  | none => simp [Db.fingerprintsIfAny]
  | some id =>
    simp only [Db.fingerprintsIfAny, fingerprintsAdded, List.mem_append, Option.some.injEq]
    by_cases self : id = scan.id <;> simp [self]

theorem lifecycleSitesAdded (env : Env) (scan : Scan) (execution : ScanEngineExecution)
    (result : HttpAnalysisResult) (db : Db) :
    lifecycleSites scan (foundNow env scan result db) (withFindings env scan execution result db) =
      lifecycleSites scan (foundNow env scan result db) db := by
  have same : (withFindings env scan execution result db).comparedScan scan =
      db.comparedScan scan := rfl
  have considered : (foundNow env scan result db ++
      (withFindings env scan execution result db).comparedFingerprints scan).isEmpty =
        (foundNow env scan result db ++ db.comparedFingerprints scan).isEmpty := by
    rw [Bool.eq_iff_iff, List.isEmpty_iff, List.isEmpty_iff]
    simp only [List.eq_nil_iff_forall_not_mem, List.mem_append, comparedAdded]
    grind
  rw [lifecycleSites, lifecycleSites, same, considered]

theorem passesPersist (env : Env) (store : Db) (pending : List Write) (scan : Scan)
    (execution : ScanEngineExecution) (result : HttpAnalysisResult) :
    Passes Write.effect (persistFindings env scan execution result) store pending
      (env.faults (persistSites env scan result (seen store pending))) store
      (pending ++ [.insertFindings (persistedRows env scan execution result (seen store pending)),
        .insertEvidence (evidenceRows env result.findings),
        .insertHistory (recordedHistory env scan (foundNow env scan result (seen store pending))
          (withFindings env scan execution result (seen store pending)))]) () := by
  have recorded := passesLifecycle env store
    (pending ++ [.insertFindings (persistedRows env scan execution result (seen store pending))])
    scan (foundNow env scan result (seen store pending)) (evidenceRows env result.findings)
  rw [seenSnoc, List.append_assoc, ← withFindings, lifecycleSitesAdded] at recorded
  rw [persistSites, faultsAppend]
  have passes : Passes Write.effect (persistFindings env scan execution result) store pending _ store
      _ () :=
    .bind (passesRead _ _) (.bind (passesRead _ _) (.bind (passesRead _ _)
      (.bind (passesRead _ _) (.bind (passesWrite _ _) recorded))))
  exact passes

end Lifecycle

structure Agrees (scan : Scan) (db db' : Db) : Prop where
  targets : db'.targets = db.targets
  findings : db'.findings = db.findings
  history : db'.history = db.history
  compared : db'.comparedScan scan = db.comparedScan scan

namespace Agrees
variable {scan : Scan} {db db' : Db} (agrees : Agrees scan db db')
include agrees

theorem target (id : Nat) : db'.target? id = db.target? id := by
  rw [Db.target?, Db.target?, agrees.targets]

theorem found (env : Env) (result : HttpAnalysisResult) :
    foundNow env scan result db' = foundNow env scan result db := by
  rw [foundNow, foundNow, agrees.target]

theorem persisted (env : Env) (execution : ScanEngineExecution) (result : HttpAnalysisResult) :
    persistedRows env scan execution result db' = persistedRows env scan execution result db := by
  rw [persistedRows, persistedRows, agrees.target]

theorem fingerprints : db'.comparedFingerprints scan = db.comparedFingerprints scan := by
  rw [Db.comparedFingerprints, Db.comparedFingerprints, agrees.compared]
  cases db.comparedScan scan with
  | none => rfl
  | some id => simp only [Db.fingerprintsIfAny, Db.fingerprintsForScan, agrees.findings]

theorem sites (env : Env) (result : HttpAnalysisResult) :
    persistSites env scan result db' = persistSites env scan result db := by
  rw [persistSites, persistSites, lifecycleSites, lifecycleSites, agrees.found, agrees.compared,
    agrees.fingerprints]

theorem added (env : Env) (execution : ScanEngineExecution) (result : HttpAnalysisResult) :
    Agrees scan (withFindings env scan execution result db)
      (withFindings env scan execution result db') where
  targets := agrees.targets
  findings := by simp only [withFindings, Write.effect, agrees.findings, agrees.persisted]
  history := agrees.history
  compared := agrees.compared

theorem recorded (env : Env) (current : List PyStr) :
    recordedHistory env scan current db' = recordedHistory env scan current db := by
  rw [recordedHistory, recordedHistory, agrees.fingerprints]
  congr 1
  funext fp
  simp only [Db.latestStatus, Db.historyOf, agrees.history]

end Agrees

/-! The transactions of the job. Rows that are neither scans nor findings nor history are
of no concern to the next ones. -/

def Quiet (ws : List Write) : Prop :=
  ws.all Write.keepsScans = true ∧ ws.all Write.keepsFindings = true

theorem quietStatus {ws : List Write} (quiet : Quiet ws) (store : Db) (pending : List Write)
    (id : Nat) : (seen store (pending ++ ws)).statusOf id = (seen store pending).statusOf id := by
  rw [seen, viewAppend]
  exact statusKept quiet.1 _ id

section Transactions
variable (env : Env) {store : Db} {pending : List Write} (scan : Scan)

def rejectSites : List Site :=
  [.rejectAudit, .rejectEngineId, .rejectExecution, .rejectMark, .rejectTransition, .rejectCommit]

def rejectRows : List Write :=
  let execution := executionRow env .rejectExecution scan.id 4 (py "unknown") .failed none
  [.insertAudit (auditRow env .rejectAudit scan (rejectionEntries scan)),
   .insertExecution execution,
   .markExecution execution.id .failed (env.now .rejectMark) (some attestationReason)]

theorem passesReject (running : (seen store pending).statusOf scan.id = some .running) :
    Passes Write.effect (rejectUnauthorized env scan) store pending (env.faults rejectSites)
      (seen store (pending ++ rejectRows env scan ++
        [.transition scan.id .rejected none (some (env.now .rejectTransition))])) [] () := by
  have passes : Passes Write.effect (rejectUnauthorized env scan) store pending _ _ [] () :=
    .bind (passesWrite _ _) (.bind (passesEngine rfl) (.bind (passesCreate _ _ _ _ _ _)
      (.bind (passesMark _ _ _ _) (.bind
        (passesTransition _ _ _ _ (by simp only [seenSnoc]; exact running)) (passesCommit _)))))
  simp only [List.append_assoc] at passes ⊢
  exact passes

def failSites : List Site := [.failMark, .failAudit, .failTransition, .failCommit]

def failRows (execution : ScanEngineExecution) (exc : PyError) : List Write :=
  [.markExecution execution.id .failed (env.now .failMark) (some exc.name),
   .insertAudit (auditRow env .failAudit scan (failureEntries scan exc))]

theorem passesFail (execution : ScanEngineExecution) (exc : PyError)
    (running : (seen store pending).statusOf scan.id = some .running) :
    Passes Write.effect (rejectFailed env scan execution exc false) store pending
      (env.faults failSites)
      (seen store (pending ++ failRows env scan execution exc ++
        [.transition scan.id .rejected none (some (env.now .failTransition))])) [] () := by
  have passes : Passes Write.effect (rejectFailed env scan execution exc false) store pending _ _ []
      () :=
    .bind (passesMark _ _ _ _) (.bind (passesWrite _ _) (.bind
      (passesTransition _ _ _ _ (by simp only [seenSnoc]; exact running)) (passesCommit _)))
  simp only [List.append_assoc] at passes ⊢
  exact passes

theorem passesFailedPipeline (execution : ScanEngineExecution) (origin : Origin) {exc : PyError}
    (failed : env.pipeline.run origin = .error exc)
    (running : (seen store pending).statusOf scan.id = some .running) :
    Passes Write.effect (runPipeline env scan execution origin) store pending (env.faults failSites)
      (seen store (pending ++ failRows env scan execution exc ++
        [.transition scan.id .rejected none (some (env.now .failTransition))])) [] none := by
  have same : runPipeline env scan execution origin =
      .call .pipelineRun (do rejectFailed env scan execution exc false; return none) := by
    unfold runPipeline
    rw [failed]
    rfl
  have passes : Passes Write.effect (do rejectFailed env scan execution exc false; return none :
      Prog (Option HttpAnalysisResult)) store pending _ _ [] none :=
    (passesFail env scan execution exc running).bindLast (.pure _)
  rw [same]
  exact ⟨passes.stopped, passes.ended⟩

theorem passesUnrecorded (execution : ScanEngineExecution) (origin : Origin)
    {result : HttpAnalysisResult} {exc : PyError} (ran : env.pipeline.run origin = .ok result)
    (failed : env.fault .auditSucceeded = some exc) (last : Db) (staged : List Write)
    (outcome : Option HttpAnalysisResult) :
    Passes Write.effect (runPipeline env scan execution origin) store pending
      [some (.other (py "PendingRollbackError"))] last staged outcome := by
  have same : runPipeline env scan execution origin =
      .call .pipelineRun (.raise (.other (py "PendingRollbackError"))) := by
    unfold runPipeline recordAudit Env.write Env.statement
    rw [ran, failed]
    rfl
  rw [same]
  exact ⟨fun e some => by cases some; exact ⟨rfl, rfl⟩, fun none => by contradiction⟩

theorem passesPipeline (execution : ScanEngineExecution) (origin : Origin)
    {result : HttpAnalysisResult} (ran : env.pipeline.run origin = .ok result)
    (recorded : env.fault .auditSucceeded = none) :
    Passes Write.effect (runPipeline env scan execution origin) store pending [] store
      (pending ++ [.insertAudit (auditRow env .auditSucceeded scan (successEntries scan))])
      (some result) := by
  have same : runPipeline env scan execution origin =
      .call .pipelineRun (.exec .auditSucceeded
        (fun _ => [.insertAudit (auditRow env .auditSucceeded scan (successEntries scan))])
        fun _ => .pure (some result)) := by
    unfold runPipeline recordAudit Env.write Env.statement
    rw [ran, recorded]
    rfl
  rw [same]
  exact ⟨fun e some => by contradiction, fun _ => rfl⟩

def completeSites (result : HttpAnalysisResult) (db : Db) : List Site :=
  [.markSucceeded] ++ persistSites env scan result db ++ [.scanComplete, .aiAnalysis, .aiCommit]

def completeRows (execution : ScanEngineExecution) (result : HttpAnalysisResult) (db : Db) :
    List Write :=
  [.markExecution execution.id .succeeded (env.now .markSucceeded) none,
   .insertFindings (persistedRows env scan execution result db),
   .insertEvidence (evidenceRows env result.findings),
   .insertHistory (recordedHistory env scan (foundNow env scan result db)
     (withFindings env scan execution result db)),
   .transition scan.id .scanComplete none none,
   .transition scan.id .aiAnalysis none none]

theorem completeAgrees {db db' : Db} (agrees : Agrees scan db db') (execution : ScanEngineExecution)
    (result : HttpAnalysisResult) :
    completeSites env scan result db' = completeSites env scan result db ∧
      completeRows env scan execution result db' = completeRows env scan execution result db := by
  constructor
  · rw [completeSites, completeSites, agrees.sites]
  · rw [completeRows, completeRows, agrees.persisted, agrees.found,
      (agrees.added env execution result).recorded]

theorem passesComplete (execution : ScanEngineExecution) (result : HttpAnalysisResult)
    (running : (seen store pending).statusOf scan.id = some .running) :
    Passes Write.effect (completeScan env scan execution result) store pending
      (env.faults (completeSites env scan result (seen store pending)))
      (seen store (pending ++ completeRows env scan execution result (seen store pending))) [] () := by
  have persisted := passesPersist env store
    (pending ++ [.markExecution execution.id .succeeded (env.now .markSucceeded) none]) scan execution
    result
  have passes : Passes Write.effect (completeScan env scan execution result) store pending _ _ [] () :=
    .bind (passesMark _ _ _ _) (.bind persisted (.bind
      (passesTransition _ _ _ _ (by
        simp only [seen, viewAppend, viewCons, viewNil]
        exact running))
      (.bind (passesTransition _ _ _ _ (by
        rw [seenSnoc, Db.statusTransition]
        simp only [seen, viewAppend, viewCons, viewNil, if_true]
        exact congrArg (Option.map fun _ => ScanStatus.scanComplete) running)) (passesCommit _))))
  rw [seenSnoc] at passes
  simp only [List.append_assoc] at passes
  rw [completeSites, faultsAppend, faultsAppend, List.append_assoc]
  exact passes

/- The AI call raises nothing but the faults of its environment and what the analysis
service lets through. -/
def analyzeHazards (evidence : EvidenceSet) : List (Option PyError) :=
  env.fault .makeAnalyzer :: match env.analyzer with
    | none => []
    | some analyzer => env.fault .analyze ::
      hazardOf (AiAnalysisService.analyze env.python analyzer env.aiClock evidence none)

theorem passesAnalyze (evidence : EvidenceSet) :
    ∃ document, Passes Write.effect (analyzeEvidence env evidence) store pending
      (analyzeHazards env evidence) store pending document := by
  unfold analyzeEvidence analyzeHazards
  cases env.analyzer with
  | none => exact ⟨_, (passesAttempt _).bind (.pure _)⟩
  | some analyzer =>
    cases answer : AiAnalysisService.analyze env.python analyzer env.aiClock evidence none with
    | ok outcome =>
      refine ⟨documentOf env.python outcome.2,
        (passesAttempt _).bind (.bind (passesCall _) (.bind (passesAttempt _) ?_))⟩
      rw [answer]
      exact (passesExcept rfl).bind (.pure _)
    | error e =>
      refine ⟨notConfigured evidence,
        (passesAttempt _).bind (.bind (passesCall _) (.bind (passesAttempt _) ?_))⟩
      rw [answer]
      exact ⟨fun f some => by cases some; exact ⟨rfl, rfl⟩, fun none => by contradiction⟩

def assessHazards (result : HttpAnalysisResult) : List (Option PyError) :=
  env.faults [.evidence] ++ analyzeHazards env (EvidenceSet.fromResult env.python result) ++
    env.faults [.fallback, .upsertSelect, .upsertAssessment, .finalTransition, .finalCommit]

theorem passesUpsert (execution : ScanEngineExecution) (document : AssessmentDocument)
    (payload : List (PyStr × Json)) (count : Int) :
    ∃ row, Quiet [row] ∧ Passes Write.effect (upsertAiAssessment env execution document payload count) store
      pending (env.faults [.upsertSelect, .upsertAssessment]) store (pending ++ [row]) () := by
  refine ⟨assessmentWrite env execution document payload count _, ?_,
    .bind (passesRead _ _) (passesWrite _ _)⟩
  unfold assessmentWrite
  split <;> exact ⟨rfl, rfl⟩

theorem passesAssess (execution : ScanEngineExecution) (result : HttpAnalysisResult)
    (analysing : (seen store pending).statusOf scan.id = some .aiAnalysis) :
    ∃ row final, Quiet [row] ∧ final.isTerminal = true ∧
      Passes Write.effect (assessScan env scan execution result) store pending
        (assessHazards env result)
        (seen store (pending ++ [row] ++
          [.transition scan.id final none (some (env.now .finalTransition))])) [] () := by
  obtain ⟨document, analyzed⟩ := passesAnalyze env (EvidenceSet.fromResult env.python result)
  obtain ⟨row, quiet, upserted⟩ := passesUpsert env execution document (setDefault document.payload
    (py "findings") (.dict (perFindingFallbackPayload env.python result))) 0
  refine ⟨row, if document.isAvailable then .reportReady else .reportReadyDegraded, quiet, ?_, ?_⟩
  · split <;> rfl
  · have passes : Passes Write.effect (assessScan env scan execution result) store pending _ _ [] () :=
      .bind (passesAttempt _) (.bind analyzed (.bind (passesAttempt _) (.bind (passesExcept rfl) (.bind upserted
        (.bind (passesTransition _ _ _ _ (by rw [quietStatus quiet, analysing])) (passesCommit _))))))
    rw [assessHazards, List.append_assoc]
    exact passes

end Transactions
end SentinelGpt
