import SentinelGpt.ScanTasks
import SentinelGpt.TransactionSpecs

/-! Every write of a scan's status follows an edge of its state machine, in every
interleaving of jobs, failure handlers and cancellations, as long as no cancellation
meets a scan that is between RUNNING and its end. -/
namespace SentinelGpt.ScanEdges
open ReadCommitted

inductive ScanOperation where
  | task (env : Env) (scanId : Nat)
  | backgroundJob (env : Env) (scanId : Nat)
  | handler (env : Env) (scanId : Nat) (reason : PyStr)
  | cancel (env : Env) (principal : Option Nat) (scanId : Nat)

def ScanOperation.program : ScanOperation → Prog Unit
  | .task env scanId => executeScanJobTask env scanId
  | .backgroundJob env scanId => buildBackgroundJob env scanId
  | .handler env scanId reason => markScanRejected env scanId reason
  | .cancel env principal scanId => cancelRequest env principal scanId

/- The statuses between the end of the chain and the end of the scan. -/
def isLate : ScanStatus → Bool
  | .scanComplete | .partiallyComplete | .aiAnalysis => true
  | _ => false

def FollowsEdges (db : Db) (writes : List Write) : Prop :=
  ∀ scanId target startedAt completedAt,
    Write.transition scanId target startedAt completedAt ∈ writes →
      ∃ source, db.statusOf scanId = some source ∧ source.canTransition target = true

/- No cancellation reads a late scan that its user may see. -/
def ScanOperation.cancelsEarly : ScanOperation → Event Db Write Site → Bool
  | .cancel _ principal _, .exec (.cancelGetScan scanId) db _ =>
      (db.scan? scanId).all fun scan => (principal.any fun user => scan.initiatedByUserId != user) || !isLate scan.status
  | _, _ => true

def Follows : Event Db Write Site → Prop
  | .exec _ db writes => FollowsEdges db writes
  | _ => True

def edges (early : Event Db Write Site → Prop) : Contract Db Write Site where
  assume _ e := early e
  guarantee _ e := Follows e

section Rules
variable {early : Event Db Write Site → Prop} {env : Env} {α : Type}

theorem commits (site : Site) : Meets (edges early) (env.commit site) fun _ => True :=
  commitMeets site fun _ => trivial

theorem noWrites (db : Db) : FollowsEdges db [] := by
  intro scanId target startedAt completedAt member
  simp at member

theorem reads (site : Site) (result : Db → α) :
    Meets (edges early) (env.read site result) fun _ => True :=
  statementMeets (fun _ => noWrites) fun _ => trivial

theorem writesRows (site : Site) {writes : List Write}
    (rows : ∀ scanId target startedAt completedAt,
      Write.transition scanId target startedAt completedAt ∉ writes) :
    Meets (edges early) (env.write site writes) fun _ => True :=
  statementMeets (fun _ _ scanId target startedAt completedAt member =>
    absurd member (rows scanId target startedAt completedAt)) fun _ => trivial

theorem transitions (site : Site) (scanId : Nat) {source target : ScanStatus}
    (startedAt completedAt : Option Time) (edge : source.canTransition target = true) :
    Meets (edges early) (tryTransition env site scanId source target startedAt completedAt)
      fun _ => True := by
  refine statementMeets (fun _ db id target started completed member => ?_) fun _ => trivial
  split at member
  · rename_i here
    simp only [List.mem_singleton, Write.transition.injEq] at member
    obtain ⟨rfl, rfl, -, -⟩ := member
    exact ⟨source, here, edge⟩
  · simp at member

end Rules

section Operations
variable {early : Event Db Write Site → Prop} (env : Env)

theorem audits (site : Site) (scan : Scan) (metadata : List (PyStr × PyStr)) :
    Meets (edges early) (recordAudit env site scan metadata) fun _ => True :=
  writesRows site (by simp)

theorem createsExecution (site : Site) (scanId engine : Nat) (version : PyStr)
    (status : ExecutionStatus) (startedAt : Option Time) :
    Meets (edges early) (createExecution env site scanId engine version status startedAt) fun _ => True :=
  .bind (writesRows site (by simp)) fun _ _ => .pure trivial

theorem marksExecution (site : Site) (executionId : Nat) (status : ExecutionStatus)
    (errorMessage : Option PyStr) :
    Meets (edges early) (markExecution env site executionId status errorMessage) fun _ => True :=
  writesRows site (by simp)

theorem findsEngine (site : Site) (code : PyStr) :
    Meets (edges early) (engineId env site code) fun _ => True := by
  refine .bind (reads site _) fun found _ => ?_
  cases found with
  | none => exact .raise
  | some id => exact .pure trivial

theorem findsOrigin (targetId : Nat) :
    Meets (edges early) (originForTarget env targetId) fun _ => True := by
  refine .bind (reads _ _) fun found _ => ?_
  cases found with
  | none => exact .raise
  | some target => exact exceptMeets _

theorem rejectsUnauthorized (scan : Scan) :
    Meets (edges early) (rejectUnauthorized env scan) fun _ => True :=
  .bind (audits env _ _ _) fun _ _ => .bind (findsEngine env _ _) fun _ _ =>
    .bind (createsExecution env _ _ _ _ _ _) fun _ _ => .bind (marksExecution env _ _ _ _) fun _ _ =>
      .bind (transitions _ _ _ _ (by decide)) fun _ _ => commits _

theorem rejectsFailed (scan : Scan) (execution : ScanEngineExecution) (exc : PyError)
    (flushFailed : Bool) :
    Meets (edges early) (rejectFailed env scan execution exc flushFailed) fun _ => True := by
  unfold rejectFailed
  cases flushFailed with
  | true => exact .raise
  | false =>
    exact .bind (marksExecution env _ _ _ _) fun _ _ => .bind (audits env _ _ _) fun _ _ =>
      .bind (transitions _ _ _ _ (by decide)) fun _ _ => commits _

theorem runsPipeline (scan : Scan) (execution : ScanEngineExecution) (origin : Origin) :
    Meets (edges early) (runPipeline env scan execution origin) fun _ => True :=
  .tryCatch
    (.bind (callMeets _ fun _ => trivial) fun _ _ => .bind (exceptMeets _) fun _ _ => .bind (audits env _ _ _) fun _ _ =>
      .pure trivial)
    fun _ => .bind (rejectsFailed env _ _ _ _) fun _ _ => .pure trivial

theorem findsPrevious (scan : Scan) :
    Meets (edges early) (previousFingerprints env scan) fun _ => True := by
  have previous : Meets (edges early) (previousScanId env scan) fun _ => True := by
    unfold previousScanId
    split
    · exact .pure trivial
    · exact reads _ _
  refine .bind previous fun found _ => ?_
  cases found with
  | none => exact .pure trivial
  | some id => exact reads _ _

theorem findsLatest (targetId : Nat) (fingerprints : List PyStr) :
    Meets (edges early) (latestStatusMap env targetId fingerprints) fun _ => True := by
  unfold latestStatusMap
  split
  · exact .pure trivial
  · exact .bind (reads _ _) fun _ _ => reads _ _

theorem recordsLifecycle (scan : Scan) (current : List PyStr) (evidence : List FindingEvidence) :
    Meets (edges early) (recordLifecycle env scan current evidence) fun _ => True :=
  .bind (findsPrevious env scan) fun _ _ => .bind (findsLatest env _ _) fun _ _ =>
    .bind (reads _ _) fun _ _ => writesRows _ (by simp)

theorem persistsFindings (scan : Scan) (execution : ScanEngineExecution)
    (result : HttpAnalysisResult) :
    Meets (edges early) (persistFindings env scan execution result) fun _ => True :=
  .bind (reads _ _) fun _ _ => .bind (reads _ _) fun _ _ =>
    .bind (reads _ _) fun _ _ => .bind (reads _ _) fun _ _ =>
      .bind (writesRows _ (by simp)) fun _ _ => recordsLifecycle env scan _ _

theorem completesScan (scan : Scan) (execution : ScanEngineExecution)
    (result : HttpAnalysisResult) :
    Meets (edges early) (completeScan env scan execution result) fun _ => True :=
  .bind (marksExecution env _ _ _ _) fun _ _ => .bind (persistsFindings env _ _ _) fun _ _ =>
    .bind (transitions _ _ _ _ (by decide)) fun _ _ =>
      .bind (transitions _ _ _ _ (by decide)) fun _ _ => commits _

theorem analyzesEvidence (evidence : EvidenceSet) :
    Meets (edges early) (analyzeEvidence env evidence) fun _ => True := by
  refine .bind (attemptMeets _) fun _ _ => ?_
  split
  · exact .pure trivial
  · exact .bind (callMeets _ fun _ => trivial) fun _ _ => .bind (attemptMeets _) fun _ _ => .bind (exceptMeets _) fun _ _ =>
      .pure trivial

theorem upsertsAssessment (execution : ScanEngineExecution) (document : AssessmentDocument)
    (payload : List (PyStr × Json)) (count : Int) :
    Meets (edges early) (upsertAiAssessment env execution document payload count) fun _ => True := by
  refine .bind (reads _ _) fun found _ => writesRows _ ?_
  cases found <;> simp [assessmentWrite]

theorem assessesScan (scan : Scan) (execution : ScanEngineExecution)
    (result : HttpAnalysisResult) :
    Meets (edges early) (assessScan env scan execution result) fun _ => True := by
  refine .bind (attemptMeets _) fun _ _ => .bind (analyzesEvidence env _) fun document _ =>
    .bind (attemptMeets _) fun _ _ => .bind (exceptMeets _) fun _ _ =>
      .bind (upsertsAssessment env _ _ _ _) fun _ _ => .bind (transitions _ _ _ _ ?_) fun _ _ => commits _
  cases document.isAvailable <;> decide

theorem runsChain (scan : Scan) : Meets (edges early) (secureChain env scan) fun _ => True := by
  have starts : Meets (edges early) (startChain env scan) fun _ => True :=
    .bind (attemptMeets _) fun _ _ => .bind (findsOrigin env _) fun _ _ =>
      .bind (findsEngine env _ _) fun _ _ => .bind (createsExecution env _ _ _ _ _ _) fun _ _ =>
        .bind (commits _) fun _ _ => .pure trivial
  refine .bind starts fun started _ => .bind (runsPipeline env _ _ _) fun outcome _ => ?_
  cases outcome with
  | none => exact .pure trivial
  | some result => exact .bind (completesScan env _ _ _) fun _ _ => assessesScan env _ _ _

theorem runsJob (scanId : Nat) : Meets (edges early) (executeScanJob env scanId) fun _ => True := by
  refine .bind (reads _ _) fun found _ => ?_
  cases found with
  | none => exact .pure trivial
  | some scan =>
    have claims : Meets (edges early) (claimScan env scan) fun _ => True :=
      .bind (reads _ _) fun _ _ => transitions _ _ _ _ (by decide)
    refine .bind claims fun claimed _ => ?_
    split
    · refine .bind (reads _ _) fun attestation _ => ?_
      split
      · exact runsChain env scan
      · exact rejectsUnauthorized env scan
    · exact .pure trivial

theorem handlesFailure (scanId : Nat) (reason : PyStr) :
    Meets (edges early) (markScanRejected env scanId reason) fun _ => True := by
  refine .session (fun _ => trivial) (.bind (reads _ _) fun found _ => ?_)
  cases found with
  | none => exact .pure trivial
  | some scan =>
    have stuck : Meets (edges early) (tryStuckStates env scan) fun _ => True := by
      refine .bind (transitions _ _ _ _ (by decide)) fun moved _ => ?_
      split
      · exact .pure trivial
      · refine .bind (transitions _ _ _ _ (by decide)) fun moved _ => ?_
        split <;> exact .pure trivial
    have crashed : ∀ source, Meets (edges early) (recordWorkerCrash env scan source reason)
        fun _ => True := by
      intro source
      refine .bind (reads _ _) fun engine _ => ?_
      cases engine with
      | none => exact audits env _ _ _
      | some id =>
        exact .bind (createsExecution env _ _ _ _ _ _) fun _ _ =>
          .bind (marksExecution env _ _ _ _) fun _ _ => audits env _ _ _
    have recorded : ∀ moved, Meets (edges early) (recordIfMoved env scan reason moved) fun _ => True := by
      intro moved
      cases moved with
      | none => exact .pure trivial
      | some source => exact crashed source
    exact .bind (reads _ _) fun _ _ => .bind stuck fun moved _ => .bind (recorded moved) fun _ _ =>
      commits _

/- The scan a cancellation goes on with is not late: its user may see it, and it has been read early. -/
theorem cancelReads (principal : Option Nat) (scanId : Nat)
    (timely : ∀ e, early e → (ScanOperation.cancel env principal scanId).cancelsEarly e = true) :
    Meets (edges early) (getVisibleScan env (.cancelGetScan scanId) principal scanId)
      fun scan => isLate scan.status = false := by
  have found : Meets (edges early) (getById env (.cancelGetScan scanId) scanId)
      fun found => ∀ scan, found = some scan →
        (principal.any fun user => scan.initiatedByUserId != user) = true ∨ isLate scan.status = false := by
    unfold getById Env.read Env.statement
    split
    · exact .raise
    · intro _ db assumed
      refine ⟨noWrites db, ?_⟩
      rintro read ⟨⟩ scan (here : db.scan? scanId = some scan)
      simpa [ScanOperation.cancelsEarly, here] using timely _ assumed
  refine .bind found fun read early => ?_
  cases read with
  | none => exact .raise
  | some scan =>
    simp only
    split
    · exact .raise
    · rename_i seen
      exact .pure ((early scan rfl).resolve_left seen)

theorem earlyEdge {s : ScanStatus} (early : isLate s = false)
    (open_ : ¬ (s.isTerminal || s == .running) = true) : s.canTransition .cancelled = true := by
  cases s <;> simp_all [isLate, ScanStatus.isTerminal] <;> rfl

theorem cancels (principal : Option Nat) (scanId : Nat)
    (timely : ∀ e, early e → (ScanOperation.cancel env principal scanId).cancelsEarly e = true) :
    Meets (edges early) (cancelRequest env principal scanId) fun _ => True := by
  have details : ∀ scan, Meets (edges early) (details env .cancelDetails .cancelProfile scan)
      fun _ => True := by
    intro scan
    refine .bind (reads _ _) fun _ _ => .bind (reads _ _) fun profile _ => ?_
    cases profile with
    | none => exact .raise
    | some entry => exact .pure trivial
  have body : Meets (edges early) (cancelScan env principal scanId) fun _ => True := by
    refine .bind (cancelReads env principal scanId timely) fun scan fresh => ?_
    have status : Meets (edges early) (env.read .cancelStatusCode fun _ => scan.status)
        fun current => current = scan.status := statementMeets (fun _ => noWrites) fun _ => rfl
    refine .bind status fun current same => ?_
    subst same
    split
    · exact .raise
    · rename_i open_
      refine .bind (reads _ _) fun _ _ =>
        .bind (transitions _ _ _ _ (earlyEdge fresh open_)) fun moved _ => ?_
      split
      · exact details _
      · exact .raise
  exact .session (fun _ => trivial) (.bind body fun _ _ => commits _)

theorem operates (operation : ScanOperation) (timely : ∀ e, early e → operation.cancelsEarly e = true) :
    Meets (edges early) operation.program fun _ => True := by
  cases operation with
  | task env scanId =>
    refine .tryCatch (.session (fun _ => trivial) (.bind (attemptMeets _) fun _ _ => runsJob env scanId))
      fun exc => ?_
    split
    · exact .pure trivial
    · exact handlesFailure env scanId _
  | backgroundJob env scanId => exact .session (fun _ => trivial) (runsJob env scanId)
  | handler env scanId reason => exact handlesFailure env scanId reason
  | cancel env principal scanId => exact cancels env principal scanId timely

end Operations

def TimelyAt (operations : List ScanOperation) (i : Nat) (e : Event Db Write Site) : Prop :=
  ∀ operation, operations[i]? = some operation → operation.cancelsEarly e = true

/- In every interleaving of scan operations in which no cancellation reads a late scan of its user,
each status write moves its scan along an edge, and a scan is cancelled only before
RUNNING. -/
theorem statusWritesFollowEdges {store : Db} (operations : List ScanOperation) {trace t}
    (run : Run scanRows (System.start store (operations.map ScanOperation.program)) trace t)
    (early : ∀ i e, (i, e) ∈ trace → TimelyAt operations i e) :
    ∀ client site db writes, (client, Event.exec site db writes) ∈ trace →
      ∀ scanId target startedAt completedAt,
        Write.transition scanId target startedAt completedAt ∈ writes →
        ∃ source, db.statusOf scanId = some source ∧ source.canTransition target = true ∧
          (target = .cancelled → source.beforeRunning = true) := by
  intro client site db writes happened scanId target startedAt completedAt written
  have valid : ∀ i p, (operations.map ScanOperation.program)[i]? = some p →
      wp (edges (TimelyAt operations i)) [] p fun _ _ => True := by
    intro i p found
    simp only [List.getElem?_map, Option.map_eq_some_iff] at found
    obtain ⟨operation, here, rfl⟩ := found
    exact wpMono (fun _ _ _ => trivial) (operates operation (fun e timely => timely operation here) [])
  have assumed : AlongEach (fun i => (edges (TimelyAt operations i)).assume) trace :=
    fun before i e after same => early i e (same ▸ List.mem_append_right _ List.mem_cons_self)
  have kept := (runAssumes valid (fun _ _ => trivial) run assumed).1
  have follows : FollowsEdges db writes := by
    obtain ⟨before, after, same⟩ := List.append_of_mem happened
    exact kept before client _ after same
  obtain ⟨source, here, edge⟩ := follows scanId target startedAt completedAt written
  refine ⟨source, here, edge, ?_⟩
  rintro rfl
  rw [← ScanStatus.cancelledOnlyBeforeRunning]
  exact edge

def plainTask : ScanOperation := .task (plainEnv (Python.onAscii []) 1 (plainPipeline answeredResult) noFault) 1

def plainCancel (user : Nat) : ScanOperation :=
  .cancel (plainEnv (Python.onAscii []) 2 (plainPipeline answeredResult) noFault) (some user) 1

def plainOperations : List ScanOperation := [plainTask, plainCancel 1, plainCancel 2]

def plainSystem : System Db Write Site PyError := System.start queuedDb (plainOperations.map ScanOperation.program)

def strangerLate : List Move := List.replicate 22 (.step 0) ++ List.replicate 2 (.step 2) ++ List.replicate 5 (.step 0)

theorem strangerLateFollowsEdges :
    ∃ trace t, Run scanRows plainSystem trace t ∧ t.store.statusOf 1 = some .reportReadyDegraded ∧
      ∀ client site db writes, (client, Event.exec site db writes) ∈ trace →
        ∀ scanId target startedAt completedAt,
          Write.transition scanId target startedAt completedAt ∈ writes →
          ∃ source, db.statusOf scanId = some source ∧ source.canTransition target = true ∧
            (target = .cancelled → source.beforeRunning = true) := by
  have replayed : ((replay scanRows plainSystem strangerLate).map fun (trace, t) =>
      trace.all (fun entry => plainOperations[entry.1]?.all fun operation => operation.cancelsEarly entry.2) &&
        t.store.statusOf 1 == some .reportReadyDegraded) = some true := by
    decide +kernel
  obtain ⟨⟨trace, t⟩, ran, checks⟩ := Option.map_eq_some_iff.mp replayed
  simp only [Bool.and_eq_true, List.all_eq_true, beq_iff_eq] at checks
  refine ⟨trace, t, replayRun ran, checks.2, ?_⟩
  apply statusWritesFollowEdges plainOperations (replayRun ran)
  intro i e member operation here
  have timely := checks.1 (i, e) member
  rwa [here] at timely

def cancelLate : List Move := List.replicate 22 (.step 0) ++ List.replicate 4 (.step 1)

def cancelsAiAnalysis : Event Db Write Site → Bool
  | .exec _ db [.transition 1 .cancelled _ _] => db.statusOf 1 == some .aiAnalysis
  | _ => false

theorem cancelOf {e : Event Db Write Site} (late : cancelsAiAnalysis e = true) :
    ∃ site db startedAt completedAt,
      e = .exec site db [.transition 1 .cancelled startedAt completedAt] ∧
      db.statusOf 1 = some .aiAnalysis := by
  unfold cancelsAiAnalysis at late
  split at late
  · exact ⟨_, _, _, _, rfl, beq_iff_eq.mp late⟩
  · contradiction

theorem aiAnalysisIsCancelled :
    ∃ trace t, Run scanRows plainSystem trace t ∧
      ∃ client site db startedAt completedAt,
        (client, Event.exec site db [.transition 1 .cancelled startedAt completedAt]) ∈ trace ∧
        db.statusOf 1 = some .aiAnalysis ∧
        ScanStatus.aiAnalysis.canTransition .cancelled = false := by
  have replayed : ((replay scanRows plainSystem cancelLate).map fun (trace, _) =>
      trace.any fun entry => cancelsAiAnalysis entry.2) = some true := by
    decide +kernel
  obtain ⟨⟨trace, t⟩, ran, found⟩ := Option.map_eq_some_iff.mp replayed
  obtain ⟨⟨client, e⟩, member, late⟩ := List.any_eq_true.mp found
  obtain ⟨site, db, startedAt, completedAt, rfl, status⟩ := cancelOf late
  exact ⟨trace, t, replayRun ran, client, site, db, startedAt, completedAt, member, status, rfl⟩

end SentinelGpt.ScanEdges
