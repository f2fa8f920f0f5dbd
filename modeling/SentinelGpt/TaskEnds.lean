import SentinelGpt.JobEnds

/-! When a worker task leaves its scan in a terminal status: its failure handler moves a
scan that is QUEUED or RUNNING, and no other. -/
namespace SentinelGpt
open ReadCommitted

def handlerSites : List Site :=
  [.markGetScan, .markStatusIds, .markFromRunning, .markFromQueued, .markEngineId, .markExecution,
   .markMark, .markAudit, .markCommit]

section Handler
variable (env : Env) (scan : Scan) (reason : PyStr)

def crashRows (claimedFrom : ScanStatus) : List Write :=
  let execution := executionRow env .markExecution scan.id 4 (py "worker-unknown") .failed none
  [.insertExecution execution,
   .markExecution execution.id .failed (env.now .markMark) (some (reason.take 500)),
   .insertAudit (auditRow env .markAudit scan (crashEntries scan claimedFrom reason))]

variable {env scan}

theorem passesCrash {store : Db} {pending : List Write} (claimedFrom : ScanStatus) :
    Passes Write.effect (recordWorkerCrash env scan claimedFrom reason) store pending
      (env.faults [.markEngineId, .markExecution, .markMark, .markAudit]) store
      (pending ++ crashRows env scan reason claimedFrom) () := by
  have passes : Passes Write.effect (recordWorkerCrash env scan claimedFrom reason) store pending _
      store _ () :=
    .bind (passesRead _ _) (.bind (passesCreate _ _ _ _ _ _) (.bind (passesMark _ _ _ _)
      (passesWrite _ _)))
  simp only [List.append_assoc] at passes
  exact passes

def claimedFrom : ScanStatus → Option ScanStatus
  | .running => some .running
  | .queued => some .queued
  | _ => none

def handlerMoves (env : Env) (scan : Scan) : ScanStatus → List Write
  | .running => [.transition scan.id .rejected none (some (env.now .markFromRunning))]
  | .queued => [.transition scan.id .rejected none (some (env.now .markFromQueued))]
  | _ => []

def handlerRows (env : Env) (scan : Scan) (reason : PyStr) (status : ScanStatus) : List Write :=
  handlerMoves env scan status ++ match claimedFrom status with
    | none => []
    | some source => crashRows env scan reason source

theorem passesStuck {store : Db} {status : ScanStatus}
    (here : (seen store []).statusOf scan.id = some status) :
    ∃ sites, sites ⊆ handlerSites ∧ Passes Write.effect (tryStuckStates env scan) store []
      (env.faults sites) store (handlerMoves env scan status) (claimedFrom status) := by
  by_cases running : status = .running
  · subst running
    exact ⟨[.markFromRunning], by decide, (passesTransition _ _ _ _ here).bind (.pure _)⟩
  have notRunning : (seen store []).statusOf scan.id ≠ some .running := fun same =>
    running (Option.some.inj (here.symm.trans same))
  by_cases queued : status = .queued
  · subst queued
    exact ⟨[.markFromRunning, .markFromQueued], by decide,
      (passesNoTransition _ _ _ _ notRunning).bind ((passesTransition _ _ _ _ here).bind (.pure _))⟩
  have notQueued : (seen store []).statusOf scan.id ≠ some .queued := fun same =>
    queued (Option.some.inj (here.symm.trans same))
  have moves : handlerMoves env scan status = [] ∧ claimedFrom status = none := by
    cases status <;> first | exact ⟨rfl, rfl⟩ | contradiction
  rw [moves.1, moves.2]
  exact ⟨[.markFromRunning, .markFromQueued], by decide, (passesNoTransition _ _ _ _ notRunning).bind
    ((passesNoTransition _ _ _ _ notQueued).bind (.pure _))⟩

theorem noHazard {sites : List Site} (free : ∀ site ∈ handlerSites, env.fault site = none)
    (some : sites ⊆ handlerSites) : raised (env.faults sites) = none := by
  induction sites with
  | nil => rfl
  | cons site rest ih =>
    obtain ⟨here, there⟩ := List.cons_subset.mp some
    rw [Env.faults, List.map_cons, raisedCons, free site here, Option.none_or]
    exact ih there

theorem passesHandler {store : Db} {scanId : Nat} (found : store.scan? scanId = some scan) :
    ∃ sites, sites ⊆ handlerSites ∧
      Passes Write.effect (do markFound env reason (← getById env .markGetScan scanId)) store []
        (env.faults sites) (seen store (handlerRows env scan reason scan.status)) [] () := by
  have same : scan.id = scanId := by
    have := List.find?_some found
    simpa using this
  have here : store.statusOf scan.id = some scan.status := by
    rw [Db.statusOf, same, found]
    rfl
  obtain ⟨sites, known, stuck⟩ : ∃ sites, sites ⊆ handlerSites ∧ Passes Write.effect
    (tryStuckStates env scan) store [] _ store _ _ := passesStuck here
  have recorded : ∃ sites, sites ⊆ handlerSites ∧ Passes Write.effect
      (recordIfMoved env scan reason (claimedFrom scan.status)) store
      (handlerMoves env scan scan.status) (env.faults sites) store
      (handlerRows env scan reason scan.status) () := by
    rw [handlerRows]
    cases claimedFrom scan.status with
    | none =>
      rw [List.append_nil]
      exact ⟨[], by simp, .pure ()⟩
    | some source => exact ⟨_, by decide, passesCrash reason source⟩
  obtain ⟨sites', known', recorded⟩ := recorded
  have gets : Passes Write.effect (getById env .markGetScan scanId) store [] (env.faults [.markGetScan])
      store [] (some scan) := found ▸ passesRead _ _
  refine ⟨[.markGetScan] ++ ([.markStatusIds] ++ (sites ++ (sites' ++ [.markCommit]))), ?_, ?_⟩
  · simp only [List.append_subset]
    exact ⟨by decide, by decide, known, known', by decide⟩
  · simp only [faultsAppend]
    exact gets.bind ((passesRead _ _).bind (stuck.bind (recorded.bind (passesCommit _))))

theorem handlerEnds {store : Db} {scanId : Nat} (found : store.scan? scanId = some scan)
    (free : ∀ site ∈ handlerSites, env.fault site = none) :
    solo Write.effect (markScanRejected env scanId reason) store [] =
      ⟨seen store (handlerRows env scan reason scan.status), [], .ok ()⟩ := by
  obtain ⟨sites, known, passes⟩ : ∃ sites, sites ⊆ handlerSites ∧ Passes Write.effect
    (do markFound env reason (← getById env .markGetScan scanId)) store [] (env.faults sites) _ [] () :=
    passesHandler reason found
  rw [markScanRejected, soloSession, passes.ended (noHazard free known)]

end Handler

/- The first exception of the job up to the AI_ANALYSIS commit is none that the task takes
for an outcome; and where the job comes to that commit, nothing is raised after it. -/
def settles (env : Env) (store : Db) (scan : Scan) : Bool :=
  match raised (earlyHazards env store scan) with
  | some e => !e.isExpectedOutcome
  | none => (analysed env store scan).all fun result => (raised (assessHazards env result)).isNone

section Task
variable {env : Env} {store : Db} {scan : Scan}

theorem taskSolo {scanId : Nat} :
    (solo Write.effect (executeScanJobTask env scanId) store []).store =
      match (solo Write.effect (runScanJob env scanId) store []).result with
      | .ok _ => (solo Write.effect (runScanJob env scanId) store []).store
      | .error e => if e.isExpectedOutcome then (solo Write.effect (runScanJob env scanId) store []).store
        else (solo Write.effect (markScanRejected env scanId e.name)
          (solo Write.effect (runScanJob env scanId) store []).store []).store := by
  rw [executeScanJobTask, soloTryCatch, runScanJob, soloSession]
  generalize solo Write.effect _ store [] = ended
  rcases ended with ⟨last, pending, e | _⟩
  · simp only
    split <;> rfl
  · rfl

/- The handler ends a scan in a status it knows, and leaves every other where it is. -/
theorem handledStatus {scanId : Nat} {last : Db} {status : ScanStatus} (reason : PyStr)
    (here : last.statusOf scanId = some status)
    (free : ∀ site ∈ handlerSites, env.fault site = none) :
    (solo Write.effect (markScanRejected env scanId reason) last []).store.statusOf scanId =
      some (if (claimedFrom status).isSome then .rejected else status) := by
  rw [Db.statusOf, Option.map_eq_some_iff] at here
  obtain ⟨scan, found, rfl⟩ := here
  have same : scan.id = scanId := by
    have := List.find?_some found
    simpa using this
  rw [handlerEnds reason found free]
  have status : last.statusOf scanId = some scan.status := by rw [Db.statusOf, found]; rfl
  have moved : (seen last (handlerMoves env scan scan.status)).statusOf scanId =
      some (if (claimedFrom scan.status).isSome then .rejected else scan.status) := by
    rw [← same] at status ⊢
    generalize scan.status = kind at status
    cases kind <;> simp [handlerMoves, claimedFrom, seen, viewCons, status]
  rw [handlerRows, ← seenAppend]
  cases claims : claimedFrom scan.status with
  | none => simpa [claims] using moved
  | some source =>
    rw [claims] at moved
    have kept : ∀ db, (seen db (crashRows env scan reason source)).statusOf scanId =
        db.statusOf scanId := fun db => statusKept rfl db scanId
    rw [kept, moved]

/- A failed job ends its scan when the task hands the failure on and the handler knows the
status the scan is in. -/
theorem failedTerminalIff {scanId : Nat} {last : Db} {status : ScanStatus} {e : PyError}
    (here : last.statusOf scanId = some status) (unfinished : status.isTerminal = false)
    (free : ∀ site ∈ handlerSites, env.fault site = none) :
    ((if e.isExpectedOutcome then last else
        (solo Write.effect (markScanRejected env scanId e.name) last []).store).statusOf scanId).any
      ScanStatus.isTerminal = true ↔
      e.isExpectedOutcome = false ∧ (claimedFrom status).isSome = true := by
  cases e.isExpectedOutcome with
  | true => simp [here, unfinished]
  | false =>
    simp only [Bool.false_eq_true, if_false, handledStatus e.name here free, Option.any_some, true_and]
    split
    · rename_i known
      simp [known, ScanStatus.isTerminal]
    · rename_i unknown
      simp [unknown, unfinished]

def failsAt (site : Site) (e : PyError) (here : Site) : Option PyError :=
  if here = site then some e else none

def operationalError : PyError := .other (py "OperationalError")

def failingTask (site : Site) : Env :=
  plainEnv (Python.onAscii []) 1 (plainPipeline answeredResult) (failsAt site operationalError)

end Task
end SentinelGpt
