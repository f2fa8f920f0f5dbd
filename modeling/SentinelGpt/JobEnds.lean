import SentinelGpt.JobStages

/-! How a scan job that runs alone ends: where its exceptions come from, in the order of
their points, and the state each end leaves behind. -/
namespace SentinelGpt
open ReadCommitted

section Job
variable (env : Env) (store : Db) (scan : Scan)

def claimRow : Write := .transition scan.id .running (some (env.now .claim)) none

def authorized : Bool := attestationHolds env (store.attestation? scan.authorizationAttestationId)

def originFor : Except PyError Origin :=
  match store.target? scan.targetId with
  | none => .error .notFoundError
  | some target => originOf env.python target

def pipelineCode : PyStr := env.pipeline.engineCode.getD headersAnalyzer

def engineFor : Except PyError Nat :=
  match engineIdOf (pipelineCode env) with
  | none => .error .lookupError
  | some id => .ok id

def jobExecution : ScanEngineExecution :=
  executionRow env .createExecution scan.id ((engineIdOf (pipelineCode env)).getD 0)
    ((env.pipeline.engineVersion.getD (py "1")).take 50) .running (some (env.now .createExecution))

def startRows : List Write := [claimRow env scan, .insertExecution (jobExecution env scan)]

def chainResult : Except PyError HttpAnalysisResult := do env.pipeline.run (← originFor env store scan)

def claimHazards : List (Option PyError) :=
  env.faults [.settings, .getScan, .statusIds, .claim, .getAttestation]

def startHazards : List (Option PyError) :=
  env.faults [.buildPipeline, .getTarget] ++ hazardOf (originFor env store scan) ++
    env.faults [.engineId] ++ hazardOf (engineFor env) ++ env.faults [.createExecution, .startCommit]

def pipelineHazards : List (Option PyError) :=
  match chainResult env store scan with
  | .error _ => env.faults failSites
  | .ok result => match env.fault .auditSucceeded with
    | some _ => [some (.other (py "PendingRollbackError"))]
    | none => env.faults (completeSites env scan result store)

def claimedHazards : List (Option PyError) :=
  if authorized env store scan then startHazards env store scan ++ pipelineHazards env store scan
  else env.faults rejectSites

def earlyHazards : List (Option PyError) := claimHazards env ++ claimedHazards env store scan

def analysed : Option HttpAnalysisResult :=
  if authorized env store scan then (chainResult env store scan).toOption else none

def auditedRows : List Write :=
  [.insertAudit (auditRow env .auditSucceeded scan (successEntries scan))]

def analysedRows (result : HttpAnalysisResult) : List Write :=
  startRows env scan ++ (auditedRows env scan ++
    completeRows env scan (jobExecution env scan) result store)

inductive JobEnd : Db → Except PyError Unit → Prop where
  | refused {e} (early : raised (earlyHazards env store scan) = some e) : JobEnd store (.error e)
  | stuck {e} (early : raised (earlyHazards env store scan) = some e) :
      JobEnd (seen store (startRows env scan)) (.error e)
  | unauthorized (early : raised (earlyHazards env store scan) = none)
      (ended : analysed env store scan = none) :
      JobEnd (seen store (claimRow env scan :: rejectRows env scan ++
        [.transition scan.id .rejected none (some (env.now .rejectTransition))])) (.ok ())
  | failed (exc : PyError) (early : raised (earlyHazards env store scan) = none)
      (ended : analysed env store scan = none) :
      JobEnd (seen store (startRows env scan ++ (failRows env scan (jobExecution env scan) exc ++
        [.transition scan.id .rejected none (some (env.now .failTransition))]))) (.ok ())
  | unassessed {result e} (early : raised (earlyHazards env store scan) = none)
      (gets : analysed env store scan = some result)
      (late : raised (assessHazards env result) = some e) :
      JobEnd (seen store (analysedRows env store scan result)) (.error e)
  | reported {result row final} (early : raised (earlyHazards env store scan) = none)
      (gets : analysed env store scan = some result)
      (late : raised (assessHazards env result) = none) (quiet : Quiet [row])
      (terminal : final.isTerminal = true) :
      JobEnd (seen store (analysedRows env store scan result ++
        [row, .transition scan.id final none (some (env.now .finalTransition))])) (.ok ())

variable {env store scan}

theorem passesOrigin {pending : List Write} {origin : Origin}
    (ok : ∀ o, originFor env store scan = .ok o → o = origin) :
    Passes Write.effect (originForTarget env scan.targetId) store pending
      (env.faults [.getTarget] ++ hazardOf (originFor env store scan)) store pending origin := by
  refine .bind (passesRead _ _) ?_
  have same : (seen store pending).target? scan.targetId = store.target? scan.targetId := by
    rw [Db.target?, targetsKept store pending]
    rfl
  rw [same]
  unfold originFor at ok ⊢
  cases found : store.target? scan.targetId with
  | none => exact ⟨fun e some => by cases some; exact ⟨rfl, rfl⟩, fun none => by contradiction⟩
  | some target =>
    simp only [found] at ok ⊢
    cases parsed : originOf env.python target with
    | error e => exact ⟨fun f some => by cases some; exact ⟨rfl, rfl⟩, fun none => by contradiction⟩
    | ok o =>
      rw [← ok o parsed]
      exact passesExcept rfl

theorem passesEngineFor {pending : List Write} :
    Passes Write.effect (engineId env .engineId (pipelineCode env)) store pending
      (env.faults [.engineId] ++ hazardOf (engineFor env)) store pending
      ((engineIdOf (pipelineCode env)).getD 0) := by
  refine .bind (passesRead _ _) ?_
  unfold engineFor
  cases found : engineIdOf (pipelineCode env) with
  | none => exact ⟨fun e some => by cases some; exact ⟨rfl, rfl⟩, fun none => by contradiction⟩
  | some id => exact .pure id

theorem passesStart {origin : Origin} (ok : ∀ o, originFor env store scan = .ok o → o = origin) :
    Passes Write.effect (startChain env scan) store [claimRow env scan]
      (startHazards env store scan) (seen store (startRows env scan)) []
      (jobExecution env scan, origin) := by
  have passes : Passes Write.effect (startChain env scan) store [claimRow env scan] _ _ []
      (jobExecution env scan, origin) :=
    .bind (passesAttempt _) (.bind (passesOrigin ok) (.bind passesEngineFor
      (.bind (passesCreate _ _ _ _ _ _) (.bindLast (passesCommit _) (.pure _)))))
  simp only [startHazards, List.append_assoc]
  simp only [List.append_assoc] at passes
  exact passes

theorem startAgrees (ws : List Write) (quiet : Quiet ws) :
    Agrees scan store (seen (seen store (startRows env scan)) ws) where
  targets := by rw [targetsKept _ ws, targetsKept store _]
  findings := by rw [(findingsKept quiet.2 _).1, (findingsKept rfl store).1]
  history := by rw [(findingsKept quiet.2 _).2, (findingsKept rfl store).2]
  compared := by
    have scans : (seen (seen store (startRows env scan)) ws).scans =
        (Write.effect store (claimRow env scan)).scans := scansKept quiet.1 _
    simp only [Db.comparedScan, Db.mostRecentCompleted]
    congr 3
    rw [← Db.completedTransition store scan.targetId scan.id .running (some (env.now .claim)) none]
    simp only [Db.completedScans, scans, claimRow]

theorem startedRunning (queued : store.statusOf scan.id = some .queued) :
    (seen store (startRows env scan)).statusOf scan.id = some .running := by
  have claimed : (Write.effect store (claimRow env scan)).statusOf scan.id = some .running := by
    rw [claimRow, Db.statusTransition, queued]
    simp
  exact claimed

theorem analysedStatus (queued : store.statusOf scan.id = some .queued) (result : HttpAnalysisResult) :
    (seen store (analysedRows env store scan result)).statusOf scan.id = some .aiAnalysis := by
  have running : (seen store (startRows env scan)).statusOf scan.id = some .running :=
    startedRunning queued
  rw [analysedRows, ← seenAppend]
  simp only [auditedRows, completeRows, seen, List.cons_append, List.nil_append, viewCons, viewNil,
    Db.statusTransition, if_true, Option.map_map]
  exact congrArg (Option.map fun _ => ScanStatus.aiAnalysis) running

theorem finishEnds {result : HttpAnalysisResult}
    (early : raised (earlyHazards env store scan) =
      raised (env.faults (completeSites env scan result store)))
    (gets : analysed env store scan = some result)
    (queued : store.statusOf scan.id = some .queued) :
    JobEnd env store scan
      (solo Write.effect (finishChain env scan (jobExecution env scan) (some result))
        (seen store (startRows env scan)) (auditedRows env scan)).store
      (solo Write.effect (finishChain env scan (jobExecution env scan) (some result))
        (seen store (startRows env scan)) (auditedRows env scan)).result := by
  have agrees : Agrees scan store (seen (seen store (startRows env scan)) (auditedRows env scan)) :=
    startAgrees (auditedRows env scan) ⟨rfl, rfl⟩
  have running : (seen (seen store (startRows env scan)) (auditedRows env scan)).statusOf scan.id =
      some .running := startedRunning queued
  have completed := passesComplete env scan (jobExecution env scan) result running
  rw [(completeAgrees env scan agrees (jobExecution env scan) result).1,
    (completeAgrees env scan agrees (jobExecution env scan) result).2, seenAppend,
    ← analysedRows] at completed
  simp only [finishChain]
  rcases completed.thenRuns (fun _ => assessScan env scan (jobExecution env scan) result) with
    ⟨e, stops, kept, failed⟩ | ⟨free, goes⟩
  · rw [kept, failed]
    exact .stuck (early.trans stops)
  · have analysing : (seen (seen store (analysedRows env store scan result)) []).statusOf scan.id =
        some .aiAnalysis := analysedStatus queued result
    obtain ⟨row, final, quiet, terminal, assessed⟩ :=
      passesAssess env scan (jobExecution env scan) result analysing
    rw [goes]
    cases late : raised (assessHazards env result) with
    | some e =>
      obtain ⟨kept, failed⟩ := assessed.stopped e late
      rw [kept, failed]
      exact .unassessed (early.trans free) gets late
    | none =>
      rw [assessed.ended late]
      have ended : JobEnd env store scan _ _ :=
        .reported (early.trans free) gets late quiet terminal
      rw [← seenAppend] at ended
      exact ended

theorem chainEnds {origin : Origin} (here : originFor env store scan = .ok origin)
    (queued : store.statusOf scan.id = some .queued) (may : authorized env store scan = true)
    (claimed : raised (claimHazards env) = none) (started : raised (startHazards env store scan) = none) :
    JobEnd env store scan
      (solo Write.effect (runPipeline env scan (jobExecution env scan) origin >>=
        finishChain env scan (jobExecution env scan)) (seen store (startRows env scan)) []).store
      (solo Write.effect (runPipeline env scan (jobExecution env scan) origin >>=
        finishChain env scan (jobExecution env scan)) (seen store (startRows env scan)) []).result := by
  have early : raised (earlyHazards env store scan) = raised (pipelineHazards env store scan) := by
    rw [earlyHazards, claimedHazards, if_pos may, raisedAppend, raisedAppend, claimed, started]
    rfl
  have running : (seen (seen store (startRows env scan)) []).statusOf scan.id = some .running :=
    startedRunning queued
  have chain : chainResult env store scan = env.pipeline.run origin := by
    rw [chainResult, here]
    rfl
  have last : analysed env store scan = (env.pipeline.run origin).toOption := by
    rw [analysed, if_pos may, chain]
  rw [pipelineHazards, chain] at early
  cases ran : env.pipeline.run origin with
  | error exc =>
    rw [ran] at early last
    rcases (passesFailedPipeline env scan (jobExecution env scan) origin ran running).thenRuns
      (finishChain env scan (jobExecution env scan)) with ⟨e, stops, kept, failed⟩ | ⟨free, goes⟩
    · rw [kept, failed]
      exact .stuck (early.trans stops)
    · rw [goes]
      have ended : JobEnd env store scan _ _ := .failed exc (early.trans free) last
      rwa [seen, viewAppend] at ended
  | ok result =>
    rw [ran] at early last
    cases audit : env.fault .auditSucceeded with
    | some exc =>
      rw [audit] at early
      rcases (passesUnrecorded env scan (jobExecution env scan) origin ran audit store [] none).thenRuns
        (finishChain env scan (jobExecution env scan)) with ⟨e, stops, kept, failed⟩ | ⟨free, goes⟩
      · rw [kept, failed]
        exact .stuck (early.trans stops)
      · contradiction
    | none =>
      rw [audit] at early
      rcases (passesPipeline env scan (jobExecution env scan) origin ran audit).thenRuns
        (finishChain env scan (jobExecution env scan)) with ⟨e, stops, kept, failed⟩ | ⟨free, goes⟩
      · contradiction
      rw [goes]
      exact finishEnds (early ▸ rfl) last queued

theorem passesClaim (queued : store.statusOf scan.id = some .queued) :
    Passes Write.effect (claimScan env scan) store [] (env.faults [.statusIds, .claim]) store
      [claimRow env scan] true :=
  .bind (passesRead _ _) (passesTransition _ _ _ _ queued)

theorem stopsEarly {hazards rest : List (Option PyError)} {e : PyError}
    (same : earlyHazards env store scan = hazards ++ rest) (stops : raised hazards = some e) :
    JobEnd env store scan store (.error e) :=
  .refused (by rw [same, raisedAppend, stops]; rfl)

theorem claimedEnds (queued : store.statusOf scan.id = some .queued)
    (claimed : raised (claimHazards env) = none) :
    JobEnd env store scan
      (solo Write.effect (if attestationHolds env ((seen store [claimRow env scan]).attestation?
          scan.authorizationAttestationId) then secureChain env scan
        else rejectUnauthorized env scan) store [claimRow env scan]).store
      (solo Write.effect (if attestationHolds env ((seen store [claimRow env scan]).attestation?
          scan.authorizationAttestationId) then secureChain env scan
        else rejectUnauthorized env scan) store [claimRow env scan]).result := by
  have attested : attestationHolds env ((seen store [claimRow env scan]).attestation?
      scan.authorizationAttestationId) = authorized env store scan := rfl
  have early : earlyHazards env store scan = claimHazards env ++ claimedHazards env store scan := rfl
  rw [attested]
  rw [claimedHazards] at early
  by_cases may : authorized env store scan = true
  · rw [if_pos may] at early ⊢
    have stops : ∀ e, raised (startHazards env store scan) = some e →
        JobEnd env store scan store (.error e) := by
      intro e stops
      rw [← List.append_assoc] at early
      exact stopsEarly early (by rw [raisedAppend, claimed, stops]; rfl)
    obtain ⟨origin, agrees⟩ : ∃ origin, ∀ o, originFor env store scan = .ok o → o = origin := by
      cases originFor env store scan with
      | error e => exact ⟨⟨[], [], 0, []⟩, fun o same => by contradiction⟩
      | ok o => exact ⟨o, fun _ same => (Except.ok.inj same).symm⟩
    rcases (passesStart agrees).thenRuns (fun started =>
      runPipeline env scan started.1 started.2 >>= finishChain env scan started.1) with
      ⟨e, failed, kept, result⟩ | ⟨free, goes⟩
    · rw [secureChain, kept, result]
      exact stops e failed
    · rw [secureChain, goes]
      cases here : originFor env store scan with
      | error e => simp [startHazards, here, hazardOf, raisedAppend] at free
      | ok o =>
        rw [agrees o here] at here
        exact chainEnds here queued may claimed free
  · rw [if_neg may] at early ⊢
    have running : (seen store [claimRow env scan]).statusOf scan.id = some .running := by
      simp [seen, claimRow, viewCons, queued]
    have rejected := passesReject env scan running
    cases stops : raised (env.faults rejectSites) with
    | some e =>
      obtain ⟨kept, failed⟩ := rejected.stopped e stops
      rw [kept, failed]
      exact .refused (by rw [early, raisedAppend, claimed, stops]; rfl)
    | none =>
      rw [rejected.ended stops]
      exact .unauthorized (by rw [early, raisedAppend, claimed, stops]; rfl)
        (by rw [analysed, if_neg may])

theorem faultsAfter (sites : List Site) {sites' : List Site} {e : PyError}
    (free : raised (env.faults sites) = none) (stops : raised (env.faults sites') = some e) :
    raised (env.faults (sites ++ sites')) = some e := by
  rw [faultsAppend, raisedAppend, free, stops]
  rfl

theorem faultsBoth (sites : List Site) {sites' : List Site} (free : raised (env.faults sites) = none)
    (free' : raised (env.faults sites') = none) : raised (env.faults (sites ++ sites')) = none := by
  rw [faultsAppend, raisedAppend, free, free']
  rfl

/- Every end of a job that runs alone on a queued scan. -/
theorem jobEnds {scanId : Nat} (found : store.scan? scanId = some scan) (queued : scan.status = .queued) :
    JobEnd env store scan (solo Write.effect (runScanJob env scanId) store []).store
      (solo Write.effect (runScanJob env scanId) store []).result := by
  have same : scan.id = scanId := by
    have := List.find?_some found
    simpa using this
  have status : store.statusOf scan.id = some .queued := by
    rw [Db.statusOf, same, found]
    exact congrArg some queued
  have early : ∀ sites rest, claimHazards env = env.faults sites ++ env.faults rest → ∀ e,
      raised (env.faults sites) = some e → JobEnd env store scan store (.error e) := by
    intro sites rest split e stops
    have all : earlyHazards env store scan =
        env.faults sites ++ (env.faults rest ++ claimedHazards env store scan) := by
      rw [← List.append_assoc, ← split, earlyHazards]
    exact stopsEarly all stops
  rw [runScanJob, soloSession]
  have settings : Passes Write.effect (env.attempt .settings) store [] (env.faults [.settings]) store
      [] () := passesAttempt _
  have gets : Passes Write.effect (getById env .getScan scanId) store [] (env.faults [.getScan]) store
      [] (some scan) := found ▸ passesRead _ _
  have attested : Passes Write.effect (env.read .getAttestation fun db =>
      db.attestation? scan.authorizationAttestationId) store [claimRow env scan]
      (env.faults [.getAttestation]) store [claimRow env scan] _ := passesRead _ _
  rcases settings.thenRuns (fun _ => executeScanJob env scanId) with
    ⟨e, stops, kept, failed⟩ | ⟨settingsRead, goes⟩
  · rw [kept, failed]
    exact early [.settings] [.getScan, .statusIds, .claim, .getAttestation] rfl e stops
  rw [goes, executeScanJob]
  rcases gets.thenRuns (runFound env) with ⟨e, stops, kept, failed⟩ | ⟨scanRead, goes⟩
  · rw [kept, failed]
    exact early [.settings, .getScan] [.statusIds, .claim, .getAttestation] rfl e
      (faultsAfter [.settings] settingsRead stops)
  rw [goes, runFound]
  rcases (passesClaim status).thenRuns (fun claimed =>
    if claimed = true then runClaimed env scan else return ()) with
    ⟨e, stops, kept, failed⟩ | ⟨claimMade, goes⟩
  · rw [kept, failed]
    exact early [.settings, .getScan, .statusIds, .claim] [.getAttestation] rfl e
      (faultsAfter [.settings, .getScan] (faultsBoth [.settings] settingsRead scanRead) stops)
  rw [goes, if_pos rfl, runClaimed]
  rcases attested.thenRuns (fun attestation => if attestationHolds env attestation = true then
    secureChain env scan else rejectUnauthorized env scan) with ⟨e, stops, kept, failed⟩ | ⟨attestationRead, goes⟩
  · rw [kept, failed]
    exact early [.settings, .getScan, .statusIds, .claim, .getAttestation] [] rfl e
      (faultsAfter [.settings, .getScan, .statusIds, .claim]
        (faultsBoth [.settings, .getScan] (faultsBoth [.settings] settingsRead scanRead) claimMade) stops)
  · rw [goes]
    exact claimedEnds status (faultsBoth [.settings, .getScan, .statusIds, .claim]
      (faultsBoth [.settings, .getScan] (faultsBoth [.settings] settingsRead scanRead) claimMade) attestationRead)

end Job
end SentinelGpt
