import SentinelGpt.JobEnds
import SentinelGpt.HttpAnalysis
import SentinelGpt.FindingIdentity

/-! What a scan records about every fingerprint, and when it takes the silence of a target
for the resolution of what was found there. -/
namespace SentinelGpt
open ReadCommitted

def derivedFor (current previous : List PyStr) (latest : PyStr → Option LifecycleStatus)
    (fp : PyStr) : Option LifecycleStatus :=
  deriveLifecycleStatus (current.contains fp) (previous.contains fp) (latest fp)

section Rows
variable (env : Env) (scan : Scan) (current previous : List PyStr)
  (latest : PyStr → Option LifecycleStatus)

theorem rowsOfFingerprint {fps : List PyStr} (distinct : fps.Nodup) (row : Nat → PyStr → Option FindingStatusHistory)
    (derived : PyStr → Option LifecycleStatus)
    (same : ∀ i fp, (row i fp).map FindingStatusHistory.status = derived fp)
    (named : ∀ i fp r, row i fp = some r → r.fingerprint = fp) (fp : PyStr) :
    (((fps.mapIdx row).reduceOption.filter fun r => r.fingerprint == fp).map
      FindingStatusHistory.status) = if fp ∈ fps then (derived fp).toList else [] := by
  induction fps generalizing row with
  | nil => rfl
  | cons head rest ih =>
    obtain ⟨new, distinct⟩ := List.nodup_cons.mp distinct
    have tail := ih distinct (fun i => row (i + 1)) (fun i => same (i + 1)) fun i => named (i + 1)
    rw [List.mapIdx_cons]
    have status := same 0 head
    cases first : row 0 head with
    | none =>
      rw [first] at status
      rw [List.reduceOption_cons_of_none, tail]
      by_cases here : fp = head
      · subst here
        simp [new, ← status]
      · simp [here]
    | some r =>
      rw [first] at status
      have name := named 0 head r first
      rw [List.reduceOption_cons_of_some, List.filter_cons]
      by_cases here : fp = head
      · subst here
        simp only [name, beq_self_eq_true, if_true, List.map_cons, tail, new, if_false,
          List.mem_cons, true_or]
        rw [← status]
        rfl
      · have other : (r.fingerprint == fp) = false := by simp [name, Ne.symm here]
        rw [other]
        simp [tail, here]

theorem recordedStatuses (fp : PyStr) :
    (((lifecycleRows env scan current previous latest).filter fun r => r.fingerprint == fp).map
      FindingStatusHistory.status) =
    if fp ∈ current ++ previous then (derivedFor current previous latest fp).toList else [] := by
  rw [lifecycleRows, rowsOfFingerprint (List.nodup_dedup _) (lifecycleRow env scan current previous
    latest) (derivedFor current previous latest)]
  · simp only [List.mem_dedup]
  · intro i fp
    simp only [lifecycleRow, derivedFor, Option.map_map]
    cases deriveLifecycleStatus (current.contains fp) (previous.contains fp) (latest fp) <;> rfl
  · intro i fp r made
    simp only [lifecycleRow, Option.map_eq_some_iff] at made
    obtain ⟨status, -, rfl⟩ := made
    rfl

theorem memRecorded {row : FindingStatusHistory}
    (member : row ∈ lifecycleRows env scan current previous latest) :
    row.targetId = scan.targetId ∧ row.observedInScanId = scan.id ∧
      row.fingerprint ∈ current ++ previous ∧
      derivedFor current previous latest row.fingerprint = some row.status := by
  rw [lifecycleRows, List.reduceOption_mem_iff] at member
  obtain ⟨i, bound, made⟩ := List.mem_mapIdx.mp member
  simp only [lifecycleRow, Option.map_eq_some_iff] at made
  obtain ⟨status, derived, rfl⟩ := made
  have considered := List.getElem_mem bound
  rw [List.mem_dedup] at considered
  exact ⟨rfl, rfl, considered, derived⟩

theorem resolvedIff (fp : PyStr) :
    (∃ row ∈ lifecycleRows env scan current previous latest,
      row.status = .resolved ∧ row.fingerprint = fp) ↔ fp ∈ previous ∧ fp ∉ current := by
  have statuses := recordedStatuses env scan current previous latest fp
  constructor
  · rintro ⟨row, member, resolved, rfl⟩
    obtain ⟨-, -, -, derived⟩ := memRecorded env scan current previous latest member
    rw [resolved, derivedFor, deriveLifecycleStatus] at derived
    grind
  · rintro ⟨before, now⟩
    have derived : derivedFor current previous latest fp = some .resolved := by
      simp [derivedFor, deriveLifecycleStatus, before, now]
    rw [if_pos (List.mem_append_right _ before), derived] at statuses
    have here : LifecycleStatus.resolved ∈ ((lifecycleRows env scan current previous
        latest).filter fun r => r.fingerprint == fp).map FindingStatusHistory.status := by
      rw [statuses]
      simp
    obtain ⟨row, member, resolved⟩ := List.mem_map.mp here
    obtain ⟨recorded, named⟩ := List.mem_filter.mp member
    exact ⟨row, recorded, resolved, beq_iff_eq.mp named⟩

end Rows

/- The history rows a run of `_persist_findings` leaves to its transaction; an exception
takes the transaction with it. -/
def recordedBy (env : Env) (scan : Scan) (execution : ScanEngineExecution)
    (result : HttpAnalysisResult) (store : Db) (pending : List Write) : List FindingStatusHistory :=
  let ended := solo Write.effect (persistFindings env scan execution result) store pending
  match ended.result with
  | .ok _ => (seen ended.store ended.pending).history.drop (seen store pending).history.length
  | .error _ => []

theorem recordedByEq (env : Env) (scan : Scan) (execution : ScanEngineExecution)
    (result : HttpAnalysisResult) (store : Db) (pending : List Write) :
    recordedBy env scan execution result store pending =
      if (raised (env.faults (persistSites env scan result (seen store pending)))).isSome then []
      else recordedHistory env scan (foundNow env scan result (seen store pending))
        (withFindings env scan execution result (seen store pending)) := by
  have passes := passesPersist env store pending scan execution result
  unfold recordedBy
  cases stops : raised (env.faults (persistSites env scan result (seen store pending))) with
  | some e =>
    simp only [(passes.stopped e stops).2, Option.isSome_some, if_true]
  | none =>
    rw [passes.ended stops]
    simp only [seen, viewAppend, viewCons, viewNil, Write.effect, List.drop_left, Option.isSome_none,
      Bool.false_eq_true, if_false]

theorem comparedNonempty (db : Db) (scan : Scan) {fp : PyStr} (before : fp ∈ db.comparedFingerprints scan) :
    fp ≠ [] := by
  rw [Db.comparedFingerprints] at before
  cases compared : db.comparedScan scan with
  | none => rw [compared] at before; contradiction
  | some id =>
    rw [compared] at before
    obtain ⟨-, named⟩ := List.mem_filter.mp before
    rintro rfl
    contradiction

def silentFingerprint (env : Env) (scan : Scan) (db : Db) : Option PyStr :=
  identityDigest env.python (identityOf scan (db.target? scan.targetId)).hostname cipherCode noResponse

def silentFound (env : Env) (scan : Scan) (db : Db) : List PyStr :=
  (silentFingerprint env scan db).toList.filter fun fp => !fp.isEmpty

/- The statements that persist the findings of a target without a response. -/
def silentSites (env : Env) (scan : Scan) (db : Db) : List Site :=
  [.persistTarget, .categoryIds, .severityIds, .engineCode, .addFindings] ++
    lifecycleSites scan (silentFound env scan db) db

section Silence
variable {env : Env} (ascii : AsciiCase env.python) {name version : PyStr}
  {context : ScanNetworkContext} {services : HttpAnalysis.EngineServices env.python}
  {result : HttpAnalysisResult}
include ascii

theorem unreachableFoundNow {hostname : PyStr} {origin : HttpAnalysis.OriginSpec}
    {exc : HttpAnalysis.ControlledTransportError} (scan : Scan) (db : Db)
    (ok : HttpAnalysis.unreachableResult env.python name version hostname origin exc = .ok result) :
    foundNow env scan result db = silentFound env scan db := by
  obtain ⟨-, f, only, category, title⟩ := HttpAnalysis.unreachableFindings ok
  have kind : HttpAnalysis.kindOf f = (HttpAnalysis.categoryTransport, py "No HTTP response obtained") := by
    rw [HttpAnalysis.kindOf, category, title]
  have fingerprint : findingFingerprint env.python (identityOf scan (db.target? scan.targetId)) f = _ :=
    fingerprintOfKind ascii (by decide) kind []
  rw [canonicalHeaders.2.2, silenceFingerprint ascii, ← silentFingerprint] at fingerprint
  rw [foundNow, currentFingerprints, only, silentFound]
  cases silence : silentFingerprint env scan db with
  | none => rw [silence] at fingerprint; rw [List.filterMap_cons_none fingerprint]; rfl
  | some fp => rw [silence] at fingerprint; rw [List.filterMap_cons_some fingerprint]; rfl

theorem unansweredFoundNow (scan : Scan) (db : Db)
    (returned : HttpAnalysis.execute name version context services = .ok result)
    (unanswered : result.errorKind.isSome = true) :
    foundNow env scan result db = silentFound env scan db := by
  obtain ⟨outcome, -, ended⟩ := bindOk returned
  cases outcome with
  | error exc => exact unreachableFoundNow ascii scan db ended
  | ok response =>
    have answered := HttpAnalysis.assessedUnfailed ended
    rw [answered] at unanswered
    contradiction

/- A scan whose target gave no response records no RESOLVED row for what the scan before it
had found exactly when one of its statements fails, or the scan before it had stored no
fingerprint but the one of an absent response. -/
theorem resolvedOnlyIfObservedIff (scan : Scan) (execution : ScanEngineExecution) (store : Db)
    (pending : List Write)
    (returned : HttpAnalysis.execute name version context services = .ok result)
    (unanswered : result.errorKind.isSome = true) :
    (∀ row ∈ recordedBy env scan execution result store pending, row.status = .resolved →
      row.fingerprint ∉ (seen store pending).comparedFingerprints scan) ↔
    (∃ site ∈ silentSites env scan (seen store pending), (env.fault site).isSome = true) ∨
      ∀ fp ∈ (seen store pending).comparedFingerprints scan,
        silentFingerprint env scan (seen store pending) = some fp := by
  have found := unansweredFoundNow ascii scan (seen store pending) returned unanswered
  have sites : persistSites env scan result (seen store pending) =
      silentSites env scan (seen store pending) := by
    rw [persistSites, found, silentSites]
  have failing : (raised (env.faults (silentSites env scan (seen store pending)))).isSome =
      true ↔ ∃ site ∈ silentSites env scan (seen store pending), (env.fault site).isSome = true := by
    simp [raised, Env.faults, List.findSome?_isSome_iff]
  have again : ∀ fp ∈ (seen store pending).comparedFingerprints scan,
      fp ∈ silentFound env scan (seen store pending) ↔
        silentFingerprint env scan (seen store pending) = some fp := by
    intro fp before
    have named := comparedNonempty (seen store pending) scan before
    simp [silentFound, named]
  rw [recordedByEq, sites, found, ← failing]
  cases stops : (raised (env.faults (silentSites env scan (seen store pending)))).isSome with
  | true => simp
  | false =>
    simp only [Bool.false_eq_true, if_false, false_or, recordedHistory]
    constructor
    · intro none fp before
      by_contra other
      have now : fp ∉ silentFound env scan (seen store pending) := fun now => other ((again fp before).mp now)
      have before' := (comparedAdded env scan execution result (seen store pending) fp).mpr (.inl before)
      obtain ⟨row, member, resolved, rfl⟩ := (resolvedIff env scan _ _ _ fp).mpr ⟨before', now⟩
      exact none row member resolved before
    · intro all row member resolved before
      obtain ⟨-, now⟩ := (resolvedIff env scan _ _ _ row.fingerprint).mp ⟨row, member, resolved, rfl⟩
      exact now ((again _ before).mpr (all _ before))

end Silence

/-! A scan that finds a missing header, and then one of the same target that gets no
response. -/

def missingHstsDigest : PyStr :=
  py "e0c57b4d0c30adca70412380b66887bdb8810fc8d62bb2faa74dbacbc8e0bb49"

def noResponseDigest : PyStr :=
  py "a2ed8ee6a880c156c5a4d6d2eef9abfc24eed7a16c1b23ee11c7f6a4ef491167"

def fingerprintingPython : Python := Python.onAscii
  [(py "example.com|MISSING_SECURITY_HEADER|strict-transport-security",
     "e0c57b4d0c30adca70412380b66887bdb8810fc8d62bb2faa74dbacbc8e0bb49"),
   (py "example.com|WEAK_CIPHER|no http response obtained",
     "a2ed8ee6a880c156c5a4d6d2eef9abfc24eed7a16c1b23ee11c7f6a4ef491167")]

def missingHstsFinding : Finding where
  id := py "747012049fa93032"
  category := py "http.security-headers"
  title := py "Missing Strict-Transport-Security security header"
  description := (py "The response does not explicitly forces HTTPS for future visits because " ++
    py "the header is absent.")
  severity := .low
  confidence := .high
  evidence := []
  location := py "https://example.com/"
  recommendation := py "Consider sending Strict-Transport-Security."
  observationIds := []

def missingHstsResult : HttpAnalysisResult := { answeredResult with findings := [missingHstsFinding] }

def envOf (time : Time) (result : HttpAnalysisResult) : Env :=
  plainEnv fingerprintingPython time (plainPipeline result) noFault

def rescanDb (result : HttpAnalysisResult) : Db :=
  let first := (solo Write.effect (executeScanJobTask (envOf 1 result) 1) queuedDb []).store
  { first with scans := first.scans ++ [{ queuedScan 2 none with status := .running }] }

def rescan : Scan := { queuedScan 2 none with status := .running }

def rescanExecution : ScanEngineExecution :=
  executionRow (envOf 2 timeoutResult) .createExecution 2 4 (py "1") .running (some 2)

def silentContext : ScanNetworkContext := ⟨pageBinding⟩

def silentServices : HttpAnalysis.EngineServices (envOf 2 timeoutResult).python where
  limits := ⟨2000000, 10, 4, defaultsPositive⟩
  cancelled := false
  origin := ⟨py "https", none, py "/"⟩
  client _ := .error (.transport ⟨.connectTimeout, py "timed out"⟩)

def silentResult : Except PyError HttpAnalysisResult :=
  HttpAnalysis.execute (py "http-security-analysis") (py "1") silentContext silentServices

theorem fingerprintingAscii : AsciiCase (envOf 2 timeoutResult).python := ⟨fun _ _ => rfl, fun _ _ => rfl⟩

theorem repeatedSilenceResolvesNothing :
    ∃ result, silentResult = .ok result ∧
      (recordedBy (envOf 2 timeoutResult) rescan rescanExecution result (rescanDb timeoutResult) []).length = 1 ∧
      ∀ row ∈ recordedBy (envOf 2 timeoutResult) rescan rescanExecution result
          (rescanDb timeoutResult) [], row.status = .resolved →
        row.fingerprint ∉ (seen (rescanDb timeoutResult) []).comparedFingerprints rescan := by
  have one : (silentResult.toOption.map fun result => (result.errorKind.isSome,
      (recordedBy (envOf 2 timeoutResult) rescan rescanExecution result (rescanDb timeoutResult) []).length)) =
        some (true, 1) := by
    decide +kernel
  obtain ⟨result, returned, both⟩ := Option.map_eq_some_iff.mp one
  obtain ⟨unanswered, count⟩ := Prod.mk.inj both
  refine ⟨result, okOfToOption returned, count, ?_⟩
  exact (resolvedOnlyIfObservedIff fingerprintingAscii rescan rescanExecution (rescanDb timeoutResult) []
    (okOfToOption returned) unanswered).mpr (.inr (by decide +kernel))

theorem silenceResolvesMissingHsts :
    timeoutResult.errorKind.isSome = true ∧
      (rescanDb missingHstsResult).comparedFingerprints rescan = [missingHstsDigest] ∧
      (recordedBy (envOf 2 timeoutResult) rescan rescanExecution timeoutResult
        (rescanDb missingHstsResult) []).map (fun row => (row.fingerprint, row.status)) =
        [(noResponseDigest, .new), (missingHstsDigest, .resolved)] := by
  decide +kernel

end SentinelGpt
