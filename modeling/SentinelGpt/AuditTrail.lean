import SentinelGpt.ScanRuns

/-! Whether the audit log tells how scans have ended: the committed entries of transitions
beside the committed transitions. -/
namespace SentinelGpt
open ReadCommitted

def entered (s : Nat) (ws : List Write) : List ScanStatus := ws.filterMap (Write.targetOf s)

def Write.auditedTo (s : Nat) : Write → Option PyStr
  | .insertAudit entry =>
    if entry.actionCode = py "SCAN_STATE_TRANSITION" ∧ entry.entityId = s then
      lookup entry.metadataJson (py "to")
    else none
  | _ => none

def audited (s : Nat) (ws : List Write) : List PyStr := ws.filterMap (Write.auditedTo s)

def executionSucceeded : PyStr := py "EXECUTION_SUCCEEDED"

def Succeeds (s : Nat) (before ws : List Write) : Prop :=
  ∃ row ended, .insertExecution row ∈ before ∧ row.scanId = s ∧ .markExecution row.id .succeeded ended none ∈ ws

/- What the entries of a transaction tell: a rejection is entered once, and every entry is
of a status the scan has entered, or of the success of its execution. -/
structure Tells (s : Nat) (before ws : List Write) : Prop where
  once : .rejected ∈ entered s ws → (audited s ws).count ScanStatus.rejected.code = 1
  named : ∀ code ∈ audited s ws, (∃ status ∈ entered s (before ++ ws), code = status.code) ∨
    code = executionSucceeded ∧ Succeeds s before ws

section Forms
variable {env : Env} {s s' : Nat} {log : Log} {site : Site} {before ws : List Write}
  {ms : List (ScanStatus × ScanStatus)} {cs : List Site}

theorem tellsSilent (silent : audited s ws = []) (kept : .rejected ∉ entered s ws) :
    Tells s before ws := by
  refine ⟨fun rejected => absurd rejected kept, fun code member => ?_⟩
  rw [silent] at member
  contradiction

theorem tellsRejected (told : audited s ws = [ScanStatus.rejected.code])
    (rejected : .rejected ∈ entered s (before ++ ws)) : Tells s before ws := by
  refine ⟨fun _ => by simp [told], fun code member => ?_⟩
  rw [told, List.mem_singleton] at member
  exact .inl ⟨.rejected, rejected, member⟩

theorem tellsSucceeded (told : audited s ws = [executionSucceeded]) (kept : .rejected ∉ entered s ws)
    (marked : Succeeds s before ws) : Tells s before ws := by
  refine ⟨fun rejected => absurd rejected kept, fun code member => ?_⟩
  rw [told, List.mem_singleton] at member
  exact .inr ⟨member, marked⟩

theorem enteredLater (now : .rejected ∈ entered s ws) : .rejected ∈ entered s (before ++ ws) := by
  rw [entered, List.filterMap_append]
  exact List.mem_append_right _ now

theorem elsewhereTells (form : Committed env s' log site ws ms cs) (other : s' ≠ s) :
    Tells s before ws := by
  have unsaid : audited s ws = [] ∧ entered s ws = [] := by
    cases form with
    | start authorized => simp [audited, entered, Write.auditedTo, Write.targetOf, other]
    | refused row => simp [audited, entered, Write.auditedTo, Write.targetOf, row.entity, other]
    | failed started row attempt =>
      cases attempt <;> simp [audited, entered, Write.auditedTo, Write.targetOf, row.entity, other]
    | completed started audited_ row records completes analyses both =>
      cases completes <;> cases analyses <;>
        simp [audited, entered, Write.auditedTo, Write.targetOf, row.entity, other]
    | assessed started audited_ assessment ends attempt =>
      cases assessment <;> cases attempt <;>
        simp [audited, entered, Write.auditedTo, Write.targetOf, other]
    | idle => exact ⟨rfl, rfl⟩
    | handled stuck recorded row =>
      cases recorded <;>
        simp [audited, entered, Write.auditedTo, Write.targetOf, row.entity, other]
    | cancelled found here may => simp [audited, entered, Write.auditedTo, Write.targetOf, other]
  exact tellsSilent unsaid.1 (by simp [unsaid.2])

theorem otherTells (form : OtherCommitted env log site ws cs) : Tells s before ws := by
  have revoked : py "ATTESTATION_REVOKED" ≠ py "SCAN_STATE_TRANSITION" := by decide
  have requested : py "SCAN_REQUESTED" ≠ py "SCAN_STATE_TRANSITION" := by decide
  have unsaid : audited s ws = [] ∧ entered s ws = [] := by
    cases form with
    | revoked other => simp [audited, entered, Write.auditedTo, Write.targetOf, other, revoked]
    | admitted named queued other covers =>
      simp [audited, entered, Write.auditedTo, Write.targetOf, other, requested]
  exact tellsSilent unsaid.1 (by simp [unsaid.2])

def Begun (env : Env) (s : Nat) (before : List Write) : Prop :=
  ∃ row, .insertExecution row ∈ before ∧ row.id = env.newId .createExecution 0 ∧ row.scanId = s

theorem ownTells (form : Committed env s log site ws ms cs)
    (begun : Started env s log → Begun env s before)
    (lost : Lost s .failTransition .running [] [.startCommit] log → .rejected ∈ entered s before) :
    Tells s before ws := by
  cases form with
  | start authorized =>
    exact tellsSilent (by simp [audited, Write.auditedTo]) (by simp [entered, Write.targetOf])
  | refused row =>
    refine tellsRejected ?_ (enteredLater (by simp [entered, List.filterMap_cons, Write.targetOf]))
    simp [audited, List.filterMap_cons, Write.auditedTo, row.action, row.entity, row.entered]
  | failed started row attempt =>
    cases attempt with
    | missed event =>
      refine tellsRejected ?_ ?_
      · simp [audited, List.filterMap_cons, Write.auditedTo, row.action, row.entity, row.entered]
      · rw [entered, List.filterMap_append]
        exact List.mem_append_left _ (lost event)
    | found =>
      refine tellsRejected ?_ (enteredLater (by simp [entered, List.filterMap_cons, Write.targetOf]))
      simp [audited, List.filterMap_cons, Write.auditedTo, row.action, row.entity, row.entered]
  | completed started audited_ row records completes analyses both =>
    obtain ⟨row', inserted, same, of_⟩ := begun started
    refine tellsSucceeded ?_ ?_ ⟨row', _, inserted, of_, by simp; exact .inl ⟨same, rfl⟩⟩
    · cases completes <;> cases analyses <;>
        simp [audited, List.filterMap_cons, Write.auditedTo, row.action, row.entity, row.entered,
          executionSucceeded]
    · cases completes <;> cases analyses <;> simp [entered, List.filterMap_cons, Write.targetOf]
  | assessed started audited_ assessment ends attempt =>
    have other : ∀ final, final = ScanStatus.reportReady ∨ final = .reportReadyDegraded →
        ScanStatus.rejected ≠ final := by
      rintro final (rfl | rfl) <;> decide
    refine tellsSilent ?_ ?_
    · cases assessment <;> cases attempt <;> simp [audited, Write.auditedTo]
    · cases assessment <;> cases attempt <;>
        simp [entered, List.filterMap_cons, Write.targetOf, other _ ends]
  | idle => exact tellsSilent rfl (by simp [entered])
  | handled stuck recorded row =>
    cases recorded <;>
    · refine tellsRejected ?_ (enteredLater (by simp [entered, List.filterMap_cons, Write.targetOf]))
      simp [audited, List.filterMap_cons, Write.auditedTo, row.action, row.entity, row.entered]
  | cancelled found here may =>
    exact tellsSilent (by simp [audited, Write.auditedTo])
      (by simp [entered, Write.targetOf])

end Forms

section Runs
variable {requests : List Request} {store : Db} {trace : Trace} {t : System Db Write Site PyError}

def RunsOn (requests : List Request) (s : Nat) (trace : Trace) (db : Db) : Prop :=
  ∀ i, scanOf requests i = some s → commits (own i trace) = [.startCommit] →
    db.statusOf s = some .running ∨ .rejected ∈ entered s (committed trace)

theorem runsOn (s : Nat) (run : Run scanRows (requested requests store) trace t) :
    RunsOn requests s trace t.store := by
  refine commitRun (I := RunsOn requests s) ?_ ?_ ?_ run
  · intro i _ done
    contradiction
  · intro trace i e db other runs k on done
    rw [committedOther trace i other]
    refine runs k on ?_
    rw [ownSnoc] at done
    split at done
    · cases e <;> first | contradiction | simpa [commits] using done
    · exact done
  · intro trace t i r site committed runs k on done
    rw [committedCommit, entered, List.filterMap_append]
    rw [ownSnoc] at done
    by_cases same : i = k
    · subst same
      rw [if_pos rfl, commitsCommit] at done
      obtain rfl : site = .startCommit := by
        have last := congrArg List.getLast? done
        simpa using last
      obtain ⟨r', found, here⟩ := Option.bind_eq_some_iff.mp on
      rw [committed.found] at found
      cases found
      obtain ⟨-, only⟩ := startStarts (committed.form here) rfl rfl
      refine .inl ?_
      rw [committed.status (followsSome (committed.follows s) (by simp [only])), only]
      rfl
    · rw [if_neg same] at done
      rcases runs k on done with running | rejected
      · by_cases none : moves s (own i trace) = []
        · exact .inl (by rw [committed.status (by simp [running]), none, lastStatusNil, running])
        · have follows := committed.follows s
          rw [running] at follows
          rcases leavesRunning (committed.form (committed.mine s none)) follows none with
            ⟨-, started⟩ | ⟨-, handled⟩
          · have starts : Site.startCommit ∈ commits (own k trace) := by simp [done]
            have once := (claimedOnce s committed.run).once i k (startedClaims started)
              (startClaims committed.run on starts)
            exact absurd once same
          · refine .inr (List.mem_append_right _ ?_)
            rw [committed.targets s]
            exact List.mem_map_of_mem handled
      · exact .inr (List.mem_append_left _ rejected)

theorem lostRejected {s i : Nat} (run : Run scanRows (requested requests store) trace t)
    (on : scanOf requests i = some s)
    (lost : Lost s .failTransition .running [] [.startCommit] (own i trace)) :
    .rejected ∈ entered s (committed trace) := by
  cases lost with
  | missed split other moved done =>
    obtain ⟨earlier, later, whole, rfl, -⟩ := ownSplit split
    obtain ⟨u, before, same⟩ := viewStatus run whole on
    rw [moved, lastStatusNil] at same
    rcases runsOn s before i on done with running | rejected
    · exact absurd (same.trans running) other
    · obtain ⟨ws, after⟩ := committedGrows earlier ((i, .exec .failTransition _ []) :: later)
      rw [whole, ← after, entered, List.filterMap_append]
      exact List.mem_append_left _ rejected

theorem startedBegun {env : Env} {s i : Nat} (started : Started env s (own i trace)) : Begun env s (committed trace) := by
  obtain ⟨before, after, engine, version, startedAt, split, -, inserted⟩ := started
  obtain ⟨earlier, later, whole, rfl, -⟩ := ownSplit split
  obtain ⟨ws, grown⟩ := committedGrows (earlier ++ [(i, .commit .startCommit)]) later
  refine ⟨executionRow env .createExecution s engine version .running startedAt, ?_, rfl, rfl⟩
  rw [whole, List.append_cons, ← grown, committedCommit]
  exact List.mem_append_left _ (List.mem_append_right _ inserted)

/- In every run every transaction tells of the scan what has happened to it. -/
theorem auditTellsRejections {s i : Nat} {before after : Trace} {site : Site}
    (run : Run scanRows (requested requests store) trace t)
    (split : trace = before ++ (i, .commit site) :: after) :
    Tells s (committed before) (staged (own i before)) := by
  obtain ⟨u, -, -, earlier, -, -, -⟩ := runBefore run split
  obtain ⟨-, owed, -⟩ := requestsKeep run
  have owed : (rulesOf requests i).guarantee (own i before) (.commit site) :=
    owed before i _ after split
  cases found : requests[i]? with
  | none =>
    rw [rulesOf, found] at owed
    contradiction
  | some r =>
    rw [rulesFound found] at owed
    cases on : r.scan? with
    | none =>
      rw [rulesOff on] at owed
      exact otherTells owed
    | some s' =>
      rw [rulesOn on] at owed
      by_cases same : s' = s
      · subst same
        refine ownTells owed startedBegun fun lost => lostRejected earlier ?_ lost
        rw [scanOf, found, Option.bind_some, on]
      · exact elsewhereTells owed same

end Runs

def handledRequest : Request :=
  .handler (plainEnv (Python.onAscii []) 1 (plainPipeline answeredResult) noFault) 1 (py "OSError")

def endsHandled : Option (Nat × Event Db Write Site) → Bool
  | some (0, .commit .markCommit) => true
  | _ => false

theorem endsHandledIs {last : Option (Nat × Event Db Write Site)} (ends : endsHandled last = true) :
    last = some (0, .commit .markCommit) := by
  unfold endsHandled at ends
  split at ends
  · rfl
  · contradiction

theorem handledRejectionTold :
    ∃ trace t before, Run scanRows (requested [handledRequest] queuedDb) trace t ∧
      trace = before ++ [(0, .commit .markCommit)] ∧
      .rejected ∈ entered 1 (staged (own 0 before)) ∧
      Tells 1 (committed before) (staged (own 0 before)) := by
  have replayed : ((replay scanRows (requested [handledRequest] queuedDb)
      (List.replicate 9 (.step 0))).map fun (trace, _) => endsHandled trace.getLast? &&
        (entered 1 (staged (own 0 trace.dropLast))).contains .rejected) = some true := by
    decide +kernel
  obtain ⟨⟨trace, t⟩, ran, checks⟩ := Option.map_eq_some_iff.mp replayed
  simp only [Bool.and_eq_true, List.contains_iff_mem] at checks
  obtain ⟨before, same⟩ := List.getLast?_eq_some_iff.mp (endsHandledIs checks.1)
  have rejected := checks.2
  rw [same, List.dropLast_concat] at rejected
  exact ⟨trace, t, before, replayRun ran, same, rejected, auditTellsRejections (replayRun ran) same⟩

def plainRequest : Request :=
  .task (plainEnv (Python.onAscii []) 1 (plainPipeline answeredResult) noFault) 1

/- The report is ready, degraded, and the one entry names what is no status. -/
theorem readyReportUntold :
    ∃ trace t, Run scanRows (requested [plainRequest] queuedDb) trace t ∧ allReturned t = true ∧
      .reportReadyDegraded ∈ entered 1 (committed trace) ∧
      audited 1 (committed trace) = [executionSucceeded] := by
  have replayed : ((replay scanRows (requested [plainRequest] queuedDb)
      (List.replicate 27 (.step 0))).map fun (trace, t) => allReturned t &&
        (entered 1 (committed trace)).contains .reportReadyDegraded &&
        audited 1 (committed trace) == [executionSucceeded]) = some true := by
    decide +kernel
  obtain ⟨⟨trace, t⟩, ran, checks⟩ := Option.map_eq_some_iff.mp replayed
  simp only [Bool.and_eq_true, List.contains_iff_mem, beq_iff_eq] at checks
  exact ⟨trace, t, replayRun ran, checks.1.1, checks.1.2, checks.2⟩

end SentinelGpt
