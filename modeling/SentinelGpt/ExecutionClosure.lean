import SentinelGpt.ScanRuns

/-! Whether the engine executions of a scan are closed once the scan is over. -/
namespace SentinelGpt
open ReadCommitted

def ExecutionStatus.isTerminal : ExecutionStatus → Bool
  | .succeeded | .failed | .timedOut => true
  | .pending | .running => false

def ScanEngineExecution.isClosed (x : ScanEngineExecution) : Bool :=
  x.status.isTerminal && x.completedAt.isSome

namespace Db

def openExecutions (db : Db) (s : Nat) : List ScanEngineExecution :=
  db.executions.filter fun x => x.scanId == s && !x.isClosed

def closedWhenTerminal (db : Db) (s : Nat) : Prop :=
  ∀ status, db.statusOf s = some status → status.isTerminal = true →
    ∀ x ∈ db.executions, x.scanId = s → x.isClosed = true

theorem closedIffNone (db : Db) (s : Nat) :
    (∀ x ∈ db.executions, x.scanId = s → x.isClosed = true) ↔ db.openExecutions s = [] := by
  simp [openExecutions, List.filter_eq_nil_iff]

theorem openInserted (db : Db) (s : Nat) (row : ScanEngineExecution) :
    (Write.effect db (.insertExecution row)).openExecutions s =
      db.openExecutions s ++ if row.scanId == s && !row.isClosed then [row] else [] := by
  simp only [openExecutions, Write.effect, List.filter_append, List.filter_cons, List.filter_nil]

theorem openMarked (db : Db) (s id : Nat) {status : ExecutionStatus} (ended : Time)
    (reason : Option PyStr) (terminal : status.isTerminal = true) :
    (Write.effect db (.markExecution id status ended reason)).openExecutions s =
      (db.openExecutions s).filter fun x => x.id != id := by
  have closed : ∀ x : ScanEngineExecution, (x.marked status ended reason).isClosed = true := by
    intro x
    simp [ScanEngineExecution.marked, ScanEngineExecution.isClosed, terminal]
  simp only [openExecutions, Write.effect, updateRow]
  induction db.executions with
  | nil => rfl
  | cons x rest ih =>
    rw [List.map_cons, List.filter_cons, ih, List.filter_cons]
    by_cases same : x.id = id
    · rw [if_pos same, closed]
      by_cases here : (x.scanId == s && !x.isClosed) = true
      · simp [here, same]
      · simp [here]
    · rw [if_neg same]
      by_cases here : (x.scanId == s && !x.isClosed) = true
      · simp [here, same]
      · simp [here]

end Db

def Write.ends : Write → Bool
  | .markExecution _ status _ _ => status.isTerminal
  | _ => true

def openStep (s : Nat) (xs : List ScanEngineExecution) : Write → List ScanEngineExecution
  | .insertExecution row => xs ++ if row.scanId == s && !row.isClosed then [row] else []
  | .markExecution id _ _ _ => xs.filter fun x => x.id != id
  | _ => xs

section Executions
variable {env : Env} {s s' : Nat} {log : Log} {site : Site} {ws : List Write}
  {ms : List (ScanStatus × ScanStatus)} {cs : List Site} {db : Db} {x : ScanEngineExecution}

theorem openSeen (ends : ∀ w ∈ ws, w.ends = true) :
    (seen db ws).openExecutions s = ws.foldl (openStep s) (db.openExecutions s) := by
  induction ws generalizing db with
  | nil => rfl
  | cons w rest ih =>
    have first := ends w List.mem_cons_self
    have step : (Write.effect db w).openExecutions s = openStep s (db.openExecutions s) w := by
      cases w with
      | insertExecution row => exact Db.openInserted db s row
      | markExecution id status ended reason => exact Db.openMarked db s id ended reason first
      | _ => rfl
    rw [seen, viewCons, List.foldl_cons, ← step]
    exact ih fun w member => ends w (List.mem_cons_of_mem _ member)

theorem attemptEnds {source target : ScanStatus} {before : List (ScanStatus × ScanStatus)}
    (attempt : Attempt s log site source target before cs ws ms) :
    (∀ w ∈ ws, w.ends = true) ∧ ∀ id xs, ws.foldl (openStep id) xs = xs := by
  cases attempt <;> simp [Write.ends, openStep]

theorem assessmentEnds {executionId : Nat} {w : Write} (assessment : AssessmentWrite executionId w) :
    w.ends = true ∧ ∀ xs, openStep s xs w = xs := by
  cases assessment <;> exact ⟨rfl, fun _ => rfl⟩

theorem openAfter (form : Committed env s' log site ws ms cs) (open_ : x ∈ (seen db ws).openExecutions s) :
    (x ∈ db.openExecutions s ∧
        (site = .failCommit ∨ site = .aiCommit → x.id ≠ env.newId .createExecution 0)) ∨
      s' = s ∧ site = .startCommit ∧ x.id = env.newId .createExecution 0 := by
  cases form with
  | start authorized =>
    rw [openSeen (by simp [Write.ends])] at open_
    rcases List.mem_append.mp open_ with old | new
    · exact .inl ⟨old, by simp⟩
    · split at new
      · rename_i mine
        rw [List.mem_singleton.mp new]
        simp only [Bool.and_eq_true, beq_iff_eq] at mine
        exact .inr ⟨mine.1, rfl, rfl⟩
      · contradiction
  | refused row =>
    rw [openSeen (by simp [Write.ends, ExecutionStatus.isTerminal])] at open_
    simp only [List.foldl_cons, List.foldl_nil, openStep, List.mem_filter, List.mem_append] at open_
    rcases open_ with ⟨old | new, other⟩
    · exact .inl ⟨old, by simp⟩
    · split at new
      · rw [List.mem_singleton.mp new] at other
        simp [executionRow] at other
      · contradiction
  | failed started row attempt =>
    obtain ⟨ends, same⟩ := attemptEnds attempt
    rw [openSeen (by simpa [Write.ends, ExecutionStatus.isTerminal] using ends)] at open_
    simp only [List.foldl_append, List.foldl_cons, List.foldl_nil, openStep, same,
      List.mem_filter, bne_iff_ne] at open_
    exact .inl ⟨open_.1, fun _ => open_.2⟩
  | @completed entry _ marked rows evidence history _ _ _ _ started audited row records completes analyses both =>
    obtain ⟨ends, same⟩ := attemptEnds completes
    obtain ⟨ends', same'⟩ := attemptEnds analyses
    have stored : ∀ w ∈ [Write.insertAudit entry, .markExecution (env.newId .createExecution 0)
        .succeeded marked none, .insertFindings rows, .insertEvidence evidence,
        .insertHistory history], w.ends = true := by
      simp [Write.ends, ExecutionStatus.isTerminal]
    rw [openSeen (List.forall_mem_append.mpr ⟨List.forall_mem_append.mpr ⟨stored, ends⟩, ends'⟩)] at open_
    simp only [List.foldl_append, List.foldl_cons, List.foldl_nil, openStep, same, same',
      List.mem_filter, bne_iff_ne] at open_
    exact .inl ⟨open_.1, fun _ => open_.2⟩
  | assessed started audited assessment finals attempt =>
    obtain ⟨ends, same⟩ := attemptEnds attempt
    obtain ⟨ended, quiet⟩ := assessmentEnds (s := s) assessment
    rw [openSeen (List.forall_mem_cons.mpr ⟨ended, ends⟩), List.foldl_cons, same, quiet] at open_
    exact .inl ⟨open_, by simp⟩
  | idle => exact .inl ⟨open_, by simp⟩
  | handled stuck recorded row =>
    cases recorded with
    | none => exact .inl ⟨open_, by simp⟩
    | recorded =>
      rw [openSeen (by simp [Write.ends, ExecutionStatus.isTerminal])] at open_
      simp only [List.cons_append, List.nil_append, List.foldl_cons, List.foldl_nil, openStep,
        List.mem_filter, List.mem_append] at open_
      rcases open_ with ⟨old | new, other⟩
      · exact .inl ⟨old, by simp⟩
      · split at new
        · rw [List.mem_singleton.mp new] at other
          simp [executionRow] at other
        · contradiction
  | cancelled found here may => exact .inl ⟨open_, by simp⟩

theorem otherOpen (form : OtherCommitted env log site ws cs) :
    (seen db ws).openExecutions s = db.openExecutions s := by
  cases form <;> rfl

end Executions

section Runs
variable {requests : List Request} {store : Db} {trace : Trace} {t : System Db Write Site PyError}

/- What a failure handler commits is not the rejection of the RUNNING scan. -/
def SparesRunning (s : Nat) (_ : Nat) (log : Log) (e : Event Db Write Site) : Prop :=
  e = .commit .markCommit → (.running, .rejected) ∉ moves s log

def HasJob (requests : List Request) (s : Nat) (trace : Trace) (x : ScanEngineExecution) : Prop :=
  ∃ i r, requests[i]? = some r ∧ Started r.env s (own i trace) ∧ x.id = r.env.newId .createExecution 0

theorem hasJobLater {s : Nat} {x : ScanEngineExecution} (has : HasJob requests s trace x)
    (entry : Nat × Event Db Write Site) : HasJob requests s (trace ++ [entry]) x := by
  obtain ⟨i, r, found, started, same⟩ := has
  refine ⟨i, r, found, ?_, same⟩
  rw [ownSnoc]
  split
  · exact stableStarted _ _ _ _ started
  · exact started

def OpenHeld (requests : List Request) (s : Nat) (trace : Trace) (db : Db) : Prop :=
  ∀ x ∈ db.openExecutions s, db.statusOf s = some .running ∧ HasJob requests s trace x

theorem openHeldKept {s i : Nat} {r : Request} {site : Site}
    (committed : Commits requests store trace t i r site) (spares : SparesRunning s i (own i trace) (.commit site))
    (held : OpenHeld requests s trace t.store) :
    OpenHeld requests s (trace ++ [(i, .commit site)]) (seen t.store (staged (own i trace))) := by
  intro x open_
  -- An execution that was open before still is, where the transaction leaves the scan RUNNING.
  have stays : x ∈ t.store.openExecutions s → moves s (own i trace) = [] →
      (seen t.store (staged (own i trace))).statusOf s = some .running ∧
        HasJob requests s (trace ++ [(i, .commit site)]) x := by
    intro old none
    obtain ⟨running, has⟩ := held x old
    refine ⟨?_, hasJobLater has _⟩
    rw [committed.status (by rw [running]; rfl), none, running, lastStatusNil]
  cases on : r.scan? with
  | none =>
    rw [otherOpen (committed.other on)] at open_
    exact stays open_ (committed.unmoved (by simp [on]))
  | some s' =>
    have form := committed.form on
    rcases openAfter form open_ with ⟨old, ended⟩ | ⟨rfl, rfl, mine⟩
    · by_cases none : moves s (own i trace) = []
      · exact stays old none
      obtain rfl : s' = s := Option.some.inj (on.symm.trans (committed.mine s none))
      obtain ⟨running, j, r', found, started, same⟩ := held x old
      have follows := committed.follows s'
      rw [running] at follows
      rcases leavesRunning form follows none with ⟨ends, own_⟩ | ⟨rfl, handled⟩
      · have one := (claimedOnce s' committed.run).once i j (startedClaims own_) (startedClaims started)
        subst one
        rw [committed.found] at found
        cases found
        exact absurd same (ended ends)
      · exact absurd handled (spares rfl)
    · obtain ⟨started, only⟩ := startStarts form rfl rfl
      refine ⟨?_, i, r, committed.found, by rwa [ownSnoc, if_pos rfl], mine⟩
      have follows := followsSome (committed.follows s') (by rw [only]; exact List.cons_ne_nil _ _)
      rw [committed.status follows, only]
      rfl

/- Unless a failure handler rejects the RUNNING scan, it is over only when all its
executions are closed. -/
theorem closedUnlessHandled {s : Nat}
    (start : ∀ x ∈ store.executions, x.scanId = s → x.isClosed = true)
    (run : Run scanRows (requested requests store) trace t) (spares : AlongEach (SparesRunning s) trace) :
    t.store.closedWhenTerminal s := by
  have held : AlongEach (SparesRunning s) trace → OpenHeld requests s trace t.store := by
    refine commitRun (I := fun trace db => AlongEach (SparesRunning s) trace →
      OpenHeld requests s trace db) ?_ ?_ ?_ run
    · intro _ x open_
      rw [(store.closedIffNone s).mp start] at open_
      contradiction
    · intro trace i e db other held spares x open_
      obtain ⟨running, has⟩ := held (alongEachOf spares).1 x open_
      exact ⟨running, hasJobLater has _⟩
    · intro trace t i r site committed held spares
      obtain ⟨earlier, now⟩ := alongEachOf spares
      exact openHeldKept committed now (held earlier)
  intro status here terminal
  rw [t.store.closedIffNone s, List.eq_nil_iff_forall_not_mem]
  intro x open_
  obtain ⟨running, -⟩ := held spares x open_
  rw [running] at here
  cases here
  contradiction

end Runs

/-! A scan whose chain fails, and one whose findings cannot be stored. -/

def brokenPipeline : ScanPipeline where
  engineCode := some headersAnalyzer
  engineVersion := none
  run _ := .error (.other (py "EngineError"))

def brokenTask : Request := .task (plainEnv (Python.onAscii []) 1 brokenPipeline noFault) 1

def faultyEnv : Env :=
  { plainEnv (Python.onAscii []) 1 (plainPipeline answeredResult) fun site =>
      if site = .addFindings then some (.other (py "OperationalError")) else none with
    newId := fun site index => if site = .markExecution then 200 + index else 100 + index }

def faultyTask : Request := .task faultyEnv 1

def notHandled : Event Db Write Site → Bool
  | .commit .markCommit => false
  | _ => true

theorem brokenScanClosed :
    ∃ trace t, Run scanRows (requested [brokenTask] queuedDb) trace t ∧
      t.store.statusOf 1 = some .rejected ∧ t.store.executions.length = 1 ∧
      t.store.closedWhenTerminal 1 := by
  have replayed : ((replay scanRows (requested [brokenTask] queuedDb)
      (List.replicate 14 (.step 0))).map fun (trace, t) => trace.all (fun entry => notHandled entry.2) &&
        t.store.statusOf 1 == some .rejected && t.store.executions.length == 1) = some true := by
    decide +kernel
  obtain ⟨⟨trace, t⟩, ran, checks⟩ := Option.map_eq_some_iff.mp replayed
  simp only [Bool.and_eq_true, List.all_eq_true, beq_iff_eq] at checks
  refine ⟨trace, t, replayRun ran, checks.1.2, checks.2, ?_⟩
  refine closedUnlessHandled (by simp [queuedDb]) (replayRun ran) ?_
  rintro before i e after rfl rfl
  exact absurd (checks.1.1 (i, .commit .markCommit) (by simp)) (by simp [notHandled])

/- The failed INSERT rolls back the end of the execution with it, and the handler rejects the
scan beside an execution that stays RUNNING. -/
theorem handledWhileRunning :
    ∃ trace t, Run scanRows (requested [faultyTask] queuedDb) trace t ∧
      allReturned t = true ∧ t.store.statusOf 1 = some .rejected ∧
      ∃ x ∈ t.store.executions, x.scanId = 1 ∧ x.status = .running ∧ x.completedAt = none := by
  have replayed : ((replay scanRows (requested [faultyTask] queuedDb)
      (List.replicate 25 (.step 0))).map fun (_, t) =>
        allReturned t && t.store.statusOf 1 == some .rejected && t.store.executions.any fun x =>
          x.scanId == 1 && x.status == .running && x.completedAt == none) = some true := by
    decide +kernel
  obtain ⟨⟨trace, t⟩, ran, checks⟩ := Option.map_eq_some_iff.mp replayed
  simp only [Bool.and_eq_true, List.any_eq_true, beq_iff_eq] at checks
  obtain ⟨⟨ended, rejected⟩, x, member, ⟨mine, running⟩, unended⟩ := checks
  exact ⟨trace, t, replayRun ran, ended, rejected, x, member, mine, running, unended⟩

end SentinelGpt
