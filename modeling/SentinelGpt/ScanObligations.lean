import SentinelGpt.ScanRequests

/-! Every job on a scan, failure handler and cancellation keeps to its contract, whatever
faults it meets and whatever else happens in between. -/
namespace SentinelGpt
open ReadCommitted

/-! Histories: what is known of one, what its last transaction has staged, which moves of
the scan these are, and which commits it has. -/
structure At (s : Nat) (K : Log → Prop) (ws : List Write) (ms : List (ScanStatus × ScanStatus))
    (cs : List Site) (log : Log) : Prop where
  known : K log
  staged : staged log = ws
  moves : moves s log = ms
  commits : commits log = cs

theorem At.weaken {s : Nat} {K K' : Log → Prop} {ws : List Write}
    {ms : List (ScanStatus × ScanStatus)} {cs : List Site} {log : Log} (at_ : At s K ws ms cs log)
    (weaker : K log → K' log) : At s K' ws ms cs log :=
  ⟨weaker at_.known, at_.staged, at_.moves, at_.commits⟩

theorem stableTrue : Stable fun _ : Log => True := fun _ _ _ => trivial

theorem stableAnd {K K' : Log → Prop} (first : Stable K) (second : Stable K') :
    Stable fun log => K log ∧ K' log :=
  fun log e both => ⟨first log e both.1, second log e both.2⟩

theorem stableMem (e : Event Db Write Site) : Stable fun log => e ∈ log :=
  fun _ _ member => List.mem_append_left _ member

theorem stableAuthorized (env : Env) (s : Nat) (scan : Scan) : Stable (Authorized env s scan) := by
  rintro log e ⟨loaded, found, active, claimed, rest⟩
  exact .checked loaded found active claimed (rest ++ [e])

theorem stableClaims (s : Nat) : Stable (Claims s) := by
  rintro log e ⟨before, site, after, rfl, claims⟩
  exact ⟨before, site, after ++ [e], by simp, claims⟩

theorem startedClaims {env : Env} {s : Nat} {log : Log} (started : Started env s log) : Claims s log := by
  obtain ⟨before, after, engine, version, startedAt, rfl, claims, -⟩ := started
  exact ⟨before, .startCommit, after, rfl, claims⟩

theorem stableStarted (env : Env) (s : Nat) : Stable (Started env s) := by
  rintro log e ⟨before, after, engine, version, startedAt, rfl, claims, inserted⟩
  exact ⟨before, after ++ [e], engine, version, startedAt, by simp, claims, inserted⟩

theorem stableLost (s : Nat) (site : Site) (source : ScanStatus) (ms : List (ScanStatus × ScanStatus))
    (cs : List Site) : Stable (Lost s site source ms cs) := by
  intro log e lost
  cases lost with
  | missed split other moved done =>
    exact .missed (by rw [split, List.append_assoc, List.cons_append]) other moved done

theorem stableAttempt (s : Nat) (site : Site) (source target : ScanStatus)
    (before : List (ScanStatus × ScanStatus)) (cs : List Site) (ws : List Write)
    (ms : List (ScanStatus × ScanStatus)) :
    Stable fun log => Attempt s log site source target before cs ws ms := by
  intro log e attempt
  cases attempt with
  | found => exact .found
  | missed lost => exact .missed (stableLost _ _ _ _ _ log e lost)

@[simp] theorem commitsCommit (log : Log) (site : Site) :
    commits (log ++ [.commit site]) = commits log ++ [site] := by
  simp [commits]

@[simp] theorem commitsExec (log : Log) (site : Site) (db : Db) (writes : List Write) :
    commits (log ++ [.exec site db writes]) = commits log := by
  simp [commits]

@[simp] theorem commitsCall (log : Log) (site : Site) :
    commits (log ++ [.call site]) = commits log := by
  simp [commits]

abbrev Owes {α : Type} (env : Env) (s : Nat) (P : Log → Prop) (p : Prog α) (Q : α → Log → Prop) : Prop :=
  Spec (scanRules env s) P p Q fun _ => True

section Rules
variable {env : Env} {s : Nat} {K : Log → Prop} {ws : List Write}
  {ms : List (ScanStatus × ScanStatus)} {cs : List Site} {α β : Type}

theorem owesExists {P : α → Log → Prop} {p : Prog β} {Q : β → Log → Prop}
    (each : ∀ a, Owes env s (P a) p Q) : Owes env s (fun log => ∃ a, P a log) p Q :=
  fun log ⟨a, holds⟩ => each a log holds

theorem owesGiven {φ : Prop} {P : Log → Prop} {p : Prog β} {Q : β → Log → Prop}
    (given : φ → Owes env s P p Q) : Owes env s (fun log => φ ∧ P log) p Q :=
  fun log ⟨holds, before⟩ => given holds log before

theorem owesRaise {P : Log → Prop} {e : PyError} {Q : β → Log → Prop} :
    Owes env s P (Program.raise e : Prog β) Q := fun _ _ => trivial

theorem atExec (stable : Stable K) {log : Log} (at_ : At s K ws ms cs log) (site : Site) (db : Db)
    (writes : List Write) :
    At s K (ws ++ writes) (ms ++ moveOf s db writes) cs (log ++ [.exec site db writes]) := by
  obtain ⟨known, rfl, rfl, rfl⟩ := at_
  exact ⟨stable _ _ known, by simp [stage], by simp [movesStep], by simp⟩

theorem eventAt (site : Site) {writes : Db → List Write} {result : Db → α}
    (sound : ∀ db, (∀ m ∈ ms.getLast?, db.statusOf s = some m.2) → Sound (some s) db (writes db)) :
    Owes env s (At s K ws ms cs) (env.statement site writes result) fun a log =>
      ∃ before db, (a = result db ∧ ∀ m ∈ ms.getLast?, db.statusOf s = some m.2) ∧
        At s K ws ms cs before ∧ log = before ++ [.exec site db (writes db)] := by
  unfold Env.statement
  split
  · exact owesRaise
  · intro log at_ db sees
    have now : ∀ m ∈ ms.getLast?, db.statusOf s = some m.2 := at_.moves ▸ sees
    exact ⟨sound db now, log, db, ⟨rfl, now⟩, at_, rfl⟩

theorem statementAt (site : Site) {writes : Db → List Write} {result : Db → α} (stable : Stable K)
    (sound : ∀ db, (∀ m ∈ ms.getLast?, db.statusOf s = some m.2) → Sound (some s) db (writes db)) :
    Owes env s (At s K ws ms cs) (env.statement site writes result) fun a log =>
      ∃ db, (a = result db ∧ ∀ m ∈ ms.getLast?, db.statusOf s = some m.2) ∧
        At s (fun log => K log ∧ .exec site db (writes db) ∈ log) (ws ++ writes db)
          (ms ++ moveOf s db (writes db)) cs log := by
  refine (eventAt site sound).after ?_
  rintro a log ⟨before, db, sees, at_, rfl⟩
  obtain ⟨known, staged, moves, commits⟩ := atExec stable at_ site db (writes db)
  exact ⟨db, sees, ⟨known, by simp⟩, staged, moves, commits⟩

theorem learnAt (site : Site) (result : Db → α) (stable : Stable K) :
    Owes env s (At s K ws ms cs) (env.read site result) fun a log =>
      ∃ db, a = result db ∧ At s (fun log => K log ∧ .exec site db [] ∈ log) ws ms cs log := by
  refine (statementAt site stable fun _ _ => .inr (by simp)).after ?_
  rintro a log ⟨db, ⟨same, -⟩, at_⟩
  refine ⟨db, same, ?_⟩
  simpa [moveOf] using at_

theorem readAt (site : Site) (result : Db → α) (stable : Stable K) :
    Owes env s (At s K ws ms cs) (env.read site result) fun _ => At s K ws ms cs := by
  refine (learnAt site result stable).after ?_
  rintro a log ⟨db, -, at_⟩
  exact at_.weaken And.left

theorem quietMoves {writes : List Write} (quiet : ∀ w ∈ writes, w.keepsScans = true) (db : Db) :
    moveOf s db writes = [] := by
  simp [moveOf, targetsNone fun w member => keepsNoTransition (quiet w member)]

theorem recordAt (site : Site) (writes : List Write) (stable : Stable K)
    (quiet : ∀ w ∈ writes, w.keepsScans = true) :
    Owes env s (At s K ws ms cs) (env.write site writes) fun _ log =>
      ∃ db, At s (fun log => K log ∧ .exec site db writes ∈ log) (ws ++ writes) ms cs log := by
  refine (statementAt site stable fun _ _ => .inr quiet).after ?_
  rintro a log ⟨db, -, at_⟩
  refine ⟨db, ?_⟩
  simpa [quietMoves quiet] using at_

theorem writeAt (site : Site) (writes : List Write) (stable : Stable K)
    (quiet : ∀ w ∈ writes, w.keepsScans = true) :
    Owes env s (At s K ws ms cs) (env.write site writes) fun _ => At s K (ws ++ writes) ms cs := by
  refine (recordAt site writes stable quiet).after ?_
  rintro a log ⟨db, at_⟩
  exact at_.weaken And.left

theorem updateAt (site : Site) {source target : ScanStatus} (startedAt completedAt : Option Time)
    (may : source.mayMove target = true) (stamped : completedAt.isSome = target.isTerminal)
    (stable : Stable K) :
    Owes env s (At s K ws ms cs) (tryTransition env site s source target startedAt completedAt)
      fun found log => ∃ db, (∀ m ∈ ms.getLast?, db.statusOf s = some m.2) ∧
        (found = true ∧ db.statusOf s = some source ∧
          At s (fun log => K log ∧ .exec site db [.transition s target startedAt completedAt] ∈ log)
            (ws ++ [.transition s target startedAt completedAt]) (ms ++ [(source, target)]) cs log ∨
        found = false ∧ db.statusOf s ≠ some source ∧
          At s (fun log => K log ∧ Lost s site source ms cs log) ws ms cs log) := by
  refine (eventAt site fun db _ => ?_).after ?_
  · by_cases here : db.statusOf s = some source
    · rw [if_pos here]
      exact .inl ⟨source, target, startedAt, completedAt, rfl, here, may, stamped⟩
    · rw [if_neg here]
      exact .inr (by simp)
  · rintro found log ⟨before, db, ⟨rfl, sees⟩, at_, rfl⟩
    refine ⟨db, sees, ?_⟩
    by_cases here : db.statusOf s = some source
    · obtain ⟨known, staged, moves, commits⟩ := atExec stable at_ site db
        [.transition s target startedAt completedAt]
      have moved : moveOf s db [.transition s target startedAt completedAt] = [(source, target)] := by
        simp [moveOf, Write.targetOf, here]
      rw [moved] at moves
      rw [if_pos here]
      exact .inl ⟨decide_eq_true here, here, ⟨known, by simp⟩, staged, moves, commits⟩
    · obtain ⟨known, staged, moves, commits⟩ := atExec stable at_ site db []
      simp only [moveOf, List.filterMap_nil, List.append_nil] at staged moves
      rw [if_neg here]
      exact .inr ⟨decide_eq_false here, here, ⟨known, .missed rfl here at_.moves at_.commits⟩,
        staged, moves, commits⟩

theorem attemptAt (site : Site) {source target : ScanStatus} (startedAt completedAt : Option Time)
    (may : source.mayMove target = true) (stamped : completedAt.isSome = target.isTerminal)
    (stable : Stable K) :
    Owes env s (At s K ws ms cs) (tryTransition env site s source target startedAt completedAt)
      fun _ log => ∃ ws' ms', (ms.getLast?.map Prod.snd = some source → ms' ≠ []) ∧
        At s (fun log => K log ∧ Attempt s log site source target ms cs ws' ms') (ws ++ ws')
          (ms ++ ms') cs log := by
  refine (updateAt site startedAt completedAt may stamped stable).after ?_
  rintro found log ⟨db, sees, ⟨-, -, at_⟩ | ⟨-, other, at_⟩⟩
  · exact ⟨_, _, fun _ => List.cons_ne_nil _ _, at_.weaken fun known => ⟨known.1, .found⟩⟩
  · refine ⟨[], [], fun last => ?_, ?_⟩
    · obtain ⟨m, final, rfl⟩ := Option.map_eq_some_iff.mp last
      exact absurd (sees m final) other
    · rw [List.append_nil, List.append_nil]
      exact at_.weaken fun known => ⟨known.1, .missed known.2⟩

theorem commitAt (site : Site) (stable : Stable K)
    (form : ∀ log, At s K ws ms cs log → Committed env s log site ws ms cs) :
    Owes env s (At s K ws ms cs) (env.commit site) fun _ log =>
      ∃ before, (log = before ++ [.commit site] ∧ At s K ws ms cs before) ∧
        At s K [] [] (cs ++ [site]) log := by
  unfold Env.commit
  split
  · exact owesRaise
  · intro log at_ _
    have owed := form log at_
    refine ⟨?_, log, ⟨rfl, at_⟩, stable _ _ at_.known, by simp [stage], by simp [movesStep], ?_⟩
    · rw [← at_.staged, ← at_.moves, ← at_.commits] at owed
      exact owed
    · rw [commitsCommit, at_.commits]

theorem attemptPointAt (site : Site) :
    Owes env s (At s K ws ms cs) (env.attempt site) fun _ => At s K ws ms cs := by
  unfold Env.attempt
  split
  · exact owesRaise
  · exact .pure fun _ at_ => at_

theorem exceptAt {P : Log → Prop} (r : Except PyError α) :
    Owes env s P (ofExcept r) fun _ => P := by
  cases r with
  | ok a => exact .pure fun _ holds => holds
  | error e => exact owesRaise

theorem atCall (stable : Stable K) {log : Log} (at_ : At s K ws ms cs log) (site : Site) :
    At s K ws ms cs (log ++ [.call site]) := by
  obtain ⟨known, rfl, rfl, rfl⟩ := at_
  exact ⟨stable _ _ known, by simp [stage], by simp [movesStep], by simp⟩

theorem callAt (site : Site) (stable : Stable K)
    (other : site ≠ .pipelineRun) :
    Owes env s (At s K ws ms cs) (.call site (.pure ()) : Prog Unit) fun _ => At s K ws ms cs :=
  fun _ at_ _ => ⟨fun same => absurd same other, atCall stable at_ site⟩

end Rules

section Job
variable {env : Env} {s : Nat} {K : Log → Prop} {ws : List Write}
  {ms : List (ScanStatus × ScanStatus)} {cs : List Site}

theorem auditAt (site : Site) (scan : Scan) (metadata : List (PyStr × PyStr)) (stable : Stable K) :
    Owes env s (At s K ws ms cs) (recordAudit env site scan metadata) fun _ =>
      At s K (ws ++ [.insertAudit (auditRow env site scan metadata)]) ms cs :=
  writeAt site _ stable (by simp [Write.keepsScans])

theorem engineAt (site : Site) (code : PyStr) (stable : Stable K) :
    Owes env s (At s K ws ms cs) (engineId env site code) fun _ => At s K ws ms cs := by
  refine .bind (readAt site _ stable) fun found => ?_
  cases found with
  | none => exact owesRaise
  | some id => exact .pure fun _ at_ => at_

theorem createAt (site : Site) (engine : Nat) (version : PyStr) (status : ExecutionStatus)
    (startedAt : Option Time) (stable : Stable K) :
    Owes env s (At s K ws ms cs) (createExecution env site s engine version status startedAt)
      fun x log => x = executionRow env site s engine version status startedAt ∧
        At s K (ws ++ [.insertExecution x]) ms cs log := by
  refine .bind (writeAt site _ stable (by simp [Write.keepsScans])) fun _ => ?_
  exact .pure fun _ at_ => ⟨rfl, at_⟩

theorem markAt (site : Site) (executionId : Nat) (status : ExecutionStatus) (reason : Option PyStr)
    (stable : Stable K) :
    Owes env s (At s K ws ms cs) (markExecution env site executionId status reason) fun _ =>
      At s K (ws ++ [.markExecution executionId status (env.now site) reason]) ms cs :=
  writeAt site _ stable (by simp [Write.keepsScans])

theorem rejectionRow (site : Site) (scan : Scan) (source : ScanStatus) (rest : List (PyStr × PyStr)) :
    TransitionRow scan.id ScanStatus.rejected.code (auditRow env site scan
      ((py "from", source.code) :: (py "to", ScanStatus.rejected.code) :: rest)) := by
  refine ⟨rfl, rfl, ?_⟩
  have first : (py "from" == py "to") = false := by decide
  simp [auditRow, lookup, first]

theorem rejectOwes (scan : Scan) {claimedAt : Option Time} :
    Owes env scan.id (At scan.id (fun _ => True) [.transition scan.id .running claimedAt none]
      [(.queued, .running)] []) (rejectUnauthorized env scan) fun _ => Claims scan.id := by
  refine .bind (auditAt _ _ _ stableTrue) fun _ => .bind (engineAt _ _ stableTrue) fun engine =>
    .bind (createAt _ _ _ _ _ stableTrue) fun x => owesGiven ?_
  rintro rfl
  refine .bind (markAt _ _ _ _ stableTrue) fun _ => .bind (attemptAt _ _ _ rfl rfl stableTrue) fun _ =>
    owesExists fun ws' => owesExists fun ms' => owesGiven fun finds => ?_
  refine .after (commitAt _ (stableAnd stableTrue (stableAttempt _ _ _ _ _ _ _ _)) ?_) ?_
  · rintro log ⟨⟨-, attempt⟩, -⟩
    cases attempt with
    | missed event => exact absurd rfl (finds rfl)
    | found => exact .refused (rejectionRow _ _ _ _)
  · rintro _ log ⟨before, ⟨rfl, at_⟩, -⟩
    exact ⟨before, _, [], rfl, by simp [at_.moves]⟩

theorem failOwes (scan : Scan) (execution : ScanEngineExecution)
    (mine : execution.id = env.newId .createExecution 0) (exc : PyError) (flushFailed : Bool) :
    Owes env scan.id (At scan.id (Started env scan.id) [] [] [.startCommit])
      (rejectFailed env scan execution exc flushFailed) fun _ _ => True := by
  have stable := stableStarted env scan.id
  unfold rejectFailed
  cases flushFailed with
  | true => exact owesRaise
  | false =>
    refine .bind (markAt _ _ _ _ stable) fun _ => .bind (auditAt _ _ _ stable) fun _ =>
      .bind (attemptAt _ _ _ rfl rfl stable) fun _ => owesExists fun ws' => owesExists fun ms' =>
        owesGiven fun _ => ?_
    refine .after (commitAt _ (stableAnd stable (stableAttempt _ _ _ _ _ _ _ _)) ?_) fun _ _ _ => trivial
    rintro log ⟨⟨started, attempt⟩, -⟩
    rw [mine]
    exact .failed started (rejectionRow _ _ _ _) attempt

def Chain (env : Env) (scan : Scan) (log : Log) : Prop :=
  Authorized env scan.id scan log ∧ Started env scan.id log

theorem stableChain (env : Env) (scan : Scan) : Stable (Chain env scan) :=
  stableAnd (stableAuthorized env scan.id scan) (stableStarted env scan.id)

def Succeeded (env : Env) (scan : Scan) (db : Db) (entry : AuditLogEntry) (log : Log) : Prop :=
  (Chain env scan log ∧ TransitionRow scan.id (py "EXECUTION_SUCCEEDED") entry) ∧ .exec .auditSucceeded db [.insertAudit entry] ∈ log

theorem stableSucceeded (env : Env) (scan : Scan) (db : Db) (entry : AuditLogEntry) :
    Stable (Succeeded env scan db entry) :=
  stableAnd (stableAnd (stableChain env scan) fun _ _ row => row) (stableMem _)

theorem successRow (site : Site) (scan : Scan) : TransitionRow scan.id (py "EXECUTION_SUCCEEDED")
    (auditRow env site scan (successEntries scan)) := by
  refine ⟨rfl, rfl, ?_⟩
  have first : (py "from" == py "to") = false := by decide
  simp [auditRow, successEntries, lookup, first]

structure Fresh (env : Env) (scan : Scan) (log : Log) : Prop where
  at_ : At scan.id (Chain env scan) [] [] [.startCommit] log
  next : ∃ before, log = before ++ [.commit .startCommit]

theorem pipelineOwes (scan : Scan) (execution : ScanEngineExecution)
    (mine : execution.id = env.newId .createExecution 0) (origin : Origin) :
    Owes env scan.id (Fresh env scan)
      (runPipeline env scan execution origin) fun r log => r = none ∨
        ∃ entry db, At scan.id (Succeeded env scan db entry) [.insertAudit entry] [] [.startCommit] log := by
  have stable := stableChain env scan
  have runs : Spec (scanRules env scan.id) (Fresh env scan)
      (.call .pipelineRun (.pure ()) : Prog Unit)
      (fun _ => At scan.id (Chain env scan) [] [] [.startCommit]) fun _ => False :=
    fun log ⟨at_, next⟩ _ =>
      ⟨fun _ => ⟨⟨scan, at_.known.1⟩, at_.known.2, next, at_.commits⟩, atCall stable at_ _⟩
  unfold runPipeline
  cases env.pipeline.run origin with
  | error exc =>
    -- The chain raises before anything has been staged.
    refine .tryCatch (F := At scan.id (Chain env scan) [] [] [.startCommit]) ?_ fun exc => ?_
    · refine .bind (runs.weaken (fun _ at_ => at_) (fun _ _ at_ => at_) fun _ none => none.elim) fun _ => ?_
      exact .raise fun _ at_ => at_
    · refine .bind ((failOwes scan execution mine exc false).before fun _ at_ => at_.weaken And.right)
        fun _ => .pure fun _ _ => .inl rfl
  | ok result =>
    refine .tryCatch (F := fun _ => True) ?_ fun exc => ?_
    · refine .bind (runs.weaken (fun _ at_ => at_) (fun _ _ at_ => at_) fun _ _ => trivial) fun _ =>
        .bind (exceptAt _) fun _ => .bind (recordAt .auditSucceeded
          [.insertAudit (auditRow env .auditSucceeded scan (successEntries scan))] stable
          (by simp [Write.keepsScans])) fun _ => owesExists fun db => ?_
      exact .pure fun _ at_ => .inr ⟨_, db, at_.weaken fun known => ⟨⟨known.1, successRow _ _⟩, known.2⟩⟩
    · refine .bind (Q := fun _ _ => False) ?_ fun _ _ none => none.elim
      exact fun _ _ => trivial

theorem stableSelects (scan : Scan) (compared : Option Nat) : Stable fun log => Selects scan log compared := by
  intro log e selects
  cases selects with
  | parent given => exact .parent given
  | recent orphan read => exact .recent orphan (List.mem_append_left _ read)

theorem stableCompares (scan : Scan) (compared : Option Nat) (previous : List PyStr) :
    Stable fun log => Compares scan log compared previous := by
  intro log e compares
  cases compares with
  | none selected => exact .none (stableSelects _ _ _ e selected)
  | some selected read => exact .some (stableSelects _ _ _ e selected) (List.mem_append_left _ read)

theorem stableKnows (scan : Scan) (fingerprints : List PyStr) (latest : PyStr → Option LifecycleStatus) :
    Stable fun log => Knows scan log fingerprints latest := by
  intro log e knows
  cases knows with
  | nothing empty => exact .nothing empty
  | read split none => exact .read (by rw [split, List.append_assoc, List.cons_append]) none

theorem previousAt (scan : Scan) (stable : Stable K) :
    Owes env s (At s K ws ms cs) (previousFingerprints env scan) fun previous log =>
      ∃ compared, At s (fun log => K log ∧ Compares scan log compared previous) ws ms cs log := by
  have selects : Owes env s (At s K ws ms cs) (previousScanId env scan) fun compared log =>
      At s (fun log => K log ∧ Selects scan log compared) ws ms cs log := by
    unfold previousScanId
    split
    · rename_i parent given
      exact .pure fun _ at_ => at_.weaken fun known => ⟨known, .parent given⟩
    · rename_i orphan
      refine (learnAt _ _ stable).after ?_
      rintro compared log ⟨db, rfl, at_⟩
      exact at_.weaken fun known => ⟨known.1, .recent orphan known.2⟩
  refine .bind selects fun compared => ?_
  cases compared with
  | none =>
    exact .pure fun _ at_ => ⟨none, at_.weaken fun known => ⟨known.1, .none known.2⟩⟩
  | some id =>
    refine (learnAt _ _ (stableAnd stable (stableSelects _ _))).after ?_
    rintro previous log ⟨db, rfl, at_⟩
    exact ⟨some id, at_.weaken fun known => ⟨known.1.1, .some known.1.2 known.2⟩⟩

theorem latestAt (scan : Scan) (fingerprints : List PyStr) (stable : Stable K)
    (unrecorded : ∀ rows, .insertHistory rows ∉ ws) :
    Owes env s (At s K ws ms cs) (latestStatusMap env scan.targetId fingerprints) fun latest log =>
      At s (fun log => K log ∧ Knows scan log fingerprints latest) ws ms cs log := by
  unfold latestStatusMap
  split
  · rename_i empty
    exact .pure fun _ at_ => at_.weaken fun known => ⟨known, .nothing (List.isEmpty_iff.mp empty)⟩
  · refine .bind (readAt _ _ stable) fun _ => ?_
    unfold Env.read Env.statement
    split
    · exact owesRaise
    · intro log at_ db _
      refine ⟨.inr (by simp), ?_⟩
      have after := atExec stable at_ .latestStatus db []
      simp only [moveOf, List.filterMap_nil, List.append_nil] at after
      exact after.weaken fun known => ⟨known, .read rfl (at_.staged ▸ unrecorded)⟩

theorem stableRecords (env : Env) (s : Nat) (rows : List ScanFinding)
    (history : List FindingStatusHistory) : Stable fun log => Records env s log rows history := by
  rintro log e ⟨⟨member, loaded⟩, owned, compares, knows⟩
  exact .recorded ⟨List.mem_append_left _ member, loaded⟩ owned (stableCompares _ _ _ _ e compares)
    (stableKnows _ _ _ _ e knows)

theorem fingerprintsOfRows (identity : FindingIdentity) (execution : ScanEngineExecution)
    (engineCode : PyStr) (findings : List Finding) :
    fingerprintsOf (findingRows env identity execution engineCode findings) =
      currentFingerprints env.python identity findings := by
  rw [fingerprintsOf, findingRows, currentFingerprints]
  rw [filterMapIdx (findingRow env identity execution engineCode) ScanFinding.fingerprint
    (findingFingerprint env.python identity) (fun _ _ => rfl)]

theorem persistAt (scan : Scan) (execution : ScanEngineExecution) (result : HttpAnalysisResult)
    (stable : Stable K) (loaded : ∀ log, K log → ∃ db, .exec .getScan db [] ∈ log ∧ db.scan? s = some scan)
    (same : scan.id = s) (mine : execution.id = env.newId .createExecution 0)
    (unrecorded : ∀ rows, .insertHistory rows ∉ ws) :
    Owes env s (At s K ws ms cs) (persistFindings env scan execution result) fun _ log =>
      ∃ rows evidence history, At s (fun log => K log ∧ Records env s log rows history)
        (ws ++ [.insertFindings rows] ++ [.insertEvidence evidence, .insertHistory history]) ms cs
        log := by
  subst same
  refine .bind (learnAt _ _ stable) fun identity => owesExists fun db => owesGiven ?_
  rintro rfl
  have stable' := stableAnd stable (stableMem (.exec .persistTarget db []))
  refine .bind (readAt _ _ stable') fun _ => .bind (readAt _ _ stable') fun _ =>
    .bind (readAt _ _ stable') fun engineCode => .bind (writeAt _ _ stable' (by simp [Write.keepsScans]))
      fun _ => .bind (previousAt scan stable') fun previous => owesExists fun compared => ?_
  have compares := stableAnd stable' (stableCompares scan compared previous)
  refine .bind (latestAt scan _ compares (by simpa using unrecorded)) fun latest => ?_
  have knows := stableAnd compares (stableKnows scan (currentFingerprints env.python
    (identityOf scan (db.target? scan.targetId)) result.findings ++ previous) latest)
  refine .bind (readAt _ _ knows) fun _ => (writeAt _ _ knows (by simp [Write.keepsScans])).after ?_
  intro _ log at_
  refine ⟨_, _, _, at_.weaken ?_⟩
  rintro ⟨⟨⟨known, -⟩, compares⟩, knows⟩
  obtain ⟨db', loaded⟩ := loaded log known
  refine ⟨known, ?_⟩
  rw [← fingerprintsOfRows _ execution engineCode] at knows ⊢
  refine .recorded loaded (fun f member => ?_) compares knows
  obtain ⟨i, bound, rfl⟩ := List.mem_mapIdx.mp member
  refine ⟨?_, mine⟩
  simp only [findingRow, identityOf]
  split <;> rfl

theorem completeOwes (scan : Scan) (execution : ScanEngineExecution)
    (mine : execution.id = env.newId .createExecution 0) (result : HttpAnalysisResult)
    (entry : AuditLogEntry) (db : Db) :
    Owes env scan.id (At scan.id (Succeeded env scan db entry) [.insertAudit entry] [] [.startCommit])
      (completeScan env scan execution result) fun _ =>
        At scan.id (Succeeded env scan db entry) [] [] [.startCommit, .aiCommit] := by
  have stable := stableSucceeded env scan db entry
  refine .bind (markAt _ _ _ _ stable) fun _ => .bind (persistAt scan execution result stable ?_ rfl mine ?_) fun _ =>
    owesExists fun rows => owesExists fun evidence => owesExists fun history => ?_
  · rintro log ⟨⟨⟨⟨loaded, found, active, claimed, rest⟩, -⟩, -⟩, -⟩
    exact ⟨_, by simp, loaded⟩
  · simp
  have stable' := stableAnd stable (stableRecords env scan.id rows history)
  refine .bind (attemptAt _ _ _ rfl rfl stable') fun _ => owesExists fun ws => owesExists fun ms =>
    owesGiven fun _ => ?_
  have completes := stableAnd stable' (stableAttempt scan.id .scanComplete .running .scanComplete [] [.startCommit] ws ms)
  refine .bind (attemptAt _ _ _ rfl rfl completes) fun _ => owesExists fun ws' => owesExists fun ms' =>
    owesGiven fun both => ?_
  have analyses := stableAnd completes
    (stableAttempt scan.id .aiAnalysis .scanComplete .aiAnalysis ms [.startCommit] ws' ms')
  refine .after (commitAt _ analyses ?_) ?_
  · rintro log ⟨⟨⟨⟨⟨⟨⟨-, started⟩, row⟩, audited⟩, records⟩, completes⟩, analyses⟩, -⟩
    rw [mine]
    refine .completed started audited row records completes analyses fun found => ?_
    cases completes with
    | found => exact both rfl
    | missed event => contradiction
  · rintro _ log ⟨before, -, at_⟩
    exact at_.weaken fun known => known.1.1.1

theorem analyzeAt (evidence : EvidenceSet) (stable : Stable K) :
    Owes env s (At s K ws ms cs) (analyzeEvidence env evidence) fun _ => At s K ws ms cs := by
  refine .bind (attemptPointAt _) fun _ => ?_
  split
  · exact .pure fun _ at_ => at_
  · exact .bind (callAt _ stable (by decide)) fun _ =>
      .bind (attemptPointAt _) fun _ => .bind (exceptAt _) fun _ => .pure fun _ at_ => at_

theorem upsertAt (execution : ScanEngineExecution) (document : AssessmentDocument)
    (payload : List (PyStr × Json)) (count : Int) (stable : Stable K) :
    Owes env s (At s K ws ms cs) (upsertAiAssessment env execution document payload count) fun _ log =>
      ∃ w, AssessmentWrite execution.id w ∧ At s K (ws ++ [w]) ms cs log := by
  refine .bind (readAt _ _ stable) fun existing => ?_
  have written : AssessmentWrite execution.id (assessmentWrite env execution document payload count existing) := by
    cases existing with
    | none => exact .inserted rfl
    | some id => exact .updated rfl
  refine (writeAt _ _ stable ?_).after fun _ log at_ => ⟨_, written, at_⟩
  generalize assessmentWrite env execution document payload count existing = w at written
  intro w' member
  rw [List.mem_singleton.mp member]
  cases written <;> rfl

theorem assessOwes (scan : Scan) (execution : ScanEngineExecution)
    (mine : execution.id = env.newId .createExecution 0) (result : HttpAnalysisResult)
    (entry : AuditLogEntry) (db : Db) :
    Owes env scan.id (At scan.id (Succeeded env scan db entry) [] [] [.startCommit, .aiCommit])
      (assessScan env scan execution result) fun _ _ => True := by
  have stable := stableSucceeded env scan db entry
  refine .bind (attemptPointAt _) fun _ => .bind (analyzeAt _ stable) fun document =>
    .bind (attemptPointAt _) fun _ => .bind (exceptAt _) fun count => .bind (upsertAt _ _ _ count stable) fun _ => owesExists fun w =>
      owesGiven fun written => ?_
  have ends : (if document.isAvailable = true then ScanStatus.reportReady else .reportReadyDegraded) =
      .reportReady ∨ (if document.isAvailable = true then ScanStatus.reportReady
        else .reportReadyDegraded) = .reportReadyDegraded := by
    split
    · exact .inl rfl
    · exact .inr rfl
  generalize (if document.isAvailable = true then ScanStatus.reportReady else .reportReadyDegraded) =
    final at ends
  have may : ScanStatus.aiAnalysis.mayMove final = true := by
    rcases ends with rfl | rfl <;> rfl
  have stamped : (some (env.now .finalTransition)).isSome = final.isTerminal := by
    rcases ends with rfl | rfl <;> rfl
  refine .bind (attemptAt _ _ _ may stamped stable) fun _ => owesExists fun ws => owesExists fun ms =>
    owesGiven fun _ => ?_
  refine .after (commitAt _ (stableAnd stable (stableAttempt _ _ _ _ _ _ _ _)) ?_) fun _ _ _ => trivial
  rintro log ⟨⟨⟨⟨⟨-, started⟩, -⟩, audited⟩, attempt⟩, -⟩
  rw [mine] at written
  exact .assessed started audited written ends attempt

theorem startOwes (scan : Scan) {claimedAt : Option Time} :
    Owes env scan.id (At scan.id (Authorized env scan.id scan)
        [.transition scan.id .running claimedAt none] [(.queued, .running)] [])
      (startChain env scan) fun started log => started.1.id = env.newId .createExecution 0 ∧
        Fresh env scan log := by
  have stable := stableAuthorized env scan.id scan
  have origin : Owes env scan.id (At scan.id (Authorized env scan.id scan)
        [.transition scan.id .running claimedAt none] [(.queued, .running)] [])
      (originForTarget env scan.targetId) fun _ => At scan.id (Authorized env scan.id scan)
        [.transition scan.id .running claimedAt none] [(.queued, .running)] [] := by
    refine .bind (readAt _ _ stable) fun found => ?_
    cases found with
    | none => exact owesRaise
    | some target => exact exceptAt _
  refine .bind (attemptPointAt _) fun _ => .bind origin fun origin => .bind (engineAt _ _ stable)
    fun engine => .bind (createAt _ _ _ _ _ stable) fun x => owesGiven ?_
  rintro rfl
  refine .bind (commitAt _ stable fun log at_ => .start at_.known) fun _ => .pure ?_
  rintro log ⟨before, ⟨rfl, at_⟩, after⟩
  refine ⟨rfl, after.weaken fun known => ⟨known, ?_⟩, before, rfl⟩
  have last : ∀ {w w' : Write}, w' ∈ [w] ++ [w'] := by simp
  exact ⟨before, [], _, _, _, rfl, by simp [at_.moves], at_.staged ▸ last⟩

theorem chainOwes (scan : Scan) {claimedAt : Option Time} :
    Owes env scan.id (At scan.id (Authorized env scan.id scan)
        [.transition scan.id .running claimedAt none] [(.queued, .running)] [])
      (secureChain env scan) fun _ => Claims scan.id := by
  refine .bind (startOwes scan) fun started => owesGiven fun mine => ?_
  have rest : Owes env scan.id (Fresh env scan)
      (do finishChain env scan started.1 (← runPipeline env scan started.1 started.2)) fun _ _ => True := by
    refine .bind (pipelineOwes scan started.1 mine started.2) fun outcome => ?_
    cases outcome with
    | none => exact .pure fun _ _ => trivial
    | some result =>
      rintro log (none | ⟨entry, db, at_⟩)
      · contradiction
      · have finishes : Owes env scan.id (At scan.id (Succeeded env scan db entry) [.insertAudit entry]
            [] [.startCommit]) (finishChain env scan started.1 (some result)) fun _ _ => True :=
          .bind (completeOwes scan started.1 mine result entry db) fun _ =>
            assessOwes scan started.1 mine result entry db
        exact finishes log at_
  exact (rest.frame (stableClaims scan.id)).weaken
    (fun _ fresh => ⟨startedClaims fresh.at_.known.2, fresh⟩) (fun _ _ ended => ended.1) fun _ _ => trivial

theorem nextAt (site : Site) (before : Log) {α : Type} {writes : Db → List Write} {result : Db → α}
    (sound : ∀ db, Sound (some s) db (writes db)) :
    Owes env s (fun log => log = before) (env.statement site writes result) fun a log =>
      ∃ db, a = result db ∧ log = before ++ [.exec site db (writes db)] := by
  unfold Env.statement
  split
  · exact owesRaise
  · rintro log rfl db -
    exact ⟨sound db, db, rfl, rfl⟩

inductive Finished (s : Nat) : Log → Prop where
  | absent {db : Db} (none : db.scan? s = none) : Finished s [.exec .getScan db []]
  | taken {db₀ db₁ db₂ : Db} (other : db₂.statusOf s ≠ some .queued) :
      Finished s [.exec .getScan db₀ [], .exec .statusIds db₁ [], .exec .claim db₂ []]
  | claimed {db : Db} {rest : Log} (found : (db.scan? s).isSome = true)
      (claims : Claims s (.exec .getScan db [] :: rest)) : Finished s (.exec .getScan db [] :: rest)

theorem stableFirst (e : Event Db Write Site) : Stable fun log => ∃ rest, log = e :: rest := by
  rintro log e' ⟨rest, rfl⟩
  exact ⟨rest ++ [e'], rfl⟩

theorem claimAt (scan : Scan) (loaded : Event Db Write Site) :
    Owes env scan.id (fun log => log = [loaded]) (claimScan env scan) fun claimed log =>
      ∃ db₁ db₂, (claimed = true ∧ db₂.statusOf scan.id = some .queued ∧
          log = [loaded, .exec .statusIds db₁ [],
            .exec .claim db₂ [.transition scan.id .running (some (env.now .claim)) none]] ∨
        claimed = false ∧ db₂.statusOf scan.id ≠ some .queued ∧
          log = [loaded, .exec .statusIds db₁ [], .exec .claim db₂ []]) := by
  refine .bind (nextAt _ _ fun _ => .inr (by simp)) fun _ => owesExists fun db₁ => owesGiven fun _ => ?_
  refine (nextAt _ _ fun db => ?_).after ?_
  · by_cases here : db.statusOf scan.id = some .queued
    · rw [if_pos here]
      exact .inl ⟨.queued, .running, _, _, rfl, here, rfl, rfl⟩
    · rw [if_neg here]
      exact .inr (by simp)
  · rintro claimed log ⟨db₂, rfl, rfl⟩
    refine ⟨db₁, db₂, ?_⟩
    by_cases here : db₂.statusOf scan.id = some .queued
    · rw [if_pos here]
      exact .inl ⟨decide_eq_true here, here, rfl⟩
    · rw [if_neg here]
      exact .inr ⟨decide_eq_false here, here, rfl⟩

theorem claimedOwes (scan : Scan) {db₀ db₁ db₂ : Db} {claimedAt : Option Time}
    (loaded : db₀.scan? scan.id = some scan) (here : db₂.statusOf scan.id = some .queued) :
    Owes env scan.id (fun log => log = [.exec .getScan db₀ [], .exec .statusIds db₁ [],
        .exec .claim db₂ [.transition scan.id .running claimedAt none]])
      (runClaimed env scan) fun _ => Claims scan.id := by
  refine .bind (nextAt _ _ fun _ => .inr (by simp)) fun attestation => owesExists fun db₃ =>
    owesGiven fun found => ?_
  have atClaim : ∀ {K : Log → Prop} {log : Log}, K log →
      log = [.exec .getScan db₀ [], .exec .statusIds db₁ [],
        .exec .claim db₂ [.transition scan.id .running claimedAt none]] ++
          [.exec .getAttestation db₃ []] →
      At scan.id K [.transition scan.id .running claimedAt none] [(.queued, .running)] [] log := by
    rintro K log known rfl
    refine ⟨known, rfl, ?_, rfl⟩
    simp [moves, movesStep, moveOf, Write.targetOf, here]
  split
  · rename_i holds
    refine (chainOwes scan).before fun log same => atClaim ?_ same
    subst found same
    cases read : db₃.attestation? scan.authorizationAttestationId with
    | none => rw [read] at holds; contradiction
    | some attestation =>
      rw [read] at holds
      exact .checked loaded read holds (by simp) []
  · exact (rejectOwes scan).before fun log same => atClaim trivial same

theorem jobOwes (env : Env) (s : Nat) :
    Owes env s (fun log => log = []) (executeScanJob env s) fun _ => Finished s := by
  refine .bind (nextAt _ _ fun _ => .inr (by simp)) fun found => owesExists fun db₀ =>
    owesGiven fun read => ?_
  cases found with
  | none =>
    refine .pure ?_
    rintro log rfl
    exact .absent read.symm
  | some scan =>
    obtain rfl := scanIdOf read.symm
    refine .bind (claimAt scan _) fun claimed =>
      owesExists fun db₁ => owesExists fun db₂ => ?_
    rintro log (⟨rfl, here, same⟩ | ⟨rfl, other, rfl⟩)
    · have owed : Owes env scan.id (fun log => log = [.exec .getScan db₀ [], .exec .statusIds db₁ [],
          .exec .claim db₂ [.transition scan.id .running (some (env.now .claim)) none]])
        (runClaimed env scan) fun _ => Claims scan.id := claimedOwes scan read.symm here
      refine (owed.frame (stableFirst (.exec .getScan db₀ []))).weaken (fun _ same => ⟨?_, same⟩) (fun _ _ ended => ?_) (fun _ _ => trivial) log same
      · rw [same]
        exact ⟨_, rfl⟩
      · obtain ⟨⟨rest, rfl⟩, claims⟩ := ended
        exact .claimed (by rw [← read]; rfl) claims
    · exact .taken other

/-! The programs around a job: after an exception a session has rolled back. -/

def Rested (s : Nat) (log : Log) : Prop := ∃ cs, At s (fun _ => True) [] [] cs log

theorem restedRollback (s : Nat) (log : Log) : Rested s (log ++ [.rollback]) :=
  ⟨_, trivial, by simp [stage], by simp [movesStep], rfl⟩

theorem restedNil (s : Nat) : Rested s [] := ⟨[], trivial, rfl, rfl, rfl⟩

theorem sessionOwes {body : Prog Unit} {P Q : Log → Prop} (owes : Owes env s P body fun _ => Q) :
    Spec (scanRules env s) P body.session
      (fun _ log => ∃ before, Q before ∧ log = before ++ [.rollback]) (Rested s) :=
  .session (fun _ => trivial) owes (fun _ log ended => ⟨log, ended, rfl⟩) fun log _ => restedRollback s log

theorem runOwes (env : Env) (s : Nat) :
    Spec (scanRules env s) (fun log => log = []) (runScanJob env s)
      (fun _ log => ∃ before, Finished s before ∧ log = before ++ [.rollback]) (Rested s) := by
  refine sessionOwes (.bind (Q := fun _ log => log = []) ?_ fun _ => jobOwes env s)
  unfold Env.attempt
  split
  · exact owesRaise
  · exact .pure fun _ same => same

def Stuck (scan : Scan) (cs : List Site) : Option ScanStatus → Log → Prop
  | none => At scan.id (fun _ => True) [] [] cs
  | some source => fun log => (source = .queued ∨ source = .running) ∧ ∃ ended,
      At scan.id (fun _ => True) [.transition scan.id .rejected none ended] [(source, .rejected)] cs log

theorem stuckAt (scan : Scan) :
    Owes env scan.id (At scan.id (fun _ => True) [] [] cs) (tryStuckStates env scan)
      (Stuck scan cs) := by
  refine .bind (updateAt _ _ _ rfl rfl stableTrue) fun found => owesExists fun db => owesGiven fun _ => ?_
  rintro log (⟨rfl, -, at_⟩ | ⟨rfl, -, at_⟩)
  · exact ⟨.inr rfl, _, at_.weaken fun _ => trivial⟩
  · have rest : Owes env scan.id (At scan.id (fun _ => True) [] [] cs)
        (do if ← tryTransition env .markFromQueued scan.id .queued .rejected none
              (some (env.now .markFromQueued)) then return some ScanStatus.queued else return none)
        (Stuck scan cs) := by
      refine .bind (updateAt _ _ _ rfl rfl stableTrue) fun found => owesExists fun db => owesGiven fun _ => ?_
      rintro log (⟨rfl, -, at_⟩ | ⟨rfl, -, at_⟩)
      · exact ⟨.inl rfl, _, at_.weaken fun _ => trivial⟩
      · exact at_.weaken fun _ => trivial
    exact rest log (at_.weaken fun _ => trivial)

theorem crashAt (scan : Scan) (source : ScanStatus) (reason : PyStr) (stable : Stable K) :
    Owes env scan.id (At scan.id K ws ms cs) (recordWorkerCrash env scan source reason) fun _ log =>
      ∃ rows entry, (HandlerRows env scan.id rows ∧
        TransitionRow scan.id ScanStatus.rejected.code entry) ∧
        At scan.id K (ws ++ rows ++ [.insertAudit entry]) ms cs log := by
  have row : TransitionRow scan.id ScanStatus.rejected.code
      (auditRow env .markAudit scan (crashEntries scan source reason)) := rejectionRow _ _ _ _
  refine .bind (readAt _ _ stable) fun engine => ?_
  cases engine with
  | none =>
    refine (auditAt _ _ _ stable).after fun _ log at_ => ⟨[], _, ⟨.none, row⟩, ?_⟩
    rwa [List.append_nil]
  | some id =>
    refine .bind (createAt _ _ _ _ _ stable) fun x => owesGiven ?_
    rintro rfl
    refine .bind (markAt _ _ _ _ stable) fun _ => (auditAt _ _ _ stable).after fun _ log at_ => ?_
    have recorded : HandlerRows env scan.id
        [.insertExecution (executionRow env .markExecution scan.id id (py "worker-unknown") .failed none),
         .markExecution (env.newId .markExecution 0) .failed (env.now .markMark) (some (reason.take 500))] :=
      .recorded
    refine ⟨_, _, ⟨recorded, row⟩, ?_⟩
    rwa [List.append_assoc ws] at at_

theorem handlerOwes (env : Env) (s : Nat) (reason : PyStr) :
    Owes env s (Rested s) (markScanRejected env s reason) fun _ _ => True := by
  have body : Owes env s (Rested s) (do markFound env reason (← getById env .markGetScan s))
      fun _ _ => True := by
    refine owesExists fun cs => .bind (learnAt _ _ stableTrue) fun found => owesExists fun db =>
      owesGiven fun read => ?_
    cases found with
    | none => exact .pure fun _ _ => trivial
    | some scan =>
      obtain rfl := scanIdOf read.symm
      refine .before (P := At scan.id (fun _ => True) [] [] cs) ?_ fun _ at_ => at_.weaken fun _ => trivial
      refine .bind (readAt _ _ stableTrue) fun _ => .bind (stuckAt scan) fun moved => ?_
      cases moved with
      | none =>
        refine .bind (Q := fun _ => At scan.id (fun _ => True) [] [] cs) (.pure fun _ at_ => at_) fun _ => ?_
        exact (commitAt _ stableTrue fun _ _ => .idle).after fun _ _ _ => trivial
      | some source =>
        refine owesGiven fun stuck => owesExists fun ended =>
          .bind (crashAt scan source reason stableTrue) fun _ => owesExists fun rows =>
            owesExists fun entry => owesGiven fun recorded => ?_
        exact (commitAt _ stableTrue fun _ _ => .handled stuck recorded.1 recorded.2).after
          fun _ _ _ => trivial
  exact (sessionOwes body).weaken (fun _ rested => rested) (fun _ _ _ => trivial) fun _ _ => trivial

theorem detailsAt (statusSite profileSite : Site) (scan : Scan) (stable : Stable K) :
    Owes env s (At s K ws ms cs) (details env statusSite profileSite scan) fun _ => At s K ws ms cs := by
  refine .bind (readAt _ _ stable) fun _ => .bind (readAt _ _ stable) fun profile => ?_
  cases profile with
  | none => exact owesRaise
  | some entry => exact .pure fun _ at_ => at_

theorem cancelOwes (env : Env) (principal : Option Nat) (s : Nat) :
    Owes env s (At s (fun _ => True) [] [] []) (cancelRequest env principal s) fun _ _ => True := by
  have visible : Owes env s (At s (fun _ => True) [] [] [])
      (getVisibleScan env (.cancelGetScan s) principal s) fun scan log =>
        scan.id = s ∧ At s (fun _ => True) [] [] [] log := by
    refine .bind (learnAt _ _ stableTrue) fun found => owesExists fun db => owesGiven fun read => ?_
    cases found with
    | none => exact owesRaise
    | some scan =>
      simp only
      split
      · exact owesRaise
      · exact .pure fun _ at_ => ⟨scanIdOf read.symm, at_.weaken fun _ => trivial⟩
  have body : Owes env s (At s (fun _ => True) [] [] []) (do
      let _ ← cancelScan env principal s
      env.commit .cancelCommit) fun _ _ => True := by
    refine .bind (Q := fun _ log => ∃ source db ended,
      (db.statusOf s = some source ∧ source.mayMove .cancelled = true) ∧
      At s (fun log => .exec .cancelTransition db [.transition s .cancelled none ended] ∈ log)
        [.transition s .cancelled none ended] [(source, .cancelled)] [] log) ?_ fun _ => ?_
    · refine .bind visible fun scan => owesGiven ?_
      rintro rfl
      refine .bind (learnAt _ _ stableTrue) fun current => owesExists fun db => owesGiven ?_
      rintro rfl
      split
      · exact owesRaise
      rename_i open_
      have may : scan.status.mayMove .cancelled = true := by
        revert open_
        cases scan.status <;> decide
      refine .before (P := At scan.id (fun _ => True) [] [] []) ?_ fun _ at_ => at_.weaken fun _ => trivial
      refine .bind (readAt _ _ stableTrue) fun _ => .bind (updateAt _ _ _ may rfl stableTrue) fun moved =>
        owesExists fun db' => owesGiven fun _ => ?_
      rintro log (⟨rfl, here, at_⟩ | ⟨rfl, -, at_⟩)
      · have stable := stableMem (.exec .cancelTransition db'
          [.transition scan.id .cancelled none (some (env.now .cancelTransition))])
        exact ((detailsAt _ _ _ stable).after fun _ _ shown => ⟨_, db', _, ⟨here, may⟩, shown⟩) log
          (at_.weaken And.right)
      · trivial
    · refine owesExists fun source => owesExists fun db => owesExists fun ended => owesGiven fun here => ?_
      refine (commitAt _ (stableMem _) ?_).after fun _ _ _ => trivial
      rintro log ⟨found, -⟩
      exact .cancelled found here.1 here.2
  exact (sessionOwes body).weaken (fun _ at_ => at_) (fun _ _ _ => trivial) fun _ _ => trivial

end Job

end SentinelGpt
