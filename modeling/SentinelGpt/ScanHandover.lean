import SentinelGpt.ExecutionAuthorization

/-! The handover of an admitted scan to its worker: the task is sent before the scan is
committed, and the job of a scan it does not see returns. -/
namespace SentinelGpt
open ReadCommitted

/- The request `a` admits the scan `id` for execution, `j` is the job of the task it sends.
No other request is about this scan or draws its id. -/
structure Handover (requests : List Request) (store : Db) (a j id : Nat) : Prop where
  admits : ∃ env principal request,
    requests[a]? = some (.admission env principal true request) ∧ env.newId .insertScan 0 = id
  works : ∃ env, requests[j]? = some (.job env id)
  alone : ∀ k r, requests[k]? = some r → k ≠ j → r.scan? ≠ some id
  apart : ∀ k r, requests[k]? = some r → k ≠ a → r.scan? = none → r.env.newId .insertScan 0 ≠ id
  fresh : store.statusOf id = none

def CommittedFirst (a j : Nat) (trace : Trace) : Prop :=
  ∃ before e after, trace = before ++ (j, e) :: after ∧ own j before = [] ∧
    .admitCommit ∈ commits (own a before)

def Awaits (a j id : Nat) (trace : Trace) (db : Db) : Prop :=
  commits (own j trace) = [] →
    db.statusOf id = if .admitCommit ∈ commits (own a trace) then some .queued else none

section Runs
variable {requests : List Request} {store : Db} {trace : Trace} {t : System Db Write Site PyError}
  {a j id : Nat}

theorem commitsOwn (i k : Nat) (trace : Trace) (e : Event Db Write Site) :
    commits (own k (trace ++ [(i, e)])) =
      commits (own k trace) ++ if i = k then commits [e] else [] := by
  rw [ownSnoc]
  split
  · rw [commitsAppend]
  · rw [List.append_nil]

theorem statusInserted (db : Db) (row : Scan) (entry : AuditLogEntry) (id : Nat) :
    (seen db [.insertScan row, .insertAudit entry]).statusOf id =
      (db.statusOf id).or (if row.id = id then some row.status else none) := by
  have same : (seen db [.insertScan row, .insertAudit entry]).statusOf id =
      (Write.effect db (.insertScan row)).statusOf id := rfl
  rw [same, Db.statusOf, Db.statusOf, Db.scan?, Db.scan?, Write.effect, List.find?_append]
  cases db.scans.find? fun s => s.id == id with
  | some found => rfl
  | none => by_cases named : row.id = id <;> simp [named]

theorem otherLeaves {i s : Nat} {r : Request} {site : Site}
    (committed : Commits requests store trace t i r site) (on : r.scan? = some s) (other : s ≠ id) :
    (seen t.store (staged (own i trace))).statusOf id = t.store.statusOf id := by
  have unmoved : moves id (own i trace) = [] := committed.unmoved fun same => by
    rw [on] at same
    exact other (Option.some.inj same)
  cases there : t.store.statusOf id with
  | some status => rw [committed.status (by simp [there]), unmoved, lastStatusNil, there]
  | none => exact statusAbsent there (committed.inserts s on)

theorem admissionStores {env : Env} {log : Log} {site : Site} {ws : List Write} {cs : List Site}
    (form : OtherCommitted env log site ws cs) (db : Db) (id : Nat) :
    cs = [] ∧ (seen db ws).statusOf id = (db.statusOf id).or
      (if site = .admitCommit ∧ env.newId .insertScan 0 = id then some .queued else none) := by
  cases form with
  | @revoked other entry action =>
    have same : (seen db [.revokeAttestation other, .insertAudit entry]).statusOf id =
        db.statusOf id := rfl
    simp [same]
  | admitted named queued other covers => simp [statusInserted, named, queued]

theorem awaitsKept {i : Nat} {r : Request} {site : Site} (handover : Handover requests store a j id)
    (committed : Commits requests store trace t i r site) (awaits : Awaits a j id trace t.store) :
    Awaits a j id (trace ++ [(i, .commit site)]) (seen t.store (staged (own i trace))) := by
  intro idle
  obtain ⟨env, principal, request, admits, named⟩ := handover.admits
  rw [commitsOwn] at idle ⊢
  obtain ⟨before, now⟩ := List.append_eq_nil_iff.mp idle
  have other : i ≠ j := by
    rintro rfl
    simp [commits] at now
  have stands := awaits before
  have found := committed.found
  cases on : r.scan? with
  | some s =>
    have apart : i ≠ a := by
      rintro rfl
      rw [admits] at found
      cases found
      contradiction
    have elsewhere : s ≠ id := by
      rintro rfl
      exact handover.alone i r found other on
    rw [otherLeaves committed on elsewhere, stands, if_neg apart, List.append_nil]
  | none =>
    obtain ⟨first, stores⟩ := admissionStores (committed.other on) t.store id
    rw [stores, stands]
    by_cases same : i = a
    · subst same
      rw [admits] at found
      cases found
      rw [first]
      simp [Request.env, named, commits, eq_comm]
    · have elsewhere := handover.apart i r found same on
      simp [elsewhere, same]

theorem awaitsRun (handover : Handover requests store a j id)
    (run : Run scanRows (requested requests store) trace t) : Awaits a j id trace t.store := by
  refine commitRun (I := Awaits a j id) ?_ ?_ (fun _ _ _ _ _ => awaitsKept handover) run
  · intro idle
    rw [handover.fresh]
    rfl
  · intro trace i e db other awaits idle
    have quiet : commits [e] = [] := by cases e <;> first | rfl | contradiction
    rw [commitsOwn, quiet, ite_self, List.append_nil] at idle ⊢
    exact awaits idle

theorem awaitsView {before after : Trace} {site : Site} {db : Db} {writes : List Write}
    (handover : Handover requests store a j id)
    (run : Run scanRows (requested requests store) trace t)
    (split : trace = before ++ (j, .exec site db writes) :: after)
    (unmoved : moves id (own j before) = []) (idle : commits (own j before) = []) :
    db.statusOf id = if .admitCommit ∈ commits (own a before) then some .queued else none := by
  obtain ⟨env, works⟩ := handover.works
  have on : scanOf requests j = some id := by rw [scanOf, works]; rfl
  obtain ⟨u, earlier, same⟩ := viewStatus run split on
  rw [same, unmoved, lastStatusNil, awaitsRun handover earlier idle]

def HasReturned (i : Nat) (trace : Trace) (t : System Db Write Site PyError) : Prop :=
  (∃ c, t.clients[i]? = some c ∧ c.program = .pure ()) ∧ .crash ∉ own i trace

theorem returnedSo {i : Nat} {r : Request} (run : Run scanRows (requested requests store) trace t)
    (found : requests[i]? = some r) (returned : HasReturned i trace t) : r.returned (own i trace) := by
  obtain ⟨⟨c, there, done⟩, alive⟩ := returned
  obtain ⟨-, -, left⟩ := requestsKeep run
  have ended := left i c there
  rw [done] at ended
  rcases ended with ⟨crashed, -⟩ | ended
  · exact absurd crashed alive
  · exact ended r found

/- Once the admission and the job have returned, the scan has left QUEUED exactly when the
admission had been committed at the first statement of the job. -/
theorem takenIffCommittedFirst (handover : Handover requests store a j id)
    (run : Run scanRows (requested requests store) trace t) (admitted : HasReturned a trace t)
    (worked : HasReturned j trace t) :
    t.store.statusOf id ≠ some .queued ↔ CommittedFirst a j trace := by
  obtain ⟨env, principal, request, admits, named⟩ := handover.admits
  obtain ⟨env', works⟩ := handover.works
  have done : .admitCommit ∈ commits (own a trace) := by
    obtain ⟨log, committed, same⟩ := returnedSo run admits admitted
    rw [same, commitsAppend]
    exact List.mem_append_left _ committed
  obtain ⟨log, finished, same⟩ := returnedSo run works worked
  have waits : commits (own j trace) = [] → t.store.statusOf id = some .queued := fun idle => by
    rw [awaitsRun handover run idle, if_pos done]
  have begins : ∀ {db rest}, own j trace = .exec .getScan db [] :: rest →
      ∃ before after, trace = before ++ (j, .exec .getScan db []) :: after ∧ own j before = [] ∧
        db.statusOf id = if .admitCommit ∈ commits (own a before) then some .queued else none := by
    intro db rest first
    have split : own j trace = [] ++ .exec .getScan db [] :: rest := first
    obtain ⟨before, after, split, none, -⟩ := ownSplit split
    exact ⟨before, after, split, none, awaitsView handover run split (by rw [none]; rfl) (by rw [none]; rfl)⟩
  have starts : ∀ {before e after}, CommittedFirst a j trace → trace = before ++ (j, e) :: after →
      .admitCommit ∈ commits (own a before) := by
    rintro before e after ⟨start, e', tail, first, none, committed⟩ split
    obtain ⟨between, rfl⟩ := firstBefore first none split
    rw [ownAppend, commitsAppend]
    exact List.mem_append_left _ committed
  cases finished with
  | @absent db none =>
    refine ⟨fun left => absurd (waits (by rw [same]; rfl)) left, fun first => ?_⟩
    obtain ⟨before, after, split, -, view⟩ := begins same
    rw [if_pos (starts first split), Db.statusOf, none] at view
    contradiction
  | @taken db₀ db₁ db₂ other =>
    refine ⟨fun left => absurd (waits (by rw [same]; rfl)) left, fun first => ?_⟩
    have third : own j trace = ([.exec .getScan db₀ [], .exec .statusIds db₁ []] : Log) ++
        .exec .claim db₂ [] :: [.rollback] := same
    obtain ⟨before, after, split, two, -⟩ := ownSplit third
    have view := awaitsView handover run split (by rw [two]; rfl) (by rw [two]; rfl)
    rw [if_pos (starts first split)] at view
    exact absurd view other
  | @claimed db rest found claims =>
    constructor
    · intro _
      obtain ⟨before, after, split, none, view⟩ := begins same
      refine ⟨before, _, after, split, none, ?_⟩
      by_contra later
      rw [if_neg later, Db.statusOf, Option.map_eq_none_iff] at view
      rw [view] at found
      contradiction
    · intro _
      have claimed : Claims id (own j trace) := by
        rw [same]
        exact stableClaims id _ .rollback claims
      obtain ⟨status, here, other⟩ := (claimedOnce id run).left j claimed
      rw [here]
      exact fun queued => other (Option.some.inj queued)

end Runs

/-! The job of a task that is taken up before the request has committed. -/

def handoverRequests : List Request :=
  [.admission requestEnv (some 1) true (.create 1 (py "standard")),
   .job (plainEnv (Python.onAscii []) 6 (plainPipeline answeredResult) noFault) 500]

theorem handoverStarts : Handover handoverRequests queuedDb 0 1 500 where
  admits := ⟨requestEnv, some 1, .create 1 (py "standard"), rfl, rfl⟩
  works := ⟨_, rfl⟩
  alone k r found other := by
    match k with
    | 0 => cases found; exact nofun
    | 1 => contradiction
    | k + 2 => contradiction
  apart k r found other off := by
    match k with
    | 0 => contradiction
    | 1 => cases found; contradiction
    | k + 2 => contradiction
  fresh := rfl

def secondAfter (count : Nat) (test : Trace → Bool) (trace : Trace) : Bool :=
  match trace.drop count with
  | (1, _) :: _ => (own 1 (trace.take count)).isEmpty && test (trace.take count)
  | _ => false

theorem secondAfterIs {count : Nat} {test : Trace → Bool} {trace : Trace}
    (after : secondAfter count test trace = true) :
    ∃ before e rest, trace = before ++ (1, e) :: rest ∧ own 1 before = [] ∧ test before = true := by
  unfold secondAfter at after
  split at after
  · rename_i e rest here
    simp only [Bool.and_eq_true, List.isEmpty_iff] at after
    exact ⟨trace.take count, e, rest, by rw [← here, List.take_append_drop], after⟩
  · contradiction

def isEnqueue : Nat × Event Db Write Site → Bool
  | (0, .call .enqueue) => true
  | _ => false

def hasAdmitted (before : Trace) : Bool := (commits (own 0 before)).contains .admitCommit

def bothReturned (trace : Trace) (t : System Db Write Site PyError) : Bool :=
  allReturned t && trace.all (fun entry => !isCrash entry.2) && t.clients.length == 2

theorem bothReturnedIs {trace : Trace} {t : System Db Write Site PyError}
    (returned : bothReturned trace t = true) {i : Nat} (there : i < 2) : HasReturned i trace t := by
  simp only [bothReturned, allReturned, Bool.and_eq_true, List.all_eq_true, beq_iff_eq] at returned
  obtain ⟨⟨returned, alive⟩, two⟩ := returned
  have bound : i < t.clients.length := by omega
  refine ⟨⟨t.clients[i], List.getElem?_eq_getElem bound, ?_⟩, fun crashed => ?_⟩
  · exact returnedPure (returned _ (List.getElem_mem bound))
  · exact absurd (alive _ (memOwn.mp crashed)) (by simp [isCrash])

theorem committedScanTaken :
    ∃ trace t, Run scanRows (requested handoverRequests queuedDb) trace t ∧
      t.store.statusOf 500 ≠ some .queued := by
  have replayed : ((replay scanRows (requested handoverRequests queuedDb)
      (List.replicate 12 (.step 0) ++ List.replicate 27 (.step 1))).map fun (trace, t) =>
        secondAfter 12 hasAdmitted trace && bothReturned trace t) = some true := by
    decide +kernel
  obtain ⟨⟨trace, t⟩, ran, checks⟩ := Option.map_eq_some_iff.mp replayed
  simp only [Bool.and_eq_true] at checks
  obtain ⟨before, e, after, split, none, admitted⟩ := secondAfterIs checks.1
  refine ⟨trace, t, replayRun ran, (takenIffCommittedFirst handoverStarts (replayRun ran)
    (bothReturnedIs checks.2 (by decide)) (bothReturnedIs checks.2 (by decide))).mpr ?_⟩
  exact ⟨before, e, after, split, none, by simpa [hasAdmitted] using admitted⟩

theorem earlyTaskDropsScan :
    ∃ trace t, Run scanRows (requested handoverRequests queuedDb) trace t ∧
      Handover handoverRequests queuedDb 0 1 500 ∧ HasReturned 0 trace t ∧ HasReturned 1 trace t ∧
      (∃ before e after, trace = before ++ (1, e) :: after ∧ own 1 before = [] ∧
        (0, .call .enqueue) ∈ before) ∧
      t.store.statusOf 500 = some .queued := by
  have replayed : ((replay scanRows (requested handoverRequests queuedDb)
      (List.replicate 10 (.step 0) ++ List.replicate 2 (.step 1) ++ List.replicate 2 (.step 0))).map
        fun (trace, t) => secondAfter 10 (List.any · isEnqueue) trace && bothReturned trace t &&
          t.store.statusOf 500 == some .queued) = some true := by
    decide +kernel
  obtain ⟨⟨trace, t⟩, ran, checks⟩ := Option.map_eq_some_iff.mp replayed
  simp only [Bool.and_eq_true, beq_iff_eq] at checks
  obtain ⟨⟨early, returned⟩, queued⟩ := checks
  obtain ⟨before, e, after, split, none, sent⟩ := secondAfterIs early
  refine ⟨trace, t, replayRun ran, handoverStarts, bothReturnedIs returned (by decide),
    bothReturnedIs returned (by decide), ⟨before, e, after, split, none, ?_⟩, queued⟩
  obtain ⟨entry, member, is⟩ := List.any_eq_true.mp sent
  unfold isEnqueue at is
  split at is
  · exact member
  · contradiction

end SentinelGpt
