import SentinelGpt.ScanResults

/-! Whether a scan that has been rejected or cancelled is left without results. -/
namespace SentinelGpt
open ReadCommitted

def ScanStatus.isPublished : ScanStatus → Bool
  | .scanComplete | .aiAnalysis | .reportReady | .reportReadyDegraded | .partiallyComplete => true
  | .pendingAttestation | .queued | .running | .rejected | .cancelled => false

def Db.publishedAt (db : Db) (s : Nat) : Prop :=
  ∃ status, db.statusOf s = some status ∧ status.isPublished = true

/- What a chain that has gone through leaves of its scan. -/
inductive Db.HasResults (db : Db) (s : Nat) : Prop where
  | finding {f : ScanFinding} (stored : f ∈ db.findings)
      (of_ : f.scanId = some s ∨ (f.executionId, s) ∈ db.executionKeys)
  | history {h : FindingStatusHistory} (stored : h ∈ db.history) (of_ : h.observedInScanId = s)
  | succeeded {x : ScanEngineExecution} (stored : x ∈ db.executions) (of_ : x.scanId = s)
      (status : x.status = .succeeded)
  | assessed {a : ScanAiAssessment} (stored : a ∈ db.assessments)
      (of_ : (a.executionId, s) ∈ db.executionKeys)

section Steps
variable {requests : List Request} {store : Db} {trace : Trace} {t : System Db Write Site PyError}
  {i s : Nat} {r : Request} {site : Site}

/- A row that stays is of an execution that stays, whose scan is the same. -/
theorem keyKept {db : Db} {ws : List Write} {id : Nat} (keyed : (seen db ws).Keyed)
    (stored : ∃ s', (id, s') ∈ db.executionKeys) (now : (id, s) ∈ (seen db ws).executionKeys) :
    (id, s) ∈ db.executionKeys := by
  obtain ⟨s', key⟩ := stored
  rwa [keyedOnce keyed now (keyStays key _)]

theorem resultsElsewhere (linked : t.store.Linked) (committed : Commits requests store trace t i r site)
    (keyed : (seen t.store (staged (own i trace))).Keyed) (none : r.scan? = none)
    (results : (seen t.store (staged (own i trace))).HasResults s) : t.store.HasResults s := by
  obtain ⟨keys, findings, history, assessments, succeeds⟩ := otherResults (committed.other none)
  cases results with
  | finding stored of_ =>
    rw [findingsSeen, findings, List.append_nil] at stored
    exact .finding stored (of_.imp_right (keyKept keyed (linked.findings _ stored)))
  | history stored of_ =>
    rw [historySeen, history, List.append_nil] at stored
    exact .history stored of_
  | succeeded stored of_ status =>
    rcases succeededSeen stored status with ⟨y, there, -, scan, status⟩ | ⟨w, member, made⟩
    · exact .succeeded there (scan.trans of_) status
    · exact absurd made (succeeds w member _)
  | assessed stored of_ =>
    rcases assessmentsSeen stored with there | new
    · exact .assessed there (keyKept keyed (linked.assessments _ there) of_)
    · rw [assessments] at new
      contradiction

theorem resultsOwn {s' : Nat} (linked : t.store.Linked) (committed : Commits requests store trace t i r site)
    (keyed : (seen t.store (staged (own i trace))).Keyed) (on : r.scan? = some s')
    (results : (seen t.store (staged (own i trace))).HasResults s) :
    t.store.HasResults s ∨ s' = s ∧ (site = .aiCommit ∨ .aiCommit ∈ commits (own i trace)) := by
  have brought := committedResults (committed.form on)
  -- The execution of the job is of its own scan.
  have mine : Started r.env s' (own i trace) → (r.env.newId .createExecution 0, s) ∈
      (seen t.store (staged (own i trace))).executionKeys → s' = s := fun started now =>
    keyedOnce keyed (keyStays (startedKey committed.run started) _) now
  cases results with
  | finding stored of_ =>
    rw [findingsSeen] at stored
    rcases List.mem_append.mp stored with there | new
    · exact .inl (.finding there (of_.imp_right (keyKept keyed (linked.findings _ there))))
    · obtain ⟨w, member, here⟩ := List.mem_flatMap.mp new
      cases w with
      | insertFindings rows =>
        obtain ⟨same, started, rows_⟩ := brought _ member
        obtain ⟨scan, execution⟩ := rows_ _ here
        refine .inr ⟨?_, .inl same⟩
        rcases of_ with of_ | of_
        · rw [scan] at of_
          exact Option.some.inj of_
        · rw [execution] at of_
          exact mine started of_
      | _ => contradiction
  | history stored of_ =>
    rw [historySeen] at stored
    rcases List.mem_append.mp stored with there | new
    · exact .inl (.history there of_)
    · obtain ⟨w, member, here⟩ := List.mem_flatMap.mp new
      cases w with
      | insertHistory rows =>
        obtain ⟨same, rows_⟩ := brought _ member
        rw [rows_ _ here] at of_
        exact .inr ⟨of_, .inl same⟩
      | _ => contradiction
  | @succeeded x stored of_ status =>
    rcases succeededSeen stored status with ⟨y, there, -, scan, status⟩ | ⟨w, member, made⟩
    · exact .inl (.succeeded there (scan.trans of_) status)
    · cases w with
      | insertExecution row => exact absurd made.2 (brought _ member)
      | markExecution id status' ended reason =>
        obtain ⟨same, started, own_⟩ := brought _ member made.2
        have key : (x.id, x.scanId) ∈ (seen t.store (staged (own i trace))).executionKeys :=
          List.mem_map_of_mem stored
        rw [← made.1, own_, of_] at key
        exact .inr ⟨mine started key, .inl same⟩
      | _ => contradiction
  | assessed stored of_ =>
    rcases assessmentsSeen stored with there | new
    · exact .inl (.assessed there (keyKept keyed (linked.assessments _ there) of_))
    · obtain ⟨w, member, here⟩ := List.mem_filterMap.mp new
      cases w with
      | insertAssessment row | updateAssessment id row =>
        obtain ⟨before, started, own_⟩ := brought _ member
        cases here
        rw [own_] at of_
        exact .inr ⟨mine started of_, .inr before⟩
      | _ => contradiction

/- What comes to hold results of a scan is the transaction of a job on it that completes the
scan, or has done so before. -/
theorem resultsFrom (linked : t.store.Linked) (committed : Commits requests store trace t i r site)
    (keyed : (seen t.store (staged (own i trace))).Keyed)
    (results : (seen t.store (staged (own i trace))).HasResults s) :
    t.store.HasResults s ∨ r.scan? = some s ∧
      (site = .aiCommit ∨ .aiCommit ∈ commits (own i trace)) := by
  cases on : r.scan? with
  | none => exact .inl (resultsElsewhere linked committed keyed on results)
  | some s' =>
    rcases resultsOwn linked committed keyed on results with before | ⟨rfl, completes⟩
    · exact .inl before
    · exact .inr ⟨rfl, completes⟩

/- Where a chain is committed as complete its scan was RUNNING, and where a cancellation is
committed its scan was QUEUED, each at its UPDATE. -/
def TimelyOn (requests : List Request) (s i : Nat) (log : Log) (e : Event Db Write Site) : Prop :=
  scanOf requests i = some s → ∀ db writes,
    (e = .commit .aiCommit → .exec .scanComplete db writes ∈ log → db.statusOf s = some .running) ∧
    (e = .commit .cancelCommit → .exec .cancelTransition db writes ∈ log →
      db.statusOf s = some .queued)

theorem followsPublished {status : ScanStatus} {ms : List (ScanStatus × ScanStatus)}
    (follows : Follows (some status) ms) (published : status.isPublished = true)
    (kept : ∀ m ∈ ms, m.1.isPublished = true → m.2.isPublished = true) :
    ∃ last, lastStatus (some status) ms = some last ∧ last.isPublished = true := by
  induction ms generalizing status with
  | nil => exact ⟨status, rfl, published⟩
  | cons m rest ih =>
    obtain ⟨source, target⟩ := m
    obtain ⟨same, follows⟩ := follows
    cases same
    exact ih follows (kept _ List.mem_cons_self published) fun m member =>
      kept m (List.mem_cons_of_mem _ member)

theorem movesPublished {env : Env} {log : Log} {ws : List Write} {ms : List (ScanStatus × ScanStatus)}
    {cs : List Site} (form : Committed env s log site ws ms cs)
    (timely : site = .cancelCommit → ∀ db writes, .exec .cancelTransition db writes ∈ log →
      db.statusOf s = some .queued) :
    ∀ m ∈ ms, m.1.isPublished = true → m.2.isPublished = true := by
  cases form with
  | start authorized => simp [ScanStatus.isPublished]
  | refused row => simp [ScanStatus.isPublished]
  | failed started row attempt => cases attempt <;> simp [ScanStatus.isPublished]
  | completed started audited row records completes analyses both =>
    cases completes <;> cases analyses <;> simp [ScanStatus.isPublished]
  | assessed started audited assessment ends attempt =>
    cases attempt with
    | missed event => simp
    | found => rcases ends with rfl | rfl <;> simp [ScanStatus.isPublished]
  | idle => simp
  | handled stuck recorded row => rcases stuck with rfl | rfl <;> simp [ScanStatus.isPublished]
  | cancelled found here may =>
    have queued := timely rfl _ _ found
    rw [here] at queued
    cases queued
    simp [ScanStatus.isPublished]

theorem publishedStays (committed : Commits requests store trace t i r site)
    (timely : TimelyOn requests s i (own i trace) (.commit site)) (published : t.store.publishedAt s) :
    (seen t.store (staged (own i trace))).publishedAt s := by
  obtain ⟨status, here, published⟩ := published
  rw [Db.publishedAt, committed.status (by simp [here]), here]
  have follows := committed.follows s
  rw [here] at follows
  refine followsPublished follows published ?_
  by_cases none : moves s (own i trace) = []
  · simp [none]
  · have on := committed.mine s none
    refine movesPublished (committed.form on) fun same db writes => ?_
    exact (timely (by rw [scanOf, committed.found, Option.bind_some, on]) db writes).2 (by rw [same])

theorem completionPublishes (committed : Commits requests store trace t i r .aiCommit)
    (on : r.scan? = some s) (timely : TimelyOn requests s i (own i trace) (.commit .aiCommit)) :
    (seen t.store (staged (own i trace))).publishedAt s := by
  have follows := committed.follows s
  have form := committed.form on
  have found : (.running, .scanComplete) ∈ moves s (own i trace) ∧
      ∀ m ∈ moves s (own i trace), m.2.isPublished = true := by
    generalize moves s (own i trace) = ms at form
    generalize staged (own i trace) = ws at form
    generalize commits (own i trace) = cs at form
    cases form with
    | completed started audited row records completes analyses both =>
      cases completes with
      | found => cases analyses <;> simp [ScanStatus.isPublished]
      | missed lost =>
        obtain ⟨split, other, -, -⟩ := lost
        refine absurd ?_ other
        refine (timely ?_ _ []).1 rfl (by rw [split]; simp)
        rw [scanOf, committed.found, Option.bind_some, on]
  have some := List.ne_nil_of_mem found.1
  rw [Db.publishedAt, committed.status (followsSome follows some)]
  obtain ⟨before, last, same⟩ := (List.eq_nil_or_concat (moves s (own i trace))).resolve_left some
  rw [List.concat_eq_append] at same
  rw [same, lastStatusSnoc]
  exact ⟨last.2, rfl, found.2 last (by simp [same])⟩

structure Publishes (requests : List Request) (s : Nat) (trace : Trace) (db : Db) : Prop where
  completed : ∀ i, scanOf requests i = some s → .aiCommit ∈ commits (own i trace) → db.publishedAt s
  results : db.HasResults s → db.publishedAt s

theorem publishesRun (linked : store.Linked) (start : store.HasResults s → store.publishedAt s)
    (run : Run scanRows (requested requests store) trace t) (keyed : t.store.Keyed)
    (timely : AlongEach (TimelyOn requests s) trace) : Publishes requests s trace t.store := by
  have all : t.store.Keyed → AlongEach (TimelyOn requests s) trace →
      Publishes requests s trace t.store := by
    refine commitRun (I := fun trace db => db.Keyed → AlongEach (TimelyOn requests s) trace →
      Publishes requests s trace db) ?_ ?_ ?_ run
    · exact fun _ _ => ⟨fun i on done => by contradiction, start⟩
    · intro trace i e db other holds keyed timely
      obtain ⟨completed, results⟩ := holds keyed (alongEachOf timely).1
      refine ⟨fun k on done => completed k on ?_, results⟩
      rw [ownSnoc] at done
      split at done
      · cases e <;> first | contradiction | simpa [commits] using done
      · exact done
    · intro trace t i r site committed holds keyed timely
      obtain ⟨earlier, now⟩ := alongEachOf timely
      obtain ⟨completed, results⟩ := holds (keyedBefore keyed) earlier
      have stays : t.store.publishedAt s → _ := publishedStays committed now
      have done : ∀ k, scanOf requests k = some s →
          .aiCommit ∈ commits (own k (trace ++ [(i, .commit site)])) →
            (seen t.store (staged (own i trace))).publishedAt s := by
        intro k on done
        rw [ownSnoc] at done
        by_cases same : i = k
        · subst same
          rw [if_pos rfl, commitsCommit, List.mem_append, List.mem_singleton] at done
          rcases done with before | rfl
          · exact stays (completed i on before)
          · rw [scanOf, committed.found, Option.bind_some] at on
            exact completionPublishes committed on now
        · rw [if_neg same] at done
          exact stays (completed k on done)
      refine ⟨done, fun has => ?_⟩
      rcases resultsFrom (linkedRun linked committed.run) committed keyed has with old | ⟨on, ends⟩
      · exact stays (results old)
      · refine done i (by rw [scanOf, committed.found, Option.bind_some, on]) ?_
        rw [ownSnoc, if_pos rfl, commitsCommit, List.mem_append, List.mem_singleton]
        exact ends.symm.imp_right Eq.symm
  exact all keyed timely

theorem calledOffWithoutResults (linked : store.Linked)
    (start : store.HasResults s → store.publishedAt s)
    (run : Run scanRows (requested requests store) trace t) (keyed : t.store.Keyed)
    (timely : AlongEach (TimelyOn requests s) trace) {status : ScanStatus}
    (here : t.store.statusOf s = some status) (ended : status = .rejected ∨ status = .cancelled) :
    ¬ t.store.HasResults s := by
  intro has
  obtain ⟨other, there, published⟩ := (publishesRun linked start run keyed timely).results has
  rw [here] at there
  cases there
  rcases ended with rfl | rfl <;> contradiction

end Steps

/-! A cancellation before the job claims the scan, and one while its analysis runs. -/

def cancelledRequests : List Request :=
  [.task (plainEnv (Python.onAscii []) 1 (plainPipeline answeredResult) noFault) 1,
   .cancel (plainEnv (Python.onAscii []) 2 (plainPipeline answeredResult) noFault) (some 1) 1]

def timelyEvent : Event Db Write Site → Bool
  | .exec .scanComplete db _ => db.statusOf 1 == some .running
  | .exec .cancelTransition db _ => db.statusOf 1 == some .queued
  | _ => true

theorem timelyEvents {requests : List Request} {trace : Trace}
    (all : ∀ entry ∈ trace, timelyEvent entry.2 = true) : AlongEach (TimelyOn requests 1) trace := by
  rintro before i e after rfl - db writes
  have seen_ : ∀ {e'}, e' ∈ own i before → timelyEvent e' = true := fun member =>
    all (i, _) (List.mem_append_left _ (memOwn.mp member))
  refine ⟨fun _ member => ?_, fun _ member => ?_⟩
  · simpa [timelyEvent] using seen_ member
  · simpa [timelyEvent] using seen_ member

theorem queuedWithoutResults : ¬ queuedDb.HasResults 1 := by
  rintro (⟨stored, -⟩ | ⟨stored, -⟩ | ⟨stored, -, -⟩ | ⟨stored, -⟩) <;> exact absurd stored List.not_mem_nil

theorem cancelledScanWithoutResults :
    ∃ trace t, Run scanRows (requested cancelledRequests queuedDb) trace t ∧
      t.store.statusOf 1 = some .cancelled ∧ ¬ t.store.HasResults 1 := by
  have replayed : ((replay scanRows (requested cancelledRequests queuedDb)
      (List.replicate 8 (.step 1) ++ List.replicate 4 (.step 0))).map fun (trace, t) =>
        trace.all (fun entry => timelyEvent entry.2) && t.store.executions.isEmpty &&
          t.store.statusOf 1 == some .cancelled) = some true := by
    decide +kernel
  obtain ⟨⟨trace, t⟩, ran, checks⟩ := Option.map_eq_some_iff.mp replayed
  simp only [Bool.and_eq_true, List.all_eq_true, beq_iff_eq, List.isEmpty_iff] at checks
  refine ⟨trace, t, replayRun ran, checks.2, ?_⟩
  refine calledOffWithoutResults ⟨by simp [queuedDb], by simp [queuedDb]⟩ (fun has => absurd has queuedWithoutResults)
    (replayRun ran) ?_ (timelyEvents checks.1.1) checks.2 (.inr rfl)
  rw [Db.Keyed, Db.executionKeys, checks.1.2]
  exact List.nodup_nil

theorem cancelledScanWithResults :
    ∃ trace t, Run scanRows (requested cancelledRequests queuedDb) trace t ∧
      ¬ queuedDb.HasResults 1 ∧ t.store.statusOf 1 = some .cancelled ∧ t.store.HasResults 1 := by
  have replayed : ((replay scanRows (requested cancelledRequests queuedDb)
      (List.replicate 22 (.step 0) ++ List.replicate 8 (.step 1))).map fun (_, t) =>
        t.store.statusOf 1 == some .cancelled &&
          t.store.executions.any fun x => x.scanId == 1 && x.status == .succeeded) = some true := by
    decide +kernel
  obtain ⟨⟨trace, t⟩, ran, checks⟩ := Option.map_eq_some_iff.mp replayed
  simp only [Bool.and_eq_true, List.any_eq_true, beq_iff_eq] at checks
  obtain ⟨cancelled, x, stored, mine, succeeded⟩ := checks
  exact ⟨trace, t, replayRun ran, queuedWithoutResults, cancelled, .succeeded stored mine succeeded⟩

end SentinelGpt
