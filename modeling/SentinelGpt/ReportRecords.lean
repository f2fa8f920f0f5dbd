import SentinelGpt.ChainLaunches
import SentinelGpt.ExecutionAuthorization
import SentinelGpt.ReportAssembler
import SentinelGpt.ResultPublication

/-! What the runs leave of a scan for its report: the findings, the execution they are of, and
the lifecycle rows of one completion at most. -/
namespace SentinelGpt
open ReadCommitted

def Db.targetOf (db : Db) (s : Nat) : Option Nat := (db.scan? s).map Scan.targetId

def Db.foundIn (db : Db) (s : Nat) : List ScanFinding := db.findings.filter fun f => f.scanId == some s

def Db.observedIn (db : Db) (s : Nat) : List FindingStatusHistory :=
  db.history.filter fun row => row.observedInScanId == s

/- A scan has recorded nothing, or a row for every fingerprint it found and for some others. -/
inductive Db.Recorded (db : Db) (s : Nat) : Prop where
  | nothing (findings : db.foundIn s = []) (history : db.observedIn s = [])
  | rows {env : Env} {scan : Scan} {previous : List PyStr} {latest : PyStr → Option LifecycleStatus}
      (of_ : scan.id = s) (target : db.targetOf s = some scan.targetId)
      (history : db.observedIn s = lifecycleRows env scan (db.fingerprintsForScan s) previous latest)

def Db.Attributed (db : Db) (s : Nat) : Prop :=
  ∀ f ∈ db.findings, f.scanId = some s ↔ (f.executionId, s) ∈ db.executionKeys

section Writes
variable {db : Db} {s : Nat}

theorem targetEffect (there : (db.scan? s).isSome = true) (w : Write) :
    (Write.effect db w).targetOf s = db.targetOf s ∧ ((Write.effect db w).scan? s).isSome = true := by
  obtain ⟨scan, found⟩ := Option.isSome_iff_exists.mp there
  cases w with
  | insertScan row =>
    have same : (Write.effect db (.insertScan row)).scan? s = db.scan? s := by
      simp only [Db.scan?] at found
      simp [Db.scan?, Write.effect, List.find?_append, found]
    rw [Db.targetOf, same]
    exact ⟨rfl, there⟩
  | transition other target startedAt completedAt =>
    rw [Db.targetOf, Db.targetOf, Db.scanTransition, found]
    refine ⟨?_, rfl⟩
    simp only [Option.map_some]
    split <;> rfl
  | _ => exact ⟨rfl, there⟩

theorem targetSeen (there : (db.scan? s).isSome = true) (ws : List Write) :
    (seen db ws).targetOf s = db.targetOf s := by
  induction ws generalizing db with
  | nil => rfl
  | cons w rest ih =>
    obtain ⟨same, next⟩ := targetEffect there w
    rw [← same]
    exact ih next

theorem targetKept {target : Nat} (known : db.targetOf s = some target) (ws : List Write) :
    (seen db ws).targetOf s = some target := by
  have there : (db.scan? s).isSome = true := by
    unfold Db.targetOf at known
    cases found : db.scan? s with
    | none =>
      rw [found] at known
      cases known
    | some scan => rfl
  rw [targetSeen there, known]

theorem foundSeen (ws : List Write) : (seen db ws).foundIn s =
    db.foundIn s ++ (ws.flatMap Write.newFindings).filter fun f => f.scanId == some s := by
  rw [Db.foundIn, findingsSeen, List.filter_append]
  rfl

theorem observedSeen (ws : List Write) : (seen db ws).observedIn s =
    db.observedIn s ++ (ws.flatMap Write.newHistory).filter fun row => row.observedInScanId == s := by
  rw [Db.observedIn, historySeen, List.filter_append]
  rfl

theorem unrecorded (nothing : ¬ db.HasResults s) : db.foundIn s = [] ∧ db.observedIn s = [] := by
  constructor
  · refine List.filter_eq_nil_iff.mpr fun f stored same => nothing (.finding stored (.inl ?_))
    simpa using same
  · refine List.filter_eq_nil_iff.mpr fun row stored same => nothing (.history stored ?_)
    simpa using same

end Writes

section Forms
variable {env : Env} {s : Nat} {log : Log} {site : Site} {ws : List Write}
  {ms : List (ScanStatus × ScanStatus)} {cs : List Site}

theorem attemptSilent {at_ : Site} {source target : ScanStatus} {before : List (ScanStatus × ScanStatus)}
    {cs' : List Site} (attempt : Attempt s log at_ source target before cs' ws ms) :
    ws.flatMap Write.newFindings = [] ∧ ws.flatMap Write.newHistory = [] := by
  cases attempt <;> exact ⟨rfl, rfl⟩

theorem completionRecords (form : Committed env s log .aiCommit ws ms cs) :
    Started env s log ∧ cs = [.startCommit] ∧
      Records env s log (ws.flatMap Write.newFindings) (ws.flatMap Write.newHistory) := by
  cases form with
  | completed started audited row records completes analyses both =>
    obtain ⟨findings, history⟩ := attemptSilent completes
    obtain ⟨findings', history'⟩ := attemptSilent analyses
    refine ⟨started, rfl, ?_⟩
    rw [List.flatMap_append, List.flatMap_append, List.flatMap_append, List.flatMap_append, findings, history,
      findings', history']
    simpa [Write.newFindings, Write.newHistory] using records

theorem otherwiseSilent (form : Committed env s log site ws ms cs) (other : site ≠ .aiCommit) :
    ws.flatMap Write.newFindings = [] ∧ ws.flatMap Write.newHistory = [] := by
  have results := committedResults form
  constructor
  · refine List.flatMap_eq_nil_iff.mpr fun w member => ?_
    cases w with
    | insertFindings rows => exact absurd (results _ member).1 other
    | _ => rfl
  · refine List.flatMap_eq_nil_iff.mpr fun w member => ?_
    cases w with
    | insertHistory rows => exact absurd (results _ member).1 other
    | _ => rfl

theorem elsewhere {s' : Nat} (form : Committed env s' log site ws ms cs) (other : s' ≠ s) :
    ((ws.flatMap Write.newFindings).filter fun f => f.scanId == some s) = [] ∧
      ((ws.flatMap Write.newHistory).filter fun row => row.observedInScanId == s) = [] := by
  have results := committedResults form
  constructor
  · refine List.filter_eq_nil_iff.mpr fun f brought => ?_
    obtain ⟨w, member, here⟩ := List.mem_flatMap.mp brought
    cases w with
    | insertFindings rows =>
      rw [((results _ member).2.2 f here).1]
      simpa using other
    | _ => cases here
  · refine List.filter_eq_nil_iff.mpr fun row brought => ?_
    obtain ⟨w, member, here⟩ := List.mem_flatMap.mp brought
    cases w with
    | insertHistory rows =>
      rw [(results _ member).2 row here]
      simpa using other
    | _ => cases here

end Forms

section Runs
variable {requests : List Request} {store : Db} {trace : Trace} {t : System Db Write Site PyError}
  {i s : Nat} {r : Request} {site : Site}

theorem committedAt {before after : Trace} (run : Run scanRows (requested requests store) trace t)
    (split : trace = before ++ (i, .commit site) :: after) :
    ∃ u v r, Commits requests store before u i r site ∧
      Run scanRows (requested requests store) (before ++ [(i, .commit site)]) v ∧
      v.store = seen u.store (staged (own i before)) := by
  obtain ⟨-, v, -, -, -, -, next⟩ := runBefore run split
  have last := next
  generalize whole : before ++ [(i, Event.commit site)] = all at last
  cases last with
  | nil => simp at whole
  | snoc m ran moved =>
    obtain ⟨rfl, only⟩ := List.append_inj' whole rfl
    cases only
    have stores := storesOf ran moved
    generalize stored : System.store _ = db at stores
    cases stores with
    | quiet other => cases other
    | commits committed => exact ⟨_, v, _, committed, next, stored⟩

theorem commitsAfter {more : Trace} {t' : System Db Write Site PyError} {I : Db → Prop}
    (run : Run scanRows (requested requests store) trace t) (start : I t.store)
    (kept : ∀ front u i r site, Commits requests store (trace ++ front) u i r site →
      (∃ rest, more = front ++ (i, .commit site) :: rest) →
      I u.store → I (seen u.store (staged (own i (trace ++ front)))))
    (run' : Run scanRows (requested requests store) (trace ++ more) t') : I t'.store := by
  induction more using List.reverseRecOn generalizing t' with
  | nil =>
    have same : t'.store = t.store := by
      have stored : t.store = seen store (committed trace) := storeCommitted run
      have stored' : t'.store = seen store (committed (trace ++ [])) := storeCommitted run'
      rw [stored, stored', List.append_nil]
    rw [same]
    exact start
  | append_singleton more last ih =>
    rw [← List.append_assoc] at run'
    generalize whole : trace ++ more ++ [last] = all at run'
    cases run' with
    | nil => simp at whole
    | snoc m before moved =>
      obtain ⟨rfl, only⟩ := List.append_inj' whole rfl
      cases only
      have earlier : I _ := ih (fun front u i r site committed ⟨rest, split⟩ =>
        kept front u i r site committed ⟨rest ++ [_], by rw [split, List.append_assoc]; rfl⟩) before
      have stores := storesOf before moved
      generalize System.store _ = db at stores ⊢
      cases stores with
      | quiet other => exact earlier
      | commits committed => exact kept _ _ _ _ _ committed ⟨[], rfl⟩ earlier

theorem loadedTarget (run : Run scanRows (requested requests store) trace t) (on : scanOf requests i = some s)
    {db : Db} {writes : List Write} {scan : Scan} (loaded : .exec site db writes ∈ own i trace)
    (found : db.scan? s = some scan) : t.store.targetOf s = some scan.targetId := by
  obtain ⟨before, after, split⟩ := List.append_of_mem loaded
  obtain ⟨earlier, later, whole, -, -⟩ := ownSplit split
  obtain ⟨u, v, c, ran, there, did, -⟩ := runBefore run whole
  obtain ⟨followed, -, -⟩ := requestsKeep ran
  have inserts := (followed s).inserts i c s there on
  obtain ⟨more, grown⟩ : committed earlier <+: committed trace := by
    rw [whole]
    exact committedGrows earlier _
  have now : t.store = seen u.store more := by
    have stored : t.store = seen store (committed trace) := storeCommitted run
    have before : u.store = seen store (committed earlier) := storeCommitted ran
    rw [stored, before, ← grown, seenAppend]
  have view : db = seen u.store c.pending := by
    cases did with
    | exec v at_ reads free => exact reads
  have known : u.store.targetOf s = some scan.targetId := by
    cases stored : u.store.scan? s with
    | none =>
      have absent : u.store.statusOf s = none := by rw [Db.statusOf, stored]; rfl
      have missing := statusAbsent absent inserts
      rw [← view, Db.statusOf, found] at missing
      cases missing
    | some row =>
      have same := targetSeen (s := s) (by rw [stored]; rfl) c.pending
      rw [← view, Db.targetOf, found] at same
      exact same.symm
  rw [now]
  exact targetKept known more

theorem completedClaims (run : Run scanRows (requested requests store) trace t) (on : scanOf requests i = some s)
    (done : .aiCommit ∈ commits (own i trace)) : Claims s (own i trace) := by
  obtain ⟨before, after, split⟩ := List.append_of_mem (memCommits.mp done)
  obtain ⟨earlier, later, whole, rfl, -⟩ := ownSplit split
  obtain ⟨-, owed, -⟩ := requestsKeep run
  have owed : (rulesOf requests i).guarantee (own i earlier) (.commit .aiCommit) := owed earlier i _ later whole
  obtain ⟨r, found, here⟩ := Option.bind_eq_some_iff.mp on
  rw [rulesFound found, rulesOn here] at owed
  obtain ⟨b, site, a, same, moved⟩ := startedClaimed (completionRecords owed).1
  exact ⟨b, site, a ++ .commit .aiCommit :: after, by rw [split, same]; simp, moved⟩

theorem attributedRun (linked : store.Linked) (start : ¬ store.HasResults s)
    (run : Run scanRows (requested requests store) trace t) (keyed : t.store.Keyed) : t.store.Attributed s := by
  refine commitRun (I := fun _ db => db.Keyed → db.Attributed s) ?_ ?_ ?_ run keyed
  · intro _ f stored
    exact iff_of_false (fun same => start (.finding stored (.inl same))) fun key => start (.finding stored (.inr key))
  · exact fun _ _ _ _ _ holds => holds
  · intro trace t i r site committed holds keyed f stored
    have linked := linkedRun linked committed.run
    rw [findingsSeen] at stored
    rcases List.mem_append.mp stored with there | new
    · refine (holds (keyedBefore keyed) f there).trans ⟨fun key => keyStays key _, fun key => ?_⟩
      obtain ⟨s', old⟩ := linked.findings f there
      rwa [keyedOnce keyed key (keyStays old _)]
    · obtain ⟨w, member, here⟩ := List.mem_flatMap.mp new
      cases on : r.scan? with
      | none =>
        rw [(otherResults (committed.other on)).2.1] at new
        cases new
      | some s' =>
        have brought := committedResults (committed.form on) w member
        cases w with
        | insertFindings rows =>
          obtain ⟨-, started, rows_⟩ := brought
          obtain ⟨scan, execution⟩ := rows_ f here
          have key := keyStays (startedKey committed.run started) (staged (own i trace))
          rw [scan, execution]
          constructor
          · intro same
            rw [Option.some.inj same] at key
            exact key
          · intro other
            rw [keyedOnce keyed key other]
        | _ => cases here

/- What a scan has of results is of the one job that has completed its chain. -/
structure Completions (requests : List Request) (s : Nat) (trace : Trace) (db : Db) : Prop where
  results : db.HasResults s → ∃ k, scanOf requests k = some s ∧ .aiCommit ∈ commits (own k trace)
  recorded : db.Recorded s

theorem commitsStay {site : Site} {k : Nat} (done : site ∈ commits (own k trace)) (entry : Nat × Event Db Write Site) :
    site ∈ commits (own k (trace ++ [entry])) := by
  obtain ⟨i, e⟩ := entry
  rw [ownSnoc]
  split
  · rw [commitsAppend]
    exact List.mem_append_left _ done
  · exact done

theorem fingerprintsFound (db : Db) (s : Nat) : db.fingerprintsForScan s = fingerprintsOf (db.foundIn s) := rfl

theorem recordedSame {db : Db} {ws : List Write} (recorded : db.Recorded s) (found : (seen db ws).foundIn s = db.foundIn s)
    (observed : (seen db ws).observedIn s = db.observedIn s) : (seen db ws).Recorded s := by
  cases recorded with
  | nothing findings history => exact .nothing (found.trans findings) (observed.trans history)
  | rows of_ target history =>
    rw [← observed, fingerprintsFound, ← found] at history
    exact .rows of_ (targetKept target ws) history

theorem recordsStay (committed : Commits requests store trace t i r site)
    (other : r.scan? = some s → site ≠ .aiCommit) :
    (seen t.store (staged (own i trace))).foundIn s = t.store.foundIn s ∧
      (seen t.store (staged (own i trace))).observedIn s = t.store.observedIn s := by
  rw [foundSeen, observedSeen]
  cases on : r.scan? with
  | none =>
    obtain ⟨-, findings, history, -⟩ := otherResults (committed.other on)
    rw [findings, history]
    exact ⟨List.append_nil _, List.append_nil _⟩
  | some s' =>
    by_cases same : s' = s
    · subst same
      obtain ⟨findings, history⟩ := otherwiseSilent (committed.form on) (other on)
      rw [findings, history]
      exact ⟨List.append_nil _, List.append_nil _⟩
    · obtain ⟨findings, history⟩ := elsewhere (committed.form on) same
      rw [findings, history]
      exact ⟨List.append_nil _, List.append_nil _⟩

theorem completionRows (committed : Commits requests store trace t i r .aiCommit) (on : r.scan? = some s)
    (nothing : ¬ t.store.HasResults s) : ∃ scan db compared previous latest,
      (.exec .getScan db [] ∈ own i trace ∧ db.scan? s = some scan) ∧ Compares scan (own i trace) compared previous ∧
      Knows scan (own i trace) ((seen t.store (staged (own i trace))).fingerprintsForScan s ++ previous) latest ∧
      (seen t.store (staged (own i trace))).observedIn s = lifecycleRows r.env scan
        ((seen t.store (staged (own i trace))).fingerprintsForScan s) previous latest := by
  obtain ⟨-, -, records⟩ := completionRecords (committed.form on)
  obtain ⟨findings, history⟩ := unrecorded nothing
  have found : (seen t.store (staged (own i trace))).foundIn s = (staged (own i trace)).flatMap Write.newFindings := by
    rw [foundSeen, findings, List.nil_append]
    refine List.filter_eq_self.mpr fun f member => ?_
    rw [((recordsOwn records).1 f member).1]
    exact beq_self_eq_true _
  have observed : (seen t.store (staged (own i trace))).observedIn s =
      (staged (own i trace)).flatMap Write.newHistory := by
    rw [observedSeen, history, List.nil_append]
    refine List.filter_eq_self.mpr fun row member => ?_
    rw [(recordsOwn records).2 row member]
    exact beq_self_eq_true _
  rw [← found] at records
  rw [observed]
  generalize (staged (own i trace)).flatMap Write.newHistory = rows at records
  cases records with
  | recorded loaded owned compares knows => exact ⟨_, _, _, _, _, loaded, compares, knows, rfl⟩

theorem completionRecorded (committed : Commits requests store trace t i r .aiCommit) (on : r.scan? = some s)
    (nothing : ¬ t.store.HasResults s) : (seen t.store (staged (own i trace))).Recorded s := by
  obtain ⟨scan, db, compared, previous, latest, loaded, -, -, rows⟩ := completionRows committed on nothing
  have target := loadedTarget committed.run (by rw [scanOf, committed.found, Option.bind_some, on]) loaded.1 loaded.2
  exact .rows (scanIdOf loaded.2) (targetKept target _) rows

/- The chain of a scan is completed once. -/
theorem completesOnce (committed : Commits requests store trace t i r .aiCommit) (on : r.scan? = some s) {k : Nat}
    (other : scanOf requests k = some s) : .aiCommit ∉ commits (own k trace) := by
  intro done
  obtain ⟨started, once, -⟩ := completionRecords (committed.form on)
  -- The job that has completed it has claimed the scan as well, so that it is this one.
  have same := (claimedOnce s committed.run).once k i (completedClaims committed.run other done)
    (startedClaimed started)
  subst same
  rw [once] at done
  simp at done

theorem uncompleted (committed : Commits requests store trace t i r .aiCommit) (on : r.scan? = some s)
    (results : t.store.HasResults s → ∃ k, scanOf requests k = some s ∧ .aiCommit ∈ commits (own k trace)) :
    ¬ t.store.HasResults s := by
  intro has
  obtain ⟨k, other, done⟩ := results has
  exact completesOnce committed on other done

theorem completionsRun (linked : store.Linked) (start : ¬ store.HasResults s)
    (run : Run scanRows (requested requests store) trace t) (keyed : t.store.Keyed) :
    Completions requests s trace t.store := by
  refine commitRun (I := fun trace db => db.Keyed → Completions requests s trace db) ?_ ?_ ?_ run keyed
  · intro _
    obtain ⟨findings, history⟩ := unrecorded start
    exact ⟨fun has => absurd has start, .nothing findings history⟩
  · intro trace i e db other holds keyed
    obtain ⟨results, recorded⟩ := holds keyed
    exact ⟨fun has => (results has).imp fun k done => ⟨done.1, commitsStay done.2 (i, e)⟩, recorded⟩
  · intro trace t i r site committed holds keyed
    obtain ⟨results, recorded⟩ := holds (keyedBefore keyed)
    have mine : r.scan? = some s → scanOf requests i = some s := fun on => by
      rw [scanOf, committed.found, Option.bind_some, on]
    constructor
    · intro has
      rcases resultsFrom (linkedRun linked committed.run) committed keyed has with old | ⟨on, ends⟩
      · exact (results old).imp fun k done => ⟨done.1, commitsStay done.2 _⟩
      · refine ⟨i, mine on, ?_⟩
        rw [ownSnoc, if_pos rfl, commitsCommit, List.mem_append, List.mem_singleton]
        exact ends.symm.imp_right Eq.symm
    · by_cases completes : r.scan? = some s ∧ site = .aiCommit
      · obtain ⟨on, rfl⟩ := completes
        exact completionRecorded committed on (uncompleted committed on results)
      · obtain ⟨found, observed⟩ := recordsStay committed fun on same => completes ⟨on, same⟩
        exact recordedSame recorded found observed

end Runs
end SentinelGpt
