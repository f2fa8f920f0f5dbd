import SentinelGpt.LifecycleRecord
import SentinelGpt.ReportRecords

/-! The lifecycle counts of a report beside the lifecycle rows its scan has recorded. -/
namespace SentinelGpt
open ReadCommitted ReportAssembler LoopDict

def Db.recordedCounts (db : Db) (s : Nat) : List (PyStr × Nat) :=
  tally ((db.observedIn s).map fun row => row.status.code)

/- A scan has recorded nothing as resolved, and what is newest of the fingerprints it has
recorded has the status it recorded. -/
structure Db.Shown (db : Db) (s : Nat) : Prop where
  unresolved : ∀ row ∈ db.observedIn s, row.status ≠ .resolved
  newest : ∀ row ∈ db.observedIn s, ∀ last ∈ db.historyOf row.targetId row.fingerprint,
    (∀ r ∈ db.historyOf row.targetId row.fingerprint, r.effectiveAt ≤ last.effectiveAt) → last.status = row.status

/- Where later scans have the last word on a fingerprint of a scan, they record what the scan has recorded. -/
def Db.RepeatedLater (before after : Db) (s : Nat) : Prop :=
  ∀ row ∈ before.observedIn s, ∀ last ∈ after.historyOf row.targetId row.fingerprint, last ∉ before.history →
    (∀ r ∈ after.historyOf row.targetId row.fingerprint, r.effectiveAt ≤ last.effectiveAt) → last.status = row.status

section Rows
variable {env : Env} {scan : Scan} {current previous : List PyStr} {latest : PyStr → Option LifecycleStatus}

theorem rowsDistinct :
    ((lifecycleRows env scan current previous latest).map FindingStatusHistory.fingerprint).Nodup := by
  rw [List.nodup_iff_count_le_one]
  intro fp
  rw [List.count, List.countP_map, List.countP_eq_length_filter]
  have statuses := congrArg List.length (recordedStatuses env scan current previous latest fp)
  rw [List.length_map] at statuses
  refine statuses.trans_le ?_
  split
  · cases derivedFor current previous latest fp with
    | none => exact Nat.zero_le 1
    | some status => exact Nat.le_refl 1
  · exact Nat.zero_le 1

theorem foundRecorded {fp : PyStr} (found : fp ∈ current) :
    fp ∈ (lifecycleRows env scan current previous latest).map FindingStatusHistory.fingerprint := by
  have statuses := recordedStatuses env scan current previous latest fp
  rw [if_pos (List.mem_append_left _ found)] at statuses
  have derived : (derivedFor current previous latest fp).isSome = true := by
    rw [derivedFor, derivedSomeIff, List.contains_iff_mem.mpr found]
    rfl
  obtain ⟨status, derived⟩ := Option.isSome_iff_exists.mp derived
  rw [derived, Option.toList_some] at statuses
  obtain ⟨row, only, -⟩ := List.map_eq_singleton_iff.mp statuses
  have member : row ∈ (lifecycleRows env scan current previous latest).filter fun r => r.fingerprint == fp := by
    rw [only]
    exact List.mem_singleton_self row
  obtain ⟨recorded, named⟩ := List.mem_filter.mp member
  exact List.mem_map.mpr ⟨row, recorded, beq_iff_eq.mp named⟩

theorem unresolvedFound {row : FindingStatusHistory} (member : row ∈ lifecycleRows env scan current previous latest)
    (open_ : row.status ≠ .resolved) : row.fingerprint ∈ current := by
  obtain ⟨-, -, -, derived⟩ := memRecorded env scan current previous latest member
  have found := derivedOpenIff derived
  rw [← List.contains_iff_mem, ← found]
  cases status : row.status with
  | resolved => exact absurd status open_
  | _ => rfl

end Rows

section Reports
variable {db : Db} {s : Nat} {scan : Scan}

theorem reportFingerprints (attributed : db.Attributed s)
    (joins : ∀ f ∈ db.findings, (FindingExplanation.joined f).isSome = true) :
    (findings db s).map ReportFinding.fingerprint = (db.foundIn s).map ScanFinding.fingerprint := by
  have own : (db.findings.filter fun f => FindingExplanation.ofScan db s f.executionId) = db.foundIn s := by
    refine List.filter_congr fun f stored => ?_
    rw [Bool.eq_iff_iff, beq_iff_eq, attributed f stored]
    simp [FindingExplanation.ofScan, Db.executionKeys]
  have each : ∀ rows : List ScanFinding, (∀ f ∈ rows, (FindingExplanation.joined f).isSome = true) →
      (rows.filterMap (reportFinding db)).map ReportFinding.fingerprint = rows.map ScanFinding.fingerprint := by
    intro rows joins
    induction rows with
    | nil => rfl
    | cons f rest ih =>
      obtain ⟨both, joined⟩ := Option.isSome_iff_exists.mp (joins f List.mem_cons_self)
      have tail := ih fun g member => joins g (List.mem_cons_of_mem f member)
      rw [List.filterMap_cons, reportFinding, joined]
      exact congrArg (f.fingerprint :: ·) tail
  rw [findings, own]
  exact each _ fun f member => joins f (List.mem_filter.mp member).1

theorem keptNewest {targetId : Nat} {fps : List PyStr} {entry : PyStr × PyStr}
    (kept : entry ∈ firsts ((historyRows db targetId fps).map fun row => (row.fingerprint, row.status.code))) :
    ∃ last ∈ db.historyOf targetId entry.1, entry.1 ∈ fps ∧ entry.2 = last.status.code ∧
      ∀ r ∈ db.historyOf targetId entry.1, r.effectiveAt ≤ last.effectiveAt := by
  obtain ⟨before, after, split, first⟩ := firstsFirst kept
  obtain ⟨newer, rest, whole, newer_, rest_⟩ := List.map_eq_append_iff.mp split
  obtain ⟨last, older, same, shown, -⟩ := List.map_eq_cons_iff.mp rest_
  subst same
  subst newer_
  have perm := List.perm_insertionSort laterRow
    (db.history.filter fun row => row.targetId == targetId && fps.contains row.fingerprint)
  have sorted := List.pairwise_insertionSort laterRow
    (db.history.filter fun row => row.targetId == targetId && fps.contains row.fingerprint)
  rw [← historyRows, whole] at perm sorted
  rw [← shown] at first ⊢
  have stored := List.mem_filter.mp (perm.mem_iff.mp (List.mem_append_right newer List.mem_cons_self))
  simp only [Bool.and_eq_true, beq_iff_eq, List.contains_iff_mem] at stored
  refine ⟨last, List.mem_filter.mpr ⟨stored.1, by simp [stored.2.1]⟩, stored.2.2, rfl, ?_⟩
  intro r member
  obtain ⟨there, named⟩ := List.mem_filter.mp member
  simp only [Bool.and_eq_true, beq_iff_eq] at named
  have listed : r ∈ newer ++ last :: older :=
    perm.mem_iff.mpr (List.mem_filter.mpr ⟨there, by simp [named.1, named.2, stored.2.2]⟩)
  rcases List.mem_append.mp listed with front | behind
  · refine absurd ?_ first
    rw [List.map_map]
    exact List.mem_map.mpr ⟨r, front, named.2⟩
  · rcases List.mem_cons.mp behind with rfl | later
    · exact Nat.le_refl _
    · exact List.rel_of_pairwise_cons (List.pairwise_append.mp sorted).2.1 later

theorem keptRows {targetId : Nat} {fps : List PyStr} {observed : List FindingStatusHistory}
    (distinct : (observed.map FindingStatusHistory.fingerprint).Nodup)
    (rowOf : ∀ row ∈ observed, row ∈ db.history ∧ row.targetId = targetId ∧ row.fingerprint ∈ fps)
    (covered : ∀ fp ∈ fps, ∃ row ∈ observed, row.fingerprint = fp)
    (newest : ∀ row ∈ observed, ∀ last ∈ db.historyOf targetId row.fingerprint,
      (∀ r ∈ db.historyOf targetId row.fingerprint, r.effectiveAt ≤ last.effectiveAt) → last.status = row.status) :
    (firsts ((historyRows db targetId fps).map fun row => (row.fingerprint, row.status.code))).Perm
      (observed.map fun row => (row.fingerprint, row.status.code)) := by
  generalize listed : firsts ((historyRows db targetId fps).map fun row => (row.fingerprint, row.status.code)) = latest
  have observedFor : ∀ entry ∈ latest, ∃ row ∈ observed, row.fingerprint = entry.1 ∧ row.status.code = entry.2 := by
    intro entry kept
    rw [← listed] at kept
    obtain ⟨last, there, found, code, bound⟩ := keptNewest kept
    obtain ⟨row, member, named⟩ := covered entry.1 found
    have now := newest row member last (named ▸ there) (named ▸ bound)
    exact ⟨row, member, named, by rw [code, now]⟩
  refine (List.perm_ext_iff_of_nodup (.of_map Prod.fst (listed ▸ firstsNodup _))
    (.of_map Prod.fst (by rw [List.map_map]; exact distinct))).mpr fun entry => ?_
  constructor
  · intro kept
    obtain ⟨row, member, named, code⟩ := observedFor entry kept
    exact List.mem_map.mpr ⟨row, member, Prod.ext named code⟩
  · intro pair
    obtain ⟨row, member, rfl⟩ := List.mem_map.mp pair
    obtain ⟨stored, target, found⟩ := rowOf row member
    have key : row.fingerprint ∈ latest.map Prod.fst := by
      rw [← listed, firstsKeys, List.map_map]
      refine List.mem_map.mpr ⟨row, ?_, rfl⟩
      rw [historyRows, List.mem_insertionSort]
      exact List.mem_filter.mpr ⟨stored, by simp [target, found]⟩
    obtain ⟨entry, kept, same⟩ := List.mem_map.mp key
    obtain ⟨row', member', named, code⟩ := observedFor entry kept
    have only : row' = row := List.inj_on_of_nodup_map distinct member' member (named.trans same)
    subst only
    have whole : (row'.fingerprint, row'.status.code) = entry := Prod.ext named code
    rw [whole]
    exact kept

/- Where a scan is shown as it is recorded, the counts of its report are those of its rows. -/
theorem countsRecorded (recorded : db.Recorded s) (here : db.scan? s = some scan) (attributed : db.Attributed s)
    (joins : ∀ f ∈ db.findings, (FindingExplanation.joined f).isSome = true) (shown : db.Shown s) (code : PyStr) :
    (lifecycleCounts db scan.targetId ((findings db s).map ReportFinding.fingerprint)).lookup code =
      (db.recordedCounts s).lookup code := by
  have fingerprints : (((findings db s).map ReportFinding.fingerprint).filterMap id).filter (fun fp => !fp.isEmpty) =
      db.fingerprintsForScan s := by
    rw [reportFingerprints attributed joins, List.filterMap_map]
    rfl
  unfold lifecycleCounts
  dsimp only
  rw [fingerprints]
  cases recorded with
  | nothing findings history =>
    have none : db.fingerprintsForScan s = [] := by
      rw [fingerprintsFound, findings]
      rfl
    rw [none, Db.recordedCounts, history]
    rfl
  | @rows env scan' previous latest of_ target history =>
    have same : scan'.targetId = scan.targetId := by
      rw [Db.targetOf, here] at target
      exact (Option.some.inj target).symm
    have rowOf : ∀ row ∈ db.observedIn s, row ∈ db.history ∧ row.targetId = scan.targetId ∧
        row.fingerprint ∈ db.fingerprintsForScan s := by
      intro row member
      have open_ := shown.unresolved row member
      have stored := (List.mem_filter.mp member).1
      rw [history] at member
      exact ⟨stored, (memRecorded _ _ _ _ _ member).1.trans same, unresolvedFound member open_⟩
    split
    · rename_i empty
      have none : db.observedIn s = [] := by
        refine List.eq_nil_iff_forall_not_mem.mpr fun row member => ?_
        have found := (rowOf row member).2.2
        rw [List.isEmpty_iff.mp empty] at found
        cases found
      rw [Db.recordedCounts, none]
      rfl
    · have pairs := @keptRows db scan.targetId (db.fingerprintsForScan s) (db.observedIn s)
        (by rw [history]; exact rowsDistinct) rowOf
        (fun fp found => by rw [history]; exact List.mem_map.mp (foundRecorded found))
        (fun row member last there bound => by
          rw [← (rowOf row member).2.1] at there bound
          exact shown.newest row member last there bound)
      have values := pairs.map Prod.snd
      rw [List.map_map] at values
      exact tallyPerm values code

end Reports

section Runs
variable {requests : List Request} {store : Db} {trace more : Trace} {t t' : System Db Write Site PyError}
  {s : Nat}

def CompletesRunning (requests : List Request) (s : Nat) (trace : Trace) : Prop :=
  ∀ before i after, trace = before ++ (i, .commit .aiCommit) :: after → scanOf requests i = some s →
    moves s (own i before) ≠ []

theorem overStays (run : Run scanRows (requested requests store) trace t)
    (run' : Run scanRows (requested requests store) (trace ++ more) t') {status : ScanStatus}
    (here : t.store.statusOf s = some status) (ended : status.isTerminal = true)
    (running : CompletesRunning requests s (trace ++ more)) : t'.store.observedIn s = t.store.observedIn s := by
  have stays : t'.store.statusOf s = some status ∧ t'.store.observedIn s = t.store.observedIn s := by
    refine commitsAfter (I := fun db => db.statusOf s = some status ∧ db.observedIn s = t.store.observedIn s)
      run ⟨here, rfl⟩ ?_ run'
    intro front u i r site committed ⟨rest, split⟩ ⟨here, same⟩
    have unmoved := committed.terminalUnmoved here ended
    constructor
    · rw [committed.status (by rw [here]; rfl), unmoved, lastStatusNil, here]
    · have stay := recordsStay committed fun on (site_ : site = .aiCommit) => by
        subst site_
        exact running (trace ++ front) i rest (by rw [split, List.append_assoc]) (by rw [scanOf, committed.found, Option.bind_some, on]) unmoved
      rw [stay.2, same]
  exact stays.2

theorem historyStays (run : Run scanRows (requested requests store) trace t)
    (run' : Run scanRows (requested requests store) (trace ++ more) t') : ∀ row ∈ t.store.history, row ∈ t'.store.history := by
  refine commitsAfter (I := fun db => ∀ row ∈ t.store.history, row ∈ db.history) run (fun _ member => member) ?_ run'
  intro front u i r site _ _ grown row member
  rw [historySeen]
  exact List.mem_append_left _ (grown row member)

/- What a scan that is over shows is still shown as long as later scans repeat it. -/
theorem shownStays {before after : Db} (kept : ∀ row ∈ before.history, row ∈ after.history)
    (same : after.observedIn s = before.observedIn s) (shown : before.Shown s) (repeated : before.RepeatedLater after s) :
    after.Shown s := by
  constructor
  · rw [same]
    exact shown.unresolved
  · rw [same]
    intro row observed last there newest
    by_cases old : last ∈ before.history
    · have olds : ∀ r, r ∈ before.historyOf row.targetId row.fingerprint → r ∈ after.historyOf row.targetId row.fingerprint := by
        intro r member
        obtain ⟨stored, of⟩ := List.mem_filter.mp member
        exact List.mem_filter.mpr ⟨kept r stored, of⟩
      have here : last ∈ before.historyOf row.targetId row.fingerprint :=
        List.mem_filter.mpr ⟨old, (List.mem_filter.mp there).2⟩
      exact shown.newest row observed last here fun r member => newest r (olds r member)
    · exact repeated row observed last there old newest

theorem reportCounts {python : Python} {now : Time} {doc : ReportDocument} (linked : store.Linked)
    (start : ¬ store.HasResults s) (run : Run scanRows (requested requests store) trace t)
    (sound : FindingExplanation.Constraints t.store) (shown : t.store.Shown s)
    (assembled : assemble python now t.store s = .ok (some doc)) (code : PyStr) :
    doc.lifecycleCounts.lookup code = (t.store.recordedCounts s).lookup code := by
  unfold assemble at assembled
  split at assembled
  · cases assembled
  · rename_i scan here
    obtain ⟨assessed, -, made⟩ := bindOk assembled
    cases made
    have joins : ∀ f ∈ t.store.findings, (FindingExplanation.joined f).isSome = true := fun f member => by
      obtain ⟨dto, category, row, -⟩ := FindingExplanation.joinedSound sound member
      rw [row]
      rfl
    exact countsRecorded (completionsRun linked start run sound.executionKey).recorded here
      (attributedRun linked start run sound.executionKey) joins shown code

/- Where a scan is shown as it is recorded, its report counts the lifecycle rows of the scan; once
the scan is over, no report counts anything else as long as the scans after it repeat its rows. -/
theorem reportsFaithful {python : Python} {now now' : Time} {doc doc' : ReportDocument} {status : ScanStatus}
    (linked : store.Linked) (start : ¬ store.HasResults s)
    (run : Run scanRows (requested requests store) trace t)
    (run' : Run scanRows (requested requests store) (trace ++ more) t')
    (sound : FindingExplanation.Constraints t.store) (sound' : FindingExplanation.Constraints t'.store)
    (running : CompletesRunning requests s (trace ++ more)) (shown : t.store.Shown s)
    (repeated : t.store.RepeatedLater t'.store s)
    (here : t.store.statusOf s = some status) (assembled : assemble python now t.store s = .ok (some doc))
    (assembled' : assemble python now' t'.store s = .ok (some doc')) (code : PyStr) :
    doc.lifecycleCounts.lookup code = (t.store.recordedCounts s).lookup code ∧
      (status.isTerminal = true → doc'.lifecycleCounts.lookup code = doc.lifecycleCounts.lookup code) := by
  have first := reportCounts linked start run sound shown assembled code
  refine ⟨first, fun ended => ?_⟩
  have stays := overStays run run' here ended running
  have shown' := shownStays (historyStays run run') stays shown repeated
  have same : t'.store.recordedCounts s = t.store.recordedCounts s := by
    rw [Db.recordedCounts, Db.recordedCounts, stays]
  rw [first, reportCounts linked start run' sound' shown' assembled' code, same]

end Runs

/-! Three scans of one target, the same finding in all of them or in the first alone. -/

def reportedDb : Db := { queuedDb with scans := [queuedScan 1 none, queuedScan 2 none, queuedScan 3 none] }

def repeatedFinding : List Request :=
  [.task (envOf 1 missingHstsResult) 1, .task (envOf 2 missingHstsResult) 2, .task (envOf 3 missingHstsResult) 3]

def fixedFinding : List Request := [.task (envOf 1 missingHstsResult) 1, .task (envOf 2 answeredResult) 2]

theorem reportedLinked : reportedDb.Linked := ⟨by simp [reportedDb, queuedDb], by simp [reportedDb, queuedDb]⟩

theorem reportedWithoutResults (s : Nat) : ¬ reportedDb.HasResults s := by
  rintro (⟨stored, -⟩ | ⟨stored, -⟩ | ⟨stored, -, -⟩ | ⟨stored, -⟩) <;> exact absurd stored List.not_mem_nil

def keysUnique (db : Db) : Bool :=
  decide (db.scans.map Scan.id).Nodup && decide (db.findings.map ScanFinding.id).Nodup &&
    decide (db.executionKeys.map Prod.fst).Nodup

def referencesSeeded (db : Db) : Bool :=
  (db.scans.all fun s => scanProfiles.any fun entry => entry.1 == s.scanProfileId) &&
    (db.findings.all fun f => findingCategories.any fun entry => entry.2 == f.categoryId) &&
    db.findings.all fun f => Severity.all.any fun s => severityLevels s == f.severityId

theorem constraintsHold {db : Db} (linked : db.Linked) (unique : keysUnique db = true)
    (seeded : referencesSeeded db = true) : FindingExplanation.Constraints db := by
  simp only [keysUnique, Bool.and_eq_true, decide_eq_true_eq] at unique
  simp only [referencesSeeded, Bool.and_eq_true, List.all_eq_true, List.any_eq_true, beq_iff_eq] at seeded
  obtain ⟨⟨scans, findings⟩, executions⟩ := unique
  obtain ⟨⟨profiles, categories⟩, severities⟩ := seeded
  refine ⟨scans, findings, executions, linked, profiles, categories, fun f member => ?_⟩
  obtain ⟨s, -, same⟩ := severities f member
  exact ⟨s, same⟩

def repeats (before after : Db) (s : Nat) : Bool :=
  (before.observedIn s).all fun row => (after.historyOf row.targetId row.fingerprint).all fun last =>
    !((after.historyOf row.targetId row.fingerprint).all fun r => r.effectiveAt ≤ last.effectiveAt) ||
      last.status == row.status

theorem repeatsIs {before after : Db} {s : Nat} (checked : repeats before after s = true) : ∀ row ∈ before.observedIn s,
    ∀ last ∈ after.historyOf row.targetId row.fingerprint,
      (∀ r ∈ after.historyOf row.targetId row.fingerprint, r.effectiveAt ≤ last.effectiveAt) → last.status = row.status := by
  simp only [repeats, List.all_eq_true, Bool.or_eq_true, beq_iff_eq, Bool.not_eq_true', ← Bool.not_eq_true,
    decide_eq_true_eq] at checked
  exact fun row member last there newest => (checked row member last there).resolve_left fun other => other newest

def isShown (db : Db) (s : Nat) : Bool := (db.observedIn s).all (fun row => row.status != .resolved) && repeats db db s

theorem shownOf {db : Db} {s : Nat} (checked : isShown db s = true) : db.Shown s := by
  simp only [isShown, Bool.and_eq_true, List.all_eq_true, bne_iff_ne] at checked
  exact ⟨checked.1, repeatsIs checked.2⟩

def completesRunning (requests : List Request) (s : Nat) (events : Trace) : Bool :=
  (List.range events.length).all fun n => match events[n]? with
    | some (i, .commit .aiCommit) => scanOf requests i != some s || !(moves s (own i (events.take n))).isEmpty
    | _ => true

theorem completesRunningOf {requests : List Request} {s : Nat} {trace : Trace}
    (checked : completesRunning requests s trace = true) : CompletesRunning requests s trace := by
  rintro before i after rfl on none
  have here := List.all_eq_true.mp checked before.length (by simp)
  simp [on, none] at here

def reported (db : Db) (s : Nat) : Option ReportDocument :=
  match assemble fingerprintingPython 9 db s with
  | .ok (some doc) => some doc
  | _ => none

theorem reportedIs {db : Db} {s : Nat} {doc : ReportDocument} (made : reported db s = some doc) :
    assemble fingerprintingPython 9 db s = .ok (some doc) := by
  unfold reported at made
  split at made
  · rename_i same
    rw [same, Option.some.inj made]
  · cases made

theorem persistentReported : ∃ trace more t t' doc doc', Run scanRows (requested repeatedFinding reportedDb) trace t ∧
    Run scanRows (requested repeatedFinding reportedDb) (trace ++ more) t' ∧
    assemble fingerprintingPython 9 t.store 2 = .ok (some doc) ∧
    assemble fingerprintingPython 9 t'.store 2 = .ok (some doc') ∧
    (t.store.recordedCounts 2).lookup (py "PERSISTENT") = some 1 ∧
    doc.lifecycleCounts.lookup (py "PERSISTENT") = some 1 ∧ doc'.lifecycleCounts.lookup (py "PERSISTENT") = some 1 := by
  have replayed : ((replay scanRows (requested repeatedFinding reportedDb)
      (List.replicate 29 (.step 0) ++ List.replicate 30 (.step 1))).bind fun (trace, t) =>
        (replay scanRows t (List.replicate 30 (.step 2))).map fun (more, t') =>
          keysUnique t.store && referencesSeeded t.store && keysUnique t'.store && referencesSeeded t'.store &&
            completesRunning repeatedFinding 2 (trace ++ more) && isShown t.store 2 && repeats t.store t'.store 2 &&
            (reported t.store 2).isSome && (reported t'.store 2).isSome &&
            t.store.statusOf 2 == some .reportReadyDegraded &&
            (t.store.recordedCounts 2).lookup (py "PERSISTENT") == some 1) = some true := by
    decide +kernel
  obtain ⟨⟨trace, t⟩, ran, rest⟩ := Option.bind_eq_some_iff.mp replayed
  obtain ⟨⟨more, t'⟩, ran', checks⟩ := Option.map_eq_some_iff.mp rest
  simp only [Bool.and_eq_true, beq_iff_eq] at checks
  obtain ⟨⟨⟨⟨⟨⟨⟨⟨⟨⟨unique, seeded⟩, unique'⟩, seeded'⟩, running⟩, shown⟩, repeated⟩, made⟩, made'⟩, here⟩, count⟩ := checks
  obtain ⟨doc, made⟩ := Option.isSome_iff_exists.mp made
  obtain ⟨doc', made'⟩ := Option.isSome_iff_exists.mp made'
  have run := replayRun ran
  have run' := replayRunFrom run ran'
  obtain ⟨same, stays⟩ := reportsFaithful reportedLinked (reportedWithoutResults 2) run run'
    (constraintsHold (linkedRun reportedLinked run) unique seeded)
    (constraintsHold (linkedRun reportedLinked run') unique' seeded') (completesRunningOf running) (shownOf shown)
    (fun row member last there _ => repeatsIs repeated row member last there) here (reportedIs made) (reportedIs made') (py "PERSISTENT")
  rw [count] at same
  exact ⟨trace, more, t, t', doc, doc', run, run', reportedIs made, reportedIs made', count, same,
    (stays rfl).trans same⟩

/- The second scan no longer finds what the first one found: the report of the first tells it
is resolved, and the report of the second tells nothing. -/
theorem laterStatusReported : ∃ trace t doc doc', Run scanRows (requested fixedFinding reportedDb) trace t ∧
    assemble fingerprintingPython 9 t.store 1 = .ok (some doc) ∧
    assemble fingerprintingPython 9 t.store 2 = .ok (some doc') ∧
    t.store.recordedCounts 1 = [(py "NEW", 1)] ∧ doc.lifecycleCounts = [(py "RESOLVED", 1)] ∧
    t.store.recordedCounts 2 = [(py "RESOLVED", 1)] ∧ doc'.lifecycleCounts = [] := by
  have replayed : ((replay scanRows (requested fixedFinding reportedDb)
      (List.replicate 29 (.step 0) ++ List.replicate 30 (.step 1))).map fun (_, t) =>
        ((reported t.store 1).map ReportDocument.lifecycleCounts == some [(py "RESOLVED", 1)]) &&
          ((reported t.store 2).map ReportDocument.lifecycleCounts == some []) &&
          (t.store.recordedCounts 1 == [(py "NEW", 1)]) && (t.store.recordedCounts 2 == [(py "RESOLVED", 1)])) =
            some true := by
    decide +kernel
  obtain ⟨⟨trace, t⟩, ran, checks⟩ := Option.map_eq_some_iff.mp replayed
  simp only [Bool.and_eq_true, beq_iff_eq] at checks
  obtain ⟨⟨⟨first, second⟩, recorded⟩, recorded'⟩ := checks
  obtain ⟨doc, made, counts⟩ := Option.map_eq_some_iff.mp first
  obtain ⟨doc', made', counts'⟩ := Option.map_eq_some_iff.mp second
  exact ⟨trace, t, doc, doc', replayRun ran, reportedIs made, reportedIs made', recorded, counts, recorded', counts'⟩

end SentinelGpt
