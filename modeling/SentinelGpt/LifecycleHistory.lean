import SentinelGpt.ScanEpisodes
import SentinelGpt.LifecycleRecord
import SentinelGpt.LifecycleWords

/-! The lifecycle history of one target over any number of its scans, executed one after
another: what is recorded of a fingerprint is a lifecycle word, as long as no scan finds
a fingerprint that is open and that the scan just before it has not found. -/
namespace SentinelGpt
open ReadCommitted

section Newest
variable {α : Type} {time : α → Time}

theorem newestSome {rows : List α} (some : rows ≠ []) : newest time rows ≠ none := by
  cases rows with
  | nil => contradiction
  | cons row rest =>
    unfold newest
    split
    · exact Option.some_ne_none row
    · split <;> exact Option.some_ne_none _

theorem newestSpec {rows : List α} {best : α} (found : newest time rows = some best) :
    best ∈ rows ∧ ∀ row ∈ rows, time row ≤ time best := by
  induction rows generalizing best with
  | nil => contradiction
  | cons row rest ih =>
    unfold newest at found
    cases later : newest time rest with
    | none =>
      rw [later] at found
      obtain rfl := Option.some.inj found
      have empty : rest = [] := by
        by_contra some
        exact newestSome some later
      simp [empty]
    | some last =>
      obtain ⟨member, bound⟩ := ih later
      simp only [later] at found
      split at found
      · rename_i earlier
        obtain rfl := Option.some.inj found
        exact ⟨List.mem_cons_of_mem row member, List.forall_mem_cons.mpr ⟨earlier, bound⟩⟩
      · rename_i later
        obtain rfl := Option.some.inj found
        have after := Nat.le_of_not_le later
        exact ⟨List.mem_cons_self, List.forall_mem_cons.mpr
          ⟨Nat.le_refl _, fun row member => (bound row member).trans after⟩⟩

theorem newestSnoc {rows : List α} {row : α} (last : ∀ r ∈ rows, time r ≤ time row) :
    newest time (rows ++ [row]) = some row := by
  induction rows with
  | nil => rfl
  | cons r rest ih =>
    obtain ⟨here, there⟩ := List.forall_mem_cons.mp last
    rw [List.cons_append, newest, ih there]
    exact if_pos here

end Newest

/-! The sequences of scans. -/

inductive Operations (ok : Env → Db → Scan → Prop) (scanId : Nat) (low high : Time) (start : Db) :
    Db → Prop where
  | none : Operations ok scanId low high start start
  | next {db : Db} (before : Operations ok scanId low high start db) (operation : Operation)
      (during : operation.env.During low high) (given : operation.givenSettings = true)
      (may : ∀ env row, operation.job? = some env → db.scan? scanId = some row →
        row.status = .queued → ok env db row) :
      Operations ok scanId low high start (operation.run scanId db)

structure Unobserved (db : Db) (scan : Scan) : Prop where
  ended : scan.completedAt = none
  findings : ∀ f ∈ db.findings, f.scanId ≠ some scan.id
  history : ∀ row ∈ db.history, row.observedInScanId ≠ scan.id

/- Scans of a target, executed one after another; scans may be queued at any time. The
parent of a scan, if it has one, is the scan executed just before it, which `ok` may
refer to as well. -/
inductive ScanSequence (ok : Option Nat → Env → Db → Scan → Prop) (targetId : Nat) :
    Time → Option Nat → Db → Prop where
  | start {now : Time} {db : Db}
      (unobserved : ∀ scan ∈ db.scans, scan.targetId = targetId → Unobserved db scan)
      (history : ∀ row ∈ db.history, row.targetId ≠ targetId) :
      ScanSequence ok targetId now none db
  | queue {now : Time} {previous : Option Nat} {db : Db} (before : ScanSequence ok targetId now previous db)
      (scan : Scan) (unobserved : Unobserved db scan) (new : ∀ row ∈ db.scans, row.id ≠ scan.id) :
      ScanSequence ok targetId now previous (Write.effect db (.insertScan scan))
  | execute {now later : Time} {previous : Option Nat} {start db : Db} {scan : Scan}
      (before : ScanSequence ok targetId now previous start) (time : now ≤ later)
      (found : start.scan? scan.id = some scan) (target : scan.targetId = targetId)
      (queued : scan.status = .queued)
      (parent : ∀ id, scan.parentScanId = some id → previous = some id)
      (ran : Operations (ok previous) scan.id now later start db)
      (ended : (db.statusOf scan.id).any ScanStatus.isTerminal = true) :
      ScanSequence ok targetId later (some scan.id) db

def Db.wordOf (db : Db) (targetId : Nat) (fingerprint : PyStr) : List LifecycleStatus :=
  (db.historyOf targetId fingerprint).map FindingStatusHistory.status

/- Where the job stores findings, those that are open are findings of the scan before. -/
def Continues (previous : Option Nat) (env : Env) (db : Db) (scan : Scan) : Prop :=
  ∀ result, storedResult env db scan = some result → ∀ fp ∈ foundNow env scan result db,
    (db.latestStatus scan.targetId fp).any LifecycleStatus.isOpen = true →
      fp ∈ db.fingerprintsIfAny previous

theorem recordedStep {w : List LifecycleStatus} (word : RecordedWord w) {inCurrent inPrevious : Bool}
    (known : inPrevious = true → w.getLast?.any LifecycleStatus.isOpen = true)
    (continues : inCurrent = true → w.getLast?.any LifecycleStatus.isOpen = true → inPrevious = true) :
    RecordedWord (w ++ (deriveLifecycleStatus inCurrent inPrevious w.getLast?).toList) := by
  cases word with
  | none =>
    cases inPrevious with
    | true => exact absurd (known rfl) (by decide)
    | false => cases inCurrent with
      | true => exact .opened .new
      | false => exact .none
  | opened word =>
    obtain ⟨status, last, open_⟩ := openLast word
    have stillOpen : w.getLast?.any LifecycleStatus.isOpen = true := by rw [last]; exact open_
    cases inCurrent with
    | true =>
      rw [continues rfl stillOpen]
      exact .opened word.persistent
    | false => cases inPrevious with
      | true => exact .resolved word
      | false => simpa [deriveLifecycleStatus] using .opened word
  | resolved word =>
    rename_i w
    have closed : ((w ++ [LifecycleStatus.resolved]).getLast?.any LifecycleStatus.isOpen) = false := by
      rw [List.getLast?_concat]
      rfl
    cases inPrevious with
    | true => exact absurd (known rfl) (by rw [closed]; decide)
    | false => cases inCurrent with
      | true =>
        have again : RecordedWord (w ++ [.resolved, .regressed]) := .opened word.regressed
        simpa [deriveLifecycleStatus, List.getLast?_concat] using again
      | false => simpa [deriveLifecycleStatus] using RecordedWord.resolved word

theorem foundIsOpen {w : List LifecycleStatus} {inPrevious : Bool} :
    (w ++ (deriveLifecycleStatus true inPrevious w.getLast?).toList).getLast?.any
      LifecycleStatus.isOpen = true := by
  have some : (deriveLifecycleStatus true inPrevious w.getLast?).isSome = true := by
    rw [derivedSomeIff]
    rfl
  obtain ⟨status, derived⟩ := Option.isSome_iff_exists.mp some
  rw [derived, Option.toList_some, List.getLast?_concat]
  exact derivedOpenIff derived

/- The history of a target: lifecycle words whose last status is the newest. -/
structure Tracked (db : Db) (targetId : Nat) (now : Time) : Prop where
  words : ∀ fp, RecordedWord (db.wordOf targetId fp)
  latest : ∀ fp, db.latestStatus targetId fp = (db.wordOf targetId fp).getLast?
  times : ∀ row ∈ db.history, row.targetId = targetId → row.effectiveAt ≤ now
  once : ∀ id fp, ((db.historyOf targetId fp).filter fun row => row.observedInScanId == id).length ≤ 1

section Recording
variable {db last : Db} {targetId : Nat} {now later : Time} {env : Env} {scan : Scan}
  {current previous : List PyStr} {latest : PyStr → Option LifecycleStatus}

theorem historyAppend (target : scan.targetId = targetId)
    (history : last.history = db.history ++ lifecycleRows env scan current previous latest) (fp : PyStr) :
    last.historyOf targetId fp = db.historyOf targetId fp ++
      (lifecycleRows env scan current previous latest).filter fun row => row.fingerprint == fp := by
  rw [Db.historyOf, Db.historyOf, history, List.filter_append]
  congr 1
  refine List.filter_congr fun row member => ?_
  obtain ⟨same, -, -, -⟩ := memRecorded env scan current previous latest member
  simp [same, target]

theorem recordedOnce (fp : PyStr) :
    ((lifecycleRows env scan current previous latest).filter fun row => row.fingerprint == fp) =
      [] ∧ (fp ∉ current ++ previous) ∨
    ∃ row, ((lifecycleRows env scan current previous latest).filter fun row =>
        row.fingerprint == fp) = [row] ∧
      derivedFor current previous latest fp = some row.status := by
  have statuses := recordedStatuses env scan current previous latest fp
  by_cases considered : fp ∈ current ++ previous
  · have some : (derivedFor current previous latest fp).isSome = true := by
      rw [derivedFor, derivedSomeIff]
      simpa using considered
    obtain ⟨status, derived⟩ := Option.isSome_iff_exists.mp some
    rw [if_pos considered, derived, Option.toList_some] at statuses
    obtain ⟨row, only, same⟩ := List.map_eq_singleton_iff.mp statuses
    exact .inr ⟨row, only, by rw [derived, same]⟩
  · rw [if_neg considered, List.map_eq_nil_iff] at statuses
    exact .inl ⟨statuses, considered⟩

theorem recordedAt (during : env.During now later) {row : FindingStatusHistory}
    (member : row ∈ lifecycleRows env scan current previous latest) :
    now < row.effectiveAt ∧ row.effectiveAt ≤ later := by
  rw [lifecycleRows, List.reduceOption_mem_iff] at member
  obtain ⟨i, bound, made⟩ := List.mem_mapIdx.mp member
  simp only [lifecycleRow, Option.map_eq_some_iff] at made
  obtain ⟨status, -, rfl⟩ := made
  exact during .recordLifecycle i

theorem wordAppend (target : scan.targetId = targetId)
    (history : last.history = db.history ++ lifecycleRows env scan current previous latest) (fp : PyStr) :
    last.wordOf targetId fp =
      db.wordOf targetId fp ++ (derivedFor current previous latest fp).toList := by
  rw [Db.wordOf, historyAppend target history, List.map_append, recordedStatuses]
  congr 1
  split
  · rfl
  · rename_i other
    have none : (derivedFor current previous latest fp).isSome = false := by
      rw [derivedFor, derivedSomeIff]
      simpa using other
    rw [Option.isSome_eq_false_iff, Option.isNone_iff_eq_none] at none
    rw [none]
    rfl

theorem trackedRecords (tracked : Tracked db targetId now) (target : scan.targetId = targetId)
    (time : now ≤ later) (during : env.During now later)
    (history : last.history = db.history ++ lifecycleRows env scan current previous latest)
    (reads : latest = db.latestStatus targetId)
    (fresh : ∀ row ∈ db.history, row.observedInScanId ≠ scan.id)
    (known : ∀ fp ∈ previous, (db.latestStatus targetId fp).any LifecycleStatus.isOpen = true)
    (continues : ∀ fp ∈ current, (db.latestStatus targetId fp).any LifecycleStatus.isOpen = true →
      fp ∈ previous) : Tracked last targetId later where
  words fp := by
    subst reads
    rw [wordAppend target history, derivedFor, tracked.latest]
    refine recordedStep (tracked.words fp) (fun found => ?_) (fun found open_ => ?_)
    · rw [← tracked.latest]
      exact known fp (List.contains_iff_mem.mp found)
    · rw [← tracked.latest] at open_
      exact List.contains_iff_mem.mpr (continues fp (List.contains_iff_mem.mp found) open_)
  latest fp := by
    have before := tracked.latest fp
    rw [Db.latestStatus] at before ⊢
    rw [Db.wordOf] at before ⊢
    rw [historyAppend target history]
    rcases @recordedOnce env scan current previous latest fp with ⟨none, -⟩ | ⟨row, only, -⟩
    · rw [none, List.append_nil]
      exact before
    · rw [only, List.map_append, newestSnoc]
      · simp
      · intro r member
        obtain ⟨old, named⟩ := List.mem_filter.mp member
        simp only [Bool.and_eq_true, beq_iff_eq] at named
        have new : row ∈ lifecycleRows env scan current previous latest := by
          have here : row ∈ [row] := List.mem_singleton_self row
          rw [← only] at here
          exact (List.mem_filter.mp here).1
        exact (tracked.times r old named.1).trans (recordedAt during new).1.le
  times row member same := by
    rw [history] at member
    rcases List.mem_append.mp member with old | new
    · exact (tracked.times row old same).trans time
    · exact (recordedAt during new).2
  once id fp := by
    have before := tracked.once id fp
    rw [historyAppend target history, List.filter_append]
    rcases @recordedOnce env scan current previous latest fp with ⟨none, -⟩ | ⟨row, only, -⟩
    · rw [none]
      simpa using before
    · rw [only]
      by_cases same : id = scan.id
      · have none : ((db.historyOf targetId fp).filter fun row => row.observedInScanId == id) = [] := by
          refine List.filter_eq_nil_iff.mpr fun r member => ?_
          have other := fresh r (List.mem_filter.mp member).1
          simp [same, other]
        rw [none, List.nil_append]
        exact List.length_filter_le _ [row]
      · have new : row ∈ lifecycleRows env scan current previous latest := by
          have here : row ∈ [row] := List.mem_singleton_self row
          rw [← only] at here
          exact (List.mem_filter.mp here).1
        obtain ⟨-, observed, -, -⟩ := memRecorded env scan current previous latest new
        simpa [observed, Ne.symm same] using before

end Recording

structure Ordered (db : Db) (targetId : Nat) (now : Time) (previous : Option Nat) : Prop where
  ended : ∀ s ∈ db.scans, s.targetId = targetId → ∀ t, s.completedAt = some t → t ≤ now
  unobserved : ∀ id s, db.scan? id = some s → s.targetId = targetId → s.status = .queued →
    Unobserved db s
  first : previous = none → ∀ s ∈ db.scans, s.targetId = targetId → s.completedAt = none
  last : ∀ id, previous = some id → ∃ s t, db.scan? id = some s ∧ s.targetId = targetId ∧
    s.status.isTerminal = true ∧ s.completedAt = some t ∧
    ∀ r ∈ db.scans, r.targetId = targetId → r.id ≠ id → ∀ u, r.completedAt = some u → u < t
  known : ∀ id, previous = some id → ∀ fp ∈ db.fingerprintsForScan id,
    (db.latestStatus targetId fp).any LifecycleStatus.isOpen = true

theorem memCompleted {db : Db} {targetId current : Nat} {entry : Nat × Time} :
    entry ∈ db.completedScans targetId current ↔ ∃ s ∈ db.scans, s.targetId = targetId ∧
      s.id ≠ current ∧ s.id = entry.1 ∧ s.completedAt = some entry.2 := by
  simp only [Db.completedScans, List.mem_filterMap, List.mem_filter, Option.map_eq_some_iff,
    Bool.and_eq_true, beq_iff_eq, bne_iff_ne, Prod.ext_iff]
  grind

section Sequences
variable {db start : Db} {targetId : Nat} {now later : Time} {previous : Option Nat} {scan : Scan}

theorem queuedIsNotLast (ordered : Ordered start targetId now previous)
    (found : start.scan? scan.id = some scan) (queued : scan.status = .queued) :
    previous ≠ some scan.id := by
  intro same
  obtain ⟨s, t, last, -, terminal, -⟩ := ordered.last scan.id same
  rw [found] at last
  obtain rfl := Option.some.inj last
  rw [queued] at terminal
  contradiction

theorem comparedIsLast (ordered : Ordered start targetId now previous)
    (found : start.scan? scan.id = some scan) (target : scan.targetId = targetId)
    (queued : scan.status = .queued) (parent : ∀ id, scan.parentScanId = some id → previous = some id) :
    start.comparedScan scan = previous := by
  rw [Db.comparedScan]
  cases given : scan.parentScanId with
  | some id => exact (parent id given).symm
  | none =>
    rw [Option.none_or, Db.mostRecentCompleted, target]
    cases before : previous with
    | none =>
      have empty : start.completedScans targetId scan.id = [] := by
        refine List.eq_nil_iff_forall_not_mem.mpr fun entry member => ?_
        obtain ⟨s, here, same, -, -, ended⟩ := memCompleted.mp member
        rw [ordered.first before s here same] at ended
        contradiction
      rw [empty]
      rfl
    | some id =>
      obtain ⟨s, t, last, same, -, ended, newer⟩ := ordered.last id before
      have other : id ≠ scan.id := fun same =>
        queuedIsNotLast ordered found queued (before.trans (congrArg some same))
      have member : (id, t) ∈ start.completedScans targetId scan.id :=
        memCompleted.mpr ⟨s, List.mem_of_find?_eq_some last, same, by rwa [scanIdOf last],
          scanIdOf last, ended⟩
      cases best : newest Prod.snd (start.completedScans targetId scan.id) with
      | none => exact absurd best (newestSome (List.ne_nil_of_mem member))
      | some entry =>
        obtain ⟨here, newest⟩ := newestSpec best
        obtain ⟨r, there, sameTarget, -, named, endedAt⟩ := memCompleted.mp here
        by_contra wrong
        have older := newer r there sameTarget (fun same => wrong (by simp [← named, same])) entry.2 endedAt
        exact Nat.lt_irrefl _ (older.trans_le (newest _ member))

theorem orderedEpisode (ordered : Ordered start targetId now previous) (time : now ≤ later)
    (found : start.scan? scan.id = some scan) (target : scan.targetId = targetId)
    (queued : scan.status = .queued) {ws : List Write} (own : ∀ w ∈ ws, w.Concerns scan.id now later)
    (ended : ((seen start ws).statusOf scan.id).any ScanStatus.isTerminal = true)
    (findings : ∀ f ∈ (seen start ws).findings, f ∈ start.findings ∨ f.scanId = some scan.id)
    (history : ∀ row ∈ (seen start ws).history, row ∈ start.history ∨ row.observedInScanId = scan.id)
    (known : ∀ fp ∈ (seen start ws).fingerprintsForScan scan.id,
      ((seen start ws).latestStatus targetId fp).any LifecycleStatus.isOpen = true) :
    Ordered (seen start ws) targetId later (some scan.id) where
  ended := endsBounded own fun s member same t at_ => (ordered.ended s member same t at_).trans time
  unobserved id s here same waits := by
    by_cases self : id = scan.id
    · rw [Db.statusOf, ← self, here, Option.map_some, waits] at ended
      contradiction
    rw [otherScan own self] at here
    have before := ordered.unobserved id s here same waits
    have other : s.id ≠ scan.id := by rwa [scanIdOf here]
    refine ⟨before.ended, fun f member => ?_, fun row member => ?_⟩
    · rcases findings f member with old | new
      · exact before.findings f old
      · rw [new]
        simpa using Ne.symm other
    · rcases history row member with old | new
      · exact before.history row old
      · rw [new]
        exact Ne.symm other
  first none := by contradiction
  last id same := by
    obtain rfl := Option.some.inj same
    have before := ordered.unobserved scan.id scan found target queued
    obtain ⟨last, here, sameTarget, timed, after⟩ := ownRow own found
      (fun terminal => by rw [queued] at terminal; contradiction)
      (fun t at_ => by rw [before.ended] at at_; contradiction)
    rw [Db.statusOf, here, Option.map_some, Option.any_some] at ended
    obtain ⟨t, at_⟩ := Option.isSome_iff_exists.mp (timed ended)
    refine ⟨last, t, here, sameTarget.trans target, ended, at_, fun r member same other u ends => ?_⟩
    have old := ordered.ended r (otherRow own member other) same u ends
    exact Nat.lt_of_le_of_lt old (after t at_)
  known id same := by
    obtain rfl := Option.some.inj same
    exact known

theorem operationsEpisode {ok : Env → Db → Scan → Prop} (queued : scan.status = .queued)
    (found : start.scan? scan.id = some scan) (ran : Operations ok scan.id now later start db) :
    Episode ok start scan now later db := by
  induction ran with
  | none => exact .waiting
  | next before operation during given may ih => exact operationEpisode during given queued found may ih

theorem trackedSame (tracked : Tracked start targetId now) (time : now ≤ later)
    (same : db.history = start.history) : Tracked db targetId later := by
  have rows : ∀ fp, db.historyOf targetId fp = start.historyOf targetId fp := fun fp => by
    rw [Db.historyOf, Db.historyOf, same]
  have words : ∀ fp, db.wordOf targetId fp = start.wordOf targetId fp := fun fp => by
    rw [Db.wordOf, Db.wordOf, rows]
  exact {
    words := fun fp => words fp ▸ tracked.words fp
    latest := fun fp => by
      rw [Db.latestStatus, rows, words]
      exact tracked.latest fp
    times := fun row member at_ => (tracked.times row (same ▸ member) at_).trans time
    once := fun id fp => rows fp ▸ tracked.once id fp }

theorem comparedKnown (ordered : Ordered start targetId now previous)
    (compared : start.comparedScan scan = previous) {fp : PyStr}
    (member : fp ∈ start.comparedFingerprints scan) :
    (start.latestStatus targetId fp).any LifecycleStatus.isOpen = true := by
  rw [Db.comparedFingerprints, compared] at member
  cases before : previous with
  | none =>
    rw [before] at member
    contradiction
  | some id =>
    rw [before] at member
    exact ordered.known id before fp member

theorem episodeKept (tracked : Tracked start targetId now) (ordered : Ordered start targetId now previous)
    (time : now ≤ later) (found : start.scan? scan.id = some scan) (target : scan.targetId = targetId)
    (queued : scan.status = .queued) (parent : ∀ id, scan.parentScanId = some id → previous = some id)
    (episode : Episode (Continues previous) start scan now later db)
    (ended : (db.statusOf scan.id).any ScanStatus.isTerminal = true) :
    Tracked db targetId later ∧ Ordered db targetId later (some scan.id) := by
  have fresh := ordered.unobserved scan.id scan found target queued
  have unfound : start.fingerprintsForScan scan.id = [] := by
    have none : (start.findings.filter fun f => f.scanId == some scan.id) = [] := by
      refine List.filter_eq_nil_iff.mpr fun f member => ?_
      simpa using fresh.findings f member
    rw [Db.fingerprintsForScan, none]
    rfl
  cases episode with
  | waiting =>
    rw [Db.statusOf, found, Option.map_some, queued] at ended
    contradiction
  | silent ws own left keeps =>
    obtain ⟨findings, history⟩ := findingsKept keeps start
    refine ⟨trackedSame tracked time history, orderedEpisode ordered time found target queued own ended
      (fun f member => .inl (findings ▸ member)) (fun row member => .inl (history ▸ member)) ?_⟩
    intro fp member
    rw [Db.fingerprintsForScan, findings] at member
    rw [Db.fingerprintsForScan] at unfound
    rw [unfound] at member
    contradiction
  | observed ws env execution result own left during may stored findings history =>
    have compared := comparedIsLast ordered found target queued parent
    have added : ∀ fp, fp ∈ (withFindings env scan execution result start).comparedFingerprints scan ↔
        fp ∈ start.comparedFingerprints scan := by
      intro fp
      rw [comparedAdded, compared]
      simp [queuedIsNotLast ordered found queued]
    have reads : (withFindings env scan execution result start).latestStatus scan.targetId =
        start.latestStatus targetId := by
      rw [← target]
      rfl
    rw [recordedHistory, reads] at history
    have kept : Tracked (seen start ws) targetId later :=
      trackedRecords tracked target time during history rfl fresh.history
        (fun fp member => comparedKnown ordered compared ((added fp).mp member))
        (fun fp member open_ => (added fp).mpr (by
          rw [Db.comparedFingerprints, compared]
          exact may result stored fp member (by rwa [target])))
    refine ⟨kept, orderedEpisode ordered time found target queued own ended ?_ ?_ ?_⟩
    · intro f member
      rw [findings] at member
      rcases List.mem_append.mp member with old | new
      · exact .inl old
      · exact .inr (persistedOwned new)
    · intro row member
      rw [history] at member
      rcases List.mem_append.mp member with old | new
      · exact .inl old
      · exact .inr (memRecorded env scan _ _ _ new).2.1
    · intro fp member
      have same : (seen start ws).fingerprintsForScan scan.id =
          (withFindings env scan execution result start).fingerprintsForScan scan.id := by
        rw [Db.fingerprintsForScan, findings]
        rfl
      rw [same, fingerprintsAdded, unfound, if_pos rfl, List.nil_append] at member
      rw [kept.latest, wordAppend target history, derivedFor, List.contains_iff_mem.mpr member,
        tracked.latest]
      exact foundIsOpen

/- Every sequence of scans keeps the history of its target tracked. -/
theorem sequenceKept (sequence : ScanSequence Continues targetId now previous db) :
    Tracked db targetId now ∧ Ordered db targetId now previous := by
  induction sequence with
  | start unobserved history =>
    rename_i now db
    have none : ∀ fp, db.historyOf targetId fp = [] := fun fp =>
      List.filter_eq_nil_iff.mpr fun row member => by simp [history row member]
    constructor
    · exact {
        words := fun fp => by rw [Db.wordOf, none]; exact .none
        latest := fun fp => by rw [Db.latestStatus, Db.wordOf, none]; rfl
        times := fun row member same => absurd same (history row member)
        once := fun id fp => by rw [none]; exact Nat.zero_le 1 }
    · exact {
        ended := fun s member same t at_ => by
          rw [(unobserved s member same).ended] at at_
          contradiction
        unobserved := fun id s here same _ => unobserved s (List.mem_of_find?_eq_some here) same
        first := fun _ s member same => (unobserved s member same).ended
        last := fun id some => by contradiction
        known := fun id some => by contradiction }
  | queue before scan unobserved new ih =>
    rename_i now previous db
    obtain ⟨tracked, ordered⟩ := ih
    have rows : ∀ s ∈ (Write.effect db (.insertScan scan)).scans, s ∈ db.scans ∨ s = scan := fun s member =>
      (List.mem_append.mp member).imp_right List.mem_singleton.mp
    refine ⟨trackedSame tracked (Nat.le_refl now) rfl, ?_⟩
    exact {
      ended := fun s member same t at_ => by
        rcases rows s member with old | rfl
        · exact ordered.ended s old same t at_
        · rw [unobserved.ended] at at_
          contradiction
      unobserved := fun id s here same queued => by
        rw [Db.scan?, Write.effect, List.find?_append] at here
        cases old : db.scan? id with
        | some row =>
          rw [← Db.scan?, old, Option.some_or] at here
          obtain rfl := Option.some.inj here
          have kept := ordered.unobserved id row old same queued
          exact ⟨kept.ended, kept.findings, kept.history⟩
        | none =>
          rw [← Db.scan?, old, Option.none_or] at here
          obtain rfl := List.mem_singleton.mp (List.mem_of_find?_eq_some here)
          exact ⟨unobserved.ended, unobserved.findings, unobserved.history⟩
      first := fun none s member same => by
        rcases rows s member with old | rfl
        · exact ordered.first none s old same
        · exact unobserved.ended
      last := fun id some => by
        obtain ⟨s, t, last, same, terminal, at_, newer⟩ := ordered.last id some
        refine ⟨s, t, ?_, same, terminal, at_, fun r member target other u ends => ?_⟩
        · rw [Db.scan?, Write.effect, List.find?_append, ← Db.scan?, last, Option.some_or]
        · rcases rows r member with old | rfl
          · exact newer r old target other u ends
          · rw [unobserved.ended] at ends
            contradiction
      known := ordered.known }
  | execute before time found target queued parent ran ended ih =>
    obtain ⟨tracked, ordered⟩ := ih
    exact episodeKept tracked ordered time found target queued parent
      (operationsEpisode queued found ran) ended

/- In every sequence of scans whose jobs continue the history they find, what is recorded
of a fingerprint is a lifecycle word, with NEW at most once, REGRESSED only directly after
RESOLVED, and one row at most from each scan. -/
theorem sequencesRecordWords (sequence : ScanSequence Continues targetId now previous db) (fp : PyStr) :
    (db.wordOf targetId fp = [] ∨ db.wordOf targetId fp ∈ lifecyclePattern.matches') ∧
      (db.wordOf targetId fp).count .new ≤ 1 ∧
      RegressedAfterResolved (db.wordOf targetId fp) ∧
      ∀ id, ((db.historyOf targetId fp).filter fun row => row.observedInScanId == id).length ≤ 1 := by
  obtain ⟨tracked, -⟩ := sequenceKept sequence
  have word := tracked.words fp
  exact ⟨recordedMatches word, recordedNewOnce word, recordedRegressed word, fun id => tracked.once id fp⟩

end Sequences

def scanned (id : Nat) (operation : Operation) (db : Db) : Db :=
  operation.run id (Write.effect db (.insertScan (queuedScan id none)))

def unscannedDb : Db := { queuedDb with scans := [] }

theorem unscannedStart (ok : Option Nat → Env → Db → Scan → Prop) : ScanSequence ok 1 0 none unscannedDb :=
  .start (by simp [unscannedDb]) (by simp [unscannedDb, queuedDb])

theorem nextScan {ok : Option Nat → Env → Db → Scan → Prop} {now : Time} {previous : Option Nat} {db : Db}
    (before : ScanSequence ok 1 now previous db) (id : Nat) (operation : Operation)
    (during : operation.env.During now (now + 1)) (given : operation.givenSettings = true)
    (new : db.scan? id = none ∧ (∀ f ∈ db.findings, f.scanId ≠ some id) ∧
      ∀ row ∈ db.history, row.observedInScanId ≠ id)
    (may : ∀ env, operation.job? = some env →
      ok previous env (Write.effect db (.insertScan (queuedScan id none))) (queuedScan id none))
    (ended : ((scanned id operation db).statusOf id).any ScanStatus.isTerminal = true) :
    ScanSequence ok 1 (now + 1) (some id) (scanned id operation db) := by
  obtain ⟨unknown, findings, history⟩ := new
  have queued : ScanSequence ok 1 now previous (Write.effect db (.insertScan (queuedScan id none))) := by
    refine .queue before (queuedScan id none) ⟨rfl, findings, history⟩ fun row member same => ?_
    have none := List.find?_eq_none.mp unknown row member
    simp [same, queuedScan] at none
  have found : (Write.effect db (.insertScan (queuedScan id none))).scan? id =
      some (queuedScan id none) := by
    rw [Db.scan?] at unknown
    simp [Db.scan?, Write.effect, List.find?_append, unknown, queuedScan]
  have orphan : ∀ parent, (queuedScan id none).parentScanId = some parent → previous = some parent :=
    fun parent some => absurd some (Option.some_ne_none parent).symm
  have jobs : ∀ env row, operation.job? = some env →
      (Write.effect db (.insertScan (queuedScan id none))).scan? id = some row →
      row.status = .queued → ok previous env (Write.effect db (.insertScan (queuedScan id none))) row := by
    intro env row job here _
    rw [found] at here
    rw [← Option.some.inj here]
    exact may env job
  have ran : Operations (ok previous) id now (now + 1) (Write.effect db (.insertScan (queuedScan id none)))
      (scanned id operation db) := .next .none operation during given jobs
  exact .execute queued (Nat.le_succ now) found rfl rfl orphan ran ended

def continues (previous : Option Nat) (env : Env) (db : Db) (scan : Scan) : Bool :=
  (storedResult env db scan).all fun result => (foundNow env scan result db).all fun fp =>
    !(db.latestStatus scan.targetId fp).any LifecycleStatus.isOpen ||
      (db.fingerprintsIfAny previous).contains fp

theorem continuesIff (previous : Option Nat) (env : Env) (db : Db) (scan : Scan) :
    continues previous env db scan = true ↔ Continues previous env db scan := by
  unfold continues Continues
  cases storedResult env db scan with
  | none => simp
  | some result =>
    simp only [Option.all_some, List.all_eq_true, Bool.or_eq_true, Bool.not_eq_true',
      List.contains_iff_mem, Option.some.injEq, forall_eq']
    refine forall₂_congr fun fp _ => ?_
    cases (db.latestStatus scan.targetId fp).any LifecycleStatus.isOpen <;> simp

def taskAt (time : Time) (result : HttpAnalysisResult) : Operation := .task (envOf time result)

def cancelAt (time : Time) : Operation := .cancel (envOf time answeredResult) (some 1)

theorem taskDuring (time : Time) (result : HttpAnalysisResult) :
    (taskAt (time + 1) result).env.During time (time + 1) :=
  fun _ _ => ⟨Nat.lt_succ_self time, Nat.le_refl _⟩

theorem cancelDuring (time : Time) : (cancelAt (time + 1)).env.During time (time + 1) :=
  fun _ _ => ⟨Nat.lt_succ_self time, Nat.le_refl _⟩

def scannedOnce : Db := scanned 1 (taskAt 1 missingHstsResult) unscannedDb
def scannedTwice : Db := scanned 2 (taskAt 2 answeredResult) scannedOnce
def scannedThrice : Db := scanned 3 (cancelAt 3) scannedTwice
def scannedAgain : Db := scanned 4 (taskAt 4 missingHstsResult) scannedThrice

theorem onceScanned (ok : Option Nat → Env → Db → Scan → Prop)
    (may : ok none (envOf 1 missingHstsResult)
      (Write.effect unscannedDb (.insertScan (queuedScan 1 none))) (queuedScan 1 none)) :
    ScanSequence ok 1 1 (some 1) scannedOnce :=
  nextScan (unscannedStart ok) 1 (taskAt 1 missingHstsResult) (taskDuring 0 _) rfl (by decide)
    (fun env some => Option.some.inj some ▸ may) (by decide +kernel)

theorem againScanned : ScanSequence Continues 1 4 (some 4) scannedAgain := by
  have once := onceScanned Continues ((continuesIff _ _ _ _).mp (by decide +kernel))
  have twice : ScanSequence Continues 1 2 (some 2) scannedTwice :=
    nextScan once 2 (taskAt 2 answeredResult) (taskDuring 1 _) rfl (by decide +kernel)
      (fun env some => Option.some.inj some ▸ (continuesIff _ _ _ _).mp (by decide +kernel))
      (by decide +kernel)
  have thrice : ScanSequence Continues 1 3 (some 3) scannedThrice :=
    nextScan twice 3 (cancelAt 3) (cancelDuring 2) rfl (by decide +kernel)
      (fun env some => absurd some (Option.some_ne_none env).symm) (by decide +kernel)
  exact nextScan thrice 4 (taskAt 4 missingHstsResult) (taskDuring 3 _) rfl (by decide +kernel)
    (fun env some => Option.some.inj some ▸ (continuesIff _ _ _ _).mp (by decide +kernel))
    (by decide +kernel)

theorem missingHstsRegresses :
    (scannedAgain.wordOf 1 missingHstsDigest = [] ∨
        scannedAgain.wordOf 1 missingHstsDigest ∈ lifecyclePattern.matches') ∧
      scannedAgain.wordOf 1 missingHstsDigest = [.new, .resolved, .regressed] :=
  ⟨(sequencesRecordWords againScanned missingHstsDigest).1, by decide +kernel⟩

/- The same finding is new again after a scan that was cancelled while it was queued. -/
theorem newAfterCancelled :
    (∃ now previous db, ScanSequence (fun _ _ _ _ => True) 1 now previous db ∧
      db.wordOf 1 missingHstsDigest = [.new, .new]) ∧
      [LifecycleStatus.new, .new] ∉ lifecyclePattern.matches' := by
  have once := onceScanned (fun _ _ _ _ => True) trivial
  have cancelled : ScanSequence (fun _ _ _ _ => True) 1 2 (some 2) (scanned 2 (cancelAt 2) scannedOnce) :=
    nextScan once 2 (cancelAt 2) (cancelDuring 1) rfl (by decide +kernel) (fun _ _ => trivial)
      (by decide +kernel)
  have again : ScanSequence (fun _ _ _ _ => True) 1 3 (some 3)
      (scanned 3 (taskAt 3 missingHstsResult) (scanned 2 (cancelAt 2) scannedOnce)) :=
    nextScan cancelled 3 (taskAt 3 missingHstsResult) (taskDuring 2 _) rfl (by decide +kernel)
      (fun _ _ => trivial) (by decide +kernel)
  refine ⟨⟨3, some 3, _, again, by decide +kernel⟩, ?_⟩
  rw [← RegularExpression.rmatch_iff_matches']
  decide

end SentinelGpt
