import SentinelGpt.TaskEnds

/-! What the operations on one scan, one after another, leave in the store: the rows of
the scan itself, and either nothing of what a scan records or all of it. -/
namespace SentinelGpt
open ReadCommitted

def Env.During (env : Env) (low high : Time) : Prop :=
  ∀ site i, low < env.clock site i ∧ env.clock site i ≤ high

def storedResult (env : Env) (db : Db) (scan : Scan) : Option HttpAnalysisResult :=
  if (raised (earlyHazards env db scan)).isSome then none else analysed env db scan

inductive Operation where
  | task (env : Env)
  | backgroundJob (env : Env)
  | cancel (env : Env) (principal : Option Nat)

namespace Operation

def env : Operation → Env
  | .task env | .backgroundJob env | .cancel env _ => env

def program (scanId : Nat) : Operation → Prog Unit
  | .task env => executeScanJobTask env scanId
  | .backgroundJob env => buildBackgroundJob env scanId
  | .cancel env principal => cancelRequest env principal scanId

def run (scanId : Nat) (operation : Operation) (db : Db) : Db :=
  (solo Write.effect (operation.program scanId) db []).store

def job? : Operation → Option Env
  | .task env | .backgroundJob env => some env
  | .cancel _ _ => none

def givenSettings : Operation → Bool
  | .backgroundJob env => (env.fault .settings).isNone
  | _ => true

end Operation

/- A write of the operations on a scan between two times: of all scans it changes this
one only, and an end has its time. -/
def Write.Concerns (scanId : Nat) (low high : Time) : Write → Prop
  | .insertScan _ => False
  | .transition id target _ completedAt => id = scanId ∧ target ≠ .queued ∧
      (target.isTerminal = true → completedAt.isSome = true) ∧
      ∀ t, completedAt = some t → low < t ∧ t ≤ high
  | _ => True

section Rows
variable {scanId : Nat} {low high : Time}

theorem concernsQuiet {w : Write} (keeps : w.keepsScans = true) : w.Concerns scanId low high := by
  cases w <;> trivial

theorem concernsAll (ws : List Write) (keeps : ws.all Write.keepsScans = true) :
    ∀ w ∈ ws, w.Concerns scanId low high :=
  fun w member => concernsQuiet (List.all_eq_true.mp keeps w member)

theorem concernsEnd {env : Env} (during : env.During low high) (site : Site) {target : ScanStatus}
    (other : target ≠ .queued) :
    (Write.transition scanId target none (some (env.now site))).Concerns scanId low high := by
  refine ⟨rfl, other, fun _ => rfl, ?_⟩
  rintro t ⟨⟩
  exact during site 0

theorem concernsOpen {target : ScanStatus} (startedAt : Option Time) (other : target ≠ .queued)
    (running : target.isTerminal = false) :
    (Write.transition scanId target startedAt none).Concerns scanId low high :=
  ⟨rfl, other, fun terminal => by simp [running] at terminal, fun t some => by contradiction⟩

variable {db : Db} {ws : List Write} (own : ∀ w ∈ ws, w.Concerns scanId low high)
include own

theorem leftStays (left : db.statusOf scanId ≠ some .queued) :
    (seen db ws).statusOf scanId ≠ some .queued := by
  induction ws generalizing db with
  | nil => exact left
  | cons w rest ih =>
    obtain ⟨here, there⟩ := List.forall_mem_cons.mp own
    rw [seen, viewCons]
    refine ih there ?_
    cases w with
    | insertScan row => exact here.elim
    | transition id target startedAt completedAt =>
      obtain ⟨rfl, other, -, -⟩ := here
      rw [Db.statusTransition]
      cases db.statusOf id <;> simp [other]
    | _ => exact left

theorem otherScan {id : Nat} (other : id ≠ scanId) : (seen db ws).scan? id = db.scan? id := by
  induction ws generalizing db with
  | nil => rfl
  | cons w rest ih =>
    obtain ⟨here, there⟩ := List.forall_mem_cons.mp own
    rw [seen, viewCons, ih there]
    cases w with
    | insertScan row => exact here.elim
    | transition id target startedAt completedAt =>
      obtain ⟨rfl, -, -, -⟩ := here
      simp [Db.scanTransition, other]
    | _ => rfl

theorem otherRow {s : Scan} (member : s ∈ (seen db ws).scans) (other : s.id ≠ scanId) :
    s ∈ db.scans := by
  induction ws generalizing db with
  | nil => exact member
  | cons w rest ih =>
    obtain ⟨here, there⟩ := List.forall_mem_cons.mp own
    rw [seen, viewCons] at member
    have before := ih there member
    cases w with
    | insertScan row => exact here.elim
    | transition id target startedAt completedAt =>
      obtain ⟨rfl, -, -, -⟩ := here
      obtain ⟨row, old, same⟩ := List.mem_map.mp before
      by_cases moved : row.id = id
      · rw [if_pos moved] at same
        rw [← same] at other
        exact absurd moved other
      · rw [if_neg moved] at same
        rwa [← same]
    | _ => exact before

theorem endsBounded {targetId : Nat}
    (before : ∀ s ∈ db.scans, s.targetId = targetId → ∀ t, s.completedAt = some t → t ≤ high) :
    ∀ s ∈ (seen db ws).scans, s.targetId = targetId → ∀ t, s.completedAt = some t → t ≤ high := by
  induction ws generalizing db with
  | nil => exact before
  | cons w rest ih =>
    obtain ⟨here, there⟩ := List.forall_mem_cons.mp own
    rw [seen, viewCons]
    refine ih there ?_
    cases w with
    | insertScan row => exact here.elim
    | transition id target startedAt completedAt =>
      obtain ⟨-, -, -, bound⟩ := here
      intro s member same t ended
      obtain ⟨row, old, rfl⟩ := List.mem_map.mp member
      by_cases moved : row.id = id
      · rw [if_pos moved] at same ended
        cases completedAt with
        | none => exact before row old same t ended
        | some c => exact (bound t ended).2
      · rw [if_neg moved] at same ended
        exact before row old same t ended
    | _ => exact before

theorem ownRow {scan : Scan} (found : db.scan? scanId = some scan)
    (ended : scan.status.isTerminal = true → scan.completedAt.isSome = true)
    (after : ∀ t, scan.completedAt = some t → low < t) :
    ∃ last, (seen db ws).scan? scanId = some last ∧ last.targetId = scan.targetId ∧
      (last.status.isTerminal = true → last.completedAt.isSome = true) ∧
      ∀ t, last.completedAt = some t → low < t := by
  induction ws generalizing db scan with
  | nil => exact ⟨scan, found, rfl, ended, after⟩
  | cons w rest ih =>
    obtain ⟨here, there⟩ := List.forall_mem_cons.mp own
    rw [seen, viewCons]
    cases w with
    | insertScan row => exact here.elim
    | transition id target startedAt completedAt =>
      obtain ⟨rfl, -, timed, bound⟩ := here
      have moved : (Write.effect db (.transition id target startedAt completedAt)).scan? id =
          some (scan.moved target startedAt completedAt) := by
        rw [Db.scanTransition, found]
        simp
      have closed : target.isTerminal = true → (scan.moved target startedAt completedAt).completedAt.isSome
          = true := by
        intro terminal
        obtain ⟨c, rfl⟩ := Option.isSome_iff_exists.mp (timed terminal)
        rfl
      have later : ∀ t, (scan.moved target startedAt completedAt).completedAt = some t → low < t := by
        intro t last
        cases completedAt with
        | none => exact after t last
        | some c => exact (bound t last).1
      have rest := ih there moved closed later
      exact rest
    | _ => exact ih there found ended after

end Rows

section Episodes
variable {start db : Db} {scan : Scan} {low high : Time}

/- The store after some operations on a scan that was queued at the start, of which one at
most has stored what the scan found. -/
inductive Episode (ok : Env → Db → Scan → Prop) (start : Db) (scan : Scan) (low high : Time) :
    Db → Prop where
  | waiting : Episode ok start scan low high start
  | silent (ws : List Write) (own : ∀ w ∈ ws, w.Concerns scan.id low high)
      (left : (seen start ws).statusOf scan.id ≠ some .queued)
      (keeps : ws.all Write.keepsFindings = true) : Episode ok start scan low high (seen start ws)
  | observed (ws : List Write) (env : Env) (execution : ScanEngineExecution)
      (result : HttpAnalysisResult) (own : ∀ w ∈ ws, w.Concerns scan.id low high)
      (left : (seen start ws).statusOf scan.id ≠ some .queued) (during : env.During low high)
      (may : ok env start scan) (stored : storedResult env start scan = some result)
      (findings : (seen start ws).findings =
        start.findings ++ persistedRows env scan execution result start)
      (history : (seen start ws).history = start.history ++
        recordedHistory env scan (foundNow env scan result start)
          (withFindings env scan execution result start)) :
      Episode ok start scan low high (seen start ws)

variable {ok : Env → Db → Scan → Prop}

namespace Episode

theorem goesOn {ws : List Write} (episode : Episode ok start scan low high db)
    (own : ∀ w ∈ ws, w.Concerns scan.id low high) (keeps : ws.all Write.keepsFindings = true)
    (left : (seen db ws).statusOf scan.id ≠ some .queued) :
    Episode ok start scan low high (seen db ws) := by
  have both : ∀ before : List Write, (∀ w ∈ before, w.Concerns scan.id low high) →
      ∀ w ∈ before ++ ws, w.Concerns scan.id low high := fun before owned w member =>
    (List.mem_append.mp member).elim (owned w) (own w)
  cases episode with
  | waiting => exact .silent ws own left keeps
  | silent before owned gone kept =>
    rw [seenAppend] at left ⊢
    exact .silent _ (both before owned) left (by rw [List.all_append, kept, keeps]; rfl)
  | observed before env execution result owned gone during may stored findings history =>
    have same := findingsKept keeps (seen start before)
    rw [seenAppend] at left same ⊢
    exact .observed _ env execution result (both before owned) left during may stored
      (same.1.trans findings) (same.2.trans history)

theorem stays {ws : List Write} (episode : Episode ok start scan low high db)
    (own : ∀ w ∈ ws, w.Concerns scan.id low high) (keeps : ws.all Write.keepsFindings = true)
    (gone : db.statusOf scan.id ≠ some .queued) : Episode ok start scan low high (seen db ws) :=
  episode.goesOn own keeps (leftStays own gone)

theorem own (episode : Episode ok start scan low high db) :
    ∃ ws, (∀ w ∈ ws, w.Concerns scan.id low high) ∧ db = seen start ws := by
  cases episode with
  | waiting => exact ⟨[], by simp, rfl⟩
  | silent ws own => exact ⟨ws, own, rfl⟩
  | observed ws env execution result own => exact ⟨ws, own, rfl⟩

theorem queuedWaits (episode : Episode ok start scan low high db)
    (queued : db.statusOf scan.id = some .queued) : db = start := by
  cases episode with
  | waiting => rfl
  | silent ws own left => exact absurd queued left
  | observed ws env execution result own left => exact absurd queued left

end Episode

variable {env : Env}

theorem startOwn : ∀ w ∈ startRows env scan, w.Concerns scan.id low high := by
  intro w member
  simp only [startRows, List.mem_cons, List.not_mem_nil, or_false] at member
  rcases member with rfl | rfl
  · exact concernsOpen _ (by decide) rfl
  · trivial

theorem analysedOwn (result : HttpAnalysisResult) :
    ∀ w ∈ analysedRows env start scan result, w.Concerns scan.id low high := by
  intro w member
  simp only [analysedRows, List.mem_append] at member
  rcases member with started | audited | completed
  · exact startOwn w started
  · exact concernsAll (auditedRows env scan) rfl w audited
  · simp only [completeRows, List.mem_cons, List.not_mem_nil, or_false] at completed
    rcases completed with rfl | rfl | rfl | rfl | rfl | rfl
    · trivial
    · trivial
    · trivial
    · trivial
    · exact concernsOpen _ (by decide) rfl
    · exact concernsOpen _ (by decide) rfl

theorem analysedStores (result : HttpAnalysisResult) :
    (seen start (analysedRows env start scan result)).findings =
        start.findings ++ persistedRows env scan (jobExecution env scan) result start ∧
      (seen start (analysedRows env start scan result)).history = start.history ++
        recordedHistory env scan (foundNow env scan result start)
          (withFindings env scan (jobExecution env scan) result start) :=
  ⟨rfl, rfl⟩

theorem jobEpisode {scanId : Nat} (during : env.During low high) (may : ok env start scan) (found : start.scan? scanId = some scan)
    (queued : scan.status = .queued) :
    Episode ok start scan low high (solo Write.effect (runScanJob env scanId) start []).store := by
  have same : scan.id = scanId := by
    have := List.find?_some found
    simpa using this
  have here : start.statusOf scan.id = some .queued := by
    rw [Db.statusOf, same, found]
    exact congrArg some queued
  have present : (start.statusOf scan.id).isSome = true := by rw [here]; rfl
  have ended : JobEnd env start scan _ _ := jobEnds found queued
  revert ended
  generalize (solo Write.effect (runScanJob env scanId) start []).store = last
  generalize (solo Write.effect (runScanJob env scanId) start []).result = outcome
  intro ended
  have analysedEpisode : ∀ result, raised (earlyHazards env start scan) = none →
      analysed env start scan = some result →
      Episode ok start scan low high (seen start (analysedRows env start scan result)) := by
    intro result early gets
    have stored : storedResult env start scan = some result := by
      rw [storedResult, early]
      exact gets
    exact .observed _ env (jobExecution env scan) result (analysedOwn result)
      (by rw [analysedStatus here]; decide) during may stored (analysedStores result).1
      (analysedStores result).2
  cases ended with
  | refused early => exact .waiting
  | stuck early =>
    exact .silent _ startOwn (by rw [startedRunning here]; decide) rfl
  | unauthorized early none =>
    refine .silent _ ?_ (by rw [movedLast present]; decide) rfl
    intro w member
    simp only [List.mem_append, List.mem_cons, List.not_mem_nil, or_false] at member
    rcases member with (rfl | row) | rfl
    · exact concernsOpen _ (by decide) rfl
    · exact concernsAll (rejectRows env scan) rfl w row
    · exact concernsEnd during _ (by decide)
  | failed exc early none =>
    refine .silent _ ?_ (by rw [← List.append_assoc, movedLast present]; decide) rfl
    intro w member
    simp only [List.mem_append, List.mem_cons, List.not_mem_nil, or_false] at member
    rcases member with row | row | rfl
    · exact startOwn w row
    · exact concernsAll (failRows env scan (jobExecution env scan) exc) rfl w row
    · exact concernsEnd during _ (by decide)
  | unassessed early gets late => exact analysedEpisode _ early gets
  | reported early gets late quiet terminal =>
    rename_i result row final
    have notQueued : final ≠ .queued := by
      rintro rfl
      contradiction
    have keeps : [row, .transition scan.id final none (some (env.now .finalTransition))].all
        Write.keepsFindings = true := by
      have kept := quiet.2
      simp only [List.all_cons, List.all_nil, Bool.and_true] at kept ⊢
      rw [kept]
      rfl
    rw [← seenAppend]
    refine (analysedEpisode result early gets).stays ?_ keeps (by rw [analysedStatus here]; decide)
    intro w member
    simp only [List.mem_cons, List.not_mem_nil, or_false] at member
    rcases member with rfl | rfl
    · exact concernsAll _ quiet.1 _ (by simp)
    · exact concernsEnd during _ notQueued

theorem idleJob {scanId : Nat} (other : db.statusOf scanId ≠ some .queued) :
    (solo Write.effect (runScanJob env scanId) db []).store = db := by
  have settings : Passes Write.effect (env.attempt .settings) db [] (env.faults [.settings]) db []
      () := passesAttempt _
  have gets : Passes Write.effect (getById env .getScan scanId) db [] (env.faults [.getScan]) db []
      (db.scan? scanId) := passesRead _ _
  rw [runScanJob, soloSession]
  rcases settings.thenRuns (fun _ => executeScanJob env scanId) with ⟨e, -, kept, -⟩ | ⟨-, goes⟩
  · exact kept
  rw [goes, executeScanJob]
  rcases gets.thenRuns (runFound env) with ⟨e, -, kept, -⟩ | ⟨-, goes⟩
  · exact kept
  rw [goes]
  cases found : db.scan? scanId with
  | none => rfl
  | some scan =>
    have same : scan.id = scanId := by
      have := List.find?_some found
      simpa using this
    rw [← same] at other
    have claim : Passes Write.effect (claimScan env scan) db [] (env.faults [.statusIds, .claim]) db []
        false := (passesRead _ _).bind (passesNoTransition _ _ _ _ other)
    rw [runFound]
    rcases claim.thenRuns (fun claimed => if claimed = true then runClaimed env scan else return ()) with
      ⟨e, -, kept, -⟩ | ⟨-, goes⟩
    · exact kept
    · rw [goes]
      rfl

theorem handlerEpisode {reason : PyStr} (during : env.During low high) {row : Scan}
    (episode : Episode ok start scan low high db) (found : db.scan? scan.id = some row) :
    Episode ok start scan low high (solo Write.effect (markScanRejected env scan.id reason) db []).store := by
  have same : row.id = scan.id := by
    have := List.find?_some found
    simpa using this
  have here : db.statusOf scan.id = some row.status := by rw [Db.statusOf, found]; rfl
  obtain ⟨sites, -, passes⟩ : ∃ sites, sites ⊆ handlerSites ∧ Passes Write.effect
    (do markFound env reason (← getById env .markGetScan scan.id)) db [] (env.faults sites) _ [] () :=
    passesHandler reason found
  rw [markScanRejected, soloSession]
  cases stops : raised (env.faults sites) with
  | some e =>
    rw [(passes.stopped e stops).1]
    exact episode
  | none =>
    rw [passes.ended stops]
    have moves : ∀ w ∈ handlerMoves env row row.status, w.Concerns scan.id low high := by
      rw [← same]
      generalize row.status = status
      cases status <;> simp only [handlerMoves, List.mem_cons, List.not_mem_nil, or_false,
        forall_eq, false_imp_iff, implies_true]
      · exact concernsEnd during _ (by decide)
      · exact concernsEnd during _ (by decide)
    have crash : ∀ source, (crashRows env row reason source).all Write.keepsScans = true ∧
        (crashRows env row reason source).all Write.keepsFindings = true := fun _ => ⟨rfl, rfl⟩
    have own : ∀ w ∈ handlerRows env row reason row.status, w.Concerns scan.id low high := by
      intro w member
      rcases List.mem_append.mp member with moved | recorded
      · exact moves w moved
      · split at recorded
        · contradiction
        · exact concernsAll _ (crash _).1 w recorded
    have keeps : (handlerRows env row reason row.status).all Write.keepsFindings = true := by
      generalize row.status = status
      cases status <;> rfl
    refine episode.goesOn own keeps ?_
    by_cases queued : row.status = .queued
    · have rejected : (seen db (handlerRows env row reason row.status)).statusOf scan.id =
          some .rejected := by
        rw [queued, ← same] at here
        have kept := statusKept (crash .queued).1 (seen db (handlerMoves env row .queued)) scan.id
        rw [queued, handlerRows, ← seenAppend]
        refine kept.trans ?_
        rw [← same]
        simp [handlerMoves, seen, viewCons, here]
      rw [rejected]
      decide
    · refine leftStays own ?_
      rw [here]
      simpa using queued

def cancelRow (env : Env) (scanId : Nat) : Write :=
  .transition scanId .cancelled none (some (env.now .cancelTransition))

theorem cancelWrites (env : Env) (principal : Option Nat) (scanId : Nat) :
    Meets (writesOnly fun w => w = cancelRow env scanId) (cancelRequest env principal scanId)
      fun _ => True := by
  have reads : ∀ {α : Type} (site : Site) (result : Db → α), Meets
      (writesOnly fun w => w = cancelRow env scanId) (env.read site result) fun _ => True :=
    fun site result => statementMeets (fun _ _ w member => by simp at member) fun _ => trivial
  have gets : Meets (writesOnly fun w => w = cancelRow env scanId)
      (getById env (.cancelGetScan scanId) scanId)
      fun found => ∀ scan, found = some scan → scan.id = scanId := by
    refine statementMeets (fun _ _ w member => by simp at member) fun db scan found => ?_
    have := List.find?_some found
    simpa using this
  have visible : Meets (writesOnly fun w => w = cancelRow env scanId)
      (getVisibleScan env (.cancelGetScan scanId) principal scanId) fun scan => scan.id = scanId := by
    refine .bind gets fun found same => ?_
    cases found with
    | none => exact .raise
    | some scan =>
      simp only
      split
      · exact .raise
      · exact .pure (same scan rfl)
  have details : ∀ scan, Meets (writesOnly fun w => w = cancelRow env scanId)
      (details env .cancelDetails .cancelProfile scan) fun _ => True := by
    refine fun scan => .bind (reads _ _) fun _ _ => .bind (reads _ _) fun profile _ => ?_
    cases profile with
    | none => exact .raise
    | some entry => exact .pure trivial
  have body : Meets (writesOnly fun w => w = cancelRow env scanId) (cancelScan env principal scanId)
      fun _ => True := by
    refine .bind visible fun scan same => .bind (reads _ _) fun current _ => ?_
    split
    · exact .raise
    · refine .bind (reads _ _) fun _ _ => ?_
      have moves : Meets (writesOnly fun w => w = cancelRow env scanId) (tryTransition env
          .cancelTransition scan.id current .cancelled none (some (env.now .cancelTransition)))
          fun _ => True := by
        refine statementMeets (fun log db w member => ?_) fun _ => trivial
        rw [same] at member
        split at member
        · exact List.mem_singleton.mp member
        · simp at member
      refine .bind moves fun moved _ => ?_
      split
      · exact details _
      · exact .raise
  exact .session (fun _ => trivial) (.bind body fun _ _ => commitMeets _ fun _ => trivial)

theorem cancelEpisode {principal : Option Nat} (during : env.During low high)
    (episode : Episode ok start scan low high db) (present : (db.statusOf scan.id).isSome = true) :
    Episode ok start scan low high
      (solo Write.effect (cancelRequest env principal scan.id) db []).store := by
  obtain ⟨ws, only, same⟩ : ∃ ws, (∀ w ∈ ws, w = cancelRow env scan.id) ∧
      (solo Write.effect (cancelRequest env principal scan.id) db []).store = view Write.effect db ws :=
    soloWrites (cancelWrites env principal scan.id []) db (by simp)
  rw [same]
  rcases List.eq_nil_or_concat ws with rfl | ⟨before, last, rfl⟩
  · exact episode
  rw [List.concat_eq_append] at only ⊢
  have final : last = cancelRow env scan.id := only last (by simp)
  refine episode.goesOn (fun w member => ?_) (List.all_eq_true.mpr fun w member => ?_) ?_
  · rw [only w member]
    exact concernsEnd during _ (by decide)
  · rw [only w member]
    rfl
  · rw [final, cancelRow, movedLast present]
    decide

theorem operationEpisode {operation : Operation} (during : operation.env.During low high)
    (given : operation.givenSettings = true) (queued : scan.status = .queued)
    (found : start.scan? scan.id = some scan)
    (may : ∀ env row, operation.job? = some env → db.scan? scan.id = some row →
      row.status = .queued → ok env db row)
    (episode : Episode ok start scan low high db) :
    Episode ok start scan low high (operation.run scan.id db) := by
  have here : start.statusOf scan.id = some .queued := by
    rw [Db.statusOf, found]
    exact congrArg some queued
  have present : ∀ {db}, Episode ok start scan low high db → (db.statusOf scan.id).isSome = true := by
    intro db episode
    obtain ⟨ws, -, rfl⟩ := episode.own
    exact scanStays (by rw [here]; rfl) ws
  have runs : ∀ env, operation.job? = some env → env.During low high → Episode ok start scan low high
      (solo Write.effect (runScanJob env scan.id) db []).store := by
    intro env job during
    by_cases waits : db.statusOf scan.id = some .queued
    · obtain rfl := episode.queuedWaits waits
      exact jobEpisode during (may env scan job found queued) found queued
    · rw [idleJob waits]
      exact episode
  cases operation with
  | cancel env principal => exact cancelEpisode during episode (present episode)
  | backgroundJob env =>
    have same : buildBackgroundJob env scan.id = runScanJob env scan.id := by
      have free : env.fault .settings = none := by simpa [Operation.givenSettings] using given
      rw [buildBackgroundJob, runScanJob, Env.attempt, free]
      rfl
    rw [Operation.run, Operation.program, same]
    exact runs env rfl during
  | task env =>
    have job := runs env rfl during
    have handled : ∀ reason, Episode ok start scan low high (solo Write.effect
        (markScanRejected env scan.id reason)
        (solo Write.effect (runScanJob env scan.id) db []).store []).store := by
      intro reason
      obtain ⟨row, found⟩ := Option.isSome_iff_exists.mp (present job)
      rw [Db.statusOf, Option.map_eq_some_iff] at found
      obtain ⟨row, found, -⟩ := found
      exact handlerEpisode during job found
    rw [Operation.run, Operation.program, taskSolo]
    split
    · exact job
    · split
      · exact job
      · exact handled _

end Episodes

end SentinelGpt
