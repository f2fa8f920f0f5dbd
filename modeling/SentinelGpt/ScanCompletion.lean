import SentinelGpt.ScanRuns

/-! That a scan which is over stays so, and has the time of its end. -/
namespace SentinelGpt
open ReadCommitted

def Scan.isStamped (scan : Scan) : Prop := scan.completedAt.isSome = scan.status.isTerminal

def Db.stamped (db : Db) : Prop := ∀ s scan, db.scan? s = some scan → scan.isStamped

def Write.stamps : Write → Prop
  | .transition _ target _ completedAt => completedAt.isSome = target.isTerminal
  | _ => True

section Writes
variable {db : Db} {s : Nat} {ws : List Write} {scan : Scan}

theorem movedStamped {target : ScanStatus} {startedAt completedAt : Option Time} (stamped : scan.isStamped)
    (stamps : completedAt.isSome = target.isTerminal) (may : scan.status.mayMove target = true) :
    (scan.moved target startedAt completedAt).isStamped := by
  -- A scan that moves is not over, and has no end yet.
  have unended : scan.completedAt = none := by
    cases terminal : scan.status.isTerminal with
    | true => rw [ScanStatus.terminalStays terminal] at may; contradiction
    | false =>
      rw [Scan.isStamped, terminal] at stamped
      simpa using stamped
  simpa [Scan.isStamped, Scan.moved, unended] using stamps

theorem stampedSeen {ms : List (ScanStatus × ScanStatus)} (found : db.scan? s = some scan)
    (stamped : scan.isStamped) (stamps : ∀ w ∈ ws, w.stamps)
    (targets : ws.filterMap (Write.targetOf s) = ms.map Prod.snd)
    (follows : Follows (some scan.status) ms) (may : ∀ m ∈ ms, m.1.mayMove m.2 = true) :
    ∃ last, (seen db ws).scan? s = some last ∧ last.isStamped := by
  induction ws generalizing db scan ms with
  | nil => exact ⟨scan, found, stamped⟩
  | cons w rest ih =>
    rw [seen, viewCons]
    have later : ∀ w ∈ rest, w.stamps := fun w member => stamps w (List.mem_cons_of_mem _ member)
    cases w with
    | transition id target startedAt completedAt =>
      have row := Db.scanTransition db id s target startedAt completedAt
      rw [found, Option.map_some] at row
      by_cases same : id = s
      · subst same
        rw [if_pos rfl] at row
        have first : Write.targetOf id (.transition id target startedAt completedAt) = some target :=
          if_pos rfl
        rw [List.filterMap_cons_some first] at targets
        cases ms with
        | nil => contradiction
        | cons m ms =>
          obtain ⟨rfl, others⟩ := List.cons.inj targets
          obtain ⟨source, next⟩ := m
          obtain ⟨here, follows⟩ := follows
          cases here
          have stamp := stamps _ List.mem_cons_self
          exact ih row (movedStamped stamped stamp (may _ List.mem_cons_self)) later others follows
            fun m member => may m (List.mem_cons_of_mem _ member)
      · rw [if_neg (Ne.symm same)] at row
        rw [List.filterMap_cons_none (by simp [Write.targetOf, same])] at targets
        exact ih row stamped later targets follows may
    | insertScan row =>
      have same : (Write.effect db (.insertScan row)).scan? s = some scan := by
        simp only [Db.scan?] at found
        simp [Db.scan?, Write.effect, List.find?_append, found]
      exact ih same stamped later targets follows may
    | _ => exact ih found stamped later targets follows may

end Writes

theorem stagedFrom {log : Log} {w : Write} (member : w ∈ staged log) :
    ∃ site db writes, .exec site db writes ∈ log ∧ w ∈ writes := by
  induction log using List.reverseRecOn with
  | nil => contradiction
  | append_singleton log e ih =>
    rw [stagedSnoc] at member
    have before : w ∈ staged log → ∃ site db writes, .exec site db writes ∈ log ++ [e] ∧ w ∈ writes := by
      intro old
      obtain ⟨site, db, writes, there, here⟩ := ih old
      exact ⟨site, db, writes, List.mem_append_left _ there, here⟩
    cases e with
    | exec site db writes =>
      rcases List.mem_append.mp member with old | new
      · exact before old
      · exact ⟨site, db, writes, by simp, new⟩
    | call site => exact before member
    | _ => contradiction

theorem soundStamps {scan : Option Nat} {db : Db} {writes : List Write} (sound : Sound scan db writes) :
    ∀ w ∈ writes, w.stamps := by
  have quiet : ∀ w : Write, w.isTransition = false → w.stamps := by
    intro w other
    cases w with
    | transition id target startedAt completedAt => contradiction
    | _ => trivial
  cases scan with
  | none => exact fun w member => quiet w (sound w member)
  | some s =>
    rcases sound with ⟨source, target, startedAt, completedAt, rfl, -, -, stamped⟩ | keeps
    · intro w member
      rw [List.mem_singleton.mp member]
      exact stamped
    · exact fun w member => quiet w (keepsNoTransition (keeps w member))

section Runs
variable {requests : List Request} {store : Db} {trace after : Trace} {t u : System Db Write Site PyError}
  {i s : Nat} {r : Request} {site : Site}

theorem stagedStamps (run : Run scanRows (requested requests store) trace t) :
    ∀ w ∈ staged (own i trace), w.stamps := by
  intro w member
  obtain ⟨site, db, writes, there, here⟩ := stagedFrom member
  obtain ⟨-, owed, -⟩ := requestsKeep run
  obtain ⟨log, owes⟩ := alongEachMem owed there
  have sound : SoundEvent (scanOf requests i) (.exec site db writes) := soundOf owes
  exact soundStamps sound w here

theorem absentStamped {scan : Scan} (committed : Commits requests store trace t i r site)
    (absent : t.store.scan? s = none) (found : (seen t.store (staged (own i trace))).scan? s = some scan) :
    scan.isStamped := by
  have gone : t.store.statusOf s = none := by rw [Db.statusOf, absent]; rfl
  cases on : r.scan? with
  | some s' =>
    have still := statusAbsent gone (committed.inserts s' on)
    rw [Db.statusOf, found] at still
    contradiction
  | none =>
    have form := committed.other on
    generalize staged (own i trace) = ws at form found
    generalize commits (own i trace) = cs at form
    cases form with
    | revoked other => exact absurd (absent.symm.trans found) (by simp)
    | @admitted row entry named queued other covers =>
      have new : (seen t.store [.insertScan row, .insertAudit entry]).scan? s =
          (Write.effect t.store (.insertScan row)).scan? s := rfl
      rw [new, Db.scan?, Write.effect, List.find?_append] at found
      rw [Db.scan?] at absent
      simp only [absent, Option.none_or, List.find?_cons, List.find?_nil] at found
      split at found
      · cases found
        simp [Scan.isStamped, queued, ScanStatus.isTerminal]
      · contradiction

theorem stampedRun (start : store.stamped) (run : Run scanRows (requested requests store) trace t) :
    t.store.stamped := by
  refine commitRun (I := fun _ db => db.stamped) start (fun _ _ _ _ _ stamped => stamped) ?_ run
  intro trace t i r site committed stamped s scan found
  cases before : t.store.scan? s with
  | none => exact absentStamped committed before found
  | some old =>
    have here : t.store.statusOf s = some old.status := by rw [Db.statusOf, before]; rfl
    have may : ∀ m ∈ moves s (own i trace), m.1.mayMove m.2 = true := by
      by_cases none : moves s (own i trace) = []
      · simp [none]
      · exact (committedMoves (committed.form (committed.mine s none))).1
    obtain ⟨last, there, ended⟩ := stampedSeen before (stamped s old before)
      (stagedStamps committed.run) (committed.targets s) (here ▸ committed.follows s) may
    rw [found] at there
    cases there
    exact ended

theorem runAppend (run : Run scanRows (requested requests store) trace t)
    (later : Run scanRows t after u) : Run scanRows (requested requests store) (trace ++ after) u := by
  induction later with
  | nil =>
    rw [List.append_nil]
    exact run
  | snoc m before moved ih =>
    rw [← List.append_assoc]
    exact .snoc m ih moved

/- In every state reached the time of its end is set exactly on a scan whose status is
terminal, and whatever happens later this status stays. -/
theorem endedForGood (start : store.stamped) (run : Run scanRows (requested requests store) trace t) :
    (∀ s scan, t.store.scan? s = some scan → (scan.completedAt ≠ none ↔ scan.status.isTerminal = true)) ∧
      ∀ after u, Run scanRows t after u → ∀ s status, t.store.statusOf s = some status →
        status.isTerminal = true → u.store.statusOf s = some status := by
  constructor
  · intro s scan found
    have stamped := stampedRun start run s scan found
    rw [← stamped, Option.isSome_iff_ne_none]
  · intro after u later s status here terminal
    induction later with
    | nil => exact here
    | snoc m before moved ih =>
      have stores := storesOf (runAppend run before) moved
      generalize System.store _ = db at stores ⊢
      cases stores with
      | quiet other => exact ih
      | commits committed =>
        rw [committed.status (by simp [ih]), committed.terminalUnmoved ih terminal, lastStatusNil, ih]

end Runs

/-! A scan that is cancelled before its job. -/

def endedRequests : List Request :=
  [.cancel (plainEnv (Python.onAscii []) 2 (plainPipeline answeredResult) noFault) (some 1) 1,
   .task (plainEnv (Python.onAscii []) 3 (plainPipeline answeredResult) noFault) 1]

theorem cancelledForGood :
    ∃ trace t after u, Run scanRows (requested endedRequests queuedDb) trace t ∧
      Run scanRows t after u ∧ allReturned u = true ∧ u.store.statusOf 1 = some .cancelled := by
  have replayed : ((replay scanRows (requested endedRequests queuedDb)
      (List.replicate 8 (.step 0))).bind fun (_, t) =>
        (replay scanRows t (List.replicate 4 (.step 1))).map fun (_, u) =>
          t.store.statusOf 1 == some .cancelled && allReturned u) = some true := by
    decide +kernel
  obtain ⟨⟨trace, t⟩, ran, more⟩ := Option.bind_eq_some_iff.mp replayed
  obtain ⟨⟨after, u⟩, later, checks⟩ := Option.map_eq_some_iff.mp more
  simp only [Bool.and_eq_true, beq_iff_eq] at checks
  have start : queuedDb.stamped := by
    intro s scan found
    obtain rfl := List.mem_singleton.mp (List.mem_of_find?_eq_some found)
    rfl
  obtain ⟨-, stays⟩ := endedForGood start (replayRun ran)
  exact ⟨trace, t, after, u, replayRun ran, replayRun later, checks.2,
    stays after u (replayRun later) 1 .cancelled checks.1 rfl⟩

end SentinelGpt
