import SentinelGpt.JobStages
import SentinelGpt.TransactionSpecs

/-! The moves of a scan from status to status that a transaction has staged, and how they
stand to what is committed: the row stays locked, so that nothing comes in between. -/
namespace SentinelGpt
open ReadCommitted

abbrev Log := List (Event Db Write Site)

abbrev Trace := List (Nat × Event Db Write Site)

def ScanStatus.mayMove : ScanStatus → ScanStatus → Bool
  | .queued, .running | .queued, .rejected | .running, .rejected | .running, .scanComplete
  | .scanComplete, .aiAnalysis | .aiAnalysis, .reportReady | .aiAnalysis, .reportReadyDegraded => true
  | source, .cancelled => !source.isTerminal && source != .running
  | _, _ => false

theorem ScanStatus.neverQueued (source : ScanStatus) : source.mayMove .queued = false := by
  cases source <;> rfl

theorem ScanStatus.terminalStays {source : ScanStatus} (terminal : source.isTerminal = true)
    (target : ScanStatus) : source.mayMove target = false := by
  cases source <;> first | contradiction | cases target <;> rfl

def Write.targetOf (s : Nat) : Write → Option ScanStatus
  | .transition id target _ _ => if id = s then some target else none
  | _ => none

def Write.isTransition : Write → Bool
  | .transition _ _ _ _ => true
  | _ => false

def moveOf (s : Nat) (db : Db) (writes : List Write) : List (ScanStatus × ScanStatus) :=
  (writes.filterMap (Write.targetOf s)).filterMap fun target =>
    (db.statusOf s).map fun source => (source, target)

def movesStep (s : Nat) (before : List (ScanStatus × ScanStatus)) :
    Event Db Write Site → List (ScanStatus × ScanStatus)
  | .exec _ db writes => before ++ moveOf s db writes
  | .call _ => before
  | .commit _ | .rollback | .crash => []

def moves (s : Nat) (log : Log) : List (ScanStatus × ScanStatus) := log.foldl (movesStep s) []

@[simp] theorem movesNil (s : Nat) : moves s [] = [] := rfl
@[simp] theorem movesSnoc (s : Nat) (log : Log) (e : Event Db Write Site) :
    moves s (log ++ [e]) = movesStep s (moves s log) e := by
  simp [moves]

def Follows : Option ScanStatus → List (ScanStatus × ScanStatus) → Prop
  | _, [] => True
  | status, (source, target) :: rest => status = some source ∧ Follows (some target) rest

def lastStatus (status : Option ScanStatus) (ms : List (ScanStatus × ScanStatus)) : Option ScanStatus :=
  ms.foldl (fun _ m => some m.2) status

@[simp] theorem lastStatusNil (status : Option ScanStatus) : lastStatus status [] = status := rfl
@[simp] theorem lastStatusSnoc (status : Option ScanStatus) (ms : List (ScanStatus × ScanStatus))
    (m : ScanStatus × ScanStatus) : lastStatus status (ms ++ [m]) = some m.2 := by
  simp [lastStatus]

theorem followsSnoc {status : Option ScanStatus} {ms : List (ScanStatus × ScanStatus)}
    {source target : ScanStatus} (follows : Follows status ms)
    (last : lastStatus status ms = some source) : Follows status (ms ++ [(source, target)]) := by
  induction ms generalizing status with
  | nil => exact ⟨last, trivial⟩
  | cons m rest ih => exact ⟨follows.1, ih follows.2 last⟩

theorem followsSome {status : Option ScanStatus} {ms : List (ScanStatus × ScanStatus)}
    (follows : Follows status ms) (some : ms ≠ []) : status.isSome = true := by
  cases ms with
  | nil => contradiction
  | cons m rest =>
    rw [follows.1]
    rfl

theorem followsTerminal {status : Option ScanStatus} {ms : List (ScanStatus × ScanStatus)}
    {m : ScanStatus × ScanStatus} (follows : Follows status ms)
    (may : ∀ m ∈ ms, m.1.mayMove m.2 = true) (member : m ∈ ms) (terminal : m.2.isTerminal = true) :
    lastStatus status ms = some m.2 := by
  induction ms generalizing status with
  | nil => contradiction
  | cons first rest ih =>
    have next : lastStatus status (first :: rest) = lastStatus (some first.2) rest := rfl
    rcases List.mem_cons.mp member with rfl | later
    · cases rest with
      | nil => rfl
      | cons second rest =>
        have blocked := may second (by simp)
        rw [← Option.some.inj follows.2.1, ScanStatus.terminalStays terminal] at blocked
        contradiction
    · rw [next]
      exact ih follows.2 (fun m here => may m (List.mem_cons_of_mem _ here)) later

/- One statement on a scan changes its status from the one its view had, or no scan; it sets
the time of the end with a status that ends the scan, and only then. -/
def StatusWrite (s : Nat) (db : Db) (writes : List Write) : Prop :=
  ∃ source target startedAt completedAt, writes = [.transition s target startedAt completedAt] ∧
    db.statusOf s = some source ∧ source.mayMove target = true ∧ completedAt.isSome = target.isTerminal

def Sound : Option Nat → Db → List Write → Prop
  | some s, db, writes => StatusWrite s db writes ∨ ∀ w ∈ writes, w.keepsScans = true
  | none, _, writes => ∀ w ∈ writes, w.isTransition = false

def SoundEvent (scan : Option Nat) : Event Db Write Site → Prop
  | .exec _ db writes => Sound scan db writes
  | _ => True

section Statuses
variable {db : Db} {s : Nat} {ws : List Write}

theorem targetsNone (none : ∀ w ∈ ws, w.isTransition = false) : ws.filterMap (Write.targetOf s) = [] := by
  refine List.filterMap_eq_nil_iff.mpr fun w member => ?_
  have kept := none w member
  cases w <;> first | rfl | contradiction

theorem keepsNoTransition {w : Write} (keeps : w.keepsScans = true) : w.isTransition = false := by
  cases w <;> first | rfl | contradiction

theorem statusAppended {row : Scan} (there : (db.statusOf s).isSome = true) :
    (Write.effect db (.insertScan row)).statusOf s = db.statusOf s := by
  rw [Db.statusOf, Option.isSome_map] at there
  obtain ⟨found, here⟩ := Option.isSome_iff_exists.mp there
  rw [Db.scan?] at here
  simp [Db.statusOf, Db.scan?, Write.effect, List.find?_append, here]

theorem statusSeen (there : (db.statusOf s).isSome = true) :
    (seen db ws).statusOf s = (ws.filterMap (Write.targetOf s)).foldl (fun _ target => some target)
      (db.statusOf s) := by
  induction ws generalizing db with
  | nil => rfl
  | cons w rest ih =>
    rw [seen, viewCons]
    cases w with
    | transition id target startedAt completedAt =>
      have moved : ((Write.effect db (.transition id target startedAt completedAt)).statusOf s) =
          if s = id then some target else db.statusOf s := by
        obtain ⟨status, here⟩ := Option.isSome_iff_exists.mp there
        rw [Db.statusTransition, here, Option.map_some]
        split <;> rfl
      rw [ih (by rw [moved]; split <;> simp [there]), moved]
      by_cases same : s = id
      · simp [Write.targetOf, same]
      · simp [Write.targetOf, same, Ne.symm same]
    | insertScan row =>
      rw [ih (by rw [statusAppended there]; exact there), statusAppended there]
      rfl
    | _ => exact ih there

theorem statusUnmoved (there : (db.statusOf s).isSome = true)
    (none : ws.filterMap (Write.targetOf s) = []) : (seen db ws).statusOf s = db.statusOf s := by
  rw [statusSeen there, none]
  rfl

theorem statusAbsent (absent : db.statusOf s = none) (inserts : ∀ row, Write.insertScan row ∉ ws) :
    (seen db ws).statusOf s = none := by
  induction ws generalizing db with
  | nil => exact absent
  | cons w rest ih =>
    rw [seen, viewCons]
    refine ih ?_ fun row member => inserts row (List.mem_cons_of_mem _ member)
    cases w with
    | insertScan row => exact absurd List.mem_cons_self (inserts row)
    | transition id target startedAt completedAt => rw [Db.statusTransition, absent]; rfl
    | _ => exact absent

end Statuses

section Sounds
variable {scan : Option Nat} {s : Nat} {db : Db} {writes : List Write}

theorem moveTargets (sound : Sound scan db writes) :
    (moveOf s db writes).map Prod.snd = writes.filterMap (Write.targetOf s) := by
  have none : writes.filterMap (Write.targetOf s) = [] → (moveOf s db writes).map Prod.snd =
      writes.filterMap (Write.targetOf s) := by
    intro empty
    simp [moveOf, empty]
  cases scan with
  | none => exact none (targetsNone sound)
  | some id =>
    rcases sound with ⟨source, target, startedAt, completedAt, rfl, here, -⟩ | keeps
    · by_cases same : id = s
      · subst same
        simp [moveOf, Write.targetOf, here]
      · exact none (by simp [Write.targetOf, same])
    · exact none (targetsNone fun w member => keepsNoTransition (keeps w member))

theorem moveCases (sound : Sound scan db writes) :
    moveOf s db writes = [] ∨ ∃ source target, scan = some s ∧ db.statusOf s = some source ∧
      moveOf s db writes = [(source, target)] ∧ source.mayMove target = true := by
  have none : writes.filterMap (Write.targetOf s) = [] → moveOf s db writes = [] := by
    intro empty
    simp [moveOf, empty]
  cases scan with
  | none => exact .inl (none (targetsNone sound))
  | some id =>
    rcases sound with ⟨source, target, startedAt, completedAt, rfl, here, may, -⟩ | keeps
    · by_cases same : id = s
      · subst same
        exact .inr ⟨source, target, rfl, here, by simp [moveOf, Write.targetOf, here], may⟩
      · exact .inl (none (by simp [Write.targetOf, same]))
    · exact .inl (none (targetsNone fun w member => keepsNoTransition (keeps w member)))

end Sounds

/- How the staged moves of scan `s` stand to the store, where client `i` is on the scan
`kind i`. -/
structure Followed (kind : Nat → Option Nat) (s : Nat) (trace : Trace)
    (t : System Db Write Site PyError) : Prop where
  follows : ∀ i c, t.clients[i]? = some c → Follows (t.store.statusOf s) (moves s (own i trace))
  targets : ∀ i c, t.clients[i]? = some c →
    c.pending.filterMap (Write.targetOf s) = (moves s (own i trace)).map Prod.snd
  mine : ∀ i c, t.clients[i]? = some c → moves s (own i trace) ≠ [] → kind i = some s
  inserts : ∀ i c id, t.clients[i]? = some c → kind i = some id →
    ∀ row, Write.insertScan row ∉ c.pending

section Runs
variable {kind : Nat → Option Nat} {s : Nat} {trace : Trace} {t u : System Db Write Site PyError}
  {i : Nat} {c : Client Db Write Site PyError} {e : Event Db Write Site}

theorem statusOfView (followed : Followed kind s trace t) (found : t.clients[i]? = some c)
    {id : Nat} (on : kind i = some id) :
    (seen t.store c.pending).statusOf s = lastStatus (t.store.statusOf s) (moves s (own i trace)) := by
  have targets := followed.targets i c found
  by_cases there : (t.store.statusOf s).isSome = true
  · rw [statusSeen there, targets, lastStatus, List.foldl_map]
  · have none : moves s (own i trace) = [] := by
      by_contra some
      exact there (followsSome (followed.follows i c found) some)
    have absent : t.store.statusOf s = Option.none := by simpa using there
    rw [none, lastStatusNil, absent, statusAbsent absent (followed.inserts i c id found on)]

theorem heldOnce (apart : Apart scanRows t) {j : Nat} {d : Client Db Write Site PyError}
    (other : j ≠ i) (found : t.clients[i]? = some c) (there : t.clients[j]? = some d)
    (holds : d.pending.filterMap (Write.targetOf s) ≠ []) :
    c.pending.filterMap (Write.targetOf s) = [] := by
  have locked : ∀ {ws : List Write}, ws.filterMap (Write.targetOf s) ≠ [] →
      RowKey.scan s ∈ ws.flatMap scanRows.locks := by
    intro ws some
    obtain ⟨target, member⟩ := List.exists_mem_of_ne_nil _ some
    obtain ⟨w, here, moves⟩ := List.mem_filterMap.mp member
    refine List.mem_flatMap.mpr ⟨w, here, ?_⟩
    cases w with
    | transition id target startedAt completedAt =>
      simp only [Write.targetOf, Option.ite_none_right_eq_some] at moves
      simp [scanRows, Write.locks, moves.1]
    | _ => contradiction
  by_contra some
  exact apart j i d c other there found _ (locked holds) (locked some)

theorem ownMoved : own i (trace ++ [(i, e)]) = own i trace ++ [e] := by
  rw [ownSnoc, if_pos rfl]

theorem ownUnmoved {j : Nat} (other : j ≠ i) : own j (trace ++ [(i, e)]) = own j trace := by
  rw [ownSnoc, if_neg (Ne.symm other)]

theorem followsMoved (apart : Apart scanRows t) (followed : Followed kind s trace t)
    (found : t.clients[i]? = some c) (did : Moved scanRows t i c e u) (sound : SoundEvent (kind i) e) :
    ∀ (j : Nat) (d : Client Db Write Site PyError), u.clients[j]? = some d →
      Follows (u.store.statusOf s) (moves s (own j (trace ++ [(i, e)]))) := by
  apply movedEach (fun j _ => Follows _ (moves s (own j _))) found did
  · intro d _
    rw [ownMoved, movesSnoc]
    cases did with
    | exec v at_ reads free =>
      rcases moveCases (s := s) sound with none | ⟨source, target, on, here, only, -⟩
      · simp only [movesStep, none, List.append_nil]
        exact followed.follows i c found
      · simp only [movesStep, only]
        refine followsSnoc (followed.follows i c found) ?_
        have same : v.statusOf s = lastStatus (t.store.statusOf s) (moves s (own i trace)) := by
          rw [reads]
          exact statusOfView followed found on
        exact same.symm.trans here
    | call at_ => exact followed.follows i c found
    | _ => exact trivial
  · intro j d other there
    rw [ownUnmoved other]
    have before := followed.follows j d there
    by_cases none : moves s (own j trace) = []
    · rw [none]
      trivial
    have holds : d.pending.filterMap (Write.targetOf s) ≠ [] := by
      rw [followed.targets j d there]
      simpa using none
    have kept : u.store.statusOf s = t.store.statusOf s := by
      rw [movedStore did]
      split
      · exact statusUnmoved (followsSome before none) (heldOnce apart other found there holds)
      · rfl
    rw [kept]
    exact before

theorem targetsMoved (followed : Followed kind s trace t) (found : t.clients[i]? = some c)
    (did : Moved scanRows t i c e u) (sound : SoundEvent (kind i) e) :
    ∀ (j : Nat) (d : Client Db Write Site PyError), u.clients[j]? = some d →
      d.pending.filterMap (Write.targetOf s) = (moves s (own j (trace ++ [(i, e)]))).map Prod.snd := by
  apply movedEach (fun j d => d.pending.filterMap _ = (moves s (own j _)).map Prod.snd) found did
  · intro d pending
    rw [ownMoved, movesSnoc, pending]
    cases did with
    | exec v at_ reads free =>
      simp only [stage, movesStep, List.filterMap_append, List.map_append]
      rw [followed.targets i c found, moveTargets sound]
    | call at_ => exact followed.targets i c found
    | _ => rfl
  · intro j d other there
    rw [ownUnmoved other]
    exact followed.targets j d there

theorem mineMoved (followed : Followed kind s trace t) (found : t.clients[i]? = some c)
    (did : Moved scanRows t i c e u) (sound : SoundEvent (kind i) e) :
    ∀ (j : Nat) (d : Client Db Write Site PyError), u.clients[j]? = some d →
      moves s (own j (trace ++ [(i, e)])) ≠ [] → kind j = some s := by
  apply movedEach (fun j _ => moves s (own j _) ≠ [] → kind j = some s) found did
  · intro d _ some
    rw [ownMoved, movesSnoc] at some
    cases did with
    | exec v at_ reads free =>
      rcases moveCases (s := s) sound with none | ⟨source, target, on, -⟩
      · simp only [movesStep, none, List.append_nil] at some
        exact followed.mine i c found some
      · exact on
    | call at_ => exact followed.mine i c found some
    | _ => contradiction
  · intro j d other there
    rw [ownUnmoved other]
    exact followed.mine j d there

theorem insertsMoved (followed : Followed kind s trace t) (found : t.clients[i]? = some c)
    (did : Moved scanRows t i c e u) (sound : SoundEvent (kind i) e) :
    ∀ (j : Nat) (d : Client Db Write Site PyError), u.clients[j]? = some d →
      ∀ id, kind j = some id → ∀ row, Write.insertScan row ∉ d.pending := by
  apply movedEach (fun j d => ∀ id, kind j = some id → ∀ row, Write.insertScan row ∉ d.pending) found did
  · intro d pending id on row member
    rw [pending] at member
    cases did with
    | exec v at_ reads free =>
      rcases List.mem_append.mp member with old | new
      · exact followed.inserts i c id found on row old
      · rw [SoundEvent, on] at sound
        rcases sound with ⟨_, _, _, _, same, -⟩ | keeps
        · rw [same] at new
          simp at new
        · exact absurd (keeps _ new) (by simp [Write.keepsScans])
    | call at_ => exact followed.inserts i c id found on row member
    | _ => simp [stage] at member
  · exact fun j d _ there id on => followed.inserts j d id there on

theorem followedMove (apart : Apart scanRows t) (followed : Followed kind s trace t)
    (found : t.clients[i]? = some c) (did : Moved scanRows t i c e u)
    (sound : SoundEvent (kind i) e) : Followed kind s (trace ++ [(i, e)]) u := by
  constructor
  · exact followsMoved apart followed found did sound
  · exact targetsMoved followed found did sound
  · exact mineMoved followed found did sound
  · exact fun j d id there on => insertsMoved followed found did sound j d there id on

theorem followedStart (store : Db) (programs : List (Prog Unit)) :
    Followed kind s [] (System.start store programs) := by
  have fresh : ∀ (i : Nat) (c : Client Db Write Site PyError),
      (System.start store programs).clients[i]? = some c → c.pending = [] := by
    intro i c found
    simp only [System.start, List.getElem?_map, Option.map_eq_some_iff] at found
    obtain ⟨p, -, rfl⟩ := found
    rfl
  constructor
  · exact fun i c found => trivial
  · exact fun i c found => by rw [fresh i c found]; rfl
  · exact fun i c found some => by simp at some
  · exact fun i c id found on row member => by rw [fresh i c found] at member; contradiction

end Runs
end SentinelGpt
