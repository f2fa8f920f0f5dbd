import SentinelGpt.RequestObligations

/-! Runs of requests and jobs, in any number and any order of their statements: what is
known at every commit, and that a scan is claimed once. -/
namespace SentinelGpt
open ReadCommitted

def Request.env : Request → Env
  | .task env _ | .job env _ | .backgroundJob env _ | .handler env _ _ | .cancel env _ _ |
    .revocation env _ _ _ | .admission env _ _ _ => env

theorem rulesOn {r : Request} {s : Nat} (on : r.scan? = some s) : r.rules = scanRules r.env s := by
  cases r <;> cases on <;> rfl

theorem rulesOff {r : Request} (off : r.scan? = none) : r.rules = otherRules r.env := by
  cases r <;> first | rfl | contradiction

abbrev requested (requests : List Request) (store : Db) : System Db Write Site PyError :=
  System.start store (requests.map Request.program)

def scanOf (requests : List Request) (i : Nat) : Option Nat := requests[i]?.bind Request.scan?

def rulesOf (requests : List Request) (i : Nat) : Contract Db Write Site :=
  match requests[i]? with
  | some r => r.rules
  | none => ⟨fun _ _ => True, fun _ e => e = .crash⟩

def postOf (requests : List Request) (i : Nat) (log : Log) (ended : Except PyError Unit) : Prop :=
  ∀ r, requests[i]? = some r → r.post log ended

def hasReturned (c : Client Db Write Site PyError) : Bool :=
  match c.program with
  | .pure () => true
  | _ => false

theorem returnedPure {c : Client Db Write Site PyError} (returned : hasReturned c = true) :
    c.program = .pure () := by
  unfold hasReturned at returned
  split at returned
  · assumption
  · contradiction

def allReturned (t : System Db Write Site PyError) : Bool := t.clients.all hasReturned

section Runs
variable {requests : List Request} {store : Db} {trace : Trace} {t : System Db Write Site PyError}

theorem rulesFound {i : Nat} {r : Request} (found : requests[i]? = some r) :
    rulesOf requests i = r.rules := by
  simp [rulesOf, found]

theorem soundOf {i : Nat} {log : Log} {e : Event Db Write Site}
    (owed : (rulesOf requests i).guarantee log e) : SoundEvent (scanOf requests i) e := by
  cases found : requests[i]? with
  | none =>
    simp only [rulesOf, found] at owed
    rw [owed]
    trivial
  | some r =>
    rw [rulesFound found] at owed
    rw [scanOf, found, Option.bind_some]
    cases on : r.scan? with
    | some s =>
      rw [rulesOn on] at owed
      cases e <;> first | exact owed | trivial
    | none =>
      rw [rulesOff on] at owed
      cases e <;> first | exact owed | trivial

/- The moves of a scan stand to the store as they should, every client keeps to its
contract, and what has returned is as its request says. -/
theorem requestsKeep (run : Run scanRows (requested requests store) trace t) :
    (∀ s, Followed (scanOf requests) s trace t) ∧
      AlongEach (fun i => (rulesOf requests i).guarantee) trace ∧
      ∀ i c, t.clients[i]? = some c →
        Left (rulesOf requests i) (postOf requests i) (own i trace) c.program := by
  refine runRelies ?_ ?_ (fun trace t => ∀ s, Followed (scanOf requests) s trace t)
    (fun s => followedStart store _) ?_ ?_ run
  · intro i p here
    simp only [List.getElem?_map, Option.map_eq_some_iff] at here
    obtain ⟨r, found, rfl⟩ := here
    rw [rulesFound found]
    refine wpMono (fun log ended holds r' found' => ?_) (requestOwes r)
    rw [found] at found'
    cases found'
    exact holds
  · intro i log
    cases found : requests[i]? with
    | none => simp [rulesOf, found]
    | some r =>
      rw [rulesFound found]
      cases r <;> trivial
  · intro trace t i c e u before followed found did
    cases there : requests[i]? with
    | none => simp [rulesOf, there]
    | some r =>
      rw [rulesFound there]
      cases on : r.scan? with
      | none =>
        rw [rulesOff on]
        trivial
      | some s =>
        rw [rulesOn on]
        cases did with
        | exec v at_ reads free =>
          intro m last
          have here : scanOf requests i = some s := by rw [scanOf, there, Option.bind_some, on]
          have same := statusOfView (followed s) found here
          obtain ⟨rest, split⟩ := List.getLast?_eq_some_iff.mp last
          rw [split, lastStatusSnoc] at same
          rw [reads]
          exact same
        | _ => trivial
  · intro trace t i c e u before followed found did owed s
    exact followedMove (locksApart before) (followed s) found did (soundOf owed)

structure Commits (requests : List Request) (store : Db) (trace : Trace)
    (t : System Db Write Site PyError) (i : Nat) (r : Request) (site : Site) : Prop where
  run : Run scanRows (requested requests store) trace t
  found : requests[i]? = some r
  owed : r.rules.guarantee (own i trace) (.commit site)
  follows : ∀ s, Follows (t.store.statusOf s) (moves s (own i trace))
  targets : ∀ s, (staged (own i trace)).filterMap (Write.targetOf s) =
    (moves s (own i trace)).map Prod.snd
  mine : ∀ s, moves s (own i trace) ≠ [] → r.scan? = some s
  inserts : ∀ s, r.scan? = some s → ∀ row, .insertScan row ∉ staged (own i trace)

inductive Stores (requests : List Request) (store : Db) (trace : Trace)
    (t : System Db Write Site PyError) (i : Nat) : Event Db Write Site → Db → Prop where
  | quiet {e : Event Db Write Site} (other : e.isCommit = false) : Stores requests store trace t i e t.store
  | commits {r : Request} {site : Site} (committed : Commits requests store trace t i r site) :
      Stores requests store trace t i (.commit site) (seen t.store (staged (own i trace)))

theorem storesOf {m : Move} {e : Event Db Write Site} {u : System Db Write Site PyError}
    (before : Run scanRows (requested requests store) trace t) (moved : m.effect scanRows t = some (e, u)) :
    Stores requests store trace t m.client e u.store := by
  obtain ⟨c, found, did⟩ := movedOf moved
  obtain ⟨followed, owed, -⟩ := requestsKeep (.snoc m before moved)
  obtain ⟨earlier, -, -⟩ := requestsKeep before
  have now := owed trace m.client e [] rfl
  rw [movedStore did]
  cases did with
  | commit at_ =>
    cases there : requests[m.client]? with
    | none =>
      rw [rulesOf, there] at now
      contradiction
    | some r =>
      rw [rulesFound there] at now
      have pending := pendingIsStaged before _ c found
      have standing : Commits requests store trace t m.client r _ := {
        run := before
        found := there
        owed := now
        follows := fun s => (earlier s).follows _ c found
        targets := fun s => pending ▸ (earlier s).targets _ c found
        mine := fun s some => by
          have on := (earlier s).mine _ c found some
          rwa [scanOf, there, Option.bind_some] at on
        inserts := fun s on => pending ▸ (earlier s).inserts _ c s found
          (by rw [scanOf, there, Option.bind_some, on]) }
      have next := Stores.commits standing
      rw [← pending] at next
      exact next
  | _ => exact .quiet rfl

/- The rule of commits: what holds of the initial store, and is kept by every transaction,
holds whatever is committed. -/
theorem commitRun {I : Trace → Db → Prop} (init : I [] store)
    (quiet : ∀ trace i e db, e.isCommit = false → I trace db → I (trace ++ [(i, e)]) db)
    (kept : ∀ trace t i r site, Commits requests store trace t i r site → I trace t.store →
      I (trace ++ [(i, .commit site)]) (seen t.store (staged (own i trace))))
    (run : Run scanRows (requested requests store) trace t) : I trace t.store := by
  induction run with
  | nil => exact init
  | snoc m before moved ih =>
    have stores := storesOf before moved
    generalize System.store _ = db at stores ⊢
    cases stores with
    | quiet other => exact quiet _ _ _ _ other ih
    | commits committed => exact kept _ _ _ _ _ committed ih

namespace Commits
variable {i : Nat} {r : Request} {site : Site} {s : Nat}

theorem form (committed : Commits requests store trace t i r site) (on : r.scan? = some s) :
    Committed r.env s (own i trace) site (staged (own i trace)) (moves s (own i trace))
      (commits (own i trace)) := by
  have owed := committed.owed
  rw [rulesOn on] at owed
  exact owed

theorem other (committed : Commits requests store trace t i r site) (off : r.scan? = none) :
    OtherCommitted r.env (own i trace) site (staged (own i trace)) (commits (own i trace)) := by
  have owed := committed.owed
  rw [rulesOff off] at owed
  exact owed

theorem unmoved (committed : Commits requests store trace t i r site) (elsewhere : r.scan? ≠ some s) :
    moves s (own i trace) = [] := by
  by_contra some
  exact elsewhere (committed.mine s some)

theorem status (committed : Commits requests store trace t i r site)
    (there : (t.store.statusOf s).isSome = true) :
    (seen t.store (staged (own i trace))).statusOf s =
      lastStatus (t.store.statusOf s) (moves s (own i trace)) := by
  rw [statusSeen there, committed.targets s, lastStatus, List.foldl_map]

end Commits

theorem commitsAppend (log more : Log) : commits (log ++ more) = commits log ++ commits more :=
  List.filterMap_append

theorem memCommits {log : Log} {site : Site} : site ∈ commits log ↔ .commit site ∈ log := by
  simp only [commits, List.mem_filterMap]
  constructor
  · rintro ⟨e, member, same⟩
    cases e <;> first | contradiction | cases same
    exact member
  · exact fun member => ⟨_, member, rfl⟩

/-! A scan is claimed once. -/

theorem committedMoves {env : Env} {s : Nat} {log : Log} {site : Site} {ws : List Write}
    {ms : List (ScanStatus × ScanStatus)} {cs : List Site} (form : Committed env s log site ws ms cs) :
    (∀ m ∈ ms, m.1.mayMove m.2 = true) ∧
      ((.queued, .running) ∈ ms → ∃ rest, ms = (.queued, .running) :: rest) := by
  cases form with
  | start authorized => simp [ScanStatus.mayMove]
  | refused row => simp [ScanStatus.mayMove]
  | failed started row attempt => cases attempt <;> simp [ScanStatus.mayMove]
  | completed started audited row records completes analyses both =>
    cases completes <;> cases analyses <;> simp [ScanStatus.mayMove]
  | assessed started audited assessment ends attempt =>
    cases attempt with
    | missed event => simp
    | found => rcases ends with rfl | rfl <;> simp [ScanStatus.mayMove]
  | idle => simp
  | handled stuck recorded row => rcases stuck with rfl | rfl <;> simp [ScanStatus.mayMove]
  | cancelled found here may => simp [may]

structure Claimed (s : Nat) (trace : Trace) (db : Db) : Prop where
  once : ∀ i j, Claims s (own i trace) → Claims s (own j trace) → i = j
  left : ∀ i, Claims s (own i trace) → ∃ status, db.statusOf s = some status ∧ status ≠ .queued

theorem commitsMoveSnoc {s : Nat} {m : ScanStatus × ScanStatus} {log : Log} {e : Event Db Write Site}
    (moved : CommitsMove s m (log ++ [e])) :
    CommitsMove s m log ∨ ∃ site, e = .commit site ∧ m ∈ moves s log := by
  obtain ⟨before, site, after, same, member⟩ := moved
  rcases List.eq_nil_or_concat after with rfl | ⟨after', last, rfl⟩
  · obtain ⟨rfl, final⟩ := List.append_inj' same rfl
    cases final
    exact .inr ⟨site, rfl, member⟩
  · rw [List.concat_eq_append, ← List.cons_append, ← List.append_assoc] at same
    obtain ⟨rfl, -⟩ := List.append_inj' same rfl
    exact .inl ⟨before, site, after', rfl, member⟩

theorem commitsMoveNil (s : Nat) (m : ScanStatus × ScanStatus) : ¬ CommitsMove s m [] := by
  rintro ⟨before, site, after, same, -⟩
  simp at same

theorem commitsMoveKept {s i j : Nat} {m : ScanStatus × ScanStatus} {trace : Trace}
    {e : Event Db Write Site} (moved : CommitsMove s m (own j (trace ++ [(i, e)]))) :
    CommitsMove s m (own j trace) ∨ j = i ∧ ∃ site, e = .commit site ∧ m ∈ moves s (own i trace) := by
  by_cases same : i = j
  · subst same
    rw [ownSnoc, if_pos rfl] at moved
    exact (commitsMoveSnoc moved).imp_right fun now => ⟨rfl, now⟩
  · rw [ownSnoc, if_neg same] at moved
    exact .inl moved

theorem commitsMoveQuiet {s i j : Nat} {m : ScanStatus × ScanStatus} {trace : Trace}
    {e : Event Db Write Site} (other : e.isCommit = false)
    (moved : CommitsMove s m (own j (trace ++ [(i, e)]))) : CommitsMove s m (own j trace) := by
  rcases commitsMoveKept moved with before | ⟨-, site, rfl, -⟩
  · exact before
  · contradiction

theorem claimedOnce (s : Nat) (run : Run scanRows (requested requests store) trace t) :
    Claimed s trace t.store := by
  refine commitRun (I := Claimed s) ?_ ?_ ?_ run
  · exact ⟨fun i j claims => absurd claims (commitsMoveNil s _),
      fun i claims => absurd claims (commitsMoveNil s _)⟩
  · intro trace i e db other ⟨once, left⟩
    exact ⟨fun j k first second => once j k (commitsMoveQuiet other first) (commitsMoveQuiet other second),
      fun j claims => left j (commitsMoveQuiet other claims)⟩
  · intro trace t i r site committed ⟨once, left⟩
    have follows := committed.follows s
    -- A client that claims now has found the scan QUEUED, so that no other has claimed it.
    have unclaimed : (.queued, .running) ∈ moves s (own i trace) → ∀ j, ¬ Claims s (own j trace) := by
      intro claims j before
      have on : r.scan? = some s := committed.mine s (List.ne_nil_of_mem claims)
      obtain ⟨rest, same⟩ := (committedMoves (committed.form on)).2 claims
      obtain ⟨status, here, other⟩ := left j before
      rw [same] at follows
      rw [follows.1] at here
      exact other (Option.some.inj here).symm
    constructor
    · intro j k first second
      rcases commitsMoveKept first with before | ⟨rfl, site, -, claims⟩
      · rcases commitsMoveKept second with before' | ⟨rfl, site, -, claims⟩
        · exact once j k before before'
        · exact absurd before (unclaimed claims j)
      · rcases commitsMoveKept second with before' | ⟨rfl, -⟩
        · exact absurd before' (unclaimed claims k)
        · rfl
    · intro j claims
      by_cases none : moves s (own i trace) = []
      · rcases commitsMoveKept claims with before | ⟨-, site, -, claims⟩
        · obtain ⟨status, here, other⟩ := left j before
          refine ⟨status, ?_, other⟩
          rw [committed.status (by rw [here]; rfl), none, lastStatusNil, here]
        · rw [none] at claims
          contradiction
      · obtain ⟨back, -⟩ := committedMoves (committed.form (committed.mine s none))
        rw [committed.status (followsSome follows none)]
        obtain ⟨before, last, same⟩ := (List.eq_nil_or_concat (moves s (own i trace))).resolve_left none
        rw [List.concat_eq_append] at same
        rw [same, lastStatusSnoc]
        refine ⟨last.2, rfl, fun queued => ?_⟩
        have may := back last (by simp [same])
        rw [queued, ScanStatus.neverQueued] at may
        contradiction

theorem Commits.terminalUnmoved {i s : Nat} {r : Request} {site : Site} {status : ScanStatus}
    (committed : Commits requests store trace t i r site) (here : t.store.statusOf s = some status)
    (terminal : status.isTerminal = true) : moves s (own i trace) = [] := by
  have follows := committed.follows s
  by_contra some
  obtain ⟨may, -⟩ := committedMoves (committed.form (committed.mine s some))
  cases first : moves s (own i trace) with
  | nil => exact some first
  | cons head rest =>
    rw [first, here] at follows
    have blocked := may head (by simp [first])
    rw [← Option.some.inj follows.1, ScanStatus.terminalStays terminal] at blocked
    contradiction

theorem endedStays {s i : Nat} {m : ScanStatus × ScanStatus}
    (run : Run scanRows (requested requests store) trace t) (ended : CommitsMove s m (own i trace))
    (terminal : m.2.isTerminal = true) : t.store.statusOf s = some m.2 := by
  refine commitRun (I := fun trace db => ∀ i, CommitsMove s m (own i trace) → db.statusOf s = some m.2)
    ?_ ?_ ?_ run i ended
  · exact fun i ended => absurd ended (commitsMoveNil s m)
  · exact fun trace i e db other stays j ended => stays j (commitsMoveQuiet other ended)
  · intro trace t i r site committed stays j ended
    have follows := committed.follows s
    rcases commitsMoveKept ended with before | ⟨rfl, site, -, now⟩
    · have here := stays j before
      have unmoved := committed.terminalUnmoved here terminal
      rw [committed.status (by simp [here]), unmoved, lastStatusNil, here]
    · have some := List.ne_nil_of_mem now
      obtain ⟨may, -⟩ := committedMoves (committed.form (committed.mine s some))
      rw [committed.status (followsSome follows some)]
      exact followsTerminal follows may now terminal

/-! Between its start and its end the scan of a job is RUNNING, or a handler has rejected it. -/
section Forms
variable {env : Env} {s : Nat} {log : Log} {site : Site} {ws : List Write}
  {ms : List (ScanStatus × ScanStatus)} {cs : List Site}

theorem startStarts (form : Committed env s log .startCommit ws ms cs) (wrote : staged log = ws)
    (moved : moves s log = ms) :
    Started env s (log ++ [.commit .startCommit]) ∧ ms = [(.queued, .running)] := by
  cases form with
  | @start scan engine version startedAt claimedAt authorized =>
    refine ⟨⟨log, [], engine, version, startedAt, rfl, ?_, ?_⟩, rfl⟩
    · rw [moved]
      exact List.mem_singleton_self _
    · rw [wrote]
      exact List.mem_cons_of_mem _ (List.mem_singleton_self _)

theorem leavesRunning (form : Committed env s log site ws ms cs)
    (follows : Follows (some .running) ms) (leaves : ms ≠ []) :
    ((site = .failCommit ∨ site = .aiCommit) ∧ Started env s log) ∨
      site = .markCommit ∧ (.running, .rejected) ∈ ms := by
  cases form with
  | start authorized => exact absurd follows.1 (by simp)
  | refused row => exact absurd follows.1 (by simp)
  | failed started row attempt => exact .inl ⟨.inl rfl, started⟩
  | completed started audited row records completes analyses both => exact .inl ⟨.inr rfl, started⟩
  | assessed started audited assessment finals attempt =>
    cases attempt with
    | missed event => contradiction
    | found => exact absurd follows.1 (by simp)
  | idle => contradiction
  | handled stuck recorded row =>
    obtain rfl := Option.some.inj follows.1
    exact .inr ⟨rfl, List.mem_singleton_self _⟩
  | cancelled found here may =>
    obtain rfl := Option.some.inj follows.1
    contradiction

end Forms

theorem startClaims {s i : Nat} (run : Run scanRows (requested requests store) trace t)
    (on : scanOf requests i = some s) (starts : .startCommit ∈ commits (own i trace)) :
    Claims s (own i trace) := by
  obtain ⟨before, after, split⟩ := List.append_of_mem (memCommits.mp starts)
  obtain ⟨earlier, later, whole, rfl, -⟩ := ownSplit split
  obtain ⟨-, owed, -⟩ := requestsKeep run
  have now : (rulesOf requests i).guarantee (own i earlier) _ := owed earlier i _ later whole
  obtain ⟨r, found, here⟩ := Option.bind_eq_some_iff.mp on
  rw [rulesFound found, rulesOn here] at now
  obtain ⟨-, only⟩ := startStarts now rfl rfl
  exact ⟨own i earlier, .startCommit, after, split, by rw [only]; exact List.mem_singleton_self _⟩

theorem viewStatus {s i : Nat} {before after : Trace} {site : Site} {db : Db} {writes : List Write}
    (run : Run scanRows (requested requests store) trace t)
    (split : trace = before ++ (i, .exec site db writes) :: after) (on : scanOf requests i = some s) :
    ∃ u, Run scanRows (requested requests store) before u ∧
      db.statusOf s = lastStatus (u.store.statusOf s) (moves s (own i before)) := by
  obtain ⟨u, v, c, earlier, found, did, -⟩ := runBefore run split
  refine ⟨u, earlier, ?_⟩
  cases did with
  | exec db at_ reads free =>
    rw [reads]
    exact statusOfView ((requestsKeep earlier).1 s) found on

end Runs
end SentinelGpt
