import SentinelGpt.TenancyObligations

/-! Runs of requests of any users, in any interleaving and with any failures: the boundary
of an organization holds, and one that has lost its last admin is closed for good. -/
namespace SentinelGpt.Tenancy
open ReadCommitted

abbrev Trace := List (Nat × Event Store Write Site)

def started (store : Store) (calls : List Call) : System Store Write Site PyError :=
  System.start store (calls.map Call.program)

structure Circle.Guards (circle : Circle) (calls : List Call) (trace : Trace)
    (t : System Store Write Site PyError) : Prop where
  holds : circle.Holds t.store
  writes : ∀ (i : Nat) site v ws, (i, .exec site v ws) ∈ trace → ∃ call user, calls[i]? = some call ∧
    call.token = some user ∧ ∀ w ∈ ws, circle.entitles user v w
  answers : ∀ (i : Nat) call user c, calls[i]? = some call → call.token = some user → t.clients[i]? = some c →
    ¬ circle.serves user t.store call.asked.subject →
    (c.program = .pure () → .crash ∈ c.log) ∧ ∀ e, c.program = .raise e → call.plain e

section Runs
variable {circle : Circle} {calls : List Call} {store : Store}

def silence : Contract Store Write Site where
  assume _ _ := True
  guarantee _ e := ∀ site v ws, e ≠ .exec site v ws

def Circle.contractOf (circle : Circle) : Option Nat → Contract Store Write Site
  | some user => circle.contract user
  | none => silence

def owes (circle : Circle) (calls : List Call) (i : Nat) : Contract Store Write Site :=
  circle.contractOf (calls[i]?.bind Call.token)

def leaves (circle : Circle) (calls : List Call) (i : Nat) (log : Log) (r : Except PyError Unit) : Prop :=
  ∀ call user, calls[i]? = some call → call.token = some user →
    (∀ a, r = .ok a → circle.Cleared user log call.asked.subject) ∧
      ∀ e, r = .error e → call.plain e ∨ circle.Cleared user log call.asked.subject

theorem callValid (keeps : ∀ call ∈ calls, ∀ user, call.token = some user → circle.Keeps user call.asked)
    (i : Nat) (p : Prog Unit) (found : (calls.map Call.program)[i]? = some p) :
    wp (owes circle calls i) [] p (leaves circle calls i) := by
  simp only [List.getElem?_map, Option.map_eq_some_iff] at found
  obtain ⟨call, here, rfl⟩ := found
  unfold owes leaves
  rw [here, Option.bind_some]
  cases named : call.token with
  | none =>
    rw [silentRequest call named]
    refine fun _ => ⟨fun site v ws same => by contradiction, ?_⟩
    intro other user same token
    cases same
    rw [named] at token
    contradiction
  | some user =>
    apply wpMono _ (endsRequest call named (keeps call (List.mem_of_getElem? here) user named) [] rfl)
    intro log r ended other user' same token
    cases same
    rw [named] at token
    cases token
    exact ended

theorem owedBy {i : Nat} {log : Log} {e : Event Store Write Site}
    (owed : (owes circle calls i).guarantee log e) {site : Site} {v : Store} {ws : List Write}
    (same : e = .exec site v ws) : ∃ user, calls[i]?.bind Call.token = some user ∧
      (∀ w ∈ ws, circle.Owes user log v w) ∧ (site.looks = true → staged log = []) := by
  unfold owes at owed
  cases token : calls[i]?.bind Call.token with
  | none =>
    rw [token] at owed
    exact absurd same (owed site v ws)
  | some user =>
    rw [token] at owed
    exact ⟨user, rfl, owed site v ws same⟩

structure Bounded (circle : Circle) (trace : Trace) (t : System Store Write Site PyError) : Prop where
  holds : circle.Holds t.store
  staged : ∀ (i : Nat) c, t.clients[i]? = some c → ∀ w ∈ c.pending, circle.admits w
  kept : ∀ i v, Looked v (own i trace) → Kept v t.store

theorem boundedReadable {trace : Trace} {t : System Store Write Site PyError} (bounded : Bounded circle trace t)
    {i : Nat} {c : Client Store Write Site PyError} (found : t.clients[i]? = some c) :
    circle.Readable (own i trace) (view Write.effect t.store c.pending) := by
  constructor
  · exact holdsView (bounded.staged i c found) bounded.holds
  · exact fun before looked => (bounded.kept i before looked).trans (Kept.view _ _)

theorem storeKept {s t : System Store Write Site PyError} {i : Nat} {c : Client Store Write Site PyError}
    {e : Event Store Write Site} (did : Moved rows s i c e t) : Kept s.store t.store := by
  rw [movedStore did]
  split
  · exact Kept.view _ _
  · exact Kept.refl _

theorem boundedMove {trace : Trace} {t u : System Store Write Site PyError}
    (run : Run rows (started store calls) trace t) (bounded : Bounded circle trace t)
    {i : Nat} {c : Client Store Write Site PyError} {e : Event Store Write Site}
    (found : t.clients[i]? = some c) (did : Moved rows t i c e u)
    (owed : (owes circle calls i).guarantee (own i trace) e) : Bounded circle (trace ++ [(i, e)]) u := by
  constructor
  · rw [movedStore did]
    split
    · exact holdsView (bounded.staged i c found) bounded.holds
    · exact bounded.holds
  · apply movedEach (fun _ d => ∀ w ∈ d.pending, circle.admits w) found did
    · intro d pending w member
      rw [pending] at member
      cases e with
      | exec site v ws =>
        rcases List.mem_append.mp member with old | new
        · exact bounded.staged i c found w old
        · obtain ⟨_, -, allowed, -⟩ := owedBy owed rfl
          exact (allowed w new).admitted
      | call site => exact bounded.staged i c found w member
      | commit site => contradiction
      | rollback => contradiction
      | crash => contradiction
    · exact fun j d _ here => bounded.staged j d here
  · intro j v looked
    have before : Looked v (own j trace) → Kept v u.store := fun old => (bounded.kept j v old).trans (storeKept did)
    rw [ownSnoc] at looked
    split at looked
    · rename_i same
      subst same
      obtain ⟨site, ws, looks, member⟩ := looked
      rcases List.mem_append.mp member with old | new
      · exact before ⟨site, ws, looks, old⟩
      · cases List.mem_singleton.mp new
        -- The request that looks has staged nothing, so that it sees the store itself.
        obtain ⟨_, -, -, clean⟩ := owedBy owed rfl
        have clean := clean looks
        rw [← pendingIsStaged run i c found] at clean
        cases did with
        | exec _ at_ reads free =>
          rw [clean] at reads
          exact reads ▸ Kept.refl _
    · exact before looked

theorem boundedStart (holds : circle.Holds store) : Bounded circle [] (started store calls) := by
  constructor
  · exact holds
  · intro i c found w member
    simp only [started, System.start, List.getElem?_map, Option.map_eq_some_iff] at found
    obtain ⟨p, -, rfl⟩ := found
    contradiction
  · intro i v looked
    obtain ⟨site, ws, -, member⟩ := looked
    contradiction

theorem clearedServes {user : Nat} {log : Log} {db : Store} (kept : ∀ v, Looked v log → Kept v db)
    {subject : Subject} (cleared : circle.Cleared user log subject) : circle.serves user db subject := by
  have shown : ∀ id, circle.Shown user id log → ∀ t, db.target? id = some t → circle.MaySee user t := by
    intro id seen t here
    obtain ⟨v, target, looked, found, may⟩ := seen
    exact mayTransfer (kept v looked) found may here
  cases subject with
  | target id => exact shown id cleared
  | attestation id =>
    obtain ⟨v, a, looked, found, seen⟩ := cleared
    intro b t here there
    obtain ⟨b', here', same⟩ := (kept v looked).attestations id a found
    rw [here] at here'
    cases here'
    exact shown _ seen t (same ▸ there)
  | nothing => trivial
  | members organizationId => exact cleared
  | admins organizationId => exact cleared
  | owner organizationId => exact cleared

theorem owesCrash (i : Nat) (log : Log) : (owes circle calls i).guarantee log .crash := by
  unfold owes
  cases calls[i]?.bind Call.token with
  | none => exact fun site v ws same => by contradiction
  | some user => exact fun site v ws same => by contradiction

theorem boundedRelies {trace : Trace} {t u : System Store Write Site PyError} (bounded : Bounded circle trace t)
    {i : Nat} {c : Client Store Write Site PyError} {e : Event Store Write Site} (found : t.clients[i]? = some c)
    (did : Moved rows t i c e u) : (owes circle calls i).assume (own i trace) e := by
  unfold owes
  cases calls[i]?.bind Call.token with
  | none => trivial
  | some user =>
    intro site v ws same
    cases did with
    | exec v' at_ reads free =>
      cases same
      exact reads ▸ boundedReadable bounded found
    | commit at_ => contradiction
    | rollback at_ => contradiction
    | call at_ => contradiction
    | crash => contradiction

theorem circleRuns (holds : circle.Holds store)
    (keeps : ∀ call ∈ calls, ∀ user, call.token = some user → circle.Keeps user call.asked)
    {trace : Trace} {t : System Store Write Site PyError} (run : Run rows (started store calls) trace t) :
    Bounded circle trace t ∧ AlongEach (fun i => (owes circle calls i).guarantee) trace ∧
      ∀ i c, t.clients[i]? = some c → Left (owes circle calls i) (leaves circle calls i) (own i trace) c.program :=
  runRelies (callValid keeps) owesCrash (Bounded circle) (boundedStart holds)
    (fun _ _ _ _ _ _ _ bounded found did => boundedRelies bounded found did)
    (fun _ _ _ _ _ _ run bounded found did owed => boundedMove run bounded found did owed) run

theorem writeOwed {trace : Trace} (owed : AlongEach (fun i => (owes circle calls i).guarantee) trace)
    {i : Nat} {site : Site} {v : Store} {ws : List Write} (member : (i, .exec site v ws) ∈ trace) :
    ∃ call user before after, calls[i]? = some call ∧ call.token = some user ∧
      trace = before ++ (i, .exec site v ws) :: after ∧ ∀ w ∈ ws, circle.Owes user (own i before) v w := by
  obtain ⟨before, after, split⟩ := List.append_of_mem member
  obtain ⟨user, token, allowed, -⟩ := owedBy (owed before i _ after split) rfl
  obtain ⟨call, here, named⟩ := Option.bind_eq_some_iff.mp token
  exact ⟨call, user, before, after, here, named, split, allowed⟩

/- The boundary of an organization. Whatever anyone asks, only what its admins ask decides
who is in the circle: no others come to be members or admins, no others change the seats
of the organization or what it owns, and a request about what its user is not entitled to
is answered in no case, and fails as it would if there were nothing there. -/
theorem circleGuards (calls : List Call) (store : Store) (holds : circle.Holds store)
    (keeps : ∀ call ∈ calls, ∀ user, call.token = some user → circle.Keeps user call.asked)
    {trace : Trace} {t : System Store Write Site PyError} (run : Run rows (started store calls) trace t) :
    circle.Guards calls trace t := by
  obtain ⟨bounded, owed, left⟩ := circleRuns holds keeps run
  constructor
  · exact bounded.holds
  · intro i site v ws member
    obtain ⟨call, user, _, _, here, named, -, allowed⟩ := writeOwed owed member
    exact ⟨call, user, here, named, fun w written => (allowed w written).entitled⟩
  · intro i call user c here token found denied
    have uncleared : ¬ circle.Cleared user (own i trace) call.asked.subject :=
      fun cleared => denied (clearedServes (bounded.kept i) cleared)
    have rest := left i c found
    constructor
    · intro ended
      rw [logIsOwn run i c found]
      rcases rest with dead | rest
      · exact dead.1
      · rw [ended] at rest
        exact absurd ((rest call user here token).1 () rfl) uncleared
    · intro e ended
      rw [ended] at rest
      rcases rest with dead | rest
      · exact absurd dead.2 (by simp)
      · exact ((rest call user here token).2 e rfl).resolve_right uncleared

end Runs

/-! A member brings in another one, while an outsider asks for what is not its own. -/

def quietEnv (newId : Nat) : Env where
  python := Python.onAscii []
  now _ := 0
  newId _ := newId
  fault _ := none

def smallStore : Store where
  users := [⟨1, true⟩, ⟨2, true⟩, ⟨3, true⟩]
  organizations := [⟨7, py "acme", 0⟩]
  memberships := [⟨11, 7, 1, .admin, 0⟩]
  targets := [⟨⟨5, some 7, none, py "a.example", py "https://a.example/", false⟩, 0⟩]
  attestations := []
  auditLog := []

def smallCircle : Circle where
  organizationId := 7
  members user := user = 1 ∨ user = 2
  admins user := user = 1
  within _ := .inl

def smallCalls : List Call :=
  [⟨quietEnv 12, some 1, .addMember 7 2 .member⟩, ⟨quietEnv 13, some 3, .getTarget 5⟩]

def smallMoves : List Move :=
  [.step 0, .step 1, .step 0, .step 1, .step 0, .step 1, .step 0, .step 1, .step 0, .step 0, .step 0]

theorem smallHolds : smallCircle.Holds smallStore := by
  constructor
  · decide
  · intro m member _
    cases List.mem_singleton.mp member
    exact .inl rfl
  · intro m member _ _
    cases List.mem_singleton.mp member
    rfl
  · intro t member _
    cases List.mem_singleton.mp member
    rfl

theorem smallKeeps : ∀ call ∈ smallCalls, ∀ user, call.token = some user → smallCircle.Keeps user call.asked := by
  intro call member user _
  rcases List.mem_cons.mp member with first | member
  · cases first
    exact fun _ _ => ⟨.inr rfl, fun admin => by contradiction⟩
  · cases List.mem_singleton.mp member
    trivial

theorem smallGuarded : ∃ trace t, Run rows (started smallStore smallCalls) trace t ∧
    t.store.isMember 2 7 = true ∧ smallCircle.Guards smallCalls trace t := by
  have replayed : ((replay rows (started smallStore smallCalls) smallMoves).map fun (_, t) =>
      t.store.isMember 2 7) = some true := by
    decide +kernel
  obtain ⟨⟨trace, t⟩, ran, joined⟩ := Option.map_eq_some_iff.mp replayed
  exact ⟨trace, t, replayRun ran, joined, circleGuards smallCalls smallStore smallHolds smallKeeps (replayRun ran)⟩

/-! An organization without an admin. -/

def Store.seats (db : Store) (organizationId : Nat) : List Membership :=
  db.memberships.filter fun m => m.organizationId == organizationId

def Write.seat? : Write → Option Nat
  | .insertMembership row | .updateMembership row _ | .deleteMembership row => some row.organizationId
  | _ => none

theorem seatsEffect (db : Store) (organizationId : Nat) (w : Write) (elsewhere : w.seat? ≠ some organizationId) :
    (w.effect db).seats organizationId = db.seats organizationId := by
  have other : ∀ row m : Membership, some row.organizationId ≠ some organizationId → row.same m = true →
      (m.organizationId == organizationId) = false := by
    intro row m away same
    simp only [Membership.same, Bool.and_eq_true, beq_iff_eq] at same
    rw [same.1.2]
    exact beq_false_of_ne fun here => away (congrArg some here)
  cases w with
  | insertMembership row =>
    have away : (row.organizationId == organizationId) = false := other row row elsewhere (by simp [Membership.same])
    simp only [Store.seats, Write.effect, List.filter_append, List.filter_cons, away, List.filter_nil,
      Bool.false_eq_true, if_false, List.append_nil]
  | updateMembership row role =>
    simp only [Store.seats, Write.effect]
    induction db.memberships with
    | nil => rfl
    | cons m rest ih =>
      rw [List.map_cons, List.filter_cons, List.filter_cons, ih]
      cases same : row.same m with
      | true =>
        have away := other row m elsewhere same
        simp [away]
      | false => rfl
  | deleteMembership row =>
    simp only [Store.seats, Write.effect, List.filter_filter]
    apply List.filter_congr
    intro m _
    cases same : row.same m with
    | true => rw [other row m elsewhere same]; rfl
    | false => simp
  | _ => rfl

theorem seatsView {organizationId : Nat} {ws : List Write} (elsewhere : ∀ w ∈ ws, w.seat? ≠ some organizationId)
    (db : Store) : (view Write.effect db ws).seats organizationId = db.seats organizationId := by
  induction ws generalizing db with
  | nil => rfl
  | cons w rest ih =>
    rw [viewCons, ih fun x member => elsewhere x (List.mem_cons_of_mem _ member)]
    exact seatsEffect db organizationId w (elsewhere w List.mem_cons_self)

def leaderless (organizationId : Nat) : Circle where
  organizationId := organizationId
  members _ := True
  admins _ := False
  within _ := False.elim

theorem leaderlessKeeps (organizationId user : Nat) (asked : Request) : (leaderless organizationId).Keeps user asked := by
  cases asked with
  | addMember organizationId userId role => exact fun _ admin => admin.elim
  | changeRole organizationId userId role => exact fun _ admin => admin.elim
  | _ => trivial

theorem entitledElsewhere {organizationId user : Nat} {db : Store} {w : Write}
    (entitled : (leaderless organizationId).entitles user db w) : w.seat? ≠ some organizationId := by
  cases w with
  | insertMembership row => exact fun inside => entitled (Option.some.inj inside)
  | updateMembership row role => exact fun inside => entitled (Option.some.inj inside)
  | deleteMembership row => exact fun inside => entitled (Option.some.inj inside)
  | _ => exact fun inside => by contradiction

/- Once an organization has no admin, no request that begins then changes its seats. -/
theorem lockedOut (calls : List Call) (store : Store) (organizationId : Nat)
    (founded : (store.organization? organizationId).isSome = true)
    (owners : ∀ t ∈ store.targets, t.ownerOrganizationId.isSome = true → t.ownerUserId = none)
    (adminless : ∀ m ∈ store.memberships, m.organizationId = organizationId → m.role ≠ .admin)
    {trace : Trace} {t : System Store Write Site PyError} (run : Run rows (started store calls) trace t) :
    t.store.seats organizationId = store.seats organizationId := by
  have holds : (leaderless organizationId).Holds store :=
    ⟨founded, fun _ _ _ => trivial, fun m member inside role => adminless m member inside role, owners⟩
  have both : t.store.seats organizationId = store.seats organizationId ∧
      ∀ (i : Nat) c, t.clients[i]? = some c → ∀ w ∈ c.pending, w.seat? ≠ some organizationId := by
    induction run with
    | nil =>
      refine ⟨rfl, ?_⟩
      intro i c found w member
      simp only [started, System.start, List.getElem?_map, Option.map_eq_some_iff] at found
      obtain ⟨p, -, rfl⟩ := found
      contradiction
    | snoc m before moved ih =>
      rename_i trace t e u
      obtain ⟨same, away⟩ := ih
      have owed := (circleRuns holds (fun call _ user _ => leaderlessKeeps organizationId user call.asked)
        (.snoc m before moved)).2.1
      obtain ⟨c, found, did⟩ := movedOf moved
      constructor
      · rw [movedStore did]
        split
        · exact (seatsView (away _ c found) t.store).trans same
        · exact same
      · apply movedEach (fun _ d => ∀ w ∈ d.pending, w.seat? ≠ some organizationId) found did
        · intro d pending w member
          rw [pending] at member
          cases e with
          | exec site v ws =>
            rcases List.mem_append.mp member with old | new
            · exact away _ c found w old
            · obtain ⟨_, _, _, _, -, -, -, allowed⟩ := writeOwed owed
                (List.mem_append_right trace (List.mem_singleton_self _))
              exact entitledElsewhere (allowed w new).entitled
          | call site => exact away _ c found w member
          | commit site => contradiction
          | rollback => contradiction
          | crash => contradiction
        · exact fun j d _ here => away j d here
  exact both.1

def regret : List Call :=
  [⟨quietEnv 12, some 1, .changeRole 7 1 .admin⟩, ⟨quietEnv 13, some 1, .addMember 7 2 .admin⟩]

def abandoned : Store := { smallStore with memberships := [⟨11, 7, 1, .member, 0⟩] }

theorem abandonedStays : ∃ trace t, Run rows (started abandoned regret) trace t ∧ trace.length = 6 ∧
    t.store.seats 7 = abandoned.seats 7 := by
  have replayed : ((replay rows (started abandoned regret)
      [.step 0, .step 1, .step 1, .step 0, .step 0, .step 1]).map fun (trace, _) =>
      trace.length) = some 6 := by
    decide +kernel
  obtain ⟨⟨trace, t⟩, ran, whole⟩ := Option.map_eq_some_iff.mp replayed
  refine ⟨trace, t, replayRun ran, whole, lockedOut regret abandoned 7 (by decide) ?_ ?_ (replayRun ran)⟩
  · intro target member _
    cases List.mem_singleton.mp member
    rfl
  · intro m member _
    cases List.mem_singleton.mp member
    decide

end SentinelGpt.Tenancy
