import SentinelGpt.ScanRuns

/-! The authorization of a scan at its execution: what the chain runs on, and what a
revocation that comes before the claim does to it. -/
namespace SentinelGpt
open ReadCommitted

namespace Db

def scansCovered (db : Db) : Prop :=
  ∀ scan ∈ db.scans, (scan.authorizationAttestationId, scan.targetId) ∈ db.attestationKeys

def revoked (db : Db) (id : Nat) : Prop := ∀ a ∈ db.attestations, a.id = id → a.status = .revoked

def attestationOf (db : Db) (s : Nat) : Option Nat :=
  (db.scan? s).map Scan.authorizationAttestationId

end Db

section Writes
variable {db : Db} {ws : List Write} {s id : Nat}

theorem keysEffect (db : Db) (w : Write) : (Write.effect db w).attestationKeys = db.attestationKeys := by
  cases w with
  | revokeAttestation id =>
    simp only [Db.attestationKeys, Write.effect, updateRow, List.map_map]
    refine List.map_congr_left fun a _ => ?_
    simp only [Function.comp_apply]
    split <;> rfl
  | _ => rfl

theorem keysSeen (db : Db) (ws : List Write) : (seen db ws).attestationKeys = db.attestationKeys := by
  induction ws generalizing db with
  | nil => rfl
  | cons w rest ih => rw [seen, viewCons, ← keysEffect db w]; exact ih _

theorem revokedEffect (revoked : db.revoked id) (w : Write) : (Write.effect db w).revoked id := by
  cases w with
  | revokeAttestation other =>
    intro a member same
    obtain ⟨b, stored, rfl⟩ := List.mem_map.mp member
    by_cases here : b.id = other
    · rw [if_pos here]
      rfl
    · rw [if_neg here] at same ⊢
      exact revoked b stored same
  | _ => exact revoked

theorem revokedSeen (revoked : db.revoked id) (ws : List Write) : (seen db ws).revoked id := by
  induction ws generalizing db with
  | nil => exact revoked
  | cons w rest ih => exact ih (revokedEffect revoked w)

theorem revokedAfter (member : .revokeAttestation id ∈ ws) (db : Db) : (seen db ws).revoked id := by
  obtain ⟨before, after, rfl⟩ := List.append_of_mem member
  rw [← seenAppend]
  refine revokedSeen ?_ after
  intro a stored same
  obtain ⟨b, -, rfl⟩ := List.mem_map.mp stored
  by_cases here : b.id = id
  · rw [if_pos here]
    rfl
  · rw [if_neg here] at same
    exact absurd same here

theorem attestationEffect (there : (db.scan? s).isSome = true) (w : Write) :
    (Write.effect db w).attestationOf s = db.attestationOf s ∧
      ((Write.effect db w).scan? s).isSome = true := by
  obtain ⟨scan, found⟩ := Option.isSome_iff_exists.mp there
  cases w with
  | insertScan row =>
    have same : (Write.effect db (.insertScan row)).scan? s = db.scan? s := by
      simp only [Db.scan?] at found
      simp [Db.scan?, Write.effect, List.find?_append, found]
    rw [Db.attestationOf, same]
    exact ⟨rfl, there⟩
  | transition other target startedAt completedAt =>
    rw [Db.attestationOf, Db.attestationOf, Db.scanTransition, found]
    refine ⟨?_, rfl⟩
    simp only [Option.map_some]
    split <;> rfl
  | _ => exact ⟨rfl, there⟩

theorem attestationSeen (there : (db.scan? s).isSome = true) (ws : List Write) :
    (seen db ws).attestationOf s = db.attestationOf s := by
  induction ws generalizing db with
  | nil => rfl
  | cons w rest ih =>
    obtain ⟨same, next⟩ := attestationEffect there w
    rw [← same]
    exact ih next

theorem coveredEffect {w : Write} (covered : db.scansCovered)
    (admits : ∀ row, w = .insertScan row → (row.authorizationAttestationId, row.targetId) ∈ db.attestationKeys) :
    (Write.effect db w).scansCovered := by
  intro scan member
  rw [keysEffect]
  cases w with
  | insertScan row =>
    rcases List.mem_append.mp member with old | new
    · exact covered scan old
    · rw [List.mem_singleton.mp new]
      exact admits row rfl
  | transition other target startedAt completedAt =>
    obtain ⟨old, stored, rfl⟩ := List.mem_map.mp member
    split
    · exact covered old stored
    · exact covered old stored
  | _ => exact covered scan member

theorem coveredSeen (covered : db.scansCovered) (admits : ∀ row, .insertScan row ∈ ws →
    (row.authorizationAttestationId, row.targetId) ∈ db.attestationKeys) :
    (seen db ws).scansCovered := by
  induction ws generalizing db with
  | nil => exact covered
  | cons w rest ih =>
    refine ih (coveredEffect covered fun row same => ?_) fun row member => ?_
    · exact admits row (same ▸ List.mem_cons_self)
    · rw [keysEffect]
      exact admits row (List.mem_cons_of_mem _ member)

end Writes

section Runs
variable {requests : List Request} {store : Db} {trace : Trace} {t : System Db Write Site PyError}

theorem viewSeen {i : Nat} {before after : Trace} {site : Site} {db : Db} {writes : List Write}
    (run : Run scanRows (requested requests store) trace t)
    (split : trace = before ++ (i, .exec site db writes) :: after) :
    db = seen store (committed before ++ staged (own i before)) := by
  obtain ⟨u, earlier, same⟩ := viewAt run split
  have here : db = seen u.store (staged (own i before)) := same
  have stored : u.store = seen store (committed before) := storeCommitted earlier
  rw [here, stored, seenAppend]

theorem viewKeys {i : Nat} {before after : Trace} {site : Site} {db : Db} {writes : List Write}
    (run : Run scanRows (requested requests store) trace t)
    (split : trace = before ++ (i, .exec site db writes) :: after) :
    db.attestationKeys = store.attestationKeys := by
  rw [viewSeen run split, keysSeen]

theorem admittedCovers {env : Env} {log : Log} {site : Site} {ws : List Write} {cs : List Site} {row : Scan}
    (form : OtherCommitted env log site ws cs) (member : .insertScan row ∈ ws) :
    Covers log row.authorizationAttestationId row.targetId := by
  cases form with
  | revoked other => simp at member
  | admitted named queued other covers =>
    obtain rfl : row = _ := by simpa using member
    exact covers

theorem scansStayCovered (covered : store.scansCovered)
    (run : Run scanRows (requested requests store) trace t) : t.store.scansCovered := by
  refine commitRun (I := fun _ db => db.scansCovered) covered (fun _ _ _ _ _ holds => holds) ?_ run
  intro trace t i r site committed covered
  refine coveredSeen covered fun row member => ?_
  cases on : r.scan? with
  | some s => exact absurd member (committed.inserts s on row)
  | none =>
    cases admittedCovers (committed.other on) member with
    | read event covers =>
      obtain ⟨before, after, split⟩ := List.append_of_mem (memOwn.mp event)
      have stored : t.store = seen store _ := storeCommitted committed.run
      rw [stored, keysSeen, ← viewKeys committed.run split]
      exact covers

inductive Rechecked (env : Env) (s : Nat) (log : Log) : Prop where
  | inForce {earlier later : Log} {db₀ claimed db : Db} {claim : List Write} {scan : Scan}
      {attestation : AuthorizationAttestation}
      (split : log = earlier ++ .exec .getAttestation db [] :: later)
      (loaded : .exec .getScan db₀ [] ∈ earlier) (found : db₀.scan? s = some scan)
      (claims : .exec .claim claimed claim ∈ earlier) (won : claim ≠ [])
      (recorded : db.attestation? scan.authorizationAttestationId = some attestation)
      (confirmed : attestation.status = .confirmed)
      (unexpired : ∀ expires ∈ attestation.expiresAt, env.now .getAttestation < expires)
      (covers : attestation.targetId = scan.targetId)

theorem firstView {i : Nat} {later : Log} {site : Site} {db : Db} {writes : List Write}
    (run : Run scanRows (requested requests store) trace t)
    (first : own i trace = .exec site db writes :: later) :
    ∃ before after, trace = before ++ (i, .exec site db writes) :: after ∧ own i before = [] ∧
      db = seen store (committed before) := by
  have split : own i trace = [] ++ .exec site db writes :: later := first
  obtain ⟨before, after, split, none, -⟩ := ownSplit split
  refine ⟨before, after, split, none, ?_⟩
  rw [viewSeen run split, none, stagedNil, List.append_nil]

theorem authorizedRechecks {env : Env} {s i : Nat} {scan : Scan}
    (keyed : (store.attestations.map AuthorizationAttestation.id).Nodup) (covered : store.scansCovered)
    (run : Run scanRows (requested requests store) trace t)
    (authorized : Authorized env s scan (own i trace)) : Rechecked env s (own i trace) := by
  generalize same : own i trace = log at authorized
  cases authorized with
  | @checked db₀ db₁ db₂ db₃ claim attestation loaded found active claimed rest =>
    obtain ⟨before, after, split, -, here⟩ := firstView run same
    obtain ⟨u, -, -, earlier, -, -, -⟩ := runBefore run split
    have stored : u.store = seen store (committed before) := storeCommitted earlier
    have pair : (scan.authorizationAttestationId, scan.targetId) ∈ store.attestationKeys := by
      have stays := scansStayCovered covered earlier
      rw [stored, ← here] at stays
      rw [← viewKeys run split]
      exact stays scan (List.mem_of_find?_eq_some loaded)
    have reread : own i trace = ([.exec .getScan db₀ [], .exec .statusIds db₁ [],
        .exec .claim db₂ claim] : Log) ++ .exec .getAttestation db₃ [] :: rest := same
    obtain ⟨before', after', split', -, -⟩ := ownSplit reread
    simp only [attestationActive, Bool.and_eq_true, beq_iff_eq] at active
    have claims : .exec .claim db₂ claim ∈ ([.exec .getScan db₀ [], .exec .statusIds db₁ [],
        .exec .claim db₂ claim] : Log) := by simp
    refine .inForce (same.symm.trans reread) (by simp) loaded claims claimed found active.1 ?_ ?_
    · intro expires stored
      rw [Option.mem_def.mp stored] at active
      simpa using active.2
    · have member : (attestation.id, attestation.targetId) ∈ store.attestationKeys := by
        rw [← viewKeys run split']
        exact List.mem_map_of_mem (List.mem_of_find?_eq_some found)
      have named : attestation.id = scan.authorizationAttestationId := by
        simpa using List.find?_some found
      obtain ⟨a, stored, equal⟩ := List.mem_map.mp member
      obtain ⟨b, stored', equal'⟩ := List.mem_map.mp pair
      simp only [Prod.mk.injEq] at equal equal'
      have one := List.inj_on_of_nodup_map keyed stored stored'
        (equal.1.trans (named.trans equal'.1.symm))
      rw [← equal'.2, ← one, equal.2]

structure LateClaim (s i : Nat) (trace before after : Trace) (db : Db) (writes : List Write)
    (scan : Scan) : Prop where
  split : trace = before ++ (i, .exec .claim db writes) :: after
  first : ∀ db writes, .exec .claim db writes ∉ own i before
  recorded : db.scan? s = some scan
  revoked : .revokeAttestation scan.authorizationAttestationId ∈ committed before

theorem lateUnauthorized {env : Env} {s i : Nat} {before after : Trace} {db : Db} {writes : List Write}
    {scan other : Scan} {more : Log} (run : Run scanRows (requested requests store) trace t)
    (late : LateClaim s i trace before after db writes scan) {log : Log}
    (whole : own i trace = log ++ more) : ¬ Authorized env s other log := by
  intro authorized
  cases authorized with
  | @checked db₀ db₁ db₂ db₃ claim attestation loaded found active claimed rest =>
    have begins : own i trace = .exec .getScan db₀ [] :: .exec .statusIds db₁ [] ::
        .exec .claim db₂ claim :: .exec .getAttestation db₃ [] :: (rest ++ more) := by
      rw [whole]
      rfl
    have reread : own i trace = ([.exec .getScan db₀ [], .exec .statusIds db₁ [],
        .exec .claim db₂ claim] : Log) ++ .exec .getAttestation db₃ [] :: (rest ++ more) := begins
    obtain ⟨earlier, later, split, three, -⟩ := ownSplit reread
    -- The job reads the attestation after the claim, and so after the revocation.
    have grows : before <+: earlier := by
      have first : before <+: trace := ⟨_, late.split.symm⟩
      have second : earlier <+: trace := ⟨_, split.symm⟩
      rcases List.prefix_or_prefix_of_prefix first second with grows | ⟨rest, same⟩
      · exact grows
      · refine absurd ?_ (late.first db₂ claim)
        rw [← same, ownAppend, three]
        simp
    have gone : db₃.revoked scan.authorizationAttestationId := by
      rw [viewSeen run split]
      obtain ⟨between, same⟩ := grows
      obtain ⟨ws, more_⟩ := committedGrows before between
      refine revokedAfter (List.mem_append_left _ ?_) store
      rw [← same, ← more_]
      exact List.mem_append_left _ late.revoked
    -- It reads the attestation that is recorded on the scan.
    obtain ⟨start, tail, split₀, none, here⟩ := firstView run begins
    have recorded : other.authorizationAttestationId = scan.authorizationAttestationId := by
      have grows₀ : start <+: before := firstBefore split₀ none late.split
      obtain ⟨between, rfl⟩ := grows₀
      obtain ⟨ws, more_⟩ := committedGrows start between
      have view := viewSeen run late.split
      rw [← more_, List.append_assoc, ← seenAppend, ← here] at view
      have stays := attestationSeen (by rw [loaded]; rfl) (ws ++ staged (own i (start ++ between)))
      rw [← view, Db.attestationOf, Db.attestationOf, loaded, late.recorded] at stays
      exact (Option.some.inj stays).symm
    have named : attestation.id = other.authorizationAttestationId := by
      simpa using List.find?_some found
    have status := gone attestation (List.mem_of_find?_eq_some found) (named.trans recorded)
    simp [attestationActive, status] at active

theorem claimForms {env : Env} {s : Nat} {log : Log} {site : Site} {ws : List Write}
    {ms : List (ScanStatus × ScanStatus)} {cs : List Site} (form : Committed env s log site ws ms cs)
    (claims : (.queued, .running) ∈ ms) :
    (∃ scan, Authorized env s scan log) ∨ (.running, .rejected) ∈ ms := by
  cases form with
  | start authorized => exact .inl ⟨_, authorized⟩
  | refused row => exact .inr (by simp)
  | failed started row attempt => cases attempt <;> simp at claims
  | completed started audited row records completes analyses both =>
    cases completes <;> cases analyses <;> simp at claims
  | assessed started audited assessment ends attempt => cases attempt <;> simp at claims
  | idle => contradiction
  | handled stuck recorded row => simp at claims
  | cancelled found here may => simp at claims

theorem lateClaimRejected {s i : Nat} {before after : Trace} {db : Db} {writes : List Write} {scan : Scan}
    (run : Run scanRows (requested requests store) trace t) (on : scanOf requests i = some s)
    (late : LateClaim s i trace before after db writes scan) (claims : Claims s (own i trace)) :
    t.store.statusOf s = some .rejected := by
  obtain ⟨log, site, more, split, claimed⟩ := claims
  obtain ⟨earlier, later, whole, rfl, -⟩ := ownSplit split
  obtain ⟨-, owed, -⟩ := requestsKeep run
  have owed : (rulesOf requests i).guarantee (own i earlier) (.commit site) :=
    owed earlier i _ later whole
  obtain ⟨r, found, here⟩ := Option.bind_eq_some_iff.mp on
  rw [rulesFound found, rulesOn here] at owed
  rcases claimForms owed claimed with ⟨other, authorized⟩ | rejected
  · exact absurd authorized (lateUnauthorized run late split)
  · exact endedStays run ⟨own i earlier, site, more, split, rejected⟩ rfl

theorem runsOnlyAuthorized (keyed : (store.attestations.map AuthorizationAttestation.id).Nodup)
    (covered : store.scansCovered) (run : Run scanRows (requested requests store) trace t) :
    (∀ i before after, trace = before ++ (i, .call .pipelineRun) :: after →
      ∃ r s, requests[i]? = some r ∧ r.scan? = some s ∧ Rechecked r.env s (own i before)) ∧
    ∀ i s before after db writes scan, scanOf requests i = some s →
      LateClaim s i trace before after db writes scan →
        (i, .call .pipelineRun) ∉ trace ∧
        (Claims s (own i trace) → t.store.statusOf s = some .rejected) ∧
        (writes ≠ [] → ∀ env c, requests[i]? = some (.job env s) → t.clients[i]? = some c →
          c.program = .pure () → .crash ∉ own i trace → t.store.statusOf s = some .rejected) := by
  obtain ⟨-, owed, left⟩ := requestsKeep run
  have runs : ∀ i before after, trace = before ++ (i, .call .pipelineRun) :: after →
      ∃ r s scan, requests[i]? = some r ∧ r.scan? = some s ∧ Authorized r.env s scan (own i before) := by
    intro i before after split
    have owed : (rulesOf requests i).guarantee (own i before) (.call .pipelineRun) :=
      owed before i _ after split
    cases found : requests[i]? with
    | none =>
      rw [rulesOf, found] at owed
      contradiction
    | some r =>
      rw [rulesFound found] at owed
      cases on : r.scan? with
      | none =>
        rw [rulesOff on] at owed
        exact absurd rfl owed
      | some s =>
        rw [rulesOn on] at owed
        obtain ⟨scan, authorized⟩ := (owed rfl).authorized
        exact ⟨r, s, scan, rfl, on, authorized⟩
  constructor
  · intro i before after split
    obtain ⟨r, s, scan, found, on, authorized⟩ := runs i before after split
    obtain ⟨u, -, -, earlier, -, -, -⟩ := runBefore run split
    exact ⟨r, s, found, on, authorizedRechecks keyed covered earlier authorized⟩
  · intro i s before after db writes scan on late
    refine ⟨fun called => ?_, lateClaimRejected run on late, fun won env c found there done alive => ?_⟩
    · obtain ⟨earlier, later, split⟩ := List.append_of_mem called
      obtain ⟨r, s', other, found, here, authorized⟩ := runs i earlier later split
      rw [scanOf, found, Option.bind_some, here] at on
      cases on
      exact lateUnauthorized run late (by rw [split, ownAppend]) authorized
    · have ended := left i c there
      rw [done] at ended
      rcases ended with ⟨crashed, -⟩ | ended
      · exact absurd crashed alive
      obtain ⟨log, finished, same⟩ := ended _ found
      refine lateClaimRejected run on late ?_
      have claim : .exec .claim db writes ∈ own i trace := by
        rw [late.split, ownAppend]
        simp [own]
      rw [same] at claim ⊢
      cases finished with
      | absent none => simp at claim
      | taken other =>
        simp at claim
        exact absurd claim.2 won
      | claimed found claims => exact stableClaims s _ .rollback claims

end Runs
/-! A revocation that is committed before the claim. -/

def revokingRequests : List Request :=
  [.revocation (plainEnv (Python.onAscii []) 1 (plainPipeline answeredResult) noFault) 1 1 (py "owner"),
   .job (plainEnv (Python.onAscii []) 2 (plainPipeline answeredResult) noFault) 1]

def isClaim : Event Db Write Site → Bool
  | .exec .claim _ _ => true
  | _ => false

def isCrash : Event Db Write Site → Bool
  | .crash => true
  | _ => false

def Write.revokes (id : Nat) : Write → Bool
  | .revokeAttestation other => other == id
  | _ => false

def claimsLate (trace : Trace) : Bool :=
  match trace.drop 9 with
  | (1, .exec .claim db writes) :: _ =>
    !writes.isEmpty && (own 1 (trace.take 9)).all (fun e => !isClaim e) &&
      (db.scan? 1).any fun scan =>
        (committed (trace.take 9)).any (Write.revokes scan.authorizationAttestationId)
  | _ => false

theorem claimsLateIs {trace : Trace} (late : claimsLate trace = true) :
    ∃ before after db writes scan, writes ≠ [] ∧ LateClaim 1 1 trace before after db writes scan := by
  unfold claimsLate at late
  split at late
  · rename_i db writes after here
    simp only [Bool.and_eq_true, Bool.not_eq_true', List.all_eq_true, Option.any_eq_true] at late
    obtain ⟨⟨won, first⟩, scan, recorded, revoked⟩ := late
    obtain ⟨w, member, revokes⟩ := List.any_eq_true.mp revoked
    refine ⟨trace.take 9, after, db, writes, scan, by simpa using won, ?_, ?_, recorded, ?_⟩
    · rw [← here, List.take_append_drop]
    · intro db' writes' there
      have none := first _ there
      contradiction
    · cases w with
      | revokeAttestation id => rwa [← beq_iff_eq.mp revokes]
      | _ => contradiction
  · contradiction

theorem revokedScanRejected :
    ∃ trace t, Run scanRows (requested revokingRequests queuedDb) trace t ∧
      (1, .call .pipelineRun) ∉ trace ∧ t.store.statusOf 1 = some .rejected := by
  have replayed : ((replay scanRows (requested revokingRequests queuedDb)
      (List.replicate 7 (.step 0) ++ List.replicate 11 (.step 1))).map fun (trace, t) =>
        claimsLate trace && allReturned t && trace.all (fun entry => !isCrash entry.2) &&
          t.clients.length == 2) = some true := by
    decide +kernel
  obtain ⟨⟨trace, t⟩, ran, checks⟩ := Option.map_eq_some_iff.mp replayed
  simp only [allReturned, Bool.and_eq_true, List.all_eq_true, beq_iff_eq] at checks
  obtain ⟨⟨⟨late, returned⟩, alive⟩, two⟩ := checks
  obtain ⟨before, after, db, writes, scan, won, claim⟩ := claimsLateIs late
  obtain ⟨-, barred⟩ := runsOnlyAuthorized (by decide) (by simp [Db.scansCovered, queuedDb,
    queuedScan, Db.attestationKeys]) (replayRun ran)
  obtain ⟨unrun, -, rejected⟩ := barred 1 1 before after db writes scan rfl claim
  obtain ⟨c, there⟩ : ∃ c, t.clients[1]? = some c := ⟨_, List.getElem?_eq_getElem (by omega)⟩
  refine ⟨trace, t, replayRun ran, unrun, rejected won _ c rfl there ?_ fun crashed => ?_⟩
  · exact returnedPure (returned c (List.mem_of_getElem? there))
  · exact absurd (alive _ (memOwn.mp crashed)) (by simp [isCrash])

end SentinelGpt
