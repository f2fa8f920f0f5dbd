import SentinelGpt.RefreshRuns

/-! Reuse detection: a family whose revocation is committed has no active credential ever
again, as long as no statement of a revocation misses a credential of its family. -/
namespace SentinelGpt.Sessions
open ReadCommitted

/- The rows of a revocation are all rows its family has when it changes them. -/
def wholeFamily : Event AuthDb SessionWrite AuthSite → Bool
  | .exec (.revokeFamily familyId found) v _ =>
    v.sessions.all fun s => s.familyId != familyId || found.contains s.id
  | _ => true

def revokesFamily (familyId : Nat) (e : Event AuthDb SessionWrite AuthSite) : Prop :=
  ∃ found v writes, e = .exec (.revokeFamily familyId found) v writes

def FamilyRevoked (familyId : Nat) (trace : List (Nat × Event AuthDb SessionWrite AuthSite)) : Prop :=
  Completed (revokesFamily familyId) trace

def NoneAdded (familyId : Nat) (trace : List (Nat × Event AuthDb SessionWrite AuthSite)) : Prop :=
  ∀ before i site v writes rest, trace = before ++ (i, .exec site v writes) :: rest →
    FamilyRevoked familyId before → ∀ parent row, .insert parent row ∈ writes →
      row.familyId ≠ familyId

structure Dead (db : AuthDb) (familyId : Nat) : Prop where
  used : ∃ s ∈ db.sessions, s.familyId = familyId
  inactive : ∀ s ∈ db.sessions, s.familyId = familyId → s.status ≠ .active

section Families
variable {issued : List (Nat × Nat)} {db : AuthDb} {ws : List SessionWrite} {familyId : Nat}

theorem insertedFamily (held : Held issued db ws) {parent : Option Nat} {row : RefreshSession}
    (inserted : .insert parent row ∈ ws) :
    (∃ s ∈ db.sessions, s.familyId = row.familyId ∧ s.status = .active ∧ .markRotated s.id ∈ ws) ∨
      ∀ s ∈ db.sessions, s.familyId ≠ row.familyId := by
  cases held with
  | revokes ids => simp at inserted
  | marked member active => simp at inserted
  | rotated member active family live new =>
    simp only [List.mem_cons, List.not_mem_nil, or_false, reduceCtorEq, false_or,
      SessionWrite.insert.injEq] at inserted
    obtain ⟨-, rfl⟩ := inserted
    exact .inl ⟨_, member, family.symm, active, by simp⟩
  | issued known live fresh new =>
    simp only [List.mem_singleton, SessionWrite.insert.injEq] at inserted
    obtain ⟨-, rfl⟩ := inserted
    exact .inr fresh

theorem deadAdds (held : Held issued db ws) (dead : Dead db familyId) {parent : Option Nat}
    {row : RefreshSession} (inserted : .insert parent row ∈ ws) : row.familyId ≠ familyId := by
  rintro rfl
  rcases insertedFamily held inserted with ⟨s, member, family, live, -⟩ | fresh
  · exact dead.inactive s member family live
  · obtain ⟨s, member, family⟩ := dead.used
    exact fresh s member family

theorem deadKept (held : Held issued db ws) (dead : Dead db familyId) : Dead (after db ws) familyId := by
  constructor
  · obtain ⟨s, member, family⟩ := dead.used
    obtain ⟨r, there, -, sameFamily⟩ := rowsStay member ws
    exact ⟨r, there, sameFamily.trans family⟩
  · intro s member family live
    rcases activeAfter held member live with ⟨old, -⟩ | ⟨-, parent, inserted⟩
    · exact dead.inactive s old family live
    · exact deadAdds held dead inserted family

theorem deadRevoked {found : List Nat} (used : ∃ s ∈ db.sessions, s.familyId = familyId)
    (whole : ∀ s ∈ db.sessions, s.familyId = familyId → s.id ∈ found) :
    Dead (after db (found.map .revoke)) familyId := by
  have kinds : ∀ w ∈ found.map SessionWrite.revoke, w.isInsert = false := by
    simp [SessionWrite.isInsert]
  constructor
  · obtain ⟨s, member, family⟩ := used
    obtain ⟨r, there, -, sameFamily⟩ := rowsStay member (found.map .revoke)
    exact ⟨r, there, sameFamily.trans family⟩
  · intro s member family live
    obtain ⟨old, others⟩ := (statusRows _ kinds).2 s member live
    exact others _ (List.mem_map.mpr ⟨s.id, whole s old family, rfl⟩) rfl

end Families

def Holds (trace : List (Nat × Event AuthDb SessionWrite AuthSite)) (db : AuthDb) : Prop :=
  ∀ i familyId found v writes log,
    own i trace = log ++ [.exec (.revokeFamily familyId found) v writes] →
    staged (own i trace) = found.map .revoke ∧ (∃ s ∈ db.sessions, s.familyId = familyId) ∧
      ∀ s ∈ db.sessions, s.familyId = familyId → s.id ∈ found

structure Detected (issued : List (Nat × Nat)) (trace : List (Nat × Event AuthDb SessionWrite AuthSite))
    (t : System AuthDb SessionWrite AuthSite PyError) : Prop where
  kept : Kept issued trace t
  holds : Holds trace t.store
  dead : ∀ familyId, FamilyRevoked familyId trace → Dead t.store familyId
  added : ∀ familyId, NoneAdded familyId trace

theorem addedSnoc {familyId : Nat} {trace : List (Nat × Event AuthDb SessionWrite AuthSite)} {i : Nat}
    {e : Event AuthDb SessionWrite AuthSite} (added : NoneAdded familyId trace)
    (last : ∀ site v writes, e = .exec site v writes → FamilyRevoked familyId trace →
      ∀ parent row, .insert parent row ∈ writes → row.familyId ≠ familyId) :
    NoneAdded familyId (trace ++ [(i, e)]) := by
  intro before j site v writes rest same
  rcases List.eq_nil_or_concat rest with rfl | ⟨rest, final, rfl⟩
  · obtain ⟨rfl, entry⟩ := List.append_inj' same rfl
    obtain ⟨-, rfl⟩ := Prod.mk.inj (List.singleton_inj.mp entry)
    exact last site v writes rfl
  · rw [List.concat_eq_append, ← List.cons_append, ← List.append_assoc] at same
    obtain ⟨rfl, -⟩ := List.append_inj' same rfl
    exact added before j site v writes rest rfl

section Moves
variable {issued : List (Nat × Nat)} {store : AuthDb} {programs : List (AuthProg Unit)}
  {trace : List (Nat × Event AuthDb SessionWrite AuthSite)}
  {t u : System AuthDb SessionWrite AuthSite PyError} {i : Nat}
  {c : Client AuthDb SessionWrite AuthSite PyError} {e : Event AuthDb SessionWrite AuthSite}

theorem wholeKept {db : AuthDb} {ws : List SessionWrite} {familyId : Nat} {found : List Nat}
    (held : Held issued db ws) (apart : Disjoint ws (found.map .revoke))
    (used : ∃ s ∈ db.sessions, s.familyId = familyId)
    (whole : ∀ s ∈ db.sessions, s.familyId = familyId → s.id ∈ found) :
    (∃ s ∈ (after db ws).sessions, s.familyId = familyId) ∧
      ∀ s ∈ (after db ws).sessions, s.familyId = familyId → s.id ∈ found := by
  constructor
  · obtain ⟨s, member, family⟩ := used
    obtain ⟨r, there, -, sameFamily⟩ := rowsStay member ws
    exact ⟨r, there, sameFamily.trans family⟩
  · intro s member family
    rcases memAfter member with ⟨r, old, sameId, sameFamily⟩ | ⟨parent, row, inserted, -, sameFamily⟩
    · exact sameId ▸ whole r old (sameFamily.trans family)
    · rcases insertedFamily held inserted with ⟨first, there, firstFamily, -, marked⟩ | fresh
      · have mine := whole first there (firstFamily.trans (sameFamily.trans family))
        exact absurd rfl (apart _ marked (.revoke first.id) (List.mem_map.mpr ⟨first.id, mine, rfl⟩))
      · obtain ⟨r, there, rFamily⟩ := used
        exact absurd (rFamily.trans (sameFamily.trans family).symm) (fresh r there)

theorem owedFamily {log : List (Event AuthDb SessionWrite AuthSite)} {v : AuthDb} {familyId : Nat}
    {found : List Nat} {writes : List SessionWrite}
    (owed : Owed issued log v (.revokeFamily familyId found) writes) :
    staged log = [] ∧ (∃ id, Presented log id familyId) ∧ writes = found.map .revoke := by
  cases owed with
  | nothing reads => exact absurd rfl (reads familyId found)
  | missing first at_ presented => contradiction
  | revokesFamily first presented seen => exact ⟨first, ⟨_, presented⟩, rfl⟩
  | revokes first at_ presented => contradiction

theorem holdsMoved (run : Run sessionRows (System.start store programs) trace t)
    (kept : Kept issued trace t) (holds : Holds trace t.store) (found : t.clients[i]? = some c)
    (did : Moved sessionRows t i c e u) (whole : wholeFamily e = true)
    (owed : ∀ site v writes, e = .exec site v writes → Owed issued (own i trace) v site writes) :
    Holds (trace ++ [(i, e)]) u.store := by
  have pending := pendingIsStaged run i c found
  intro j familyId rows v writes log ends
  rw [ownSnoc] at ends ⊢
  split at ends
  · rename_i same
    subst same
    obtain ⟨rfl, last⟩ := List.append_inj' ends rfl
    obtain rfl := List.singleton_inj.mp last
    obtain ⟨empty, ⟨id, v', row, head, there, -, family⟩, revoked⟩ := owedFamily (owed _ _ _ rfl)
    obtain ⟨r, here, -, sameFamily⟩ := kept.read i v' _ _ head row there
    rw [if_pos rfl, stagedSnoc, empty, revoked]
    rw [movedStore did]
    refine ⟨rfl, ⟨r, here, sameFamily.trans family⟩, fun s member family => ?_⟩
    have reads : v = after t.store (staged (own i trace)) := by
      rw [← pending]
      cases did with
      | exec v at_ reads free => exact reads
    rw [empty] at reads
    rw [reads] at whole
    simpa [family] using List.all_eq_true.mp whole s member
  · rename_i other
    obtain ⟨same, used, rest⟩ := holds j familyId rows v writes log ends
    rw [if_neg other]
    refine ⟨same, ?_⟩
    cases commits : e.isCommit with
    | false =>
      rw [movedStore did, commits]
      exact ⟨used, rest⟩
    | true =>
      rw [movedStore did, commits]
      obtain ⟨d, there⟩ := actorPresent run (show own j trace ≠ [] by rw [ends]; simp)
      have apart := disjointOf (locksApart run) other found there
      rw [pendingIsStaged run j d there, same] at apart
      exact wholeKept (kept.held i c found) apart used rest

theorem detectedMoved (distinct : (issued.map Prod.snd).Nodup)
    (run : Run sessionRows (System.start store programs) trace t) (detected : Detected issued trace t)
    (found : t.clients[i]? = some c) (did : Moved sessionRows t i c e u)
    (whole : wholeFamily e = true)
    (owed : (contract issued fun e => wholeFamily e = true).guarantee (own i trace) e) :
    Detected issued (trace ++ [(i, e)]) u := by
  have kept := detected.kept
  have mine := kept.held i c found
  have pending := pendingIsStaged run i c found
  refine {
    kept := keptMoved distinct run kept found did owed
    holds := holdsMoved run kept detected.holds found did whole fun site v writes same => by
      rw [same] at owed
      exact owed
    dead := fun familyId revoked => ?_
    added := fun familyId => addedSnoc (detected.added familyId)
      fun site v writes same revoked parent row inserted => ?_ }
  · rw [movedStore did]
    rcases completedSnoc revoked with before | ⟨site, log, last, rfl, ends, rows, v, writes, rfl⟩
    · split
      · exact deadKept mine (detected.dead familyId before)
      · exact detected.dead familyId before
    · obtain ⟨same, used, all⟩ := detected.holds i familyId rows v writes log ends
      rw [pending, same]
      exact deadRevoked used all
  · subst same
    have v' : v = after t.store (staged (own i trace)) := by
      rw [← pending]
      cases did with
      | exec v at_ reads free => exact reads
    have all : Held issued t.store (staged (own i trace) ++ writes) := by
      rw [pending] at mine
      rw [v'] at owed
      exact owedHeld kept.sound kept.rooted mine owed (kept.read i)
    exact deadAdds all (detected.dead familyId revoked) (List.mem_append_right _ inserted)

end Moves

section Results
variable {requests : List AuthRequest} {store : AuthDb}
  {trace : List (Nat × Event AuthDb SessionWrite AuthSite)}
  {t : System AuthDb SessionWrite AuthSite PyError}

/- Where every revocation changes all its family has, a family whose revocation is
committed has no active credential in any later state, and no later refresh adds one. -/
theorem revokedFamilyStaysDead (sound : Sound store) (fresh : FreshFamilies (issuedBy requests) store)
    (run : Run sessionRows (requestSystem store requests) trace t)
    (whole : Along (fun _ e => wholeFamily e = true) trace) (familyId : Nat)
    (revoked : FamilyRevoked familyId trace) :
    (∀ s ∈ t.store.sessions, s.familyId = familyId → s.status ≠ .active) ∧ NoneAdded familyId trace := by
  have init : Detected (issuedBy requests) [] (requestSystem store requests) := {
    kept := keptStart sound fresh
    holds := fun i familyId found v writes log ends => by simp at ends
    dead := fun familyId revoked => absurd revoked completedNil
    added := fun familyId before i site v writes rest same => by simp at same }
  have detected : Detected (issuedBy requests) trace t :=
    runGuaranteed (requestsValid requests fun e => wholeFamily e = true) (fun _ => trivial)
      (Detected (issuedBy requests)) init
      (fun _ _ _ _ _ _ before detected found did whole owed =>
        detectedMoved fresh.distinct before detected found did whole owed) run whole
  exact ⟨(detected.dead familyId revoked).inactive, detected.added familyId⟩

end Results

/-! A credential that was rotated is presented again while the child is being rotated. -/

def rotatedOnce : AuthDb :=
  ⟨[credential 1 1 (py "ha") .rotated, credential 2 1 (py "hb") .active], [⟨1, true⟩]⟩

theorem rotatedOnceSound : Sound rotatedOnce := ⟨by decide, by decide⟩

def replayRequests : List AuthRequest := [refreshOf 3 (py "c") (py "b"), refreshOf 4 (py "d") (py "a")]

def endsRevocation (familyId : Nat) (trace : List (Nat × Event AuthDb SessionWrite AuthSite)) : Bool :=
  match trace.reverse with
  | (i, .commit _) :: before => match (own i before.reverse).reverse with
    | .exec (.revokeFamily family _) _ _ :: _ => family == familyId
    | _ => false
  | _ => false

theorem endsRevoked {familyId : Nat} {trace : List (Nat × Event AuthDb SessionWrite AuthSite)}
    (ends : endsRevocation familyId trace = true) : FamilyRevoked familyId trace := by
  unfold endsRevocation at ends
  split at ends
  · rename_i i site before same
    split at ends
    · rename_i family found v writes log held
      obtain rfl := beq_iff_eq.mp ends
      have whole : trace = before.reverse ++ [(i, .commit site)] := by
        rw [← List.reverse_reverse trace, same, List.reverse_cons]
      have last : own i before.reverse = log.reverse ++ [.exec (.revokeFamily family found) v writes] := by
        rw [← List.reverse_reverse (own i before.reverse), held, List.reverse_cons]
      rw [whole]
      exact .commits last ⟨found, v, writes, rfl⟩
    · contradiction
  · contradiction

def lateReplay : List AuthRequest := replayRequests ++ [refreshOf 5 (py "d") (py "c")]

theorem lateFresh : FreshFamilies (issuedBy lateReplay) rotatedOnce := ⟨by decide, by decide⟩

def lateMoves : List Move :=
  List.replicate 6 (.step 0) ++ [.step 2] ++ List.replicate 4 (.step 1) ++ List.replicate 5 (.step 2)

theorem replayedFamilyStaysDead :
    ∃ trace t, Run sessionRows (requestSystem rotatedOnce lateReplay) trace t ∧ FamilyRevoked 1 trace ∧
      (t.store.sessions.map fun s => (s.id, s.status)) = [(1, .revoked), (2, .revoked), (3, .revoked)] ∧
      (∀ s ∈ t.store.sessions, s.familyId = 1 → s.status ≠ .active) ∧ NoneAdded 1 trace := by
  have first : ((replay sessionRows (requestSystem rotatedOnce lateReplay) lateMoves).map fun (trace, t) =>
      endsRevocation 1 trace && trace.all (fun entry => wholeFamily entry.2) &&
        (t.store.sessions.map fun s => (s.id, s.status)) == [(1, .revoked), (2, .revoked), (3, .revoked)]) =
          some true := by
    decide +kernel
  obtain ⟨⟨trace, t⟩, ran, checks⟩ := Option.map_eq_some_iff.mp first
  simp only [Bool.and_eq_true, List.all_eq_true, beq_iff_eq] at checks
  obtain ⟨⟨ends, whole⟩, rows⟩ := checks
  exact ⟨trace, t, replayRun ran, endsRevoked ends, rows,
    revokedFamilyStaysDead rotatedOnceSound lateFresh (replayRun ran) (alongOfMem whole) 1 (endsRevoked ends)⟩

def replayBetween : List Move :=
  List.replicate 3 (.step 0) ++ List.replicate 2 (.step 1) ++ List.replicate 3 (.step 0) ++
    List.replicate 2 (.step 1)

theorem grandchildOutlivesRevocation :
    ∃ trace t, Run sessionRows (requestSystem rotatedOnce replayRequests) trace t ∧
      FamilyRevoked 1 trace ∧ ∃ s ∈ t.store.sessions, s.familyId = 1 ∧ s.status = .active := by
  have replayed : ((replay sessionRows (requestSystem rotatedOnce replayRequests) replayBetween).map
      fun (trace, t) => endsRevocation 1 trace &&
        t.store.sessions.any fun s => s.familyId == 1 && s.status == .active) = some true := by
    decide +kernel
  obtain ⟨⟨trace, t⟩, ran, checks⟩ := Option.map_eq_some_iff.mp replayed
  simp only [Bool.and_eq_true, List.any_eq_true, beq_iff_eq] at checks
  obtain ⟨ends, s, member, family, live⟩ := checks
  exact ⟨trace, t, replayRun ran, endsRevoked ends, s, member, family, live⟩

end SentinelGpt.Sessions
