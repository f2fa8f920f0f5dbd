import SentinelGpt.TransactionEnds
import SentinelGpt.TenancyCircle

/-! What each request about an organization and what it owns owes to its circle, and what
it has found out when it is answered. -/
namespace SentinelGpt.Tenancy
open ReadCommitted TargetPages

def Site.looks : Site → Bool
  | .getTarget | .getAttestation => true
  | _ => false

def Looked (v : Store) (log : Log) : Prop := ∃ site ws, site.looks = true ∧ .exec site v ws ∈ log

/- What a statement that reads a state may rely on, after a request's events so far. -/
structure Circle.Readable (circle : Circle) (log : Log) (v : Store) : Prop where
  holds : circle.Holds v
  kept : ∀ before, Looked before log → Kept before v

def Circle.Shown (circle : Circle) (user id : Nat) (log : Log) : Prop :=
  ∃ v t, Looked v log ∧ v.target? id = some t ∧ circle.MaySee user t

structure Circle.Owes (circle : Circle) (user : Nat) (log : Log) (v : Store) (w : Write) : Prop where
  admitted : circle.admits w
  entitled : circle.entitles user v w

def Circle.contract (circle : Circle) (user : Nat) : Contract Store Write Site where
  assume log e := ∀ site v ws, e = .exec site v ws → circle.Readable log v
  guarantee log e := ∀ site v ws, e = .exec site v ws →
    (∀ w ∈ ws, circle.Owes user log v w) ∧ (site.looks = true → staged log = [])

def Circle.Cleared (circle : Circle) (user : Nat) (log : Log) : Subject → Prop
  | .nothing => True
  | .members organizationId => organizationId = circle.organizationId → circle.members user
  | .admins organizationId => organizationId = circle.organizationId → circle.admins user
  | .owner organizationId => organizationId = some circle.organizationId → circle.members user
  | .target id => circle.Shown user id log
  | .attestation id => ∃ v a, Looked v log ∧ v.attestation? id = some a ∧ circle.Shown user a.targetId log

def Quiet (K : Log → Prop) : Prop := ∀ log site v, K log → K (log ++ [.exec site v []])

theorem quietOf {K : Log → Prop} (stable : Stable K) : Quiet K := fun log _ _ known => stable log _ known

theorem quietClean : Quiet fun log => staged log = [] := by
  intro log site v clean
  rw [stagedSnoc, clean]
  rfl

theorem quietBoth {K K' : Log → Prop} (first : Quiet K) (second : Quiet K') : Quiet fun log => K log ∧ K' log :=
  fun log site v both => ⟨first log site v both.1, second log site v both.2⟩

theorem lookedStable (v : Store) : Stable (Looked v) := by
  intro log e looked
  obtain ⟨site, ws, looks, member⟩ := looked
  exact ⟨site, ws, looks, List.mem_append_left _ member⟩

theorem shownStable (circle : Circle) (user id : Nat) : Stable (circle.Shown user id) := by
  intro log e shown
  obtain ⟨v, t, looked, found, sees⟩ := shown
  exact ⟨v, t, lookedStable v log e looked, found, sees⟩

theorem clearedStable (circle : Circle) (user : Nat) (subject : Subject) :
    Stable fun log => circle.Cleared user log subject := by
  intro log e cleared
  cases subject with
  | target id => exact shownStable circle user id log e cleared
  | attestation id =>
    obtain ⟨v, a, looked, found, shown⟩ := cleared
    exact ⟨v, a, lookedStable v log e looked, found, shownStable circle user _ log e shown⟩
  | nothing => exact cleared
  | members organizationId => exact cleared
  | admins organizationId => exact cleared
  | owner organizationId => exact cleared

section Programs
variable {circle : Circle} {env : Env} {user : Nat} {α : Type} {K : Log → Prop} {E : PyError → Log → Prop}

theorem endsStatement {site : Site} {writes : Store → List Write} {result : Store → α} {Q : α → Log → Prop}
    (looks : ∀ log, site.looks = true → K log → staged log = [])
    (owed : ∀ log v, K log → circle.Readable log v →
      (∀ w ∈ writes v, circle.Owes user log v w) ∧
        Q (result v) (log ++ [.exec site v (writes v)]))
    (failed : ∀ e log, env.fault site = some e → K log → E e log) :
    Ends (circle.contract user) K (env.statement site writes result) Q E := by
  unfold Env.statement
  split
  · rename_i e fault
    exact .raise fun log known => failed e log fault known
  · apply Ends.exec (R := fun v log => Q (result v) log)
    · intro log v known assumed
      obtain ⟨allowed, reached⟩ := owed log v known (assumed _ _ _ rfl)
      refine ⟨?_, reached⟩
      intro site' v' ws' same
      cases same
      exact ⟨allowed, fun looking => looks log looking known⟩
    · exact fun v => .pure fun _ holds => holds

theorem endsRead {site : Site} {result : Store → α} {Q : α → Log → Prop} (quiet : Quiet K)
    (looks : ∀ log, site.looks = true → K log → staged log = [])
    (seen : ∀ log v, K log → circle.Readable log v → K (log ++ [.exec site v []]) →
      Q (result v) (log ++ [.exec site v []]))
    (failed : ∀ e log, env.fault site = some e → K log → E e log) :
    Ends (circle.contract user) K (env.read site result) Q E := by
  apply endsStatement looks
  · intro log v known readable
    refine ⟨fun w member => by simp at member, seen log v known readable (quiet log site v known)⟩
  · exact failed

theorem endsGlance {site : Site} {result : Store → α} (stable : Stable K) (plain : site.looks = false)
    (failed : ∀ e log, K log → E e log) :
    Ends (circle.contract user) K (env.read site result) (fun _ => K) E := by
  apply endsRead (quietOf stable)
  · intro log looks _
    rw [plain] at looks
    contradiction
  · exact fun log v _ _ known => known
  · exact fun e log _ known => failed e log known

theorem endsGuarded {site : Site} {refused : Store → Bool} {e : PyError} {w : Write} {L : Prop}
    (stable : Stable K) (plain : site.looks = false)
    (owed : ∀ log v, K log → circle.Readable log v → refused v = false →
      L ∧ circle.Owes user log v w)
    (failed : ∀ e log, K log → E e log) :
    Ends (circle.contract user) K (env.guarded site refused e w) (fun _ log => L ∧ K log) E := by
  apply Ends.bind (Q := fun failed log => (failed = false → L) ∧ K log)
  · apply endsStatement
    · intro log looks _
      rw [plain] at looks
      contradiction
    · intro log v before readable
      have after : K (log ++ [.exec site v (if refused v then [] else [w])]) := stable _ _ before
      cases no : refused v with
      | true => exact ⟨fun x member => by simp at member, fun absurd => by contradiction, by simpa [no] using after⟩
      | false =>
        obtain ⟨learned, allowed⟩ := owed log v before readable no
        refine ⟨fun x member => ?_, fun _ => learned, by simpa [no] using after⟩
        simp only [Bool.false_eq_true, if_false, List.mem_singleton] at member
        exact member ▸ allowed
    · exact fun e log _ before => failed e log before
  · intro refused
    cases refused with
    | true => exact .raise fun log before => failed _ log before.2
    | false => exact .pure fun log before => ⟨before.1 rfl, before.2⟩

theorem endsRecord {actionCode entityType : PyStr} {entityId : Nat} {entries : List (PyStr × Option PyStr)}
    (stable : Stable K) (failed : ∀ e log, K log → E e log) :
    Ends (circle.contract user) K (record env user actionCode entityType entityId entries) (fun _ => K) E := by
  apply endsStatement
  · intro log looks _
    contradiction
  · intro log v before _
    refine ⟨fun w member => ?_, stable _ _ before⟩
    cases List.mem_singleton.mp member
    exact ⟨trivial, trivial⟩
  · exact fun e log _ before => failed e log before

theorem endsRequireMember {organizationId : Nat} (quiet : Quiet K)
    (hidden : ∀ log, K log → E .notFoundError log)
    (failed : ∀ e log site, env.fault site = some e → K log → E e log) :
    Ends (circle.contract user) K (requireMember env user organizationId)
      (fun _ log => (organizationId = circle.organizationId → circle.members user) ∧ K log) E := by
  apply Ends.bind (Q := fun found log =>
    (found = true → organizationId = circle.organizationId → circle.members user) ∧ K log)
  · apply endsRead quiet
    · intro log looks _
      contradiction
    · intro log v _ readable after
      exact ⟨memberHeld readable.holds, after⟩
    · exact fun e log fault before => failed e log _ fault before
  · intro found
    cases found with
    | true => exact .pure fun log before => ⟨before.1 rfl, before.2⟩
    | false => exact .raise fun log before => hidden log before.2

theorem endsRequireAdmin {organizationId : Nat} (quiet : Quiet K)
    (hidden : ∀ log, K log → E forbiddenError log)
    (failed : ∀ e log site, env.fault site = some e → K log → E e log) :
    Ends (circle.contract user) K (requireAdmin env user organizationId)
      (fun _ log => (organizationId = circle.organizationId → circle.admins user) ∧ K log) E := by
  apply Ends.bind (Q := fun found log =>
    (found = true → organizationId = circle.organizationId → circle.admins user) ∧ K log)
  · apply endsRead quiet
    · intro log looks _
      contradiction
    · intro log v _ readable after
      exact ⟨adminHeld readable.holds, after⟩
    · exact fun e log fault before => failed e log _ fault before
  · intro found
    cases found with
    | true => exact .pure fun log before => ⟨before.1 rfl, before.2⟩
    | false => exact .raise fun log before => hidden log before.2

def Circle.Sees (circle : Circle) (user id : Nat) (target : RegisteredTarget) (log : Log) : Prop :=
  (target.id = id ∧ circle.MaySee user target) ∧ ∃ v, Looked v log ∧ v.target? id = some target

theorem seesStable (circle : Circle) (user id : Nat) (target : RegisteredTarget) :
    Stable (circle.Sees user id target) := by
  intro log e sees
  obtain ⟨known, v, looked, found⟩ := sees
  exact ⟨known, v, lookedStable v log e looked, found⟩

theorem seesShown {id : Nat} {target : RegisteredTarget} {log : Log} (sees : circle.Sees user id target log) :
    circle.Shown user id log := by
  obtain ⟨⟨-, may⟩, v, looked, found⟩ := sees
  exact ⟨v, target, looked, found, may⟩

theorem shownLater {id : Nat} {log : Log} {v : Store} (readable : circle.Readable log v)
    (shown : circle.Shown user id log) : ∀ t, v.target? id = some t → circle.MaySee user t := by
  obtain ⟨before, target, looked, found, may⟩ := shown
  exact fun t here => mayTransfer (readable.kept before looked) found may here

theorem endsVisibleTarget {targetId : Nat} (quiet : Quiet K) (clean : ∀ log, K log → staged log = [])
    (hidden : ∀ log, K log → E .notFoundError log)
    (failed : ∀ e log site, env.fault site = some e → K log → E e log) :
    Ends (circle.contract user) K (getVisibleTarget env user targetId)
      (fun target log => circle.Sees user targetId target log ∧ K log) E := by
  apply Ends.bind (Q := fun found log => (∀ target, found = some target →
    (∃ v, Looked v log ∧ v.target? targetId = some target) ∧
      (target.ownerOrganizationId.isSome = true → target.ownerUserId = none)) ∧ K log)
  · apply endsRead quiet
    · exact fun log _ before => clean log before
    · intro log v _ readable after
      refine ⟨fun target found => ⟨⟨v, ⟨_, _, rfl, List.mem_append_right _ (List.mem_singleton_self _)⟩, found⟩, ?_⟩, after⟩
      exact readable.holds.owners target (List.mem_of_find?_eq_some found)
    · exact fun e log fault before => failed e log _ fault before
  · intro found
    cases found with
    | none => exact .raise fun log before => hidden log before.2
    | some target =>
      have named : ∀ v : Store, v.target? targetId = some target → target.id = targetId := by
        intro v found
        simpa using List.find?_some found
      dsimp only
      split
      · rename_i owner
        apply Ends.pure
        intro log before
        obtain ⟨⟨v, looked, found⟩, single⟩ := before.1 target rfl
        refine ⟨⟨⟨named v found, fun inside => ?_, fun _ => by simpa using owner⟩, v, looked, found⟩, before.2⟩
        rw [single (by rw [inside]; rfl)] at owner
        contradiction
      · unfold memberOrNotFound
        cases owner : target.ownerOrganizationId with
        | none => exact .raise fun log before => hidden log before.2
        | some organizationId =>
          apply Ends.bind (Q := fun _ log => (organizationId = circle.organizationId → circle.members user) ∧
            (∃ v, Looked v log ∧ v.target? targetId = some target) ∧ K log)
          · apply Ends.before
            · apply endsRequireMember
              · apply quietBoth _ quiet
                intro log site v before
                obtain ⟨v', looked, found⟩ := before
                exact ⟨v', lookedStable v' log _ looked, found⟩
              · exact fun log before => hidden log before.2
              · exact fun e log site fault before => failed e log site fault before.2
            · exact fun log before => ⟨(before.1 target rfl).1, before.2⟩
          · intro _
            apply Ends.pure
            intro log before
            obtain ⟨member, ⟨v, looked, found⟩, rest⟩ := before
            refine ⟨⟨⟨named v found, fun inside => member ?_, fun alone => ?_⟩, v, looked, found⟩, rest⟩
            · exact Option.some.inj (owner.symm.trans inside)
            · rw [owner] at alone
              contradiction

theorem endsSetArchived {targetId : Nat} {isArchived : Bool} (quiet : Quiet K)
    (clean : ∀ log, K log → staged log = []) (hidden : ∀ log, K log → E .notFoundError log)
    (failed : ∀ e log site, env.fault site = some e → K log → E e log)
    (cleared : ∀ e log, circle.Shown user targetId log → E e log) :
    Ends (circle.contract user) K (setArchived env user targetId isArchived)
      (fun _ => circle.Shown user targetId) E := by
  apply Ends.bind (endsVisibleTarget quiet clean hidden failed)
  intro target
  have moved : Ends (circle.contract user) (circle.Sees user targetId target)
      (flushArchived env target isArchived) (fun _ => circle.Shown user targetId) E := by
    unfold flushArchived
    split
    · exact .pure fun log sees => seesShown sees
    · apply Ends.after
      · apply endsGuarded (L := True) (seesStable circle user targetId target) rfl
        · intro log v sees readable _
          refine ⟨trivial, trivial, ?_⟩
          rw [sees.1.1]
          exact shownLater readable (seesShown sees)
        · exact fun e log sees => cleared e log (seesShown sees)
      · exact fun _ log sees => seesShown sees.2
  apply Ends.bind (moved.before fun log both => both.1)
  exact fun _ => .pure fun log shown => shown

theorem endsCreateSelfAttestation {targetId : Nat} {expiresAt : Option DateTime}
    {evidenceFileRef : Option PyStr} (quiet : Quiet K)
    (clean : ∀ log, K log → staged log = []) (hidden : ∀ log, K log → E .notFoundError log)
    (failed : ∀ e log site, env.fault site = some e → K log → E e log)
    (cleared : ∀ e log, circle.Shown user targetId log → E e log) :
    Ends (circle.contract user) K (createSelfAttestation env user targetId expiresAt evidenceFileRef)
      (fun _ => circle.Shown user targetId) E := by
  have stable := shownStable circle user targetId
  apply Ends.bind (endsVisibleTarget quiet clean hidden failed)
  intro target
  apply Ends.before _ fun log both => seesShown both.1
  have method : Ends (circle.contract user) (circle.Shown user targetId) (methodId env selfAttestationCode)
      (fun _ => circle.Shown user targetId) E := by
    apply Ends.bind (endsGlance stable rfl cleared)
    intro found
    cases found with
    | none => exact .raise fun log shown => cleared _ log shown
    | some entry => exact .pure fun log shown => shown
  apply Ends.bind method
  intro method
  have instant : Ends (circle.contract user) (circle.Shown user targetId) (expiry expiresAt)
      (fun _ => circle.Shown user targetId) E := by
    unfold expiry
    split
    · exact .pure fun log shown => shown
    · split
      · exact .raise fun log shown => cleared _ log shown
      · exact .pure fun log shown => shown
  apply Ends.bind instant
  intro instant
  have inserted : ∀ row : Attestation, row.targetId = targetId → row.createdByUserId = some user →
      Ends (circle.contract user)
      (circle.Shown user targetId) (env.insert .insertAttestation (fun db => db.refusesAttestation row)
        (.insertAttestation row)) (fun _ => circle.Shown user targetId) E := by
    intro row named creator
    apply Ends.after
    · apply endsGuarded (L := True) stable rfl _ cleared
      intro log v shown readable _
      refine ⟨trivial, trivial, creator, ?_⟩
      rw [named]
      exact shownLater readable shown
    · exact fun _ log both => both.2
  apply Ends.bind (inserted _ rfl rfl)
  intro _
  apply Ends.bind (endsRecord stable cleared)
  exact fun _ => .pure fun log shown => shown

theorem endsListForTarget {targetId : Nat} (quiet : Quiet K)
    (clean : ∀ log, K log → staged log = []) (hidden : ∀ log, K log → E .notFoundError log)
    (failed : ∀ e log site, env.fault site = some e → K log → E e log)
    (cleared : ∀ e log, circle.Shown user targetId log → E e log) :
    Ends (circle.contract user) K (listForTarget env user targetId) (fun _ => circle.Shown user targetId) E := by
  have stable := shownStable circle user targetId
  apply Ends.bind (endsVisibleTarget quiet clean hidden failed)
  intro target
  apply Ends.before _ fun log both => seesShown both.1
  apply Ends.bind (endsGlance stable rfl cleared)
  intro found
  apply Ends.bind (endsGlance stable rfl cleared)
  exact fun codes => .pure fun log shown => shown

def Attested (id : Nat) (a : Attestation) (log : Log) : Prop :=
  a.id = id ∧ ∃ v, Looked v log ∧ v.attestation? id = some a

theorem attestedStable (id : Nat) (a : Attestation) : Stable (Attested id a) := by
  intro log e attested
  obtain ⟨named, v, looked, found⟩ := attested
  exact ⟨named, v, lookedStable v log e looked, found⟩

theorem endsRevoke {attestationId : Nat} {reason : PyStr} (quiet : Quiet K)
    (clean : ∀ log, K log → staged log = []) (hidden : ∀ log, K log → E .notFoundError log)
    (failed : ∀ e log site, env.fault site = some e → K log → E e log)
    (cleared : ∀ e log, circle.Cleared user log (.attestation attestationId) → E e log) :
    Ends (circle.contract user) K (revoke env user attestationId reason)
      (fun _ log => circle.Cleared user log (.attestation attestationId)) E := by
  apply Ends.bind (Q := fun found log => (∀ a, found = some a → Attested attestationId a log) ∧ K log)
  · apply endsRead quiet
    · exact fun log _ before => clean log before
    · intro log v _ readable after
      refine ⟨fun a found => ⟨by simpa using List.find?_some found, v, ?_, found⟩, after⟩
      exact ⟨_, _, rfl, List.mem_append_right _ (List.mem_singleton_self _)⟩
    · exact fun e log fault before => failed e log _ fault before
  · intro found
    cases found with
    | none => exact .raise fun log before => hidden log before.2
    | some a =>
      -- What is known from here on: the attestation, and that its target may be seen.
      have stable : Stable fun log => Attested attestationId a log ∧ circle.Shown user a.targetId log :=
        fun log e known => ⟨attestedStable attestationId a log e known.1, shownStable circle user _ log e known.2⟩
      have done : ∀ log, Attested attestationId a log ∧ circle.Shown user a.targetId log →
          circle.Cleared user log (.attestation attestationId) := by
        intro log known
        obtain ⟨⟨-, v, looked, found⟩, shown⟩ := known
        exact ⟨v, a, looked, found, shown⟩
      have failing : ∀ e log, Attested attestationId a log ∧ circle.Shown user a.targetId log → E e log :=
        fun e log known => cleared e log (done log known)
      have seen : Ends (circle.contract user) (fun log => (∀ b, some a = some b → Attested attestationId b log) ∧ K log)
          (getVisibleTarget env user a.targetId)
          (fun _ log => Attested attestationId a log ∧ circle.Shown user a.targetId log) E := by
        apply Ends.weaken (P := fun log => Attested attestationId a log ∧ K log)
        · apply endsVisibleTarget (quietBoth (quietOf (attestedStable attestationId a)) quiet)
          · exact fun log before => clean log before.2
          · exact fun log before => hidden log before.2
          · exact fun e log site fault before => failed e log site fault before.2
        · exact fun log before => ⟨before.1 a rfl, before.2⟩
        · exact fun target log sees => ⟨sees.2.1, seesShown sees.1⟩
        · exact fun e log holds => holds
      have written : ∀ now text, Ends (circle.contract user)
          (fun log => Attested attestationId a log ∧ circle.Shown user a.targetId log)
          (env.guarded .updateAttestation (fun db => (db.attestation? a.id).isNone) staleDataError
            (.updateAttestation a.id now text))
          (fun _ log => Attested attestationId a log ∧ circle.Shown user a.targetId log) E := by
        intro now text
        apply Ends.after
        · apply endsGuarded (L := True) stable rfl _ failing
          intro log v known readable _
          refine ⟨trivial, trivial, fun b t here there => ?_⟩
          obtain ⟨⟨named, before, looked, found⟩, shown⟩ := known
          obtain ⟨b', here', same⟩ := (readable.kept before looked).attestations _ a found
          rw [named, here'] at here
          cases here
          exact shownLater readable shown t (same ▸ there)
        · exact fun _ log both => both.2
      apply Ends.bind seen
      intro _
      apply Ends.bind (written _ _)
      intro _
      apply Ends.bind (endsRecord stable failing)
      intro _
      apply Ends.bind (endsGlance stable rfl failing)
      exact fun codes => .pure fun log known => done log known

theorem endsRegisterTarget {hostname url : PyStr} {ownerOrganizationId : Option Nat} (quiet : Quiet K)
    (hidden : ∀ e ∈ (Subject.owner ownerOrganizationId).refusals, ∀ log, K log → E e log)
    (failed : ∀ e log site, env.fault site = some e → K log → E e log)
    (cleared : ∀ e log, circle.Cleared user log (.owner ownerOrganizationId) → E e log) :
    Ends (circle.contract user) K (registerTarget env user hostname url ownerOrganizationId)
      (fun _ log => circle.Cleared user log (.owner ownerOrganizationId)) E := by
  have normal : Ends (circle.contract user) K (normalized env hostname url) (fun _ => K) E := by
    unfold normalized
    split
    · exact .pure fun log before => before
    · exact .raise fun log before => hidden _ (by simp [Subject.refusals]) log before
    · exact .raise fun log before => hidden _ (by simp [Subject.refusals]) log before
  have owner : Ends (circle.contract user) K (newOwner env user ownerOrganizationId)
      (fun owner log => (owner.1.isSome = true → owner.2 = none) ∧
        ((owner.1 = some circle.organizationId → circle.members user) ∧ (owner.1 = none → owner.2 = some user)) ∧
        circle.Cleared user log (.owner ownerOrganizationId)) E := by
    cases ownerOrganizationId with
    | none => exact .pure fun log _ => ⟨fun absurd => by contradiction,
        ⟨fun absurd => by contradiction, fun _ => rfl⟩, fun absurd => by contradiction⟩
    | some organizationId =>
      apply Ends.bind (Q := fun found log =>
        (found = true → organizationId = circle.organizationId → circle.members user) ∧ K log)
      · apply endsRead quiet
        · intro log looks _
          contradiction
        · intro log v _ readable after
          exact ⟨memberHeld readable.holds, after⟩
        · exact fun e log fault before => failed e log _ fault before
      · intro found
        cases found with
        | false => exact .raise fun log before => hidden _ (by simp [Subject.refusals]) log before.2
        | true =>
          apply Ends.pure
          intro log before
          have member : some organizationId = some circle.organizationId → circle.members user :=
            fun inside => before.1 rfl (Option.some.inj inside)
          exact ⟨fun _ => rfl, ⟨member, fun absurd => by contradiction⟩, member⟩
  have stable := clearedStable circle user (.owner ownerOrganizationId)
  apply Ends.bind normal
  intro target
  apply Ends.bind owner
  intro owner
  obtain ⟨ownerOrganization, ownerUser⟩ := owner
  apply Ends.given
  intro single
  apply Ends.given
  intro may
  apply Ends.bind (Q := fun _ log => circle.Cleared user log (.owner ownerOrganizationId))
  · apply Ends.bind (endsGlance stable rfl cleared)
    intro found
    match found with
    | [] => exact .pure fun log known => known
    | [row] => exact .pure fun log known => known
    | _ :: _ :: _ => exact .raise fun log known => cleared _ log known
  · intro existing
    have inserted : ∀ row : RegisteredTarget, row.ownerOrganizationId = ownerOrganization →
        row.ownerUserId = ownerUser → Ends (circle.contract user)
        (fun log => circle.Cleared user log (.owner ownerOrganizationId))
        (env.insert .insertTarget (fun db => db.refusesTarget row) (.insertTarget row))
        (fun _ log => circle.Cleared user log (.owner ownerOrganizationId)) E := by
      intro row first second
      apply Ends.after
      · apply endsGuarded (L := True) stable rfl _ cleared
        intro log v known readable _
        refine ⟨trivial, ?_, ?_⟩
        · rw [Circle.admits, first, second]
          exact single
        · constructor
          · rw [first]
            exact may.1
          · rw [first, second]
            exact may.2
      · exact fun _ log both => both.2
    split
    · apply Ends.bind (Q := fun _ log => circle.Cleared user log (.owner ownerOrganizationId))
      · exact .raise fun log known => cleared _ log known
      · intro _
        apply Ends.bind (inserted _ rfl rfl)
        exact fun _ => .pure fun log known => known
    · apply Ends.bind (inserted _ rfl rfl)
      exact fun _ => .pure fun log known => known

theorem endsCreateOrganization {name : PyStr} (failed : ∀ e log, E e log) :
    Ends (circle.contract user) K (createOrganization env user name) (fun _ _ => True) E := by
  have everywhere : Stable fun _ : Log => True := fun _ _ _ => trivial
  apply Ends.before (P := fun _ => True) _ fun _ _ => trivial
  apply Ends.bind
  · apply endsGuarded (L := env.newId .insertOrganization ≠ circle.organizationId) everywhere rfl
    · intro log v _ readable new
      -- The organization of the circle is there, so that its id is refused.
      have other : env.newId .insertOrganization ≠ circle.organizationId := by
        intro same
        have founded := readable.holds.founded
        rw [Store.refusesOrganization, same, founded] at new
        contradiction
      exact ⟨other, trivial, other⟩
    · exact fun e log _ => failed e log
  · intro _
    apply Ends.given
    intro other
    apply Ends.bind
    · apply endsGuarded (L := True) everywhere rfl
      · exact fun log v _ _ _ =>
          ⟨trivial, fun inside => absurd inside other, fun inside => absurd inside other⟩
      · exact fun e log _ => failed e log
    · exact fun _ => .pure fun _ _ => trivial

theorem endsGetOrganization {organizationId : Nat} (quiet : Quiet K)
    (hidden : ∀ log, K log → E .notFoundError log)
    (failed : ∀ e log site, env.fault site = some e → K log → E e log)
    (cleared : ∀ e log, circle.Cleared user log (.members organizationId) → E e log) :
    Ends (circle.contract user) K (getOrganization env user organizationId)
      (fun _ log => circle.Cleared user log (.members organizationId)) E := by
  have stable := clearedStable circle user (.members organizationId)
  apply Ends.bind ((endsRequireMember quiet hidden failed).after fun _ log both => both.1)
  intro _
  apply Ends.bind (endsGlance stable rfl cleared)
  intro found
  cases found with
  | none => exact .raise fun log known => cleared _ log known
  | some org => exact .pure fun log known => known

theorem endsListMembers {organizationId : Nat} (quiet : Quiet K)
    (hidden : ∀ log, K log → E .notFoundError log)
    (failed : ∀ e log site, env.fault site = some e → K log → E e log)
    (cleared : ∀ e log, circle.Cleared user log (.members organizationId) → E e log) :
    Ends (circle.contract user) K (listMembers env user organizationId)
      (fun _ log => circle.Cleared user log (.members organizationId)) E := by
  apply Ends.bind ((endsRequireMember quiet hidden failed).after fun _ log both => both.1)
  exact fun _ => endsGlance (clearedStable circle user (.members organizationId)) rfl cleared

section Admins
variable {organizationId : Nat}

theorem endsRequireAdminAndGet {memberUserId : Nat} (quiet : Quiet K)
    (hidden : ∀ log, K log → E forbiddenError log)
    (failed : ∀ e log site, env.fault site = some e → K log → E e log)
    (cleared : ∀ e log, circle.Cleared user log (.admins organizationId) → E e log) :
    Ends (circle.contract user) K (requireAdminAndGet env user organizationId memberUserId)
      (fun seat log => (seat.organizationId = organizationId ∧ seat.userId = memberUserId) ∧
        circle.Cleared user log (.admins organizationId)) E := by
  have stable := clearedStable circle user (.admins organizationId)
  apply Ends.bind ((endsRequireAdmin quiet hidden failed).after fun _ log both => both.1)
  intro _
  apply Ends.bind (Q := fun found log => (∀ seat : Membership, found = some seat →
    seat.organizationId = organizationId ∧ seat.userId = memberUserId) ∧
      circle.Cleared user log (.admins organizationId))
  · apply endsRead (quietOf stable)
    · intro log looks _
      contradiction
    · intro log v _ _ after
      refine ⟨fun seat found => ?_, after⟩
      simpa using List.find?_some found
    · exact fun e log _ known => cleared e log known
  · intro found
    cases found with
    | none => exact .raise fun log known => cleared _ log known.2
    | some seat => exact .pure fun log known => ⟨known.1 seat rfl, known.2⟩

theorem endsAddMember {userId : Nat} {role : Role} (keeps : circle.Keeps user (.addMember organizationId userId role))
    (quiet : Quiet K) (hidden : ∀ log, K log → E forbiddenError log)
    (failed : ∀ e log site, env.fault site = some e → K log → E e log)
    (cleared : ∀ e log, circle.Cleared user log (.admins organizationId) → E e log) :
    Ends (circle.contract user) K (addMember env user organizationId userId role)
      (fun _ log => circle.Cleared user log (.admins organizationId)) E := by
  have stable := clearedStable circle user (.admins organizationId)
  apply Ends.bind ((endsRequireAdmin quiet hidden failed).after fun _ log both => both.1)
  intro _
  apply Ends.bind (endsGlance stable rfl cleared)
  intro found
  cases found with
  | some existing => exact .pure fun log known => known
  | none =>
    apply Ends.bind (Q := fun _ log => circle.Cleared user log (.admins organizationId))
    · apply Ends.after
      · apply endsGuarded (L := True) stable rfl _ cleared
        intro log v known _ _
        exact ⟨trivial, fun inside => keeps inside (known inside), known⟩
      · exact fun _ log both => both.2
    · exact fun _ => .pure fun log known => known

theorem endsChangeRole {memberUserId : Nat} {role : Role}
    (keeps : circle.Keeps user (.changeRole organizationId memberUserId role))
    (quiet : Quiet K) (hidden : ∀ log, K log → E forbiddenError log)
    (failed : ∀ e log site, env.fault site = some e → K log → E e log)
    (cleared : ∀ e log, circle.Cleared user log (.admins organizationId) → E e log) :
    Ends (circle.contract user) K (changeRole env user organizationId memberUserId role)
      (fun _ log => circle.Cleared user log (.admins organizationId)) E := by
  have stable := clearedStable circle user (.admins organizationId)
  apply Ends.bind (endsRequireAdminAndGet quiet hidden failed cleared)
  intro seat
  apply Ends.given
  intro named
  apply Ends.bind (Q := fun _ log => circle.Cleared user log (.admins organizationId))
  · unfold flushRole
    split
    · exact .pure fun log known => known
    · apply Ends.after
      · apply endsGuarded (L := True) stable rfl _ cleared
        intro log v known _ _
        refine ⟨trivial, ?_, ?_⟩
        · intro inside admin
          rw [named.1] at inside
          rw [named.2]
          exact keeps inside (known inside) admin
        · rw [Circle.entitles, named.1]
          exact known
      · exact fun _ log both => both.2
  · exact fun _ => .pure fun log known => known

theorem endsRemoveMember {memberUserId : Nat} (quiet : Quiet K)
    (hidden : ∀ log, K log → E forbiddenError log)
    (failed : ∀ e log site, env.fault site = some e → K log → E e log)
    (cleared : ∀ e log, circle.Cleared user log (.admins organizationId) → E e log) :
    Ends (circle.contract user) K (removeMember env user organizationId memberUserId)
      (fun _ log => circle.Cleared user log (.admins organizationId)) E := by
  have stable := clearedStable circle user (.admins organizationId)
  apply Ends.bind (endsRequireAdminAndGet quiet hidden failed cleared)
  intro seat
  apply Ends.given
  intro named
  apply endsStatement
  · intro log looks _
    contradiction
  · intro log v known _
    refine ⟨fun w member => ?_, stable _ _ known⟩
    split at member
    · cases List.mem_singleton.mp member
      refine ⟨trivial, ?_⟩
      rw [Circle.entitles, named.1]
      exact known
    · contradiction
  · exact fun e log _ known => cleared e log known

end Admins

end Programs

section Requests
variable {circle : Circle} {user : Nat}

theorem endsRespond (call : Call) (keeps : circle.Keeps user call.asked) :
    Ends (circle.contract user) (fun log => staged log = []) (respond call.env user call.asked)
      (fun _ log => circle.Cleared user log call.asked.subject)
      (fun e log => call.plain e ∨ circle.Cleared user log call.asked.subject) := by
  obtain ⟨env, token, asked⟩ := call
  have clean : ∀ log : Log, staged log = [] → staged log = [] := fun _ same => same
  have stable := clearedStable circle user asked.subject
  have hidden : ∀ e ∈ asked.subject.refusals, ∀ log, staged log = [] →
      (Call.mk env token asked).plain e ∨ circle.Cleared user log asked.subject :=
    fun e member log _ => .inl (.inl member)
  have failed : ∀ e log site, env.fault site = some e → staged log = [] →
      (Call.mk env token asked).plain e ∨ circle.Cleared user log asked.subject :=
    fun e log site fault _ => .inl (.inr (.inr ⟨site, fault⟩))
  have cleared : ∀ e log, circle.Cleared user log asked.subject →
      (Call.mk env token asked).plain e ∨ circle.Cleared user log asked.subject := fun e log known => .inr known
  cases asked with
  | createOrganization name =>
    apply Ends.bind (endsCreateOrganization fun e log => .inr trivial)
    intro details
    apply Ends.bind (endsRecord stable cleared)
    exact fun _ => .pure fun log known => known
  | getOrganization organizationId =>
    apply Ends.bind (endsGetOrganization quietClean (hidden _ (by simp [Request.subject, Subject.refusals]))
      failed cleared)
    exact fun details => .pure fun log known => known
  | listMembers organizationId =>
    apply Ends.bind (endsListMembers quietClean (hidden _ (by simp [Request.subject, Subject.refusals]))
      failed cleared)
    exact fun details => .pure fun log known => known
  | addMember organizationId userId role =>
    apply Ends.bind (endsAddMember keeps quietClean (hidden _ (by simp [Request.subject, Subject.refusals]))
      failed cleared)
    intro details
    apply Ends.bind (endsRecord stable cleared)
    exact fun _ => .pure fun log known => known
  | changeRole organizationId userId role =>
    apply Ends.bind (endsChangeRole keeps quietClean (hidden _ (by simp [Request.subject, Subject.refusals]))
      failed cleared)
    intro details
    apply Ends.bind (endsRecord stable cleared)
    exact fun _ => .pure fun log known => known
  | removeMember organizationId userId =>
    apply Ends.bind (endsRemoveMember quietClean (hidden _ (by simp [Request.subject, Subject.refusals]))
      failed cleared)
    intro _
    apply Ends.bind (endsRecord stable cleared)
    exact fun _ => .pure fun log known => known
  | createTarget hostname url ownerOrganizationId =>
    apply Ends.bind (endsRegisterTarget quietClean hidden failed cleared)
    exact fun details => .pure fun log known => known
  | getTarget targetId =>
    apply Ends.bind ((endsVisibleTarget quietClean clean
      (hidden _ (by simp [Request.subject, Subject.refusals])) failed).after
        fun target log sees => seesShown sees.1)
    exact fun details => .pure fun log known => known
  | updateTarget targetId isArchived =>
    apply Ends.bind (endsSetArchived quietClean clean (hidden _ (by simp [Request.subject, Subject.refusals]))
      failed cleared)
    exact fun details => .pure fun log known => known
  | deleteTarget targetId =>
    apply Ends.bind (endsSetArchived quietClean clean (hidden _ (by simp [Request.subject, Subject.refusals]))
      failed cleared)
    exact fun details => .pure fun log known => known
  | createAttestation targetId expiresAt evidenceFileRef =>
    apply Ends.bind (endsCreateSelfAttestation quietClean clean
      (hidden _ (by simp [Request.subject, Subject.refusals])) failed cleared)
    exact fun details => .pure fun log known => known
  | listAttestations targetId =>
    apply Ends.bind (endsListForTarget quietClean clean (hidden _ (by simp [Request.subject, Subject.refusals]))
      failed cleared)
    exact fun details => .pure fun log known => known
  | revokeAttestation attestationId reason =>
    apply Ends.bind (endsRevoke quietClean clean (hidden _ (by simp [Request.subject, Subject.refusals]))
      failed cleared)
    exact fun details => .pure fun log known => known

theorem silentRequest (call : Call) (none : call.token = none) :
    call.program = .rollback (.raise .notAuthenticatedError) := by
  unfold Call.program request
  rw [none]
  rfl

theorem endsRequest (call : Call) (named : call.token = some user) (keeps : circle.Keeps user call.asked) :
    Ends (circle.contract user) (fun log => staged log = []) call.program
      (fun _ log => circle.Cleared user log call.asked.subject)
      (fun e log => call.plain e ∨ circle.Cleared user log call.asked.subject) := by
  have stable := clearedStable circle user call.asked.subject
  apply Ends.session
  · intro log site v ws same
    contradiction
  · rw [named]
    apply Ends.bind (Q := fun found log => found = user ∧ staged log = [])
    · apply Ends.bind (Q := fun _ log => staged log = [])
      · apply endsRead quietClean
        · intro log looks _
          contradiction
        · exact fun log v _ _ after => after
        · exact fun e log fault _ => .inl (.inr (.inr ⟨_, fault⟩))
      · intro found
        split
        · exact .pure fun log clean => ⟨rfl, clean⟩
        · exact .raise fun log _ => .inl (.inr (.inl rfl))
    · intro found
      apply Ends.given
      intro same
      cases same
      apply Ends.bind (endsRespond call keeps)
      intro answer
      unfold Env.commit
      split
      · rename_i e fault
        exact .raise fun log _ => .inl (.inr (.inr ⟨_, fault⟩))
      · apply Ends.commit (R := fun log => circle.Cleared user log call.asked.subject)
        · intro log known
          refine ⟨fun site v ws same => by contradiction, stable log _ known⟩
        · exact .pure fun log known => known
  · exact fun _ => stable
  · intro e log event ended
    exact ended.imp id (stable log event)

end Requests
end SentinelGpt.Tenancy
