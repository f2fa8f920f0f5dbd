import SentinelGpt.ScanObligations

/-! The requests on attestations and those that create scans keep to their contract, and
with them every request. -/
namespace SentinelGpt
open ReadCommitted

section Others
variable {env : Env} {K : Log → Prop} {ws : List Write} {α β : Type}

structure Holding (K : Log → Prop) (ws : List Write) (log : Log) : Prop where
  known : K log
  staged : staged log = ws
  first : commits log = []

abbrev OwesOther {α : Type} (env : Env) (P : Log → Prop) (p : Prog α) (Q : α → Log → Prop) : Prop :=
  Spec (otherRules env) P p Q fun _ => True

theorem otherRaise {P : Log → Prop} {e : PyError} {Q : β → Log → Prop} :
    OwesOther env P (Program.raise e : Prog β) Q := fun _ _ => trivial

theorem otherExists {P : α → Log → Prop} {p : Prog β} {Q : β → Log → Prop}
    (each : ∀ a, OwesOther env (P a) p Q) : OwesOther env (fun log => ∃ a, P a log) p Q :=
  fun log ⟨a, holds⟩ => each a log holds

theorem otherGiven {φ : Prop} {P : Log → Prop} {p : Prog β} {Q : β → Log → Prop}
    (given : φ → OwesOther env P p Q) : OwesOther env (fun log => φ ∧ P log) p Q :=
  fun log ⟨holds, before⟩ => given holds log before

theorem otherWrite (site : Site) (writes : List Write) (stable : Stable K)
    (sound : ∀ w ∈ writes, w.isTransition = false) :
    OwesOther env (Holding K ws) (env.write site writes) fun _ => Holding K (ws ++ writes) := by
  unfold Env.write Env.statement
  split
  · exact otherRaise
  · rintro log ⟨known, rfl, first⟩ db -
    exact ⟨sound, stable _ _ known, by simp [stage], by simp [first]⟩

theorem otherLearn (site : Site) (result : Db → α) (stable : Stable K) :
    OwesOther env (Holding K ws) (env.read site result) fun a log =>
      ∃ db, a = result db ∧ Holding (fun log => K log ∧ .exec site db [] ∈ log) ws log := by
  unfold Env.read Env.statement
  split
  · exact otherRaise
  · rintro log ⟨known, rfl, first⟩ db -
    refine ⟨by simp [otherRules, Sound], db, rfl, ⟨stable _ _ known, by simp⟩, ?_, ?_⟩
    · simp [stage]
    · simp [first]

theorem otherRead (site : Site) (result : Db → α) (stable : Stable K) :
    OwesOther env (Holding K ws) (env.read site result) fun a log =>
      ∃ db, a = result db ∧ Holding K ws log := by
  refine (otherLearn site result stable).after ?_
  rintro a log ⟨db, same, holding⟩
  exact ⟨db, same, holding.known.1, holding.staged, holding.first⟩

theorem otherCommit (site : Site) (form : ∀ log, K log → OtherCommitted env log site ws []) :
    OwesOther env (Holding K ws) (env.commit site) fun _ log => site ∈ commits log := by
  unfold Env.commit
  split
  · exact otherRaise
  · rintro log ⟨known, rfl, first⟩ -
    have owed := form log known
    have done : site ∈ commits (log ++ [.commit site]) := by simp
    rw [← first] at owed
    exact ⟨owed, done⟩

theorem otherAttempt (site : Site) {P : Log → Prop} : OwesOther env P (env.attempt site) fun _ => P := by
  unfold Env.attempt
  split
  · exact otherRaise
  · exact .pure fun _ holds => holds

theorem otherVisibleTarget (getSite memberSite : Site) (user targetId : Nat) (stable : Stable K) :
    OwesOther env (Holding K ws) (getVisibleTarget env getSite memberSite user targetId)
      fun target log => target.id = targetId ∧ Holding K ws log := by
  refine .bind (otherRead _ _ stable) fun found => otherExists fun db => otherGiven fun read => ?_
  cases found with
  | none => exact otherRaise
  | some target =>
    have named := targetNamed read.symm
    simp only
    split
    · exact .pure fun _ holding => ⟨named, holding⟩
    · unfold memberOrNotFound
      split
      · exact otherRaise
      · refine .bind (otherRead _ _ stable) fun member => otherExists fun db => otherGiven fun _ => ?_
        split
        · exact .pure fun _ holding => ⟨named, holding⟩
        · exact otherRaise

theorem otherActive (targetId : Nat) (stable : Stable K) :
    OwesOther env (Holding K ws) (activeAttestation env targetId) fun attestation log =>
      Holding (fun log => K log ∧ Covers log attestation.id targetId) ws log := by
  refine .bind (otherLearn _ _ stable) fun found => otherExists fun db => otherGiven fun read => ?_
  cases found with
  | none => exact otherRaise
  | some attestation =>
    obtain ⟨stored, covers, -⟩ := latestActiveSound read.symm
    have stable' := stableAnd stable (stableMem (.exec .latestActiveConfirmed db []))
    refine .bind (otherRead _ _ stable') fun _ => otherExists fun _ => otherGiven fun _ => ?_
    refine .pure fun log holding => ⟨⟨holding.known.1, ?_⟩, holding.staged, holding.first⟩
    exact .read holding.known.2 (List.mem_map.mpr ⟨attestation, stored, by rw [covers]⟩)

theorem stableCovers (attestationId targetId : Nat) :
    Stable fun log => Covers log attestationId targetId := by
  rintro log e ⟨member, covers⟩
  exact .read (List.mem_append_left _ member) covers

theorem otherDetails (statusSite profileSite : Site) (scan : Scan) (stable : Stable K) :
    OwesOther env (Holding K ws) (details env statusSite profileSite scan) fun _ => Holding K ws := by
  refine .bind (otherRead _ _ stable) fun _ => otherExists fun _ => otherGiven fun _ =>
    .bind (otherRead _ _ stable) fun profile => otherExists fun _ => otherGiven fun _ => ?_
  split
  · exact otherRaise
  · exact .pure fun _ holding => holding

theorem otherProfile (code : PyStr) (stable : Stable K) :
    OwesOther env (Holding K ws) (profileId env code) fun _ => Holding K ws := by
  refine .bind (otherRead _ _ stable) fun _ => otherExists fun _ => otherGiven fun _ => ?_
  split
  · exact otherRaise
  · exact .pure fun _ holding => holding

theorem otherProfileCode (id : Nat) (stable : Stable K) :
    OwesOther env (Holding K ws) (profileCodeForId env id) fun _ => Holding K ws := by
  refine .bind (otherRead _ _ stable) fun _ => otherExists fun _ => otherGiven fun _ => ?_
  split
  · exact otherRaise
  · exact .pure fun _ holding => holding

theorem otherStatusIds (site : Site) (stable : Stable K) :
    OwesOther env (Holding K ws) (statusIdsByCode env site) fun _ => Holding K ws := by
  refine (otherRead _ _ stable).after ?_
  rintro _ log ⟨db, -, holding⟩
  exact holding

theorem otherEnqueue (executionEnabled : Bool) (stable : Stable K) :
    OwesOther env (Holding K ws) (enqueueScan env executionEnabled) fun _ => Holding K ws := by
  unfold enqueueScan
  split
  · rintro log ⟨known, rfl, first⟩ -
    refine ⟨by simp [otherRules], otherAttempt .enqueue _ ?_⟩
    exact ⟨stable _ _ known, by simp [stage], by simp [first]⟩
  · exact .pure fun _ holding => holding

def Admits (env : Env) (log : Log) : Prop :=
  ∃ row entry, (row.id = env.newId .insertScan 0 ∧ (row.status = .queued ∧ row.completedAt = none) ∧
      entry.actionCode = py "SCAN_REQUESTED") ∧
    Holding (fun log => Covers log row.authorizationAttestationId row.targetId)
      [.insertScan row, .insertAudit entry] log

theorem createOwes (principal : Option Nat) (targetId : Nat) (scanProfileCode : PyStr) :
    OwesOther env (Holding (fun _ => True) []) (createScan env principal targetId scanProfileCode)
      fun _ => Admits env := by
  unfold createScan assertPrincipal
  cases principal with
  | none => exact .bind (Q := fun _ _ => False) otherRaise fun _ _ none => none.elim
  | some user =>
    refine .bind (Q := fun _ => Holding (fun _ => True) []) (.pure fun _ holding => holding) fun user => ?_
    refine .bind (otherVisibleTarget _ _ _ _ stableTrue) fun target => otherGiven ?_
    rintro rfl
    split
    · exact otherRaise
    refine .bind (otherActive _ stableTrue) fun attestation => ?_
    have stable := stableAnd stableTrue (stableCovers attestation.id target.id)
    refine .bind (otherStatusIds _ stable) fun _ => .bind (otherProfile _ stable) fun profile =>
      .bind (otherWrite _ _ stable (by simp [Write.isTransition])) fun _ =>
        .bind (otherWrite _ _ stable (by simp [Write.isTransition])) fun _ =>
          (otherDetails _ _ _ stable).after ?_
    rintro _ log ⟨⟨-, covers⟩, staged, first⟩
    exact ⟨_, _, ⟨rfl, ⟨rfl, rfl⟩, rfl⟩, covers, staged, first⟩

theorem rescanOwes (principal : Option Nat) (scanId : Nat) :
    OwesOther env (Holding (fun _ => True) []) (rescanScan env principal scanId)
      fun _ => Admits env := by
  have visible : OwesOther env (Holding (fun _ => True) [])
      (getVisibleScan env .admitGetScan principal scanId) fun _ => Holding (fun _ => True) [] := by
    refine .bind (otherRead _ _ stableTrue) fun found => otherExists fun _ => otherGiven fun _ => ?_
    split
    · exact otherRaise
    · split
      · exact otherRaise
      · exact .pure fun _ holding => holding
  unfold rescanScan assertPrincipal
  refine .bind visible fun original => ?_
  cases principal with
  | none => exact .bind (Q := fun _ _ => False) otherRaise fun _ _ none => none.elim
  | some user =>
    refine .bind (Q := fun _ => Holding (fun _ => True) []) (.pure fun _ holding => holding) fun user => ?_
    refine .bind (otherActive _ stableTrue) fun latest => ?_
    have stable := stableAnd stableTrue (stableCovers latest.id original.targetId)
    refine .bind (otherStatusIds _ stable) fun _ =>
      .bind (otherWrite _ _ stable (by simp [Write.isTransition])) fun _ =>
        .bind (otherProfileCode _ stable) fun profile =>
          .bind (otherWrite _ _ stable (by simp [Write.isTransition])) fun _ =>
            (otherDetails _ _ _ stable).after ?_
    rintro _ log ⟨⟨-, covers⟩, staged, first⟩
    exact ⟨_, _, ⟨rfl, ⟨rfl, rfl⟩, rfl⟩, covers, staged, first⟩

theorem otherSession {body : Prog Unit} {P Q : Log → Prop} (owes : OwesOther env P body fun _ => Q) :
    OwesOther env P body.session fun _ log => ∃ before, Q before ∧ log = before ++ [.rollback] :=
  .session (F := fun _ => True) (fun _ => trivial) owes (fun _ log ended => ⟨log, ended, rfl⟩)
    fun _ _ => trivial

theorem admissionOwes (principal : Option Nat) (executionEnabled : Bool) (request : Admission) :
    OwesOther env (Holding (fun _ => True) []) (admissionRequest env principal executionEnabled request)
      fun _ log => ∃ before, .admitCommit ∈ commits before ∧ log = before ++ [.rollback] := by
  have admits : OwesOther env (Holding (fun _ => True) []) (admitScan env principal request)
      fun _ => Admits env := by
    cases request with
    | create targetId scanProfileCode => exact createOwes principal targetId scanProfileCode
    | rescan scanId => exact rescanOwes principal scanId
  refine otherSession (.bind admits fun _ => otherExists fun row => otherExists fun entry =>
    otherGiven fun requested => ?_)
  refine .bind (otherEnqueue executionEnabled (stableCovers _ _)) fun _ => otherCommit _ ?_
  exact fun log covers => .admitted requested.1 requested.2.1 requested.2.2 covers

theorem revocationOwes (user attestationId : Nat) (reason : PyStr) :
    OwesOther env (Holding (fun _ => True) []) (revokeRequest env user attestationId reason)
      fun _ _ => True := by
  have revokes : OwesOther env (Holding (fun _ => True) []) (revoke env user attestationId reason)
      fun _ log => ∃ id, Holding (fun _ => True)
        [.revokeAttestation id, .insertAudit (revokedRow env user id reason)] log := by
    refine .bind (otherRead _ _ stableTrue) fun found => otherExists fun _ => otherGiven fun _ => ?_
    cases found with
    | none => exact otherRaise
    | some attestation =>
      refine .bind (otherVisibleTarget _ _ _ _ stableTrue) fun target => otherGiven fun _ =>
        .bind (otherWrite _ _ stableTrue (by simp [Write.isTransition])) fun _ =>
          .bind (otherWrite _ _ stableTrue (by simp [Write.isTransition])) fun _ =>
            (otherRead _ _ stableTrue).after ?_
      rintro _ log ⟨db, -, holding⟩
      exact ⟨attestation.id, holding⟩
  have commits_ : OwesOther env (Holding (fun _ => True) []) (do
      revoke env user attestationId reason
      env.commit .revokeCommit) fun _ log => .revokeCommit ∈ commits log :=
    .bind revokes fun _ => otherExists fun id => otherCommit _ fun log _ => .revoked rfl
  exact (otherSession commits_).after fun _ _ _ => trivial

end Others

theorem taskOwes (env : Env) (s : Nat) :
    Owes env s (fun log => log = []) (executeScanJobTask env s) fun _ _ => True := by
  refine .tryCatch ((runOwes env s).after fun _ _ _ => trivial) fun exc => ?_
  split
  · exact .pure fun _ _ => trivial
  · exact handlerOwes env s exc.name

theorem backgroundOwes (env : Env) (s : Nat) :
    Owes env s (fun log => log = []) (buildBackgroundJob env s) fun _ _ => True :=
  (sessionOwes (jobOwes env s)).weaken (fun _ same => same) (fun _ _ _ => trivial) fun _ _ => trivial

def Request.returned : Request → Log → Prop
  | .job _ scanId, log => ∃ before, Finished scanId before ∧ log = before ++ [.rollback]
  | .admission _ _ _ _, log => ∃ before, .admitCommit ∈ commits before ∧ log = before ++ [.rollback]
  | _, _ => True

def Request.post (r : Request) (log : Log) : Except PyError Unit → Prop
  | .ok () => r.returned log
  | .error _ => True

theorem requestOwes (r : Request) : wp r.rules [] r.program r.post := by
  have ended : ∀ {C : Contract Db Write Site} {P : Log → Prop},
      Spec C P r.program (fun _ => r.returned) (fun _ => True) → P [] → C = r.rules →
        wp r.rules [] r.program r.post := by
    rintro C P spec start rfl
    refine wpMono (fun log result holds => ?_) (spec [] start)
    cases result with
    | ok a => exact holds
    | error e => trivial
  have start : ∀ s, At s (fun _ => True) [] [] [] ([] : Log) := fun s => ⟨trivial, rfl, rfl, rfl⟩
  have other : Holding (fun _ => True) [] ([] : Log) := ⟨trivial, rfl, rfl⟩
  cases r with
  | task env scanId => exact ended (taskOwes env scanId) rfl rfl
  | job env scanId =>
    exact ended ((runOwes env scanId).weaken (fun _ same => same) (fun _ _ finished => finished)
      fun _ _ => trivial) rfl rfl
  | backgroundJob env scanId => exact ended (backgroundOwes env scanId) rfl rfl
  | handler env scanId reason => exact ended (handlerOwes env scanId reason) (restedNil scanId) rfl
  | cancel env principal scanId => exact ended (cancelOwes env principal scanId) (start scanId) rfl
  | revocation env user attestationId reason =>
    exact ended (revocationOwes user attestationId reason) other rfl
  | admission env principal executionEnabled request =>
    exact ended (admissionOwes principal executionEnabled request) other rfl

end SentinelGpt
