import SentinelGpt.DockerSandbox

/-! What a sandbox is asked to do over its life, and when it counts as established. -/
namespace SentinelGpt
open Calling

inductive SandboxOperation where
  | establish
  | verify
  | run (argv : List PyStr)
  | destroy
  deriving DecidableEq, Repr

namespace DockerEgressSandbox
variable (config : DockerSandboxConfig) (policy : SandboxEgressPolicy)

def perform : SandboxOperation → SandboxProg Unit
  | .establish => do let _ ← establish config policy
  | .verify => do let _ ← verify config policy
  | .run argv => do let _ ← run config argv
  | .destroy => destroy

structure Performed where
  op : SandboxOperation
  before : SandboxState
  trace : SandboxLog
  result : Except PyError Unit
  after : SandboxState

inductive Session : List Performed → SandboxState → Prop where
  | nil : Session [] .fresh
  | perform {history : List Performed} {s s' : SandboxState} {op : SandboxOperation}
      {trace : SandboxLog} {r : Except PyError Unit} (earlier : Session history s)
      (run : Runs s (perform config policy op) trace r s') :
      Session (history ++ [⟨op, s, trace, r, s'⟩]) s'

/- Whether an operation verified the rules with success; `establish` verifies unless it finds
the sandbox established. -/
def Performed.verification (p : Performed) : Option Bool :=
  match p.op with
  | .verify => some p.result.isOk
  | .establish => if p.before.isEstablished then none else some p.result.isOk
  | .run _ | .destroy => none

def lastVerification (history : List Performed) : Option Bool :=
  (history.filterMap Performed.verification).getLast?

def Dumped (log : SandboxLog) : Prop :=
  ∀ container tool outcome, ⟨.docker (.dumpRules container tool), outcome⟩ ∈ log →
    ∃ stdout stderr, outcome = .completed 0 stdout stderr

/-! What each part does to the mark of establishment. -/
section Marks
variable {config : DockerSandboxConfig} {policy : SandboxEgressPolicy} {log : SandboxLog}
  {s : SandboxState}

abbrev Ends {α : Type} (log : SandboxLog) (s : SandboxState) (p : SandboxProg α)
    (post : SandboxLog → SandboxState → Except PyError α → Prop) : Prop :=
  wp (fun _ => True) (fun _ _ => True) log s p post

theorem readsEnds {α : Type} {p : SandboxProg α} (reads : Harmless p) :
    Ends log s p fun _ s' _ => s' = s :=
  wpReadsOnly reads fun _ _ _ => trivial

theorem dockerOrEnds {failure : PyError} {command : DockerCommand} :
    Ends log s (dockerOr failure command) fun _ s' _ => s' = s := by
  refine ⟨trivial, fun (outcome : DockerOutcome) _ => ?_⟩
  cases outcome <;> rfl

theorem seqKept {α β : Type} {p : SandboxProg α} {k : α → SandboxProg β}
    {post : SandboxLog → SandboxState → Except PyError β → Prop}
    (kept : Ends log s p fun _ s' _ => s' = s) (failed : ∀ log' e, post log' s (.error e))
    (second : ∀ log' a, Ends log' s (k a) post) : Ends log s (p.bind k) post :=
  wpSeq kept (fun log' _ e same => same ▸ failed log' e) fun log' _ a same => same ▸ second log' a

theorem reapEnds {field : SandboxState → Option PyStr} {removal : PyStr → DockerCommand}
    {forget : SandboxState → SandboxState}
    (kept : ∀ s, (forget s).isEstablished = s.isEstablished) :
    Ends log s (reap field removal forget) fun _ s' _ => s'.isEstablished = s.isEstablished := by
  unfold reap Ends wp
  dsimp only
  cases field s with
  | none => rfl
  | some name =>
    refine ⟨trivial, fun (outcome : DockerOutcome) _ => ?_⟩
    cases outcome with
    | raised e => rfl
    | completed | osError | timeoutExpired => exact kept s

theorem unmarkEnds : Ends log s unmark fun _ s' _ => s'.isEstablished = false := rfl

theorem destroyEnds : Ends log s destroy fun _ s' _ => s'.isEstablished = false := by
  refine wpSeq unmarkEnds (fun _ _ _ off => off) fun _ s₁ _ off => ?_
  refine wpSeq (wpMono (reapEnds fun _ => rfl) fun _ _ _ kept => kept.trans off) (fun _ _ _ off => off)
    fun _ s₂ _ off => ?_
  refine wpSeq (wpMono (reapEnds fun _ => rfl) fun _ _ _ kept => kept.trans off) (fun _ _ _ off => off)
    fun _ s₃ _ off => ?_
  exact wpMono (reapEnds fun _ => rfl) fun _ _ _ kept => kept.trans off

theorem destroyQuietlyEnds : Ends log s destroyQuietly fun _ s' _ => s'.isEstablished = false := by
  refine wpTryCatch.2 (wpMono destroyEnds fun _ s' r off => ?_)
  cases r with
  | ok _ => exact off
  | error e => exact off

theorem refuseEnds {α : Type} {e : PyError} {post : SandboxLog → SandboxState → Except PyError α → Prop}
    (refused : ∀ log' s' e', s'.isEstablished = false → post log' s' (.error e')) :
    Ends log s (destroy.bind fun _ => .raise e) post :=
  wpSeq destroyEnds (fun log' s' e' off => refused log' s' e' off) fun log' s' _ off =>
    refused log' s' e off

theorem createNetworkEnds (off : s.isEstablished = false) :
    Ends log s (createNetwork config) fun _ s' _ => s'.isEstablished = false := by
  refine seqKept (readsEnds (resourceNameReads config)) (fun _ _ => off) fun _ name => ?_
  refine seqKept dockerOrEnds (fun _ _ => off) fun _ result => ?_
  dsimp only
  split
  · exact refuseEnds fun _ _ _ off => off
  · exact off

theorem createContainerEnds (off : s.isEstablished = false) :
    Ends log s (createContainer config) fun _ s' _ => s'.isEstablished = false := by
  unfold createContainer Ends wp
  dsimp only
  cases s.network with
  | none => exact off
  | some network =>
    refine seqKept (readsEnds (resourceNameReads config)) (fun _ _ => off) fun _ name => ?_
    refine wpModify.2 (seqKept dockerOrEnds (fun _ _ => off) fun _ result => ?_)
    split
    · exact refuseEnds fun _ _ _ off => off
    · refine wpModify.2 (seqKept (readsEnds (connectAllReads name _)) (fun _ _ => off) fun _ _ => ?_)
      exact wpMono (readsEnds (awaitRunningReads config)) fun _ _ _ same => same ▸ off

theorem dumpedNone : Dumped [] := fun _ _ _ none => absurd none List.not_mem_nil

theorem dumpedOne {container : PyStr} {tool : RuleTool} {returncode : Int} {stdout stderr : PyStr}
    (dumped : Dumped log) (zero : returncode = 0) :
    Dumped (log ++ [⟨.docker (.dumpRules container tool), .completed returncode stdout stderr⟩]) := by
  intro container' tool' outcome made
  rcases List.mem_append.1 made with earlier | last
  · exact dumped container' tool' outcome earlier
  · cases List.mem_singleton.1 last
    exact ⟨stdout, stderr, by rw [zero]⟩

theorem readRuleDumpEnds {tool : RuleTool} (dumped : Dumped log) :
    Ends log s (readRuleDump tool) fun log' s' r => s' = s ∧ match r with
      | .ok _ => s.container.isSome = true ∧ Dumped log'
      | .error _ => s.container = none ∨ ¬ Dumped log' := by
  unfold readRuleDump theContainer Ends
  simp only [Program.bindEq, Program.bind, wp]
  cases held : s.container with
  | none => exact ⟨rfl, .inl rfl⟩
  | some container =>
    refine ⟨trivial, fun (outcome : DockerOutcome) _ => ?_⟩
    have last : (⟨.docker (.dumpRules container tool), outcome⟩ : Answered _ _) ∈
        log ++ [⟨.docker (.dumpRules container tool), outcome⟩] := by simp
    cases outcome with
    | completed returncode stdout stderr =>
      dsimp only [Program.bind]
      split
      · rename_i nonzero
        refine ⟨rfl, .inr fun all => ?_⟩
        obtain ⟨stdout', stderr', same⟩ := all _ _ _ last
        cases same
        exact nonzero rfl
      · rename_i zero
        exact ⟨rfl, rfl, dumpedOne dumped (by simpa using zero)⟩
    | osError | timeoutExpired | raised e =>
      refine ⟨rfl, .inr fun all => ?_⟩
      obtain ⟨stdout', stderr', same⟩ := all _ _ _ last
      cases same

theorem verifyEnds (dumped : Dumped log) :
    Ends log s (verify config policy) fun log' s' r => match r with
      | .ok _ => s' = s ∧ s.container.isSome = true
      | .error _ => (s' = s ∧ (s.container = none ∨ ¬ Dumped log')) ∨ s'.isEstablished = false := by
  unfold verify Ends wp
  dsimp only
  cases held : s.container with
  | none => exact .inl ⟨rfl, .inl rfl⟩
  | some container =>
    refine wpSeq (readRuleDumpEnds dumped) ?_ ?_
    · rintro log₁ _ e ⟨rfl, why⟩
      exact .inl ⟨rfl, .inr (why.resolve_left (by simp [held]))⟩
    · rintro log₁ _ ruleDump ⟨rfl, -, dumped₁⟩
      refine wpSeq (readRuleDumpEnds dumped₁) ?_ ?_
      · rintro log₂ _ e ⟨rfl, why⟩
        exact .inl ⟨rfl, .inr (why.resolve_left (by simp [held]))⟩
      · rintro log₂ _ v6Dump ⟨rfl, -, dumped₂⟩
        split
        · exact wpSeq unmarkEnds (fun _ _ _ off => .inr off) fun _ _ _ _ =>
            refuseEnds fun _ _ _ off => .inr off
        · exact ⟨rfl, rfl⟩

theorem verifyMarks : Ends log s (verify config policy) fun _ s' r => match r with
    | .ok _ => s' = s ∧ s.container.isSome = true
    | .error _ => s' = s ∨ s'.isEstablished = false := by
  refine wpAnyLog (wpMono (verifyEnds dumpedNone) ?_) log
  rintro log' s' (e | verification) ended
  · exact ended.imp And.left id
  · exact ended

theorem verifyPrivilegeDropEnds :
    Ends log s (verifyPrivilegeDrop config) fun _ s' r => match r with
      | .ok _ => s' = s
      | .error _ => s' = s ∨ s'.isEstablished = false := by
  unfold verifyPrivilegeDrop Ends
  split
  · rfl
  · refine seqKept (readsEnds (execReads config _)) (fun _ _ => .inl rfl) fun _ identity => ?_
    dsimp only
    split
    · exact wpSeq unmarkEnds (fun _ _ _ off => .inr off) fun _ _ _ _ =>
        refuseEnds fun _ _ _ off => .inr off
    · refine seqKept (readsEnds (execReads config _)) (fun _ _ => .inl rfl) fun _ probe => ?_
      split
      · exact wpSeq unmarkEnds (fun _ _ _ off => .inr off) fun _ _ _ _ =>
          refuseEnds fun _ _ _ off => .inr off
      · rfl

theorem standUpEnds (off : s.isEstablished = false) :
    Ends log s (standUp config policy) fun _ s' r =>
      s'.isEstablished = false ∧ ∀ verification, r = .ok verification → s'.container.isSome = true := by
  refine wpSeq (createNetworkEnds off) (fun _ _ _ off => ⟨off, nofun⟩) fun _ s₁ _ off => ?_
  refine wpSeq (createContainerEnds off) (fun _ _ _ off => ⟨off, nofun⟩) fun _ s₂ _ off => ?_
  refine seqKept (readsEnds (installEgressRulesReads policy)) (fun _ _ => ⟨off, nofun⟩) fun _ _ => ?_
  refine wpSeq verifyMarks ?_ ?_
  · rintro _ s₃ e (rfl | off')
    · exact ⟨off, nofun⟩
    · exact ⟨off', nofun⟩
  · rintro _ _ verification ⟨rfl, held⟩
    refine wpSeq verifyPrivilegeDropEnds ?_ ?_
    · rintro _ s₄ e (rfl | off')
      · exact ⟨off, nofun⟩
      · exact ⟨off', nofun⟩
    · rintro _ _ _ rfl
      exact ⟨off, fun _ _ => held⟩

theorem establishEnds : Ends log s (establish config policy) fun _ s' r => match r with
    | .ok _ => s.isEstablished = false ∧ s'.isEstablished = true ∧ s'.container.isSome = true
    | .error _ => (s.isEstablished = true ∧ s' = s) ∨
        (s.isEstablished = false ∧ s'.isEstablished = false) := by
  unfold establish Ends wp
  dsimp only
  split
  · rename_i on
    exact .inl ⟨on, rfl⟩
  · rename_i off
    simp only [Bool.not_eq_true] at off
    refine seqKept (readsEnds (preflightReads config)) (fun _ _ => .inr ⟨off, off⟩) fun _ _ => ?_
    refine wpBind.2 (wpTryCatch.2 (wpMono (standUpEnds off) ?_))
    rintro log' s' (e | verification) ⟨off', held⟩
    · refine wpSeq unmarkEnds (fun _ _ _ off' => .inr ⟨off, off'⟩) fun _ _ _ _ => ?_
      exact wpSeq destroyQuietlyEnds (fun _ _ _ off' => .inr ⟨off, off'⟩)
        fun _ _ _ off' => .inr ⟨off, off'⟩
    · exact ⟨off, rfl, held _ rfl⟩

theorem runEnds {argv : List PyStr} :
    wp (fun _ => True) (fun _ _ => s.isEstablished = true) log s (run config argv)
      fun _ s' _ => s' = s := by
  unfold run wp
  dsimp only
  split
  · rfl
  · rename_i proven
    simp only [Bool.or_eq_true, Bool.not_eq_true', not_or, Bool.not_eq_false] at proven
    exact wpReadsOnly (execReads config argv) fun _ _ _ => proven.1

end Marks

section Sessions
variable {config : DockerSandboxConfig} {policy : SandboxEgressPolicy} {s s' : SandboxState}
  {op : SandboxOperation} {trace : SandboxLog} {r : Except PyError Unit} {history : List Performed}

theorem runOnlyEstablished {argv : List PyStr}
    (ran : Runs s (perform config policy (.run argv)) trace r s') :
    s' = s ∧ ∀ made ∈ trace, s.isEstablished = true := by
  obtain ⟨r₁, whole, -⟩ := runsDiscard ran
  obtain ⟨same, allowed⟩ := wpWhole runEnds whole fun _ _ => trivial
  refine ⟨same, fun made member => ?_⟩
  obtain ⟨before, after, rfl⟩ := List.append_of_mem member
  exact allowed before made.1 made.2 after rfl

inductive Stands (s : SandboxState) : SandboxOperation → Except PyError Unit → SandboxState → Prop where
  | established {s' : SandboxState} (off : s.isEstablished = false) (held : s'.container.isSome = true) :
      Stands s .establish (.ok ()) s'
  | refused {e : PyError} (on : s.isEstablished = true) : Stands s .establish (.error e) s
  | verified (on : s.isEstablished = true) : Stands s .verify (.ok ()) s
  | ran {argv : List PyStr} {r : Except PyError Unit} (on : s.isEstablished = true) :
      Stands s (.run argv) r s

theorem performStands (ran : Runs s (perform config policy op) trace r s')
    (held : s.isEstablished = true → s.container.isSome = true)
    (dumped : op = .verify → s.isEstablished = true → Dumped trace)
    (on : s'.isEstablished = true) : Stands s op r s' := by
  cases op with
  | establish =>
    obtain ⟨r₁, whole, rfl⟩ := runsDiscard ran
    obtain ⟨ended, -⟩ := wpWhole establishEnds whole fun _ _ => trivial
    cases r₁ with
    | ok verification => exact .established ended.1 ended.2.2
    | error e =>
      rcases ended with ⟨earlier, rfl⟩ | ⟨-, off⟩
      · exact .refused earlier
      · rw [off] at on
        contradiction
  | verify =>
    obtain ⟨r₁, whole, rfl⟩ := runsDiscard ran
    obtain ⟨ended, -⟩ := wpWhole (verifyEnds dumpedNone) whole fun _ _ => trivial
    cases r₁ with
    | ok verification =>
      obtain ⟨rfl, -⟩ := ended
      exact .verified on
    | error e =>
      rcases ended with ⟨rfl, none | failed⟩ | off
      · simp [none] at held
        rw [held] at on
        contradiction
      · exact absurd (dumped rfl on) failed
      · rw [off] at on
        contradiction
  | run argv =>
    obtain ⟨rfl, -⟩ := runOnlyEstablished ran
    exact .ran on
  | destroy =>
    obtain ⟨off, -⟩ := wpWhole destroyEnds ran fun _ _ => trivial
    rw [off] at on
    contradiction

def VerificationsDump (history : List Performed) : Prop :=
  ∀ p ∈ history, p.op = .verify → p.before.isEstablished = true → Dumped p.trace

/- The mark of establishment stands over a container, for a verification that has succeeded,
and after every failed one only a new establishment sets it. -/
structure Marked (history : List Performed) (s : SandboxState) : Prop where
  held : s.isEstablished = true → s.container.isSome = true
  verified : s.isEstablished = true → lastVerification history = some true
  renewed : ∀ before p after, history = before ++ p :: after → p.op = .verify → p.result ≠ .ok () →
    s.isEstablished = true → ∃ q ∈ after, q.op = .establish ∧ q.result = .ok ()

theorem lastVerificationSnoc {p : Performed} : lastVerification (history ++ [p]) =
    p.verification.or (lastVerification history) := by
  unfold lastVerification
  cases p.verification.eq_none_or_eq_some with
  | inl none => simp [none]
  | inr found =>
    obtain ⟨last, found⟩ := found
    simp [found]

theorem sessionMarked (session : Session config policy history s)
    (dumped : VerificationsDump history) : Marked history s := by
  induction session with
  | nil => exact ⟨nofun, nofun, fun _ _ _ none => by simp at none⟩
  | @perform history s s' op trace r earlier ran ih =>
    have marked := ih fun p member => dumped p (List.mem_append_left _ member)
    have stands : s'.isEstablished = true → Stands s op r s' :=
      performStands ran marked.held (dumped ⟨op, s, trace, r, s'⟩ (by simp))
    refine ⟨fun on => ?_, fun on => ?_, fun before p after split verifies failed on => ?_⟩
    · cases stands on with
      | established off held => exact held
      | refused on | verified on | ran on => exact marked.held on
    · rw [lastVerificationSnoc]
      cases stands on with
      | established off held => simp [Performed.verification, off, Except.isOk, Except.toBool]
      | refused on => simpa [Performed.verification, on] using marked.verified on
      | verified on => simp [Performed.verification, Except.isOk, Except.toBool]
      | ran on => simpa [Performed.verification] using marked.verified on
    · rcases after.eq_nil_or_concat with rfl | ⟨between, last, rfl⟩
      · obtain ⟨-, same⟩ := List.append_inj' split rfl
        cases same
        cases stands on with
        | verified on => exact absurd rfl failed
        | established | refused | ran => cases verifies
      · rw [List.concat_eq_append, ← List.cons_append, ← List.append_assoc] at split
        obtain ⟨same, lastSame⟩ := List.append_inj' split rfl
        cases lastSame
        have earlierRenewed : s.isEstablished = true →
            ∃ q ∈ between.concat ⟨op, s, trace, r, s'⟩, q.op = .establish ∧ q.result = .ok () := by
          intro on
          obtain ⟨q, member, renews⟩ := marked.renewed before p between same verifies failed on
          exact ⟨q, by simp [member], renews⟩
        cases stands on with
        | established off held => exact ⟨⟨.establish, s, trace, .ok (), s'⟩, by simp, rfl, rfl⟩
        | refused on | verified on | ran on => exact earlierRenewed on

theorem sessionRuns (session : Session config policy history s) {p : Performed} {argv : List PyStr}
    (member : p ∈ history) (runs : p.op = .run argv) (made : p.trace ≠ []) :
    p.before.isEstablished = true := by
  induction session with
  | nil => exact absurd member List.not_mem_nil
  | @perform history s s' op trace r earlier ran ih =>
    rcases List.mem_append.1 member with before | last
    · exact ih before
    · cases List.mem_singleton.1 last
      cases runs
      obtain ⟨call, rest⟩ := List.exists_mem_of_ne_nil _ made
      exact (runOnlyEstablished ran).2 call rest

/- A session is fail-closed: workloads run on an established sandbox only, an established
sandbox has passed its last verification, and one whose verification has raised stays down
until it is established anew. -/
theorem failsClosed (session : Session config policy history s)
    (dumped : VerificationsDump history) :
    (∀ p ∈ history, ∀ argv, p.op = .run argv → p.trace ≠ [] → p.before.isEstablished = true) ∧
    (s.isEstablished = true → lastVerification history = some true) ∧
    ∀ before p after, history = before ++ p :: after → p.op = .verify → p.result ≠ .ok () →
      s.isEstablished = true → ∃ q ∈ after, q.op = .establish ∧ q.result = .ok () := by
  have marked := sessionMarked session dumped
  exact ⟨fun p member argv runs made => sessionRuns session member runs made, marked.verified,
    marked.renewed⟩

end Sessions

def siteConfig : DockerSandboxConfig := ⟨py "sgpt-sbx", py "30.0", 1, none, [], false⟩

/- A daemon for which every command succeeds, and whose dumps, when they do, show the rules
of `sitePolicy`. -/
def siteDocker (dumps : Bool) : SandboxLog → (c : SandboxCall) → c.Answer
  | _, .which => true
  | _, .beforeDeadline => true
  | _, .uuid4 => py "0"
  | _, .docker (.inspectRunning _) => .completed 0 (py "true") []
  | _, .docker (.dumpRules _ .iptables) => .completed (if dumps then 0 else 1)
      (py "-P OUTPUT DROP\n-A OUTPUT -d 93.184.216.34/32 -j ACCEPT\n") []
  | _, .docker (.dumpRules _ .ip6tables) => .completed 0 (py "-P OUTPUT DROP\n") []
  | _, .docker _ => .completed 0 [] []

def strayDocker : SandboxLog → (c : SandboxCall) → c.Answer
  | _, .docker (.dumpRules _ .iptables) => .completed 0 (py "-P OUTPUT DROP\n-A OUTPUT -d 10.0.0.8/32 -j ACCEPT\n") []
  | log, c => siteDocker true log c

def siteEstablished : SandboxState := ⟨some (py "sgpt-sbx-0"), some (py "sgpt-sbx-0"), none, true⟩

def sitePerformed (docker : SandboxLog → (c : SandboxCall) → c.Answer) (s : SandboxState) (op : SandboxOperation) :
    Performed :=
  let run := play docker [] s (perform siteConfig sitePolicy op)
  ⟨op, s, run.1, run.2.1, run.2.2⟩

theorem sitePerforms {history : List Performed} {s : SandboxState} (session : Session siteConfig sitePolicy history s)
    (docker : SandboxLog → (c : SandboxCall) → c.Answer) (op : SandboxOperation) :
    Session siteConfig sitePolicy (history ++ [sitePerformed docker s op]) (sitePerformed docker s op).after :=
  .perform session (playRuns docker [] s _)

theorem siteDumped {docker : SandboxLog → (c : SandboxCall) → c.Answer} {s : SandboxState} {op : SandboxOperation}
    (answers : ∀ log container tool, ∃ stdout stderr,
      docker log (.docker (.dumpRules container tool)) = .completed 0 stdout stderr) :
    Dumped (sitePerformed docker s op).trace := by
  intro container tool outcome member
  obtain ⟨front, back, split⟩ := List.append_of_mem member
  rw [playMade split]
  exact answers _ container tool

def siteFirst : Performed := sitePerformed (siteDocker true) .fresh .establish
def siteStray : Performed := sitePerformed strayDocker siteFirst.after .verify
def siteAnew : Performed := sitePerformed (siteDocker true) siteStray.after .establish
def siteVerified : Performed := sitePerformed (siteDocker true) siteAnew.after .verify
def siteRan : Performed := sitePerformed (siteDocker true) siteVerified.after (.run [py "true"])

theorem siteSession : Session siteConfig sitePolicy [siteFirst, siteStray, siteAnew, siteVerified, siteRan] siteRan.after :=
  sitePerforms (sitePerforms (sitePerforms (sitePerforms (sitePerforms .nil _ _) _ _) _ _) _ _) _ _

theorem siteOutcomes : siteStray.result = .error sandboxVerificationFailedError ∧ siteStray.after.isEstablished = false ∧
    siteRan.trace ≠ [] ∧ siteRan.after = siteEstablished := by
  decide +kernel

theorem siteFailsClosed : Session siteConfig sitePolicy [siteFirst, siteStray, siteAnew, siteVerified, siteRan]
      siteEstablished ∧ siteStray.result = .error sandboxVerificationFailedError ∧
    siteRan.before.isEstablished = true ∧
    lastVerification [siteFirst, siteStray, siteAnew, siteVerified, siteRan] = some true ∧
    ∃ q ∈ [siteAnew, siteVerified, siteRan], q.op = .establish ∧ q.result = .ok () := by
  obtain ⟨failed, -, started, last⟩ := siteOutcomes
  have session := siteSession
  rw [last] at session
  have answers : ∀ log container tool, ∃ stdout stderr,
      siteDocker true log (.docker (.dumpRules container tool)) = .completed 0 stdout stderr := by
    intro log container tool
    cases tool <;> exact ⟨_, _, rfl⟩
  have strayAnswers : ∀ log container tool, ∃ stdout stderr,
      strayDocker log (.docker (.dumpRules container tool)) = .completed 0 stdout stderr := by
    intro log container tool
    cases tool <;> exact ⟨_, _, rfl⟩
  have dumped : VerificationsDump [siteFirst, siteStray, siteAnew, siteVerified, siteRan] := by
    intro p member _ _
    simp only [List.mem_cons, List.not_mem_nil, or_false] at member
    rcases member with rfl | rfl | rfl | rfl | rfl
    · exact siteDumped answers
    · exact siteDumped strayAnswers
    · exact siteDumped answers
    · exact siteDumped answers
    · exact siteDumped answers
  obtain ⟨workloads, verified, renewed⟩ := failsClosed session dumped
  refine ⟨session, failed, workloads siteRan (by simp) _ rfl started, verified rfl, ?_⟩
  exact renewed [siteFirst] siteStray [siteAnew, siteVerified, siteRan] rfl rfl (by rw [failed]; nofun) rfl

def siteUndumped : Performed := sitePerformed (siteDocker false) siteFirst.after .verify

theorem siteVerifyFails : siteUndumped.result = .error sandboxVerificationFailedError ∧
    siteUndumped.after = siteEstablished := by
  decide +kernel

theorem failedDumpStaysEstablished : ∃ before p, Session siteConfig sitePolicy (before ++ [p])
    siteEstablished ∧ siteEstablished.isEstablished = true ∧ p.op = .verify ∧ p.result ≠ .ok () ∧
    lastVerification (before ++ [p]) = some false := by
  obtain ⟨failed, last⟩ := siteVerifyFails
  have session := sitePerforms (sitePerforms .nil (siteDocker true) .establish) (siteDocker false) .verify
  refine ⟨[siteFirst], siteUndumped, last ▸ session, rfl, rfl, ?_, ?_⟩
  · rw [failed]
    nofun
  · have judged : siteUndumped.verification = some false := by
      rw [Performed.verification, failed]
      rfl
    rw [lastVerificationSnoc, judged]
    rfl

end DockerEgressSandbox
end SentinelGpt
