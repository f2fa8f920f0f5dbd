import SentinelGpt.SandboxSessions

/-! What the establishment of a sandbox may leave behind. -/
namespace SentinelGpt
open Calling

inductive SandboxResource where
  | network (name : PyStr)
  | container (name : PyStr)
  deriving DecidableEq, Repr

namespace DockerEgressSandbox

/- What a command may have created: a client that gave up waiting says nothing of what the
daemon did, and a container may be there although it did not start. -/
def mayCreate : Answered SandboxCall SandboxCall.Answer → List SandboxResource
  | ⟨.docker (.networkCreate name), .completed returncode _ _⟩ =>
    if returncode = 0 then [.network name] else []
  | ⟨.docker (.networkCreate name), .timeoutExpired⟩ => [.network name]
  | ⟨.docker (.networkCreate name), .raised _⟩ => [.network name]
  | ⟨.docker (.runContainer name _), .completed _ _ _⟩ => [.container name]
  | ⟨.docker (.runContainer name _), .timeoutExpired⟩ => [.container name]
  | ⟨.docker (.runContainer name _), .raised _⟩ => [.container name]
  | _ => []

def removed : SandboxCall → List SandboxResource
  | .docker (.removeContainer name) => [.container name]
  | .docker (.removeNetwork name) => [.network name]
  | _ => []

def account (left : List SandboxResource) (made : Answered SandboxCall SandboxCall.Answer) :
    List SandboxResource :=
  (left.filter fun resource => !(removed made.1).contains resource) ++ mayCreate made

/- What may have been created with no removal issued since. -/
def unreaped (log : SandboxLog) : List SandboxResource := log.foldl account []

def Ordinary : Answered SandboxCall SandboxCall.Answer → Prop
  | ⟨.docker _, .raised _⟩ => False
  | _ => True

def Holds (s : SandboxState) : SandboxResource → Prop
  | .network name => s.network = some name
  | .container name => s.container = some name ∨ s.pendingContainer = some name

/- Everything unreaped is under a name the sandbox still knows. -/
def Covered (log : SandboxLog) (s : SandboxState) : Prop := ∀ resource ∈ unreaped log, Holds s resource

section Coverage
variable {config : DockerSandboxConfig} {policy : SandboxEgressPolicy} {log : SandboxLog}
  {s : SandboxState}

theorem unreapedSnoc {made : Answered SandboxCall SandboxCall.Answer} :
    unreaped (log ++ [made]) = account (unreaped log) made := by
  simp [unreaped]

theorem coveredFresh : Covered log .fresh ↔ unreaped log = [] := by
  constructor
  · intro covered
    refine List.eq_nil_iff_forall_not_mem.2 fun resource member => ?_
    cases resource with
    | network name => exact nomatch covered _ member
    | container name => exact nomatch covered _ member
  · intro none resource member
    rw [none] at member
    exact absurd member List.not_mem_nil

theorem coveredCall {made : Answered SandboxCall SandboxCall.Answer} (none : mayCreate made = [])
    (covered : Covered log s) : Covered (log ++ [made]) s := by
  intro resource member
  rw [unreapedSnoc, account, none, List.append_nil] at member
  exact covered resource (List.mem_filter.1 member).1

theorem harmlessCreates {c : SandboxCall} {answer : c.Answer} (harmless : creating c = false) :
    mayCreate ⟨c, answer⟩ = [] := by
  cases c with
  | docker command =>
    cases command with
    | networkCreate | runContainer => cases harmless
    | _ => rfl
  | _ => rfl

abbrev Reaps {α : Type} (log : SandboxLog) (s : SandboxState) (p : SandboxProg α)
    (post : SandboxLog → SandboxState → Except PyError α → Prop) : Prop :=
  wp Ordinary (fun _ c => ∀ name, c ≠ .docker (.networkCreate name)) log s p post

theorem readsReaps {α : Type} {p : SandboxProg α} (reads : Harmless p) (covered : Covered log s) :
    Reaps log s p fun log' s' _ => s' = s ∧ Covered log' s := by
  refine wpReads reads (fun _ c harmless name => ?_) (fun _ c answer harmless _ covered => ?_) covered
  · rintro rfl
    cases harmless
  · exact coveredCall (harmlessCreates harmless) covered

theorem coveredReap {c : SandboxCall} {answer : c.Answer} {s' : SandboxState}
    (none : mayCreate ⟨c, answer⟩ = []) (covered : Covered log s)
    (kept : ∀ resource, Holds s resource → resource ∉ removed c → Holds s' resource) :
    Covered (log ++ [⟨c, answer⟩]) s' := by
  intro resource member
  rw [unreapedSnoc, account, none, List.append_nil] at member
  obtain ⟨left, spared⟩ := List.mem_filter.1 member
  exact kept resource (covered resource left) (by simpa using spared)

theorem reapReaps {field : SandboxState → Option PyStr} {removal : PyStr → DockerCommand}
    {forget : SandboxState → SandboxState} (covered : Covered log s)
    (removes : ∀ name, creating (.docker (removal name)) = false)
    (idle : field s = none → forget s = s)
    (kept : ∀ name resource, field s = some name → Holds s resource →
      resource ∉ removed (.docker (removal name)) → Holds (forget s) resource) :
    Reaps log s (reap field removal forget) fun log' s' r =>
      s' = forget s ∧ Covered log' s' ∧ r = .ok () := by
  unfold reap Reaps wp
  dsimp only
  cases held : field s with
  | none => exact ⟨(idle held).symm, covered, rfl⟩
  | some name =>
    refine ⟨?_, fun (outcome : DockerOutcome) given => ?_⟩
    · rintro other same
      have made := removes name
      rw [same] at made
      cases made
    · have covered' : Covered (log ++ [⟨.docker (removal name), outcome⟩]) (forget s) :=
        coveredReap (harmlessCreates (removes name)) covered fun resource => kept name resource held
      cases outcome with
      | raised e => exact given.elim
      | completed | osError | timeoutExpired => exact ⟨rfl, covered', rfl⟩

theorem destroyReaps (covered : Covered log s) :
    Reaps log s destroy fun log' s' r => s' = .fresh ∧ Covered log' s' ∧ r = .ok () := by
  refine wpModify.2 (wpSeq (reapReaps covered (fun _ => rfl) ?_ ?_)
    (fun _ _ _ ended => nomatch ended.2.2) ?_)
  · intro none
    rw [← none]
  · rintro name (network | other) held holds spared
    · exact holds
    · refine .inl (holds.resolve_right fun pending => spared ?_)
      cases held.symm.trans pending
      exact List.mem_singleton_self _
  rintro log₁ _ _ ⟨rfl, covered₁, -⟩
  refine wpSeq (reapReaps covered₁ (fun _ => rfl) ?_ ?_) (fun _ _ _ ended => nomatch ended.2.2) ?_
  · intro none
    rw [← none]
  · rintro name (network | other) held holds spared
    · exact holds
    · refine .inr (holds.resolve_left fun container => spared ?_)
      cases held.symm.trans container
      exact List.mem_singleton_self _
  rintro log₂ _ _ ⟨rfl, covered₂, -⟩
  refine wpMono (reapReaps covered₂ (fun _ => rfl) ?_ ?_) ?_
  · intro none
    rw [← none]
  · rintro name (network | other) held holds spared
    · refine absurd ?_ spared
      cases held.symm.trans holds
      exact List.mem_singleton_self _
    · exact holds
  rintro log₃ _ r ⟨rfl, covered₃, rfl⟩
  exact ⟨rfl, covered₃, rfl⟩

theorem destroyQuietlyReaps (covered : Covered log s) :
    Reaps log s destroyQuietly fun log' s' r => s' = .fresh ∧ Covered log' s' ∧ r = .ok () := by
  refine wpTryCatch.2 (wpMono (destroyReaps covered) ?_)
  rintro log' s' _ ⟨same, covered', rfl⟩
  exact ⟨same, covered', rfl⟩

theorem refuseReaps {α : Type} {e : PyError} (covered : Covered log s) :
    Reaps log s (destroy.bind fun _ => (.raise e : SandboxProg α)) fun log' s' r =>
      r = .error e ∧ s' = .fresh ∧ Covered log' s' := by
  refine wpSeq (destroyReaps covered) (fun _ _ _ ended => nomatch ended.2.2) ?_
  rintro log' s' _ ⟨same, covered', -⟩
  exact ⟨rfl, same, covered'⟩

theorem refuseMarkedReaps {α : Type} {e : PyError} (covered : Covered log s) :
    Reaps log s (unmark.bind fun _ => destroy.bind fun _ => (.raise e : SandboxProg α))
      fun log' s' r => r = .error e ∧ s' = .fresh ∧ Covered log' s' := by
  refine wpModify.2 (refuseReaps fun resource member => ?_)
  cases resource with
  | network name => exact covered _ member
  | container name => exact covered _ member

theorem coveredPending {name network : PyStr} {outcome : DockerOutcome} (covered : Covered log s)
    (pending : s.pendingContainer = none) :
    Covered (log ++ [⟨.docker (.runContainer name network), outcome⟩])
      { s with pendingContainer := some name } := by
  intro resource member
  rw [unreapedSnoc] at member
  rcases List.mem_append.1 member with earlier | created
  · have held := covered resource (List.mem_filter.1 earlier).1
    cases resource with
    | network other => exact held
    | container other => exact .inl (held.resolve_right (by simp [pending]))
  · have same : resource = .container name := by
      cases outcome with
      | completed | timeoutExpired | raised => exact List.mem_singleton.1 created
      | osError => exact absurd created List.not_mem_nil
    rw [same]
    exact .inr rfl

theorem createContainerReaps (covered : Covered log s) (container : s.container = none)
    (pending : s.pendingContainer = none) :
    Reaps log s (createContainer config) fun log' s' _ => Covered log' s' := by
  unfold createContainer Reaps wp
  dsimp only
  cases s.network with
  | none => exact covered
  | some network =>
    refine wpSeq (readsReaps (resourceNameReads config) covered) (fun _ _ _ ended => ended.1 ▸ ended.2) ?_
    rintro log₁ s₁ name ⟨same, covered₁⟩
    rw [same]
    refine wpModify.2 (wpBind.2 ⟨fun _ failed => (by cases failed), fun (outcome : DockerOutcome) given => ?_⟩)
    have covered₂ : Covered (log₁ ++ [⟨.docker (.runContainer name network), outcome⟩])
        { s with pendingContainer := some name } := coveredPending covered₁ pending
    cases outcome with
    | raised e => exact given.elim
    | osError | timeoutExpired => exact covered₂
    | completed returncode stdout stderr =>
      unfold wp
      dsimp only
      split
      · exact wpMono (refuseReaps covered₂) fun _ _ _ refused => refused.2.2
      refine wpModify.2 ?_
      have covered₃ : Covered (log₁ ++ [⟨.docker (.runContainer name network),
          .completed returncode stdout stderr⟩])
          { s with pendingContainer := none, container := some name } := by
        intro resource member
        have held := covered₂ resource member
        cases resource with
        | network other => exact held
        | container other => exact .inl (held.resolve_left (by simp [container]))
      refine wpSeq (readsReaps (connectAllReads name _) covered₃) (fun _ _ _ ended => ended.1 ▸ ended.2) ?_
      rintro log₂ s₂ _ ⟨same, covered₄⟩
      rw [same]
      exact wpMono (readsReaps (awaitRunningReads config) covered₄) fun _ _ _ ended => ended.1 ▸ ended.2

theorem verifyReaps (covered : Covered log s) :
    Reaps log s (verify config policy) fun log' s' r => Covered log' s' ∧ match r with
      | .ok _ => s' = s
      | .error _ => s' = s ∨ s' = .fresh := by
  unfold verify Reaps wp
  dsimp only
  split
  · exact ⟨covered, .inl rfl⟩
  refine wpSeq (readsReaps (readRuleDumpReads .iptables) covered) ?_ ?_
  · rintro _ _ _ ⟨rfl, covered₁⟩
    exact ⟨covered₁, .inl rfl⟩
  rintro log₁ _ ruleDump ⟨rfl, covered₁⟩
  refine wpSeq (readsReaps (readRuleDumpReads .ip6tables) covered₁) ?_ ?_
  · rintro _ _ _ ⟨rfl, covered₂⟩
    exact ⟨covered₂, .inl rfl⟩
  rintro log₂ _ v6Dump ⟨rfl, covered₂⟩
  split
  · refine wpMono (refuseMarkedReaps covered₂) ?_
    rintro log₃ s₃ _ ⟨rfl, fresh, covered₃⟩
    exact ⟨covered₃, .inr fresh⟩
  · exact ⟨covered₂, rfl⟩

theorem verifyPrivilegeDropReaps (covered : Covered log s) :
    Reaps log s (verifyPrivilegeDrop config) fun log' s' _ => Covered log' s' := by
  unfold verifyPrivilegeDrop Reaps
  split
  · exact covered
  refine wpSeq (readsReaps (execReads config _) covered) (fun _ _ _ ended => ended.1 ▸ ended.2) ?_
  rintro log₁ _ identity ⟨rfl, covered₁⟩
  dsimp only
  split
  · exact wpMono (refuseMarkedReaps covered₁) fun _ _ _ refused => refused.2.2
  refine wpSeq (readsReaps (execReads config _) covered₁) (fun _ _ _ ended => ended.1 ▸ ended.2) ?_
  rintro log₂ _ probe ⟨rfl, covered₂⟩
  split
  · exact wpMono (refuseMarkedReaps covered₂) fun _ _ _ refused => refused.2.2
  · exact covered₂

theorem furnishReaps (covered : Covered log s) (container : s.container = none)
    (pending : s.pendingContainer = none) :
    Reaps log s (do
      createContainer config
      installEgressRules policy
      let verification ← verify config policy
      verifyPrivilegeDrop config
      return verification) fun log' s' _ => Covered log' s' := by
  refine wpSeq (createContainerReaps covered container pending) (fun _ _ _ covered => covered) ?_
  intro log₁ s₁ _ covered₁
  refine wpSeq (readsReaps (installEgressRulesReads policy) covered₁)
    (fun _ _ _ ended => ended.1 ▸ ended.2) ?_
  rintro log₂ _ _ ⟨rfl, covered₂⟩
  refine wpSeq (verifyReaps covered₂) (fun _ _ _ ended => ended.1) ?_
  rintro log₃ _ verification ⟨covered₃, rfl⟩
  exact wpSeq (verifyPrivilegeDropReaps covered₃) (fun _ _ _ covered => covered)
    fun _ _ _ covered => covered

theorem abandonReaps {α : Type} {e : PyError} (covered : Covered log s) :
    Reaps log s (unmark.bind fun _ => destroyQuietly.bind fun _ => (.raise e : SandboxProg α))
      fun log' s' r => r = .error e ∧ s' = .fresh ∧ Covered log' s' := by
  refine wpModify.2 (wpSeq (destroyQuietlyReaps fun resource member => ?_)
    (fun _ _ _ ended => nomatch ended.2.2) ?_)
  · cases resource with
    | network name => exact covered _ member
    | container name => exact covered _ member
  · rintro log' s' _ ⟨same, covered', -⟩
    exact ⟨rfl, same, covered'⟩

end Coverage
/-! The establishments that fail. -/
section Failing
variable {config : DockerSandboxConfig} {policy : SandboxEgressPolicy} {log trace : SandboxLog}
  {s s' : SandboxState} {e : PyError}

def NetworkTimedOut (log : SandboxLog) : Prop :=
  ∃ name, ⟨.docker (.networkCreate name), .timeoutExpired⟩ ∈ log

theorem timedOutAppend {first second : SandboxLog} :
    NetworkTimedOut (first ++ second) ↔ NetworkTimedOut first ∨ NetworkTimedOut second := by
  simp only [NetworkTimedOut, List.mem_append, exists_or]

theorem reapsRun {α : Type} {p : SandboxProg α} {r : Except PyError α}
    {post : SandboxLog → SandboxState → Except PyError α → Prop} (reaps : Reaps log s p post)
    (run : Runs s p trace r s') (ordinary : ∀ made ∈ trace, Ordinary made) :
    post (log ++ trace) s' r ∧ ¬ NetworkTimedOut trace := by
  obtain ⟨ended, allowed⟩ := wpRuns reaps run ordinary
  refine ⟨ended, ?_⟩
  rintro ⟨name, member⟩
  obtain ⟨first, last, split⟩ := List.append_of_mem member
  exact allowed first _ _ last split name rfl

def making (config : DockerSandboxConfig) (hex : PyStr) (outcome : DockerOutcome) : SandboxLog :=
  [⟨.uuid4, hex⟩, ⟨.docker (.networkCreate (config.resourcePrefix ++ py "-" ++ hex)), outcome⟩]

theorem createNetworkFresh : wp Ordinary (fun _ _ => True) [] .fresh (createNetwork config)
    fun log s r => ∃ hex outcome, log = making config hex outcome ∧ match r with
      | .ok _ => (∃ stdout stderr, outcome = .completed 0 stdout stderr) ∧
        s = { SandboxState.fresh with network := some (config.resourcePrefix ++ py "-" ++ hex) }
      | .error _ => s = .fresh ∧ (outcome = .timeoutExpired ∨ outcome = .osError ∨
        ∃ returncode stdout stderr, outcome = .completed returncode stdout stderr ∧ returncode ≠ 0) := by
  refine ⟨trivial, fun (hex : PyStr) _ => ⟨trivial, fun (outcome : DockerOutcome) given => ?_⟩⟩
  cases outcome with
  | raised e => exact given.elim
  | osError => exact ⟨hex, _, rfl, rfl, .inr (.inl rfl)⟩
  | timeoutExpired => exact ⟨hex, _, rfl, rfl, .inl rfl⟩
  | completed returncode stdout stderr =>
    dsimp only [Program.bind]
    split
    · rename_i nonzero
      exact ⟨hex, _, rfl, rfl, .inr (.inr ⟨returncode, stdout, stderr, rfl, nonzero⟩)⟩
    · rename_i zero
      have zero : returncode = 0 := by simpa using zero
      exact ⟨hex, _, rfl, ⟨stdout, stderr, by rw [zero]⟩, rfl⟩

theorem unreapedMaking {before : SandboxLog} {hex : PyStr} {outcome : DockerOutcome}
    (clear : unreaped before = []) : unreaped (before ++ making config hex outcome) =
      mayCreate ⟨.docker (.networkCreate (config.resourcePrefix ++ py "-" ++ hex)), outcome⟩ := by
  have start : before.foldl account [] = [] := clear
  rw [unreaped, List.foldl_append, start]
  rfl

theorem makingTimedOut {hex : PyStr} {outcome : DockerOutcome} :
    NetworkTimedOut (making config hex outcome) ↔ outcome = .timeoutExpired := by
  constructor
  · rintro ⟨name, member⟩
    simp only [making, List.mem_cons, List.not_mem_nil, or_false] at member
    rcases member with same | same <;> cases same
    rfl
  · rintro rfl
    exact ⟨_, List.mem_cons_of_mem _ (List.mem_singleton_self _)⟩

theorem standUpFails {before : SandboxLog}
    (run : Runs .fresh (standUp config policy) trace (.error e) s)
    (ordinary : ∀ made ∈ trace, Ordinary made) (clear : unreaped before = []) :
    (NetworkTimedOut trace → s = .fresh ∧ unreaped (before ++ trace) ≠ []) ∧
      (¬ NetworkTimedOut trace → Covered (before ++ trace) s) := by
  rcases runsBind run with ⟨_, s₁, first, rest, made, furnished, rfl⟩ | ⟨_, failed, same⟩
  · obtain ⟨⟨hex, outcome, rfl, ⟨stdout, stderr, rfl⟩, rfl⟩, -⟩ :=
      wpWhole createNetworkFresh made fun made member => ordinary made (List.mem_append_left _ member)
    have held : Covered (before ++ making config hex (.completed 0 stdout stderr))
        { SandboxState.fresh with network := some (config.resourcePrefix ++ py "-" ++ hex) } := by
      intro resource member
      rw [unreapedMaking clear] at member
      cases List.mem_singleton.1 member
      rfl
    obtain ⟨covered, quiet⟩ := reapsRun (furnishReaps held rfl rfl) furnished fun made member =>
      ordinary made (List.mem_append_right _ member)
    rw [timedOutAppend, makingTimedOut]
    refine ⟨fun timedOut => absurd timedOut (by simp [quiet]), fun _ => ?_⟩
    rwa [← List.append_assoc]
  · obtain ⟨⟨hex, outcome, rfl, rfl, ended⟩, -⟩ := wpWhole createNetworkFresh failed ordinary
    rw [makingTimedOut, coveredFresh, unreapedMaking clear]
    constructor
    · rintro rfl
      exact ⟨rfl, List.cons_ne_nil _ _⟩
    · intro answered
      rcases ended with timedOut | rfl | ⟨returncode, stdout, stderr, rfl, nonzero⟩
      · exact absurd timedOut answered
      · rfl
      · exact if_neg nonzero

theorem abandonFresh {α : Type} : wp (fun _ => True) (fun _ _ => True) [] .fresh
    (unmark.bind fun _ => destroyQuietly.bind fun _ => (.raise e : SandboxProg α))
    fun log s _ => log = [] ∧ s = .fresh := ⟨rfl, rfl⟩

/- From the start, an establishment that fails forgets every name, and leaves something
behind exactly when the creation of the network timed out. -/
theorem establishFresh (run : Runs .fresh (establish config policy) trace (.error e) s)
    (ordinary : ∀ made ∈ trace, Ordinary made) :
    s = .fresh ∧ (unreaped trace = [] ↔ ¬ NetworkTimedOut trace) := by
  cases run with
  | get later =>
    have clear : Covered [] .fresh := coveredFresh.2 rfl
    rcases runsBind later with ⟨_, s₁, before, after, checked, guarded, rfl⟩ | ⟨_, failed, same⟩
    · obtain ⟨⟨rfl, clear₁⟩, quiet⟩ := reapsRun (readsReaps (preflightReads config) clear) checked
        fun made member => ordinary made (List.mem_append_left _ member)
      rw [List.nil_append] at clear₁
      replace ordinary := fun made member => ordinary made (List.mem_append_right before member)
      rcases runsBind guarded with ⟨_, s₂, _, _, _, marked, _⟩ | ⟨_, failed, same⟩
      · cases marked with
        | get later => cases later with
          | set later => cases later
      · cases same
        rcases runsTryCatch failed with ⟨_, _, impossible⟩ | ⟨e₁, s₂, first, last, raised, abandoned, rfl⟩
        · cases impossible
        obtain ⟨timedOut, covered⟩ := standUpFails raised
          (fun made member => ordinary made (List.mem_append_left _ member)) (coveredFresh.1 clear₁)
        by_cases late : NetworkTimedOut first
        · obtain ⟨rfl, left⟩ := timedOut late
          obtain ⟨⟨rfl, rfl⟩, -⟩ := wpWhole abandonFresh abandoned fun _ _ => trivial
          simp only [List.append_nil, left, timedOutAppend, late, or_true, not_true, true_and]
        · obtain ⟨⟨-, rfl, covered'⟩, quiet'⟩ := reapsRun (abandonReaps (covered late)) abandoned
            fun made member => ordinary made (List.mem_append_right _ member)
          refine ⟨rfl, ?_⟩
          rw [timedOutAppend, timedOutAppend, ← List.append_assoc, coveredFresh.1 covered']
          simp [quiet, quiet', late]
    · obtain ⟨⟨rfl, clear₁⟩, quiet⟩ := reapsRun (readsReaps (preflightReads config) clear) failed ordinary
      rw [List.nil_append] at clear₁
      exact ⟨rfl, by simp [quiet, coveredFresh.1 clear₁]⟩

def OrdinarySession (history : List Performed) : Prop :=
  ∀ p ∈ history, ∀ made ∈ p.trace, Ordinary made

def Idle (s : SandboxState) : Prop := s.isEstablished = false → s = .fresh

theorem performIdle {op : SandboxOperation} {r : Except PyError Unit}
    (run : Runs s (perform config policy op) trace r s')
    (ordinary : ∀ made ∈ trace, Ordinary made) (idle : Idle s) : Idle s' := by
  intro off
  have nothing : Covered [] s := fun _ none => absurd none List.not_mem_nil
  cases op with
  | establish =>
    obtain ⟨r₁, whole, -⟩ := runsDiscard run
    obtain ⟨ended, -⟩ := wpWhole establishEnds whole fun _ _ => trivial
    cases r₁ with
    | ok verification =>
      rw [ended.2.1] at off
      contradiction
    | error e =>
      rcases ended with ⟨on, rfl⟩ | ⟨off, -⟩
      · rw [on] at off
        contradiction
      · cases idle off
        exact (establishFresh whole ordinary).1
  | verify =>
    obtain ⟨r₁, whole, -⟩ := runsDiscard run
    obtain ⟨⟨-, ended⟩, -⟩ := wpWhole (verifyReaps nothing) whole ordinary
    cases r₁ with
    | ok verification =>
      rw [ended] at off ⊢
      exact idle off
    | error e =>
      rcases ended with rfl | fresh
      · exact idle off
      · exact fresh
  | run argv =>
    rw [(runOnlyEstablished run).1] at off ⊢
    exact idle off
  | destroy => exact (wpWhole (destroyReaps nothing) run ordinary).1.1

theorem sessionIdle {history : List Performed} (session : Session config policy history s)
    (ordinary : OrdinarySession history) : Idle s := by
  induction session with
  | nil => exact fun _ => rfl
  | perform earlier run ih =>
    exact performIdle run (ordinary _ (List.mem_append_right _ (List.mem_singleton_self _)))
      (ih fun p member => ordinary p (List.mem_append_left _ member))

/- An establishment of any session that raises has left nothing behind, and the sandbox not
established, exactly when it began on a sandbox not established and the creation of its
network did not time out. -/
theorem establishReaps {history : List Performed} (session : Session config policy history s)
    (earlier : OrdinarySession history) (run : Runs s (establish config policy) trace (.error e) s')
    (ordinary : ∀ made ∈ trace, Ordinary made) :
    (unreaped trace = [] ∧ s'.isEstablished = false) ↔
      s.isEstablished = false ∧ ∀ name, ⟨.docker (.networkCreate name), .timeoutExpired⟩ ∉ trace := by
  cases off : s.isEstablished with
  | true =>
    obtain ⟨ended, -⟩ := wpWhole establishEnds run fun _ _ => trivial
    rcases ended with ⟨on, rfl⟩ | ⟨off', -⟩
    · simp [on]
    · rw [off] at off'
      contradiction
  | false =>
    cases sessionIdle session earlier off
    obtain ⟨rfl, reaped⟩ := establishFresh run ordinary
    rw [reaped, NetworkTimedOut, not_exists]
    simp [SandboxState.fresh]

end Failing
def lateDocker (late : DockerCommand → Bool) : SandboxLog → (c : SandboxCall) → c.Answer
  | _, .which | _, .beforeDeadline => true
  | _, .uuid4 => py "0"
  | _, .docker command => if late command then .timeoutExpired else .completed 0 [] []

def siteName : PyStr := py "sgpt-sbx" ++ py "-" ++ py "0"

def lateContainer : SandboxLog :=
  [⟨.docker .imageInspect, .completed 0 [] []⟩, ⟨.uuid4, py "0"⟩,
   ⟨.docker (.networkCreate siteName), .completed 0 [] []⟩, ⟨.uuid4, py "0"⟩,
   ⟨.docker (.runContainer siteName siteName), .timeoutExpired⟩,
   ⟨.docker (.removeContainer siteName), .completed 0 [] []⟩,
   ⟨.docker (.removeNetwork siteName), .completed 0 [] []⟩]

def lateNetwork : SandboxLog :=
  [⟨.docker .imageInspect, .completed 0 [] []⟩, ⟨.uuid4, py "0"⟩,
   ⟨.docker (.networkCreate siteName), .timeoutExpired⟩]

theorem lateContainerReaped : ∃ s', Runs SandboxState.fresh (establish siteConfig sitePolicy) lateContainer
    (.error sandboxSetupFailedError) s' ∧ unreaped lateContainer = [] ∧ s'.isEstablished = false := by
  have run : Runs SandboxState.fresh (establish siteConfig sitePolicy) lateContainer
      (.error sandboxSetupFailedError) .fresh :=
    playRuns (lateDocker fun | .runContainer _ _ => true | _ => false) [] SandboxState.fresh _
  have earlier : OrdinarySession [] := fun _ none => absurd none List.not_mem_nil
  refine ⟨_, run, (establishReaps .nil earlier run ?_).2 ⟨rfl, ?_⟩⟩
  · simp [lateContainer, Ordinary]
  · rintro name member
    simp only [lateContainer, List.mem_cons, List.not_mem_nil, or_false] at member
    rcases member with same | same | same | same | same | same | same <;> cases same

theorem lateNetworkLeft : ∃ s', Runs SandboxState.fresh (establish siteConfig sitePolicy) lateNetwork
    (.error sandboxSetupFailedError) s' ∧ (∀ made ∈ lateNetwork, Ordinary made) ∧
    unreaped lateNetwork = [.network siteName] := by
  refine ⟨_, playRuns (lateDocker fun | .networkCreate _ => true | _ => false) [] SandboxState.fresh _, ?_, rfl⟩
  simp [lateNetwork, Ordinary]

end DockerEgressSandbox
end SentinelGpt
