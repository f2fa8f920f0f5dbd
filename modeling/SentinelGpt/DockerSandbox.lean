import SentinelGpt.CallProgram
import SentinelGpt.SandboxPolicy

/-! The sandbox that drives the Docker client: its lifecycle, with every command it issues. -/
namespace SentinelGpt
open Calling

def sandboxUnavailableError : PyError := .other (py "SandboxUnavailableError")
def sandboxSetupFailedError : PyError := .other (py "SandboxSetupFailedError")
def sandboxVerificationFailedError : PyError := .other (py "SandboxVerificationFailedError")
def osError : PyError := .other (py "OSError")

/- `startupPolls` is the most polls the startup timeout leaves room for, and `execTimeoutS`
the text of a float. -/
structure DockerSandboxConfig where
  resourcePrefix : PyStr
  execTimeoutS : PyStr
  startupPolls : Nat
  workloadUid : Option Int
  extraNetworks : List PyStr
  checkDockerBinary : Bool

/- The commands by their subcommand: `image inspect`, `network create`, `run -d`,
`network connect`, `inspect`, `exec` of a rule script, of a rule dump and of a workload,
`rm -f` and `network rm`. -/
inductive DockerCommand where
  | imageInspect
  | networkCreate (name : PyStr)
  | runContainer (name network : PyStr)
  | networkConnect (network container : PyStr)
  | inspectRunning (container : PyStr)
  | installRules (container script : PyStr)
  | dumpRules (container : PyStr) (tool : RuleTool)
  | workload (uid : Option Int) (container : PyStr) (argv : List PyStr)
  | removeContainer (name : PyStr)
  | removeNetwork (name : PyStr)
  deriving DecidableEq, Repr

/- What the client reports: it ended, could not be started, outlived its timeout, or its
output could not be read. -/
inductive DockerOutcome where
  | completed (returncode : Int) (stdout stderr : PyStr)
  | osError
  | timeoutExpired
  | raised (e : PyError)
  deriving DecidableEq, Repr

structure CompletedProcess where
  returncode : Int
  stdout : PyStr
  stderr : PyStr
  deriving DecidableEq, Repr

structure ExecResult where
  argv : List PyStr
  exitCode : Int
  stdout : PyStr
  stderr : PyStr
  deriving DecidableEq, Repr

structure SandboxVerification where
  ruleDump : List PyStr
  defaultDrop : Bool
  allowedAddresses : List IPAddress
  workloadUid : Option Int
  deriving DecidableEq

/- `shutil.which`, `uuid.uuid4().hex[:12]`, the clock against the deadline, and the client. -/
inductive SandboxCall where
  | which
  | uuid4
  | beforeDeadline
  | docker (command : DockerCommand)
  deriving DecidableEq, Repr

def SandboxCall.Answer : SandboxCall → Type
  | .which | .beforeDeadline => Bool
  | .uuid4 => PyStr
  | .docker _ => DockerOutcome

structure SandboxState where
  network : Option PyStr
  container : Option PyStr
  pendingContainer : Option PyStr
  isEstablished : Bool
  deriving DecidableEq, Repr

def SandboxState.fresh : SandboxState := ⟨none, none, none, false⟩

abbrev SandboxProg (α : Type) := Program SandboxState SandboxCall SandboxCall.Answer PyError α

abbrev SandboxLog := List (Answered SandboxCall SandboxCall.Answer)

namespace DockerEgressSandbox

/- `_docker_with_timeout`, `_docker_or_unavailable`, `_docker_or_setup_failed`: a client that
cannot be invoked is the failure given. -/
def dockerOr (failure : PyError) (command : DockerCommand) : SandboxProg CompletedProcess :=
  .call (.docker command) fun
    | .completed returncode stdout stderr => .pure ⟨returncode, stdout, stderr⟩
    | .osError | .timeoutExpired => .raise failure
    | .raised e => .raise e

def bestEffort (command : DockerCommand) : SandboxProg Unit :=
  .call (.docker command) fun
    | .completed _ _ _ | .osError | .timeoutExpired => .pure ()
    | .raised e => .raise e

def reap (field : SandboxState → Option PyStr) (removal : PyStr → DockerCommand)
    (forget : SandboxState → SandboxState) : SandboxProg Unit :=
  .get fun s => match field s with
    | none => .pure ()
    | some name => do
      bestEffort (removal name)
      .modify forget

def unmark : SandboxProg Unit := .modify fun s => { s with isEstablished := false }

def destroy : SandboxProg Unit := do
  unmark
  reap (·.pendingContainer) .removeContainer fun s => { s with pendingContainer := none }
  reap (·.container) .removeContainer fun s => { s with container := none }
  reap (·.network) .removeNetwork fun s => { s with network := none }

def destroyQuietly : SandboxProg Unit := destroy.tryCatch fun _ => .pure ()

def theContainer : SandboxProg PyStr :=
  .get fun s => match s.container with
    | none => .raise .assertionError
    | some container => .pure container

section Lifecycle
variable (config : DockerSandboxConfig) (policy : SandboxEgressPolicy)

def preflight : SandboxProg Unit := do
  if config.checkDockerBinary then
    .call .which fun (found : Bool) => if found then .pure () else .raise sandboxUnavailableError
  let inspect ← dockerOr sandboxUnavailableError .imageInspect
  if inspect.returncode ≠ 0 then throw sandboxUnavailableError

def resourceName : SandboxProg PyStr :=
  .call .uuid4 fun (hex : PyStr) => .pure (config.resourcePrefix ++ py "-" ++ hex)

def createNetwork : SandboxProg Unit := do
  let name ← resourceName config
  let result ← dockerOr sandboxSetupFailedError (.networkCreate name)
  if result.returncode ≠ 0 then
    destroy
    throw sandboxSetupFailedError
  .modify fun s => { s with network := some name }

def connectAll (container : PyStr) : List PyStr → SandboxProg Unit
  | [] => .pure ()
  | extra :: rest => do
    let attached ← dockerOr sandboxSetupFailedError (.networkConnect extra container)
    if attached.returncode ≠ 0 then throw sandboxSetupFailedError
    connectAll container rest

def pollRunning (container : PyStr) : Nat → SandboxProg Unit
  | 0 => .raise sandboxSetupFailedError
  | polls + 1 => .call .beforeDeadline fun (early : Bool) => do
    if !early then throw sandboxSetupFailedError
    let state ← dockerOr sandboxSetupFailedError (.inspectRunning container)
    if state.returncode = 0 ∧ strip state.stdout = py "true" then return ()
    pollRunning container polls

def awaitRunning : SandboxProg Unit := do
  let container ← theContainer
  pollRunning container config.startupPolls

def createContainer : SandboxProg Unit :=
  .get fun s => match s.network with
    | none => .raise .assertionError
    | some network => do
      let name ← resourceName config
      .modify fun s => { s with pendingContainer := some name }
      let result ← dockerOr sandboxSetupFailedError (.runContainer name network)
      if result.returncode ≠ 0 then
        destroy
        throw sandboxSetupFailedError
      .modify fun s => { s with pendingContainer := none, container := some name }
      connectAll name config.extraNetworks
      awaitRunning config

def iptablesScript (tool : PyStr) (accepts : List PyStr) : PyStr :=
  join (py " && ") ([tool ++ py " -P OUTPUT DROP",
    tool ++ py " -A OUTPUT -m state --state ESTABLISHED,RELATED -j ACCEPT"] ++
    accepts.map fun destination => tool ++ py " -A OUTPUT -d " ++ destination ++ py " -j ACCEPT")

def installEgressRules : SandboxProg Unit := do
  let container ← theContainer
  let installed ← dockerOr sandboxSetupFailedError
    (.installRules container (iptablesScript (py "iptables") (v4Accepts policy)))
  if installed.returncode ≠ 0 then throw sandboxSetupFailedError
  let installed6 ← dockerOr sandboxSetupFailedError
    (.installRules container (iptablesScript (py "ip6tables") (v6Accepts policy)))
  if installed6.returncode ≠ 0 then throw sandboxSetupFailedError

def readRuleDump (tool : RuleTool) : SandboxProg (List PyStr) := do
  let container ← theContainer
  let result ← dockerOr sandboxSetupFailedError (.dumpRules container tool)
  if result.returncode ≠ 0 then throw sandboxVerificationFailedError
  return (splitlines result.stdout).filter fun line => !(strip line).isEmpty

def verify : SandboxProg SandboxVerification :=
  .get fun s => do
    if s.container.isNone then throw sandboxVerificationFailedError
    let ruleDump ← readRuleDump .iptables
    let v6Dump ← readRuleDump .ip6tables
    if !(compareAgainstPolicy policy ruleDump v6Dump).isEmpty then
      unmark
      destroy
      throw sandboxVerificationFailedError
    return ⟨ruleDump ++ v6Dump, true, policy.addresses, config.workloadUid⟩

/- `_exec`: a workload that outlives its timeout is a result of its own. -/
def exec (argv : List PyStr) : SandboxProg ExecResult := do
  let container ← theContainer
  .call (.docker (.workload config.workloadUid container argv)) fun
    | .completed returncode stdout stderr => .pure ⟨argv, returncode, stdout, stderr⟩
    | .timeoutExpired =>
      .pure ⟨argv, 124, [], py "exec exceeded " ++ config.execTimeoutS ++ py "s"⟩
    | .osError => .raise osError
    | .raised e => .raise e

def verifyPrivilegeDrop : SandboxProg Unit :=
  match config.workloadUid with
  | none => .pure ()
  | some uid => do
    let identity ← exec config [py "id", py "-u"]
    if identity.exitCode ≠ 0 ∨ strip identity.stdout ≠ py (toString uid) then
      unmark
      destroy
      throw sandboxVerificationFailedError
    let mutationProbe ← exec config [py "iptables", py "-w", py "-S", py "OUTPUT"]
    if mutationProbe.exitCode = 0 then
      unmark
      destroy
      throw sandboxVerificationFailedError

/- The guarded part of `establish`. -/
def standUp : SandboxProg SandboxVerification := do
  createNetwork config
  createContainer config
  installEgressRules policy
  let verification ← verify config policy
  verifyPrivilegeDrop config
  return verification

def establish : SandboxProg SandboxVerification :=
  .get fun s => do
    if s.isEstablished then throw sandboxSetupFailedError
    preflight config
    let verification ← (standUp config policy).tryCatch fun e => do
      unmark
      destroyQuietly
      throw e
    .modify fun s => { s with isEstablished := true }
    return verification

def run (argv : List PyStr) : SandboxProg ExecResult :=
  .get fun s =>
    if !s.isEstablished || s.container.isNone then .raise sandboxUnavailableError
    else exec config argv

end Lifecycle

section Reading

def creating : SandboxCall → Bool
  | .docker (.networkCreate _) | .docker (.runContainer _ _) => true
  | _ => false

abbrev Harmless {α : Type} (p : SandboxProg α) : Prop := p.Reads fun c => creating c = false

theorem dockerOrReads {failure : PyError} {command : DockerCommand}
    (harmless : creating (.docker command) = false) : Harmless (dockerOr failure command) := by
  refine ⟨harmless, fun (outcome : DockerOutcome) => ?_⟩
  cases outcome <;> trivial

theorem theContainerReads : Harmless theContainer := by
  intro s
  dsimp only
  split <;> trivial

theorem resourceNameReads (config : DockerSandboxConfig) : Harmless (resourceName config) :=
  ⟨rfl, fun _ => trivial⟩

theorem preflightReads (config : DockerSandboxConfig) : Harmless (preflight config) := by
  have inspecting : Harmless (dockerOr sandboxUnavailableError .imageInspect >>= fun inspect =>
      if inspect.returncode ≠ 0 then throw sandboxUnavailableError else pure ()) := by
    refine readsBind (dockerOrReads rfl) fun inspect => ?_
    split <;> trivial
  unfold preflight
  split
  · refine ⟨rfl, fun (found : Bool) => ?_⟩
    cases found
    · trivial
    · exact inspecting
  · exact inspecting

theorem connectAllReads (container : PyStr) (extras : List PyStr) :
    Harmless (connectAll container extras) := by
  induction extras with
  | nil => trivial
  | cons extra rest ih =>
    refine readsBind (dockerOrReads rfl) fun attached => ?_
    dsimp only
    split
    · trivial
    · exact ih

theorem pollRunningReads (container : PyStr) (polls : Nat) : Harmless (pollRunning container polls) := by
  induction polls with
  | zero => trivial
  | succ polls ih =>
    refine ⟨rfl, fun (early : Bool) => ?_⟩
    cases early
    · trivial
    · refine readsBind (dockerOrReads rfl) fun state => ?_
      split
      · trivial
      · exact ih

theorem awaitRunningReads (config : DockerSandboxConfig) : Harmless (awaitRunning config) :=
  readsBind theContainerReads fun container => pollRunningReads container _

theorem installEgressRulesReads (policy : SandboxEgressPolicy) : Harmless (installEgressRules policy) := by
  refine readsBind theContainerReads fun container => readsBind (dockerOrReads rfl) fun installed => ?_
  dsimp only
  split
  · trivial
  · refine readsBind (dockerOrReads rfl) fun installed6 => ?_
    split <;> trivial

theorem readRuleDumpReads (tool : RuleTool) : Harmless (readRuleDump tool) := by
  refine readsBind theContainerReads fun container => readsBind (dockerOrReads rfl) fun result => ?_
  dsimp only
  split <;> trivial

theorem execReads (config : DockerSandboxConfig) (argv : List PyStr) : Harmless (exec config argv) := by
  refine readsBind theContainerReads fun container => ⟨rfl, fun (outcome : DockerOutcome) => ?_⟩
  cases outcome <;> trivial

end Reading
end DockerEgressSandbox
end SentinelGpt
