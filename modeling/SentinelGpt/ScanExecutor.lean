import SentinelGpt.CallProgram
import SentinelGpt.HttpContract
import SentinelGpt.SandboxPolicy

/-! The gated execution of a scan: resolution, policy, sandbox, context and engine, and the
destruction of the sandbox. -/
namespace SentinelGpt
open Calling HttpAnalysis

def sandboxNotEstablishedError : PyError := .other (py "SandboxNotEstablishedError")

inductive ResolutionOutcome where
  | success (hostname : PyStr) (addresses : List IPAddress)
  | failure
  deriving DecidableEq, Repr

/- `ScanTargetResolutionService.resolve` after its resolver has answered; whatever the
resolver raises counts as unresolved. -/
def bindingOf : Except PyError ResolutionOutcome → Except PyError ValidatedTargetBinding
  | .ok (.success hostname addresses) =>
    if (evaluateAll addresses).isSome then .error targetResolutionBlockedError
    else ValidatedTargetBinding.create hostname addresses
  | .ok .failure | .error _ => .error .targetUnresolvedError

structure ExecutionServices where
  context : ScanNetworkContext
  limits : HttpLimits
  origin : OriginSpec
  deriving DecidableEq

def defaultLimits : HttpLimits := ⟨2000000, 10, 4, defaultsPositive⟩
def defaultOrigin : OriginSpec := ⟨py "https", none, py "/"⟩

inductive ExecutorCall where
  | resolveAll (hostname : PyStr)
  | sandboxFactory (policy : SandboxEgressPolicy)
  | establish
  | established
  | engineExecute (services : ExecutionServices)
  | destroy
  deriving DecidableEq

/- Each may raise; `β` is what the engine returns. -/
def ExecutorCall.Answer (β : Type) : ExecutorCall → Type
  | .resolveAll _ => Except PyError ResolutionOutcome
  | .established => Except PyError Bool
  | .engineExecute _ => Except PyError β
  | .sandboxFactory _ | .establish | .destroy => Except PyError Unit

abbrev ExecutorProg (β α : Type) := Program Unit ExecutorCall (ExecutorCall.Answer β) PyError α

abbrev ExecutorLog (β : Type) := List (Answered ExecutorCall (ExecutorCall.Answer β))

namespace SandboxedScanExecutor
variable {β : Type}

def resolve (hostname : PyStr) : ExecutorProg β ValidatedTargetBinding :=
  .call (.resolveAll hostname) fun outcome => .ofExcept (bindingOf outcome)

def requireEstablished : ExecutorProg β Unit :=
  .call .established fun (answer : Except PyError Bool) => do
    if !(← Program.ofExcept answer) then throw sandboxNotEstablishedError

def prepare (hostname : PyStr) : ExecutorProg β ValidatedTargetBinding := do
  let binding ← resolve hostname
  let policy ← Program.ofExcept (SandboxEgressPolicy.forBinding binding)
  .call (.sandboxFactory policy) Program.ofExcept
  .call .establish Program.ofExcept
  requireEstablished
  return binding

def requireScanContext : Option ScanNetworkContext → Except PyError ScanNetworkContext
  | some context => .ok context
  | none => .error .scannerExecutionBlockedError

def buildServices (context : ScanNetworkContext) (limits : Option HttpLimits)
    (origin : Option OriginSpec) : ExecutionServices :=
  ⟨context, limits.getD defaultLimits, origin.getD defaultOrigin⟩

def pinnedContext (binding : ValidatedTargetBinding) : Except PyError ScanNetworkContext := do
  match binding.addresses with
  | [] => throw egressDeniedError
  | first :: _ => requireScanContext (some ⟨← binding.withPinned first⟩)

def runEngine (enableExecution hasEngine : Bool) (limits : Option HttpLimits)
    (origin : Option OriginSpec) (binding : ValidatedTargetBinding) : ExecutorProg β β := do
  let context ← Program.ofExcept (pinnedContext binding)
  if !hasEngine || !enableExecution then throw PyError.scannerExecutionBlockedError
  .call (.engineExecute (buildServices context limits origin)) Program.ofExcept

def executeScan (enableExecution hasEngine : Bool) (hostname : PyStr) (limits : Option HttpLimits)
    (origin : Option OriginSpec) : ExecutorProg β β := do
  let binding ← prepare hostname
  (runEngine enableExecution hasEngine limits origin binding).ensure
    (.call .destroy Program.ofExcept)

/-! What each part calls. -/
section Parts
variable {hostname : PyStr} {trace : ExecutorLog β} {s' : Unit}

inductive Prepared (β : Type) (hostname : PyStr) :
    ExecutorLog β → Except PyError ValidatedTargetBinding → Prop where
  | refused {outcome : Except PyError ResolutionOutcome} {e : PyError} :
      Prepared β hostname [⟨.resolveAll hostname, outcome⟩] (.error e)
  | unmade {outcome : Except PyError ResolutionOutcome} {policy : SandboxEgressPolicy} {e : PyError} :
      Prepared β hostname [⟨.resolveAll hostname, outcome⟩, ⟨.sandboxFactory policy, .error e⟩] (.error e)
  | unestablished {outcome : Except PyError ResolutionOutcome} {policy : SandboxEgressPolicy}
      {e : PyError} :
      Prepared β hostname [⟨.resolveAll hostname, outcome⟩, ⟨.sandboxFactory policy, .ok ()⟩,
        ⟨.establish, .error e⟩] (.error e)
  | unproven {outcome : Except PyError ResolutionOutcome} {policy : SandboxEgressPolicy}
      {answer : Except PyError Bool} {e : PyError} (unproven : answer ≠ .ok true) :
      Prepared β hostname [⟨.resolveAll hostname, outcome⟩, ⟨.sandboxFactory policy, .ok ()⟩,
        ⟨.establish, .ok ()⟩, ⟨.established, answer⟩] (.error e)
  | ready {outcome : Except PyError ResolutionOutcome} {policy : SandboxEgressPolicy}
      {binding : ValidatedTargetBinding} (bound : bindingOf outcome = .ok binding)
      (listed : SandboxEgressPolicy.forBinding binding = .ok policy) :
      Prepared β hostname [⟨.resolveAll hostname, outcome⟩, ⟨.sandboxFactory policy, .ok ()⟩,
        ⟨.establish, .ok ()⟩, ⟨.established, .ok true⟩] (.ok binding)

theorem prepareCalls : wp (fun _ => True) (fun _ _ => True) [] () (prepare hostname : ExecutorProg β _)
    fun log _ r => Prepared β hostname log r := by
  simp only [prepare, resolve, requireEstablished, Program.bindEq, Program.bind, wp, wpBind,
    wpOfExcept, List.nil_append, List.cons_append, true_and, true_implies]
  intro outcome
  cases bound : bindingOf outcome with
  | error e => exact .refused
  | ok binding =>
    dsimp only
    cases listed : SandboxEgressPolicy.forBinding binding with
    | error e => exact .refused
    | ok policy =>
      dsimp only
      intro (made : Except PyError Unit)
      rw [wpOfExcept]
      cases made with
      | error e => exact .unmade
      | ok _ =>
        intro (established : Except PyError Unit)
        rw [wpOfExcept]
        cases established with
        | error e => exact .unestablished
        | ok _ =>
          intro (answer : Except PyError Bool)
          rw [wpOfExcept]
          cases answer with
          | error e => exact .unproven (by simp)
          | ok answer =>
            cases answer with
            | false => exact .unproven (by simp)
            | true => exact .ready bound listed

theorem runEngineCalls {enableExecution hasEngine : Bool} {limits : Option HttpLimits}
    {origin : Option OriginSpec} {binding : ValidatedTargetBinding} :
    wp (fun _ => True) (fun _ _ => True) [] () (runEngine enableExecution hasEngine limits origin binding)
      fun (log : ExecutorLog β) _ r => (log = [] ∧ ∃ e, r = .error e) ∨
        ∃ context answer, log = [⟨.engineExecute (buildServices context limits origin), answer⟩] ∧
          r = answer ∧ enableExecution = true ∧ pinnedContext binding = .ok context := by
  rw [runEngine, Program.bindEq, wpBind, wpOfExcept]
  cases pins : pinnedContext binding with
  | error e => exact .inl ⟨rfl, e, rfl⟩
  | ok context =>
    dsimp only
    by_cases blocked : (!hasEngine || !enableExecution) = true
    · rw [if_pos blocked]
      exact .inl ⟨rfl, _, rfl⟩
    · rw [if_neg blocked]
      refine ⟨trivial, fun (answer : Except PyError β) _ => ?_⟩
      rw [wpOfExcept]
      simp only [Bool.or_eq_true, Bool.not_eq_true', not_or, Bool.not_eq_false] at blocked
      exact .inr ⟨context, answer, rfl, rfl, blocked.2, rfl⟩

theorem destroyCalls : wp (fun _ => True) (fun _ _ => True) [] () (.call .destroy Program.ofExcept)
    fun (log : ExecutorLog β) _ (r : Except PyError Unit) => log = [⟨.destroy, r⟩] := by
  refine ⟨trivial, fun (answer : Except PyError Unit) _ => ?_⟩
  rw [wpOfExcept]
  rfl

theorem pinnedContextPins {binding : ValidatedTargetBinding} {context : ScanNetworkContext}
    (pins : pinnedContext binding = .ok context) :
    context.binding.hostname = binding.hostname ∧ context.binding.addresses = binding.addresses ∧
      ∃ address ∈ binding.addresses, context.binding.pinnedAddress = some address := by
  unfold pinnedContext at pins
  cases listed : binding.addresses with
  | nil =>
    rw [listed] at pins
    cases pins
  | cons first rest =>
    have member : first ∈ first :: rest := List.mem_cons_self
    simp only [listed, ValidatedTargetBinding.withPinned, dif_pos member] at pins
    cases pins
    exact ⟨rfl, rfl, first, member, rfl⟩

theorem pinnedContextFirst {binding : ValidatedTargetBinding} {context : ScanNetworkContext}
    (pins : pinnedContext binding = .ok context) :
    binding.addresses.head? = context.binding.pinnedAddress := by
  unfold pinnedContext at pins
  cases listed : binding.addresses with
  | nil =>
    rw [listed] at pins
    cases pins
  | cons first rest =>
    simp only [listed, ValidatedTargetBinding.withPinned, dif_pos List.mem_cons_self] at pins
    cases pins
    rfl

theorem boundOf {outcome : Except PyError ResolutionOutcome} {binding : ValidatedTargetBinding}
    (bound : bindingOf outcome = .ok binding) : outcome = .ok (.success binding.hostname binding.addresses) := by
  match outcome, bound with
  | .ok (.success name addresses), bound =>
    simp only [bindingOf, ValidatedTargetBinding.create] at bound
    split at bound
    · cases bound
    · split at bound <;> cases bound
      rfl

theorem preparedOnly {log : ExecutorLog β} {r : Except PyError ValidatedTargetBinding}
    (form : Prepared β hostname log r) {call : Answered ExecutorCall (ExecutorCall.Answer β)}
    (made : call ∈ log) : (∀ services, call.1 ≠ .engineExecute services) ∧ call.1 ≠ .destroy := by
  cases form <;> simp only [List.mem_cons, List.not_mem_nil, or_false] at made <;>
    rcases made with rfl | rfl | rfl | rfl <;> exact ⟨nofun, nofun⟩

theorem failedUnproven {log : ExecutorLog β} {e : PyError}
    (form : Prepared β hostname log (.error e)) :
    (⟨.established, .ok true⟩ : Answered ExecutorCall (ExecutorCall.Answer β)) ∉ log := by
  intro made
  cases form with
  | refused | unmade | unestablished =>
    simp only [List.mem_cons, List.not_mem_nil, or_false] at made
    rcases made with same | same | same <;> cases same
  | unproven unproven =>
    simp only [List.mem_cons, List.not_mem_nil, or_false] at made
    rcases made with same | same | same | same <;> cases same
    exact unproven rfl

end Parts

section Gate
variable {enableExecution hasEngine : Bool} {hostname : PyStr} {limits : Option HttpLimits}
  {origin : Option OriginSpec} {trace : ExecutorLog β} {r : Except PyError β} {s' : Unit}

theorem executeScanCalls
    (run : Runs () (executeScan enableExecution hasEngine hostname limits origin) trace r s') :
    (∃ e, Prepared β hostname trace (.error e) ∧ r = .error e) ∨
      ∃ binding prepared body destroyed, Prepared β hostname prepared (.ok binding) ∧
        trace = prepared ++ (body ++ [⟨.destroy, destroyed⟩]) ∧
        (body = [] ∨ ∃ context answer,
          body = [⟨.engineExecute (buildServices context limits origin), answer⟩] ∧
            enableExecution = true ∧ pinnedContext binding = .ok context) := by
  rcases runsBind run with ⟨binding, s₁, prepared, after, first, second, rfl⟩ | ⟨e, failed, rfl⟩
  · obtain ⟨form, -⟩ := wpWhole prepareCalls first fun _ _ => trivial
    obtain ⟨r₁, s₂, body, destroyed, ended, engine, destroys, rfl, -⟩ := runsEnsure second
    obtain ⟨destroyForm, -⟩ := wpWhole destroyCalls destroys fun _ _ => trivial
    refine .inr ⟨binding, prepared, body, ended, form, by rw [destroyForm], ?_⟩
    obtain ⟨bodyForm, -⟩ := wpWhole runEngineCalls engine fun _ _ => trivial
    rcases bodyForm with ⟨none, -⟩ | ⟨context, answer, called, -, enabled, pins⟩
    · exact .inl none
    · exact .inr ⟨context, answer, called, enabled, pins⟩
  · obtain ⟨form, -⟩ := wpWhole prepareCalls failed fun _ _ => trivial
    exact .inl ⟨e, form, rfl⟩

/- Before the engine is called, execution is enabled, the resolution just made has succeeded
with addresses that all pass the policy, the sandbox was built from exactly them and has
established itself, and the context is pinned to one of them. -/
theorem engineGated {before after : ExecutorLog β} {services : ExecutionServices}
    {answer : Except PyError β}
    (run : Runs () (executeScan enableExecution hasEngine hostname limits origin)
      (before ++ ⟨.engineExecute services, answer⟩ :: after) r s') :
    enableExecution = true ∧ ∃ name addresses policy,
      before = [⟨.resolveAll hostname, .ok (.success name addresses)⟩,
        ⟨.sandboxFactory policy, .ok ()⟩, ⟨.establish, .ok ()⟩, ⟨.established, .ok true⟩] ∧
      addresses ≠ [] ∧ (∀ a ∈ addresses, (evaluateIp a).allowed = true) ∧
      policy.addresses = addresses ∧ services.context.binding.addresses = addresses ∧
      ∃ address ∈ addresses, services.context.binding.pinnedAddress = some address := by
  rcases executeScanCalls run with ⟨e, form, -⟩ | ⟨binding, prepared, body, destroyed, form, same, ran⟩
  · exact absurd rfl ((preparedOnly form (List.mem_append_right _ List.mem_cons_self)).1 services)
  · have outside : (⟨.engineExecute services, answer⟩ : Answered _ _) ∉ prepared :=
      fun made => (preparedOnly form made).1 services rfl
    rcases ran with rfl | ⟨context, answer', rfl, enabled, pins⟩
    · have made : (⟨.engineExecute services, answer⟩ : Answered _ _) ∈ prepared ++ ([] ++ [⟨.destroy, destroyed⟩]) := by
        rw [← same]
        simp
      rcases List.mem_append.1 made with earlier | last
      · exact absurd earlier outside
      · cases List.mem_singleton.1 last
    · have last : (⟨.engineExecute services, answer⟩ : Answered _ _) ∉
          ([⟨.destroy, destroyed⟩] : ExecutorLog β) := fun made => by cases List.mem_singleton.1 made
      obtain ⟨rfl, called, -⟩ := (List.append_cons_inj_of_notMem outside last).1 same.symm
      cases called
      cases form with
      | @ready outcome policy binding bound listed =>
        obtain ⟨-, addresses, address, member, pinned⟩ := pinnedContextPins pins
        obtain ⟨-, permitted⟩ := SandboxEgressPolicy.forBindingOk listed
        refine ⟨enabled, binding.hostname, binding.addresses, policy, by rw [boundOf bound], ?_,
          evaluateAllNone.1 binding.validated, permitted, ?_, address, member, ?_⟩
        · exact List.ne_nil_of_mem member
        · exact addresses
        · exact pinned

/- The sandbox that the factory made is destroyed exactly when it has been established and
says so. -/
theorem destroyedIffEstablished {policy : SandboxEgressPolicy}
    (run : Runs () (executeScan enableExecution hasEngine hostname limits origin) trace r s')
    (made : ⟨.sandboxFactory policy, .ok ()⟩ ∈ trace) :
    (∃ answer, ⟨.destroy, answer⟩ ∈ trace) ↔
      ⟨.establish, .ok ()⟩ ∈ trace ∧ ⟨.established, .ok true⟩ ∈ trace := by
  rcases executeScanCalls run with ⟨e, form, -⟩ | ⟨binding, prepared, body, destroyed, form, rfl, -⟩
  · constructor
    · rintro ⟨answer, called⟩
      exact absurd rfl (preparedOnly form called).2
    · rintro ⟨-, proven⟩
      exact absurd proven (failedUnproven form)
  · constructor
    · intro _
      cases form
      exact ⟨by simp, by simp⟩
    · intro _
      exact ⟨destroyed, by simp⟩

def siteAnswers (establishing : Except PyError Unit) : ExecutorLog Unit → (c : ExecutorCall) →
    ExecutorCall.Answer Unit c
  | _, .resolveAll hostname => .ok (.success hostname [siteAddress])
  | _, .sandboxFactory _ => .ok ()
  | _, .establish => establishing
  | _, .established => .ok true
  | _, .engineExecute _ => .ok ()
  | _, .destroy => .ok ()

def siteBinding (pinned : Bool) : ValidatedTargetBinding :=
  ⟨py "a", [siteAddress], if pinned then some siteAddress else none, by decide, by
    cases pinned <;> simp⟩

def siteServices : ExecutionServices := buildServices ⟨siteBinding true⟩ none none

def sitePrepared : ExecutorLog Unit := [⟨.resolveAll (py "a"), .ok (.success (py "a") [siteAddress])⟩,
  ⟨.sandboxFactory sitePolicy, .ok ()⟩, ⟨.establish, .ok ()⟩, ⟨.established, .ok true⟩]

theorem siteRun : Runs () (executeScan true true (py "a") none none)
    (sitePrepared ++ ⟨.engineExecute siteServices, .ok ()⟩ :: [⟨.destroy, .ok ()⟩]) (.ok ()) () :=
  playRuns (siteAnswers (.ok ())) [] () _

theorem siteEngineGated :
    Runs () (executeScan true true (py "a") none none)
      (sitePrepared ++ ⟨.engineExecute siteServices, .ok ()⟩ :: [⟨.destroy, .ok ()⟩]) (.ok ()) () ∧
    ∃ address ∈ [siteAddress], siteServices.context.binding.pinnedAddress = some address := by
  refine ⟨siteRun, ?_⟩
  obtain ⟨-, name, addresses, policy, prepared, -, -, -, -, pinned⟩ := engineGated siteRun
  cases prepared
  exact pinned

theorem siteDestroyed : ∃ trace r, Runs () (executeScan true true (py "a") none none) trace r () ∧
    ⟨.sandboxFactory sitePolicy, .ok ()⟩ ∈ trace ∧
    ∃ answer, (⟨.destroy, answer⟩ : Answered _ (ExecutorCall.Answer Unit)) ∈ trace := by
  have made : (⟨.sandboxFactory sitePolicy, .ok ()⟩ : Answered _ (ExecutorCall.Answer Unit)) ∈
      sitePrepared ++ ⟨.engineExecute siteServices, .ok ()⟩ :: [⟨.destroy, .ok ()⟩] := by
    simp [sitePrepared]
  refine ⟨_, _, siteRun, made, (destroyedIffEstablished siteRun made).2 ⟨?_, ?_⟩⟩
  · simp [sitePrepared]
  · simp [sitePrepared]

/- A sandbox whose establishment fails is left standing. -/
theorem unestablishedLeft : ∃ trace r, Runs () (executeScan true true (py "a") none none) trace r () ∧
    ⟨.sandboxFactory sitePolicy, .ok ()⟩ ∈ trace ∧
    ¬ ∃ answer, (⟨.destroy, answer⟩ : Answered _ (ExecutorCall.Answer Unit)) ∈ trace := by
  have run : Runs () (executeScan true true (py "a") none none)
      ([⟨.resolveAll (py "a"), .ok (.success (py "a") [siteAddress])⟩,
        ⟨.sandboxFactory sitePolicy, .ok ()⟩, ⟨.establish, .error .valueError⟩] : ExecutorLog Unit)
      (.error .valueError) () := playRuns (siteAnswers (.error .valueError)) [] () _
  refine ⟨_, _, run, by simp, ?_⟩
  rintro ⟨answer, called⟩
  simp only [List.mem_cons, List.not_mem_nil, or_false] at called
  rcases called with same | same | same <;> cases same

end Gate
end SandboxedScanExecutor
end SentinelGpt
