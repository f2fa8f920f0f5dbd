import SentinelGpt.TransportSafety

/-! The allow-list of a sandbox, and the exchanges that its HTTP client launches in it. -/
namespace SentinelGpt
open Calling HttpAnalysis SandboxHttpClient

/- The binding an exchange is launched under: the latest that the run resolved, or else the one
the sandbox was made for. -/
def inForce (initial : ValidatedTargetBinding) (log : TransportLog) : ValidatedTargetBinding :=
  (log.filterMap freshBinding).getLast?.getD initial

def isPrimary (binding : ValidatedTargetBinding) (address : IPAddress) : Prop :=
  binding.addresses.head? = some address

section Reach
variable {python : Python} {initial binding : ValidatedTargetBinding} {log calls : TransportLog}
  {current next : HttpScanRequest python} {client : SandboxHttpClient} {limits : TransportLimits}

theorem inForceKept (none : calls.filterMap freshBinding = []) :
    inForce initial (log ++ calls) = inForce initial log := by
  rw [inForce, inForce, List.filterMap_append, none, List.append_nil]

theorem inForceFresh {hostname : PyStr} {outcome : Except PyError ResolutionOutcome}
    (bound : bindingOf outcome = .ok binding) :
    inForce initial (log ++ [⟨.resolveAll hostname, outcome⟩]) = binding := by
  have fresh : freshBinding ⟨.resolveAll hostname, outcome⟩ = some binding := by
    simp only [freshBinding, bound, Except.toOption]
  have last : [(⟨.resolveAll hostname, outcome⟩ : Answered TransportCall TransportCall.Answer)].filterMap
      freshBinding = [binding] := by
    rw [List.filterMap_cons_some fresh, List.filterMap_nil]
  rw [inForce, List.filterMap_append, last, List.getLast?_append]
  rfl

def HeldAtPrimary (initial : ValidatedTargetBinding) (log : TransportLog) (current : HttpScanRequest python) : Prop :=
  isPrimary (inForce initial log) current.target.address

theorem primaryHop {location : PyStr} (found : Hop current location calls (.ok next))
    (primary : HeldAtPrimary initial log current) : HeldAtPrimary initial (log ++ calls) next := by
  generalize outcome : (Except.ok next : Except HttpFailure (HttpScanRequest python)) = r at found
  cases found with
  | relative split relative =>
    obtain ⟨-, -, target⟩ := relativeHopIs (mapErrorOk outcome.symm)
    rw [HeldAtPrimary, inForceKept rfl, target]
    exact primary
  | resolved split admitted bound =>
    rw [HeldAtPrimary, inForceFresh bound]
    exact (originHopIs (mapErrorOk outcome.symm)).first
  | unsplit | blocked | unnamed | unresolved => cases outcome

def Primary (initial : ValidatedTargetBinding) (before : TransportLog) : TransportCall → Prop
  | .run spec => ∃ address, isPrimary (inForce initial before) address ∧ OfAddress address spec.url
  | _ => True

theorem walkPrimary {remaining : Nat} {via : List PyStr} {trace : TransportLog}
    {r : Except HttpFailure HttpResponseData} {last : HttpScanRequest python}
    (walk : Walk client limits remaining via current trace r last)
    (primary : HeldAtPrimary initial log current) :
    Along (Primary initial) log trace := by
  refine walkAlong ?_ ?_ ?_ primaryHop walk primary
  · intro log c other
    cases c with
    | run spec => exact absurd rfl (other spec)
    | established | cancelled | resolveAll => trivial
  · intro log current spec primary fits
    rw [Primary, inForceKept rfl]
    exact ⟨current.target.address, primary, pinnedOfAddress (specAs fits).1⟩
  · intro log current spec answer primary fits
    rw [HeldAtPrimary, inForceKept rfl]
    exact primary

end Reach

/- An exchange of the client goes to the primary address of the binding in force: within the
allow-list of the sandbox until a redirect has been resolved, and after that exactly if the
allow-list has that address. -/
theorem exchangesReachBinding {python : Python} {client : SandboxHttpClient} {limits : TransportLimits}
    {binding : ValidatedTargetBinding} {policy : SandboxEgressPolicy} {context : ScanNetworkContext}
    {spec : HttpRequestSpec python} {scheme : PyStr} {port : Option Nat}
    {request s s' : HttpScanRequest python} {trace : TransportLog} {r : Except HttpFailure HttpResponseData}
    (listed : SandboxEgressPolicy.forBinding binding = .ok policy)
    (made : SandboxedScanExecutor.pinnedContext binding = .ok context)
    (authorized : HttpScanRequest.authorize context spec scheme port = .ok request)
    (run : Runs s (client.execute limits request) trace r s') :
    ∀ before sent answer after, trace = before ++ ⟨.run sent, answer⟩ :: after →
      ∃ address, OfAddress address sent.url ∧ isPrimary (inForce binding before) address ∧
        (before.filterMap freshBinding = [] → policy.authorize address = true) ∧
        (policy.authorize address = true ↔
          ∃ listed ∈ binding.addresses, isPrimary (inForce binding before) listed) := by
  obtain ⟨target, pinned, authorized⟩ := bindOk authorized
  cases authorized
  have first : isPrimary binding target.address :=
    (SandboxedScanExecutor.pinnedContextFirst made).trans (forContextPinned pinned).1
  have along : Along (Primary binding) [] trace := by
    rcases executeRuns run with ⟨rfl, -⟩ | ⟨rfl, -⟩ | ⟨later, rfl, -, walk⟩
    · exact ⟨trivial, trivial⟩
    · exact ⟨trivial, trivial⟩
    · exact ⟨trivial, walkPrimary walk first⟩
  intro before sent answer after split
  rw [split] at along
  obtain ⟨address, primary, connects⟩ : Primary binding before (.run sent) := alongAt along
  have authorizes : policy.authorize address = true ↔ address ∈ binding.addresses := by
    rw [SandboxEgressPolicy.authorize, (SandboxEgressPolicy.forBindingOk listed).2, List.contains_iff_mem]
  refine ⟨address, connects, primary, fun none => ?_, ?_⟩
  · have own : inForce binding before = binding := by rw [inForce, none]; rfl
    rw [own] at primary
    exact authorizes.mpr (List.mem_of_mem_head? primary)
  · rw [authorizes]
    refine ⟨fun member => ⟨_, member, primary⟩, fun ⟨other, member, same⟩ => ?_⟩
    rw [← Option.some.inj (same.symm.trans primary)]
    exact member

/- The exchange after a redirect to another host, outside the allow-list. -/
theorem redirectLeavesAllowList :
    SandboxEgressPolicy.forBinding siteBinding = .ok sitePolicy ∧
    SandboxedScanExecutor.pinnedContext siteBinding = .ok siteContext ∧
    HttpScanRequest.authorize siteContext siteRequest.spec (py "https") none = .ok siteRequest ∧
    ∃ sent answer, ⟨.run sent, answer⟩ ∈ (siteRun siteRequest "https://b/x").1 ∧
      sent.url = originUrl (py "https") otherAddress none (py "/x") ∧
      sitePolicy.authorize otherAddress = false := by
  have outside : ((siteRun siteRequest "https://b/x").1.any fun made =>
      (launched made).any fun sent => sent.url = originUrl (py "https") otherAddress none (py "/x")) = true := by
    decide +kernel
  obtain ⟨made, member, reached⟩ := List.any_eq_true.mp outside
  refine ⟨rfl, rfl, by decide +kernel, ?_⟩
  obtain ⟨call, answer⟩ := made
  cases call with
  | run sent => exact ⟨sent, answer, member, by simpa [launched] using reached, by decide +kernel⟩
  | _ => cases reached

theorem redirectReachesBinding :
    ((siteRun siteRequest "https://b/x").1.filterMap launched).length = 2 ∧
    ∀ before sent answer after,
      (siteRun siteRequest "https://b/x").1 = before ++ ⟨.run sent, answer⟩ :: after →
      ∃ address, OfAddress address sent.url ∧ isPrimary (inForce siteBinding before) address ∧
        (before.filterMap freshBinding = [] → sitePolicy.authorize address = true) ∧
        (sitePolicy.authorize address = true ↔
          ∃ listed ∈ siteBinding.addresses, isPrimary (inForce siteBinding before) listed) := by
  have authorized : HttpScanRequest.authorize siteContext siteRequest.spec (py "https") none =
      .ok siteRequest := by decide +kernel
  constructor
  · decide +kernel
  · exact exchangesReachBinding rfl rfl authorized (playRuns (redirecting "https://b/x") [] siteRequest
      (SandboxHttpClient.execute ⟨none⟩ siteLimits siteRequest))

end SentinelGpt
