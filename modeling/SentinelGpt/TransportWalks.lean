import SentinelGpt.HttpTransport

/-! The runs of the HTTP client, hop by hop. -/
namespace SentinelGpt
open Calling HttpAnalysis TargetNormalization

namespace SandboxHttpClient
variable {python : Python} {current next s s' : HttpScanRequest python} {location : PyStr}
  {trace : TransportLog}

open UrlSplit in
theorem netlocRest {url : PyStr} (some : (splitNetloc url).1 ≠ []) :
    ∀ c ∈ (splitNetloc url).2.head?, isNetlocEnd c = true := by
  unfold splitNetloc at some ⊢
  split at some
  · rename_i slashes
    rw [if_pos slashes]
    intro c first
    have stopped := List.head?_dropWhile_not (fun c => !isNetlocEnd c) (url.drop 2)
    rw [Option.mem_def.mp first] at stopped
    simpa using stopped
  · exact absurd rfl some

theorem splitPath {url : PyStr} {parts : SplitResult} (split : urlsplit python url = .ok parts) (some : parts.netloc ≠ []) :
    parts.path = [] ∨ (py "/").isPrefixOf parts.path = true := by
  unfold urlsplit at split
  dsimp only at split
  have ends := @netlocRest (UrlSplit.splitScheme python (UrlSplit.cleaned url)).2
  generalize UrlSplit.splitNetloc (UrlSplit.splitScheme python (UrlSplit.cleaned url)).2 = cut at split ends
  split at split
  · cases split
  · split at split
    · cases split
      have stopped := ends some
      cases rest : cut.2 with
      | nil => exact .inl rfl
      | cons c later =>
        rw [rest] at stopped
        have stop : c = 0x2F ∨ c = 0x3F ∨ c = 0x23 := by
          simpa [UrlSplit.isNetlocEnd, or_assoc] using stopped c rfl
        rcases stop with rfl | rfl | rfl
        · exact .inr rfl
        · exact .inl rfl
        · exact .inl rfl
    · cases split

def destinationHost (python : Python) (parts : SplitResult) : PyStr :=
  rstrip 0x2E ((parts.hostname python).getD [])

structure Gated (current : HttpScanRequest python) (parts : SplitResult) (port : Option Nat) : Prop where
  absolute : (parts.scheme.isEmpty && parts.netloc.isEmpty) = false
  scheme : allowedHttpSchemes.contains (python.lower parts.scheme) = true
  upgrade : ¬ (current.target.scheme = py "https" ∧ python.lower parts.scheme = py "http")
  port : parts.port = .ok port
  host : destinationHost python parts ≠ []

structure Admitted (current : HttpScanRequest python) (parts : SplitResult) (port : Option Nat) : Prop
    extends Gated current parts port where
  name : isProhibitedName python (destinationHost python parts) = .ok false

inductive Hop (current : HttpScanRequest python) (location : PyStr) :
    TransportLog → Except HttpFailure (HttpScanRequest python) → Prop where
  | unsplit {e : PyError} (split : urlsplit python location = .error e) :
      Hop current location [] (.error (.raised e))
  | relative {parts : SplitResult} (split : urlsplit python location = .ok parts)
      (relative : (parts.scheme.isEmpty && parts.netloc.isEmpty) = true) :
      Hop current location [] ((relativeHop current location).mapError .raised)
  | blocked {parts : SplitResult} (split : urlsplit python location = .ok parts)
      (absolute : (parts.scheme.isEmpty && parts.netloc.isEmpty) = false)
      (prohibited : ∀ port, Gated current parts port →
        isProhibitedName python (destinationHost python parts) = .ok true) :
      Hop current location [] (.error (.raised redirectDestinationBlockedError))
  | unnamed {parts : SplitResult} {port : Option Nat} {e : PyError}
      (split : urlsplit python location = .ok parts) (gated : Gated current parts port)
      (name : isProhibitedName python (destinationHost python parts) = .error e) :
      Hop current location [] (.error (.raised e))
  | unresolved {parts : SplitResult} {port : Option Nat} {outcome : Except PyError ResolutionOutcome}
      (split : urlsplit python location = .ok parts) (admitted : Admitted current parts port) :
      Hop current location [⟨.resolveAll (destinationHost python parts), outcome⟩]
        (.error (.raised redirectDestinationBlockedError))
  | resolved {parts : SplitResult} {port : Option Nat} {outcome : Except PyError ResolutionOutcome}
      {binding : ValidatedTargetBinding} (split : urlsplit python location = .ok parts)
      (admitted : Admitted current parts port) (bound : bindingOf outcome = .ok binding) :
      Hop current location [⟨.resolveAll (destinationHost python parts), outcome⟩]
        ((originHop current parts port ⟨binding⟩).mapError .raised)

theorem mapErrorOk {α : Type} {x : Except PyError α} {a : α}
    (ok : x.mapError HttpFailure.raised = .ok a) : x = .ok a := by
  cases x with
  | error e => cases ok
  | ok b =>
    cases ok
    rfl

theorem runsOfExcept {α : Type} {x : Except HttpFailure α} {r : Except HttpFailure α}
    (run : Runs s (Program.ofExcept x : TransportProg python α) trace r s') :
    trace = [] ∧ r = x ∧ s' = s := by
  cases x with
  | ok a =>
    cases run
    exact ⟨rfl, rfl, rfl⟩
  | error e =>
    cases run
    exact ⟨rfl, rfl, rfl⟩

theorem bindingOfFails {outcome : Except PyError ResolutionOutcome} {e : PyError}
    (failed : bindingOf outcome = .error e) :
    e = .targetUnresolvedError ∨ e = targetResolutionBlockedError := by
  match outcome with
  | .ok (.success hostname addresses) =>
    simp only [bindingOf] at failed
    split at failed
    · cases failed
      exact .inr rfl
    · unfold ValidatedTargetBinding.create at failed
      split at failed
      · cases failed
      · cases failed
        exact .inr rfl
  | .ok .failure | .error _ =>
    cases failed
    exact .inl rfl

theorem attemptRuns {α : Type} {x : Except PyError α} {r : Except HttpFailure α}
    (run : Runs s (attempt x : TransportProg python α) trace r s') :
    trace = [] ∧ r = x.mapError .raised ∧ s' = s := runsOfExcept run

theorem refusedRuns {α : Type} {e : PyError} {r : Except HttpFailure α}
    (run : Runs s (refused e : TransportProg python α) trace r s') :
    trace = [] ∧ r = .error (.raised e) ∧ s' = s := by
  cases run
  exact ⟨rfl, rfl, rfl⟩

theorem attemptBind {α β : Type} {x : Except PyError α} {k : α → TransportProg python β}
    {r : Except HttpFailure β} (run : Runs s ((attempt x).bind k) trace r s') :
    (∃ a, x = .ok a ∧ Runs s (k a) trace r s') ∨
      ∃ e, x = .error e ∧ trace = [] ∧ r = .error (.raised e) ∧ s' = s := by
  cases x with
  | ok a => exact .inl ⟨a, rfl, run⟩
  | error e =>
    cases run
    exact .inr ⟨e, rfl, rfl, rfl, rfl⟩

theorem evaluateRuns {parts : SplitResult} {port : Option Nat} {context : ScanNetworkContext}
    {r : Except HttpFailure ScanNetworkContext}
    (split : urlsplit python location = .ok parts)
    (absolute : (parts.scheme.isEmpty && parts.netloc.isEmpty) = false)
    (scheme : allowedHttpSchemes.contains (python.lower parts.scheme) = true)
    (upgrade : ¬ (current.target.scheme = py "https" ∧ python.lower parts.scheme = py "http"))
    (given : parts.port = .ok port) (run : Runs s (evaluate context location) trace r s') :
    s' = s ∧
      (((∀ port, Gated current parts port →
          isProhibitedName python (destinationHost python parts) = .ok true) ∧ trace = [] ∧
        r = .error (.raised redirectDestinationBlockedError)) ∨
      (∃ e, Gated current parts port ∧ isProhibitedName python (destinationHost python parts) = .error e ∧
        trace = [] ∧ r = .error (.raised e)) ∨
      ∃ outcome, Admitted current parts port ∧
        trace = [⟨.resolveAll (destinationHost python parts), outcome⟩] ∧
        ((∃ binding, bindingOf outcome = .ok binding ∧ r = .ok ⟨binding⟩) ∨
          r = .error (.raised redirectDestinationBlockedError))) := by
  unfold evaluate at run
  rcases attemptBind run with ⟨parts', again, run⟩ | ⟨e, failed, -⟩
  · rw [split] at again
    cases again
    simp only [absolute, scheme, Bool.false_eq_true, if_false, Bool.not_true] at run
    by_cases host : destinationHost python parts = []
    · have empty : (rstrip 0x2E ((parts.hostname python).getD [])).isEmpty = true :=
        List.isEmpty_iff.mpr host
      rw [if_pos empty] at run
      obtain ⟨rfl, rfl, rfl⟩ := refusedRuns run
      exact ⟨rfl, .inl ⟨fun _ gated => absurd host gated.host, rfl, rfl⟩⟩
    · have gated : Gated current parts port := ⟨absolute, scheme, upgrade, given, host⟩
      have some : ¬ (rstrip 0x2E ((parts.hostname python).getD [])).isEmpty = true := fun empty =>
        host (List.isEmpty_iff.mp empty)
      rw [if_neg some] at run
      rcases attemptBind run with ⟨prohibited, name, run⟩ | ⟨e, failed, rfl, rfl, rfl⟩
      · cases prohibited with
        | true =>
          rw [if_pos rfl] at run
          obtain ⟨rfl, rfl, rfl⟩ := refusedRuns run
          exact ⟨rfl, .inl ⟨fun _ _ => name, rfl, rfl⟩⟩
        | false =>
          rw [if_neg Bool.false_ne_true] at run
          have admitted : Admitted current parts port := ⟨gated, name⟩
          cases run with
          | @call _ _ _ outcome _ _ _ run =>
            cases bound : bindingOf outcome with
            | ok binding =>
              simp only [bound] at run
              cases run
              exact ⟨rfl, .inr (.inr ⟨outcome, admitted, rfl, .inl ⟨binding, bound, rfl⟩⟩)⟩
            | error e =>
              simp only [bound] at run
              rw [if_pos (bindingOfFails bound)] at run
              obtain ⟨rfl, rfl, rfl⟩ := refusedRuns run
              exact ⟨rfl, .inr (.inr ⟨outcome, admitted, rfl, .inr rfl⟩)⟩
      · exact ⟨rfl, .inr (.inl ⟨e, gated, failed, rfl, rfl⟩)⟩
  · rw [split] at failed
    cases failed

theorem hopOf {r : Except HttpFailure (HttpScanRequest python)}
    (run : Runs s (nextHop current location) trace r s') : s' = s ∧ Hop current location trace r := by
  unfold nextHop at run
  rcases attemptBind run with ⟨parts, split, run⟩ | ⟨e, failed, rfl, rfl, rfl⟩
  · cases relative : (parts.scheme.isEmpty && parts.netloc.isEmpty) with
    | true =>
      rw [relative, if_pos rfl] at run
      obtain ⟨rfl, rfl, rfl⟩ := attemptRuns run
      exact ⟨rfl, .relative split relative⟩
    | false =>
      rw [relative, if_neg Bool.false_ne_true] at run
      dsimp only at run
      cases scheme : allowedHttpSchemes.contains (python.lower parts.scheme) with
      | false =>
        rw [scheme, Bool.not_false, if_pos rfl] at run
        obtain ⟨rfl, rfl, rfl⟩ := refusedRuns run
        exact ⟨rfl, .blocked split relative fun _ gated => absurd gated.scheme (by rw [scheme]; decide)⟩
      | true =>
        rw [scheme, Bool.not_true, if_neg Bool.false_ne_true] at run
        by_cases downgrade : current.target.scheme = py "https" ∧ python.lower parts.scheme = py "http"
        · rw [if_pos downgrade] at run
          obtain ⟨rfl, rfl, rfl⟩ := refusedRuns run
          exact ⟨rfl, .blocked split relative fun _ gated => absurd downgrade gated.upgrade⟩
        · rw [if_neg downgrade] at run
          cases given : parts.port with
          | error e =>
            simp only [given] at run
            obtain ⟨rfl, rfl, rfl⟩ := refusedRuns run
            refine ⟨rfl, .blocked split relative fun _ gated => ?_⟩
            have port := gated.port
            rw [given] at port
            cases port
          | ok port =>
            simp only [given] at run
            rcases runsBind run with ⟨context, s₁, before, after, first, second, rfl⟩ | ⟨e, failed, rfl⟩
            · obtain ⟨rfl, same, rfl⟩ := attemptRuns second
              obtain ⟨rfl, cases_⟩ := evaluateRuns split relative scheme downgrade given first
              rcases cases_ with ⟨-, -, none⟩ | ⟨e, -, -, -, none⟩ |
                ⟨outcome, admitted, rfl, ⟨binding, bound, returned⟩ | none⟩
              · cases none
              · cases none
              · cases returned
                rw [same, List.append_nil]
                exact ⟨rfl, .resolved split admitted bound⟩
              · cases none
            · obtain ⟨rfl, cases_⟩ := evaluateRuns split relative scheme downgrade given failed
              rcases cases_ with ⟨prohibited, rfl, same⟩ | ⟨e', gated, name, rfl, same⟩ |
                ⟨outcome, admitted, rfl, ⟨binding, -, none⟩ | same⟩
              · cases same
                exact ⟨rfl, .blocked split relative prohibited⟩
              · cases same
                exact ⟨rfl, .unnamed split gated name⟩
              · cases none
              · cases same
                exact ⟨rfl, .unresolved split admitted⟩
  · exact ⟨rfl, .unsplit failed⟩

section Requests
variable {context : ScanNetworkContext} {spec : HttpRequestSpec python} {target : ConnectionTarget}

theorem authorizedIs (authorized : authorizeOrRefuse context spec target = .ok next) :
    next = ⟨context, spec, target⟩ ∧ context.egressAuthorize target.address = true := by
  unfold authorizeOrRefuse at authorized
  split at authorized
  · cases authorized
  · split at authorized
    · rename_i permitted
      cases authorized
      exact ⟨rfl, permitted⟩
    · cases authorized

theorem createdSpec {method path : PyStr} {headers : Headers} {body : Option (List Byte)}
    (created : HttpRequestSpec.create python method path headers body = .ok spec) :
    spec.method = method ∧ spec.path = path ∧ spec.headers = headers ∧ spec.body = body := by
  unfold HttpRequestSpec.create at created
  split at created
  · split at created
    · split at created
      · cases created
        exact ⟨rfl, rfl, rfl, rfl⟩
      · cases created
    · cases created
  · cases created

theorem relativeHopIs (found : relativeHop current location = .ok next) :
    urljoin python current.spec.path location = .ok next.spec.path ∧
      next.context = current.context ∧ next.target = current.target := by
  obtain ⟨merged, joined, found⟩ := bindOk found
  obtain ⟨spec, created, found⟩ := bindOk found
  obtain ⟨rfl, -⟩ := authorizedIs found
  refine ⟨?_, rfl, rfl⟩
  rw [(createdSpec created).2.1]
  exact joined

structure OriginHop (parts : SplitResult) (port : Option Nat) (binding : ValidatedTargetBinding)
    (next : HttpScanRequest python) : Prop where
  hostname : next.context.binding.hostname = binding.hostname
  addresses : next.context.binding.addresses = binding.addresses
  first : binding.addresses.head? = some next.target.address
  named : next.target.hostname = binding.hostname
  scheme : next.target.scheme = python.lower (python.lower parts.scheme)
  port : next.target.port = port.getD (defaultPort next.target.scheme)
  path : next.spec.path = if parts.path.isEmpty then py "/" else parts.path

theorem originHopIs {parts : SplitResult} {port : Option Nat} {binding : ValidatedTargetBinding}
    (found : originHop current parts port ⟨binding⟩ = .ok next) : OriginHop parts port binding next := by
  obtain ⟨pinned, pin, found⟩ := bindOk found
  obtain ⟨target, made, found⟩ := bindOk found
  obtain ⟨spec, created, found⟩ := bindOk found
  obtain ⟨rfl, -⟩ := authorizedIs found
  obtain ⟨address, hostname, scheme, -⟩ := forContextPinned made
  unfold pinContext at pin
  cases addresses : binding.addresses with
  | nil =>
    rw [addresses] at pin
    cases pin
  | cons first rest =>
    have member : first ∈ binding.addresses := by rw [addresses]; exact List.mem_cons_self
    simp only [addresses, ValidatedTargetBinding.withPinned] at pin
    rw [dif_pos List.mem_cons_self] at pin
    cases pin
    exact ⟨rfl, addresses.symm, (congrArg List.head? addresses).trans address, hostname, scheme,
      forContextPort made, (createdSpec created).2.1⟩

end Requests

def turn (python : Python) (via : List PyStr) (target : ConnectionTarget)
    (answer : Except PyError ExecResult) : Except HttpFailure (HttpResponseData × Option PyStr) := do
  let result ← answer.mapError .raised
  let response ← parseExecResult python result target
  return (response, ← redirection python via response)

section Turns
variable {via : List PyStr} {target : ConnectionTarget} {answer : Except PyError ExecResult}

theorem turnReads {response : HttpResponseData}
    (read : (Except.mapError HttpFailure.raised answer).bind (fun result =>
      parseExecResult python result target) = .ok response) :
    turn python via target answer = (redirection python via response).map fun found => (response, found) := by
  cases answer with
  | error e => cases read
  | ok result =>
    have parsed : parseExecResult python result target = .ok response := read
    unfold turn
    simp only [Except.mapError, bind, Except.bind, parsed]
    rfl

theorem turnFails {e : HttpFailure}
    (failed : (Except.mapError HttpFailure.raised answer).bind (fun result =>
      parseExecResult python result target) = .error e) : turn python via target answer = .error e := by
  cases answer with
  | error e' =>
    cases failed
    rfl
  | ok result =>
    have parsed : parseExecResult python result target = .error e := failed
    unfold turn
    simp only [Except.mapError, bind, Except.bind, parsed]

end Turns

def exchanged (spec : WorkloadSpec) (answer : Except PyError ExecResult) : TransportLog :=
  [⟨.cancelled, false⟩, ⟨.run spec, answer⟩]

inductive Walk (client : SandboxHttpClient) (limits : TransportLimits) :
    Nat → List PyStr → HttpScanRequest python → TransportLog → Except HttpFailure HttpResponseData →
      HttpScanRequest python → Prop where
  | cancelled {remaining : Nat} {via : List PyStr} {current : HttpScanRequest python} :
      Walk client limits remaining via current [⟨.cancelled, true⟩] (.error (.raised scanCancelledError)) current
  | unfit {remaining : Nat} {via : List PyStr} {current : HttpScanRequest python} {e : PyError}
      (unfit : client.workloadSpec limits current = .error e) :
      Walk client limits remaining via current [⟨.cancelled, false⟩] (.error (.raised e)) current
  | failed {remaining : Nat} {via : List PyStr} {current : HttpScanRequest python} {spec : WorkloadSpec}
      {answer : Except PyError ExecResult} {e : HttpFailure}
      (fits : client.workloadSpec limits current = .ok spec)
      (failed : turn python via current.target answer = .error e) :
      Walk client limits remaining via current (exchanged spec answer) (.error e) current
  | returned {remaining : Nat} {via : List PyStr} {current : HttpScanRequest python} {spec : WorkloadSpec}
      {answer : Except PyError ExecResult} {response : HttpResponseData}
      (fits : client.workloadSpec limits current = .ok spec)
      (final : turn python via current.target answer = .ok (response, none)) :
      Walk client limits remaining via current (exchanged spec answer)
        (.ok { response with finalTarget := current.target, viaRedirects := via }) current
  | exhausted {via : List PyStr} {current : HttpScanRequest python} {spec : WorkloadSpec}
      {answer : Except PyError ExecResult} {response : HttpResponseData} {location : PyStr}
      (fits : client.workloadSpec limits current = .ok spec)
      (redirected : turn python via current.target answer = .ok (response, some location)) :
      Walk client limits 0 via current (exchanged spec answer)
        (.error (.raised redirectDestinationBlockedError)) current
  | lost {hops : Nat} {via : List PyStr} {current : HttpScanRequest python} {spec : WorkloadSpec}
      {answer : Except PyError ExecResult} {response : HttpResponseData} {location : PyStr}
      {calls : TransportLog} {e : HttpFailure} (fits : client.workloadSpec limits current = .ok spec)
      (redirected : turn python via current.target answer = .ok (response, some location))
      (lost : Hop current location calls (.error e)) :
      Walk client limits (hops + 1) via current (exchanged spec answer ++ calls) (.error e) current
  | hop {hops : Nat} {via : List PyStr} {current next last : HttpScanRequest python} {spec : WorkloadSpec}
      {answer : Except PyError ExecResult} {response : HttpResponseData} {location : PyStr}
      {calls later : TransportLog} {r : Except HttpFailure HttpResponseData}
      (fits : client.workloadSpec limits current = .ok spec)
      (redirected : turn python via current.target answer = .ok (response, some location))
      (found : Hop current location calls (.ok next))
      (rest : Walk client limits hops (via ++ [location]) next later r last) :
      Walk client limits (hops + 1) via current (exchanged spec answer ++ (calls ++ later)) r last

theorem hopAlong {judge : TransportLog → TransportCall → Prop} {calls : TransportLog}
    {r : Except HttpFailure (HttpScanRequest python)} (free : ∀ log c, (∀ spec, c ≠ .run spec) → judge log c)
    (found : Hop current location calls r) (log : TransportLog) : Along judge log calls := by
  cases found with
  | unsplit | relative | blocked | unnamed => trivial
  | unresolved | resolved => exact ⟨free _ _ fun _ same => TransportCall.noConfusion same, trivial⟩

theorem walkAlong {client : SandboxHttpClient} {limits : TransportLimits}
    {keeps : TransportLog → HttpScanRequest python → Prop} {judge : TransportLog → TransportCall → Prop}
    (free : ∀ log c, (∀ spec, c ≠ .run spec) → judge log c)
    (sent : ∀ {log current spec}, keeps log current → client.workloadSpec limits current = .ok spec →
      judge (log ++ [⟨.cancelled, false⟩]) (.run spec))
    (answered : ∀ {log current spec} answer, keeps log current →
      client.workloadSpec limits current = .ok spec → keeps (log ++ exchanged spec answer) current)
    (hop : ∀ {log current next location calls}, Hop current location calls (.ok next) → keeps log current →
      keeps (log ++ calls) next)
    {remaining : Nat} {via : List PyStr} {r : Except HttpFailure HttpResponseData} {log : TransportLog}
    (walk : Walk client limits remaining via current trace r s') (kept : keeps log current) :
    Along judge log trace := by
  have flagged : ∀ log, judge log .cancelled := fun log => free log _ fun _ same => TransportCall.noConfusion same
  have exchange : ∀ {log current spec} answer, keeps log current →
      client.workloadSpec limits current = .ok spec → Along judge log (exchanged spec answer) :=
    fun _ kept fits => ⟨flagged _, sent kept fits, trivial⟩
  induction walk generalizing log with
  | cancelled | unfit => exact ⟨flagged _, trivial⟩
  | failed fits | returned fits | exhausted fits => exact exchange _ kept fits
  | lost fits redirected lost =>
    exact alongAppend.mpr ⟨exchange _ kept fits, hopAlong free lost _⟩
  | @hop _ _ _ _ _ _ answer _ _ _ _ _ fits redirected found rest ih =>
    have onward := hop found (answered answer kept fits)
    exact alongAppend.mpr ⟨exchange _ kept fits, alongAppend.mpr ⟨hopAlong free found _, ih onward⟩⟩

theorem exchangeRuns {client : SandboxHttpClient} {limits : TransportLimits}
    {r : Except HttpFailure HttpResponseData}
    (run : Runs s (client.exchange limits current) trace r s') :
    s' = s ∧ ((∃ e, client.workloadSpec limits current = .error e ∧ trace = [] ∧ r = .error (.raised e)) ∨
      ∃ spec answer, client.workloadSpec limits current = .ok spec ∧ trace = [⟨.run spec, answer⟩] ∧
        r = (Except.mapError HttpFailure.raised answer).bind fun result =>
          parseExecResult python result current.target) := by
  unfold exchange at run
  rcases attemptBind run with ⟨spec, fits, run⟩ | ⟨e, unfit, rfl, rfl, rfl⟩
  · cases run with
    | @call _ _ _ answer _ trace _ run =>
    rcases attemptBind run with ⟨result, given, run⟩ | ⟨e, failed, rfl, rfl, rfl⟩
    · obtain ⟨rfl, rfl, rfl⟩ := runsOfExcept run
      exact ⟨rfl, .inr ⟨spec, answer, fits, rfl, by rw [given]; rfl⟩⟩
    · exact ⟨rfl, .inr ⟨spec, answer, fits, rfl, by rw [failed]; rfl⟩⟩
  · exact ⟨rfl, .inl ⟨e, unfit, rfl, rfl⟩⟩

theorem turnRuns {client : SandboxHttpClient} {limits : TransportLimits} {via : List PyStr}
    {tail : HttpScanRequest python → HttpResponseData → Option PyStr → TransportProg python HttpResponseData}
    {r : Except HttpFailure HttpResponseData}
    (run : Runs s (checkCancelled.bind fun _ => .get fun current =>
      (client.exchange limits current).bind fun response =>
        (Program.ofExcept (redirection python via response)).bind fun found =>
          tail current response found) trace r s') :
    (trace = [⟨.cancelled, true⟩] ∧ r = .error (.raised scanCancelledError) ∧ s' = s) ∨
    (∃ e, client.workloadSpec limits s = .error e ∧ trace = [⟨.cancelled, false⟩] ∧
      r = .error (.raised e) ∧ s' = s) ∨
    ∃ spec answer, client.workloadSpec limits s = .ok spec ∧
      ((∃ e, turn python via s.target answer = .error e ∧ trace = exchanged spec answer ∧ r = .error e ∧ s' = s) ∨
      ∃ response found rest, turn python via s.target answer = .ok (response, found) ∧
        Runs s (tail s response found) rest r s' ∧ trace = exchanged spec answer ++ rest) := by
  cases run with
  | @call _ _ _ flagged _ trace _ run =>
  cases flagged with
  | true =>
    cases run
    exact .inl ⟨rfl, rfl, rfl⟩
  | false =>
    cases run with
    | get run =>
    rcases runsBind run with ⟨response, s₁, before, after, first, second, rfl⟩ | ⟨e, failed, rfl⟩
    · obtain ⟨rfl, ⟨e, -, -, none⟩ | ⟨spec, answer, fits, rfl, read⟩⟩ := exchangeRuns first
      · cases none
      · refine .inr (.inr ⟨spec, answer, fits, ?_⟩)
        rcases runsBind second with ⟨found, s₂, before, rest, third, continued, rfl⟩ | ⟨e, failed, rfl⟩
        · obtain ⟨rfl, told, rfl⟩ := runsOfExcept third
          refine .inr ⟨response, found, rest, ?_, continued, rfl⟩
          exact (turnReads read.symm).trans (by rw [← told]; rfl)
        · obtain ⟨rfl, told, rfl⟩ := runsOfExcept failed
          refine .inl ⟨e, ?_, rfl, rfl, rfl⟩
          exact (turnReads read.symm).trans (by rw [← told]; rfl)
    · obtain ⟨rfl, ⟨e', unfit, rfl, same⟩ | ⟨spec, answer, fits, rfl, read⟩⟩ := exchangeRuns failed
      · cases same
        exact .inr (.inl ⟨e', unfit, rfl, rfl, rfl⟩)
      · exact .inr (.inr ⟨spec, answer, fits, .inl ⟨e, turnFails read.symm, rfl, rfl, rfl⟩⟩)

theorem walkOf {client : SandboxHttpClient} {limits : TransportLimits} {remaining : Nat}
    {via : List PyStr} {r : Except HttpFailure HttpResponseData}
    (run : Runs s (client.walk limits remaining via) trace r s') :
    Walk client limits remaining via s trace r s' := by
  induction remaining generalizing via s trace with
  | zero =>
    unfold walk at run
    rcases turnRuns run with ⟨rfl, rfl, rfl⟩ | ⟨e, unfit, rfl, rfl, rfl⟩ |
      ⟨spec, answer, fits, ⟨e, failed, rfl, rfl, rfl⟩ | ⟨response, found, rest, turned, run, rfl⟩⟩
    · exact .cancelled
    · exact .unfit unfit
    · exact .failed fits failed
    · cases found with
      | none =>
        cases run
        rw [List.append_nil]
        exact .returned fits turned
      | some location =>
        cases run
        rw [List.append_nil]
        exact .exhausted fits turned
  | succ hops ih =>
    unfold walk at run
    rcases turnRuns run with ⟨rfl, rfl, rfl⟩ | ⟨e, unfit, rfl, rfl, rfl⟩ |
      ⟨spec, answer, fits, ⟨e, failed, rfl, rfl, rfl⟩ | ⟨response, found, rest, turned, run, rfl⟩⟩
    · exact .cancelled
    · exact .unfit unfit
    · exact .failed fits failed
    · cases found with
      | none =>
        cases run
        rw [List.append_nil]
        exact .returned fits turned
      | some location =>
        rcases runsBind run with ⟨next, s₁, calls, later, first, second, rfl⟩ | ⟨e, lost, rfl⟩
        · obtain ⟨rfl, found⟩ := hopOf first
          cases second with
          | set second => exact .hop fits turned found (ih second)
        · obtain ⟨rfl, lost⟩ := hopOf lost
          exact .lost fits turned lost

theorem executeRuns {client : SandboxHttpClient} {limits : TransportLimits}
    {request : HttpScanRequest python} {r : Except HttpFailure HttpResponseData}
    (run : Runs s (client.execute limits request) trace r s') :
    (trace = [⟨.established, false⟩] ∧ r = .error (.raised sandboxNotEstablishedError)) ∨
    (trace = [⟨.established, true⟩] ∧ r = .error (.raised egressDeniedError)) ∨
    ∃ later, trace = ⟨.established, true⟩ :: later ∧
      authorizeOrRefuse request.context request.spec request.target = .ok request ∧
      Walk client limits limits.maxRedirects [] request later r s' := by
  cases run with
  | @call _ _ _ answer _ trace _ run =>
  cases answer with
  | false =>
    cases run
    exact .inl ⟨rfl, rfl⟩
  | true =>
    rcases attemptBind run with ⟨current, authorized, continued⟩ | ⟨e, refused, rfl, rfl, rfl⟩
    · have same : current = request := by
        unfold authorizeOrRefuse at authorized
        split at authorized
        · cases authorized
        · split at authorized
          · cases authorized
            rfl
          · cases authorized
      subst same
      cases continued with
      | set walked => exact .inr (.inr ⟨trace, rfl, authorized, walkOf walked⟩)
    · have denied : e = egressDeniedError := by
        unfold authorizeOrRefuse at refused
        split at refused
        · cases refused
          rfl
        · split at refused
          · cases refused
          · cases refused
            rfl
      subst denied
      exact .inr (.inl ⟨rfl, rfl⟩)

end SandboxHttpClient
end SentinelGpt
