import SentinelGpt.TransportWalks

/-! Where the exchanges of the HTTP client go. -/
namespace SentinelGpt
open Calling HttpAnalysis SandboxHttpClient

def freshBinding : Answered TransportCall TransportCall.Answer → Option ValidatedTargetBinding
  | ⟨.resolveAll _, outcome⟩ => (bindingOf outcome).toOption
  | _ => none

def bindingsIn (initial : ValidatedTargetBinding) (log : TransportLog) : List ValidatedTargetBinding :=
  initial :: log.filterMap freshBinding

/- The URL names the address: scheme://address[:port]path. -/
def OfAddress (address : IPAddress) (url : PyStr) : Prop :=
  ∃ scheme ∈ allowedHttpSchemes, ∃ (port : Option Nat) (path : PyStr),
    (py "/").isPrefixOf path = true ∧ url = originUrl scheme address port path

def isSecure (url : PyStr) : Bool := (py "https://").isPrefixOf url

structure SentTo (python : Python) (binding : ValidatedTargetBinding) (spec : WorkloadSpec) : Prop where
  address : ∃ address ∈ binding.addresses, OfAddress address spec.url
  sni : spec.sniHostname = binding.hostname
  host : ∃ others, spec.headers = others ++ [(py "Host", binding.hostname)] ∧
    ∀ h ∈ others, python.lower h.1 ≠ py "host"

/- What an exchange may be after the calls before it. -/
def Guarded (python : Python) (initial : ValidatedTargetBinding) (before : TransportLog) :
    TransportCall → Prop
  | .run spec =>
    (∃ binding ∈ bindingsIn initial before, (∀ a ∈ binding.addresses, (evaluateIp a).allowed = true) ∧
      SentTo python binding spec) ∧
    ∀ earlier answer, (⟨.run earlier, answer⟩ : Answered TransportCall TransportCall.Answer) ∈ before →
      isSecure earlier.url = true → isSecure spec.url = true
  | _ => True

def isRun : Answered TransportCall TransportCall.Answer → Bool
  | ⟨.run _, _⟩ => true
  | _ => false

section Guard
variable {python : Python} {initial : ValidatedTargetBinding} {log : TransportLog}
  {current next last : HttpScanRequest python} {client : SandboxHttpClient} {limits : TransportLimits}

structure Guard (initial : ValidatedTargetBinding) (log : TransportLog)
    (current : HttpScanRequest python) : Prop where
  bound : ∃ binding ∈ bindingsIn initial log, current.context.binding.hostname = binding.hostname ∧
    current.context.binding.addresses = binding.addresses
  member : current.target.address ∈ current.context.binding.addresses
  named : current.target.hostname = current.context.binding.hostname
  upgraded : ∀ spec answer, (⟨.run spec, answer⟩ : Answered TransportCall TransportCall.Answer) ∈ log →
    isSecure spec.url = true → current.target.scheme = py "https"

theorem bindingsGrow {binding : ValidatedTargetBinding} (extra : TransportLog)
    (known : binding ∈ bindingsIn initial log) : binding ∈ bindingsIn initial (log ++ extra) := by
  rw [bindingsIn, List.filterMap_append, ← List.cons_append]
  exact List.mem_append_left _ known

theorem specAs {spec : WorkloadSpec} (fits : client.workloadSpec limits current = .ok spec) :
    pinnedUrl current.target current.spec.path = .ok spec.url ∧
      spec.headers = current.spec.headers ++ [(py "Host", current.target.hostname)] ∧
      spec.sniHostname = current.target.hostname := by
  obtain ⟨url, pinned, fits⟩ := bindOk fits
  dsimp only at fits
  split at fits
  · cases fits
  · split at fits
    · cases fits
    · cases fits
      exact ⟨pinned, rfl, rfl⟩

theorem pinnedPortAllowed {target : ConnectionTarget} {port : Option Nat} (shown : pinnedPort target = .ok port) :
    target.scheme ∈ allowedHttpSchemes := by
  unfold pinnedPort at shown
  split at shown
  · cases shown
  · rename_i allowed
    simpa using allowed

theorem pinnedOfAddress {target : ConnectionTarget} {path url : PyStr} (pinned : pinnedUrl target path = .ok url) :
    OfAddress target.address url := by
  obtain ⟨port, shown, made⟩ := bindOk pinned
  cases made
  refine ⟨target.scheme, pinnedPortAllowed shown, port, _, ?_, rfl⟩
  split
  · assumption
  · simp

theorem pinnedSecure {target : ConnectionTarget} {path url : PyStr} (pinned : pinnedUrl target path = .ok url) :
    isSecure url = true ↔ target.scheme = py "https" := by
  obtain ⟨port, shown, made⟩ := bindOk pinned
  cases made
  have known : target.scheme = py "http" ∨ target.scheme = py "https" := by
    simpa [allowedHttpSchemes] using pinnedPortAllowed shown
  rw [isSecure, originUrl]
  simp only [List.append_assoc]
  rcases known with http | https
  · rw [http]
    exact iff_of_false Bool.false_ne_true (by decide)
  · rw [https]
    exact iff_of_true rfl rfl

theorem specHeaders (spec : HttpRequestSpec python) : ∀ h ∈ spec.headers, python.lower h.1 ≠ py "host" := by
  intro h member same
  have unowned := List.all_eq_true.mp spec.unowned h member
  rw [same] at unowned
  revert unowned
  decide

theorem guardedRun {spec : WorkloadSpec} (guard : Guard initial log current)
    (fits : client.workloadSpec limits current = .ok spec) : Guarded python initial log (.run spec) := by
  obtain ⟨pinned, headers, sni⟩ := specAs fits
  obtain ⟨binding, known, hostname, addresses⟩ := guard.bound
  have name : current.target.hostname = binding.hostname := guard.named.trans hostname
  refine ⟨⟨binding, known, evaluateAllNone.mp binding.validated, ?_, ?_, ?_⟩, fun earlier answer member https => ?_⟩
  · exact ⟨current.target.address, addresses ▸ guard.member, pinnedOfAddress pinned⟩
  · rw [sni, name]
  · exact ⟨current.spec.headers, by rw [headers, name], specHeaders current.spec⟩
  · exact (pinnedSecure pinned).mpr (guard.upgraded earlier answer member https)

theorem guardGrows (guard : Guard initial log current) (extra : TransportLog)
    (upgraded : ∀ spec answer, (⟨.run spec, answer⟩ : Answered TransportCall TransportCall.Answer) ∈ extra →
      isSecure spec.url = true → current.target.scheme = py "https") : Guard initial (log ++ extra) current := by
  obtain ⟨binding, known, same⟩ := guard.bound
  refine ⟨⟨binding, bindingsGrow extra known, same⟩, guard.member, guard.named, ?_⟩
  intro spec answer member https
  rcases List.mem_append.mp member with before | now
  · exact guard.upgraded spec answer before https
  · exact upgraded spec answer now https

theorem guardExchange {spec : WorkloadSpec} {answer : Except PyError ExecResult}
    (guard : Guard initial log current) (fits : client.workloadSpec limits current = .ok spec) :
    Guard initial (log ++ exchanged spec answer) current := by
  refine guardGrows guard _ fun spec' answer' member https => ?_
  rcases List.mem_cons.mp member with none | now
  · cases none
  · cases List.mem_singleton.mp now
    exact (pinnedSecure (specAs fits).1).mp https

theorem schemeKept (ascii : AsciiCase python) {scheme : PyStr}
    (allowed : allowedHttpSchemes.contains scheme = true) : python.lower scheme = scheme := by
  have known : scheme = py "http" ∨ scheme = py "https" := by
    simpa [allowedHttpSchemes] using allowed
  rcases known with rfl | rfl
  · rw [ascii.lower _ (by decide)]
    decide
  · rw [ascii.lower _ (by decide)]
    decide

theorem guardHop {location : PyStr} {calls : TransportLog} (ascii : AsciiCase python)
    (found : Hop current location calls (.ok next)) (guard : Guard initial log current) :
    Guard initial (log ++ calls) next := by
  generalize outcome : (Except.ok next : Except HttpFailure (HttpScanRequest python)) = r at found
  cases found with
  | relative split relative =>
    obtain ⟨-, context, target⟩ := relativeHopIs (mapErrorOk outcome.symm)
    rw [List.append_nil]
    exact ⟨by rw [context]; exact guard.bound, by rw [context, target]; exact guard.member,
      by rw [context, target]; exact guard.named, by rw [target]; exact guard.upgraded⟩
  | @resolved parts port answer binding split admitted bound =>
    have hop := originHopIs (mapErrorOk outcome.symm)
    have known : binding ∈ bindingsIn initial
        (log ++ [⟨.resolveAll (destinationHost python parts), answer⟩]) := by
      rw [bindingsIn, List.filterMap_append]
      refine List.mem_cons_of_mem _ (List.mem_append_right _ ?_)
      simp [freshBinding, bound, Except.toOption]
    have scheme : next.target.scheme = python.lower parts.scheme :=
      hop.scheme.trans (schemeKept ascii admitted.scheme)
    refine ⟨⟨binding, known, hop.hostname, hop.addresses⟩, ?_, hop.named.trans hop.hostname.symm, ?_⟩
    · rw [hop.addresses]
      exact List.mem_of_mem_head? hop.first
    · intro spec run member https
      have before : (⟨.run spec, run⟩ : Answered TransportCall TransportCall.Answer) ∈ log := by
        rcases List.mem_append.mp member with before | now
        · exact before
        · cases List.mem_singleton.mp now
      have already := guard.upgraded spec run before https
      have plain : python.lower parts.scheme = py "http" ∨ python.lower parts.scheme = py "https" := by
        simpa [allowedHttpSchemes] using admitted.scheme
      rcases plain with http | secure
      · exact absurd ⟨already, http⟩ admitted.upgrade
      · rw [scheme, secure]
  | unsplit | blocked | unnamed | unresolved => cases outcome

theorem walkCount {remaining : Nat} {via : List PyStr} {trace : TransportLog}
    {r : Except HttpFailure HttpResponseData}
    (walk : Walk client limits remaining via current trace r last) :
    (trace.filter isRun).length ≤ remaining + 1 := by
  have none : ∀ {current : HttpScanRequest python} {location : PyStr} {calls : TransportLog}
      {r : Except HttpFailure (HttpScanRequest python)}, Hop current location calls r →
      calls.filter isRun = [] := by
    intro current location calls r found
    cases found <;> rfl
  have one : ∀ (spec : WorkloadSpec) (answer : Except PyError ExecResult),
      ((exchanged spec answer).filter isRun).length = 1 := fun _ _ => rfl
  induction walk with
  | cancelled | unfit => exact Nat.zero_le _
  | failed | returned | exhausted => exact Nat.succ_le_succ (Nat.zero_le _)
  | lost fits redirected lost =>
    rw [List.filter_append, none lost, List.append_nil, one]
    exact Nat.succ_le_succ (Nat.zero_le _)
  | hop fits redirected found rest ih =>
    rw [List.filter_append, List.filter_append, none found, List.nil_append, List.length_append, one]
    omega

theorem walkGuarded {remaining : Nat} {via : List PyStr} {trace : TransportLog}
    {r : Except HttpFailure HttpResponseData} (ascii : AsciiCase python)
    (walk : Walk client limits remaining via current trace r last) (guard : Guard initial log current) :
    Along (Guarded python initial) log trace := by
  refine walkAlong ?_ ?_ (fun _ => guardExchange) (guardHop ascii) walk guard
  · intro log c other
    cases c with
    | run spec => exact absurd rfl (other spec)
    | established | cancelled | resolveAll => trivial
  · intro log current spec guard fits
    have cancelled : Guard initial (log ++ [⟨.cancelled, false⟩]) current :=
      guardGrows guard _ fun _ _ member => by cases List.mem_singleton.mp member
    exact guardedRun cancelled fits

end Guard

/- Every exchange of the client is for a URL with an address of a binding that passed the policy when
it was resolved, under that binding's name; none is in the clear behind one that was not; and there
are no more of them than redirects allowed, and one. -/
theorem transportSafe {python : Python} (ascii : AsciiCase python) {client : SandboxHttpClient}
    {limits : TransportLimits} {binding : ValidatedTargetBinding} {context : ScanNetworkContext}
    {spec : HttpRequestSpec python} {scheme : PyStr} {port : Option Nat}
    {request s s' : HttpScanRequest python} {trace : TransportLog} {r : Except HttpFailure HttpResponseData}
    (made : SandboxedScanExecutor.pinnedContext binding = .ok context)
    (authorized : HttpScanRequest.authorize context spec scheme port = .ok request)
    (run : Runs s (client.execute limits request) trace r s') :
    (∀ before sent answer after, trace = before ++ ⟨.run sent, answer⟩ :: after →
      (∃ bound ∈ bindingsIn binding before, (∀ a ∈ bound.addresses, (evaluateIp a).allowed = true) ∧
        SentTo python bound sent) ∧
      ∀ earlier answer', (⟨.run earlier, answer'⟩ : Answered TransportCall TransportCall.Answer) ∈ before →
        isSecure earlier.url = true → isSecure sent.url = true) ∧
    (trace.filter isRun).length ≤ limits.maxRedirects + 1 := by
  obtain ⟨target, pinned, authorized⟩ := bindOk authorized
  cases authorized
  obtain ⟨address, hostname, -⟩ := forContextPinned pinned
  obtain ⟨sameName, sameAddresses, -⟩ := SandboxedScanExecutor.pinnedContextPins made
  have guard : Guard binding [⟨.established, true⟩] (⟨context, spec, target⟩ : HttpScanRequest python) :=
    ⟨⟨binding, List.mem_cons_self, sameName, sameAddresses⟩, context.binding.pinned _ address, hostname,
      fun _ _ member => by cases List.mem_singleton.mp member⟩
  have along : Along (Guarded python binding) [] trace ∧
      (trace.filter isRun).length ≤ limits.maxRedirects + 1 := by
    rcases executeRuns run with ⟨rfl, -⟩ | ⟨rfl, -⟩ | ⟨later, rfl, -, walk⟩
    · exact ⟨⟨trivial, trivial⟩, Nat.zero_le _⟩
    · exact ⟨⟨trivial, trivial⟩, Nat.zero_le _⟩
    · have count : (later.filter isRun).length ≤ limits.maxRedirects + 1 := walkCount walk
      exact ⟨⟨trivial, walkGuarded ascii walk guard⟩, count⟩
  refine ⟨fun before sent answer after split => ?_, along.2⟩
  have judged := along.1
  rw [split] at judged
  exact alongAt judged

/-! A site that redirects to another host. -/

theorem siteValidated : evaluateAll [siteAddress] = none := by decide +kernel

def siteBinding : ValidatedTargetBinding where
  hostname := py "a"
  addresses := [siteAddress]
  pinnedAddress := none
  validated := siteValidated
  pinned := by simp

def siteContext : ScanNetworkContext where
  binding := ⟨py "a", [siteAddress], some siteAddress, siteBinding.validated, by simp⟩

def siteLimits : TransportLimits where
  maxResponseBytes := 2000000
  maxRedirects := 10
  maxRequests := 4
  positive := defaultsPositive
  connectTimeoutS := py "5.0"
  readTimeoutS := py "15.0"

def siteRequestTo (path : String) (relative : (py "/").isPrefixOf (py path) = true) :
    HttpScanRequest (Python.onAscii []) where
  context := siteContext
  spec := ⟨py "GET", py path, [], none, by decide, relative, rfl⟩
  target := ⟨siteAddress, 443, py "https", py "a"⟩

def siteRequest : HttpScanRequest (Python.onAscii []) := siteRequestTo "/" rfl

def otherAddress : IPAddress := .ofOctets 1 1 1 1

def printed (stdout : String) : Except PyError ExecResult := .ok ⟨[], 0, py stdout, []⟩

def redirectFrame (location : String) : String :=
  "SGPT/1 \x7b\"status\":302,\"headers\":[[\"location\",\"" ++ location ++
    "\"]],\"body_b64\":\"\",\"elapsed_ms\":1.0\x7d"

def finalFrame : String :=
  "SGPT/1 \x7b\"status\":200,\"headers\":[],\"body_b64\":\"\",\"elapsed_ms\":1.0\x7d"

def redirecting (location : String) : TransportLog → (c : TransportCall) → c.Answer
  | _, .established => true
  | _, .cancelled => false
  | _, .resolveAll hostname => Except.ok (ResolutionOutcome.success hostname [otherAddress])
  | log, .run _ => printed (if log.any isRun then finalFrame else redirectFrame location)

def siteRun (request : HttpScanRequest (Python.onAscii [])) (location : String) :
    TransportLog × Except HttpFailure HttpResponseData × HttpScanRequest (Python.onAscii []) :=
  play (redirecting location) [] request (SandboxHttpClient.execute ⟨none⟩ siteLimits request)

def launched : Answered TransportCall TransportCall.Answer → Option WorkloadSpec
  | ⟨.run spec, _⟩ => some spec
  | _ => none

def urlsSent (log : TransportLog) : List PyStr := (log.filterMap launched).map WorkloadSpec.url

theorem redirectedRunSafe :
    urlsSent (siteRun siteRequest "https://b/x").1 = [py "https://93.184.216.34/", py "https://1.1.1.1/x"] ∧
    (∀ before sent answer after,
      (siteRun siteRequest "https://b/x").1 = before ++ ⟨.run sent, answer⟩ :: after →
      (∃ bound ∈ bindingsIn siteBinding before,
        (∀ a ∈ bound.addresses, (evaluateIp a).allowed = true) ∧ SentTo (Python.onAscii []) bound sent) ∧
      ∀ earlier answer', (⟨.run earlier, answer'⟩ : Answered TransportCall TransportCall.Answer) ∈ before →
        isSecure earlier.url = true → isSecure sent.url = true) := by
  have ascii : AsciiCase (Python.onAscii []) := ⟨fun _ _ => rfl, fun _ _ => rfl⟩
  have made : SandboxedScanExecutor.pinnedContext siteBinding = .ok siteContext := rfl
  have authorized : HttpScanRequest.authorize siteContext siteRequest.spec (py "https") none =
      .ok siteRequest := by decide +kernel
  exact ⟨by decide +kernel, (transportSafe ascii made authorized (playRuns (redirecting "https://b/x") [] siteRequest
    (SandboxHttpClient.execute ⟨none⟩ siteLimits siteRequest))).1⟩

end SentinelGpt
