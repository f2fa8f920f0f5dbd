import SentinelGpt.TransportSafety

/-! The locations a run has followed, and what a repeated one would ask for. -/
namespace SentinelGpt
open Calling HttpAnalysis SandboxHttpClient

/- The resolver answers for a host under a name of its own. -/
def Naming (naming : PyStr → PyStr) (log : TransportLog) : Prop :=
  ∀ host name addresses, (⟨.resolveAll host, .ok (.success name addresses)⟩ : Answered TransportCall
    TransportCall.Answer) ∈ log → name = naming host

/- An exchange for the same scheme, host name, port and path, the query being in the path: the URL
of the request but for the address, under its name. -/
structure SameRequest {python : Python} (sent : WorkloadSpec) (next : HttpScanRequest python) : Prop where
  url : ∃ address, pinnedUrl ⟨address, next.target.port, next.target.scheme, next.target.hostname⟩
    next.spec.path = .ok sent.url
  hostname : sent.sniHostname = next.target.hostname

section Loops
variable {python : Python} {client : SandboxHttpClient} {limits : TransportLimits}
  {request current next s s' : HttpScanRequest python} {location : PyStr} {log calls trace : TransportLog}
  {via : List PyStr} {spec : WorkloadSpec}

inductive Sends (client : SandboxHttpClient) (limits : TransportLimits) (request : HttpScanRequest python) :
    TransportLog → List PyStr → HttpScanRequest python → WorkloadSpec → Prop where
  | first {spec : WorkloadSpec} (fits : client.workloadSpec limits request = .ok spec) :
      Sends client limits request [⟨.established, true⟩, ⟨.cancelled, false⟩] [] request spec
  | next {log calls : TransportLog} {via : List PyStr} {current next : HttpScanRequest python}
      {spec spec' : WorkloadSpec} {answer : Except PyError ExecResult} {response : HttpResponseData}
      {location : PyStr} (before : Sends client limits request log via current spec)
      (redirected : turn python via current.target answer = .ok (response, some location))
      (found : Hop current location calls (.ok next)) (fits : client.workloadSpec limits next = .ok spec') :
      Sends client limits request (log ++ (⟨.run spec, answer⟩ :: (calls ++ [⟨.cancelled, false⟩])))
        (via ++ [location]) next spec'

theorem hopNoRun {r : Except HttpFailure (HttpScanRequest python)} (found : Hop current location calls r) :
    ∀ made ∈ calls, isRun made = false := by
  cases found with
  | unsplit | relative | blocked | unnamed => exact fun _ member => absurd member List.not_mem_nil
  | unresolved | resolved =>
    intro made member
    rw [List.mem_singleton.mp member]
    rfl

theorem exchangedSplit {answer answer' : Except PyError ExecResult} {sent : WorkloadSpec}
    {tail before after : TransportLog}
    (split : exchanged spec answer ++ tail = before ++ ⟨.run sent, answer'⟩ :: after) :
    (before = [⟨.cancelled, false⟩] ∧ sent = spec) ∨
      ∃ rest, before = exchanged spec answer ++ rest ∧ tail = rest ++ ⟨.run sent, answer'⟩ :: after := by
  rw [exchanged, List.cons_append, List.cons_append, List.nil_append] at split
  cases before with
  | nil => cases (List.cons.inj split).1
  | cons first before =>
    obtain ⟨head, split⟩ := List.cons.inj split
    rw [← head]
    cases before with
    | nil =>
      obtain ⟨same, -⟩ := List.cons.inj split
      cases same
      exact .inl ⟨rfl, rfl⟩
    | cons second rest =>
      obtain ⟨same, split⟩ := List.cons.inj split
      rw [← same]
      exact .inr ⟨rest, rfl, split⟩

theorem callsSplit {sent : WorkloadSpec} {answer : Except PyError ExecResult} {tail before after : TransportLog}
    (none : ∀ made ∈ calls, isRun made = false)
    (split : calls ++ tail = before ++ ⟨.run sent, answer⟩ :: after) :
    ∃ rest, before = calls ++ rest ∧ tail = rest ++ ⟨.run sent, answer⟩ :: after := by
  rcases List.append_eq_append_iff.mp split with ⟨rest, same, rest_⟩ | ⟨rest, same, rest_⟩
  · exact ⟨rest, same, rest_⟩
  · cases rest with
    | nil => exact ⟨[], by rw [same, List.append_nil, List.append_nil], rest_.symm⟩
    | cons made rest =>
      obtain ⟨first, -⟩ := List.cons.inj rest_
      have inside : made ∈ calls := by rw [same]; simp
      have quiet := none made inside
      rw [← first] at quiet
      contradiction

theorem walkSends {remaining : Nat} {r : Except HttpFailure HttpResponseData} {last : HttpScanRequest python}
    (walk : Walk client limits remaining via current trace r last)
    (head : ∀ spec, client.workloadSpec limits current = .ok spec →
      Sends client limits request (log ++ [⟨.cancelled, false⟩]) via current spec) :
    ∀ before sent answer after, trace = before ++ ⟨.run sent, answer⟩ :: after →
      ∃ via' current', Sends client limits request (log ++ before) via' current' sent := by
  have once : ∀ {via : List PyStr} {current : HttpScanRequest python} {spec sent : WorkloadSpec}
      {answer answer' : Except PyError ExecResult} {before after log : TransportLog},
      (∀ spec, client.workloadSpec limits current = .ok spec →
        Sends client limits request (log ++ [⟨.cancelled, false⟩]) via current spec) →
      client.workloadSpec limits current = .ok spec →
      exchanged spec answer = before ++ ⟨.run sent, answer'⟩ :: after →
      ∃ via' current', Sends client limits request (log ++ before) via' current' sent := by
    intro via current spec sent answer answer' before after log head fits split
    rw [← List.append_nil (exchanged spec answer)] at split
    rcases exchangedSplit split with ⟨first, same⟩ | ⟨rest, -, none⟩
    · rw [first, same]
      exact ⟨via, current, head spec fits⟩
    · simp at none
  induction walk generalizing log with
  | cancelled | unfit =>
    intro before sent answer after split
    rcases List.singleton_eq_append_iff.mp split with ⟨-, other⟩ | ⟨-, none⟩
    · cases (List.cons.inj other).1
    · cases none
  | failed fits | returned fits | exhausted fits =>
    intro before sent answer after split
    exact once head fits split
  | lost fits redirected lost =>
    intro before sent answer after split
    rcases exchangedSplit split with ⟨first, same⟩ | ⟨rest, -, inside⟩
    · rw [first, same]
      exact ⟨_, _, head _ fits⟩
    · obtain ⟨rest', -, none⟩ := callsSplit (hopNoRun lost) ((List.append_nil _).trans inside)
      simp at none
  | @hop _ via _ next _ spec answer _ location calls _ _ fits redirected found rest ih =>
    intro before sent answer' after split
    rcases exchangedSplit split with ⟨first, same⟩ | ⟨rest, whole, inside⟩
    · rw [first, same]
      exact ⟨_, _, head _ fits⟩
    · obtain ⟨rest', same, later⟩ := callsSplit (hopNoRun found) inside
      have onward : ∀ spec', client.workloadSpec limits next = .ok spec' →
          Sends client limits request (log ++ (exchanged spec answer ++ calls) ++ [⟨.cancelled, false⟩])
            (via ++ [location]) next spec' := by
        intro spec' fits'
        have sends := Sends.next (head spec fits) redirected found fits'
        simpa [exchanged] using sends
      have found := ih onward rest' sent answer' after later
      rw [whole, same]
      simpa [List.append_assoc] using found

theorem runSends {r : Except HttpFailure HttpResponseData}
    (run : Runs s (client.execute limits request) trace r s') :
    ∀ before sent answer after, trace = before ++ ⟨.run sent, answer⟩ :: after →
      ∃ via current, Sends client limits request before via current sent := by
  intro before sent answer after split
  rcases executeRuns run with ⟨only, -⟩ | ⟨only, -⟩ | ⟨later, whole, -, walk⟩
  · rw [only] at split
    rcases List.singleton_eq_append_iff.mp split with ⟨-, other⟩ | ⟨-, none⟩
    · cases (List.cons.inj other).1
    · cases none
  · rw [only] at split
    rcases List.singleton_eq_append_iff.mp split with ⟨-, other⟩ | ⟨-, none⟩
    · cases (List.cons.inj other).1
    · cases none
  · rw [whole] at split
    cases before with
    | nil => cases (List.cons.inj split).1
    | cons first before =>
      obtain ⟨head, split⟩ := List.cons.inj split
      rw [← head]
      have start : ∀ spec, client.workloadSpec limits request = .ok spec →
          Sends client limits request ([⟨.established, true⟩] ++ [⟨.cancelled, false⟩]) [] request spec :=
        fun spec fits => .first fits
      exact walkSends walk start before sent answer after split

structure LedTo (client : SandboxHttpClient) (limits : TransportLimits) (log : TransportLog)
    (location : PyStr) (from_ : HttpScanRequest python) (calls : TransportLog) (next : HttpScanRequest python)
    (sent : WorkloadSpec) : Prop where
  found : Hop from_ location calls (.ok next)
  made : ∀ call ∈ calls, call ∈ log
  fits : client.workloadSpec limits next = .ok sent
  asked : ∃ answer, (⟨.run sent, answer⟩ : Answered TransportCall TransportCall.Answer) ∈ log

theorem followedMade (sends : Sends client limits request log via current spec) (answer : Except PyError ExecResult) :
    ∀ location ∈ via, ∃ (from_ : HttpScanRequest python) (calls : TransportLog)
        (next : HttpScanRequest python) (sent : WorkloadSpec),
      LedTo client limits (log ++ [⟨.run spec, answer⟩]) location from_ calls next sent := by
  induction sends generalizing answer with
  | first => exact fun _ member => absurd member List.not_mem_nil
  | @next log calls via current next spec spec' answer' response location before redirected found fits ih =>
    intro other member
    rcases List.mem_append.mp member with earlier | last
    · obtain ⟨from_, calls', next', sent, followed⟩ := ih answer' other earlier
      have within : ∀ call ∈ log ++ [⟨.run spec, answer'⟩],
          call ∈ log ++ (⟨.run spec, answer'⟩ :: (calls ++ [⟨.cancelled, false⟩])) ++ [⟨.run spec', answer⟩] := by
        intro call inside
        rcases List.mem_append.mp inside with old | new
        · simp [old]
        · simp [List.mem_singleton.mp new]
      obtain ⟨answer'', asked⟩ := followed.asked
      exact ⟨from_, calls', next', sent, followed.found, fun call here => within call (followed.made call here),
        followed.fits, answer'', within _ asked⟩
    · rw [List.mem_singleton.mp last]
      exact ⟨current, calls, next, spec', found, fun call here => by simp [here], fits, answer, by simp⟩

theorem hopOrigin {parts : SplitResult} (found : Hop current location calls (.ok next))
    (split : urlsplit python location = .ok parts)
    (absolute : (parts.scheme.isEmpty && parts.netloc.isEmpty) = false) :
    ∃ port outcome binding, parts.port = .ok port ∧ bindingOf outcome = .ok binding ∧
      calls = [⟨.resolveAll (destinationHost python parts), outcome⟩] ∧ OriginHop parts port binding next := by
  generalize outcome : (Except.ok next : Except HttpFailure (HttpScanRequest python)) = r at found
  cases found with
  | relative split' relative =>
    rw [split] at split'
    cases split'
    rw [absolute] at relative
    contradiction
  | @resolved parts' port answer binding split' admitted bound =>
    rw [split] at split'
    cases split'
    exact ⟨port, answer, binding, admitted.port, bound, rfl, originHopIs (mapErrorOk outcome.symm)⟩
  | unsplit | blocked | unnamed | unresolved => cases outcome

theorem boundName {outcome : Except PyError ResolutionOutcome} {binding : ValidatedTargetBinding}
    (bound : bindingOf outcome = .ok binding) :
    ∃ addresses, outcome = .ok (.success binding.hostname addresses) := by
  match outcome with
  | .ok (.success hostname addresses) =>
    simp only [bindingOf] at bound
    split at bound
    · cases bound
    · unfold ValidatedTargetBinding.create at bound
      split at bound
      · cases bound
        exact ⟨addresses, rfl⟩
      · cases bound
  | .ok .failure | .error _ => cases bound

theorem hopsAlike {first second next next' : HttpScanRequest python} {calls calls' : TransportLog}
    {parts : SplitResult} {naming : PyStr → PyStr} {sent : WorkloadSpec}
    (found : Hop first location calls (.ok next)) (again : Hop second location calls' (.ok next'))
    (split : urlsplit python location = .ok parts)
    (absolute : (parts.scheme.isEmpty && parts.netloc.isEmpty) = false)
    (named : Naming naming calls) (named' : Naming naming calls')
    (fits : client.workloadSpec limits next = .ok sent) : SameRequest sent next' := by
  obtain ⟨port, outcome, binding, given, bound, resolved, hop⟩ := hopOrigin found split absolute
  obtain ⟨port', outcome', binding', given', bound', resolved', hop'⟩ := hopOrigin again split absolute
  obtain ⟨addresses, answered⟩ := boundName bound
  obtain ⟨addresses', answered'⟩ := boundName bound'
  have samePort : port = port' := Except.ok.inj (given.symm.trans given')
  have sameScheme : next.target.scheme = next'.target.scheme := hop.scheme.trans hop'.scheme.symm
  have name := named (destinationHost python parts) binding.hostname addresses
    (by rw [resolved, answered]; exact List.mem_cons_self)
  have name' := named' (destinationHost python parts) binding'.hostname addresses'
    (by rw [resolved', answered']; exact List.mem_cons_self)
  obtain ⟨pinned, -, sni⟩ := specAs fits
  have samePort' : next'.target.port = next.target.port := by
    rw [hop.port, hop'.port, sameScheme, samePort]
  have sameName : next'.target.hostname = next.target.hostname := by
    rw [hop.named, hop'.named, name, name']
  refine ⟨⟨next.target.address, ?_⟩, sni.trans sameName.symm⟩
  rw [hop'.path, ← hop.path, samePort', sameName, ← sameScheme]
  exact pinned

theorem repeatedIff {response : HttpResponseData} {raw : PyStr}
    (located : header? python response.headers (py "location") = some raw)
    (redirects : redirectStatuses.contains response.status = true) (whole : response.truncated = false) :
    redirection python via response = .error (.raised redirectDestinationBlockedError) ↔ strip raw ∈ via := by
  rw [redirection, located]
  dsimp only
  rw [redirects, whole, Bool.not_true, if_neg Bool.false_ne_true, if_neg Bool.false_ne_true]
  cases seen : via.contains (strip raw) with
  | true => exact iff_of_true rfl (List.contains_iff_mem.mp seen)
  | false =>
    refine iff_of_false (fun same => nomatch same) fun member => ?_
    rw [List.contains_iff_mem.mpr member] at seen
    contradiction

/- The check refuses a redirect exactly where its location was followed before in the run. That
led to an exchange, and where the location names an origin the exchange was for what the refused
hop would ask for. -/
theorem repeatsFollowed (client : SandboxHttpClient) (limits : TransportLimits)
    (request s s' : HttpScanRequest python) (trace : TransportLog) (r : Except HttpFailure HttpResponseData)
    (run : Runs s (client.execute limits request) trace r s') :
    ∀ before sent answer after, trace = before ++ ⟨.run sent, answer⟩ :: after →
      ∃ via current, Sends client limits request before via current sent ∧
        ∀ response raw, header? python response.headers (py "location") = some raw →
          redirectStatuses.contains response.status = true → response.truncated = false →
          (redirection python via response = .error (.raised redirectDestinationBlockedError) ↔
            strip raw ∈ via) ∧
          (strip raw ∈ via → ∃ (from_ : HttpScanRequest python) (calls : TransportLog)
              (next : HttpScanRequest python) (earlier : WorkloadSpec),
            LedTo client limits (before ++ [⟨.run sent, answer⟩]) (strip raw) from_ calls next earlier ∧
            ∀ parts naming calls' next', urlsplit python (strip raw) = .ok parts →
              (parts.scheme.isEmpty && parts.netloc.isEmpty) = false →
              Hop current (strip raw) calls' (.ok next') → Naming naming (before ++ calls') →
              SameRequest earlier next') := by
  intro before sent answer after split
  obtain ⟨via, current, sends⟩ := runSends run before sent answer after split
  refine ⟨via, current, sends, fun response raw located redirects whole => ⟨repeatedIff located redirects whole, ?_⟩⟩
  intro member
  obtain ⟨from_, calls, next, earlier, followed⟩ := followedMade sends answer (strip raw) member
  refine ⟨from_, calls, next, earlier, followed, ?_⟩
  intro parts naming calls' next' parsed absolute again named
  have resolved : Naming naming calls := by
    intro host name addresses inside
    refine named host name addresses (List.mem_append_left _ ?_)
    rcases List.mem_append.mp (followed.made _ inside) with old | new
    · exact old
    · cases List.mem_singleton.mp new
  exact hopsAlike followed.found again parsed absolute resolved
    (fun host name addresses inside => named host name addresses (List.mem_append_right _ inside)) followed.fits

end Loops

/-! A site that redirects every request to one location. -/

def redirectingAlways (location : String) : TransportLog → (c : TransportCall) → c.Answer
  | _, .established => true
  | _, .cancelled => false
  | _, .resolveAll hostname => Except.ok (ResolutionOutcome.success hostname [otherAddress])
  | _, .run _ => printed (redirectFrame location)

def loopRun (location : String) :
    TransportLog × Except HttpFailure HttpResponseData × HttpScanRequest (Python.onAscii []) :=
  play (redirectingAlways location) [] siteRequest (SandboxHttpClient.execute ⟨none⟩ siteLimits siteRequest)

def isBlocked : Except HttpFailure HttpResponseData → Bool
  | .error (.raised e) => e == redirectDestinationBlockedError
  | _ => false

/- A page that redirects to itself: its two exchanges, and what the check does with the repeat. -/
theorem absoluteRepeatMade :
    urlsSent (loopRun "https://b/x").1 = [py "https://93.184.216.34/", py "https://1.1.1.1/x"] ∧
    isBlocked (loopRun "https://b/x").2.1 = true ∧
    ∀ before sent answer after, (loopRun "https://b/x").1 = before ++ ⟨.run sent, answer⟩ :: after →
      ∃ via current, Sends ⟨none⟩ siteLimits siteRequest before via current sent ∧
        ∀ response raw, header? (Python.onAscii []) response.headers (py "location") = some raw →
          redirectStatuses.contains response.status = true → response.truncated = false →
          (redirection (Python.onAscii []) via response = .error (.raised redirectDestinationBlockedError) ↔
            strip raw ∈ via) ∧
          (strip raw ∈ via → ∃ (from_ : HttpScanRequest (Python.onAscii [])) (calls : TransportLog)
              (next : HttpScanRequest (Python.onAscii [])) (earlier : WorkloadSpec),
            LedTo ⟨none⟩ siteLimits (before ++ [⟨.run sent, answer⟩]) (strip raw) from_ calls next earlier ∧
            ∀ parts naming calls' next', urlsplit (Python.onAscii []) (strip raw) = .ok parts →
              (parts.scheme.isEmpty && parts.netloc.isEmpty) = false →
              Hop current (strip raw) calls' (.ok next') → Naming naming (before ++ calls') →
              SameRequest earlier next') :=
  ⟨by decide +kernel, by decide +kernel, repeatsFollowed ⟨none⟩ siteLimits siteRequest siteRequest
    (loopRun "https://b/x").2.2 (loopRun "https://b/x").1 (loopRun "https://b/x").2.1
    (playRuns (redirectingAlways "https://b/x") [] siteRequest
      (SandboxHttpClient.execute ⟨none⟩ siteLimits siteRequest))⟩

/- A relative location names another request at every hop: the one refused here was not made. -/
theorem relativeRepeatRefused :
    isBlocked (loopRun "sub/").2.1 = true ∧ urlsSent (loopRun "sub/").1 =
      [py "https://93.184.216.34/", py "https://93.184.216.34/sub/"] ∧
    (relativeHop (loopRun "sub/").2.2 (py "sub/")).toOption.map (fun next => next.spec.path) =
      some (py "/sub/sub/") := by
  decide +kernel

end SentinelGpt
