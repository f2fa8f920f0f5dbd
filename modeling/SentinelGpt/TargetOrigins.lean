import SentinelGpt.HttpEngine
import SentinelGpt.NormalizationTwice
import SentinelGpt.ScanService

/-! The first request of a scan beside the URL its target was registered with. -/
namespace SentinelGpt
open TargetNormalization UrlSplit HttpAnalysis SandboxHttpClient

def HttpAnalysis.OriginSpec.create (python : Python) (scheme : PyStr) (port : Option Nat) (path : PyStr) :
    Except PyError OriginSpec :=
  let effective := match port with
    | none | some 0 => defaultPort (python.lower scheme)
    | some n => n
  if !allowedHttpSchemes.contains (python.lower scheme) then .error .valueError
  else if !(py "/").isPrefixOf path then .error .valueError
  else if !(1 ≤ effective && effective ≤ 65535) then .error .valueError
  else .ok ⟨scheme, port, path⟩

/- What `DefaultScanPipeline.run` makes of an origin: `port or None`. -/
def originSpecOf (python : Python) (origin : Origin) : Except PyError OriginSpec :=
  OriginSpec.create python origin.scheme (if origin.port = 0 then none else some origin.port) origin.path

/- A context the executor can pin for a host: the resolver reports the name without the blanks
around it. -/
structure ContextFor (host : PyStr) (context : ScanNetworkContext) : Prop where
  named : context.binding.hostname = strip host
  pinned : context.binding.pinnedAddress ≠ none

structure UrlComponents where
  scheme : PyStr
  host : PyStr
  port : Option Nat
  path : PyStr
  query : PyStr

def UrlComponents.effectivePort (url : UrlComponents) : Nat := url.port.getD (defaultPort url.scheme)

def UrlComponents.text (url : UrlComponents) : PyStr :=
  webUrl url.scheme (displayNetloc url.host url.port ++ (url.path ++ queryText url.query))

def componentsOf (python : Python) (n : NormalizedTarget) (parts : SplitResult) (port : Option Nat) : UrlComponents :=
  ⟨python.lower parts.scheme, n.hostname, port, displayPath parts, parts.query⟩

/- The origin is derived, accepted, and leads to a request with the parts of the URL. -/
def Faithful (python : Python) (target : Target) (url : UrlComponents) : Prop :=
  ∃ origin spec, originOf python target = .ok origin ∧ originSpecOf python origin = .ok spec ∧
    ∀ context, ContextFor origin.hostname context → ∀ services : EngineServices python, services.origin = spec →
      ∃ request, buildRequest context services = .ok request ∧ request.target.scheme = url.scheme ∧
        request.target.hostname = url.host ∧ request.target.port = url.effectivePort ∧
        request.spec.path = url.path ++ queryText url.query

section Origins
variable {python : Python} {hostname url : PyStr} {parts : SplitResult} {port : Option Nat} {n : NormalizedTarget}
  {target : Target}

theorem componentsText (acceptance : Acceptance python hostname url parts port n) :
    (componentsOf python n parts port).text = n.normalizedUrl := (storedText acceptance).symm

def portOr (default : Nat) : Option Nat → Nat
  | none | some 0 => default
  | some k => k

theorem originStored (acceptance : Acceptance python hostname url parts port n) (plain : PlainCase python)
    (stable : StableCase python) (stored : target.normalizedUrl = n.normalizedUrl)
    (brackets : checkBrackets (displayNetloc n.hostname port) = true)
    (netloc : checkNetloc python (displayNetloc n.hostname port) = true) :
    originOf python target = .ok ⟨n.hostname, python.lower parts.scheme,
      portOr (defaultPort (python.lower parts.scheme)) port, displayPath parts⟩ := by
  obtain ⟨close, anonymous⟩ := storedMarks acceptance plain
  have read := storedRead acceptance plain stable
  rw [brackets, netloc, Bool.and_self, if_pos rfl] at read
  have info : (storedParts python n.hostname parts port).hostinfo = (n.hostname, portDigits port) :=
    shownInfo rfl close anonymous brackets
  have ported := shownPort info (portRange acceptance.portRead)
  have named : (storedParts python n.hostname parts port).hostname python = some n.hostname := by
    have shown := shownName stable (storedHostSome acceptance) (storedLower acceptance stable) info
    unfold hostOf at shown
    cases name : (storedParts python n.hostname parts port).hostname python with
    | none =>
      rw [name] at shown
      exact absurd shown.symm (storedHostSome acceptance)
    | some host =>
      rw [name] at shown
      exact congrArg some shown
  have schemed : (python.lower parts.scheme).isEmpty = false := by
    rcases webScheme acceptance with http | https
    · rw [http]
      rfl
    · rw [https]
      rfl
  have filled : (displayPath parts).isEmpty = false := by
    obtain ⟨more, tail⟩ := tailSlash acceptance
    have rooted := (storedTail acceptance).1
    cases path : displayPath parts with
    | nil =>
      rw [path] at rooted
      cases rooted
    | cons c rest => rfl
  dsimp only [storedParts] at ported named
  unfold originOf
  rw [stored, read]
  simp only [bind, Except.bind, pure, Except.pure, stable.again, ported, named, schemed, filled, Bool.false_eq_true, if_false]
  apply congrArg Except.ok
  cases host : n.hostname with
  | nil => exact absurd host (storedHostSome acceptance)
  | cons c rest =>
    rcases port with _ | _ | k <;> rfl

theorem requestBuilt {context : ScanNetworkContext} {services : EngineServices python}
    (scheme : allowedHttpSchemes.contains (python.lower services.origin.scheme) = true)
    (get : python.upper (py "GET") = py "GET") (rooted : (py "/").isPrefixOf services.origin.path = true)
    (pinned : context.binding.pinnedAddress ≠ none) :
    ∃ request, buildRequest context services = .ok request ∧
      request.target.scheme = python.lower services.origin.scheme ∧ request.target.hostname = context.binding.hostname ∧
      request.target.port = services.origin.port.getD (defaultPort (python.lower services.origin.scheme)) ∧
      request.spec.path = services.origin.path := by
  cases pin : context.binding.pinnedAddress with
  | none => exact absurd pin pinned
  | some address =>
    have listed : context.egressAuthorize address = true :=
      List.contains_iff_mem.mpr (context.binding.pinned address pin)
    have permitted : allowedMethods.contains (python.upper (py "GET")) = true := by
      rw [get]
      decide
    have spec : HttpRequestSpec.create python (py "GET") services.origin.path [] none =
        .ok ⟨py "GET", services.origin.path, [], none, permitted, rooted, rfl⟩ := by
      unfold HttpRequestSpec.create
      rw [dif_pos permitted, dif_pos rooted]
      rfl
    have target : ConnectionTarget.forContext python context services.origin.scheme services.origin.port =
        .ok ⟨address, services.origin.port.getD (defaultPort (python.lower services.origin.scheme)),
          python.lower services.origin.scheme, context.binding.hostname⟩ := by
      unfold ConnectionTarget.forContext
      dsimp only
      rw [scheme, pin]
      simp only [ScanNetworkContext.authorizeDestination, listed, if_true]
      rfl
    refine ⟨⟨context, ⟨py "GET", services.origin.path, [], none, permitted, rooted, rfl⟩,
      ⟨address, services.origin.port.getD (defaultPort (python.lower services.origin.scheme)),
        python.lower services.origin.scheme, context.binding.hostname⟩⟩, ?_, rfl, rfl, rfl, rfl⟩
    unfold buildRequest
    dsimp only
    rw [spec, target]
    simp only [bind, Except.bind, listed]
    rfl

theorem allowedOfWeb {scheme : PyStr} (web : IsWeb scheme) : allowedHttpSchemes.contains scheme = true := by
  rcases web with rfl | rfl <;> decide

theorem defaultPortWeb (scheme : PyStr) : 1 ≤ defaultPort scheme ∧ defaultPort scheme ≤ 65535 := by
  unfold defaultPort
  split <;> decide

theorem originAccepted (stable : StableCase python) {scheme path host : PyStr} (web : IsWeb (python.lower scheme))
    (rooted : (py "/").isPrefixOf path = true) (range : ∀ k, port = some k → k ≤ 65535) :
    ∃ spec, originSpecOf python ⟨host, python.lower scheme, portOr (defaultPort (python.lower scheme)) port, path⟩ =
      .ok spec ∧ spec.scheme = python.lower scheme ∧ spec.path = path ∧
      spec.port.getD (defaultPort (python.lower scheme)) = portOr (defaultPort (python.lower scheme)) port := by
  have default := defaultPortWeb (python.lower scheme)
  have bounds : 1 ≤ portOr (defaultPort (python.lower scheme)) port ∧
      portOr (defaultPort (python.lower scheme)) port ≤ 65535 := by
    rcases port with _ | _ | k
    · exact default
    · exact default
    · exact ⟨by simp [portOr], range (k + 1) rfl⟩
  generalize portOr (defaultPort (python.lower scheme)) port = effective at bounds
  cases effective with
  | zero => exact absurd bounds.1 (by decide)
  | succ k =>
    have inside : ¬(!(decide (1 ≤ k + 1) && decide (k + 1 ≤ 65535))) = true := by
      rw [decide_eq_true bounds.1, decide_eq_true bounds.2]
      decide
    refine ⟨⟨python.lower scheme, some (k + 1), path⟩, ?_, rfl, rfl, rfl⟩
    unfold originSpecOf OriginSpec.create
    dsimp only
    rw [if_neg (Nat.succ_ne_zero k), stable.again, allowedOfWeb web, rooted]
    exact if_neg inside

structure CarriedWhole (python : Python) (hostname : PyStr) (parts : SplitResult) (port : Option Nat) : Prop where
  visible : strip (givenHost python hostname) = givenHost python hostname
  brackets : checkBrackets (displayNetloc (givenHost python hostname) port) = true
  netloc : checkNetloc python (displayNetloc (givenHost python hostname) port) = true
  query : parts.query = []
  port : port ≠ some 0

theorem storedRooted (acceptance : Acceptance python hostname url parts port n) :
    (py "/").isPrefixOf (displayPath parts) = true := by
  have rooted := (storedTail acceptance).1
  cases path : displayPath parts with
  | nil =>
    rw [path] at rooted
    cases rooted
  | cons c rest =>
    rw [path] at rooted
    cases Option.some.inj rooted
    rfl

theorem faithfulOf (acceptance : Acceptance python hostname url parts port n) (plain : PlainCase python)
    (stable : StableCase python) (ascii : AsciiCase python) (stored : target.normalizedUrl = n.normalizedUrl)
    (whole : CarriedWhole python hostname parts port) : Faithful python target (componentsOf python n parts port) := by
  obtain ⟨visible, brackets, netloc, query, nonzero⟩ := whole
  rw [← acceptance.same] at visible brackets netloc
  have web := webScheme acceptance
  have rooted := storedRooted acceptance
  obtain ⟨spec, accepted, scheme, path, port'⟩ := @originAccepted python port stable parts.scheme (displayPath parts)
    n.hostname web rooted (portRange acceptance.portRead)
  refine ⟨_, spec, originStored acceptance plain stable stored brackets netloc, accepted, ?_⟩
  intro context suits services given
  have allowed : allowedHttpSchemes.contains (python.lower services.origin.scheme) = true := by
    rw [given, scheme, stable.again]
    exact allowedOfWeb web
  obtain ⟨request, built, schemed, named, ported, pathed⟩ := requestBuilt allowed (ascii.upper _ (by decide))
    (by rw [given, path]; exact rooted) suits.pinned
  refine ⟨request, built, ?_, ?_, ?_, ?_⟩
  · rw [schemed, given, scheme, stable.again]
    rfl
  · rw [named, suits.named, visible]
    rfl
  · rw [ported, given, scheme, stable.again, port']
    rcases port with _ | _ | k
    · rfl
    · exact absurd rfl nonzero
    · rfl
  · rw [pathed, given, path]
    unfold componentsOf
    dsimp only
    rw [query]
    exact (List.append_nil _).symm

def pinnedTo (host : PyStr) : ScanNetworkContext :=
  ⟨⟨strip host, [.ofOctets 8 8 8 8], some (.ofOctets 8 8 8 8), by decide, by simp⟩⟩

def servicesOf (python : Python) (origin : OriginSpec) : EngineServices python :=
  ⟨defaultLimits, false, origin, fun _ => .error (.raised .valueError)⟩

theorem wholeOf (acceptance : Acceptance python hostname url parts port n) (plain : PlainCase python)
    (stable : StableCase python) (ascii : AsciiCase python) (stored : target.normalizedUrl = n.normalizedUrl)
    (faithful : Faithful python target (componentsOf python n parts port)) :
    CarriedWhole python hostname parts port := by
  obtain ⟨origin, spec, derived, accepted, requests⟩ := faithful
  have read := storedRead acceptance plain stable
  split at read
  · rename_i checked
    obtain ⟨brackets, netloc⟩ := Bool.and_eq_true_iff.mp checked
    have web := webScheme acceptance
    have rooted := storedRooted acceptance
    cases (originStored acceptance plain stable stored brackets netloc).symm.trans derived
    obtain ⟨spec', accepted', scheme, path, port'⟩ := @originAccepted python port stable parts.scheme (displayPath parts)
      n.hostname web rooted (portRange acceptance.portRead)
    cases accepted'.symm.trans accepted
    have pinned : (pinnedTo n.hostname).binding.pinnedAddress ≠ none := by simp [pinnedTo]
    obtain ⟨request, built, -, named, ported, pathed⟩ :=
      requests (pinnedTo n.hostname) ⟨rfl, pinned⟩ (servicesOf python spec) rfl
    have allowed : allowedHttpSchemes.contains (python.lower (servicesOf python spec).origin.scheme) = true := by
      rw [servicesOf, scheme, stable.again]
      exact allowedOfWeb web
    obtain ⟨request', built', -, named', ported', pathed'⟩ := requestBuilt allowed (ascii.upper _ (by decide))
      (by rw [servicesOf, path]; exact rooted) pinned
    cases built.symm.trans built'
    have shown : strip n.hostname = n.hostname := named'.symm.trans named
    have effective : (componentsOf python n parts port).effectivePort =
        portOr (defaultPort (python.lower parts.scheme)) port := by
      rw [← ported, ported', servicesOf, scheme, stable.again, port']
    have tail : displayPath parts ++ queryText parts.query = displayPath parts := by
      have both := pathed.symm.trans pathed'
      rw [servicesOf, path] at both
      exact both
    rw [acceptance.same] at shown brackets netloc
    refine ⟨shown, brackets, netloc, ?_, ?_⟩
    · have none : queryText parts.query = [] := List.append_right_eq_self.mp tail
      cases given : parts.query with
      | nil => rfl
      | cons c rest =>
        rw [given] at none
        cases none
    · intro zero
      rw [zero] at effective
      have default := (defaultPortWeb (python.lower parts.scheme)).1
      have none : 0 = defaultPort (python.lower parts.scheme) := effective
      omega
  · unfold originOf at derived
    rw [stored, read] at derived
    cases derived

/- The first request has the parts of the stored URL exactly when nothing of them is dropped,
replaced or unreadable. -/
theorem faithfulIff (plain : PlainCase python) (stable : StableCase python) (ascii : AsciiCase python)
    (accepted : normalizeTarget python hostname url = .ok n) (split : urlsplit python (strip url) = .ok parts)
    (given : parts.port = .ok port) (stored : target.normalizedUrl = n.normalizedUrl) :
    Faithful python target (componentsOf python n parts port) ↔ CarriedWhole python hostname parts port := by
  obtain ⟨parts', port', acceptance⟩ := acceptedParts accepted
  cases acceptance.split.symm.trans split
  cases acceptance.portRead.symm.trans given
  constructor
  · exact wholeOf acceptance plain stable ascii stored
  · exact faithfulOf acceptance plain stable ascii stored

end Origins

section Runs

theorem asciiCases : PlainCase (Python.onAscii []) ∧ StableCase (Python.onAscii []) ∧ AsciiCase (Python.onAscii []) :=
  ⟨plainOfAscii fun _ => rfl, stableOfAscii fun _ => rfl, ⟨fun _ _ => rfl, fun _ _ => rfl⟩⟩

theorem queryDropped : ∃ parts, urlsplit (Python.onAscii []) (py "https://example.com/a?b=1") = .ok parts ∧
    normalizeTarget (Python.onAscii []) (py "example.com") (py "https://example.com/a?b=1") =
      .ok ⟨py "example.com", py "https://example.com/a?b=1"⟩ ∧
    originOf (Python.onAscii []) ⟨0, none, some 0, py "example.com", py "https://example.com/a?b=1", false⟩ =
      .ok ⟨py "example.com", py "https", 443, py "/a"⟩ ∧
    ¬ Faithful (Python.onAscii []) ⟨0, none, some 0, py "example.com", py "https://example.com/a?b=1", false⟩
      (componentsOf (Python.onAscii []) ⟨py "example.com", py "https://example.com/a?b=1"⟩ parts none) := by
  have accepted : normalizeTarget (Python.onAscii []) (py "example.com") (py "https://example.com/a?b=1") =
      .ok ⟨py "example.com", py "https://example.com/a?b=1"⟩ := by decide +kernel
  have split : urlsplit (Python.onAscii []) (py "https://example.com/a?b=1") =
      .ok ⟨py "https", py "example.com", py "/a", py "b=1", []⟩ := by decide +kernel
  refine ⟨_, split, accepted, by decide +kernel, ?_⟩
  intro faithful
  obtain ⟨parts, port, acceptance⟩ := acceptedParts accepted
  cases acceptance.split.symm.trans split
  cases acceptance.portRead
  obtain ⟨plain, stable, ascii⟩ := asciiCases
  cases (wholeOf acceptance plain stable ascii rfl faithful).query

theorem plainCarried : Faithful (Python.onAscii []) ⟨0, none, some 0, py "example.com", py "https://example.com/a", false⟩
    ⟨py "https", py "example.com", none, py "/a", []⟩ := by
  have accepted : normalizeTarget (Python.onAscii []) (py "example.com") (py "https://example.com/a#b") =
      .ok ⟨py "example.com", py "https://example.com/a"⟩ := by decide +kernel
  have split : urlsplit (Python.onAscii []) (py "https://example.com/a#b") =
      .ok ⟨py "https", py "example.com", py "/a", [], py "b"⟩ := by decide +kernel
  have whole : CarriedWhole (Python.onAscii []) (py "example.com") ⟨py "https", py "example.com", py "/a", [], py "b"⟩
      none := ⟨by decide +kernel, by decide +kernel, by decide +kernel, rfl, by decide⟩
  obtain ⟨plain, stable, ascii⟩ := asciiCases
  exact (faithfulIff plain stable ascii accepted split rfl rfl).mpr whole

end Runs
end SentinelGpt
