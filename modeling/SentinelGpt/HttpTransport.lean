import SentinelGpt.ExecFrames
import SentinelGpt.ScanExecutor
import SentinelGpt.TargetNormalization

/-! The HTTP client of an established sandbox: one exchange for each hop, every hop to
another origin resolved, validated and pinned anew. -/
namespace SentinelGpt
open Calling HttpAnalysis TargetNormalization

def redirectDestinationBlockedError : PyError := .other (py "RedirectDestinationBlockedError")

/- The two timeouts stand as the texts of floats, already cut to thirty seconds. -/
structure TransportLimits extends HttpLimits where
  connectTimeoutS : PyStr
  readTimeoutS : PyStr
  deriving DecidableEq

def maxSpecArgvBytes : Nat := 65536

def redirectStatuses : List Int := [301, 302, 303, 307, 308]

def hopByHopHeaders : List PyStr :=
  [py "connection", py "keep-alive", py "transfer-encoding", py "upgrade", py "proxy-authorization"]

def hostText (address : IPAddress) : PyStr :=
  if address.version = 6 then py "[" ++ address.text ++ py "]" else address.text

def portSuffix : Option Nat → PyStr
  | none => []
  | some port => py ":" ++ py (toString port)

def originUrl (scheme : PyStr) (address : IPAddress) (port : Option Nat) (path : PyStr) : PyStr :=
  scheme ++ py "://" ++ hostText address ++ portSuffix port ++ path

/- The port a URL shows, unless it is the default of the scheme. -/
def pinnedPort (target : ConnectionTarget) : Except PyError (Option Nat) :=
  if !allowedHttpSchemes.contains target.scheme then .error .keyError
  else if target.port = defaultPort target.scheme then .ok none
  else if shortInt target.port then .ok (some target.port)
  else .error .valueError

/- The origin URL of the pinned address; the logical name never enters. -/
def pinnedUrl (target : ConnectionTarget) (path : PyStr) : Except PyError PyStr := do
  let port ← pinnedPort target
  return originUrl target.scheme target.address port
    (if (py "/").isPrefixOf path then path else py "/" ++ path)

structure WorkloadSpec where
  url : PyStr
  method : PyStr
  headers : Headers
  bodyB64 : Option PyStr
  connectTimeoutS : PyStr
  readTimeoutS : PyStr
  maxResponseBytes : Nat
  sniHostname : PyStr
  caB64 : Option PyStr
  deriving DecidableEq, Repr

namespace WorkloadSpec

def optionText : Option PyStr → Json
  | some text => .str text
  | none => .null

def json (spec : WorkloadSpec) : PyStr := dumpsObject
  [(py "url", .str spec.url), (py "method", .str spec.method),
   (py "headers", .list (spec.headers.map fun h => .list [.str h.1, .str h.2])),
   (py "body_b64", optionText spec.bodyB64), (py "connect_timeout_s", .float spec.connectTimeoutS),
   (py "read_timeout_s", .float spec.readTimeoutS), (py "max_response_bytes", .int spec.maxResponseBytes),
   (py "sni_hostname", .str spec.sniHostname), (py "ca_b64", optionText spec.caB64)]

/- The argument it is passed as; the JSON text is ASCII. -/
def argument (spec : WorkloadSpec) : List Nat := Base64.encode (spec.json.map fun c => Base64.byte c.val)

end WorkloadSpec

def codesText (codes : List Nat) : PyStr := codes.map JsonScan.ofNat

theorem codesVal {codes : List Nat} (small : ∀ code ∈ codes, code < 0x80) : (codesText codes).map Fin.val = codes := by
  induction codes with
  | nil => rfl
  | cons code codes ih =>
    obtain ⟨first, others⟩ := List.forall_mem_cons.mp small
    have value : (JsonScan.ofNat code).val = code := ofNatVal (by omega)
    have rest := ih others
    rw [codesText] at rest ⊢
    rw [List.map_cons, List.map_cons, value, rest]

theorem codesSmall {codes : List Nat} (small : ∀ code ∈ codes, code < 0x80) : ∀ c ∈ codesText codes, c.val < 0x80 := by
  intro c inside
  obtain ⟨code, member, rfl⟩ := List.mem_map.mp inside
  have bound := small code member
  rw [ofNatVal (by omega)]
  exact bound

theorem codesAscii {codes : List Nat} (small : ∀ code ∈ codes, code < 0x80) : isAscii (codesText codes) = true :=
  List.all_eq_true.mpr fun c inside => decide_eq_true (codesSmall small c inside)

def stripHopHeaders (python : Python) (headers : Headers) : Headers :=
  headers.filter fun h => !hopByHopHeaders.contains (python.lower h.1)

inductive TransportCall where
  | established
  | cancelled
  | resolveAll (hostname : PyStr)
  | run (spec : WorkloadSpec)
  deriving DecidableEq

def TransportCall.Answer : TransportCall → Type
  | .established | .cancelled => Bool
  | .resolveAll _ => Except PyError ResolutionOutcome
  | .run _ => Except PyError ExecResult

abbrev TransportLog := List (Answered TransportCall TransportCall.Answer)

abbrev TransportProg (python : Python) (α : Type) :=
  Program (HttpScanRequest python) TransportCall TransportCall.Answer HttpFailure α

structure SandboxHttpClient where
  caB64 : Option PyStr

namespace SandboxHttpClient
variable {python : Python}

def refused (exc : PyError) : TransportProg python α := .raise (.raised exc)

def attempt (x : Except PyError α) : TransportProg python α := .ofExcept (x.mapError .raised)

def requireEstablished : TransportProg python Unit :=
  .call .established fun (answer : Bool) => if answer then .pure () else refused sandboxNotEstablishedError

def checkCancelled : TransportProg python Unit :=
  .call .cancelled fun (flagged : Bool) => if flagged then refused scanCancelledError else .pure ()

def workloadSpec (client : SandboxHttpClient) (limits : TransportLimits)
    (request : HttpScanRequest python) : Except PyError WorkloadSpec := do
  let url ← pinnedUrl request.target request.spec.path
  let spec : WorkloadSpec := {
    url
    method := python.upper request.spec.method
    headers := request.spec.headers ++ [(py "Host", request.target.hostname)]
    bodyB64 := request.spec.body.map fun data => codesText (Base64.encode data)
    connectTimeoutS := limits.connectTimeoutS
    readTimeoutS := limits.readTimeoutS
    maxResponseBytes := limits.maxResponseBytes
    sniHostname := request.target.hostname
    caB64 := client.caB64 }
  if !shortInt spec.maxResponseBytes then .error .valueError
  else if maxSpecArgvBytes < spec.argument.length then .error .valueError
  else .ok spec

def exchange (client : SandboxHttpClient) (limits : TransportLimits) (request : HttpScanRequest python) :
    TransportProg python HttpResponseData := do
  let spec ← attempt (client.workloadSpec limits request)
  .call (.run spec) fun (answer : Except PyError ExecResult) => do
    let result ← attempt answer
    Program.ofExcept (parseExecResult python result request.target)

def authorizeOrRefuse (context : ScanNetworkContext) (spec : HttpRequestSpec python)
    (target : ConnectionTarget) : Except PyError (HttpScanRequest python) :=
  if context.binding.pinnedAddress = none then .error egressDeniedError
  else if context.egressAuthorize target.address then .ok ⟨context, spec, target⟩
  else .error egressDeniedError

def isProhibitedName (python : Python) (host : PyStr) : Except PyError Bool :=
  match normalizeTarget python host (py "https://" ++ host ++ py "/") with
  | .ok _ => .ok false
  | .error (.invalidTarget _) => .ok true
  | .error .valueError => .error .valueError

/- `RedirectValidationService.evaluate`: the context of a destination, unpinned. -/
def evaluate (context : ScanNetworkContext) (location : PyStr) : TransportProg python ScanNetworkContext := do
  let parts ← attempt (urlsplit python location)
  if parts.scheme.isEmpty && parts.netloc.isEmpty then .pure context
  else if !allowedHttpSchemes.contains (python.lower parts.scheme) then
    refused redirectDestinationBlockedError
  else
    let host := rstrip 0x2E ((parts.hostname python).getD [])
    if host.isEmpty then refused redirectDestinationBlockedError
    else if ← attempt (isProhibitedName python host) then refused redirectDestinationBlockedError
    else .call (.resolveAll host) fun outcome =>
      match bindingOf outcome with
      | .ok binding => .pure ⟨binding⟩
      | .error e =>
        if e = .targetUnresolvedError ∨ e = targetResolutionBlockedError then
          refused redirectDestinationBlockedError
        else refused e

def pinContext (context : ScanNetworkContext) : Except PyError ScanNetworkContext :=
  match context.binding.addresses with
  | [] => .error egressDeniedError
  | first :: _ => (context.binding.withPinned first).map fun binding => ⟨binding⟩

/- A relative location stays on the origin in hand; the paths are merged. -/
def relativeHop (current : HttpScanRequest python) (location : PyStr) :
    Except PyError (HttpScanRequest python) := do
  let merged ← urljoin python current.spec.path location
  let spec ← HttpRequestSpec.create python current.spec.method merged
    (stripHopHeaders python current.spec.headers) none
  authorizeOrRefuse current.context spec current.target

def originHop (current : HttpScanRequest python) (parts : SplitResult) (port : Option Nat)
    (next : ScanNetworkContext) : Except PyError (HttpScanRequest python) := do
  let pinned ← pinContext next
  let target ← ConnectionTarget.forContext python pinned (python.lower parts.scheme) port
  let spec ← HttpRequestSpec.create python current.spec.method
    (if parts.path.isEmpty then py "/" else parts.path) (stripHopHeaders python current.spec.headers) none
  authorizeOrRefuse pinned spec target

def nextHop (current : HttpScanRequest python) (location : PyStr) :
    TransportProg python (HttpScanRequest python) := do
  let parts ← attempt (urlsplit python location)
  if parts.scheme.isEmpty && parts.netloc.isEmpty then attempt (relativeHop current location)
  else
    let scheme := python.lower parts.scheme
    if !allowedHttpSchemes.contains scheme then refused redirectDestinationBlockedError
    else if current.target.scheme = py "https" ∧ scheme = py "http" then
      refused redirectDestinationBlockedError
    else match parts.port with
      | .error _ => refused redirectDestinationBlockedError
      | .ok port => do
        let next ← evaluate current.context location
        attempt (originHop current parts port next)

/- Whether a response asks for another exchange, and where: blocked when its body was clamped or
the location was followed before. -/
def redirection (python : Python) (via : List PyStr) (response : HttpResponseData) :
    Except HttpFailure (Option PyStr) :=
  match header? python response.headers (py "location") with
  | none => .ok none
  | some locationRaw =>
    if !redirectStatuses.contains response.status then .ok none
    else if response.truncated then
      .error (.transport ⟨.responseTooLarge, py "redirect response exceeded size cap"⟩)
    else if via.contains (strip locationRaw) then .error (.raised redirectDestinationBlockedError)
    else .ok (some (strip locationRaw))

def walk (client : SandboxHttpClient) (limits : TransportLimits) :
    Nat → List PyStr → TransportProg python HttpResponseData
  | remaining, via => do
    checkCancelled
    .get fun current => do
      let response ← client.exchange limits current
      match ← Program.ofExcept (redirection python via response) with
      | none => .pure { response with finalTarget := current.target, viaRedirects := via }
      | some location =>
        match remaining with
        | 0 => refused redirectDestinationBlockedError
        | hops + 1 => do
          let next ← nextHop current location
          .set next (client.walk limits hops (via ++ [location]))

def execute (client : SandboxHttpClient) (limits : TransportLimits) (request : HttpScanRequest python) :
    TransportProg python HttpResponseData := do
  requireEstablished
  let current ← attempt (authorizeOrRefuse request.context request.spec request.target)
  .set current (client.walk limits limits.maxRedirects [])

end SandboxHttpClient
end SentinelGpt
