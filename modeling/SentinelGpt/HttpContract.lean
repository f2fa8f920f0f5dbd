import SentinelGpt.TargetBinding
import SentinelGpt.HttpAnalysis

/-! The contract between engines and the HTTP transport: pinned targets, request specs,
limits, responses and the failures of an exchange. -/
namespace SentinelGpt
open HttpAnalysis

def scanCancelledError : PyError := .other (py "ScanCancelledError")

def allowedHttpSchemes : List PyStr := [py "http", py "https"]

def defaultPort (scheme : PyStr) : Nat := if scheme = py "https" then 443 else 80

def allowedMethods : List PyStr := [py "GET", py "HEAD", py "POST", py "OPTIONS"]

def transportOwnedHeaders : List PyStr :=
  [py "host", py "content-length", py "connection", py "transfer-encoding"]

abbrev Headers := List (PyStr × PyStr)

structure HttpLimits where
  maxResponseBytes : Nat
  maxRedirects : Nat
  maxRequests : Nat
  positive : 0 < maxResponseBytes ∧ 0 < maxRedirects ∧ 0 < maxRequests
  deriving DecidableEq

theorem defaultsPositive : 0 < 2000000 ∧ 0 < 10 ∧ 0 < 4 := by decide

structure ConnectionTarget where
  address : IPAddress
  port : Nat
  scheme : PyStr
  hostname : PyStr
  deriving DecidableEq, Repr

def ConnectionTarget.forContext (python : Python) (context : ScanNetworkContext) (scheme : PyStr)
    (port : Option Nat) : Except PyError ConnectionTarget := do
  let normalizedScheme := python.lower scheme
  if !allowedHttpSchemes.contains normalizedScheme then throw .valueError
  match context.binding.pinnedAddress with
  | none => throw egressDeniedError
  | some pinned =>
    context.authorizeDestination pinned
    return {
      address := pinned
      port := port.getD (defaultPort normalizedScheme)
      scheme := normalizedScheme
      hostname := context.binding.hostname }

/- A spec that passed its own checks: the transport owns the headers of identity and framing. -/
structure HttpRequestSpec (python : Python) where
  method : PyStr
  path : PyStr
  headers : Headers
  body : Option (List Byte)
  permitted : allowedMethods.contains (python.upper method) = true
  relative : (py "/").isPrefixOf path = true
  unowned : headers.all (fun h => !transportOwnedHeaders.contains (python.lower h.1)) = true
  deriving DecidableEq

def HttpRequestSpec.create (python : Python) (method path : PyStr) (headers : Headers)
    (body : Option (List Byte)) : Except PyError (HttpRequestSpec python) :=
  if permitted : allowedMethods.contains (python.upper method) = true then
    if relative : (py "/").isPrefixOf path = true then
      if unowned : headers.all (fun h => !transportOwnedHeaders.contains (python.lower h.1)) = true then
        .ok ⟨method, path, headers, body, permitted, relative, unowned⟩
      else .error .valueError
    else .error .valueError
  else .error .valueError

structure HttpScanRequest (python : Python) where
  context : ScanNetworkContext
  spec : HttpRequestSpec python
  target : ConnectionTarget
  deriving DecidableEq

def HttpScanRequest.authorize {python : Python} (context : ScanNetworkContext)
    (spec : HttpRequestSpec python) (scheme : PyStr) (port : Option Nat) :
    Except PyError (HttpScanRequest python) := do
  return ⟨context, spec, ← ConnectionTarget.forContext python context scheme port⟩

structure HttpResponseData where
  status : Int
  headers : Headers
  body : List Byte
  finalTarget : ConnectionTarget
  viaRedirects : List PyStr
  truncated : Bool
  deriving DecidableEq, Repr

/- What an exchange raises: a controlled failure of the transport, or anything else. -/
inductive HttpFailure where
  | transport (exc : ControlledTransportError)
  | raised (exc : PyError)
  deriving DecidableEq, Repr

/- `_header(headers, name)`, for a name in lower case: its first value. -/
def header? (python : Python) (headers : Headers) (name : PyStr) : Option PyStr :=
  (headers.find? fun h => python.lower h.1 == name).map Prod.snd

theorem forContextPinned {python : Python} {context : ScanNetworkContext} {scheme : PyStr}
    {port : Option Nat} {target : ConnectionTarget}
    (made : ConnectionTarget.forContext python context scheme port = .ok target) :
    context.binding.pinnedAddress = some target.address ∧
      target.hostname = context.binding.hostname ∧ target.scheme = python.lower scheme ∧
      target.scheme ∈ allowedHttpSchemes := by
  unfold ConnectionTarget.forContext at made
  by_cases allowed : allowedHttpSchemes.contains (python.lower scheme) = true
  · simp only [allowed, Bool.not_true, Bool.false_eq_true, if_false] at made
    cases pinned : context.binding.pinnedAddress with
    | none => rw [pinned] at made; contradiction
    | some address =>
      have member : context.egressAuthorize address = true := by
        simpa [ScanNetworkContext.egressAuthorize] using context.binding.pinned address pinned
      simp only [pinned, ScanNetworkContext.authorizeDestination, member, if_true] at made
      cases made
      exact ⟨rfl, rfl, rfl, by simpa using allowed⟩
  · simp only [Bool.not_eq_true] at allowed
    simp only [allowed, Bool.not_false, if_true] at made
    contradiction

theorem forContextPort {python : Python} {context : ScanNetworkContext} {scheme : PyStr}
    {port : Option Nat} {target : ConnectionTarget}
    (made : ConnectionTarget.forContext python context scheme port = .ok target) :
    target.port = port.getD (defaultPort target.scheme) := by
  unfold ConnectionTarget.forContext at made
  dsimp only at made
  split at made
  · cases made
  · split at made
    · cases made
    · obtain ⟨_, -, made⟩ := bindOk made
      cases made
      rfl

end SentinelGpt
