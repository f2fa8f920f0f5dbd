import SentinelGpt.Findings

/-! The passive HTTP engine, as far as the failure of its one request: what a scan of a
target that gave no response reports. -/
namespace SentinelGpt.HttpAnalysis

inductive TransportFailureKind where
  | connectTimeout
  | readTimeout
  | tlsError
  | protocolError
  | responseTooLarge
  | cancelled
  deriving DecidableEq, Repr

def TransportFailureKind.value : TransportFailureKind → PyStr
  | .connectTimeout => py "connect_timeout"
  | .readTimeout => py "read_timeout"
  | .tlsError => py "tls_error"
  | .protocolError => py "protocol_error"
  | .responseTooLarge => py "response_too_large"
  | .cancelled => py "cancelled"

structure ControlledTransportError where
  kind : TransportFailureKind
  detail : PyStr
  deriving DecidableEq, Repr

structure OriginSpec where
  scheme : PyStr
  port : Option Nat
  path : PyStr
  deriving DecidableEq, Repr

def categoryTransport : PyStr := py "http.transport"

def unreachableResult (python : Python) (name version hostname : PyStr) (origin : OriginSpec)
    (exc : ControlledTransportError) : Except PyError HttpAnalysisResult := do
  let location := origin.scheme ++ py "://" ++ hostname ++ origin.path
  let observation ← Observation.create python categoryTransport
    (py "Target unreachable through validated transport")
    (py "The attempt ended in a controlled transport failure (" ++ exc.kind.value ++
      py "); no security analysis was possible.")
    exc.kind.value location
  let finding ← Finding.create python categoryTransport (py "No HTTP response obtained")
    ((py "The validated transport could not complete the exchange; the destination may be " ++
      py "down, filtered, or misconfigured."))
    .info .high exc.kind.value location (py "Verify availability out-of-band; retry later.")
    [observation.id]
  return {
    engineName := name
    engineVersion := version
    targetHostname := hostname
    requestScheme := python.lower origin.scheme
    requestPort := origin.port.getD 0
    requestPath := origin.path
    status := none
    redirectCount := 0
    truncated := false
    contentType := []
    responseBytes := none
    observations := [observation]
    findings := [finding]
    errorKind := some exc.kind.value
    errorDetail := boundEvidence python exc.detail 256 }

theorem unreachableFindings {python : Python} {name version hostname : PyStr} {origin : OriginSpec}
    {exc : ControlledTransportError} {r : HttpAnalysisResult}
    (ok : unreachableResult python name version hostname origin exc = .ok r) :
    r.errorKind = some exc.kind.value ∧
      ∃ f, r.findings = [f] ∧ f.category = categoryTransport ∧
        f.title = py "No HTTP response obtained" := by
  unfold unreachableResult at ok
  cases observed : Observation.create python categoryTransport
      (py "Target unreachable through validated transport")
      (py "The attempt ended in a controlled transport failure (" ++ exc.kind.value ++
        py "); no security analysis was possible.") exc.kind.value
      (origin.scheme ++ py "://" ++ hostname ++ origin.path) with
  | error _ => simp only [observed] at ok; contradiction
  | ok observation =>
    simp only [observed, bind, Except.bind] at ok
    split at ok
    · contradiction
    · rename_i finding created
      cases ok
      refine ⟨rfl, finding, rfl, ?_⟩
      unfold Finding.create at created
      cases identified : Finding.makeId python categoryTransport (py "No HTTP response obtained")
          (origin.scheme ++ py "://" ++ hostname ++ origin.path) with
      | error _ => rw [identified] at created; contradiction
      | ok id =>
        rw [identified] at created
        cases created
        exact ⟨rfl, rfl⟩

end SentinelGpt.HttpAnalysis
