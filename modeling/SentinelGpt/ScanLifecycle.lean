import SentinelGpt.PythonText

/-! The state machine of a scan and the derivation of a finding's lifecycle status. -/
namespace SentinelGpt

/- The seeded rows of `scan_status`. -/
inductive ScanStatus where
  | pendingAttestation
  | queued
  | running
  | partiallyComplete
  | scanComplete
  | aiAnalysis
  | reportReady
  | reportReadyDegraded
  | rejected
  | cancelled
  deriving DecidableEq, Repr

namespace ScanStatus

def code : ScanStatus → PyStr
  | .pendingAttestation => py "PENDING_ATTESTATION"
  | .queued => py "QUEUED"
  | .running => py "RUNNING"
  | .partiallyComplete => py "PARTIALLY_COMPLETE"
  | .scanComplete => py "SCAN_COMPLETE"
  | .aiAnalysis => py "AI_ANALYSIS"
  | .reportReady => py "REPORT_READY"
  | .reportReadyDegraded => py "REPORT_READY_DEGRADED"
  | .rejected => py "REJECTED"
  | .cancelled => py "CANCELLED"

def allowedTransitions : ScanStatus → List ScanStatus
  | .pendingAttestation => [.queued, .rejected, .cancelled]
  | .queued => [.running, .rejected, .cancelled]
  -- RUNNING is intentionally not cancellable (ADR-0009).
  | .running => [.scanComplete, .partiallyComplete, .rejected]
  | .aiAnalysis => [.reportReady, .reportReadyDegraded]
  | .scanComplete => [.aiAnalysis]
  | .partiallyComplete => [.aiAnalysis]
  | .reportReady | .reportReadyDegraded | .rejected | .cancelled => []

def canTransition (current target : ScanStatus) : Bool := (allowedTransitions current).contains target

def isTerminal : ScanStatus → Bool
  | .reportReady | .reportReadyDegraded | .rejected | .cancelled => true
  | _ => false

theorem terminalIffNoEdge (s : ScanStatus) :
    s.isTerminal = true ↔ ∀ t, canTransition s t = false := by
  constructor
  · intro terminal t
    cases s <;> first | rfl | contradiction
  · intro none
    cases s with
    | pendingAttestation => exact absurd (none .queued) (by decide)
    | queued => exact absurd (none .running) (by decide)
    | running => exact absurd (none .rejected) (by decide)
    | partiallyComplete => exact absurd (none .aiAnalysis) (by decide)
    | scanComplete => exact absurd (none .aiAnalysis) (by decide)
    | aiAnalysis => exact absurd (none .reportReady) (by decide)
    | reportReady => rfl
    | reportReadyDegraded => rfl
    | rejected => rfl
    | cancelled => rfl

def beforeRunning : ScanStatus → Bool
  | .pendingAttestation | .queued => true
  | _ => false

theorem cancelledOnlyBeforeRunning (s : ScanStatus) :
    canTransition s .cancelled = s.beforeRunning := by
  cases s <;> rfl

end ScanStatus

/- The seeded rows of `finding_lifecycle_status`. -/
inductive LifecycleStatus where
  | new
  | persistent
  | resolved
  | regressed
  deriving DecidableEq, Repr

def LifecycleStatus.isOpen : LifecycleStatus → Bool
  | .resolved => false
  | _ => true

def deriveLifecycleStatus (inCurrent inPrevious : Bool) (lastKnownStatus : Option LifecycleStatus) :
    Option LifecycleStatus :=
  if inCurrent && !inPrevious then
    if lastKnownStatus = some .resolved then some .regressed else some .new
  else if inCurrent && inPrevious then some .persistent
  else if !inCurrent && inPrevious then some .resolved
  else none

theorem derivedOpenIff {inCurrent inPrevious : Bool} {last : Option LifecycleStatus}
    {status : LifecycleStatus} (derived : deriveLifecycleStatus inCurrent inPrevious last = some status) :
    status.isOpen = inCurrent := by
  revert derived
  unfold deriveLifecycleStatus
  cases inCurrent <;> cases inPrevious <;> simp only [Bool.and_true, Bool.and_false, Bool.not_true,
    Bool.not_false, if_true, Bool.false_eq_true, if_false]
  · rintro ⟨⟩
  · rintro ⟨⟩; rfl
  · split <;> rintro ⟨⟩ <;> rfl
  · rintro ⟨⟩; rfl

theorem derivedSomeIff {inCurrent inPrevious : Bool} {last : Option LifecycleStatus} :
    (deriveLifecycleStatus inCurrent inPrevious last).isSome = (inCurrent || inPrevious) := by
  unfold deriveLifecycleStatus
  cases inCurrent <;> cases inPrevious <;> simp
  split <;> rfl

end SentinelGpt
