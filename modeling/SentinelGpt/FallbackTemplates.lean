import SentinelGpt.AnalysisModels

/-! The reviewed explanations that stand in for the AI layer, one for each canonical
finding category. -/
namespace SentinelGpt.FallbackTemplates

structure EvidenceReference where
  evidenceId : PyStr
  snippet : PyStr
  deriving DecidableEq, Repr

def EvidenceReference.toDict (r : EvidenceReference) : Json :=
  .dict [(py "evidence_id", .str r.evidenceId), (py "snippet", .str r.snippet)]

structure Claim where
  text : PyStr
  references : List EvidenceReference
  deriving DecidableEq, Repr

def Claim.toDict (c : Claim) : Json := .dict [
  (py "text", .str c.text),
  (py "references", .list (c.references.map EvidenceReference.toDict))]

structure Remediation where
  summary : PyStr
  steps : List PyStr
  stackSpecificNotes : PyStr
  deriving DecidableEq, Repr

def Remediation.toDict (r : Remediation) : Json := .dict [
  (py "summary", .str r.summary),
  (py "steps", strList r.steps),
  (py "stack_specific_notes", .str r.stackSpecificNotes)]

inductive ExplanationStatus where
  | validated
  | fallbackUsed
  | pending
  deriving DecidableEq, Repr

def ExplanationStatus.value : ExplanationStatus → PyStr
  | .validated => py "validated"
  | .fallbackUsed => py "fallback_used"
  | .pending => py "pending"

structure FindingExplanation where
  findingId : PyStr
  claims : List Claim
  explanationText : PyStr
  severityRationale : PyStr
  remediation : Remediation
  validationStatus : ExplanationStatus
  promptTemplateVersion : PyStr
  modelName : PyStr
  modelVersion : PyStr
  provider : PyStr
  confidenceNote : PyStr
  isNondeterministic : Bool
  deriving DecidableEq, Repr

def FindingExplanation.toDict (x : FindingExplanation) : Json := .dict [
  (py "finding_id", .str x.findingId),
  (py "claims", .list (x.claims.map Claim.toDict)),
  (py "explanation_text", .str x.explanationText),
  (py "severity_rationale", .str x.severityRationale),
  (py "remediation", x.remediation.toDict),
  (py "validation_status", .str x.validationStatus.value),
  (py "prompt_template_version", .str x.promptTemplateVersion),
  (py "model", .dict [
    (py "provider", .str x.provider),
    (py "name", .str x.modelName),
    (py "version", .str x.modelVersion),
    (py "nondeterministic", .bool x.isNondeterministic)]),
  (py "confidence_note", .str x.confidenceNote)]

structure FallbackTemplate where
  claims : List Claim
  rationale : PyStr
  remediation : Remediation
  deriving DecidableEq, Repr

def genericRationale : PyStr :=
  py "Severity reflects the deterministic impact category assigned by the scanner; this " ++
    py "fallback explanation is template-based because the AI service was unavailable at " ++
    py "explanation time."

def missingSecurityHeader : FallbackTemplate where
  claims := [⟨py "The response did not include a security header the browser relies on to enforce an " ++
    py "expected security policy.", []⟩]
  rationale := genericRationale
  remediation := {
    summary := py "Add the recommended HTTP response header."
    steps := [
      py "Identify the missing header in the finding evidence.",
      py "Configure your web server or application to send the header on every response.",
      py "Verify the header is present using an external request and re-run the scan."]
    stackSpecificNotes := [] }

def weakCipher : FallbackTemplate where
  claims := [⟨py "The TLS configuration accepted a cipher or protocol version that is no longer " ++
    py "considered secure.", []⟩]
  rationale := genericRationale
  remediation := {
    summary := py "Disable the weak cipher or protocol on the TLS endpoint."
    steps := [
      py "Identify the weak cipher suite or protocol version in the evidence.",
      py "Reconfigure the TLS endpoint to disable the weak option.",
      py "Re-test the endpoint with an external scanner to confirm only strong options " ++
        py "remain."]
    stackSpecificNotes := [] }

def outdatedTls : FallbackTemplate where
  claims := [⟨py "The TLS endpoint accepted a protocol version (for example TLS 1.0 or 1.1) that has " ++
    py "been deprecated.", []⟩]
  rationale := genericRationale
  remediation := {
    summary := py "Restrict the TLS endpoint to TLS 1.2 and TLS 1.3 only."
    steps := [
      py "Update the TLS configuration to disable deprecated protocol versions.",
      py "Confirm the change with a TLS-scanning tool and re-run the scan."]
    stackSpecificNotes := [] }

def knownCve : FallbackTemplate where
  claims := [⟨py "The finding references a known CVE; consult the linked advisory for authoritative " ++
    py "impact and remediation guidance.", []⟩]
  rationale := genericRationale
  remediation := {
    summary := py "Apply the vendor fix or mitigation from the CVE advisory."
    steps := [
      py "Open the CVE advisory referenced in the evidence.",
      py "Apply the vendor-supplied patch or documented workaround.",
      py "Re-run the scan to confirm the finding is gone."]
    stackSpecificNotes := [] }

def exposedAdminPanel : FallbackTemplate where
  claims := [⟨py "An administrative interface is reachable at a path that should not be publicly " ++
    py "exposed.", []⟩]
  rationale := genericRationale
  remediation := {
    summary := py "Restrict access to the administrative interface."
    steps := [
      py "Place the admin path behind a VPN, IP allow-list, or single-sign-on gateway.",
      py "Audit the existing access log for unexpected connections.",
      py "Re-run the scan to confirm the path is no longer reachable from the public " ++
        py "internet."]
    stackSpecificNotes := [] }

def genericFallback : FallbackTemplate where
  claims := [⟨py "A scanner detected an issue whose AI explanation could not be produced at this time.", []⟩]
  rationale := genericRationale
  remediation := {
    summary := py "Review the finding evidence directly and apply a manual fix."
    steps := [
      py "Read the finding's evidence field for the raw scanner observation.",
      py "Consult your internal security checklist for the matching category.",
      py "Re-run the scan after the fix to confirm resolution."]
    stackSpecificNotes := [] }

def templates : List (PyStr × FallbackTemplate) := [
  (py "MISSING_SECURITY_HEADER", missingSecurityHeader),
  (py "WEAK_CIPHER", weakCipher),
  (py "OUTDATED_TLS", outdatedTls),
  (py "KNOWN_CVE", knownCve),
  (py "EXPOSED_ADMIN_PANEL", exposedAdminPanel)]

def getTemplate (python : Python) (categoryCode : PyStr) : FallbackTemplate :=
  (templates.lookup (python.upper categoryCode)).getD genericFallback

def buildFallbackExplanation (python : Python) (findingId categoryCode : PyStr) :
    FindingExplanation :=
  let template := getTemplate python categoryCode
  { findingId
    claims := template.claims
    explanationText := strip (join (py " ") (template.claims.map fun c =>
      boundEvidence python c.text maxEvidenceChars))
    severityRationale := boundEvidence python template.rationale maxEvidenceChars
    remediation := template.remediation
    validationStatus := .fallbackUsed
    promptTemplateVersion := py "fallback.v1"
    modelName := py "template-fallback"
    modelVersion := py "1"
    provider := py "template"
    confidenceNote := []
    isNondeterministic := false }

theorem templateCitesNothing : ∀ t ∈ genericFallback :: templates.map Prod.snd,
    ∀ c ∈ t.claims, c.references = [] := by
  decide

theorem fallbackCitesNothing (python : Python) (findingId categoryCode : PyStr) :
    ∀ c ∈ (buildFallbackExplanation python findingId categoryCode).claims, c.references = [] := by
  have known : getTemplate python categoryCode ∈ genericFallback :: templates.map Prod.snd := by
    unfold getTemplate
    cases found : templates.lookup (python.upper categoryCode) with
    | none => simp
    | some t =>
      have entry := List.lookup_eq_some_iff.mp found
      obtain ⟨before, after, same, -⟩ := entry
      rw [Option.getD_some, same]
      simp
  exact templateCitesNothing _ known

end SentinelGpt.FallbackTemplates
