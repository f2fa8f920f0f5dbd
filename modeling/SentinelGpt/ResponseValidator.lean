import SentinelGpt.AnalysisModels

/-! The boundary between the AI layer and the evidence: a provider response is read,
checked section by section, and becomes an assessment or a list of errors. -/
namespace SentinelGpt.ResponseValidator

def maxOutputJsonBytes : Nat := 262144

def maxSummaryChars : Nat := 4000

inductive Raw where
  | str (text : PyStr)
  | bytes (data : List Byte)
  | dict (members : List (PyStr × Json))
  deriving Repr

structure ValidationResult where
  accepted : Bool
  assessment : Option Assessment
  failureKind : Option AnalysisFailureKind
  errors : List PyStr
  unsupportedClaims : List Claim
  deriving DecidableEq, Repr

def reject (kind : AnalysisFailureKind) (detail : PyStr) : ValidationResult :=
  ⟨false, none, some kind, [detail], []⟩

/- What one member of a section comes to: at most one accepted value, the errors it adds
and the references to unknown findings it is counted for. -/
structure Checked (α : Type) where
  value : Option α
  errors : List PyStr
  unsupported : List Claim

structure Section (α : Type) where
  values : List α
  errors : List PyStr
  unsupported : List Claim

def Section.push {α : Type} (head : Checked α) (tail : Section α) : Section α where
  values := head.value.toList ++ tail.values
  errors := head.errors ++ tail.errors
  unsupported := head.unsupported ++ tail.unsupported

def checkMembers {α : Type} (check : Nat → Json → Except PyError (Checked α)) :
    Nat → List Json → Except PyError (Section α)
  | _, [] => .ok ⟨[], [], []⟩
  | index, value :: rest => do
    let head ← check index value
    let tail ← checkMembers check (index + 1) rest
    return Section.push head tail

/- `payload.get(name, [])`, which has to be a list. -/
def listSection (payload : List (PyStr × Json)) (name : PyStr) : List Json × List PyStr :=
  match (Json.get? payload name).getD (.list []) with
  | .list items => (items, [])
  | _ => ([], [name ++ py " must be a list"])

def checkSection {α : Type} (check : Nat → Json → Except PyError (Checked α))
    (payload : List (PyStr × Json)) (name : PyStr) : Except PyError (Section α) := do
  let (items, errors) := listSection payload name
  let checked ← checkMembers check 0 items
  return { checked with errors := errors ++ checked.errors }

def failed {α : Type} (error : PyStr) : Checked α := ⟨none, [error], []⟩

def position (name : PyStr) (index : Nat) : PyStr := name ++ py "[" ++ intText index ++ py "]"

def textMember (members : List (PyStr × Json)) (name : PyStr) : Option PyStr :=
  match Json.get? members name with
  | some (.str text) => if (strip text).isEmpty then none else some text
  | _ => none

def safeStr (python : Python) (value : Json) : Except PyError PyStr := do
  return boundEvidence python (← strJson python value) maxEvidenceChars

def strings (items : List Json) : Option (List PyStr) := items.mapM Json.asStr?

/- `finding_ids` when every one of them has to be a string. -/
def allIds (members : List (PyStr × Json)) : Option (List PyStr) :=
  match (Json.get? members (py "finding_ids")).getD (.list []) with
  | .list items => strings items
  | _ => none

/- `finding_ids` when what is no string is passed over. -/
def someIds (members : List (PyStr × Json)) : List PyStr :=
  match (Json.get? members (py "finding_ids")).getD (.list []) with
  | .list items => items.filterMap Json.asStr?
  | _ => []

def knownIds (e : EvidenceSet) (ids : List PyStr) : List PyStr := ids.filter e.hasFinding

def unknownIds (e : EvidenceSet) (ids : List PyStr) : List PyStr :=
  ids.filter fun i => !e.hasFinding i

def unsupportedGroup (title unknown : PyStr) : Claim :=
  ⟨py "Group '" ++ title ++ py "' references unknown finding", [unknown], .unsupported,
    py "ID absent from evidence set"⟩

def checkGroup (python : Python) (e : EvidenceSet) (index : Nat) :
    Json → Except PyError (Checked CorrelatedGroup)
  | .dict group =>
    let here := position (py "correlated_groups") index
    match textMember group (py "title") with
    | none => .ok (failed (here ++ py ".title invalid"))
    | some title =>
      match allIds group with
      | none => .ok (failed (here ++ py ".finding_ids invalid"))
      | some ids => do
        let known := sortedSet (knownIds e ids)
        let unsupported := (unknownIds e ids).map (unsupportedGroup title)
        if known.isEmpty then return ⟨none, [], unsupported⟩
        let groupId ← CorrelatedGroup.deriveGroupId python title known
        let rationale ← safeStr python ((Json.get? group (py "rationale")).getD (.str []))
        return ⟨some ⟨groupId, title, known, rationale, .supported⟩, [], unsupported⟩
  | _ => .ok (failed (position (py "correlated_groups") index ++ py " is not an object"))

def checkRemediation (python : Python) (e : EvidenceSet) (index : Nat) :
    Json → Except PyError (Checked RemediationItem)
  | .dict item =>
    match textMember item (py "title") with
    | none => .ok (failed (position (py "remediation") index ++ py ".title invalid"))
    | some title => do
      let detail ← safeStr python ((Json.get? item (py "detail")).getD (.str []))
      return ⟨some ⟨title, detail, sortedSet (knownIds e (someIds item))⟩, [], []⟩
  | _ => .ok (failed (position (py "remediation") index ++ py " is not an object"))

def unsupportedClaim (text unknown : PyStr) : Claim :=
  ⟨text.take 200, [unknown], .unsupported, py "referenced finding does not exist"⟩

def declaredStatus (claim : List (PyStr × Json)) : Option EvidenceStatus :=
  ((Json.get? claim (py "status")).bind Json.asStr?).bind EvidenceStatus.ofValue?

def claimStatus (e : EvidenceSet) (claim : List (PyStr × Json)) (ids : List PyStr) :
    EvidenceStatus :=
  if (unknownIds e ids).isEmpty then
    match declaredStatus claim with
    | some status => status
    | none =>
      if ids.isEmpty then .unsupported
      else if (knownIds e ids).length = ids.length then .supported
      else .inferred
  else .unsupported

def checkClaim (python : Python) (e : EvidenceSet) (index : Nat) :
    Json → Except PyError (Checked Claim)
  | .dict claim =>
    match textMember claim (py "text") with
    | none => .ok (failed (position (py "claims") index ++ py ".text invalid"))
    | some text => do
      let ids := someIds claim
      let safe ← safeStr python (.str text)
      return ⟨some ⟨safe, sortedSet ids, claimStatus e claim ids, []⟩, [],
        (unknownIds e ids).map (unsupportedClaim text)⟩
  | _ => .ok (failed (position (py "claims") index ++ py " is not an object"))

def checkSummary (payload : List (PyStr × Json)) : Except PyStr PyStr :=
  match textMember payload (py "overall_summary") with
  | some summary =>
    if maxSummaryChars < summary.length then .error (py "overall_summary exceeds length cap")
    else .ok summary
  | none => .error (py "overall_summary must be a non-empty string")

def checkPriority (payload : List (PyStr × Json)) : Except PyStr Severity :=
  match ((Json.get? payload (py "priority")).bind Json.asStr?).bind Severity.ofValue? with
  | some priority => .ok priority
  | none =>
    .error (py "priority must be one of ['critical', 'high', 'info', 'low', 'medium']")

def checkLimitations (payload : List (PyStr × Json)) : Except PyStr (List PyStr) :=
  match (Json.get? payload (py "limitations")).getD (.list []) with
  | .list items => match strings items with
    | some texts => .ok texts
    | none => .error (py "limitations must be a list of strings")
  | _ => .error (py "limitations must be a list of strings")

def errorOf {α : Type} : Except PyStr α → List PyStr
  | .ok _ => []
  | .error text => [text]

abbrev MetadataBase := List (PyStr × PyStr)

def metadata (base : MetadataBase) (now : Time) : ProviderMetadata where
  provider := (base.lookup (py "provider")).getD (py "unknown")
  model := (base.lookup (py "model")).getD (py "unknown")
  modelVersion := (base.lookup (py "model_version")).getD (py "unknown")
  promptSchemaVersion := (base.lookup (py "prompt_schema_version")).getD (py "v1")
  outputSchemaVersion := (base.lookup (py "output_schema_version")).getD (py "v1")
  createdAt := now
  nondeterministic := true

def bodyCanonical (summary : PyStr) (priority : Severity) (groups : List CorrelatedGroup)
    (remediation : List RemediationItem) (limitations : List PyStr) (claims : List Claim) :
    PyStr :=
  dumpsStable (.dict [
    (py "summary", .str summary),
    (py "priority", .str priority.value),
    (py "groups", .list (groups.map CorrelatedGroup.toDict)),
    (py "remediation", .list (remediation.map RemediationItem.toDict)),
    (py "limitations", strList limitations),
    (py "claims", .list (claims.map Claim.toDict))])

/- The end of `_validate_structure`, once the sections are checked: the errors, or the
assessment. -/
def conclude (python : Python) (e : EvidenceSet) (base : MetadataBase) (now : Time)
    (summary : Except PyStr PyStr) (priority : Except PyStr Severity)
    (limitations : Except PyStr (List PyStr)) (groups : Section CorrelatedGroup)
    (remediation : Section RemediationItem) (claims : Section Claim) :
    Except PyError ValidationResult :=
  let errors := errorOf summary ++ errorOf priority ++ errorOf limitations ++ groups.errors ++
    remediation.errors ++ claims.errors
  let unsupported := groups.unsupported ++ remediation.unsupported ++ claims.unsupported
  match summary, priority, limitations, errors with
  | .ok summary, .ok priority, .ok limitations, [] => do
    let meta_ := metadata base now
    let assessmentId ← Assessment.deriveAssessmentId python e.evidenceSetId meta_.provider
      meta_.model meta_.promptSchemaVersion meta_.outputSchemaVersion
      (bodyCanonical summary priority groups.values remediation.values limitations claims.values)
    return {
      accepted := true
      assessment := some {
        assessmentId
        evidenceSetId := e.evidenceSetId
        overallSummary := summary
        priority
        correlatedGroups := groups.values
        remediation := remediation.values
        limitations := limitations.map fun text => boundEvidence python text maxEvidenceChars
        claims := claims.values
        unsupportedClaimCount := unsupported.length
        providerMetadata := some meta_ }
      failureKind := none
      errors := []
      unsupportedClaims := unsupported }
  | _, _, _, errors => return ⟨false, none, some .schemaInvalid, errors, unsupported⟩

def validateStructure (python : Python) (payload : List (PyStr × Json)) (e : EvidenceSet)
    (base : MetadataBase) (now : Time) : Except PyError ValidationResult := do
  let limitations := (checkLimitations payload).map fun texts =>
    texts.map fun text => boundEvidence python text maxEvidenceChars
  let groups ← checkSection (checkGroup python e) payload (py "correlated_groups")
  let remediation ← checkSection (checkRemediation python e) payload (py "remediation")
  let claims ← checkSection (checkClaim python e) payload (py "claims")
  conclude python e base now (checkSummary payload) (checkPriority payload) limitations groups
    remediation claims

def parse (python : Python) (text : PyStr) :
    Except PyError (Except ValidationResult (List (PyStr × Json))) := do
  let encoded ← encode text
  if maxOutputJsonBytes < utf8Length encoded then
    return .error (reject .limitExceeded (py "response exceeds size cap"))
  match loads python text with
  | .ok (.dict payload) => return .ok payload
  | .ok _ => return .error (reject .malformedResponse (py "payload is not a JSON object"))
  | .error (.jsonDecodeError msg) =>
    return .error (reject .malformedResponse (py "invalid JSON: " ++ msg))
  | .error e => throw e

def readRaw (python : Python) : Raw → Except PyError (Except ValidationResult (List (PyStr × Json)))
  | .str text => parse python text
  | .bytes data =>
    if maxOutputJsonBytes < data.length then
      .ok (.error (reject .limitExceeded (py "response exceeds size cap")))
    else parse python (decodeReplace data)
  | .dict payload => .ok (.ok payload)

def validateAnalysisResponse (python : Python) (raw : Raw) (e : EvidenceSet)
    (base : MetadataBase) (now : Time) : Except PyError ValidationResult := do
  match ← readRaw python raw with
  | .error rejected => return rejected
  | .ok payload => validateStructure python payload e base now

structure AcceptedFrom (python : Python) (e : EvidenceSet) (payload : List (PyStr × Json))
    (groups : Section CorrelatedGroup) (remediation : Section RemediationItem)
    (claims : Section Claim) (a : Assessment) : Prop where
  groupsChecked : checkSection (checkGroup python e) payload (py "correlated_groups") = .ok groups
  remediationChecked :
    checkSection (checkRemediation python e) payload (py "remediation") = .ok remediation
  claimsChecked : checkSection (checkClaim python e) payload (py "claims") = .ok claims
  noErrors : groups.errors = [] ∧ remediation.errors = [] ∧ claims.errors = []
  sections : a.correlatedGroups = groups.values ∧ a.remediation = remediation.values ∧
    a.claims = claims.values
  counted : a.unsupportedClaimCount =
    (groups.unsupported ++ remediation.unsupported ++ claims.unsupported).length

theorem parseRejects {python : Python} {text : PyStr} {v : ValidationResult}
    (ok : parse python text = .ok (.error v)) : v.accepted = false := by
  unfold parse encode at ok
  cases enc : encodable text with
  | false =>
    rw [enc] at ok
    contradiction
  | true =>
    simp only [enc, bind, Except.bind, if_true, pure, Except.pure] at ok
    split at ok
    · cases ok; rfl
    · split at ok
      · cases ok
      · cases ok; rfl
      · cases ok; rfl
      · contradiction

theorem readRejects {python : Python} {raw : Raw} {v : ValidationResult}
    (ok : readRaw python raw = .ok (.error v)) : v.accepted = false := by
  cases raw with
  | str text => exact parseRejects ok
  | bytes data =>
    rw [readRaw] at ok
    split at ok
    · cases ok; rfl
    · exact parseRejects ok
  | dict payload => rw [readRaw] at ok; cases ok

theorem structureAccepts {python : Python} {payload : List (PyStr × Json)} {e : EvidenceSet}
    {base : MetadataBase} {now : Time} {v : ValidationResult}
    (ok : validateStructure python payload e base now = .ok v) (accepted : v.accepted = true) :
    ∃ groups remediation claims a,
      AcceptedFrom python e payload groups remediation claims a ∧ v.assessment = some a := by
  unfold validateStructure at ok
  cases groups : checkSection (checkGroup python e) payload (py "correlated_groups") with
  | error _ => simp only [groups] at ok; contradiction
  | ok gs =>
    cases remediation : checkSection (checkRemediation python e) payload (py "remediation") with
    | error _ => simp only [groups, remediation] at ok; contradiction
    | ok rs =>
      cases claims : checkSection (checkClaim python e) payload (py "claims") with
      | error _ => simp only [groups, remediation, claims] at ok; contradiction
      | ok cs =>
        simp only [groups, remediation, claims, bind, Except.bind] at ok
        unfold conclude at ok
        simp only at ok
        split at ok
        · rename_i errors
          simp only [List.append_eq_nil_iff] at errors
          simp only [bind, Except.bind] at ok
          split at ok
          · contradiction
          · cases ok
            exact ⟨gs, rs, cs, _, ⟨groups, remediation, claims,
              ⟨errors.1.1.2, errors.1.2, errors.2⟩, ⟨rfl, rfl, rfl⟩, rfl⟩, rfl⟩
        · cases ok
          contradiction

theorem acceptedOf {python : Python} {raw : Raw} {e : EvidenceSet} {base : MetadataBase}
    {now : Time} {v : ValidationResult}
    (ok : validateAnalysisResponse python raw e base now = .ok v) (accepted : v.accepted = true) :
    ∃ payload groups remediation claims a, readRaw python raw = .ok (.ok payload) ∧
      AcceptedFrom python e payload groups remediation claims a ∧ v.assessment = some a := by
  unfold validateAnalysisResponse at ok
  cases read : readRaw python raw with
  | error _ => rw [read] at ok; contradiction
  | ok r =>
    rw [read] at ok
    cases r with
    | error rejected =>
      cases ok
      rw [readRejects read] at accepted
      contradiction
    | ok payload =>
      obtain ⟨gs, rs, cs, a, from_, made⟩ := structureAccepts ok accepted
      exact ⟨payload, gs, rs, cs, a, rfl, from_, made⟩

end SentinelGpt.ResponseValidator
