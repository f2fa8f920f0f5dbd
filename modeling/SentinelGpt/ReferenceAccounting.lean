import SentinelGpt.Grounding
import SentinelGpt.ScanAdmission

/-! What an accepted response is counted for, and what is stored of the count. -/
namespace SentinelGpt.ResponseValidator

/-! The references. -/

def references : Json → List PyStr
  | .dict members => someIds members
  | _ => []

def unknownIn (e : EvidenceSet) (value : Json) : Nat := (unknownIds e (references value)).length

def unknownOf (e : EvidenceSet) (payload : List (PyStr × Json)) (name : PyStr) : Nat :=
  ((listSection payload name).1.map (unknownIn e)).sum

def unknownReferences (e : EvidenceSet) (payload : List (PyStr × Json)) : Nat :=
  unknownOf e payload (py "correlated_groups") + unknownOf e payload (py "remediation") +
    unknownOf e payload (py "claims")

theorem stringsOnly {items : List Json} {ids : List PyStr} (all : strings items = some ids) :
    items.filterMap Json.asStr? = ids := by
  induction items generalizing ids with
  | nil =>
    cases all
    rfl
  | cons item items ih =>
    rw [strings, List.mapM_cons] at all
    obtain ⟨id, first, all⟩ := Option.bind_eq_some_iff.mp all
    obtain ⟨rest, others, all⟩ := Option.bind_eq_some_iff.mp all
    cases all
    rw [List.filterMap_cons_some first, ih others]

theorem allSome {members : List (PyStr × Json)} {ids : List PyStr} (all : allIds members = some ids) :
    someIds members = ids := by
  unfold allIds at all
  unfold someIds
  split at all
  · exact stringsOnly all
  · cases all

theorem sectionCount {α : Type} {check : Nat → Json → Except PyError (Checked α)} {count : Json → Nat}
    (each : ∀ index value c, check index value = .ok c → c.errors = [] → c.unsupported.length = count value)
    {index : Nat} {items : List Json} {s : Section α} (ok : checkMembers check index items = .ok s)
    (clean : s.errors = []) : s.unsupported.length = (items.map count).sum := by
  induction items generalizing index s with
  | nil =>
    cases ok
    rfl
  | cons value rest ih =>
    obtain ⟨head, first, ok⟩ := bindOk ok
    obtain ⟨tail, others, ok⟩ := bindOk ok
    cases ok
    obtain ⟨here, later⟩ := List.append_eq_nil_iff.mp clean
    rw [List.map_cons, List.sum_cons, ← each _ _ _ first here, ← ih others later]
    exact List.length_append

theorem groupCount {python : Python} {e : EvidenceSet} {index : Nat} {value : Json} {c : Checked CorrelatedGroup}
    (ok : checkGroup python e index value = .ok c) (clean : c.errors = []) : c.unsupported.length = unknownIn e value := by
  cases value with
  | dict members =>
    simp only [checkGroup] at ok
    split at ok
    · cases ok
      cases clean
    · split at ok
      · cases ok
        cases clean
      · rename_i ids all
        have counted : ∀ title, ((unknownIds e ids).map (unsupportedGroup title)).length = unknownIn e (.dict members) := by
          intro title
          rw [List.length_map, unknownIn, references, allSome all]
        split at ok
        · cases ok
          exact counted _
        · obtain ⟨groupId, -, ok⟩ := bindOk ok
          obtain ⟨rationale, -, ok⟩ := bindOk ok
          cases ok
          exact counted _
  | _ =>
    cases ok
    cases clean

theorem remediationCount {python : Python} {e : EvidenceSet} {index : Nat} {value : Json} {c : Checked RemediationItem}
    (ok : checkRemediation python e index value = .ok c) : c.unsupported.length = 0 := by
  cases value with
  | dict members =>
    simp only [checkRemediation] at ok
    split at ok
    · cases ok
      rfl
    · obtain ⟨detail, -, ok⟩ := bindOk ok
      cases ok
      rfl
  | _ =>
    cases ok
    rfl

theorem claimCount {python : Python} {e : EvidenceSet} {index : Nat} {value : Json} {c : Checked Claim}
    (ok : checkClaim python e index value = .ok c) (clean : c.errors = []) : c.unsupported.length = unknownIn e value := by
  cases value with
  | dict members =>
    simp only [checkClaim] at ok
    split at ok
    · cases ok
      cases clean
    · obtain ⟨safe, -, ok⟩ := bindOk ok
      cases ok
      exact List.length_map ..
  | _ =>
    cases ok
    cases clean

theorem sectionUnsupported {α : Type} {check : Nat → Json → Except PyError (Checked α)}
    {payload : List (PyStr × Json)} {name : PyStr} {s : Section α} (ok : checkSection check payload name = .ok s) :
    ∃ t, checkMembers check 0 (listSection payload name).1 = .ok t ∧ s.unsupported = t.unsupported ∧
      s.errors = (listSection payload name).2 ++ t.errors := by
  obtain ⟨t, checked, ok⟩ := bindOk ok
  cases ok
  exact ⟨t, checked, rfl, rfl⟩

section Accepted
variable {python : Python} {e : EvidenceSet} {payload : List (PyStr × Json)} {groups : Section CorrelatedGroup}
  {remediation : Section RemediationItem} {claims : Section Claim} {a : Assessment}

/- The count of an assessment is that of the groups and the claims; the items' references are dropped. -/
theorem countedIs (from_ : AcceptedFrom python e payload groups remediation claims a) :
    a.unsupportedClaimCount = unknownOf e payload (py "correlated_groups") + unknownOf e payload (py "claims") := by
  obtain ⟨g, groupsOk, groupsSame, groupErrors⟩ := sectionUnsupported from_.groupsChecked
  obtain ⟨r, itemsOk, itemsSame, itemErrors⟩ := sectionUnsupported from_.remediationChecked
  obtain ⟨c, claimsOk, claimsSame, claimErrors⟩ := sectionUnsupported from_.claimsChecked
  rw [from_.noErrors.1] at groupErrors
  rw [from_.noErrors.2.2] at claimErrors
  rw [from_.noErrors.2.1] at itemErrors
  have groupsEach : ∀ index value c, checkGroup python e index value = .ok c → c.errors = [] →
      c.unsupported.length = unknownIn e value := fun _ _ _ => groupCount
  have itemsEach : ∀ index value c, checkRemediation python e index value = .ok c → c.errors = [] →
      c.unsupported.length = 0 := fun _ _ _ ok _ => remediationCount ok
  have claimsEach : ∀ index value c, checkClaim python e index value = .ok c → c.errors = [] →
      c.unsupported.length = unknownIn e value := fun _ _ _ => claimCount
  have groupsCounted := sectionCount groupsEach groupsOk (List.append_eq_nil_iff.mp groupErrors.symm).2
  have dropped := sectionCount itemsEach itemsOk (List.append_eq_nil_iff.mp itemErrors.symm).2
  have claimsCounted := sectionCount claimsEach claimsOk (List.append_eq_nil_iff.mp claimErrors.symm).2
  rw [List.map_const', List.sum_replicate_nat, Nat.mul_zero] at dropped
  rw [from_.counted, List.length_append, List.length_append, groupsSame, itemsSame, claimsSame, groupsCounted,
    dropped, claimsCounted]
  rfl

end Accepted

/-! The stored row. -/

def storedPayload (python : Python) (result : HttpAnalysisResult) (a : Assessment) : List (PyStr × Json) :=
  setDefault (documentOf python (.assessment a)).payload (py "findings") (.dict (perFindingFallbackPayload python result))

inductive StoredAs (env : Env) (execution : ScanEngineExecution) (result : HttpAnalysisResult) (a : Assessment)
    (row : ScanAiAssessment) : Prop where
  | inserted {count : Int} (counts : coerceCount env.python (.dict (storedPayload env.python result a)) = .ok count)
      (write : assessmentWrite env execution (documentOf env.python (.assessment a))
        (storedPayload env.python result a) count none = .insertAssessment row)
  | updated {count : Int} {id : Nat} (counts : coerceCount env.python (.dict (storedPayload env.python result a)) = .ok count)
      (write : assessmentWrite env execution (documentOf env.python (.assessment a))
        (storedPayload env.python result a) count (some id) = .updateAssessment id row)

/- The count of a row is that of the payload it holds, which is a dictionary. -/
theorem storedCount {env : Env} {execution : ScanEngineExecution} {result : HttpAnalysisResult} {a : Assessment}
    {row : ScanAiAssessment} (stored : StoredAs env execution result a row) :
    row.unsupportedClaimCount = 0 := by
  cases stored with
  | inserted counts write =>
    cases counts
    cases write
    rfl
  | updated counts write =>
    cases counts
    cases write
    rfl

/- Every reference to an unknown id is counted, and the count is stored. -/
structure Accounted (e : EvidenceSet) (payload : List (PyStr × Json)) (a : Assessment) (row : ScanAiAssessment) : Prop where
  counted : a.unsupportedClaimCount = unknownReferences e payload
  stored : row.unsupportedClaimCount = unknownReferences e payload

/- The references of an accepted response are accounted for just where none of them is to an unknown id:
those of the remediation items are not counted, and what is stored is always zero. -/
theorem accountedIff {env : Env} {execution : ScanEngineExecution} {result : HttpAnalysisResult} {raw : Raw}
    {e : EvidenceSet} {base : MetadataBase} {now : Time} {v : ValidationResult} {payload : List (PyStr × Json)}
    {a : Assessment} {row : ScanAiAssessment}
    (validated : validateAnalysisResponse env.python raw e base now = .ok v) (accepted : v.accepted = true)
    (assessment : v.assessment = some a) (read : readRaw env.python raw = .ok (.ok payload))
    (stored : StoredAs env execution result a row) :
    Accounted e payload a row ↔ unknownReferences e payload = 0 := by
  obtain ⟨payload', groups, remediation, claims, a', read', from_, made⟩ := acceptedOf validated accepted
  rw [read] at read'
  cases read'
  rw [assessment] at made
  cases made
  have count := countedIs from_
  have zero := storedCount stored
  constructor
  · intro accounted
    exact Int.ofNat_eq_zero.mp (accounted.stored.symm.trans zero)
  · intro none_
    have parts := none_
    unfold unknownReferences at parts
    exact ⟨by omega, zero.trans (Int.ofNat_eq_zero.mpr none_).symm⟩

/-! Responses with a reference in a remediation item. -/

def itemResponse (id : PyStr) : List (PyStr × Json) := [
  (py "overall_summary", .text "No response."),
  (py "priority", .text "info"),
  (py "remediation", .list [.dict [(py "title", .text "Check the host"), (py "finding_ids", .list [.str id])]])]

def itemExecution : ScanEngineExecution := executionRow requestEnv .createExecution 1 4 (py "1") .running (some 1)

def itemResult (id : PyStr) : Except PyError ValidationResult :=
  validateAnalysisResponse requestEnv.python (.dict (itemResponse id)) timeoutEvidence geminiBase 0

theorem itemAccepted (id : PyStr) (run : (match itemResult id with
      | .ok v => v.accepted && v.assessment.isSome
      | .error _ => false) = true) :
    ∃ v a, itemResult id = .ok v ∧ v.accepted = true ∧ v.assessment = some a := by
  cases result : itemResult id with
  | error _ =>
    rw [result] at run
    cases run
  | ok v =>
    rw [result] at run
    obtain ⟨accepted, made⟩ := Bool.and_eq_true_iff.mp run
    obtain ⟨a, made⟩ := Option.isSome_iff_exists.mp made
    exact ⟨v, a, rfl, accepted, made⟩

theorem knownAccounted : ∃ v a row, itemResult (py "71987160c52803ae") = .ok v ∧ v.assessment = some a ∧
    StoredAs requestEnv itemExecution timeoutResult a row ∧
      Accounted timeoutEvidence (itemResponse (py "71987160c52803ae")) a row := by
  obtain ⟨v, a, result, accepted, made⟩ := itemAccepted (py "71987160c52803ae") (by decide +kernel)
  have stored : StoredAs requestEnv itemExecution timeoutResult a _ := .inserted rfl rfl
  exact ⟨v, a, _, result, made, stored, (accountedIff result accepted made rfl stored).mpr (by decide +kernel)⟩

/- The reference to an unknown id is dropped from the item, and counted nowhere. -/
theorem unknownUncounted : ∃ v a row, itemResult (py "0000000000000000") = .ok v ∧ v.accepted = true ∧
    v.assessment = some a ∧ StoredAs requestEnv itemExecution timeoutResult a row ∧
      ¬ Accounted timeoutEvidence (itemResponse (py "0000000000000000")) a row := by
  obtain ⟨v, a, result, accepted, made⟩ := itemAccepted (py "0000000000000000") (by decide +kernel)
  have stored : StoredAs requestEnv itemExecution timeoutResult a _ := .inserted rfl rfl
  have one : unknownReferences timeoutEvidence (itemResponse (py "0000000000000000")) = 1 := by decide +kernel
  refine ⟨v, a, _, result, accepted, made, stored, fun accounted => ?_⟩
  have count := accounted.stored
  rw [one] at count
  cases count

end SentinelGpt.ResponseValidator
