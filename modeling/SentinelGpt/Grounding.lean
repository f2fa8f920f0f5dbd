import SentinelGpt.ResponseValidator

/-! What an accepted assessment cites. Groups and remediation items are filtered down to
the evidence; a claim keeps what it cites and carries a status instead. -/
namespace SentinelGpt.ResponseValidator

structure Grounded (e : EvidenceSet) (a : Assessment) : Prop where
  groups : ∀ g ∈ a.correlatedGroups, g.findingIds ≠ [] ∧ ∀ i ∈ g.findingIds, e.hasFinding i = true
  remediation : ∀ r ∈ a.remediation, ∀ i ∈ r.findingIds, e.hasFinding i = true
  unknownUnsupported : ∀ c ∈ a.claims, (∃ i ∈ c.findingIds, e.hasFinding i = false) →
    c.status = .unsupported
  supportedCited : ∀ c ∈ a.claims, c.status = .supported →
    c.findingIds ≠ [] ∧ ∀ i ∈ c.findingIds, e.hasFinding i = true

theorem memChecked {α : Type} {check : Nat → Json → Except PyError (Checked α)} {index : Nat}
    {items : List Json} {s : Section α} (ok : checkMembers check index items = .ok s)
    {value : Json} (member : value ∈ items) :
    ∃ i c, check i value = .ok c ∧ (∀ a, c.value = some a → a ∈ s.values) ∧
      (s.errors = [] → c.errors = []) := by
  induction items generalizing index s with
  | nil => contradiction
  | cons head rest ih =>
    rw [checkMembers] at ok
    cases first : check index head with
    | error _ => rw [first] at ok; contradiction
    | ok c =>
      cases tail : checkMembers check (index + 1) rest with
      | error _ => rw [first, tail] at ok; contradiction
      | ok t =>
        rw [first, tail] at ok
        cases ok
        rcases List.mem_cons.mp member with rfl | later
        · refine ⟨index, c, first, fun a made => ?_, fun none_ => ?_⟩
          · simp [Section.push, made]
          · exact (List.append_eq_nil_iff.mp none_).1
        · obtain ⟨i, d, checked, kept, errors⟩ := ih tail later
          refine ⟨i, d, checked, fun a made => ?_, fun none_ => ?_⟩
          · exact List.mem_append_right _ (kept a made)
          · exact errors (List.append_eq_nil_iff.mp none_).2

theorem valueChecked {α : Type} {check : Nat → Json → Except PyError (Checked α)} {index : Nat}
    {items : List Json} {s : Section α} (ok : checkMembers check index items = .ok s) {a : α}
    (member : a ∈ s.values) : ∃ value ∈ items, ∃ i c, check i value = .ok c ∧ c.value = some a := by
  induction items generalizing index s with
  | nil =>
    cases ok
    contradiction
  | cons head rest ih =>
    rw [checkMembers] at ok
    cases first : check index head with
    | error _ => rw [first] at ok; contradiction
    | ok c =>
      cases tail : checkMembers check (index + 1) rest with
      | error _ => rw [first, tail] at ok; contradiction
      | ok t =>
        rw [first, tail] at ok
        cases ok
        rcases List.mem_append.mp member with here | later
        · exact ⟨head, by simp, index, c, first, by simpa using here⟩
        · obtain ⟨value, inside, i, d, checked, made⟩ := ih tail later
          exact ⟨value, by simp [inside], i, d, checked, made⟩

theorem sectionMembers {α : Type} {check : Nat → Json → Except PyError (Checked α)}
    {payload : List (PyStr × Json)} {name : PyStr} {s : Section α}
    (ok : checkSection check payload name = .ok s) :
    ∃ t, checkMembers check 0 (listSection payload name).1 = .ok t ∧ s.values = t.values ∧
      s.errors = (listSection payload name).2 ++ t.errors := by
  unfold checkSection at ok
  cases checked : checkMembers check 0 (listSection payload name).1 with
  | error _ => simp only [checked] at ok; contradiction
  | ok t =>
    simp only [checked] at ok
    cases ok
    exact ⟨t, rfl, rfl, rfl⟩

theorem memKnownIds {e : EvidenceSet} {ids : List PyStr} {i : PyStr} :
    i ∈ knownIds e ids ↔ i ∈ ids ∧ e.hasFinding i = true := List.mem_filter

theorem memUnknownIds {e : EvidenceSet} {ids : List PyStr} {i : PyStr} :
    i ∈ unknownIds e ids ↔ i ∈ ids ∧ e.hasFinding i = false := by
  simp [unknownIds]

theorem groupGrounded {python : Python} {e : EvidenceSet} {index : Nat} {json : Json}
    {c : Checked CorrelatedGroup} {g : CorrelatedGroup}
    (ok : checkGroup python e index json = .ok c) (made : c.value = some g) :
    g.findingIds ≠ [] ∧ ∀ i ∈ g.findingIds, e.hasFinding i = true := by
  cases json with
  | dict members =>
    simp only [checkGroup] at ok
    split at ok
    · cases ok; contradiction
    · split at ok
      · cases ok; contradiction
      · rename_i title _ ids _
        simp only [bind, Except.bind, pure, Except.pure] at ok
        split at ok
        · cases ok; contradiction
        · rename_i nonempty
          split at ok
          · contradiction
          · split at ok
            · contradiction
            · cases ok
              cases made
              refine ⟨fun none_ => nonempty (List.isEmpty_iff.mpr none_), fun i member => ?_⟩
              exact (memKnownIds.mp (memSortedSet.mp member)).2
  | _ => cases ok; contradiction

theorem remediationGrounded {python : Python} {e : EvidenceSet} {index : Nat} {json : Json}
    {c : Checked RemediationItem} {r : RemediationItem}
    (ok : checkRemediation python e index json = .ok c) (made : c.value = some r) :
    ∀ i ∈ r.findingIds, e.hasFinding i = true := by
  cases json with
  | dict members =>
    simp only [checkRemediation] at ok
    split at ok
    · cases ok; contradiction
    · simp only [bind, Except.bind, pure, Except.pure] at ok
      split at ok
      · contradiction
      · cases ok
        cases made
        intro i member
        exact (memKnownIds.mp (memSortedSet.mp member)).2
  | _ => cases ok; contradiction

theorem claimOf {python : Python} {e : EvidenceSet} {index : Nat} {json : Json}
    {c : Checked Claim} (ok : checkClaim python e index json = .ok c) :
    (c.value = none ∧ c.errors ≠ []) ∨ ∃ members claim, json = .dict members ∧
      c.value = some claim ∧ claim.findingIds = sortedSet (someIds members) ∧
      claim.status = claimStatus e members (someIds members) := by
  cases json with
  | dict members =>
    simp only [checkClaim] at ok
    split at ok
    · cases ok
      exact .inl ⟨rfl, by simp [failed]⟩
    · cases ok
      exact .inr ⟨members, _, rfl, rfl, rfl, rfl⟩
  | _ =>
    cases ok
    exact .inl ⟨rfl, by simp [failed]⟩

theorem claimStatusUnknown {e : EvidenceSet} {claim : List (PyStr × Json)} {ids : List PyStr}
    (unknown : ∃ i ∈ ids, e.hasFinding i = false) : claimStatus e claim ids = .unsupported := by
  obtain ⟨i, member, absent⟩ := unknown
  have here : i ∈ unknownIds e ids := memUnknownIds.mpr ⟨member, absent⟩
  have nonempty : (unknownIds e ids).isEmpty = false := by
    cases ids' : unknownIds e ids with
    | nil => rw [ids'] at here; contradiction
    | cons _ _ => rfl
  rw [claimStatus, nonempty]
  rfl

theorem claimStatusSupported {e : EvidenceSet} {claim : List (PyStr × Json)} {ids : List PyStr}
    (supported : claimStatus e claim ids = .supported) :
    (∀ i ∈ ids, e.hasFinding i = true) ∧ (declaredStatus claim = some .supported ∨ ids ≠ []) := by
  refine ⟨fun i member => ?_, ?_⟩
  · cases present : e.hasFinding i with
    | true => rfl
    | false =>
      rw [claimStatusUnknown ⟨i, member, present⟩] at supported
      contradiction
  · unfold claimStatus at supported
    split at supported
    · split at supported
      · rename_i status declared
        subst supported
        exact .inl declared
      · split at supported
        · contradiction
        · rename_i nonempty
          exact .inr fun none_ => nonempty (List.isEmpty_iff.mpr none_)
    · contradiction

def declaredCites : Json → Bool
  | .dict claim => declaredStatus claim != some .supported || !(someIds claim).isEmpty
  | _ => true

def supportedClaimsCite (payload : List (PyStr × Json)) : Bool :=
  (listSection payload (py "claims")).1.all declaredCites

variable {python : Python} {e : EvidenceSet} {payload : List (PyStr × Json)}
  {groups : Section CorrelatedGroup} {remediation : Section RemediationItem}
  {claims : Section Claim} {a : Assessment}

theorem groupsGrounded (from_ : AcceptedFrom python e payload groups remediation claims a) :
    ∀ g ∈ a.correlatedGroups, g.findingIds ≠ [] ∧
      ∀ i ∈ g.findingIds, e.hasFinding i = true := by
  obtain ⟨t, checked, values, -⟩ := sectionMembers from_.groupsChecked
  intro g member
  rw [from_.sections.1, values] at member
  obtain ⟨_, _, _, _, ok, made⟩ := valueChecked checked member
  exact groupGrounded ok made

theorem remediationsGrounded (from_ : AcceptedFrom python e payload groups remediation claims a) :
    ∀ r ∈ a.remediation, ∀ i ∈ r.findingIds, e.hasFinding i = true := by
  obtain ⟨t, checked, values, -⟩ := sectionMembers from_.remediationChecked
  intro r member
  rw [from_.sections.2.1, values] at member
  obtain ⟨_, _, _, _, ok, made⟩ := valueChecked checked member
  exact remediationGrounded ok made

theorem claimsFrom (from_ : AcceptedFrom python e payload groups remediation claims a)
    {claim : Claim} (member : claim ∈ a.claims) :
    ∃ members, Json.dict members ∈ (listSection payload (py "claims")).1 ∧
      claim.findingIds = sortedSet (someIds members) ∧
      claim.status = claimStatus e members (someIds members) := by
  obtain ⟨t, checked, values, -⟩ := sectionMembers from_.claimsChecked
  rw [from_.sections.2.2, values] at member
  obtain ⟨json, inside, _, _, ok, made⟩ := valueChecked checked member
  rcases claimOf ok with ⟨none_, -⟩ | ⟨members, claim', rfl, made', ids, status⟩
  · rw [none_] at made
    contradiction
  · rw [made'] at made
    cases made
    exact ⟨members, inside, ids, status⟩

theorem claimsKept (from_ : AcceptedFrom python e payload groups remediation claims a)
    {members : List (PyStr × Json)}
    (inside : Json.dict members ∈ (listSection payload (py "claims")).1) :
    ∃ claim ∈ a.claims, claim.findingIds = sortedSet (someIds members) ∧
      claim.status = claimStatus e members (someIds members) := by
  obtain ⟨t, checked, values, errors⟩ := sectionMembers from_.claimsChecked
  rw [from_.noErrors.2.2] at errors
  have clean : t.errors = [] := (List.append_eq_nil_iff.mp errors.symm).2
  obtain ⟨_, c, ok, kept, noErrors⟩ := memChecked checked inside
  rcases claimOf ok with ⟨-, failed⟩ | ⟨members', claim, same, made, ids, status⟩
  · exact absurd (noErrors clean) failed
  · cases same
    refine ⟨claim, ?_, ids, status⟩
    rw [from_.sections.2.2, values]
    exact kept claim made

theorem sortedSetNil {ids : List PyStr} : sortedSet ids = [] ↔ ids = [] := by
  rw [List.eq_nil_iff_forall_not_mem, List.eq_nil_iff_forall_not_mem]
  simp

theorem groundedIffSupportedClaimsCite {raw : Raw} {base : MetadataBase} {now : Time}
    {v : ValidationResult} (validated : validateAnalysisResponse python raw e base now = .ok v)
    (accepted : v.accepted = true) (assessment : v.assessment = some a)
    (read : readRaw python raw = .ok (.ok payload)) :
    Grounded e a ↔ supportedClaimsCite payload = true := by
  obtain ⟨payload', groups, remediation, claims, a', read', from_, made⟩ :=
    acceptedOf validated accepted
  rw [read] at read'
  cases read'
  rw [assessment] at made
  cases made
  rw [supportedClaimsCite, List.all_eq_true]
  constructor
  · intro grounded json inside
    cases json with
    | dict members =>
      rw [declaredCites, Bool.or_eq_true, bne_iff_ne, Bool.not_eq_true']
      by_cases declared : declaredStatus members = some .supported
      · refine .inr ?_
        obtain ⟨claim, member, ids, status⟩ := claimsKept from_ inside
        cases nonempty : (someIds members).isEmpty with
        | false => rfl
        | true =>
          -- without ids the declared status stands, and the claim cites nothing
          have none_ : someIds members = [] := List.isEmpty_iff.mp nonempty
          have supported : claim.status = .supported := by
            rw [status, none_, claimStatus, declared]
            rfl
          have cited := (grounded.supportedCited claim member supported).1
          rw [ids, none_] at cited
          exact absurd rfl cited
      · exact .inl declared
    | _ => rfl
  · intro cites
    refine ⟨groupsGrounded from_, remediationsGrounded from_, ?_, ?_⟩
    · rintro claim member ⟨i, cited, absent⟩
      obtain ⟨members, -, ids, status⟩ := claimsFrom from_ member
      rw [ids, memSortedSet] at cited
      rw [status]
      exact claimStatusUnknown ⟨i, cited, absent⟩
    · intro claim member supported
      obtain ⟨members, inside, ids, status⟩ := claimsFrom from_ member
      rw [status] at supported
      obtain ⟨known, declared⟩ := claimStatusSupported supported
      rw [ids]
      refine ⟨fun none_ => ?_, fun i cited => known i (memSortedSet.mp cited)⟩
      have empty := sortedSetNil.mp none_
      rcases declared with declared | nonempty
      · have citing := cites _ inside
        rw [declaredCites, declared, empty] at citing
        contradiction
      · exact nonempty empty

def supportedBody (ids : PyStr) : PyStr :=
  py "\x7b\"claims\":[\x7b\"detail\":\"\",\"finding_ids\":[" ++ ids ++
    py "],\"status\":\"supported\",\"text\":\"The target did not answer.\"\x7d]," ++
    py "\"groups\":[],\"limitations\":[],\"priority\":\"info\",\"remediation\":[]," ++
    py "\"summary\":\"No response.\"\x7d"

def assessmentPython (ids : PyStr) (digest : String) : Python := Python.onAscii
  [(py "assessment|71b2b4bea99209ff|gemini|gemini-2.0-flash|v1|v1|" ++ supportedBody ids, digest)]

def geminiBase : MetadataBase :=
  [(py "provider", py "gemini"), (py "model", py "gemini-2.0-flash"), (py "model_version", py "1"),
   (py "prompt_schema_version", py "v1"), (py "output_schema_version", py "v1")]

def supportedResponse (ids : List Json) : List (PyStr × Json) := [
  (py "overall_summary", .text "No response."),
  (py "priority", .text "info"),
  (py "claims", .list [.dict [
    (py "text", .text "The target did not answer."),
    (py "status", .text "supported"),
    (py "finding_ids", .list ids)]])]

def citedResult : Except PyError ValidationResult :=
  validateAnalysisResponse
    (assessmentPython (py "\"71987160c52803ae\"")
      "3a2918196d382416f86f533047347d71e93582264f17e7b75f1266e69c2d4941")
    (.dict (supportedResponse [.text "71987160c52803ae"])) timeoutEvidence geminiBase 0

def uncitedResult : Except PyError ValidationResult :=
  validateAnalysisResponse
    (assessmentPython [] "85f3328cc1ddd27c9f1293624c48466f9bd5261e54bdf6500d94b3875059d14e")
    (.dict (supportedResponse [])) timeoutEvidence geminiBase 0

theorem citedResponseGrounded : ∃ v a, citedResult = .ok v ∧ v.assessment = some a ∧
    a.assessmentId = py "3a2918196d382416" ∧ Grounded timeoutEvidence a := by
  have run : (match citedResult with
      | .ok v => v.accepted &&
          (v.assessment.map Assessment.assessmentId) == some (py "3a2918196d382416")
      | .error _ => false) = true := by
    decide +kernel
  cases result : citedResult with
  | error _ => rw [result] at run; contradiction
  | ok v =>
    rw [result] at run
    simp only [Bool.and_eq_true, beq_iff_eq, Option.map_eq_some_iff] at run
    obtain ⟨accepted, a, made, id⟩ := run
    exact ⟨v, a, rfl, made, id,
      (groundedIffSupportedClaimsCite result accepted made rfl).mpr (by decide +kernel)⟩

theorem uncitedClaimSupported : ¬ ∀ v a, uncitedResult = .ok v → v.accepted = true →
    v.assessment = some a → Grounded timeoutEvidence a := by
  intro all
  have run : (match uncitedResult with
      | .ok v => v.accepted && v.assessment.any fun a =>
          a.claims.any fun c => c.status == .supported && c.findingIds.isEmpty
      | .error _ => false) = true := by
    decide +kernel
  cases result : uncitedResult with
  | error _ => rw [result] at run; contradiction
  | ok v =>
    rw [result] at run
    simp only [Bool.and_eq_true, Option.any_eq_true, List.any_eq_true, beq_iff_eq,
      List.isEmpty_iff] at run
    obtain ⟨accepted, a, made, claim, member, supported, uncited⟩ := run
    have grounded := all v a result accepted made
    exact (grounded.supportedCited claim member supported).1 uncited

end SentinelGpt.ResponseValidator
