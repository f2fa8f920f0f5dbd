import SentinelGpt.ScanResults

/-! The explanation of one finding: the lookups of the endpoint over one state of the tables. -/
namespace SentinelGpt

def severityCode : Severity → PyStr
  | .info => py "INFO"
  | .low => py "LOW"
  | .medium => py "MEDIUM"
  | .high => py "HIGH"
  | .critical => py "CRITICAL"

def severityCode? (id : Nat) : Option PyStr :=
  (Severity.all.find? fun s => severityLevels s == id).map severityCode

def categoryCode? (id : Nat) : Option PyStr :=
  (findingCategories.find? fun entry => entry.2 == id).map Prod.fst

namespace FindingExplanation
open FallbackTemplates

def getVisibleScan (db : Db) (principal : Nat) (scanId : Nat) : Except PyError Scan :=
  match db.scan? scanId with
  | none => throw .notFoundError
  | some scan => if scan.initiatedByUserId != principal then throw .notFoundError else return scan

def details (scan : Scan) : Except PyError ScanDetails :=
  match scanProfiles.find? fun entry => entry.1 == scan.scanProfileId with
  | none => throw .lookupError
  | some entry => return ⟨scan.id, scan.targetId, scan.status.code, entry.2, scan.initiatedByUserId,
      scan.authorizationAttestationId, scan.queuedAt, scan.startedAt, scan.completedAt, scan.createdAt⟩

def getScan (db : Db) (principal : Nat) (scanId : Nat) : Except PyError ScanDetails := do
  details (← getVisibleScan db principal scanId)

structure FindingDto where
  id : Nat
  title : PyStr
  description : PyStr
  evidence : PyStr
  location : PyStr
  recommendation : PyStr
  severity : PyStr
  deriving DecidableEq, Repr

structure FindingWithEvidence extends FindingDto where
  category : PyStr
  evidenceRows : List (EvidenceType × PyStr)
  deriving DecidableEq, Repr

def joined (f : ScanFinding) : Option (FindingDto × PyStr) := do
  let category ← categoryCode? f.categoryId
  let severity ← severityCode? f.severityId
  return (⟨f.id, f.title, f.description, f.evidence, f.location, f.recommendation, severity⟩, category)

def executed (db : Db) (f : ScanFinding) : Bool := db.executions.any fun x => x.id == f.executionId

def ofScan (db : Db) (scanId executionId : Nat) : Bool :=
  db.executions.any fun x => x.id == executionId && x.scanId == scanId

def getFindingWithEvidence (db : Db) (findingId : Nat) : Option FindingWithEvidence := do
  let row ← db.findings.find? fun f => f.id == findingId && executed db f && (joined f).isSome
  let (dto, category) ← joined row
  let evidence := db.evidence.filter fun ev => ev.findingId == findingId
  return { dto with category, evidenceRows := evidence.map fun ev => (ev.evidenceType, ev.content) }

def listFindingDtos (db : Db) (scanId : Nat) : List FindingDto :=
  (db.findings.filter fun f => ofScan db scanId f.executionId).filterMap fun f =>
    (joined f).map Prod.fst

def getAssessment (db : Db) (scanId : Nat) : Option ScanAiAssessment :=
  (db.assessments.filter fun a => ofScan db scanId a.executionId).getLast?

def missing (reason : PyStr) : Json := .dict [(py "available", .bool false),
  (py "validationStatus", .text "FALLBACK_USED"), (py "fallbackReason", .str reason)]

def explained (status : PyStr) (explanation : Json) : Json := .dict [(py "available", .bool true),
  (py "validationStatus", .str status), (py "explanation", explanation)]

def fallback (python : Python) (findingId : Nat) (category : PyStr) : Json :=
  let explanation := buildFallbackExplanation python (uuidText findingId) category
  explained explanation.validationStatus.value explanation.toDict

/- `per_finding[str(finding_id)]`, when the payload of the assessment has it. -/
def narrated (payload : List (PyStr × Json)) (findingId : Nat) : Option Json :=
  match Json.get? payload (py "findings") with
  | some (.dict perFinding) => Json.get? perFinding (uuidText findingId)
  | _ => none

def explanationOf (python : Python) (findingId : Nat) (category : PyStr) :
    Option ScanAiAssessment → Json
  | none => fallback python findingId category
  | some assessment =>
    if !assessment.isAvailable then fallback python findingId category
    else match narrated assessment.payload findingId with
      | some explanation => explained (py "validated") explanation
      | none => fallback python findingId category

def getFindingExplanation (python : Python) (db : Db) (principal scanId findingId : Nat) :
    Except PyError Json := do
  let _ ← getScan db principal scanId
  match getFindingWithEvidence db findingId with
  | none => return missing (py "finding_not_found")
  | some dto =>
    if !(listFindingDtos db scanId).any (fun row => row.id == findingId) then
      return missing (py "finding_not_in_scan")
    else return explanationOf python findingId dto.category (getAssessment db scanId)

/- The keys of the tables, their references, and the seeds of the lookup tables. -/
structure Constraints (db : Db) : Prop where
  scanKey : (db.scans.map Scan.id).Nodup
  findingKey : (db.findings.map ScanFinding.id).Nodup
  executionKey : db.Keyed
  linked : db.Linked
  profiles : ∀ s ∈ db.scans, ∃ entry ∈ scanProfiles, entry.1 = s.scanProfileId
  categories : ∀ f ∈ db.findings, ∃ entry ∈ findingCategories, entry.2 = f.categoryId
  severities : ∀ f ∈ db.findings, ∃ s, severityLevels s = f.severityId

def ownScans (db : Db) (user : Nat) : List Scan := db.scans.filter fun s => s.initiatedByUserId == user

def ownExecutions (db : Db) (user : Nat) : List ScanEngineExecution :=
  db.executions.filter fun x => (ownScans db user).any fun s => s.id == x.scanId

def ownFindings (db : Db) (user : Nat) : List ScanFinding :=
  db.findings.filter fun f => (ownExecutions db user).any fun x => x.id == f.executionId

def ownAssessments (db : Db) (user : Nat) : List ScanAiAssessment :=
  db.assessments.filter fun a => (ownExecutions db user).any fun x => x.id == a.executionId

structure Agree (user : Nat) (db db' : Db) : Prop where
  scans : ownScans db user = ownScans db' user
  executions : ownExecutions db user = ownExecutions db' user
  findings : ownFindings db user = ownFindings db' user
  assessments : ownAssessments db user = ownAssessments db' user

def Initiated (db : Db) (user scanId : Nat) : Prop := ∃ s ∈ ownScans db user, s.id = scanId

def Stored (db : Db) (findingId : Nat) : Prop := ∃ f ∈ db.findings, f.id = findingId

def InScan (db : Db) (scanId findingId : Nat) : Prop :=
  ∃ f ∈ db.findings, ofScan db scanId f.executionId = true ∧ f.id = findingId

theorem foundByKey {α : Type} {key : α → Nat} {rows : List α} {p : α → Bool} {a : α}
    (unique : (rows.map key).Nodup) (member : a ∈ rows) (holds : p a = true)
    (only : ∀ b ∈ rows, p b = true → key b = key a) : rows.find? p = some a := by
  cases found : rows.find? p with
  | none => exact absurd holds (List.find?_eq_none.mp found a member)
  | some b =>
    have other := List.mem_of_find?_eq_some found
    rw [List.inj_on_of_nodup_map unique other member (only b other (List.find?_some found))]

section Lookups
variable {db db' : Db} {user scanId findingId : Nat}

theorem visibleOwn (sound : Constraints db) {s : Scan} (own : s ∈ ownScans db user) (same : s.id = scanId) :
    getVisibleScan db user scanId = .ok s := by
  obtain ⟨member, initiated⟩ := List.mem_filter.mp own
  have found : db.scan? scanId = some s :=
    foundByKey sound.scanKey member (beq_iff_eq.mpr same) fun b _ equal => (beq_iff_eq.mp equal).trans same.symm
  rw [getVisibleScan, found]
  dsimp only
  rw [if_neg (by simpa using initiated)]
  rfl

theorem visibleForeign (foreign : ¬ Initiated db user scanId) :
    getVisibleScan db user scanId = .error .notFoundError := by
  unfold getVisibleScan
  cases found : db.scan? scanId with
  | none => rfl
  | some s =>
    dsimp only
    split
    · rfl
    · rename_i initiated
      have member := List.mem_of_find?_eq_some found
      have same := List.find?_some found
      exact absurd ⟨s, List.mem_filter.mpr ⟨member, by simpa using initiated⟩, beq_iff_eq.mp same⟩ foreign

theorem detailed (sound : Constraints db) {s : Scan} (member : s ∈ db.scans) : ∃ d, details s = .ok d := by
  obtain ⟨entry, known, same⟩ := sound.profiles s member
  unfold details
  cases found : scanProfiles.find? fun entry => entry.1 == s.scanProfileId with
  | none => exact absurd (beq_iff_eq.mpr same) (List.find?_eq_none.mp found entry known)
  | some entry => exact ⟨_, rfl⟩

theorem joinedSound (sound : Constraints db) {f : ScanFinding} (member : f ∈ db.findings) :
    ∃ dto category, joined f = some (dto, category) ∧ dto.id = f.id := by
  obtain ⟨entry, known, same⟩ := sound.categories f member
  obtain ⟨level, rank⟩ := sound.severities f member
  have coded : ∃ category, categoryCode? f.categoryId = some category := by
    unfold categoryCode?
    cases found : findingCategories.find? fun entry => entry.2 == f.categoryId with
    | none => exact absurd (beq_iff_eq.mpr same) (List.find?_eq_none.mp found entry known)
    | some entry => exact ⟨_, rfl⟩
  have ranked : ∃ severity, severityCode? f.severityId = some severity := by
    rw [← rank]
    cases level <;> exact ⟨_, rfl⟩
  obtain ⟨category, coded⟩ := coded
  obtain ⟨severity, ranked⟩ := ranked
  exact ⟨_, category, by simp only [joined, coded, ranked]; rfl, rfl⟩

theorem executedSound (sound : Constraints db) {f : ScanFinding} (member : f ∈ db.findings) :
    executed db f = true := by
  obtain ⟨s, key⟩ := sound.linked.findings f member
  obtain ⟨x, stored, same⟩ := List.mem_map.mp key
  exact List.any_eq_true.mpr ⟨x, stored, beq_iff_eq.mpr (congrArg Prod.fst same)⟩

theorem foundStored (sound : Constraints db) {f : ScanFinding} (member : f ∈ db.findings)
    (same : f.id = findingId) : ∃ found, getFindingWithEvidence db findingId = some found ∧
      (joined f).map Prod.snd = some found.category := by
  obtain ⟨dto, category, row, -⟩ := joinedSound sound member
  have first : db.findings.find? (fun f => f.id == findingId && executed db f && (joined f).isSome) =
      some f := by
    apply foundByKey sound.findingKey member
    · rw [executedSound sound member, row, beq_iff_eq.mpr same]
      rfl
    · intro g _ holds
      simp only [Bool.and_eq_true, beq_iff_eq] at holds
      exact holds.1.1.trans same.symm
  simp only [getFindingWithEvidence, first, row, bind, Option.bind]
  exact ⟨_, rfl, rfl⟩

theorem foundNone (gone : ¬ Stored db findingId) : getFindingWithEvidence db findingId = none := by
  have none : db.findings.find? (fun f => f.id == findingId && executed db f && (joined f).isSome) =
      none := by
    apply List.find?_eq_none.mpr
    intro f member found
    simp only [Bool.and_eq_true, beq_iff_eq] at found
    exact gone ⟨f, member, found.1.1⟩
  rw [getFindingWithEvidence, none]
  rfl

theorem listedExactly (sound : Constraints db) :
    (listFindingDtos db scanId).any (fun row => row.id == findingId) = true ↔ InScan db scanId findingId := by
  simp only [List.any_eq_true, listFindingDtos, List.mem_filterMap, List.mem_filter, beq_iff_eq]
  constructor
  · intro listed
    obtain ⟨row, ⟨f, ⟨member, inScan⟩, read⟩, same⟩ := listed
    obtain ⟨dto, category, joined, id⟩ := joinedSound sound member
    rw [joined] at read
    cases Option.some.inj read
    exact ⟨f, member, inScan, id.symm.trans same⟩
  · intro inScan
    obtain ⟨f, member, inScan, same⟩ := inScan
    obtain ⟨dto, category, joined, id⟩ := joinedSound sound member
    exact ⟨dto, ⟨f, ⟨member, inScan⟩, by rw [joined]; rfl⟩, id.trans same⟩

theorem ofScanOwn (own : Initiated db user scanId) (executionId : Nat) : ofScan db scanId executionId =
    (ownExecutions db user).any fun x => x.id == executionId && x.scanId == scanId := by
  obtain ⟨s, member, same⟩ := own
  rw [ofScan, ownExecutions, List.any_filter]
  congr 1
  funext x
  by_cases here : x.scanId = scanId
  · have any : ((ownScans db user).any fun s => s.id == x.scanId) = true :=
      List.any_eq_true.mpr ⟨s, member, by simp [same, here]⟩
    rw [any, Bool.true_and]
  · simp [here]

theorem ofScanSome (own : Initiated db user scanId) {executionId : Nat}
    (inScan : ofScan db scanId executionId = true) :
    ((ownExecutions db user).any fun x => x.id == executionId) = true := by
  rw [ofScanOwn own] at inScan
  obtain ⟨x, member, equal⟩ := List.any_eq_true.mp inScan
  simp only [Bool.and_eq_true] at equal
  exact List.any_eq_true.mpr ⟨x, member, equal.1⟩

theorem initiatedAgrees (agree : Agree user db db') : Initiated db user scanId ↔ Initiated db' user scanId := by
  rw [Initiated, Initiated, agree.scans]

theorem ofScanAgrees (agree : Agree user db db') (own : Initiated db user scanId) :
    ofScan db scanId = ofScan db' scanId := by
  funext executionId
  rw [ofScanOwn own, ofScanOwn ((initiatedAgrees agree).mp own), agree.executions]

theorem findingsOfScan (own : Initiated db user scanId) :
    (db.findings.filter fun f => ofScan db scanId f.executionId) =
      (ownFindings db user).filter fun f => ofScan db scanId f.executionId := by
  rw [ownFindings, List.filter_filter]
  apply List.filter_congr
  intro f _
  cases inScan : ofScan db scanId f.executionId with
  | false => rfl
  | true => rw [ofScanSome own inScan]; rfl

theorem assessmentsOfScan (own : Initiated db user scanId) :
    (db.assessments.filter fun a => ofScan db scanId a.executionId) =
      (ownAssessments db user).filter fun a => ofScan db scanId a.executionId := by
  rw [ownAssessments, List.filter_filter]
  apply List.filter_congr
  intro a _
  cases inScan : ofScan db scanId a.executionId with
  | false => rfl
  | true => rw [ofScanSome own inScan]; rfl

theorem listAgrees (agree : Agree user db db') (own : Initiated db user scanId) :
    listFindingDtos db scanId = listFindingDtos db' scanId := by
  have own' := (initiatedAgrees agree).mp own
  rw [listFindingDtos, listFindingDtos, findingsOfScan own, findingsOfScan own', agree.findings,
    ofScanAgrees agree own]

theorem assessmentAgrees (agree : Agree user db db') (own : Initiated db user scanId) :
    getAssessment db scanId = getAssessment db' scanId := by
  have own' := (initiatedAgrees agree).mp own
  rw [getAssessment, getAssessment, assessmentsOfScan own, assessmentsOfScan own', agree.assessments,
    ofScanAgrees agree own]

theorem inScanAgrees (agree : Agree user db db') (own : Initiated db user scanId) {f : ScanFinding}
    (member : f ∈ db.findings) (inScan : ofScan db scanId f.executionId = true) : f ∈ db'.findings := by
  have mine : f ∈ ownFindings db user := List.mem_filter.mpr ⟨member, ofScanSome own inScan⟩
  rw [agree.findings] at mine
  exact (List.mem_filter.mp mine).1

end Lookups

section Responses
variable {python : Python} {db db' : Db} {user scanId findingId : Nat}

theorem scanOwn (sound : Constraints db) (own : Initiated db user scanId) :
    ∃ d, getScan db user scanId = .ok d := by
  obtain ⟨s, member, same⟩ := own
  obtain ⟨d, detailed⟩ := detailed sound (List.mem_filter.mp member).1
  exact ⟨d, by rw [getScan, visibleOwn sound member same]; exact detailed⟩

theorem responseForeign (foreign : ¬ Initiated db user scanId) :
    getFindingExplanation python db user scanId findingId = .error .notFoundError := by
  rw [getFindingExplanation, getScan, visibleForeign foreign]
  rfl

theorem responseMissing (sound : Constraints db) (own : Initiated db user scanId)
    (gone : ¬ Stored db findingId) : getFindingExplanation python db user scanId findingId =
      .ok (missing (py "finding_not_found")) := by
  obtain ⟨d, passed⟩ := scanOwn sound own
  rw [getFindingExplanation, passed, foundNone gone]
  rfl

theorem responseElsewhere (sound : Constraints db) (own : Initiated db user scanId)
    (stored : Stored db findingId) (elsewhere : ¬ InScan db scanId findingId) :
    getFindingExplanation python db user scanId findingId =
      .ok (missing (py "finding_not_in_scan")) := by
  obtain ⟨d, passed⟩ := scanOwn sound own
  obtain ⟨f, member, same⟩ := stored
  obtain ⟨dto, found, -⟩ := foundStored sound member same
  have unlisted := mt (listedExactly sound).mp elsewhere
  rw [getFindingExplanation, passed, found, Bool.not_eq_true _ |>.mp unlisted]
  rfl

theorem responseInScan (sound : Constraints db) (own : Initiated db user scanId) {f : ScanFinding}
    (member : f ∈ db.findings) (inScan : ofScan db scanId f.executionId = true) (same : f.id = findingId) :
    ∃ category, (joined f).map Prod.snd = some category ∧ ∀ python,
      getFindingExplanation python db user scanId findingId =
        .ok (explanationOf python findingId category (getAssessment db scanId)) := by
  obtain ⟨d, passed⟩ := scanOwn sound own
  obtain ⟨dto, found, category⟩ := foundStored sound member same
  have listed := (listedExactly sound).mpr ⟨f, member, inScan, same⟩
  refine ⟨dto.category, category, fun python => ?_⟩
  rw [getFindingExplanation, passed, found, listed]
  rfl

theorem reasonsDiffer : missing (py "finding_not_found") ≠ missing (py "finding_not_in_scan") := by
  intro same
  injection same with same
  simp only [List.cons.injEq, Prod.mk.injEq, Json.str.injEq, true_and, and_true] at same
  exact absurd same (by decide)

/- Outside one's own scan the response tells whether the finding exists. -/
theorem responseOutside (sound : Constraints db) (sound' : Constraints db') (own : Initiated db user scanId)
    (own' : Initiated db' user scanId) (elsewhere : ¬ InScan db scanId findingId)
    (elsewhere' : ¬ InScan db' scanId findingId) :
    getFindingExplanation python db user scanId findingId =
        getFindingExplanation python db' user scanId findingId ↔
      (Stored db findingId ↔ Stored db' findingId) := by
  by_cases stored : Stored db findingId <;> by_cases stored' : Stored db' findingId
  · rw [responseElsewhere sound own stored elsewhere, responseElsewhere sound' own' stored' elsewhere']
    exact iff_of_true rfl (iff_of_true stored stored')
  · rw [responseElsewhere sound own stored elsewhere, responseMissing sound' own' stored']
    exact iff_of_false (fun same => reasonsDiffer (Except.ok.inj same).symm)
      (fun both => stored' (both.mp stored))
  · rw [responseMissing sound own stored, responseElsewhere sound' own' stored' elsewhere']
    exact iff_of_false (fun same => reasonsDiffer (Except.ok.inj same))
      (fun both => stored (both.mpr stored'))
  · rw [responseMissing sound own stored, responseMissing sound' own' stored']
    exact iff_of_true rfl (iff_of_false stored stored')

theorem explainedAlike (python : Python) (user scanId findingId : Nat) (db db' : Db)
    (sound : Constraints db) (sound' : Constraints db') (agree : Agree user db db') :
    getFindingExplanation python db user scanId findingId =
        getFindingExplanation python db' user scanId findingId ↔
      ¬ Initiated db user scanId ∨ InScan db scanId findingId ∨
        (Stored db findingId ↔ Stored db' findingId) := by
  by_cases own : Initiated db user scanId
  · have own' := (initiatedAgrees agree).mp own
    rw [or_iff_right (not_not_intro own)]
    by_cases inScan : InScan db scanId findingId
    · obtain ⟨f, member, here, same⟩ := inScan
      have here' : ofScan db' scanId f.executionId = true := by rw [← ofScanAgrees agree own]; exact here
      obtain ⟨category, read, response⟩ := responseInScan sound own member here same
      obtain ⟨category', read', response'⟩ := responseInScan sound' own'
        (inScanAgrees agree own member here) here' same
      cases Option.some.inj (read.symm.trans read')
      rw [response, response', assessmentAgrees agree own]
      exact iff_of_true rfl (.inl ⟨f, member, here, same⟩)
    · have elsewhere' : ¬ InScan db' scanId findingId := by
        rw [← listedExactly sound', ← listAgrees agree own, listedExactly sound]
        exact inScan
      rw [or_iff_right inScan]
      exact responseOutside sound sound' own own' inScan elsewhere'
  · have foreign' := mt (initiatedAgrees agree).mpr own
    rw [responseForeign own, responseForeign foreign']
    exact iff_of_true rfl (.inl own)

end Responses

/-! Two states that differ in a finding of a stranger. -/

def scanOf (id user : Nat) : Scan :=
  ⟨id, 1, 1, user, 1, .reportReady, none, some 1, some 2, some 3, 1⟩

def strangerFinding : ScanFinding where
  id := 9
  executionId := 20
  categoryId := 1
  severityId := 1
  title := py "Missing HSTS security header"
  description := []
  evidence := []
  location := []
  recommendation := []
  fingerprint := none
  targetId := some 1
  scanId := some 2
  sourceEngineCode := some (py "headers-analyzer")
  affectedAsset := some (py "/")

def strangerDb (found : Bool) : Db where
  scans := [scanOf 1 7, scanOf 2 8]
  executions := [⟨20, 2, 4, py "1", .succeeded, some 2, some 3, none⟩]
  findings := if found then [strangerFinding] else []
  evidence := []
  history := []
  assessments := []
  auditLog := []
  attestations := []
  targets := []
  memberships := []

theorem strangerSound (found : Bool) : Constraints (strangerDb found) where
  scanKey := by cases found <;> decide
  findingKey := by cases found <;> decide
  executionKey := by cases found <;> exact List.nodup_singleton _
  linked := by
    cases found with
    | false => exact ⟨fun _ member => absurd member List.not_mem_nil, fun _ member => absurd member List.not_mem_nil⟩
    | true =>
      refine ⟨fun f member => ⟨2, ?_⟩, fun _ member => absurd member List.not_mem_nil⟩
      rw [List.mem_singleton.mp member]
      exact List.mem_singleton.mpr rfl
  profiles := by cases found <;> decide
  categories := by cases found <;> decide
  severities := by
    cases found with
    | false => exact fun _ member => nomatch member
    | true =>
      intro f member
      rw [List.mem_singleton.mp member]
      exact ⟨.low, rfl⟩

theorem strangerAgree : Agree 7 (strangerDb true) (strangerDb false) := ⟨rfl, rfl, rfl, rfl⟩

theorem foreignScanAlike : Agree 7 (strangerDb true) (strangerDb false) ∧
    getFindingExplanation (.onAscii []) (strangerDb true) 7 2 9 =
      getFindingExplanation (.onAscii []) (strangerDb false) 7 2 9 := by
  have foreign : ¬ Initiated (strangerDb true) 7 2 := by
    intro own
    obtain ⟨s, member, same⟩ := own
    rw [List.mem_singleton.mp member] at same
    contradiction
  exact ⟨strangerAgree, (explainedAlike _ 7 2 9 _ _ (strangerSound true) (strangerSound false)
    strangerAgree).mpr (.inl foreign)⟩

theorem strangerTold (found : Bool) : getFindingExplanation (.onAscii []) (strangerDb found) 7 1 9 =
    .ok (missing (if found then py "finding_not_in_scan" else py "finding_not_found")) := by
  cases found <;> rfl

theorem ownScanTells : Constraints (strangerDb true) ∧ Constraints (strangerDb false) ∧
    Agree 7 (strangerDb true) (strangerDb false) ∧
    getFindingExplanation (.onAscii []) (strangerDb true) 7 1 9 ≠
      getFindingExplanation (.onAscii []) (strangerDb false) 7 1 9 := by
  refine ⟨strangerSound true, strangerSound false, strangerAgree, fun same => ?_⟩
  rw [strangerTold true, strangerTold false] at same
  exact reasonsDiffer (Except.ok.inj same).symm

end FindingExplanation
end SentinelGpt
