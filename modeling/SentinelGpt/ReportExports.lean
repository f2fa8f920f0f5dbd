import SentinelGpt.Csv
import SentinelGpt.JsonStable
import SentinelGpt.ReportAssembler

/-! The exports of a report, and what is read back of them: a table of one row for each finding,
and a document with all of it. -/
namespace SentinelGpt

def ExecutionStatus.code : ExecutionStatus → PyStr
  | .pending => py "PENDING"
  | .running => py "RUNNING"
  | .succeeded => py "SUCCEEDED"
  | .failed => py "FAILED"
  | .timedOut => py "TIMED_OUT"

def EvidenceType.code : EvidenceType → PyStr
  | .rawHeader => py "RAW_HEADER"
  | .toolOutputSnippet => py "TOOL_OUTPUT_SNIPPET"
  | .responseBodySnippet => py "RESPONSE_BODY_SNIPPET"
  | .requestMetadata => py "REQUEST_METADATA"

namespace ReportExports
open ReportAssembler

structure ExportedFinding where
  finding : ReportFinding
  evidenceIds : List Nat
  counted : evidenceIds.length = finding.evidenceRows.length
  explanation : Option (List (PyStr × Json))

structure ExportedReport where
  document : ReportDocument
  findings : List ExportedFinding
  listed : findings.map ExportedFinding.finding = document.findings

/-! The table. -/

theorem excelDistinct : ([0x2C, 0x22, 0x0D, 0x0A] : List CodePoint).Nodup := by decide

def excel : Csv.Dialect CodePoint := ⟨0x2C, 0x22, 0x0D, 0x0A, excelDistinct⟩

def csvColumns : List PyStr := [
  py "scan_id", py "scan_status", py "scan_profile", py "target_hostname", py "finding_id", py "severity",
  py "category", py "title", py "affected_asset", py "source_engine", py "fingerprint", py "lifecycle_status",
  py "explanation_validation_status", py "explanation_summary", py "remediation_summary"]

def blanked (c : CodePoint) (s : PyStr) : PyStr := s.map fun a => if a = c then 0x20 else a

/- `if not finding_explanation`: none, and the empty dict. -/
def explained : Option (List (PyStr × Json)) → Option (List (PyStr × Json))
  | none | some [] => none
  | some members => some members

def explanationSummary (explanation : Option (List (PyStr × Json))) : PyStr :=
  match explained explanation with
  | none => []
  | some members =>
    match (Json.get? members (py "explanation_text")).getD (.str []) with
    | .str text => strip (blanked 0x0D (blanked 0x0A text))
    | _ => []

/- The steps that are texts; `or []` makes no difference to what is not a list. -/
def stepTexts : Option Json → List PyStr
  | some (.list items) => items.filterMap Json.asStr?
  | _ => []

def remediationSummary (explanation : Option (List (PyStr × Json))) : PyStr :=
  match explained explanation with
  | none => []
  | some members =>
    match Json.get? members (py "remediation") with
    | some (.dict remediation) =>
      let summary := match (Json.get? remediation (py "summary")).getD (.str []) with
        | .str summary => if summary.isEmpty then [] else [summary]
        | _ => []
      strip (blanked 0x0A (join (py " | ") (summary ++ stepTexts (Json.get? remediation (py "steps")))))
    | _ => []

def lifecycleStatus (_fingerprint : Option PyStr) (_lifecycleCounts : List (PyStr × Nat)) : PyStr := []

def validationStatus (python : Python) (explanation : Option (List (PyStr × Json))) : Except PyError PyStr :=
  match explained explanation with
  | none => return []
  | some members => strJson python ((Json.get? members (py "validation_status")).getD (.str []))

def csvRow (python : Python) (scan : ReportScanMetadata) (lifecycleCounts : List (PyStr × Nat))
    (exported : ExportedFinding) : Except PyError (List PyStr) := do
  let finding := exported.finding
  let status ← validationStatus python exported.explanation
  return [uuidText scan.scanId, scan.scanStatus, scan.scanProfile, scan.targetHostname, uuidText finding.id,
    finding.severity, finding.category, finding.title, finding.affectedAsset.getD [], finding.sourceEngineCode.getD [],
    finding.fingerprint.getD [], lifecycleStatus finding.fingerprint lifecycleCounts, status,
    explanationSummary exported.explanation, remediationSummary exported.explanation]

def renderCsvReport (python : Python) (report : ExportedReport) : Except PyError PyStr := do
  let rows ← report.findings.mapM (csvRow python report.document.scan report.document.lifecycleCounts)
  return excel.write (csvColumns :: rows)

/-! The document. -/

def textOrNull : Option PyStr → Json
  | none => .null
  | some text => .str text

def timeOrNull (python : Python) (time : Option Time) : Json := textOrNull (time.map python.isoformat)

def countsDict (counts : List (PyStr × Nat)) : Json :=
  .dict ((counts.map fun entry => (entry.1, Json.int entry.2)).insertionSort byName)

def scanDict (python : Python) (scan : ReportScanMetadata) : Json := .dict [
  (py "id", .str (uuidText scan.scanId)),
  (py "target_hostname", .str scan.targetHostname),
  (py "target_normalized_url", .str scan.targetNormalizedUrl),
  (py "scan_profile", .str scan.scanProfile),
  (py "status", .str scan.scanStatus),
  (py "initiated_by_user_id", .str (uuidText scan.initiatedByUserId)),
  (py "queued_at", timeOrNull python scan.queuedAt),
  (py "started_at", timeOrNull python scan.startedAt),
  (py "completed_at", timeOrNull python scan.completedAt)]

def engineDict (python : Python) (e : ReportEngineSummary) : Json := .dict [
  (py "engine_code", .str e.engineCode),
  (py "tool_version_snapshot", .str e.toolVersionSnapshot),
  (py "status", .str e.status.code),
  (py "started_at", timeOrNull python e.startedAt),
  (py "completed_at", timeOrNull python e.completedAt),
  (py "error_message", textOrNull e.errorMessage)]

def evidenceDict (id : Nat) (row : EvidenceType × PyStr) : Json := .dict [
  (py "id", .str (uuidText id)), (py "type", .str row.1.code), (py "content", .str row.2)]

def explanationOrNull : Option (List (PyStr × Json)) → Json
  | none => .null
  | some members => .dict members

def findingDict (e : ExportedFinding) : Json := .dict [
  (py "id", .str (uuidText e.finding.id)),
  (py "severity", .str e.finding.severity),
  (py "category", .str e.finding.category),
  (py "title", .str e.finding.title),
  (py "description", .str e.finding.description),
  (py "evidence", .str e.finding.evidence),
  (py "location", .str e.finding.location),
  (py "recommendation", .str e.finding.recommendation),
  (py "fingerprint", textOrNull e.finding.fingerprint),
  (py "affected_asset", textOrNull e.finding.affectedAsset),
  (py "source_engine_code", textOrNull e.finding.sourceEngineCode),
  (py "evidence_rows", .list (List.zipWith evidenceDict e.evidenceIds e.finding.evidenceRows)),
  (py "explanation", explanationOrNull e.explanation)]

def assessmentDict : Option ReportAssessment → Json
  | none => .null
  | some a => .dict [
    (py "available", .bool a.available),
    (py "provider", .str a.provider),
    (py "model", .str a.model),
    (py "prompt_schema_version", .str a.promptSchemaVersion),
    (py "output_schema_version", .str a.outputSchemaVersion),
    (py "failure_kind", textOrNull a.failureKind),
    (py "unsupported_claim_count", .int a.unsupportedClaimCount),
    (py "overall_summary", .str a.overallSummary),
    (py "priority", textOrNull a.priority),
    (py "payload", .dict a.payload)]

def toDict (python : Python) (report : ExportedReport) : Json := .dict [
  (py "schema_version", .str report.document.schemaVersion),
  (py "generated_at", .str (python.isoformat report.document.generatedAt)),
  (py "scan", scanDict python report.document.scan),
  (py "engines", .list (report.document.engines.map (engineDict python))),
  (py "severity_counts", countsDict report.document.severityCounts),
  (py "lifecycle_counts", countsDict report.document.lifecycleCounts),
  (py "findings", .list (report.findings.map findingDict)),
  (py "assessment", assessmentDict report.document.assessment)]

def renderJsonReport (python : Python) (report : ExportedReport) : PyStr := dumpsStable (toDict python report)

/-! What a reader of the export finds. -/
section Reading
variable {python : Python} {scan : ReportScanMetadata} {counts : List (PyStr × Nat)}

def column (row : List PyStr) (name : PyStr) : Option PyStr := (csvColumns.zip row).lookup name

/- A row as it stands for a finding: all its columns, the finding's data as they are, and the
summaries on one line. -/
structure RowOf (python : Python) (scan : ReportScanMetadata) (e : ExportedFinding) (row : List PyStr) : Prop where
  whole : row.length = csvColumns.length
  scanId : column row (py "scan_id") = some (uuidText scan.scanId)
  status : column row (py "scan_status") = some scan.scanStatus
  profile : column row (py "scan_profile") = some scan.scanProfile
  hostname : column row (py "target_hostname") = some scan.targetHostname
  findingId : column row (py "finding_id") = some (uuidText e.finding.id)
  severity : column row (py "severity") = some e.finding.severity
  category : column row (py "category") = some e.finding.category
  title : column row (py "title") = some e.finding.title
  asset : column row (py "affected_asset") = some (e.finding.affectedAsset.getD [])
  engine : column row (py "source_engine") = some (e.finding.sourceEngineCode.getD [])
  fingerprint : column row (py "fingerprint") = some (e.finding.fingerprint.getD [])
  lifecycle : column row (py "lifecycle_status") = some []
  validation : ∃ text, validationStatus python e.explanation = .ok text ∧
    column row (py "explanation_validation_status") = some text
  explanation : column row (py "explanation_summary") = some (explanationSummary e.explanation) ∧
    0x0A ∉ explanationSummary e.explanation ∧ 0x0D ∉ explanationSummary e.explanation
  remediation : column row (py "remediation_summary") = some (remediationSummary e.explanation) ∧
    0x0A ∉ remediationSummary e.explanation

theorem memBlanked {c a : CodePoint} {s : PyStr} (inside : a ∈ blanked c s) : (a ∈ s ∧ a ≠ c) ∨ a = 0x20 := by
  obtain ⟨b, listed, rfl⟩ := List.mem_map.mp inside
  by_cases same : b = c
  · rw [if_pos same]
    exact .inr rfl
  · rw [if_neg same]
    exact .inl ⟨listed, same⟩

theorem explanationOneLine (explanation : Option (List (PyStr × Json))) :
    0x0A ∉ explanationSummary explanation ∧ 0x0D ∉ explanationSummary explanation := by
  unfold explanationSummary
  split
  · exact ⟨List.not_mem_nil, List.not_mem_nil⟩
  · split
    · rename_i text _
      constructor
      · intro inside
        rcases memBlanked (memStrip inside) with ⟨feed, -⟩ | blank
        · rcases memBlanked feed with ⟨-, other⟩ | blank
          · exact other rfl
          · cases blank
        · cases blank
      · intro inside
        rcases memBlanked (memStrip inside) with ⟨-, other⟩ | blank
        · exact other rfl
        · cases blank
    · exact ⟨List.not_mem_nil, List.not_mem_nil⟩

theorem remediationOneLine (explanation : Option (List (PyStr × Json))) : 0x0A ∉ remediationSummary explanation := by
  unfold remediationSummary
  split
  · exact List.not_mem_nil
  · split
    · intro inside
      rcases memBlanked (memStrip inside) with ⟨-, other⟩ | blank
      · exact other rfl
      · cases blank
    · exact List.not_mem_nil

theorem csvRowOf {e : ExportedFinding} {row : List PyStr} (made : csvRow python scan counts e = .ok row) :
    RowOf python scan e row := by
  obtain ⟨status, valid, returned⟩ := bindOk made
  cases returned
  exact ⟨rfl, rfl, rfl, rfl, rfl, rfl, rfl, rfl, rfl, rfl, rfl, rfl, rfl, ⟨status, valid, rfl⟩,
    ⟨rfl, explanationOneLine _⟩, ⟨rfl, remediationOneLine _⟩⟩

theorem csvRows {findings : List ExportedFinding} {rows : List (List PyStr)}
    (made : findings.mapM (csvRow python scan counts) = .ok rows) : List.Forall₂ (RowOf python scan) findings rows := by
  induction findings generalizing rows with
  | nil =>
    cases made
    exact .nil
  | cons e findings ih =>
    rw [List.mapM_cons] at made
    obtain ⟨row, first, rest⟩ := bindOk made
    obtain ⟨others, later, returned⟩ := bindOk rest
    cases returned
    exact .cons (csvRowOf first) (ih later)

/- A row fails only with `str()` of its explanation's status. -/
def strableStatus (python : Python) (e : ExportedFinding) : Bool :=
  match explained e.explanation with
  | none => true
  | some members => strable python ((Json.get? members (py "validation_status")).getD (.str []))

theorem csvRowIsOk (e : ExportedFinding) : (csvRow python scan counts e).isOk = strableStatus python e := by
  have status : (csvRow python scan counts e).isOk = (validationStatus python e.explanation).isOk := by
    unfold csvRow
    cases validationStatus python e.explanation <;> rfl
  rw [status, validationStatus, strableStatus]
  cases explained e.explanation with
  | none => rfl
  | some members => exact strIsOk python _

theorem renders (report : ExportedReport) :
    (renderCsvReport python report).isOk = report.findings.all (strableStatus python) := by
  have rows := mapMIsOk (csvRow python report.document.scan report.document.lifecycleCounts) report.findings
  have render : (renderCsvReport python report).isOk =
      (report.findings.mapM (csvRow python report.document.scan report.document.lifecycleCounts)).isOk := by
    unfold renderCsvReport
    cases report.findings.mapM (csvRow python report.document.scan report.document.lifecycleCounts) <;> rfl
  rw [render, rows]
  simp only [csvRowIsOk]

/- Whatever the texts of a report hold, a reader of the table finds the header and one row for
each finding, in their order. -/
theorem tableReadBack {report : ExportedReport} {text : PyStr} (rendered : renderCsvReport python report = .ok text) :
    ∃ rows, excel.read text = csvColumns :: rows ∧ List.Forall₂ (RowOf python report.document.scan) report.findings rows := by
  obtain ⟨rows, made, returned⟩ := bindOk rendered
  cases returned
  exact ⟨rows, Csv.readWrite _, csvRows made⟩

end Reading

section Stored
variable {python : Python} {report : ExportedReport} {depth : Nat}

def scanTexts (scan : ReportScanMetadata) : List PyStr :=
  [scan.targetHostname, scan.targetNormalizedUrl, scan.scanProfile, scan.scanStatus]

def engineTexts (e : ReportEngineSummary) : List PyStr := [e.engineCode, e.toolVersionSnapshot] ++ e.errorMessage.toList

def findingTexts (e : ExportedFinding) : List PyStr :=
  [e.finding.severity, e.finding.category, e.finding.title, e.finding.description, e.finding.evidence,
    e.finding.location, e.finding.recommendation] ++ e.finding.affectedAsset.toList ++
    e.finding.sourceEngineCode.toList ++ e.finding.fingerprint.toList ++ e.finding.evidenceRows.map Prod.snd

def assessmentTexts (a : ReportAssessment) : List PyStr :=
  [a.provider, a.model, a.promptSchemaVersion, a.outputSchemaVersion, a.overallSummary] ++ a.failureKind.toList ++
    a.priority.toList

def reportTexts (document : ReportDocument) (findings : List ExportedFinding) : List PyStr :=
  [document.schemaVersion] ++ scanTexts document.scan ++ document.engines.flatMap engineTexts ++
    findings.flatMap findingTexts ++ document.assessment.toList.flatMap assessmentTexts ++
    document.severityCounts.map Prod.fst ++ document.lifecycleCounts.map Prod.fst

/- Columns hold texts without surrogates, numbers of a machine's size, and documents that have
themselves been read; a count has a name of its own. -/
structure Stored (python : Python) (report : ExportedReport) (depth : Nat) : Prop where
  nesting : python.loadsDepth = depth + 5
  times : ∀ time, encodable (python.isoformat time) = true
  texts : ∀ text ∈ reportTexts report.document report.findings, encodable text = true
  severities : (report.document.severityCounts.map Prod.fst).Nodup ∧
    ∀ entry ∈ report.document.severityCounts, shortInt entry.2 = true
  lifecycles : (report.document.lifecycleCounts.map Prod.fst).Nodup ∧
    ∀ entry ∈ report.document.lifecycleCounts, shortInt entry.2 = true
  explanations : ∀ e ∈ report.findings, ∀ members ∈ e.explanation, Readable false (depth + 2) (.dict members)
  assessed : ∀ a ∈ report.document.assessment, shortInt a.unsupportedClaimCount = true ∧
    Readable false (depth + 3) (.dict a.payload)

theorem encodableUnpaired {text : PyStr} (ok : encodable text = true) : Unpaired text := by
  induction text with
  | nil => exact .nil
  | cons c rest ih =>
    simp only [encodable, List.all_cons, Bool.and_eq_true] at ok
    have single := surrogateFalse.mp (by simpa using ok.1 : isSurrogate c = false)
    cases rest with
    | nil => exact .singleton c
    | cons d rest =>
      refine List.isChain_cons_cons.mpr ⟨?_, ih ok.2⟩
      have plain : JsonScan.isHigh c.val = false := by
        simp only [JsonScan.isHigh, Bool.and_eq_false_iff, decide_eq_false_iff_not]
        omega
      rw [plain, Bool.false_and]

theorem uuidUnpaired (id : Nat) : Unpaired (uuidText id) := by
  have digits := hexTextEncodable 32 id
  have part : ∀ part : PyStr, part.Sublist (hexText 32 id) → encodable part = true := fun part within =>
    List.all_eq_true.mpr fun c inside => List.all_eq_true.mp digits c (within.subset inside)
  refine encodableUnpaired ((encodableIntercalate (py "-") _ rfl).mpr fun text listed => part text ?_)
  simp only [List.mem_cons, List.not_mem_nil, or_false] at listed
  rcases listed with rfl | rfl | rfl | rfl | rfl
  · exact List.take_sublist _ _
  · exact (List.take_sublist _ _).trans (List.drop_sublist _ _)
  · exact (List.take_sublist _ _).trans (List.drop_sublist _ _)
  · exact (List.take_sublist _ _).trans (List.drop_sublist _ _)
  · exact List.drop_sublist _ _

theorem textReadable {text : Option PyStr} (ok : ∀ t ∈ text, encodable t = true) : Readable false depth (textOrNull text) := by
  cases text with
  | none => rw [textOrNull, Readable]; trivial
  | some text =>
    rw [textOrNull, Readable]
    exact encodableUnpaired (ok text rfl)

theorem timeReadable (times : ∀ time, encodable (python.isoformat time) = true) (time : Option Time) :
    Readable false depth (timeOrNull python time) := by
  refine textReadable fun text written => ?_
  obtain ⟨t, -, rfl⟩ := Option.map_eq_some_iff.mp written
  exact times t

theorem plainKeys (keys : List PyStr) (small : (keys.all fun key => key.all fun c => c.val < 0xD800) = true) :
    ∀ key ∈ keys, Unpaired key := by
  intro key listed
  have chars := List.all_eq_true.mp small key listed
  exact unpairedSmall fun c inside => by simpa using List.all_eq_true.mp chars c inside

theorem objectReadable {members : List (PyStr × Json)} (distinct : (members.map Prod.fst).Nodup)
    (small : ((members.map Prod.fst).all fun key => key.all fun c => c.val < 0xD800) = true)
    (each : ∀ member ∈ members, Readable false depth member.2) : Readable false (depth + 1) (.dict members) := by
  rw [Readable]
  refine ⟨distinct, readableMembersAll.mpr fun member listed => ⟨?_, each member listed⟩⟩
  exact plainKeys _ small member.1 (List.mem_map.mpr ⟨member, listed, rfl⟩)

theorem listReadable {items : List Json} (each : ∀ item ∈ items, Readable false depth item) :
    Readable false (depth + 1) (.list items) := by
  rw [Readable]
  induction items with
  | nil => trivial
  | cons item items ih =>
    obtain ⟨first, others⟩ := List.forall_mem_cons.mp each
    rw [ReadableItems]
    exact ⟨first, ih others⟩

theorem countsReadable {counts : List (PyStr × Nat)} (distinct : (counts.map Prod.fst).Nodup)
    (texts : ∀ entry ∈ counts, encodable entry.1 = true) (short : ∀ entry ∈ counts, shortInt entry.2 = true) :
    Readable false (depth + 1) (countsDict counts) := by
  have perm := List.perm_insertionSort byName (counts.map fun entry => (entry.1, Json.int entry.2))
  rw [countsDict, Readable]
  refine ⟨?_, readableMembersAll.mpr fun member listed => ?_⟩
  · rw [(perm.map Prod.fst).nodup_iff, List.map_map]
    exact distinct
  · obtain ⟨entry, inCounts, rfl⟩ := List.mem_map.mp (perm.mem_iff.mp listed)
    exact ⟨encodableUnpaired (texts entry inCounts), by rw [Readable]; exact short entry inCounts⟩

theorem typeUnpaired (type : EvidenceType) : Unpaired type.code := by
  refine unpairedSmall fun c inside => ?_
  have small : (type.code.all fun c => c.val < 0xD800) = true := by cases type <;> decide
  simpa using List.all_eq_true.mp small c inside

theorem statusUnpaired (status : ExecutionStatus) : Unpaired status.code := by
  refine unpairedSmall fun c inside => ?_
  have small : (status.code.all fun c => c.val < 0xD800) = true := by cases status <;> decide
  simpa using List.all_eq_true.mp small c inside

theorem evidenceReadable {id : Nat} {row : EvidenceType × PyStr} (content : encodable row.2 = true) :
    Readable false (depth + 1) (evidenceDict id row) := by
  rw [evidenceDict]
  refine objectReadable (by simp only [List.map_cons, List.map_nil]; decide)
    (by simp only [List.map_cons, List.map_nil]; decide) ?_
  simp only [List.forall_mem_cons, List.not_mem_nil, false_implies, implies_true, and_true, Readable]
  exact ⟨uuidUnpaired id, typeUnpaired row.1, encodableUnpaired content⟩

theorem findingReadable {e : ExportedFinding} (texts : ∀ text ∈ findingTexts e, encodable text = true)
    (explained : ∀ members ∈ e.explanation, Readable false (depth + 2) (.dict members)) :
    Readable false (depth + 3) (findingDict e) := by
  have str : ∀ {text : PyStr}, text ∈ findingTexts e → Readable false (depth + 2) (.str text) := by
    intro text listed
    rw [Readable]
    exact encodableUnpaired (texts text listed)
  have rows : Readable false (depth + 2) (.list (List.zipWith evidenceDict e.evidenceIds e.finding.evidenceRows)) := by
    refine listReadable fun item listed => ?_
    rw [← List.map_uncurry_zip_eq_zipWith] at listed
    obtain ⟨⟨id, row⟩, paired, rfl⟩ := List.mem_map.mp listed
    exact evidenceReadable (texts row.2 (List.mem_append_right _ (List.mem_map.mpr ⟨row, (List.of_mem_zip paired).2, rfl⟩)))
  have explanation : Readable false (depth + 2) (explanationOrNull e.explanation) := by
    cases given : e.explanation with
    | none =>
      rw [explanationOrNull, Readable]
      trivial
    | some members => exact explained members given
  rw [findingDict]
  refine objectReadable (by simp only [List.map_cons, List.map_nil]; decide)
    (by simp only [List.map_cons, List.map_nil]; decide) ?_
  simp only [List.forall_mem_cons, List.not_mem_nil, false_implies, implies_true, and_true]
  refine ⟨?_, str ?_, str ?_, str ?_, str ?_, str ?_, str ?_, str ?_, textReadable fun t given => texts t ?_,
    textReadable fun t given => texts t ?_, textReadable fun t given => texts t ?_, rows, explanation⟩
  · rw [Readable]
    exact uuidUnpaired _
  all_goals simp_all [findingTexts]

theorem engineReadable {e : ReportEngineSummary} (times : ∀ time, encodable (python.isoformat time) = true)
    (texts : ∀ text ∈ engineTexts e, encodable text = true) : Readable false (depth + 1) (engineDict python e) := by
  have str : ∀ {text : PyStr}, text ∈ engineTexts e → Readable false depth (.str text) := by
    intro text listed
    rw [Readable]
    exact encodableUnpaired (texts text listed)
  rw [engineDict]
  refine objectReadable (by simp only [List.map_cons, List.map_nil]; decide)
    (by simp only [List.map_cons, List.map_nil]; decide) ?_
  simp only [List.forall_mem_cons, List.not_mem_nil, false_implies, implies_true, and_true]
  refine ⟨str ?_, str ?_, ?_, timeReadable times _, timeReadable times _, textReadable fun t given => texts t ?_⟩
  · simp [engineTexts]
  · simp [engineTexts]
  · rw [Readable]
    exact statusUnpaired _
  · simp_all [engineTexts]

theorem scanReadable {scan : ReportScanMetadata} (times : ∀ time, encodable (python.isoformat time) = true)
    (texts : ∀ text ∈ scanTexts scan, encodable text = true) : Readable false (depth + 1) (scanDict python scan) := by
  have str : ∀ {text : PyStr}, text ∈ scanTexts scan → Readable false depth (.str text) := by
    intro text listed
    rw [Readable]
    exact encodableUnpaired (texts text listed)
  have id : ∀ id, Readable false depth (.str (uuidText id)) := fun id => by
    rw [Readable]
    exact uuidUnpaired id
  rw [scanDict]
  refine objectReadable (by simp only [List.map_cons, List.map_nil]; decide)
    (by simp only [List.map_cons, List.map_nil]; decide) ?_
  simp only [List.forall_mem_cons, List.not_mem_nil, false_implies, implies_true, and_true]
  refine ⟨id _, str ?_, str ?_, str ?_, str ?_, id _, timeReadable times _, timeReadable times _, timeReadable times _⟩
  all_goals simp [scanTexts]

theorem assessmentReadable {a : ReportAssessment} (texts : ∀ text ∈ assessmentTexts a, encodable text = true)
    (short : shortInt a.unsupportedClaimCount = true) (payload : Readable false depth (.dict a.payload)) :
    Readable false (depth + 1) (assessmentDict (some a)) := by
  have str : ∀ {text : PyStr}, text ∈ assessmentTexts a → Readable false depth (.str text) := by
    intro text listed
    rw [Readable]
    exact encodableUnpaired (texts text listed)
  rw [assessmentDict]
  refine objectReadable (by simp only [List.map_cons, List.map_nil]; decide)
    (by simp only [List.map_cons, List.map_nil]; decide) ?_
  simp only [List.forall_mem_cons, List.not_mem_nil, false_implies, implies_true, and_true]
  refine ⟨?_, str ?_, str ?_, str ?_, str ?_, textReadable fun t given => texts t ?_, ?_, str ?_,
    textReadable fun t given => texts t ?_, payload⟩
  · rw [Readable]
    trivial
  all_goals simp_all [assessmentTexts, Readable]

theorem storedReadable (stored : Stored python report depth) : Readable false python.loadsDepth (toDict python report) := by
  have within : ∀ {part : List PyStr}, part ⊆ reportTexts report.document report.findings →
      ∀ text ∈ part, encodable text = true := fun sub text inside => stored.texts text (sub inside)
  have names : ∀ (counts : List (PyStr × Nat)), counts.map Prod.fst ⊆ reportTexts report.document report.findings →
      ∀ entry ∈ counts, encodable entry.1 = true := fun counts sub entry inside =>
    stored.texts entry.1 (sub (List.mem_map.mpr ⟨entry, inside, rfl⟩))
  have engines : Readable false (depth + 4) (.list (report.document.engines.map (engineDict python))) := by
    refine listReadable fun item listed => ?_
    obtain ⟨e, inReport, rfl⟩ := List.mem_map.mp listed
    refine engineReadable stored.times (within fun text inside => ?_)
    have here : text ∈ report.document.engines.flatMap engineTexts := List.mem_flatMap.mpr ⟨e, inReport, inside⟩
    simp [reportTexts, here]
  have findings : Readable false (depth + 4) (.list (report.findings.map findingDict)) := by
    refine listReadable fun item listed => ?_
    obtain ⟨e, inReport, rfl⟩ := List.mem_map.mp listed
    refine findingReadable (within fun text inside => ?_) (stored.explanations e inReport)
    have here : text ∈ report.findings.flatMap findingTexts := List.mem_flatMap.mpr ⟨e, inReport, inside⟩
    simp [reportTexts, here]
  have assessed : Readable false (depth + 4) (assessmentDict report.document.assessment) := by
    have each := stored.assessed
    cases given : report.document.assessment with
    | none =>
      rw [assessmentDict, Readable]
      trivial
    | some a =>
      obtain ⟨short, payload⟩ := each a given
      refine assessmentReadable (within fun text inside => ?_) short payload
      have here : text ∈ report.document.assessment.toList.flatMap assessmentTexts := by simpa [given] using inside
      simp [reportTexts, here]
  have schema : encodable report.document.schemaVersion = true := stored.texts _ (by simp [reportTexts])
  rw [stored.nesting, toDict]
  refine objectReadable (by simp only [List.map_cons, List.map_nil]; decide)
    (by simp only [List.map_cons, List.map_nil]; decide) ?_
  simp only [List.forall_mem_cons, List.not_mem_nil, false_implies, implies_true, and_true]
  refine ⟨?_, ?_, scanReadable stored.times (within fun text inside => by simp [reportTexts, inside]), engines,
    countsReadable stored.severities.1 (names _ fun text inside => by simp [reportTexts] at inside ⊢; simp [inside])
      stored.severities.2,
    countsReadable stored.lifecycles.1 (names _ fun text inside => by simp [reportTexts] at inside ⊢; simp [inside])
      stored.lifecycles.2, findings, assessed⟩
  · rw [Readable]
    exact encodableUnpaired schema
  · rw [Readable]
    exact encodableUnpaired (stored.times _)

end Stored

section Agreement
variable {python : Python} {report : ExportedReport}

def sharedColumns : List (PyStr × PyStr) := [
  (py "finding_id", py "id"), (py "severity", py "severity"), (py "category", py "category"), (py "title", py "title")]

def nullableColumns : List (PyStr × PyStr) := [
  (py "affected_asset", py "affected_asset"), (py "source_engine", py "source_engine_code"),
  (py "fingerprint", py "fingerprint")]

def textOrEmpty : Option Json → PyStr
  | some (.str text) => text
  | _ => []

/- A row and an entry of the document tell the same finding. -/
structure SameFinding (row : List PyStr) (item : Json) : Prop where
  members : ∃ members, item = .dict members ∧
    (∀ shared ∈ sharedColumns, ∃ text, column row shared.1 = some text ∧
      Json.get? members shared.2 = some (.str text)) ∧
    ∀ shared ∈ nullableColumns, column row shared.1 = some (textOrEmpty (Json.get? members shared.2))

theorem findingNames (e : ExportedFinding) : ∃ members, findingDict e = .dict members ∧
    (members.map Prod.fst).Nodup ∧ (∀ shared ∈ [
      (py "id", uuidText e.finding.id), (py "severity", e.finding.severity), (py "category", e.finding.category),
      (py "title", e.finding.title)], Json.get? members shared.1 = some (.str shared.2)) ∧
    ∀ shared ∈ [(py "affected_asset", e.finding.affectedAsset), (py "source_engine_code", e.finding.sourceEngineCode),
      (py "fingerprint", e.finding.fingerprint)], Json.get? members shared.1 = some (textOrNull shared.2) := by
  refine ⟨_, rfl, ?_, ?_, ?_⟩
  · simp only [List.map_cons, List.map_nil]
    decide
  · simp only [List.forall_mem_cons, List.not_mem_nil, false_implies, implies_true, and_true]
    exact ⟨rfl, rfl, rfl, rfl⟩
  · simp only [List.forall_mem_cons, List.not_mem_nil, false_implies, implies_true, and_true]
    exact ⟨rfl, rfl, rfl⟩

theorem sameFinding {e : ExportedFinding} {row : List PyStr} (of_ : RowOf python report.document.scan e row) :
    SameFinding row (sortKeys (findingDict e)) := by
  obtain ⟨members, is, distinct, named, nullable⟩ := findingNames e
  simp only [List.forall_mem_cons, List.not_mem_nil, false_implies, implies_true, and_true] at named nullable
  obtain ⟨id, severity, category, title⟩ := named
  obtain ⟨asset, engine, fingerprint⟩ := nullable
  refine ⟨(sortMembers members).insertionSort byName, by rw [is, sortKeys], fun shared listed => ?_, fun shared listed => ?_⟩
  · have found : ∀ {name text}, Json.get? members name = some (.str text) →
        Json.get? ((sortMembers members).insertionSort byName) name = some (.str text) := by
      intro name text there
      rw [getSorted distinct, there]
      rfl
    simp only [sharedColumns, List.mem_cons, List.not_mem_nil, or_false] at listed
    rcases listed with rfl | rfl | rfl | rfl
    · exact ⟨_, of_.findingId, found id⟩
    · exact ⟨_, of_.severity, found severity⟩
    · exact ⟨_, of_.category, found category⟩
    · exact ⟨_, of_.title, found title⟩
  · have empty : ∀ {name} {text : Option PyStr}, Json.get? members name = some (textOrNull text) →
        textOrEmpty (Json.get? ((sortMembers members).insertionSort byName) name) = text.getD [] := by
      intro name text there
      rw [getSorted distinct, there]
      cases text <;> rfl
    simp only [nullableColumns, List.mem_cons, List.not_mem_nil, or_false] at listed
    rcases listed with rfl | rfl | rfl
    · exact of_.asset.trans (congrArg some (empty asset).symm)
    · exact of_.engine.trans (congrArg some (empty engine).symm)
    · exact of_.fingerprint.trans (congrArg some (empty fingerprint).symm)

theorem sameFindings {findings : List ExportedFinding} {rows : List (List PyStr)}
    (of_ : List.Forall₂ (RowOf python report.document.scan) findings rows) :
    List.Forall₂ SameFinding rows (sortItems (findings.map findingDict)) := by
  induction of_ with
  | nil => exact .nil
  | cons first _ ih => exact .cons (sameFinding first) ih

theorem reportNames (python : Python) (report : ExportedReport) : ∃ members, toDict python report = .dict members ∧
    (members.map Prod.fst).Nodup ∧
    Json.get? members (py "findings") = some (.list (report.findings.map findingDict)) := by
  refine ⟨_, rfl, ?_, rfl⟩
  simp only [List.map_cons, List.map_nil]
  decide

end Agreement

def hostileFinding : ReportFinding := {
  id := 3, severity := py "HIGH", category := py "MISSING_SECURITY_HEADER", title := py "a,\"b\"\r\nc"
  description := [], evidence := [], location := [], recommendation := [], fingerprint := none
  affectedAsset := some (py ","), sourceEngineCode := none, evidenceRows := [] }

def hostileExplanation : List (PyStr × Json) :=
  [(py "explanation_text", .str (py " d\ne ")), (py "validation_status", .str (py "valid"))]

theorem hostileCounted : ([] : List Nat).length = hostileFinding.evidenceRows.length := rfl

def hostileExported : ExportedFinding := ⟨hostileFinding, [], hostileCounted, some hostileExplanation⟩

def hostileDocument : ReportDocument := {
  schemaVersion := reportSchemaVersion, generatedAt := 7
  scan := ⟨py "example.test", py "https://example.test/", 1, py "standard", py "REPORT_READY", 2, none, none, none⟩
  engines := [], findings := [hostileFinding], assessment := none, severityCounts := [], lifecycleCounts := [] }

theorem hostileListed : [hostileExported].map ExportedFinding.finding = hostileDocument.findings := rfl

def hostileReport : ExportedReport := ⟨hostileDocument, [hostileExported], hostileListed⟩

def hostileRows : List (List PyStr) := [[uuidText 1, py "REPORT_READY", py "standard", py "example.test", uuidText 3,
  py "HIGH", py "MISSING_SECURITY_HEADER", py "a,\"b\"\r\nc", py ",", [], [], [], py "valid", py "d e", []]]

theorem hostileRendered : renderCsvReport (Python.onAscii []) hostileReport =
    .ok (excel.write (csvColumns :: hostileRows)) := by
  rfl

theorem hostileReadBack : ∃ rows, excel.read (excel.write (csvColumns :: hostileRows)) = csvColumns :: rows ∧
    List.Forall₂ (RowOf (Python.onAscii []) hostileReport.document.scan) hostileReport.findings rows :=
  tableReadBack hostileRendered

theorem hostileStored : Stored (Python.onAscii []) hostileReport 9995 where
  nesting := rfl
  times time := pyEncodable _
  texts := by
    have all : ((reportTexts hostileReport.document hostileReport.findings).all fun text => encodable text) = true := by
      decide +kernel
    exact fun text listed => List.all_eq_true.mp all text listed
  severities := ⟨.nil, fun _ none => absurd none List.not_mem_nil⟩
  lifecycles := ⟨.nil, fun _ none => absurd none List.not_mem_nil⟩
  explanations := by
    intro e listed members given
    cases List.mem_singleton.mp listed
    cases given
    refine objectReadable (by decide) (by decide) fun member inside => ?_
    have all : (hostileExplanation.all fun member => (Json.asStr? member.2).any encodable) = true := by decide +kernel
    have text := List.all_eq_true.mp all member inside
    obtain ⟨key, value⟩ := member
    cases value with
    | str s =>
      rw [Readable]
      exact encodableUnpaired text
    | _ => cases text
  assessed := fun _ none => by cases none

end ReportExports
end SentinelGpt
