import SentinelGpt.AnalysisModels
import SentinelGpt.LifecycleHistory
import SentinelGpt.ReportFaithfulness

/-! The comparison of two scans of a target, beside what the later of them has recorded. -/
namespace SentinelGpt
open ReadCommitted LoopDict

namespace ScanComparison

structure CompareDto where
  id : PyStr
  fingerprint : PyStr
  title : PyStr
  deriving DecidableEq, Repr

structure Comparison where
  new : List CompareDto
  persistent : List CompareDto
  resolved : List CompareDto
  regressed : List CompareDto
  deriving DecidableEq, Repr

/- A fingerprint that is NULL or empty is left out. -/
def indexEntry (f : ScanFinding) : Option (PyStr × Nat × PyStr) :=
  match f.fingerprint with
  | none => none
  | some fp => if fp.isEmpty then none else some (fp, f.id, f.title)

def fingerprintIndex (db : Db) (scanId : Nat) : List (PyStr × Nat × PyStr) :=
  ofEntries ((db.findings.filter fun f => f.scanId == some scanId).filterMap indexEntry)

def fingerprintsWithStatus (db : Db) (targetId : Nat) (fingerprints : List PyStr) (status : LifecycleStatus) :
    List PyStr :=
  ((db.history.filter fun row => row.targetId == targetId && row.status == status &&
    fingerprints.contains row.fingerprint).map FindingStatusHistory.fingerprint).filter fun fp => !fp.isEmpty

def toCompareDtos (fps : List PyStr) (source : List (PyStr × Nat × PyStr)) : Except PyError (List CompareDto) :=
  (sortedStr fps).mapM fun fp => match source.lookup fp with
    | none => .error .keyError
    | some (id, title) => .ok ⟨uuidText id, fp, title⟩

def compareScans (db : Db) (principal scanA scanB : Nat) : Except PyError Comparison := do
  let a ← FindingExplanation.getVisibleScan db principal scanA
  let b ← FindingExplanation.getVisibleScan db principal scanB
  if a.targetId != b.targetId then .error .invalidScanStateError
  else
    let aMap := fingerprintIndex db a.id
    let bMap := fingerprintIndex db b.id
    let aFps := aMap.map Prod.fst
    let bFps := bMap.map Prod.fst
    let candidates := bFps.filter fun fp => !aFps.contains fp
    let historyResolved := fingerprintsWithStatus db a.targetId candidates .resolved
    return {
      new := ← toCompareDtos (candidates.filter fun fp => !historyResolved.contains fp) bMap
      persistent := ← toCompareDtos (aFps.filter fun fp => bFps.contains fp) bMap
      resolved := ← toCompareDtos (aFps.filter fun fp => !bFps.contains fp) aMap
      regressed := ← toCompareDtos (candidates.filter fun fp => historyResolved.contains fp) bMap }

def Comparison.bucket (c : Comparison) : LifecycleStatus → List PyStr
  | .new => c.new.map CompareDto.fingerprint
  | .persistent => c.persistent.map CompareDto.fingerprint
  | .resolved => c.resolved.map CompareDto.fingerprint
  | .regressed => c.regressed.map CompareDto.fingerprint

def Comparison.Agrees (c : Comparison) (rows : List FindingStatusHistory) : Prop :=
  ∀ fp status, fp ∈ c.bucket status ↔ ∃ row ∈ rows, row.fingerprint = fp ∧ row.status = status

section Buckets
variable {db : Db} {s : Nat}

theorem memIndex {fp : PyStr} : fp ∈ (fingerprintIndex db s).map Prod.fst ↔ fp ∈ db.fingerprintsForScan s := by
  rw [fingerprintIndex, ofEntriesKeys, Db.fingerprintsForScan]
  simp only [List.mem_map, List.mem_filterMap, List.mem_filter]
  constructor
  · rintro ⟨⟨key, id, title⟩, ⟨f, stored, entry⟩, rfl⟩
    unfold indexEntry at entry
    split at entry
    · cases entry
    · rename_i print given
      split at entry
      · cases entry
      · rename_i some
        cases entry
        exact ⟨⟨f, stored, given⟩, by simpa using some⟩
  · rintro ⟨⟨f, stored, given⟩, some⟩
    refine ⟨(fp, f.id, f.title), ⟨f, stored, ?_⟩, rfl⟩
    unfold indexEntry
    rw [given]
    exact if_neg (by simpa using some)

theorem dtosFingerprints {fps : List PyStr} {source : List (PyStr × Nat × PyStr)} {dtos : List CompareDto}
    (made : toCompareDtos fps source = .ok dtos) : dtos.map CompareDto.fingerprint = sortedStr fps := by
  have same : dtos.map CompareDto.fingerprint = (sortedStr fps).map id := by
    refine mapMOk (fun key dto ok => ?_) made
    split at ok
    · cases ok
    · cases ok
      rfl
  rw [same, List.map_id]

theorem dtosShow {fps : List PyStr} {source : List (PyStr × Nat × PyStr)} {dtos : List CompareDto}
    (made : toCompareDtos fps source = .ok dtos) (fp : PyStr) :
    fp ∈ dtos.map CompareDto.fingerprint ↔ fp ∈ fps := by
  rw [dtosFingerprints made, memSortedStr]

theorem dtosNodup {fps : List PyStr} {source : List (PyStr × Nat × PyStr)} {dtos : List CompareDto}
    (made : toCompareDtos fps source = .ok dtos) (distinct : fps.Nodup) :
    (dtos.map CompareDto.fingerprint).Nodup := by
  rw [dtosFingerprints made]
  exact (List.perm_insertionSort _ fps).nodup_iff.mpr distinct

theorem memResolved {targetId : Nat} {fps : List PyStr} {fp : PyStr} (some : fp ≠ []) :
    fp ∈ fingerprintsWithStatus db targetId fps .resolved ↔
      fp ∈ fps ∧ ∃ row ∈ db.historyOf targetId fp, row.status = .resolved := by
  have filled : (!fp.isEmpty) = true := by
    cases fp with
    | nil => exact absurd rfl some
    | cons c rest => rfl
  simp only [fingerprintsWithStatus, Db.historyOf, List.mem_filter, List.mem_map, Bool.and_eq_true, beq_iff_eq,
    List.contains_iff_mem, filled, and_true]
  constructor
  · rintro ⟨row, ⟨stored, ⟨target, status⟩, listed⟩, rfl⟩
    exact ⟨listed, row, ⟨stored, target, rfl⟩, status⟩
  · rintro ⟨listed, row, ⟨stored, target, rfl⟩, status⟩
    exact ⟨row, ⟨stored, ⟨target, status⟩, listed⟩, rfl⟩

/- What a comparison says of a fingerprint: what would be derived if it had been resolved last,
where any row of the target has it resolved. -/
def comparedStatus (db : Db) (targetId a b : Nat) (fp : PyStr) : Option LifecycleStatus :=
  deriveLifecycleStatus ((db.fingerprintsForScan b).contains fp) ((db.fingerprintsForScan a).contains fp)
    (if (db.historyOf targetId fp).any fun row => row.status == .resolved then some .resolved else none)

theorem visibleScan {user scanId : Nat} {scan : Scan} (visible : FindingExplanation.getVisibleScan db user scanId = .ok scan) :
    db.scan? scanId = some scan := by
  unfold FindingExplanation.getVisibleScan at visible
  split at visible
  · cases visible
  · rename_i found
    split at visible
    · cases visible
    · cases visible
      exact found

theorem fingerprintSome {fp : PyStr} (found : fp ∈ db.fingerprintsForScan s) : fp ≠ [] := by
  have filled := (List.mem_filter.mp found).2
  rintro rfl
  cases filled

theorem derivedCases (inB inA before : Bool) :
    let status := deriveLifecycleStatus inB inA (if before then some .resolved else none)
    (status = some .new ↔ inB = true ∧ inA = false ∧ (!before) = true) ∧
      (status = some .persistent ↔ inA = true ∧ inB = true) ∧ (status = some .resolved ↔ inA = true ∧ (!inB) = true) ∧
      (status = some .regressed ↔ inB = true ∧ inA = false ∧ before = true) := by
  revert inB inA before
  decide

theorem mapMMade {α β ε : Type} {f : α → Except ε β} {items : List α} (each : ∀ a ∈ items, ∃ b, f a = .ok b) :
    ∃ results, items.mapM f = .ok results := by
  induction items with
  | nil => exact ⟨[], List.mapM_nil⟩
  | cons a rest ih =>
    obtain ⟨b, first⟩ := each a List.mem_cons_self
    obtain ⟨bs, others⟩ := ih fun c member => each c (List.mem_cons_of_mem a member)
    refine ⟨b :: bs, ?_⟩
    rw [List.mapM_cons, first, others]
    rfl

theorem bindMade {α β ε : Type} {x : Except ε α} {f : α → Except ε β} (first : ∃ a, x = .ok a)
    (then_ : ∀ a, x = .ok a → ∃ b, f a = .ok b) : ∃ b, (x >>= f) = .ok b := by
  obtain ⟨a, rfl⟩ := first
  exact then_ a rfl

theorem dtosMade {fps : List PyStr} {source : List (PyStr × Nat × PyStr)}
    (listed : ∀ fp ∈ fps, fp ∈ source.map Prod.fst) : ∃ dtos, toCompareDtos fps source = .ok dtos := by
  refine mapMMade fun fp member => ?_
  have there : (source.lookup fp).isSome = true := by
    rw [List.lookup_isSome_iff]
    simpa using listed fp (memSortedStr.mp member)
  obtain ⟨⟨id, title⟩, found⟩ := Option.isSome_iff_exists.mp there
  rw [found]
  exact ⟨_, rfl⟩

theorem comparisonMade {user a b : Nat} {scanA scanB : Scan}
    (visibleA : FindingExplanation.getVisibleScan db user a = .ok scanA)
    (visibleB : FindingExplanation.getVisibleScan db user b = .ok scanB) (target : scanA.targetId = scanB.targetId) :
    ∃ c, compareScans db user a b = .ok c := by
  unfold compareScans
  refine bindMade ⟨scanA, visibleA⟩ fun _ same => ?_
  cases visibleA.symm.trans same
  refine bindMade ⟨scanB, visibleB⟩ fun _ same => ?_
  cases visibleB.symm.trans same
  rw [if_neg (by simp [target])]
  refine bindMade (dtosMade fun fp member => ?_) fun new _ => ?_
  · exact (List.mem_filter.mp (List.mem_filter.mp member).1).1
  refine bindMade (dtosMade fun fp member => ?_) fun persistent _ => ?_
  · exact List.contains_iff_mem.mp (List.mem_filter.mp member).2
  refine bindMade (dtosMade fun fp member => ?_) fun resolved _ => ?_
  · exact (List.mem_filter.mp member).1
  refine bindMade (dtosMade fun fp member => ?_) fun regressed _ => ⟨_, rfl⟩
  exact (List.mem_filter.mp (List.mem_filter.mp member).1).1

theorem comparisonShows {user a b : Nat} {c : Comparison} (compared : compareScans db user a b = .ok c) :
    ∃ scanA scanB, db.scan? a = some scanA ∧ db.scan? b = some scanB ∧ scanA.targetId = scanB.targetId ∧
      ∀ fp status, fp ∈ c.bucket status ↔ comparedStatus db scanA.targetId a b fp = some status := by
  unfold compareScans at compared
  obtain ⟨scanA, visibleA, compared⟩ := bindOk compared
  obtain ⟨scanB, visibleB, compared⟩ := bindOk compared
  have foundA := visibleScan visibleA
  have foundB := visibleScan visibleB
  split at compared
  · cases compared
  · rename_i target
    rw [scanIdOf foundA, scanIdOf foundB] at compared
    obtain ⟨new, newMade, compared⟩ := bindOk compared
    obtain ⟨persistent, persistentMade, compared⟩ := bindOk compared
    obtain ⟨resolved, resolvedMade, compared⟩ := bindOk compared
    obtain ⟨regressed, regressedMade, compared⟩ := bindOk compared
    cases compared
    refine ⟨scanA, scanB, foundA, foundB, by simpa using target, fun fp status => ?_⟩
    have inA : ((fingerprintIndex db a).map Prod.fst).contains fp = (db.fingerprintsForScan a).contains fp := by
      rw [Bool.eq_iff_iff, List.contains_iff_mem, List.contains_iff_mem, memIndex]
    have inB : ((fingerprintIndex db b).map Prod.fst).contains fp = (db.fingerprintsForScan b).contains fp := by
      rw [Bool.eq_iff_iff, List.contains_iff_mem, List.contains_iff_mem, memIndex]
    have listedA : fp ∈ (fingerprintIndex db a).map Prod.fst ↔ (db.fingerprintsForScan a).contains fp = true := by
      rw [memIndex, List.contains_iff_mem]
    have listedB : fp ∈ (fingerprintIndex db b).map Prod.fst ↔ (db.fingerprintsForScan b).contains fp = true := by
      rw [memIndex, List.contains_iff_mem]
    -- Whether the fingerprint has been resolved is asked for candidates alone.
    have inHistory : ∀ candidates : List PyStr, fp ∈ candidates → fp ≠ [] →
        (fingerprintsWithStatus db scanA.targetId candidates .resolved).contains fp =
          (db.historyOf scanA.targetId fp).any fun row => row.status == .resolved := by
      intro candidates listed some
      rw [Bool.eq_iff_iff, List.contains_iff_mem, memResolved some, List.any_eq_true]
      simp only [listed, true_and, beq_iff_eq]
    have candidate : ∀ keep : PyStr → Bool, fp ∈ (((fingerprintIndex db b).map Prod.fst).filter fun fp =>
        !((fingerprintIndex db a).map Prod.fst).contains fp).filter keep ↔
          (db.fingerprintsForScan b).contains fp = true ∧ (db.fingerprintsForScan a).contains fp = false ∧ keep fp = true := by
      intro keep
      rw [List.mem_filter, List.mem_filter, listedB, inA, Bool.not_eq_true', and_assoc]
    have resolvedBefore : ∀ flag : Bool, (db.fingerprintsForScan b).contains fp = true ∧
        (db.fingerprintsForScan a).contains fp = false ∧
          ((fingerprintsWithStatus db scanA.targetId (((fingerprintIndex db b).map Prod.fst).filter fun fp =>
            !((fingerprintIndex db a).map Prod.fst).contains fp) .resolved).contains fp == flag) = true ↔
        (db.fingerprintsForScan b).contains fp = true ∧ (db.fingerprintsForScan a).contains fp = false ∧
          (((db.historyOf scanA.targetId fp).any fun row => row.status == .resolved) == flag) = true := by
      intro flag
      refine and_congr_right fun there => and_congr_right fun gone => ?_
      rw [inHistory _ ?_ (fingerprintSome (List.contains_iff_mem.mp there))]
      rw [List.mem_filter, listedB, inA, gone]
      exact ⟨there, rfl⟩
    unfold comparedStatus
    cases status with
    | new =>
      refine (dtosShow newMade fp).trans ((candidate _).trans ?_)
      have flag := resolvedBefore false
      rw [beq_false, beq_false] at flag
      exact flag.trans (derivedCases _ _ _).1.symm
    | persistent =>
      refine (dtosShow persistentMade fp).trans ?_
      rw [List.mem_filter, listedA, inB]
      exact (derivedCases _ _ _).2.1.symm
    | resolved =>
      refine (dtosShow resolvedMade fp).trans ?_
      rw [List.mem_filter, listedA, inB]
      exact (derivedCases _ _ _).2.2.1.symm
    | regressed =>
      refine (dtosShow regressedMade fp).trans ((candidate _).trans ?_)
      have flag := resolvedBefore true
      rw [beq_true, beq_true] at flag
      exact flag.trans (derivedCases _ _ _).2.2.2.symm

theorem bucketNodup {user a b : Nat} {c : Comparison} (compared : compareScans db user a b = .ok c)
    (status : LifecycleStatus) : (c.bucket status).Nodup := by
  unfold compareScans at compared
  obtain ⟨scanA, -, compared⟩ := bindOk compared
  obtain ⟨scanB, -, compared⟩ := bindOk compared
  split at compared
  · cases compared
  · obtain ⟨new, newMade, compared⟩ := bindOk compared
    obtain ⟨persistent, persistentMade, compared⟩ := bindOk compared
    obtain ⟨resolved, resolvedMade, compared⟩ := bindOk compared
    obtain ⟨regressed, regressedMade, compared⟩ := bindOk compared
    cases compared
    have keys : ∀ s, ((fingerprintIndex db s).map Prod.fst).Nodup := fun s => ofEntriesNodup _
    cases status with
    | new => exact dtosNodup newMade (((keys _).filter _).filter _)
    | persistent => exact dtosNodup persistentMade ((keys _).filter _)
    | resolved => exact dtosNodup resolvedMade ((keys _).filter _)
    | regressed => exact dtosNodup regressedMade (((keys _).filter _).filter _)

structure Comparison.Partitions (c : Comparison) (a b : List PyStr) : Prop where
  distinct : ∀ status, (c.bucket status).Nodup
  disjoint : ∀ status other, status ≠ other → (c.bucket status).Disjoint (c.bucket other)
  covers : ∀ fp, (∃ status, fp ∈ c.bucket status) ↔ fp ∈ a ∨ fp ∈ b
  appeared : ∀ fp, fp ∈ c.bucket .new ∨ fp ∈ c.bucket .regressed ↔ fp ∈ b ∧ fp ∉ a
  common : ∀ fp, fp ∈ c.bucket .persistent ↔ fp ∈ a ∧ fp ∈ b
  gone : ∀ fp, fp ∈ c.bucket .resolved ↔ fp ∈ a ∧ fp ∉ b

theorem partitions {user a b : Nat} {c : Comparison} (compared : compareScans db user a b = .ok c) :
    c.Partitions (db.fingerprintsForScan a) (db.fingerprintsForScan b) := by
  obtain ⟨scanA, scanB, -, -, -, shows⟩ := comparisonShows compared
  have derived := fun fp => derivedCases ((db.fingerprintsForScan b).contains fp)
    ((db.fingerprintsForScan a).contains fp)
    ((db.historyOf scanA.targetId fp).any fun row => row.status == .resolved)
  simp only [List.contains_iff_mem, Bool.not_eq_true', ← Bool.not_eq_true] at derived
  have appeared : ∀ fp, fp ∈ c.bucket .new ∨ fp ∈ c.bucket .regressed ↔
      fp ∈ db.fingerprintsForScan b ∧ fp ∉ db.fingerprintsForScan a := by
    intro fp
    obtain ⟨new, -, -, regressed⟩ := derived fp
    rw [shows, shows, comparedStatus, new, regressed, ← and_or_left, ← and_or_left]
    exact and_congr_right fun _ => and_iff_left (Classical.em _).symm
  have common : ∀ fp, fp ∈ c.bucket .persistent ↔ fp ∈ db.fingerprintsForScan a ∧ fp ∈ db.fingerprintsForScan b :=
    fun fp => (shows fp .persistent).trans (derived fp).2.1
  have gone : ∀ fp, fp ∈ c.bucket .resolved ↔ fp ∈ db.fingerprintsForScan a ∧ fp ∉ db.fingerprintsForScan b :=
    fun fp => (shows fp .resolved).trans (derived fp).2.2.1
  refine ⟨bucketNodup compared, fun status other differ fp first second => ?_, fun fp => ?_, appeared, common, gone⟩
  · rw [shows] at first second
    exact differ (Option.some.inj (first.symm.trans second))
  · have each : (∃ status, fp ∈ c.bucket status) ↔ (fp ∈ c.bucket .new ∨ fp ∈ c.bucket .regressed) ∨
        fp ∈ c.bucket .persistent ∨ fp ∈ c.bucket .resolved := by
      constructor
      · rintro ⟨status, there⟩
        cases status with
        | new => exact .inl (.inl there)
        | persistent => exact .inr (.inl there)
        | resolved => exact .inr (.inr there)
        | regressed => exact .inl (.inr there)
      · rintro ((there | there) | there | there) <;> exact ⟨_, there⟩
    rw [each, appeared, common, gone]
    tauto

/- Two scans of one target that the caller may see are compared either way, and each comparison
partitions the fingerprints of both. -/
theorem comparisonPartitions {user a b : Nat} {scanA scanB : Scan}
    (visibleA : FindingExplanation.getVisibleScan db user a = .ok scanA)
    (visibleB : FindingExplanation.getVisibleScan db user b = .ok scanB) (target : scanA.targetId = scanB.targetId) :
    ∃ c c', compareScans db user a b = .ok c ∧ compareScans db user b a = .ok c' ∧
      c.Partitions (db.fingerprintsForScan a) (db.fingerprintsForScan b) ∧
      (∀ fp, fp ∈ c'.bucket .resolved ↔ fp ∈ c.bucket .new ∨ fp ∈ c.bucket .regressed) ∧
      ∀ fp, fp ∈ c.bucket .resolved ↔ fp ∈ c'.bucket .new ∨ fp ∈ c'.bucket .regressed := by
  obtain ⟨c, made⟩ := comparisonMade visibleA visibleB target
  obtain ⟨c', made'⟩ := comparisonMade visibleB visibleA target.symm
  have forth := partitions made
  have back := partitions made'
  exact ⟨c, c', made, made', forth, fun fp => (back.gone fp).trans (forth.appeared fp).symm,
    fun fp => (forth.gone fp).trans (back.appeared fp).symm⟩

end Buckets

def partedFinding (id scanId : Nat) (fingerprint : Option PyStr) : ScanFinding where
  id := id
  executionId := scanId
  categoryId := 1
  severityId := 1
  title := py "t"
  description := []
  evidence := []
  location := []
  recommendation := []
  fingerprint := fingerprint
  targetId := some 1
  scanId := some scanId
  sourceEngineCode := none
  affectedAsset := none

def partedDb : Db :=
  { queuedDb with
    scans := [queuedScan 1 none, queuedScan 2 none]
    findings := [partedFinding 1 1 (some (py "a")), partedFinding 2 1 (some (py "b")),
      partedFinding 3 2 (some (py "b")), partedFinding 4 2 (some (py "c")), partedFinding 5 2 none,
      partedFinding 6 2 (some (py "d")), partedFinding 7 2 (some (py "d"))]
    history := [⟨py "d", 1, .resolved, 1, 0⟩] }

theorem partedPartitions : ∃ c c', compareScans partedDb 1 1 2 = .ok c ∧ compareScans partedDb 1 2 1 = .ok c' ∧
    c.Partitions [py "a", py "b"] [py "b", py "c", py "d", py "d"] ∧ py "d" ∈ c'.bucket .resolved := by
  obtain ⟨c, c', made, made', parts, appeared, -⟩ := @comparisonPartitions partedDb 1 1 2 (queuedScan 1 none)
    (queuedScan 2 none) rfl rfl rfl
  refine ⟨c, c', made, made', parts, (appeared _).mpr ((parts.appeared _).mpr ?_)⟩
  decide

section Derived
variable {env : Env} {scan : Scan} {current previous : List PyStr} {latest : PyStr → Option LifecycleStatus}

theorem rowsRecord (fp : PyStr) (status : LifecycleStatus) :
    (∃ row ∈ lifecycleRows env scan current previous latest, row.fingerprint = fp ∧ row.status = status) ↔
      derivedFor current previous latest fp = some status := by
  constructor
  · rintro ⟨row, member, rfl, rfl⟩
    exact (memRecorded env scan current previous latest member).2.2.2
  · intro derived
    have considered : fp ∈ current ++ previous := by
      have some : (derivedFor current previous latest fp).isSome = true := by rw [derived]; rfl
      rw [derivedFor, derivedSomeIff] at some
      simpa using some
    have statuses := recordedStatuses env scan current previous latest fp
    rw [if_pos considered, derived, Option.toList_some] at statuses
    obtain ⟨row, only, same⟩ := List.map_eq_singleton_iff.mp statuses
    have member : row ∈ (lifecycleRows env scan current previous latest).filter fun r => r.fingerprint == fp := by
      rw [only]
      exact List.mem_singleton_self row
    obtain ⟨recorded, named⟩ := List.mem_filter.mp member
    exact ⟨row, recorded, beq_iff_eq.mp named, same⟩

theorem derivedSame {inCurrent inA inPrevious resolved : Bool} {last : Option LifecycleStatus}
    (known : (inCurrent || inPrevious) = true → last = some .resolved → resolved = true) :
    deriveLifecycleStatus inCurrent inA (if resolved then some .resolved else none) =
        deriveLifecycleStatus inCurrent inPrevious last ↔
      inA = inPrevious ∧ (deriveLifecycleStatus inCurrent inPrevious last = some .new → resolved = false) := by
  by_cases was : last = some .resolved
  · subst was
    have known := fun found => known found rfl
    revert inCurrent inA inPrevious resolved
    decide
  · have other : deriveLifecycleStatus inCurrent inPrevious last = deriveLifecycleStatus inCurrent inPrevious none := by
      unfold deriveLifecycleStatus
      rw [if_neg was]
      rfl
    rw [other]
    clear known other
    revert inCurrent inA inPrevious resolved
    decide

end Derived

section Runs
variable {requests : List Request} {store : Db} {trace before after : Trace} {t : System Db Write Site PyError}
  {i : Nat} {e : Event Db Write Site}

theorem historyStays {earlier later : Trace} {u : System Db Write Site PyError}
    (run : Run scanRows (requested requests store) (earlier ++ later) t)
    (ran : Run scanRows (requested requests store) earlier u) : ∀ row ∈ u.store.history, row ∈ t.store.history := by
  intro row member
  obtain ⟨more, grown⟩ := committedGrows earlier later
  have stored : t.store = seen store (committed (earlier ++ later)) := storeCommitted run
  have before : u.store = seen store (committed earlier) := storeCommitted ran
  rw [stored, ← grown, ← seenAppend, ← before, historySeen]
  exact List.mem_append_left _ member

theorem knownResolved (run : Run scanRows (requested requests store) trace t)
    (split : trace = before ++ (i, e) :: after) {scan : Scan} {fps : List PyStr}
    {latest : PyStr → Option LifecycleStatus} (knows : Knows scan (own i before) fps latest) {fp : PyStr}
    (considered : fp ∈ fps) (resolved : latest fp = some .resolved) :
    ∃ row ∈ t.store.historyOf scan.targetId fp, row.status = .resolved := by
  cases knows with
  | nothing empty =>
    rw [empty] at considered
    cases considered
  | @read pre post db splits none =>
    obtain ⟨earlier, later, whole, rfl, -⟩ := ownSplit splits
    have place : trace = earlier ++ (i, .exec .latestStatus db []) :: (later ++ (i, e) :: after) := by
      rw [split, whole, List.append_assoc]
      rfl
    obtain ⟨u, ran, view⟩ := viewAt run place
    have same : db.history = u.store.history := by
      have here : db = seen u.store (staged (own i earlier)) := view
      have silent : (staged (own i earlier)).flatMap Write.newHistory = [] := by
        refine List.flatMap_eq_nil_iff.mpr fun w member => ?_
        cases w with
        | insertHistory rows => exact absurd member (none rows)
        | _ => rfl
      rw [here, historySeen, silent, List.append_nil]
    obtain ⟨row, best, status⟩ := Option.map_eq_some_iff.mp resolved
    obtain ⟨stored, ours⟩ := List.mem_filter.mp (newestSpec best).1
    rw [same] at stored
    rw [place] at run
    exact ⟨row, List.mem_filter.mpr ⟨historyStays run ran row stored, ours⟩, status⟩

/- The lifecycle rows of a scan have been recorded against what its job read of another. -/
inductive RecordedAgainst (requests : List Request) (trace : Trace) (db : Db) (b : Nat) (compared : Option Nat)
    (previous : List PyStr) : Prop where
  | recorded {i : Nat} {before after : Trace} {env : Env} {scan : Scan} {read : Db}
      {latest : PyStr → Option LifecycleStatus} (split : trace = before ++ (i, .commit .aiCommit) :: after)
      (on : scanOf requests i = some b)
      (loaded : .exec .getScan read [] ∈ own i before ∧ read.scan? b = some scan)
      (compares : Compares scan (own i before) compared previous)
      (knows : Knows scan (own i before) (db.fingerprintsForScan b ++ previous) latest)
      (rows : db.observedIn b = lifecycleRows env scan (db.fingerprintsForScan b) previous latest)

theorem completionAgainst {b : Nat} (linked : store.Linked) (start : ¬ store.HasResults b)
    (run : Run scanRows (requested requests store) trace t) (keyed : t.store.Keyed)
    (split : trace = before ++ (i, .commit .aiCommit) :: after) (on : scanOf requests i = some b) :
    ∃ compared previous, RecordedAgainst requests trace t.store b compared previous := by
  obtain ⟨u, v, r, completes, next, stored⟩ := committedAt run split
  have here : r.scan? = some b := by
    rw [scanOf, completes.found, Option.bind_some] at on
    exact on
  have whole : trace = before ++ [(i, .commit .aiCommit)] ++ after := by
    rw [split, List.append_assoc]
    rfl
  rw [whole] at run
  have keyed : u.store.Keyed := by
    obtain ⟨more, grown⟩ := committedGrows (before ++ [(i, .commit .aiCommit)]) after
    have last : t.store = seen store (committed (before ++ [(i, .commit .aiCommit)] ++ after)) := storeCommitted run
    have first : v.store = seen store (committed (before ++ [(i, .commit .aiCommit)])) := storeCommitted next
    rw [last, ← grown, ← seenAppend, ← first, stored] at keyed
    exact keyedBefore (keyedBefore keyed)
  have completions := completionsRun linked start completes.run keyed
  obtain ⟨scan, read, compared, previous, latest, loaded, compares, knows, rows⟩ :=
    completionRows completes here (uncompleted completes here completions.results)
  rw [← stored] at knows rows
  have kept : t.store.foundIn b = v.store.foundIn b ∧ t.store.observedIn b = v.store.observedIn b := by
    refine commitsAfter (I := fun db => db.foundIn b = v.store.foundIn b ∧ db.observedIn b = v.store.observedIn b)
      next ⟨rfl, rfl⟩ ?_ run
    rintro front w k r' site committed' - ⟨found, observed⟩
    have other : r'.scan? = some b → site ≠ .aiCommit := by
      intro on' again
      subst again
      refine completesOnce committed' on' on ?_
      rw [ownAppend, commitsAppend, ownSnoc, if_pos rfl, commitsCommit]
      exact List.mem_append_left _ (List.mem_append_right _ (List.mem_singleton_self _))
    obtain ⟨found', observed'⟩ := recordsStay committed' other
    exact ⟨found'.trans found, observed'.trans observed⟩
  rw [fingerprintsFound, ← kept.1, ← fingerprintsFound] at knows rows
  rw [← kept.2] at rows
  exact ⟨compared, previous, .recorded split on loaded compares knows rows⟩

/- A comparison with the scan before agrees with what is recorded exactly when that scan still
has the fingerprints that were read, and nothing recorded as new is ever resolved. -/
theorem agreesIff (run : Run scanRows (requested requests store) trace t) {user a b : Nat}
    {previous : List PyStr} {c : Comparison}
    (against : RecordedAgainst requests trace t.store b (some a) previous)
    (compared : compareScans t.store user a b = .ok c) :
    c.Agrees (t.store.observedIn b) ↔
      (∀ fp, fp ∈ t.store.fingerprintsForScan a ↔ fp ∈ previous) ∧
        ∀ row ∈ t.store.observedIn b, row.status = .new →
          ∀ r ∈ t.store.historyOf row.targetId row.fingerprint, r.status ≠ .resolved := by
  cases against with
  | @recorded i before after env scan read latest split on loaded compares knows rows =>
    obtain ⟨scanA, scanB, foundA, foundB, target, shows⟩ := comparisonShows compared
    have member : .exec .getScan read [] ∈ own i trace := by
      rw [split, ownAppend]
      exact List.mem_append_left _ loaded.1
    have targeted : scanA.targetId = scan.targetId := by
      have known := loadedTarget run on member loaded.2
      rw [Db.targetOf, foundB] at known
      rw [target, Option.some.inj known]
    rw [targeted] at shows
    have each : ∀ fp, comparedStatus t.store scan.targetId a b fp =
        derivedFor (t.store.fingerprintsForScan b) previous latest fp ↔
          (t.store.fingerprintsForScan a).contains fp = previous.contains fp ∧
            (derivedFor (t.store.fingerprintsForScan b) previous latest fp = some .new →
              ((t.store.historyOf scan.targetId fp).any fun row => row.status == .resolved) = false) := by
      intro fp
      refine derivedSame fun considered resolved => ?_
      have listed : fp ∈ t.store.fingerprintsForScan b ++ previous := by simpa using considered
      obtain ⟨row, there, status⟩ := knownResolved run split knows listed resolved
      exact List.any_eq_true.mpr ⟨row, there, beq_iff_eq.mpr status⟩
    have recorded : ∀ fp status, (∃ row ∈ t.store.observedIn b, row.fingerprint = fp ∧ row.status = status) ↔
        derivedFor (t.store.fingerprintsForScan b) previous latest fp = some status := by
      rw [rows]
      exact rowsRecord
    have agrees : c.Agrees (t.store.observedIn b) ↔ ∀ fp, comparedStatus t.store scan.targetId a b fp =
        derivedFor (t.store.fingerprintsForScan b) previous latest fp := by
      refine forall_congr' fun fp => ?_
      rw [Option.ext_iff]
      refine forall_congr' fun status => ?_
      rw [shows, recorded]
    rw [agrees]
    simp only [each, forall_and]
    refine and_congr (forall_congr' fun fp => ?_) ⟨fun never row there new r past resolved => ?_, fun never fp new => ?_⟩
    · rw [Bool.eq_iff_iff, List.contains_iff_mem, List.contains_iff_mem]
    · have derived := (recorded row.fingerprint .new).mp ⟨row, there, rfl, new⟩
      have ours : row.targetId = scan.targetId := by
        rw [rows] at there
        exact (memRecorded _ _ _ _ _ there).1
      have none := never row.fingerprint derived
      rw [List.any_eq_false] at none
      rw [ours] at past
      exact none r past (beq_iff_eq.mpr resolved)
    · obtain ⟨row, there, rfl, status⟩ := (recorded fp .new).mpr new
      have ours : row.targetId = scan.targetId := by
        rw [rows] at there
        exact (memRecorded _ _ _ _ _ there).1
      rw [List.any_eq_false]
      intro r past resolved
      rw [← ours] at past
      exact never row there status r past (beq_iff_eq.mp resolved)

/- Whenever a chain is completed, the comparison of its scan with the one it was recorded against
is made for whoever may see both, and agrees under that condition. -/
theorem comparisonAgreesIff {b : Nat} (linked : store.Linked) (start : ¬ store.HasResults b)
    (run : Run scanRows (requested requests store) trace t) (keyed : t.store.Keyed)
    (split : trace = before ++ (i, .commit .aiCommit) :: after) (on : scanOf requests i = some b) :
    ∃ compared previous, RecordedAgainst requests trace t.store b compared previous ∧
      ∀ user a scanA scanB, compared = some a →
        FindingExplanation.getVisibleScan t.store user a = .ok scanA →
        FindingExplanation.getVisibleScan t.store user b = .ok scanB → scanA.targetId = scanB.targetId →
        ∃ c, compareScans t.store user a b = .ok c ∧
          (c.Agrees (t.store.observedIn b) ↔
            (∀ fp, fp ∈ t.store.fingerprintsForScan a ↔ fp ∈ previous) ∧
              ∀ row ∈ t.store.observedIn b, row.status = .new →
                ∀ r ∈ t.store.historyOf row.targetId row.fingerprint, r.status ≠ .resolved) := by
  obtain ⟨compared, previous, against⟩ := completionAgainst linked start run keyed split on
  refine ⟨compared, previous, against, ?_⟩
  rintro user a scanA scanB rfl visibleA visibleB target
  obtain ⟨c, made⟩ := comparisonMade visibleA visibleB target
  exact ⟨c, made, agreesIff run against made⟩

end Runs

/-! A scan and a later one that names it as its parent, with the same finding in both or in the
later one alone; a third scan that finds nothing resolves it. -/

def comparedDb : Db :=
  { queuedDb with scans := [queuedScan 1 none, queuedScan 2 (some 1), queuedScan 3 none] }

def foundAgain : List Request := [.task (envOf 1 missingHstsResult) 1, .task (envOf 2 missingHstsResult) 2]

def resolvedLater : List Request :=
  [.task (envOf 1 answeredResult) 1, .task (envOf 2 missingHstsResult) 2, .task (envOf 3 answeredResult) 3]

theorem comparedLinked : comparedDb.Linked := ⟨by simp [comparedDb, queuedDb], by simp [comparedDb, queuedDb]⟩

theorem comparedWithoutResults (s : Nat) : ¬ comparedDb.HasResults s := by
  rintro (⟨stored, -⟩ | ⟨stored, -⟩ | ⟨stored, -, -⟩ | ⟨stored, -⟩) <;> exact absurd stored List.not_mem_nil

def comparedWith (events : Trace) (b a : Nat) (previous : List PyStr) : Bool :=
  events.all fun (_, e) => match e with
    | .exec .getScan db _ => (db.scan? b).all fun scan => scan.parentScanId == some a
    | .exec .previousFingerprints db _ => db.fingerprintsForScan a == previous
    | _ => true

theorem comparedIs {requests : List Request} {trace : Trace} {db : Db} {b a : Nat} {compared : Option Nat}
    {previous read : List PyStr} (checked : comparedWith trace b a previous = true)
    (against : RecordedAgainst requests trace db b compared read) : compared = some a ∧ read = previous := by
  have each := List.all_eq_true.mp checked
  cases against with
  | @recorded i before after env scan view latest split on loaded compares knows rows =>
    have placed : ∀ e ∈ own i before, (i, e) ∈ trace := fun e member => by
      rw [split]
      exact List.mem_append_left _ (memOwn.mp member)
    have parent := each _ (placed _ loaded.1)
    simp only [loaded.2, Option.all_some, beq_iff_eq] at parent
    have selected : ∀ chosen, Selects scan (own i before) chosen → chosen = some a := by
      intro chosen selects
      cases selects with
      | parent given => exact given.symm.trans parent
      | recent orphan read => rw [orphan] at parent; cases parent
    cases compares with
    | none selects => cases selected _ selects
    | some selects read =>
      cases selected _ selects
      exact ⟨rfl, beq_iff_eq.mp (each _ (placed _ read))⟩

theorem completionPlaced {trace : Trace} {i : Nat} (done : (commits (own i trace)).contains .aiCommit = true) :
    ∃ before after, trace = before ++ (i, .commit .aiCommit) :: after :=
  List.append_of_mem (memOwn.mp (memCommits.mp (List.contains_iff_mem.mp done)))

def compared (db : Db) (a b : Nat) : Option Comparison :=
  match compareScans db 1 a b with
  | .ok c => some c
  | .error _ => none

theorem comparedOk {db : Db} {a b : Nat} {c : Comparison} (made : compared db a b = some c) :
    compareScans db 1 a b = .ok c := by
  unfold compared at made
  split at made
  · rename_i same
    rw [same, Option.some.inj made]
  · cases made

theorem foundAgainAgrees : ∃ trace t c, Run scanRows (requested foundAgain comparedDb) trace t ∧
    RecordedAgainst foundAgain trace t.store 2 (some 1) [missingHstsDigest] ∧
    compareScans t.store 1 1 2 = .ok c ∧ c.Agrees (t.store.observedIn 2) := by
  have replayed : ((replay scanRows (requested foundAgain comparedDb)
      (List.replicate 29 (.step 0) ++ List.replicate 29 (.step 1))).map fun (trace, t) =>
        keysUnique t.store && referencesSeeded t.store && (commits (own 1 trace)).contains .aiCommit &&
          comparedWith trace 2 1 [missingHstsDigest] &&
          (t.store.fingerprintsForScan 1 == [missingHstsDigest]) &&
          ((t.store.observedIn 2).all fun row => row.status != .new) &&
          ((t.store.scan? 1).all fun scan => scan.initiatedByUserId == 1 && scan.targetId == 1) &&
          ((t.store.scan? 2).all fun scan => scan.initiatedByUserId == 1 && scan.targetId == 1) &&
          (t.store.scan? 1).isSome && (t.store.scan? 2).isSome) = some true := by
    decide +kernel
  obtain ⟨⟨trace, t⟩, ran, checks⟩ := Option.map_eq_some_iff.mp replayed
  simp only [Bool.and_eq_true, beq_iff_eq] at checks
  obtain ⟨⟨⟨⟨⟨⟨⟨⟨⟨unique, seeded⟩, done⟩, with_⟩, same⟩, old⟩, ofA⟩, ofB⟩, someA⟩, someB⟩ := checks
  obtain ⟨scanA, foundA⟩ := Option.isSome_iff_exists.mp someA
  obtain ⟨scanB, foundB⟩ := Option.isSome_iff_exists.mp someB
  simp only [foundA, foundB, Option.all_some, Bool.and_eq_true, beq_iff_eq] at ofA ofB
  have visible : ∀ {id scan}, t.store.scan? id = some scan → scan.initiatedByUserId = 1 →
      FindingExplanation.getVisibleScan t.store 1 id = .ok scan := by
    intro id scan found mine
    rw [FindingExplanation.getVisibleScan, found]
    simp [mine, pure, Except.pure]
  have run := replayRun ran
  obtain ⟨before, after, split⟩ := completionPlaced done
  obtain ⟨chosen, previous, against, agrees⟩ := comparisonAgreesIff comparedLinked (comparedWithoutResults 2) run
    (constraintsHold (linkedRun comparedLinked run) unique seeded).executionKey split rfl
  obtain ⟨rfl, rfl⟩ := comparedIs with_ against
  obtain ⟨c, made, when_⟩ := agrees 1 1 scanA scanB rfl (visible foundA ofA.1) (visible foundB ofB.1)
    (ofA.2.trans ofB.2.symm)
  refine ⟨trace, t, c, run, against, made, when_.mpr ⟨fun fp => by rw [same], fun row there new => ?_⟩⟩
  have other := List.all_eq_true.mp old row there
  rw [new] at other
  cases other

theorem resolvedLaterRegressed : ∃ trace t c, Run scanRows (requested resolvedLater comparedDb) trace t ∧
    RecordedAgainst resolvedLater trace t.store 2 (some 1) [] ∧ compareScans t.store 1 1 2 = .ok c ∧
    ((t.store.observedIn 2).map fun row => (row.fingerprint, row.status)) = [(missingHstsDigest, .new)] ∧
    c.bucket .regressed = [missingHstsDigest] ∧ ¬ c.Agrees (t.store.observedIn 2) := by
  have replayed : ((replay scanRows (requested resolvedLater comparedDb)
      (List.replicate 27 (.step 0) ++ List.replicate 29 (.step 1) ++ List.replicate 30 (.step 2))).map fun (trace, t) =>
        keysUnique t.store && referencesSeeded t.store && (commits (own 1 trace)).contains .aiCommit &&
          comparedWith trace 2 1 [] &&
          (((t.store.observedIn 2).map fun row => (row.fingerprint, row.status)) == [(missingHstsDigest, .new)]) &&
          ((compared t.store 1 2).map fun c => c.bucket .regressed) == some [missingHstsDigest]) = some true := by
    decide +kernel
  obtain ⟨⟨trace, t⟩, ran, checks⟩ := Option.map_eq_some_iff.mp replayed
  simp only [Bool.and_eq_true, beq_iff_eq] at checks
  obtain ⟨⟨⟨⟨⟨unique, seeded⟩, done⟩, with_⟩, rows⟩, shown⟩ := checks
  obtain ⟨c, made, regressed⟩ := Option.map_eq_some_iff.mp shown
  have run := replayRun ran
  obtain ⟨before, after, split⟩ := completionPlaced done
  obtain ⟨chosen, previous, against⟩ := completionAgainst comparedLinked (comparedWithoutResults 2) run
    (constraintsHold (linkedRun comparedLinked run) unique seeded).executionKey split rfl
  obtain ⟨rfl, rfl⟩ := comparedIs with_ against
  refine ⟨trace, t, c, run, against, comparedOk made, rows, regressed, fun agrees => ?_⟩
  obtain ⟨row, there, -, status⟩ := (agrees missingHstsDigest .regressed).mp (by rw [regressed]; simp)
  have listed := List.mem_map_of_mem (f := fun row => (row.fingerprint, row.status)) there
  rw [rows, status] at listed
  simp at listed

end ScanComparison
end SentinelGpt
