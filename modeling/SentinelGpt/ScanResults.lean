import SentinelGpt.LifecycleRecord
import SentinelGpt.ScanRuns

/-! What the transactions on scans store about their results, and to which scan it belongs. -/
namespace SentinelGpt
open ReadCommitted

def Db.executionKeys (db : Db) : List (Nat × Nat) := db.executions.map fun x => (x.id, x.scanId)

def Db.Keyed (db : Db) : Prop := (db.executionKeys.map Prod.fst).Nodup

structure Db.Linked (db : Db) : Prop where
  findings : ∀ f ∈ db.findings, ∃ s, (f.executionId, s) ∈ db.executionKeys
  assessments : ∀ a ∈ db.assessments, ∃ s, (a.executionId, s) ∈ db.executionKeys

def Write.newKey : Write → Option (Nat × Nat)
  | .insertExecution row => some (row.id, row.scanId)
  | _ => none

def Write.newFindings : Write → List ScanFinding
  | .insertFindings rows => rows
  | _ => []

def Write.newHistory : Write → List FindingStatusHistory
  | .insertHistory rows => rows
  | _ => []

def Write.newAssessment : Write → Option ScanAiAssessment
  | .insertAssessment row | .updateAssessment _ row => some row
  | _ => none

def Write.succeeds (id : Nat) : Write → Prop
  | .insertExecution row => row.id = id ∧ row.status = .succeeded
  | .markExecution other status _ _ => other = id ∧ status = .succeeded
  | _ => False

section Seen
variable {db : Db} {ws : List Write}

theorem executionKeysSeen (db : Db) (ws : List Write) :
    (seen db ws).executionKeys = db.executionKeys ++ ws.filterMap Write.newKey := by
  induction ws generalizing db with
  | nil => exact (List.append_nil _).symm
  | cons w rest ih =>
    rw [seen, viewCons]
    refine (ih _).trans ?_
    cases w with
    | insertExecution row => simp [Db.executionKeys, Write.effect, Write.newKey]
    | markExecution id status ended reason =>
      have same : (Write.effect db (.markExecution id status ended reason)).executionKeys =
          db.executionKeys := by
        simp only [Db.executionKeys, Write.effect, updateRow, List.map_map]
        refine List.map_congr_left fun x _ => ?_
        simp only [Function.comp_apply]
        split <;> rfl
      rw [List.filterMap_cons_none rfl, ← same]
    | _ => rfl

theorem findingsSeen (db : Db) (ws : List Write) :
    (seen db ws).findings = db.findings ++ ws.flatMap Write.newFindings := by
  induction ws generalizing db with
  | nil => exact (List.append_nil _).symm
  | cons w rest ih =>
    rw [seen, viewCons]
    refine (ih _).trans ?_
    cases w with
    | insertFindings rows => simp [Write.effect, Write.newFindings]
    | _ => rfl

theorem historySeen (db : Db) (ws : List Write) :
    (seen db ws).history = db.history ++ ws.flatMap Write.newHistory := by
  induction ws generalizing db with
  | nil => exact (List.append_nil _).symm
  | cons w rest ih =>
    rw [seen, viewCons]
    refine (ih _).trans ?_
    cases w with
    | insertHistory rows => simp [Write.effect, Write.newHistory]
    | _ => rfl

theorem assessmentsSeen {a : ScanAiAssessment} (member : a ∈ (seen db ws).assessments) :
    a ∈ db.assessments ∨ a ∈ ws.filterMap Write.newAssessment := by
  induction ws generalizing db with
  | nil => exact .inl member
  | cons w rest ih =>
    rw [seen, viewCons] at member
    rcases ih member with old | new
    · cases w with
      | insertAssessment row =>
        rcases List.mem_append.mp old with old | new
        · exact .inl old
        · exact .inr (by simp [Write.newAssessment, List.mem_singleton.mp new])
      | updateAssessment id row =>
        obtain ⟨b, stored, rfl⟩ := List.mem_map.mp old
        split
        · exact .inr (by simp [Write.newAssessment])
        · exact .inl stored
      | _ => exact .inl old
    · exact .inr (by rw [List.filterMap_cons]; split <;> simp [new])

theorem succeededSeen {x : ScanEngineExecution} (member : x ∈ (seen db ws).executions)
    (succeeded : x.status = .succeeded) :
    (∃ y ∈ db.executions, y.id = x.id ∧ y.scanId = x.scanId ∧ y.status = .succeeded) ∨
      ∃ w ∈ ws, w.succeeds x.id := by
  induction ws generalizing db with
  | nil => exact .inl ⟨x, member, rfl, rfl, succeeded⟩
  | cons w rest ih =>
    rw [seen, viewCons] at member
    rcases ih member with ⟨y, stored, same, scan, status⟩ | ⟨w', here, succeeds⟩
    · cases w with
      | insertExecution row =>
        rcases List.mem_append.mp stored with old | new
        · exact .inl ⟨y, old, same, scan, status⟩
        · rw [List.mem_singleton.mp new] at same status
          exact .inr ⟨_, List.mem_cons_self, same, status⟩
      | markExecution id status' ended reason =>
        obtain ⟨z, old, rfl⟩ := List.mem_map.mp stored
        by_cases marked : z.id = id
        · rw [if_pos marked] at same status
          exact .inr ⟨_, List.mem_cons_self, marked.symm.trans same, status⟩
        · rw [if_neg marked] at same scan status
          exact .inl ⟨z, old, same, scan, status⟩
      | _ => exact .inl ⟨y, stored, same, scan, status⟩
    · exact .inr ⟨w', List.mem_cons_of_mem _ here, succeeds⟩

theorem keyedBefore (keyed : (seen db ws).Keyed) : db.Keyed := by
  rw [Db.Keyed, executionKeysSeen, List.map_append] at keyed
  exact keyed.of_append_left

theorem keyStays {key : Nat × Nat} (member : key ∈ db.executionKeys) (ws : List Write) :
    key ∈ (seen db ws).executionKeys := by
  rw [executionKeysSeen]
  exact List.mem_append_left _ member

theorem keyedOnce {id s s' : Nat} (keyed : db.Keyed) (first : (id, s) ∈ db.executionKeys)
    (second : (id, s') ∈ db.executionKeys) : s = s' := by
  have same := List.inj_on_of_nodup_map keyed first second rfl
  exact (Prod.mk.inj same).2

end Seen

def Write.Results (env : Env) (s : Nat) (log : Log) (site : Site) (cs : List Site) : Write → Prop
  | .insertFindings rows => site = .aiCommit ∧ Started env s log ∧
      ∀ f ∈ rows, f.scanId = some s ∧ f.executionId = env.newId .createExecution 0
  | .insertHistory rows => site = .aiCommit ∧ ∀ h ∈ rows, h.observedInScanId = s
  | .markExecution id status _ _ => status = .succeeded →
      site = .aiCommit ∧ Started env s log ∧ id = env.newId .createExecution 0
  | .insertExecution row => row.status ≠ .succeeded
  | .insertAssessment row | .updateAssessment _ row => .aiCommit ∈ cs ∧ Started env s log ∧
      row.executionId = env.newId .createExecution 0
  | _ => True

section Forms
variable {env : Env} {s : Nat} {log : Log} {site : Site} {ws : List Write}
  {ms : List (ScanStatus × ScanStatus)} {cs : List Site}

theorem attemptResults {at_ : Site} {source target : ScanStatus} {before : List (ScanStatus × ScanStatus)}
    {cs' : List Site} (attempt : Attempt s log at_ source target before cs' ws ms) :
    ∀ w ∈ ws, w.Results env s log site cs := by
  cases attempt <;> simp [Write.Results]

theorem recordsOwn {rows : List ScanFinding} {history : List FindingStatusHistory}
    (records : Records env s log rows history) :
    (∀ f ∈ rows, f.scanId = some s ∧ f.executionId = env.newId .createExecution 0) ∧
      ∀ h ∈ history, h.observedInScanId = s := by
  cases records with
  | recorded loaded owned compares knows =>
    refine ⟨owned, fun h member => ?_⟩
    obtain ⟨-, observed, -⟩ := memRecorded _ _ _ _ _ member
    exact observed.trans (scanIdOf loaded.2)

theorem committedResults (form : Committed env s log site ws ms cs) :
    ∀ w ∈ ws, w.Results env s log site cs := by
  cases form with
  | start authorized => simp [Write.Results, executionRow]
  | refused row => simp [Write.Results, executionRow]
  | failed started row attempt =>
    refine List.forall_mem_append.mpr ⟨?_, attemptResults attempt⟩
    simp [Write.Results]
  | completed started audited row records completes analyses both =>
    obtain ⟨findings, history⟩ := recordsOwn records
    refine List.forall_mem_append.mpr ⟨List.forall_mem_append.mpr ⟨?_, attemptResults completes⟩,
      attemptResults analyses⟩
    rintro w member
    simp only [List.mem_cons, List.not_mem_nil, or_false] at member
    rcases member with rfl | rfl | rfl | rfl | rfl
    · trivial
    · exact fun _ => ⟨rfl, started, rfl⟩
    · exact ⟨rfl, started, findings⟩
    · trivial
    · exact ⟨rfl, history⟩
  | assessed started audited assessment ends attempt =>
    refine List.forall_mem_cons.mpr ⟨?_, attemptResults attempt⟩
    cases assessment with
    | inserted of_ => exact ⟨by simp, started, of_⟩
    | updated of_ => exact ⟨by simp, started, of_⟩
  | idle => simp
  | handled stuck recorded row => cases recorded <;> simp [Write.Results, executionRow]
  | cancelled found here may => simp [Write.Results]

theorem otherResults (form : OtherCommitted env log site ws cs) :
    ws.filterMap Write.newKey = [] ∧ ws.flatMap Write.newFindings = [] ∧
      ws.flatMap Write.newHistory = [] ∧ ws.filterMap Write.newAssessment = [] ∧
      ∀ w ∈ ws, ∀ id, ¬ w.succeeds id := by
  cases form <;> simp [Write.newKey, Write.newFindings, Write.newHistory, Write.newAssessment,
    Write.succeeds]

end Forms

section Runs
variable {requests : List Request} {store : Db} {trace : Trace} {t : System Db Write Site PyError}
  {i s : Nat} {r : Request} {site : Site}

theorem startedKey (run : Run scanRows (requested requests store) trace t)
    (started : Started r.env s (own i trace)) :
    (r.env.newId .createExecution 0, s) ∈ t.store.executionKeys := by
  obtain ⟨before, after, engine, version, startedAt, split, -, inserted⟩ := started
  obtain ⟨earlier, later, whole, rfl, -⟩ := ownSplit split
  have stored : t.store = seen store (committed trace) := storeCommitted run
  rw [stored, executionKeysSeen]
  refine List.mem_append_right _ (List.mem_filterMap.mpr ⟨_, committedStaged whole inserted, rfl⟩)

theorem linkedRun (linked : store.Linked) (run : Run scanRows (requested requests store) trace t) :
    t.store.Linked := by
  refine commitRun (I := fun _ db => db.Linked) linked (fun _ _ _ _ _ linked => linked) ?_ run
  intro trace t i r site committed linked
  have stays : ∀ {id}, (∃ s, (id, s) ∈ t.store.executionKeys) →
      ∃ s, (id, s) ∈ (seen t.store (staged (own i trace))).executionKeys :=
    fun ⟨s, key⟩ => ⟨s, keyStays key _⟩
  cases on : r.scan? with
  | none =>
    obtain ⟨-, findings, -, assessments, -⟩ := otherResults (committed.other on)
    constructor
    · intro f member
      rw [findingsSeen, findings, List.append_nil] at member
      exact stays (linked.findings f member)
    · intro a member
      rcases assessmentsSeen member with old | new
      · exact stays (linked.assessments a old)
      · rw [assessments] at new
        contradiction
  | some s =>
    have results := committedResults (committed.form on)
    constructor
    · intro f member
      rw [findingsSeen] at member
      rcases List.mem_append.mp member with old | new
      · exact stays (linked.findings f old)
      · obtain ⟨w, here, brought⟩ := List.mem_flatMap.mp new
        cases w with
        | insertFindings rows =>
          obtain ⟨-, started, own⟩ := results _ here
          rw [(own f brought).2]
          exact stays ⟨s, startedKey committed.run started⟩
        | _ => contradiction
    · intro a member
      rcases assessmentsSeen member with old | new
      · exact stays (linked.assessments a old)
      · obtain ⟨w, here, brought⟩ := List.mem_filterMap.mp new
        have started : Started r.env s (own i trace) ∧
            a.executionId = r.env.newId .createExecution 0 := by
          cases w with
          | insertAssessment row | updateAssessment id row =>
            obtain ⟨-, started, own⟩ := results _ here
            cases brought
            exact ⟨started, own⟩
          | _ => contradiction
        rw [started.2]
        exact stays ⟨s, startedKey committed.run started.1⟩

end Runs
end SentinelGpt
