import SentinelGpt.ScanRuns

/-! How often the chain of a scan is run, and after what. -/
namespace SentinelGpt
open ReadCommitted

def isLaunch : Event Db Write Site → Bool
  | .call .pipelineRun => true
  | _ => false

def launches (requests : List Request) (s : Nat) (trace : Trace) : Trace :=
  trace.filter fun entry => isLaunch entry.2 && scanOf requests entry.1 == some s

theorem isLaunchIs {e : Event Db Write Site} (launch : isLaunch e = true) : e = .call .pipelineRun := by
  unfold isLaunch at launch
  split at launch
  · rfl
  · contradiction

section Runs
variable {requests : List Request} {store : Db} {trace : Trace} {t : System Db Write Site PyError}
  {s i : Nat}

theorem launchedAfter {before after : Trace} (run : Run scanRows (requested requests store) trace t)
    (split : trace = before ++ (i, .call .pipelineRun) :: after) (on : scanOf requests i = some s) :
    ∃ r, requests[i]? = some r ∧ Launches r.env s (own i before) := by
  obtain ⟨-, owed, -⟩ := requestsKeep run
  have owed : (rulesOf requests i).guarantee (own i before) (.call .pipelineRun) :=
    owed before i _ after split
  obtain ⟨r, found, here⟩ := Option.bind_eq_some_iff.mp on
  rw [rulesFound found, rulesOn here] at owed
  exact ⟨r, found, owed rfl⟩

theorem startedClaimed {env : Env} {log : Log} (started : Started env s log) : Claims s log := by
  obtain ⟨before, after, -, -, -, split, claims, -⟩ := started
  exact ⟨before, .startCommit, after, split, claims⟩

theorem launchesNext {env : Env} {before log : Log} (first : Launches env s before)
    (second : Launches env s (before ++ .call .pipelineRun :: log)) : False := by
  obtain ⟨rest, next⟩ := second.next
  have once := second.once
  -- The commit the second run follows comes after the first run.
  cases log using List.reverseRecOn with
  | nil => exact absurd (List.append_inj_right' next rfl) (by simp)
  | append_singleton log last =>
    rw [← List.cons_append, ← List.append_assoc] at next
    obtain ⟨-, final⟩ := List.append_inj' next rfl
    cases final
    have later : .startCommit ∈ commits (.call .pipelineRun :: (log ++ [.commit .startCommit])) :=
      memCommits.mpr (by simp)
    rw [commitsAppend, first.once, List.singleton_append, List.cons.injEq] at once
    rw [once.2] at later
    contradiction

theorem launchesSnoc (trace : Trace) (e : Event Db Write Site) :
    launches requests s (trace ++ [(i, e)]) = launches requests s trace ++
      if isLaunch e && scanOf requests i == some s then [(i, e)] else [] := by
  rw [launches, launches, List.filter_append, List.filter_cons]
  rfl

/- The chain of a scan runs at most once, whatever is run, repeated, rolled back or dies, and
only after its job has committed the claim of the scan. -/
theorem launchedOnce (run : Run scanRows (requested requests store) trace t) :
    (launches requests s trace).length ≤ 1 ∧
      ∀ i before after, trace = before ++ (i, .call .pipelineRun) :: after →
        scanOf requests i = some s → Claims s (own i before) := by
  constructor
  · induction run with
    | nil => exact Nat.zero_le 1
    | snoc m before moved ih =>
      rename_i trace t e u
      rw [launchesSnoc]
      split
      · rename_i here
        simp only [Bool.and_eq_true, beq_iff_eq] at here
        obtain rfl := isLaunchIs here.1
        have none : launches requests s trace = [] := by
          by_contra some
          obtain ⟨⟨j, e⟩, member⟩ := List.exists_mem_of_ne_nil _ some
          obtain ⟨member, launch⟩ := List.mem_filter.mp member
          simp only [Bool.and_eq_true, beq_iff_eq] at launch
          obtain rfl := isLaunchIs launch.1
          obtain ⟨r, found, now⟩ := launchedAfter (.snoc m before moved) rfl here.2
          obtain ⟨earlier, later, split⟩ := List.append_of_mem member
          obtain ⟨r', found', then_⟩ := launchedAfter before split launch.2
          have claims : Claims s (own j trace) := by
            obtain ⟨b, site, a, same, moved⟩ := startedClaimed then_.started
            exact ⟨b, site, a ++ .call .pipelineRun :: own j later,
              by rw [split, ownAppend, same]; simp [own], moved⟩
          have one := (claimedOnce s before).once j m.client claims (startedClaimed now.started)
          subst one
          rw [found] at found'
          cases found'
          have whole : own m.client trace = own m.client earlier ++ .call .pipelineRun ::
              own m.client later := by
            rw [split, ownAppend]
            simp [own]
          rw [whole] at now
          exact launchesNext then_ now
        rw [none]
        exact Nat.le_refl 1
      · rw [List.append_nil]
        exact ih
  · intro i before after split on
    obtain ⟨r, -, launches⟩ := launchedAfter run split on
    exact startedClaimed launches.started

end Runs

/-! A task that is delivered twice. -/

def repeatedTask : List Request :=
  [.task (plainEnv (Python.onAscii []) 1 (plainPipeline answeredResult) noFault) 1,
   .task (plainEnv (Python.onAscii []) 2 (plainPipeline answeredResult) noFault) 1]

theorem repeatedTaskLaunchesOnce :
    ∃ trace t, Run scanRows (requested repeatedTask queuedDb) trace t ∧ allReturned t = true ∧
      (launches repeatedTask 1 trace).length = 1 := by
  have replayed : ((replay scanRows (requested repeatedTask queuedDb)
      (List.replicate 4 (.step 0) ++ List.replicate 2 (.step 1) ++ List.replicate 23 (.step 0) ++
        List.replicate 2 (.step 1))).map fun (trace, t) =>
          allReturned t && !(launches repeatedTask 1 trace).isEmpty) = some true := by
    decide +kernel
  obtain ⟨⟨trace, t⟩, ran, checks⟩ := Option.map_eq_some_iff.mp replayed
  simp only [Bool.and_eq_true, Bool.not_eq_true', List.isEmpty_eq_false_iff] at checks
  have once : (launches repeatedTask 1 trace).length ≤ 1 := (launchedOnce (replayRun ran)).1
  have some := List.length_pos_of_ne_nil checks.2
  exact ⟨trace, t, replayRun ran, checks.1, by omega⟩

end SentinelGpt
