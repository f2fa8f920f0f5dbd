import Mathlib.Data.List.Induction
import SentinelGpt.TransactionRuns

/-! What the past of a run says of its present: the staged writes of a client are those of
its events since its last transaction ended, the store is the initial one after all
committed writes, and no two clients hold the same row. -/
namespace ReadCommitted
variable {σ ω κ ℓ ε α : Type}

def stage (before : List ω) : Event σ ω ℓ → List ω
  | .exec _ _ writes => before ++ writes
  | .call _ => before
  | .commit _ | .rollback | .crash => []

theorem ownSplit {trace : List (Nat × Event σ ω ℓ)} {i : Nat} {before after : List (Event σ ω ℓ)}
    {e : Event σ ω ℓ} (split : own i trace = before ++ e :: after) :
    ∃ earlier later, trace = earlier ++ (i, e) :: later ∧ own i earlier = before ∧
      own i later = after := by
  induction trace generalizing before with
  | nil => simp at split
  | cons entry rest ih =>
    obtain ⟨j, f⟩ := entry
    by_cases same : j = i
    · subst same
      have here : own j ((j, f) :: rest) = f :: own j rest := by simp [own]
      rw [here] at split
      cases before with
      | nil =>
        obtain ⟨rfl, rest_⟩ := List.cons.inj split
        exact ⟨[], rest, rfl, rfl, rest_⟩
      | cons g before' =>
        obtain ⟨rfl, rest_⟩ := List.cons.inj split
        obtain ⟨earlier, later, rfl, own_, later_⟩ := ih rest_
        refine ⟨(j, f) :: earlier, later, rfl, ?_, later_⟩
        simp [own] at own_ ⊢
        exact own_
    · have skip : ∀ trace : List (Nat × Event σ ω ℓ), own i ((j, f) :: trace) = own i trace := by
        intro trace
        simp [own, same]
      rw [skip] at split
      obtain ⟨earlier, later, rfl, own_, later_⟩ := ih split
      exact ⟨(j, f) :: earlier, later, rfl, by rw [skip, own_], later_⟩

theorem firstBefore {trace start tail before after : List (Nat × Event σ ω ℓ)} {i : Nat}
    {e e' : Event σ ω ℓ} (first : trace = start ++ (i, e) :: tail) (none : own i start = [])
    (split : trace = before ++ (i, e') :: after) : start <+: before := by
  rcases List.prefix_or_prefix_of_prefix ⟨_, first.symm⟩ ⟨_, split.symm⟩ with grows | ⟨rest, same⟩
  · exact grows
  · cases rest with
    | nil => exact ⟨[], by rw [← same, List.append_nil, List.append_nil]⟩
    | cons x rest =>
      rw [first, ← same, List.append_assoc, List.append_cancel_left_eq, List.cons_append,
        List.cons.injEq] at split
      rw [← same, ownAppend, split.1] at none
      simp [own] at none

def staged (log : List (Event σ ω ℓ)) : List ω := log.foldl stage []

@[simp] theorem stagedNil : staged ([] : List (Event σ ω ℓ)) = [] := rfl
@[simp] theorem stagedSnoc (log : List (Event σ ω ℓ)) (e : Event σ ω ℓ) :
    staged (log ++ [e]) = stage (staged log) e := by
  simp [staged]

def committedBefore : List (Nat × Event σ ω ℓ) → List ω
  | [] => []
  | (i, .commit _) :: before => committedBefore before ++ staged (own i before.reverse)
  | _ :: before => committedBefore before

def committed (trace : List (Nat × Event σ ω ℓ)) : List ω := committedBefore trace.reverse

@[simp] theorem committedNil : committed ([] : List (Nat × Event σ ω ℓ)) = [] := rfl

theorem committedCommit (trace : List (Nat × Event σ ω ℓ)) (i : Nat) (site : ℓ) :
    committed (trace ++ [(i, .commit site)]) = committed trace ++ staged (own i trace) := by
  simp [committed, committedBefore]

def Event.isCommit : Event σ ω ℓ → Bool
  | .commit _ => true
  | _ => false

theorem committedOther (trace : List (Nat × Event σ ω ℓ)) (i : Nat) {e : Event σ ω ℓ}
    (other : e.isCommit = false) : committed (trace ++ [(i, e)]) = committed trace := by
  cases e <;> simp_all [committed, committedBefore, Event.isCommit]

theorem committedGrows (before after : List (Nat × Event σ ω ℓ)) :
    committed before <+: committed (before ++ after) := by
  induction after using List.reverseRecOn with
  | nil => simp
  | append_singleton rest entry ih =>
    obtain ⟨i, e⟩ := entry
    rw [← List.append_assoc]
    cases ends : e.isCommit with
    | false =>
      rw [committedOther _ i ends]
      exact ih
    | true =>
      cases e with
      | commit site =>
        rw [committedCommit]
        exact ih.trans (List.prefix_append _ _)
      | _ => contradiction

theorem committedStaged {trace before after : List (Nat × Event σ ω ℓ)} {i : Nat} {site : ℓ} {w : ω}
    (split : trace = before ++ (i, .commit site) :: after) (member : w ∈ staged (own i before)) :
    w ∈ committed trace := by
  obtain ⟨more, grows⟩ := committedGrows (before ++ [(i, .commit site)]) after
  rw [split, List.append_cons, ← grows, committedCommit]
  exact List.mem_append_left _ (List.mem_append_right _ member)

inductive Completed (P : Event σ ω ℓ → Prop) : List (Nat × Event σ ω ℓ) → Prop where
  | commits {trace log i e site} (last : own i trace = log ++ [e]) (holds : P e) :
      Completed P (trace ++ [(i, .commit site)])
  | later {trace} (before : Completed P trace) (entry : Nat × Event σ ω ℓ) :
      Completed P (trace ++ [entry])

theorem completedGrows {P : Event σ ω ℓ → Prop} {trace : List (Nat × Event σ ω ℓ)} (completed : Completed P trace)
    (more : List (Nat × Event σ ω ℓ)) : Completed P (trace ++ more) := by
  induction more using List.reverseRecOn with
  | nil => rwa [List.append_nil]
  | append_singleton more entry ih =>
    rw [← List.append_assoc]
    exact .later ih entry

theorem completedNil {P : Event σ ω ℓ → Prop} : ¬ Completed P [] := by
  intro completed
  generalize same : ([] : List (Nat × Event σ ω ℓ)) = trace at completed
  cases completed <;> simp at same

theorem completedSnoc {P : Event σ ω ℓ → Prop} {trace : List (Nat × Event σ ω ℓ)} {i : Nat}
    {e : Event σ ω ℓ} (completed : Completed P (trace ++ [(i, e)])) :
    Completed P trace ∨ ∃ site log last, e = .commit site ∧ own i trace = log ++ [last] ∧ P last := by
  generalize same : trace ++ [(i, e)] = whole at completed
  cases completed with
  | commits last holds =>
    obtain ⟨rfl, final⟩ := List.append_inj' same rfl
    obtain ⟨rfl, rfl⟩ := Prod.mk.inj (List.singleton_inj.mp final)
    exact .inr ⟨_, _, _, rfl, last, holds⟩
  | later before entry =>
    obtain ⟨rfl, -⟩ := List.append_inj' same rfl
    exact .inl before

section Moves
variable {R : Rows σ ω κ}

theorem movedClients {s t : System σ ω ℓ ε} {i : Nat} {c : Client σ ω ℓ ε} {e : Event σ ω ℓ}
    (did : Moved R s i c e t) : ∃ d, t.clients = s.clients.set i d ∧ d.pending = stage c.pending e := by
  cases did with
  | exec v at_ reads free => exact ⟨_, rfl, rfl⟩
  | commit at_ => exact ⟨_, rfl, rfl⟩
  | rollback at_ => exact ⟨_, rfl, rfl⟩
  | call at_ => exact ⟨_, rfl, rfl⟩
  | crash => exact ⟨_, rfl, rfl⟩

theorem movedEach {s t : System σ ω ℓ ε} {i : Nat} {c : Client σ ω ℓ ε} {e : Event σ ω ℓ}
    (P : Nat → Client σ ω ℓ ε → Prop) (found : s.clients[i]? = some c) (did : Moved R s i c e t)
    (mine : ∀ d, d.pending = stage c.pending e → P i d)
    (others : ∀ j d, j ≠ i → s.clients[j]? = some d → P j d) :
    ∀ j d, t.clients[j]? = some d → P j d := by
  intro j d here
  have bound : i < s.clients.length := (List.getElem?_eq_some_iff.mp found).1
  obtain ⟨c', set, pending⟩ := movedClients did
  rw [set] at here
  by_cases same : i = j
  · subst same
    simp only [List.getElem?_set_self bound, Option.some.injEq] at here
    exact here ▸ mine c' pending
  · rw [List.getElem?_set_ne same] at here
    exact others j d (Ne.symm same) here

theorem movedStore {s t : System σ ω ℓ ε} {i : Nat} {c : Client σ ω ℓ ε} {e : Event σ ω ℓ}
    (did : Moved R s i c e t) :
    t.store = if e.isCommit then view R.effect s.store c.pending else s.store := by
  cases did <;> rfl

def Apart (R : Rows σ ω κ) (t : System σ ω ℓ ε) : Prop :=
  ∀ (i j : Nat) (c d : Client σ ω ℓ ε), i ≠ j → t.clients[i]? = some c → t.clients[j]? = some d →
    ∀ k ∈ c.pending.flatMap R.locks, k ∉ d.pending.flatMap R.locks

theorem lockedByOther {t : System σ ω ℓ ε} {i j : Nat} {d : Client σ ω ℓ ε} (other : i ≠ j)
    (found : t.clients[j]? = some d) {k : κ} (held : k ∈ d.pending.flatMap R.locks) :
    k ∈ lockedByOthers R t i := by
  refine List.mem_flatMap.mpr ⟨d, ?_, held⟩
  exact List.mem_eraseIdx_iff_getElem?.mpr ⟨j, Ne.symm other, found⟩

end Moves

section Runs
variable [DecidableEq κ] {R : Rows σ ω κ} {store : σ} {programs : List (Program σ ω ℓ ε Unit)}

theorem pendingIsStaged {trace : List (Nat × Event σ ω ℓ)} {t : System σ ω ℓ ε}
    (run : Run R (System.start store programs) trace t) :
    ∀ i c, t.clients[i]? = some c → c.pending = staged (own i trace) := by
  refine runInvariant (fun trace t => ∀ i c, t.clients[i]? = some c → c.pending = staged (own i trace))
    ?_ ?_ run
  · intro i c found
    simp only [System.start, List.getElem?_map, Option.map_eq_some_iff] at found
    obtain ⟨p, -, rfl⟩ := found
    rfl
  · intro trace t i c e u ih found did j d here
    have bound : i < t.clients.length := (List.getElem?_eq_some_iff.mp found).1
    obtain ⟨c', set, pending⟩ := movedClients did
    rw [set] at here
    by_cases same : i = j
    · subst same
      simp only [List.getElem?_set_self bound, Option.some.injEq] at here
      rw [← here, pending, ih i c found]
      simp
    · rw [List.getElem?_set_ne same] at here
      simpa [same] using ih j d here

theorem actorPresent {trace : List (Nat × Event σ ω ℓ)} {t : System σ ω ℓ ε}
    (run : Run R (System.start store programs) trace t) {j : Nat} (acts : own j trace ≠ []) :
    ∃ c, t.clients[j]? = some c := by
  have all : ∀ entry ∈ trace, entry.1 < t.clients.length := by
    refine runInvariant (fun trace t => ∀ entry ∈ trace, entry.1 < t.clients.length) ?_ ?_ run
    · intro entry member
      contradiction
    · intro trace t i c e u ih found did entry member
      obtain ⟨d, set, -⟩ := movedClients did
      rw [set, List.length_set]
      rcases List.mem_append.mp member with old | new
      · exact ih entry old
      · rw [List.mem_singleton.mp new]
        exact (List.getElem?_eq_some_iff.mp found).1
  obtain ⟨e, member⟩ := List.exists_mem_of_ne_nil _ acts
  obtain ⟨entry, mine, -⟩ := List.mem_map.mp member
  obtain ⟨there, same⟩ := List.mem_filter.mp mine
  have bound := all entry there
  rw [beq_iff_eq.mp same] at bound
  exact ⟨_, List.getElem?_eq_getElem bound⟩

theorem storeCommitted {trace : List (Nat × Event σ ω ℓ)} {t : System σ ω ℓ ε}
    (run : Run R (System.start store programs) trace t) :
    t.store = view R.effect store (committed trace) := by
  induction run with
  | nil => rfl
  | snoc m before moved ih =>
    obtain ⟨c, found, did⟩ := movedOf moved
    rw [movedStore did]
    cases ends : Event.isCommit _ with
    | false =>
      rw [committedOther _ _ ends, ← ih]
      rfl
    | true =>
      cases did with
      | commit at_ =>
        rw [committedCommit, viewAppend, ← ih, ← pendingIsStaged before _ c found]
        rfl
      | _ => contradiction

theorem locksApart {trace : List (Nat × Event σ ω ℓ)} {t : System σ ω ℓ ε}
    (run : Run R (System.start store programs) trace t) : Apart R t := by
  refine runInvariant (fun _ t => Apart R t) ?_ ?_ run
  · intro i j c d other found found' k held
    simp only [System.start, List.getElem?_map, Option.map_eq_some_iff] at found
    obtain ⟨p, -, rfl⟩ := found
    simp [Client.start] at held
  · intro trace t i c e u apart found did
    have bound : i < t.clients.length := (List.getElem?_eq_some_iff.mp found).1
    -- What client `i` holds after its move, no other holds.
    have mine : ∀ c', u.clients = t.clients.set i c' → ∀ j d, i ≠ j → t.clients[j]? = some d →
        ∀ k ∈ c'.pending.flatMap R.locks, k ∉ d.pending.flatMap R.locks := by
      intro c' set j d other there k held
      obtain ⟨c'', set', pending⟩ := movedClients did
      have same : c' = c'' := by
        have here := congrArg (fun clients => clients[i]?) (set.symm.trans set')
        simpa [List.getElem?_set_self bound] using here
      rw [same, pending] at held
      cases did with
      | exec v at_ reads free =>
        rcases List.mem_flatMap.mp held with ⟨w, member, locked⟩
        rcases List.mem_append.mp member with old | new
        · exact apart i j c d other found there k (List.mem_flatMap.mpr ⟨w, old, locked⟩)
        · exact fun held' => free k (List.mem_flatMap.mpr ⟨w, new, locked⟩)
            (lockedByOther other there held')
      | call at_ => exact apart i j c d other found there k held
      | commit at_ => simp [stage] at held
      | rollback at_ => simp [stage] at held
      | crash => simp [stage] at held
    obtain ⟨c', set, -⟩ := movedClients did
    intro j l a b other first second k held
    rw [set] at first second
    by_cases here : i = j
    · subst here
      simp only [List.getElem?_set_self bound, Option.some.injEq] at first
      subst first
      rw [List.getElem?_set_ne other] at second
      exact mine _ set l b other second k held
    · rw [List.getElem?_set_ne here] at first
      by_cases there : i = l
      · subst there
        simp only [List.getElem?_set_self bound, Option.some.injEq] at second
        subst second
        exact fun held' => mine _ set j a here first k held' held
      · rw [List.getElem?_set_ne there] at second
        exact apart j l a b other first second k held

theorem runBefore {s t : System σ ω ℓ ε} {whole before after : List (Nat × Event σ ω ℓ)} {i : Nat}
    {e : Event σ ω ℓ} (run : Run R s whole t) (split : whole = before ++ (i, e) :: after) :
    ∃ u v c, Run R s before u ∧ u.clients[i]? = some c ∧ Moved R u i c e v ∧
      Run R s (before ++ [(i, e)]) v := by
  induction run generalizing after with
  | nil => simp at split
  | snoc m earlier moved ih =>
    rcases List.eq_nil_or_concat after with rfl | ⟨rest, entry, rfl⟩
    · obtain ⟨rfl, final⟩ := List.append_inj' split rfl
      cases final
      obtain ⟨c, found, did⟩ := movedOf moved
      exact ⟨_, _, c, earlier, found, did, .snoc m earlier moved⟩
    · rw [List.concat_eq_append, ← List.cons_append, ← List.append_assoc] at split
      obtain ⟨rfl, -⟩ := List.append_inj' split rfl
      exact ih rfl

theorem viewAt {trace before after : List (Nat × Event σ ω ℓ)} {t : System σ ω ℓ ε} {i : Nat}
    {site : ℓ} {v : σ} {writes : List ω} (run : Run R (System.start store programs) trace t)
    (split : trace = before ++ (i, .exec site v writes) :: after) :
    ∃ u, Run R (System.start store programs) before u ∧
      v = view R.effect u.store (staged (own i before)) := by
  obtain ⟨u, _, c, earlier, found, did, -⟩ := runBefore run split
  refine ⟨u, earlier, ?_⟩
  rw [← pendingIsStaged earlier i c found]
  cases did with
  | exec v at_ reads free => exact reads

/- The run rule with everything a move may rely on: the past, the locks, and what the
programs owe where all that happened is as assumed. -/
theorem runGuaranteed {C : Contract σ ω ℓ} (valid : ∀ p ∈ programs, wp C [] p fun _ _ => True)
    (crashes : ∀ log, C.guarantee log .crash)
    (I : List (Nat × Event σ ω ℓ) → System σ ω ℓ ε → Prop)
    (init : I [] (System.start store programs))
    (kept : ∀ trace t i c e u, Run R (System.start store programs) trace t → I trace t →
      t.clients[i]? = some c → Moved R t i c e u → C.assume (own i trace) e →
      C.guarantee (own i trace) e → I (trace ++ [(i, e)]) u)
    {trace t} (run : Run R (System.start store programs) trace t) (assumed : Along C.assume trace) :
    I trace t := by
  induction run with
  | nil => exact init
  | snoc m before moved ih =>
    obtain ⟨c, found, did⟩ := movedOf moved
    obtain ⟨earlier, now⟩ := alongSnoc.mp assumed
    have owed := (alongSnoc.mp (runKeepsContract valid crashes (.snoc m before moved) assumed).1).2
    exact kept _ _ _ c _ _ before (ih earlier) found did now owed

end Runs
end ReadCommitted
