import SentinelGpt.TransactionProgram

/-! Interleavings of client programs over one store under READ COMMITTED. A staged
write locks the rows it changes until its transaction ends; a statement whose rows
are locked by another transaction waits, and then reads what is committed. -/
namespace ReadCommitted
variable {σ ω κ ℓ ε α : Type}

structure Rows (σ ω κ : Type) where
  effect : σ → ω → σ
  locks : ω → List κ

structure Client (σ ω ℓ ε : Type) where
  program : Program σ ω ℓ ε Unit
  pending : List ω
  log : List (Event σ ω ℓ)

def Client.start (program : Program σ ω ℓ ε Unit) : Client σ ω ℓ ε := ⟨program, [], []⟩

structure System (σ ω ℓ ε : Type) where
  store : σ
  clients : List (Client σ ω ℓ ε)

def System.start (store : σ) (programs : List (Program σ ω ℓ ε Unit)) : System σ ω ℓ ε :=
  ⟨store, programs.map Client.start⟩

def lockedByOthers (R : Rows σ ω κ) (s : System σ ω ℓ ε) (i : Nat) : List κ :=
  (s.clients.eraseIdx i).flatMap fun c => c.pending.flatMap R.locks

def System.update (s : System σ ω ℓ ε) (store : σ) (i : Nat) (c : Client σ ω ℓ ε) :
    System σ ω ℓ ε := ⟨store, s.clients.set i c⟩

/- One event of client `i`, when it has one and its rows are free. -/
def step [DecidableEq κ] (R : Rows σ ω κ) (s : System σ ω ℓ ε) (i : Nat) :
    Option (Event σ ω ℓ × System σ ω ℓ ε) :=
  match s.clients[i]? with
  | none => none
  | some c => match c.program with
    | .pure _ => none
    | .raise _ => none
    | .exec site writes next =>
        let v := view R.effect s.store c.pending
        if ∀ k ∈ (writes v).flatMap R.locks, k ∉ lockedByOthers R s i then
          let e := .exec site v (writes v)
          some (e, s.update s.store i ⟨next v, c.pending ++ writes v, c.log ++ [e]⟩)
        else none
    | .commit site next => some (.commit site,
        s.update (view R.effect s.store c.pending) i ⟨next, [], c.log ++ [.commit site]⟩)
    | .rollback next => some (.rollback, s.update s.store i ⟨next, [], c.log ++ [.rollback]⟩)
    | .call site next => some (.call site,
        s.update s.store i ⟨next, c.pending, c.log ++ [.call site]⟩)

/- The process of client `i` dies: its transaction is rolled back and it stops. -/
def crash (s : System σ ω ℓ ε) (i : Nat) : Option (Event σ ω ℓ × System σ ω ℓ ε) :=
  match s.clients[i]? with
  | none => none
  | some c => some (.crash, s.update s.store i ⟨.pure (), [], c.log ++ [.crash]⟩)

inductive Move where
  | step (i : Nat)
  | crash (i : Nat)
  deriving DecidableEq, Repr

def Move.client : Move → Nat
  | .step i => i
  | .crash i => i

def Move.effect [DecidableEq κ] (R : Rows σ ω κ) (s : System σ ω ℓ ε) :
    Move → Option (Event σ ω ℓ × System σ ω ℓ ε)
  | .step i => ReadCommitted.step R s i
  | .crash i => ReadCommitted.crash s i

inductive Run [DecidableEq κ] (R : Rows σ ω κ) (s : System σ ω ℓ ε) :
    List (Nat × Event σ ω ℓ) → System σ ω ℓ ε → Prop where
  | nil : Run R s [] s
  | snoc {trace t e u} (m : Move) (before : Run R s trace t) (moved : m.effect R t = some (e, u)) :
      Run R s (trace ++ [(m.client, e)]) u

def replay [DecidableEq κ] (R : Rows σ ω κ) (s : System σ ω ℓ ε) :
    List Move → Option (List (Nat × Event σ ω ℓ) × System σ ω ℓ ε)
  | [] => some ([], s)
  | m :: ms => do
      let (e, t) ← m.effect R s
      let (trace, u) ← replay R t ms
      some ((m.client, e) :: trace, u)

/- What one move can do, said once: every invariant is derived from this. -/
inductive Moved (R : Rows σ ω κ) (s : System σ ω ℓ ε) (i : Nat) (c : Client σ ω ℓ ε) :
    Event σ ω ℓ → System σ ω ℓ ε → Prop where
  | exec {site writes next} (v : σ) (at_ : c.program = .exec site writes next)
      (reads : v = view R.effect s.store c.pending)
      (free : ∀ k ∈ (writes v).flatMap R.locks, k ∉ lockedByOthers R s i) :
      Moved R s i c (.exec site v (writes v)) (s.update s.store i
        ⟨next v, c.pending ++ writes v, c.log ++ [.exec site v (writes v)]⟩)
  | commit {site next} (at_ : c.program = .commit site next) :
      Moved R s i c (.commit site) (s.update (view R.effect s.store c.pending) i
        ⟨next, [], c.log ++ [.commit site]⟩)
  | rollback {next} (at_ : c.program = .rollback next) :
      Moved R s i c .rollback (s.update s.store i ⟨next, [], c.log ++ [.rollback]⟩)
  | call {site next} (at_ : c.program = .call site next) :
      Moved R s i c (.call site) (s.update s.store i ⟨next, c.pending, c.log ++ [.call site]⟩)
  | crash : Moved R s i c .crash (s.update s.store i ⟨.pure (), [], c.log ++ [.crash]⟩)

theorem movedOf [DecidableEq κ] {R : Rows σ ω κ} {s t : System σ ω ℓ ε} {m : Move}
    {e : Event σ ω ℓ} (moved : m.effect R s = some (e, t)) :
    ∃ c, s.clients[m.client]? = some c ∧ Moved R s m.client c e t := by
  cases m with
  | crash i =>
    simp only [Move.effect, crash, Move.client] at moved ⊢
    split at moved
    · contradiction
    · rename_i c found
      cases moved
      exact ⟨c, found, .crash⟩
  | step i =>
    simp only [Move.effect, step, Move.client] at moved ⊢
    split at moved
    · contradiction
    · rename_i c found
      refine ⟨c, found, ?_⟩
      split at moved
      · contradiction
      · contradiction
      · rename_i at_
        split at moved
        · cases moved
          exact .exec _ at_ rfl (by assumption)
        · contradiction
      · cases moved; exact .commit (by assumption)
      · cases moved; exact .rollback (by assumption)
      · cases moved; exact .call (by assumption)

theorem runInvariant [DecidableEq κ] {R : Rows σ ω κ} {s : System σ ω ℓ ε}
    (I : List (Nat × Event σ ω ℓ) → System σ ω ℓ ε → Prop) (init : I [] s)
    (kept : ∀ trace t i c e u, I trace t → t.clients[i]? = some c → Moved R t i c e u →
      I (trace ++ [(i, e)]) u)
    {trace t} (run : Run R s trace t) : I trace t := by
  induction run with
  | nil => exact init
  | snoc m before moved ih =>
    obtain ⟨c, found, did⟩ := movedOf moved
    exact kept _ _ _ c _ _ ih found did

theorem replayRunFrom [DecidableEq κ] {R : Rows σ ω κ} {s t u : System σ ω ℓ ε}
    {moves : List Move} {trace trace' : List (Nat × Event σ ω ℓ)}
    (before : Run R s trace t) (ok : replay R t moves = some (trace', u)) :
    Run R s (trace ++ trace') u := by
  induction moves generalizing t trace trace' with
  | nil =>
    simp only [replay, Option.some.injEq, Prod.mk.injEq] at ok
    obtain ⟨rfl, rfl⟩ := ok
    simpa using before
  | cons m ms ih =>
    simp only [replay, bind, Option.bind_eq_some_iff, Prod.exists] at ok
    obtain ⟨e, next, moved, rest, last, replayed, same⟩ := ok
    cases Option.some.inj same
    have := ih (.snoc m before moved) replayed
    simpa using this

theorem replayRun [DecidableEq κ] {R : Rows σ ω κ} {s t : System σ ω ℓ ε}
    {moves : List Move} {trace : List (Nat × Event σ ω ℓ)}
    (ok : replay R s moves = some (trace, t)) : Run R s trace t := by
  simpa using replayRunFrom .nil ok

/-! The local history of a client is its part of the trace, and a program whose weakest
precondition holds keeps its guarantees in every interleaving. -/

def own (i : Nat) (trace : List (Nat × Event σ ω ℓ)) : List (Event σ ω ℓ) :=
  (trace.filter fun entry => entry.1 == i).map Prod.snd

@[simp] theorem ownNil (i : Nat) : own i ([] : List (Nat × Event σ ω ℓ)) = [] := rfl
@[simp] theorem ownSnoc (i j : Nat) (trace : List (Nat × Event σ ω ℓ)) (e : Event σ ω ℓ) :
    own i (trace ++ [(j, e)]) = if j = i then own i trace ++ [e] else own i trace := by
  by_cases same : j = i <;> simp [own, same]

theorem ownAppend (i : Nat) (before after : List (Nat × Event σ ω ℓ)) :
    own i (before ++ after) = own i before ++ own i after := by
  simp [own]

def Along (P : List (Event σ ω ℓ) → Event σ ω ℓ → Prop) (trace : List (Nat × Event σ ω ℓ)) :
    Prop :=
  ∀ before i e after, trace = before ++ (i, e) :: after → P (own i before) e

theorem alongNil (P : List (Event σ ω ℓ) → Event σ ω ℓ → Prop) : Along P [] := by
  intro before i e after same
  simp at same

theorem alongSnoc {P : List (Event σ ω ℓ) → Event σ ω ℓ → Prop}
    {trace : List (Nat × Event σ ω ℓ)} {i : Nat} {e : Event σ ω ℓ} :
    Along P (trace ++ [(i, e)]) ↔ Along P trace ∧ P (own i trace) e := by
  constructor
  · intro all
    refine ⟨fun before j f after same => ?_, all trace i e [] (by simp)⟩
    exact all before j f (after ++ [(i, e)]) (by simp [same])
  · rintro ⟨all, last⟩ before j f after same
    rcases List.eq_nil_or_concat after with rfl | ⟨after', entry, rfl⟩
    · obtain ⟨rfl, final⟩ := List.append_inj' same rfl
      cases final
      exact last
    · rw [List.concat_eq_append, ← List.cons_append, ← List.append_assoc] at same
      obtain ⟨rfl, -⟩ := List.append_inj' same rfl
      exact all before j f after' rfl

theorem alongOfMem {P : Event σ ω ℓ → Prop} {trace : List (Nat × Event σ ω ℓ)}
    (all : ∀ entry ∈ trace, P entry.2) : Along (fun _ e => P e) trace :=
  fun _ i e _ same => all (i, e) (by simp [same])

theorem logIsOwn [DecidableEq κ] {R : Rows σ ω κ} {store : σ}
    {programs : List (Program σ ω ℓ ε Unit)} {trace t}
    (run : Run R (System.start store programs) trace t) :
    ∀ i c, t.clients[i]? = some c → c.log = own i trace := by
  refine runInvariant (fun trace t => ∀ i c, t.clients[i]? = some c → c.log = own i trace)
    ?_ ?_ run
  · intro i c found
    simp only [System.start, List.getElem?_map, Option.map_eq_some_iff] at found
    obtain ⟨p, -, rfl⟩ := found
    rfl
  · intro trace t i c e u ih found did j d here
    have cLog := ih i c found
    have bound : i < t.clients.length := (List.getElem?_eq_some_iff.mp found).1
    by_cases same : i = j
    · subst same
      cases did <;>
      · simp only [System.update, List.getElem?_set_self bound, Option.some.injEq] at here
        subst here
        simp [cLog]
    · cases did <;>
      · simp only [System.update, List.getElem?_set_ne same] at here
        simp [same, ih j d here]

/- The run rule of the logic: if every event of a run is as assumed, every event is
as guaranteed and what is left of each program keeps its precondition. -/
theorem runKeepsContract [DecidableEq κ] {R : Rows σ ω κ} {C : Contract σ ω ℓ} {store : σ}
    {programs : List (Program σ ω ℓ ε Unit)}
    (valid : ∀ p ∈ programs, wp C [] p fun _ _ => True) (crashes : ∀ log, C.guarantee log .crash)
    {trace t} (run : Run R (System.start store programs) trace t) (assumed : Along C.assume trace) :
    Along C.guarantee trace ∧
      ∀ i c, t.clients[i]? = some c → wp C (own i trace) c.program fun _ _ => True := by
  refine runInvariant (fun trace t => Along C.assume trace → Along C.guarantee trace ∧
      ∀ i c, t.clients[i]? = some c → wp C (own i trace) c.program fun _ _ => True)
    ?_ ?_ run assumed
  · intro _
    refine ⟨alongNil _, fun i c found => ?_⟩
    simp only [System.start, List.getElem?_map, Option.map_eq_some_iff] at found
    obtain ⟨p, here, rfl⟩ := found
    exact valid p (List.mem_of_getElem? here)
  · intro trace t i c e u ih found did assumed
    obtain ⟨assumedBefore, assumedNow⟩ := alongSnoc.mp assumed
    obtain ⟨kept, rest⟩ := ih assumedBefore
    have bound : i < t.clients.length := (List.getElem?_eq_some_iff.mp found).1
    have here := rest i c found
    have moved : C.guarantee (own i trace) e ∧
        ∃ d, u.clients = t.clients.set i d ∧
          wp C (own i trace ++ [e]) d.program fun _ _ => True := by
      cases did with
      | exec v at_ reads free =>
        rw [at_] at here
        obtain ⟨good, next⟩ := here v assumedNow
        exact ⟨good, _, rfl, next⟩
      | commit at_ =>
        rw [at_] at here
        obtain ⟨good, next⟩ := here assumedNow
        exact ⟨good, _, rfl, next⟩
      | rollback at_ =>
        rw [at_] at here
        obtain ⟨good, next⟩ := here assumedNow
        exact ⟨good, _, rfl, next⟩
      | call at_ =>
        rw [at_] at here
        obtain ⟨good, next⟩ := here assumedNow
        exact ⟨good, _, rfl, next⟩
      | crash => exact ⟨crashes _, _, rfl, trivial⟩
    obtain ⟨good, d, set, next⟩ := moved
    refine ⟨alongSnoc.mpr ⟨kept, good⟩, fun j c' at' => ?_⟩
    rw [set] at at'
    by_cases same : i = j
    · subst same
      simp only [List.getElem?_set_self bound, Option.some.injEq] at at'
      subst at'
      simpa using next
    · rw [List.getElem?_set_ne same] at at'
      simpa [same] using rest j c' at'

end ReadCommitted
