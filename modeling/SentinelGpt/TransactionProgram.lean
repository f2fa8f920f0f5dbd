import Mathlib.Data.List.Basic
import Mathlib.Tactic.Common

/-! Client programs of a transactional store. A program is the tree of its
statements: each statement reads the view of its own transaction, stages writes
and continues with what it read. Exceptions end the tree or reach a handler. -/
namespace ReadCommitted

/- `σ` is the store, `ω` a staged write, `ℓ` names the statements, `ε` the exceptions. -/
inductive Program (σ ω ℓ ε α : Type) where
  | pure (value : α)
  | raise (exception : ε)
  | exec (site : ℓ) (writes : σ → List ω) (next : σ → Program σ ω ℓ ε α)
  | commit (site : ℓ) (next : Program σ ω ℓ ε α)
  | rollback (next : Program σ ω ℓ ε α)
  | call (site : ℓ) (next : Program σ ω ℓ ε α)

variable {σ ω ℓ ε α β : Type}

namespace Program

def bind : Program σ ω ℓ ε α → (α → Program σ ω ℓ ε β) → Program σ ω ℓ ε β
  | .pure a, k => k a
  | .raise e, _ => .raise e
  | .exec site writes next, k => .exec site writes fun v => (next v).bind k
  | .commit site next, k => .commit site (next.bind k)
  | .rollback next, k => .rollback (next.bind k)
  | .call site next, k => .call site (next.bind k)

def tryCatch : Program σ ω ℓ ε α → (ε → Program σ ω ℓ ε α) → Program σ ω ℓ ε α
  | .pure a, _ => .pure a
  | .raise e, handler => handler e
  | .exec site writes next, handler => .exec site writes fun v => (next v).tryCatch handler
  | .commit site next, handler => .commit site (next.tryCatch handler)
  | .rollback next, handler => .rollback (next.tryCatch handler)
  | .call site next, handler => .call site (next.tryCatch handler)

instance : Monad (Program σ ω ℓ ε) where
  pure := .pure
  bind := .bind

instance : MonadExceptOf ε (Program σ ω ℓ ε) where
  throw := .raise
  tryCatch := .tryCatch

/- A session block: whatever ends it, what it has not committed is rolled back. -/
def session (body : Program σ ω ℓ ε α) : Program σ ω ℓ ε α :=
  (body.tryCatch fun e => .rollback (.raise e)).bind fun a => .rollback (.pure a)

@[simp] theorem pureEq (a : α) : (Pure.pure a : Program σ ω ℓ ε α) = .pure a := rfl
@[simp] theorem bindEq (p : Program σ ω ℓ ε α) (k : α → Program σ ω ℓ ε β) :
    (p >>= k) = p.bind k := rfl
@[simp] theorem throwEq (e : ε) : (throw e : Program σ ω ℓ ε α) = .raise e := rfl
@[simp] theorem tryCatchEq (p : Program σ ω ℓ ε α) (h : ε → Program σ ω ℓ ε α) :
    MonadExcept.tryCatch p h = p.tryCatch h := rfl

end Program

inductive Event (σ ω ℓ : Type) where
  | exec (site : ℓ) (view : σ) (writes : List ω)
  | commit (site : ℓ)
  | rollback
  | call (site : ℓ)
  | crash

/- What a client may rely on at its next event, after its own events so far,
and what it owes in return. -/
structure Contract (σ ω ℓ : Type) where
  assume : List (Event σ ω ℓ) → Event σ ω ℓ → Prop
  guarantee : List (Event σ ω ℓ) → Event σ ω ℓ → Prop

/- The weakest precondition of a program: from the events `log` on, every event it
relies on being as assumed is as guaranteed, and what ends it satisfies `post`. -/
def wp (C : Contract σ ω ℓ) : List (Event σ ω ℓ) → Program σ ω ℓ ε α →
    (List (Event σ ω ℓ) → Except ε α → Prop) → Prop
  | log, .pure a, post => post log (.ok a)
  | log, .raise e, post => post log (.error e)
  | log, .exec site writes next, post =>
      ∀ v, C.assume log (.exec site v (writes v)) →
        C.guarantee log (.exec site v (writes v)) ∧
        wp C (log ++ [.exec site v (writes v)]) (next v) post
  | log, .commit site next, post => C.assume log (.commit site) →
      C.guarantee log (.commit site) ∧ wp C (log ++ [.commit site]) next post
  | log, .rollback next, post => C.assume log .rollback →
      C.guarantee log .rollback ∧ wp C (log ++ [.rollback]) next post
  | log, .call site next, post => C.assume log (.call site) →
      C.guarantee log (.call site) ∧ wp C (log ++ [.call site]) next post

theorem wpMono {C : Contract σ ω ℓ} {log : List (Event σ ω ℓ)} {p : Program σ ω ℓ ε α}
    {post post' : List (Event σ ω ℓ) → Except ε α → Prop}
    (weaker : ∀ log r, post log r → post' log r) (h : wp C log p post) : wp C log p post' := by
  induction p generalizing log with
  | pure a => exact weaker _ _ h
  | raise e => exact weaker _ _ h
  | exec site writes next ih => exact fun v a => ⟨(h v a).1, ih v (h v a).2⟩
  | commit site next ih => exact fun a => ⟨(h a).1, ih (h a).2⟩
  | rollback next ih => exact fun a => ⟨(h a).1, ih (h a).2⟩
  | call site next ih => exact fun a => ⟨(h a).1, ih (h a).2⟩

theorem wpBind {C : Contract σ ω ℓ} {log : List (Event σ ω ℓ)} {p : Program σ ω ℓ ε α}
    {k : α → Program σ ω ℓ ε β} {post : List (Event σ ω ℓ) → Except ε β → Prop} :
    wp C log (p.bind k) post ↔ wp C log p fun log r => match r with
      | .ok a => wp C log (k a) post
      | .error e => post log (.error e) := by
  induction p generalizing log with
  | pure a => rfl
  | raise e => rfl
  | exec site writes next ih => simp only [Program.bind, wp, ih]
  | commit site next ih => simp only [Program.bind, wp, ih]
  | rollback next ih => simp only [Program.bind, wp, ih]
  | call site next ih => simp only [Program.bind, wp, ih]

theorem wpTryCatch {C : Contract σ ω ℓ} {log : List (Event σ ω ℓ)} {p : Program σ ω ℓ ε α}
    {handler : ε → Program σ ω ℓ ε α} {post : List (Event σ ω ℓ) → Except ε α → Prop} :
    wp C log (p.tryCatch handler) post ↔ wp C log p fun log r => match r with
      | .ok a => post log (.ok a)
      | .error e => wp C log (handler e) post := by
  induction p generalizing log with
  | pure a => rfl
  | raise e => rfl
  | exec site writes next ih => simp only [Program.tryCatch, wp, ih]
  | commit site next ih => simp only [Program.tryCatch, wp, ih]
  | rollback next ih => simp only [Program.tryCatch, wp, ih]
  | call site next ih => simp only [Program.tryCatch, wp, ih]

/- `Q` holds of every value the program returns, and its guarantees are kept on the way,
whatever happened before it. -/
def Meets (C : Contract σ ω ℓ) (p : Program σ ω ℓ ε α) (Q : α → Prop) : Prop :=
  ∀ log, wp C log p fun _ r => ∀ a, r = .ok a → Q a

namespace Meets
variable {C : Contract σ ω ℓ}

theorem weaken {p : Program σ ω ℓ ε α} {Q R : α → Prop} (meets : Meets C p Q)
    (weaker : ∀ a, Q a → R a) : Meets C p R :=
  fun log => wpMono (fun _ _ all a same => weaker a (all a same)) (meets log)

theorem any {p : Program σ ω ℓ ε α} {Q : α → Prop} (meets : Meets C p Q) :
    Meets C p fun _ => True :=
  meets.weaken fun _ _ => trivial

theorem pure {a : α} {Q : α → Prop} (holds : Q a) :
    Meets C (Pure.pure a : Program σ ω ℓ ε α) Q := by
  intro log b same
  cases same
  exact holds

theorem raise {e : ε} {Q : α → Prop} : Meets C (Program.raise e : Program σ ω ℓ ε α) Q := by
  intro log b same
  contradiction

theorem bind {p : Program σ ω ℓ ε α} {k : α → Program σ ω ℓ ε β} {Q : α → Prop} {R : β → Prop}
    (first : Meets C p Q) (rest : ∀ a, Q a → Meets C (k a) R) : Meets C (p >>= k) R := by
  intro log
  refine wpBind.mpr (wpMono ?_ (first log))
  intro log r holds
  cases r with
  | ok a => exact rest a (holds a rfl) log
  | error e => exact fun b same => by contradiction

theorem tryCatch {p : Program σ ω ℓ ε α} {handler : ε → Program σ ω ℓ ε α} {Q : α → Prop}
    (body : Meets C p Q) (handled : ∀ e, Meets C (handler e) Q) :
    Meets C (p.tryCatch handler) Q := by
  intro log
  refine wpTryCatch.mpr (wpMono ?_ (body log))
  intro log r holds
  cases r with
  | ok a => exact fun b same => holds b same
  | error e => exact handled e log

theorem rollback {p : Program σ ω ℓ ε α} {Q : α → Prop} (allowed : ∀ log, C.guarantee log .rollback)
    (rest : Meets C p Q) : Meets C (.rollback p) Q :=
  fun log _ => ⟨allowed log, rest _⟩

theorem session {p : Program σ ω ℓ ε α} {Q : α → Prop} (allowed : ∀ log, C.guarantee log .rollback)
    (body : Meets C p Q) : Meets C p.session Q :=
  bind (tryCatch body fun _ => rollback allowed raise) fun _ holds =>
    rollback allowed (pure holds)

end Meets

/- The run of one program alone against the store: the committed store, the writes
still staged, and how the program ended. -/
structure Ended (σ ω ε α : Type) where
  store : σ
  pending : List ω
  result : Except ε α

def view (effect : σ → ω → σ) (store : σ) (pending : List ω) : σ := pending.foldl effect store

def solo (effect : σ → ω → σ) : Program σ ω ℓ ε α → σ → List ω → Ended σ ω ε α
  | .pure a, store, pending => ⟨store, pending, .ok a⟩
  | .raise e, store, pending => ⟨store, pending, .error e⟩
  | .exec _ writes next, store, pending =>
      let v := view effect store pending
      solo effect (next v) store (pending ++ writes v)
  | .commit _ next, store, pending => solo effect next (view effect store pending) []
  | .rollback next, store, _ => solo effect next store []
  | .call _ next, store, pending => solo effect next store pending

@[simp] theorem viewNil (effect : σ → ω → σ) (store : σ) : view effect store [] = store := rfl
@[simp] theorem viewAppend (effect : σ → ω → σ) (store : σ) (ws ws' : List ω) :
    view effect store (ws ++ ws') = view effect (view effect store ws) ws' := by
  simp [view]
theorem viewCons (effect : σ → ω → σ) (store : σ) (w : ω) (ws : List ω) :
    view effect store (w :: ws) = view effect (effect store w) ws := rfl

theorem soloBind (effect : σ → ω → σ) (p : Program σ ω ℓ ε α) (k : α → Program σ ω ℓ ε β)
    (store : σ) (pending : List ω) :
    solo effect (p.bind k) store pending =
      match solo effect p store pending with
      | ⟨store, pending, .ok a⟩ => solo effect (k a) store pending
      | ⟨store, pending, .error e⟩ => ⟨store, pending, .error e⟩ := by
  induction p generalizing store pending with
  | pure a => rfl
  | raise e => rfl
  | exec site writes next ih => simp only [Program.bind, solo, ih]
  | commit site next ih => simp only [Program.bind, solo, ih]
  | rollback next ih => simp only [Program.bind, solo, ih]
  | call site next ih => simp only [Program.bind, solo, ih]

theorem soloTryCatch (effect : σ → ω → σ) (p : Program σ ω ℓ ε α)
    (handler : ε → Program σ ω ℓ ε α) (store : σ) (pending : List ω) :
    solo effect (p.tryCatch handler) store pending =
      match solo effect p store pending with
      | ⟨store, pending, .ok a⟩ => ⟨store, pending, .ok a⟩
      | ⟨store, pending, .error e⟩ => solo effect (handler e) store pending := by
  induction p generalizing store pending with
  | pure a => rfl
  | raise e => rfl
  | exec site writes next ih => simp only [Program.tryCatch, solo, ih]
  | commit site next ih => simp only [Program.tryCatch, solo, ih]
  | rollback next ih => simp only [Program.tryCatch, solo, ih]
  | call site next ih => simp only [Program.tryCatch, solo, ih]

theorem soloSession (effect : σ → ω → σ) (p : Program σ ω ℓ ε α) (store : σ) (pending : List ω) :
    solo effect p.session store pending =
      ⟨(solo effect p store pending).store, [], (solo effect p store pending).result⟩ := by
  simp only [Program.session, soloBind, soloTryCatch]
  rcases solo effect p store pending with ⟨store, pending, _ | _⟩ <;> rfl

def writesOnly (P : ω → Prop) : Contract σ ω ℓ where
  assume _ _ := True
  guarantee _
    | .exec _ _ writes => ∀ w ∈ writes, P w
    | _ => True

theorem soloWrites {effect : σ → ω → σ} {P : ω → Prop} {p : Program σ ω ℓ ε α}
    {log : List (Event σ ω ℓ)} {post : List (Event σ ω ℓ) → Except ε α → Prop}
    (only : wp (writesOnly P) log p post) (store : σ) {pending : List ω} (staged : ∀ w ∈ pending, P w) :
    ∃ ws, (∀ w ∈ ws, P w) ∧ (solo effect p store pending).store = view effect store ws := by
  have none : ∀ w ∈ ([] : List ω), P w := by simp
  induction p generalizing log store pending with
  | pure a => exact ⟨[], none, rfl⟩
  | raise e => exact ⟨[], none, rfl⟩
  | exec site writes next ih =>
    obtain ⟨good, rest⟩ := only (view effect store pending) trivial
    refine ih (view effect store pending) rest store fun w member => ?_
    rcases List.mem_append.mp member with old | new
    · exact staged w old
    · exact good w new
  | commit site next ih =>
    obtain ⟨ws, all, same⟩ := ih (only trivial).2 (view effect store pending) none
    refine ⟨pending ++ ws, fun w member => ?_, by rw [viewAppend, solo, same]⟩
    exact (List.mem_append.mp member).elim (staged w) (all w)
  | rollback next ih => exact ih (only trivial).2 store none
  | call site next ih => exact ih (only trivial).2 store staged

/-! A program within one transaction, run alone: the exceptions it can meet are taken in
the order of their points, the first ends it, and without any it comes to its end. -/

def raised (hazards : List (Option ε)) : Option ε := hazards.findSome? id

@[simp] theorem raisedNil : raised ([] : List (Option ε)) = none := rfl
@[simp] theorem raisedCons (e : Option ε) (hazards : List (Option ε)) :
    raised (e :: hazards) = e.or (raised hazards) := by
  cases e <;> rfl
theorem raisedAppend (hazards hazards' : List (Option ε)) :
    raised (hazards ++ hazards') = (raised hazards).or (raised hazards') := by
  induction hazards with
  | nil => rfl
  | cons e rest ih => simp [ih, Option.or_assoc]

structure Passes (effect : σ → ω → σ) (p : Program σ ω ℓ ε α) (store : σ) (pending : List ω)
    (hazards : List (Option ε)) (last : σ) (staged : List ω) (a : α) : Prop where
  stopped : ∀ e, raised hazards = some e →
    (solo effect p store pending).store = store ∧ (solo effect p store pending).result = .error e
  ended : raised hazards = none → solo effect p store pending = ⟨last, staged, .ok a⟩

namespace Passes
variable {effect : σ → ω → σ} {store last : σ} {pending staged staged' : List ω}

theorem pure (a : α) :
    Passes effect (Pure.pure a : Program σ ω ℓ ε α) store pending [] store pending a :=
  ⟨fun _ none => by contradiction, fun _ => rfl⟩

theorem stoppedBind {p : Program σ ω ℓ ε α} (k : α → Program σ ω ℓ ε β) {hazards : List (Option ε)}
    {a : α} (first : Passes effect p store pending hazards last staged a) {e : ε}
    (stops : raised hazards = some e) :
    (solo effect (p >>= k) store pending).store = store ∧
      (solo effect (p >>= k) store pending).result = .error e := by
  obtain ⟨kept, failed⟩ := first.stopped e stops
  rw [Program.bindEq, soloBind]
  generalize solo effect p store pending = ended at kept failed
  cases ended with
  | mk store' pending' result =>
    cases failed
    exact ⟨kept, rfl⟩

theorem bind {p : Program σ ω ℓ ε α} {k : α → Program σ ω ℓ ε β} {hazards hazards' : List (Option ε)}
    {a : α} {b : β} (first : Passes effect p store pending hazards store staged a)
    (rest : Passes effect (k a) store staged hazards' last staged' b) :
    Passes effect (p >>= k) store pending (hazards ++ hazards') last staged' b := by
  constructor
  · intro e stops
    rw [raisedAppend] at stops
    cases early : raised hazards with
    | some f =>
      rw [early] at stops
      cases stops
      exact stoppedBind k first early
    | none =>
      rw [early, Option.none_or] at stops
      rw [Program.bindEq, soloBind, first.ended early]
      exact rest.stopped e stops
  · intro none
    rw [raisedAppend, Option.or_eq_none_iff] at none
    rw [Program.bindEq, soloBind, first.ended none.1]
    exact rest.ended none.2

theorem bindLast {p : Program σ ω ℓ ε α} {k : α → Program σ ω ℓ ε β} {hazards : List (Option ε)}
    {a : α} {b : β} {final : σ} (first : Passes effect p store pending hazards last staged a)
    (rest : Passes effect (k a) last staged [] final staged' b) :
    Passes effect (p >>= k) store pending hazards final staged' b := by
  constructor
  · intro e stops
    exact stoppedBind k first stops
  · intro none
    rw [Program.bindEq, soloBind, first.ended none]
    exact rest.ended rfl

theorem thenRuns {p : Program σ ω ℓ ε α} (k : α → Program σ ω ℓ ε β) {hazards : List (Option ε)}
    {a : α} (first : Passes effect p store pending hazards last staged a) :
    (∃ e, raised hazards = some e ∧ (solo effect (p >>= k) store pending).store = store ∧
      (solo effect (p >>= k) store pending).result = .error e) ∨
    (raised hazards = none ∧ solo effect (p >>= k) store pending = solo effect (k a) last staged) := by
  cases stops : raised hazards with
  | some e => exact .inl ⟨e, rfl, stoppedBind k first stops⟩
  | none =>
    refine .inr ⟨rfl, ?_⟩
    rw [Program.bindEq, soloBind, first.ended stops]

end Passes

structure Yields (effect : σ → ω → σ) (p : Program σ ω ℓ ε α) (store : σ) (pending : List ω)
    (Q : List ω → α → Prop) : Prop where
  kept : (solo effect p store pending).store = store
  answer : ∀ a, (solo effect p store pending).result = .ok a →
    Q (solo effect p store pending).pending a

namespace Yields
variable {effect : σ → ω → σ} {store : σ} {pending : List ω}

theorem pure {a : α} {Q : List ω → α → Prop} (holds : Q pending a) :
    Yields effect (Pure.pure a : Program σ ω ℓ ε α) store pending Q := by
  refine ⟨rfl, ?_⟩
  rintro b ⟨⟩
  exact holds

theorem raise {e : ε} {Q : List ω → α → Prop} :
    Yields effect (Program.raise e : Program σ ω ℓ ε α) store pending Q :=
  ⟨rfl, fun a same => by contradiction⟩

theorem bind {p : Program σ ω ℓ ε α} {k : α → Program σ ω ℓ ε β} {Q : List ω → α → Prop}
    {R : List ω → β → Prop} (first : Yields effect p store pending Q)
    (rest : ∀ staged a, Q staged a → Yields effect (k a) store staged R) :
    Yields effect (p >>= k) store pending R := by
  obtain ⟨kept, answer⟩ := first
  have bound : solo effect (p >>= k) store pending = _ := soloBind effect p k store pending
  generalize solo effect p store pending = ended at kept answer bound
  obtain ⟨store', staged, result⟩ := ended
  subst kept
  cases result with
  | ok a =>
    have last := rest staged a (answer a rfl)
    exact ⟨bound ▸ last.kept, bound ▸ last.answer⟩
  | error e =>
    refine ⟨by rw [bound], fun b ok => ?_⟩
    rw [bound] at ok
    contradiction

theorem weaken {p : Program σ ω ℓ ε α} {Q R : List ω → α → Prop} (yields : Yields effect p store pending Q)
    (weaker : ∀ staged a, Q staged a → R staged a) : Yields effect p store pending R :=
  ⟨yields.kept, fun a ok => weaker _ a (yields.answer a ok)⟩

theorem storeAfter {p : Program σ ω ℓ ε α} {k : α → Program σ ω ℓ ε β} {Q : List ω → α → Prop}
    {P : σ → Prop} (first : Yields effect p store pending Q) (stopped : P store)
    (rest : ∀ staged a, Q staged a → P (solo effect (k a) store staged).store) :
    P (solo effect (p >>= k) store pending).store := by
  obtain ⟨kept, answer⟩ := first
  have bound : solo effect (p >>= k) store pending = _ := soloBind effect p k store pending
  generalize solo effect p store pending = ended at kept answer bound
  obtain ⟨store', staged, result⟩ := ended
  subst kept
  cases result with
  | ok a => exact bound ▸ rest staged a (answer a rfl)
  | error e => exact bound ▸ stopped

end Yields
end ReadCommitted
