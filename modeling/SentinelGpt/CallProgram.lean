import Mathlib.Data.List.Basic
import Mathlib.Tactic.Common

/-! Programs that call their surroundings and keep a state of their own. The surroundings
answer every call as they like; an exception leaves the state as it has become. -/
namespace Calling

/- `σ` is the state, `κ` the calls, `ρ` what they are answered with, `ε` the exceptions. -/
inductive Program (σ κ : Type) (ρ : κ → Type) (ε α : Type) where
  | pure (value : α)
  | raise (exception : ε)
  | call (c : κ) (next : ρ c → Program σ κ ρ ε α)
  | get (next : σ → Program σ κ ρ ε α)
  | set (state : σ) (next : Program σ κ ρ ε α)

variable {σ κ ε α β : Type} {ρ : κ → Type}

namespace Program

def bind : Program σ κ ρ ε α → (α → Program σ κ ρ ε β) → Program σ κ ρ ε β
  | .pure a, k => k a
  | .raise e, _ => .raise e
  | .call c next, k => .call c fun answer => (next answer).bind k
  | .get next, k => .get fun s => (next s).bind k
  | .set s next, k => .set s (next.bind k)

def tryCatch : Program σ κ ρ ε α → (ε → Program σ κ ρ ε α) → Program σ κ ρ ε α
  | .pure a, _ => .pure a
  | .raise e, handler => handler e
  | .call c next, handler => .call c fun answer => (next answer).tryCatch handler
  | .get next, handler => .get fun s => (next s).tryCatch handler
  | .set s next, handler => .set s (next.tryCatch handler)

instance : Monad (Program σ κ ρ ε) where
  pure := .pure
  bind := .bind

instance : MonadExceptOf ε (Program σ κ ρ ε) where
  throw := .raise
  tryCatch := .tryCatch

def ofExcept : Except ε α → Program σ κ ρ ε α
  | .ok a => .pure a
  | .error e => .raise e

/- What ends the body, `cleanup` is run; an exception of its own comes in the place of
whatever the body ended with. -/
def ensure (body : Program σ κ ρ ε α) (cleanup : Program σ κ ρ ε Unit) : Program σ κ ρ ε α :=
  (body.tryCatch fun e => cleanup.bind fun _ => .raise e).bind fun a => cleanup.bind fun _ => .pure a

def modify (change : σ → σ) : Program σ κ ρ ε Unit := .get fun s => .set (change s) (.pure ())

@[simp] theorem pureEq (a : α) : (Pure.pure a : Program σ κ ρ ε α) = .pure a := rfl
@[simp] theorem bindEq (p : Program σ κ ρ ε α) (k : α → Program σ κ ρ ε β) :
    (p >>= k) = p.bind k := rfl
@[simp] theorem throwEq (e : ε) : (throw e : Program σ κ ρ ε α) = .raise e := rfl
@[simp] theorem tryCatchEq (p : Program σ κ ρ ε α) (h : ε → Program σ κ ρ ε α) :
    MonadExcept.tryCatch p h = p.tryCatch h := rfl

end Program

abbrev Answered (κ : Type) (ρ : κ → Type) := (c : κ) × ρ c

inductive Runs : σ → Program σ κ ρ ε α → List (Answered κ ρ) → Except ε α → σ → Prop where
  | pure {s : σ} {a : α} : Runs s (.pure a) [] (.ok a) s
  | raise {s : σ} {e : ε} : Runs s (.raise e) [] (.error e) s
  | call {s s' : σ} {c : κ} {answer : ρ c} {next : ρ c → Program σ κ ρ ε α} {trace : List (Answered κ ρ)}
      {r : Except ε α} (later : Runs s (next answer) trace r s') :
      Runs s (.call c next) (⟨c, answer⟩ :: trace) r s'
  | get {s s' : σ} {next : σ → Program σ κ ρ ε α} {trace : List (Answered κ ρ)} {r : Except ε α}
      (later : Runs s (next s) trace r s') : Runs s (.get next) trace r s'
  | set {s s₁ s' : σ} {next : Program σ κ ρ ε α} {trace : List (Answered κ ρ)} {r : Except ε α}
      (later : Runs s₁ next trace r s') : Runs s (.set s₁ next) trace r s'

def Along (judge : List (Answered κ ρ) → κ → Prop) :
    List (Answered κ ρ) → List (Answered κ ρ) → Prop
  | _, [] => True
  | log, made :: rest => judge log made.1 ∧ Along judge (log ++ [made]) rest

theorem alongAppend {judge : List (Answered κ ρ) → κ → Prop} {log first second : List (Answered κ ρ)} :
    Along judge log (first ++ second) ↔ Along judge log first ∧ Along judge (log ++ first) second := by
  induction first generalizing log with
  | nil => rw [List.nil_append, List.append_nil, Along, true_and]
  | cons made rest ih =>
    rw [List.cons_append, Along, Along, ih, List.append_assoc, List.singleton_append, and_assoc]

theorem alongAt {judge : List (Answered κ ρ) → κ → Prop} {log before after : List (Answered κ ρ)}
    {c : κ} {answer : ρ c} (along : Along judge log (before ++ ⟨c, answer⟩ :: after)) :
    judge (log ++ before) c := (alongAppend.mp along).2.1

/- The run in which the surroundings answer by their history. -/
def play (answer : List (Answered κ ρ) → (c : κ) → ρ c) : List (Answered κ ρ) → σ →
    Program σ κ ρ ε α → List (Answered κ ρ) × Except ε α × σ
  | _, s, .pure a => ([], .ok a, s)
  | _, s, .raise e => ([], .error e, s)
  | before, s, .call c next =>
    let made : Answered κ ρ := ⟨c, answer before c⟩
    let (trace, r, s') := play answer (before ++ [made]) s (next (answer before c))
    (made :: trace, r, s')
  | before, s, .get next => play answer before s (next s)
  | before, _, .set s next => play answer before s next

theorem playRuns (answer : List (Answered κ ρ) → (c : κ) → ρ c) (before : List (Answered κ ρ)) (s : σ)
    (p : Program σ κ ρ ε α) :
    Runs s p (play answer before s p).1 (play answer before s p).2.1 (play answer before s p).2.2 := by
  induction p generalizing before s with
  | pure a => exact .pure
  | raise e => exact .raise
  | call c next ih => exact .call (ih _ _ _)
  | get next ih => exact .get (ih _ _ _)
  | set s next ih => exact .set (ih _ _)

theorem playMade {answer : List (Answered κ ρ) → (c : κ) → ρ c} {before front back : List (Answered κ ρ)} {s : σ}
    {p : Program σ κ ρ ε α} {c : κ} {given : ρ c}
    (made : (play answer before s p).1 = front ++ ⟨c, given⟩ :: back) : given = answer (before ++ front) c := by
  induction p generalizing before front s with
  | pure a | raise e => exact absurd made (by simp [play])
  | call c' next ih =>
    cases front with
    | nil =>
      obtain ⟨same, -⟩ := List.cons.inj made
      cases same
      rw [List.append_nil]
    | cons first rest =>
      obtain ⟨rfl, later⟩ := List.cons.inj made
      have there := ih _ later
      rwa [List.append_assoc] at there
  | get next ih => exact ih s made
  | set s next ih => exact ih made

/- The weakest precondition of a program after the calls `log`, as long as the surroundings
answer as `rely` says: every call it makes is allowed, and however it ends satisfies `post`. -/
def wp (rely : Answered κ ρ → Prop) (allow : List (Answered κ ρ) → κ → Prop) :
    List (Answered κ ρ) → σ → Program σ κ ρ ε α →
    (List (Answered κ ρ) → σ → Except ε α → Prop) → Prop
  | log, s, .pure a, post => post log s (.ok a)
  | log, s, .raise e, post => post log s (.error e)
  | log, s, .call c next, post => allow log c ∧
      ∀ answer, rely ⟨c, answer⟩ → wp rely allow (log ++ [⟨c, answer⟩]) s (next answer) post
  | log, s, .get next, post => wp rely allow log s (next s) post
  | log, _, .set s next, post => wp rely allow log s next post

section Rules
variable {rely : Answered κ ρ → Prop} {allow : List (Answered κ ρ) → κ → Prop} {log : List (Answered κ ρ)} {s : σ}

theorem wpMono {p : Program σ κ ρ ε α} {post post' : List (Answered κ ρ) → σ → Except ε α → Prop}
    (holds : wp rely allow log s p post) (weaker : ∀ log s r, post log s r → post' log s r) :
    wp rely allow log s p post' := by
  induction p generalizing log s with
  | pure a => exact weaker _ _ _ holds
  | raise e => exact weaker _ _ _ holds
  | call c next ih => exact ⟨holds.1, fun answer given => ih answer (holds.2 answer given)⟩
  | get next ih => exact ih s holds
  | set s next ih => exact ih holds

theorem wpBind {p : Program σ κ ρ ε α} {k : α → Program σ κ ρ ε β}
    {post : List (Answered κ ρ) → σ → Except ε β → Prop} :
    wp rely allow log s (p.bind k) post ↔ wp rely allow log s p fun log s r => match r with
      | .ok a => wp rely allow log s (k a) post
      | .error e => post log s (.error e) := by
  induction p generalizing log s with
  | pure a => rfl
  | raise e => rfl
  | call c next ih => simp only [Program.bind, wp, ih]
  | get next ih => simp only [Program.bind, wp, ih]
  | set s next ih => simp only [Program.bind, wp, ih]

theorem wpAll {p : Program σ κ ρ ε α} {post : List (Answered κ ρ) → σ → Except ε α → Prop}
    (allowed : ∀ log c, allow log c) (all : ∀ log s r, post log s r) : wp rely allow log s p post := by
  induction p generalizing log s with
  | pure a | raise e => exact all _ _ _
  | call c next ih => exact ⟨allowed log c, fun answer _ => ih answer⟩
  | get next ih => exact ih s
  | set s next ih => exact ih

theorem wpAnyLog {p : Program σ κ ρ ε α} {post : σ → Except ε α → Prop}
    (holds : wp rely (fun _ _ => True) log s p fun _ => post) (log' : List (Answered κ ρ)) :
    wp rely (fun _ _ => True) log' s p fun _ => post := by
  induction p generalizing log log' s with
  | pure a => exact holds
  | raise e => exact holds
  | call c next ih => exact ⟨trivial, fun answer given => ih answer (holds.2 answer given) _⟩
  | get next ih => exact ih s holds log'
  | set s next ih => exact ih holds log'

theorem wpModify {change : σ → σ} {k : Unit → Program σ κ ρ ε β}
    {post : List (Answered κ ρ) → σ → Except ε β → Prop} :
    wp rely allow log s ((Program.modify change).bind k) post ↔
      wp rely allow log (change s) (k ()) post := Iff.rfl

theorem wpSeq {p : Program σ κ ρ ε α} {k : α → Program σ κ ρ ε β}
    {between : List (Answered κ ρ) → σ → Except ε α → Prop}
    {post : List (Answered κ ρ) → σ → Except ε β → Prop}
    (first : wp rely allow log s p between)
    (failed : ∀ log s e, between log s (.error e) → post log s (.error e))
    (second : ∀ log s a, between log s (.ok a) → wp rely allow log s (k a) post) :
    wp rely allow log s (p.bind k) post := by
  refine wpBind.2 (wpMono first fun log s r ended => ?_)
  cases r with
  | ok a => exact second log s a ended
  | error e => exact failed log s e ended

theorem wpTryCatch {p : Program σ κ ρ ε α} {handler : ε → Program σ κ ρ ε α}
    {post : List (Answered κ ρ) → σ → Except ε α → Prop} :
    wp rely allow log s (p.tryCatch handler) post ↔ wp rely allow log s p fun log s r => match r with
      | .ok a => post log s (.ok a)
      | .error e => wp rely allow log s (handler e) post := by
  induction p generalizing log s with
  | pure a => rfl
  | raise e => rfl
  | call c next ih => simp only [Program.tryCatch, wp, ih]
  | get next ih => simp only [Program.tryCatch, wp, ih]
  | set s next ih => simp only [Program.tryCatch, wp, ih]

@[simp] theorem wpOfExcept {x : Except ε α} {post : List (Answered κ ρ) → σ → Except ε α → Prop} :
    wp rely allow log s (Program.ofExcept x) post ↔ post log s x := by
  cases x <;> rfl

/- What is shown of a program holds of its runs. -/
theorem wpRuns {p : Program σ κ ρ ε α} {trace : List (Answered κ ρ)} {r : Except ε α} {s' : σ}
    {post : List (Answered κ ρ) → σ → Except ε α → Prop} (holds : wp rely allow log s p post)
    (run : Runs s p trace r s') (given : ∀ answered ∈ trace, rely answered) :
    post (log ++ trace) s' r ∧ ∀ before c answer after, trace = before ++ ⟨c, answer⟩ :: after →
      allow (log ++ before) c := by
  induction run generalizing log with
  | pure | raise => exact ⟨by rwa [List.append_nil], fun before _ _ after none => by simp at none⟩
  | @call s s' c answer next trace r later ih =>
    obtain ⟨ended, allowed⟩ := ih (holds.2 answer (given _ List.mem_cons_self))
      fun answered member => given answered (List.mem_cons_of_mem _ member)
    rw [List.append_assoc] at ended
    refine ⟨ended, fun before c' answer' after split => ?_⟩
    cases before with
    | nil =>
      obtain ⟨same, -⟩ := List.cons.inj split
      cases same
      rw [List.append_nil]
      exact holds.1
    | cons first rest =>
      obtain ⟨rfl, tail⟩ := List.cons.inj split
      have there := allowed rest c' answer' after tail
      rwa [List.append_assoc] at there
  | get later ih => exact ih holds given
  | set later ih => exact ih holds given

theorem wpWhole {p : Program σ κ ρ ε α} {trace : List (Answered κ ρ)} {r : Except ε α} {s' : σ}
    {post : List (Answered κ ρ) → σ → Except ε α → Prop} (holds : wp rely allow [] s p post)
    (run : Runs s p trace r s') (given : ∀ answered ∈ trace, rely answered) :
    post trace s' r ∧ ∀ before c answer after, trace = before ++ ⟨c, answer⟩ :: after →
      allow before c := by
  have whole := wpRuns holds run given
  simpa only [List.nil_append] using whole

end Rules

section Reading
variable {P : κ → Prop} {p : Program σ κ ρ ε α}

def Program.Reads (P : κ → Prop) : Program σ κ ρ ε α → Prop
  | .pure _ | .raise _ => True
  | .call c next => P c ∧ ∀ answer, (next answer).Reads P
  | .get next => ∀ s, (next s).Reads P
  | .set _ _ => False

theorem readsBind {k : α → Program σ κ ρ ε β} (first : p.Reads P) (second : ∀ a, (k a).Reads P) :
    (p.bind k).Reads P := by
  induction p with
  | pure a => exact second a
  | raise e => trivial
  | call c next ih => exact ⟨first.1, fun answer => ih answer (first.2 answer)⟩
  | get next ih => exact fun s => ih s (first s)
  | set s next ih => exact first.elim

theorem wpReads {rely : Answered κ ρ → Prop} {allow : List (Answered κ ρ) → κ → Prop}
    {log : List (Answered κ ρ)} {s : σ} {I : List (Answered κ ρ) → Prop} (reads : p.Reads P)
    (allowed : ∀ log c, P c → allow log c)
    (keeps : ∀ log c answer, P c → rely ⟨c, answer⟩ → I log → I (log ++ [⟨c, answer⟩]))
    (start : I log) : wp rely allow log s p fun log' s' _ => s' = s ∧ I log' := by
  induction p generalizing log with
  | pure a => exact ⟨rfl, start⟩
  | raise e => exact ⟨rfl, start⟩
  | call c next ih =>
    exact ⟨allowed log c reads.1, fun answer given =>
      ih answer (reads.2 answer) (keeps log c answer reads.1 given start)⟩
  | get next ih => exact ih s (reads s) start
  | set s next ih => exact reads.elim

theorem wpReadsOnly {rely : Answered κ ρ → Prop} {allow : List (Answered κ ρ) → κ → Prop}
    {log : List (Answered κ ρ)} {s : σ} (reads : p.Reads P) (allowed : ∀ log c, P c → allow log c) :
    wp rely allow log s p fun _ s' _ => s' = s :=
  wpMono (wpReads reads allowed (fun _ _ _ _ _ (kept : True) => kept) trivial)
    fun _ _ _ ended => ended.1

end Reading

section Composed
variable {s s' : σ} {trace : List (Answered κ ρ)}

theorem runsBind {p : Program σ κ ρ ε α} {k : α → Program σ κ ρ ε β} {r : Except ε β}
    (run : Runs s (p.bind k) trace r s') :
    (∃ a s₁ before after, Runs s p before (.ok a) s₁ ∧ Runs s₁ (k a) after r s' ∧
      trace = before ++ after) ∨ ∃ e, Runs s p trace (.error e) s' ∧ r = .error e := by
  induction p generalizing s trace with
  | pure a => exact .inl ⟨a, s, [], trace, .pure, run, rfl⟩
  | raise e =>
    cases run
    exact .inr ⟨e, .raise, rfl⟩
  | call c next ih =>
    cases run with
    | call later =>
      rcases ih _ later with ⟨a, s₁, before, after, first, second, rfl⟩ | ⟨e, first, same⟩
      · exact .inl ⟨a, s₁, _ :: before, after, .call first, second, rfl⟩
      · exact .inr ⟨e, .call first, same⟩
  | get next ih =>
    cases run with
    | get later =>
      rcases ih _ later with ⟨a, s₁, before, after, first, second, rfl⟩ | ⟨e, first, same⟩
      · exact .inl ⟨a, s₁, before, after, .get first, second, rfl⟩
      · exact .inr ⟨e, .get first, same⟩
  | set s next ih =>
    cases run with
    | set later =>
      rcases ih later with ⟨a, s₁, before, after, first, second, rfl⟩ | ⟨e, first, same⟩
      · exact .inl ⟨a, s₁, before, after, .set first, second, rfl⟩
      · exact .inr ⟨e, .set first, same⟩

theorem runsDiscard {p : Program σ κ ρ ε α} {r : Except ε Unit}
    (run : Runs s (p.bind fun _ => .pure ()) trace r s') :
    ∃ r₁ : Except ε α, Runs s p trace r₁ s' ∧ r = r₁.map fun _ => () := by
  rcases runsBind run with ⟨a, s₁, before, after, first, second, rfl⟩ | ⟨e, failed, rfl⟩
  · cases second
    exact ⟨.ok a, by rwa [List.append_nil], rfl⟩
  · exact ⟨.error e, failed, rfl⟩

theorem runsTryCatch {p : Program σ κ ρ ε α} {handler : ε → Program σ κ ρ ε α} {r : Except ε α}
    (run : Runs s (p.tryCatch handler) trace r s') :
    (∃ a, Runs s p trace (.ok a) s' ∧ r = .ok a) ∨
      ∃ e s₁ before after, Runs s p before (.error e) s₁ ∧ Runs s₁ (handler e) after r s' ∧
        trace = before ++ after := by
  induction p generalizing s trace with
  | pure a =>
    cases run
    exact .inl ⟨a, .pure, rfl⟩
  | raise e => exact .inr ⟨e, s, [], trace, .raise, run, rfl⟩
  | call c next ih =>
    cases run with
    | call later =>
      rcases ih _ later with ⟨a, first, same⟩ | ⟨e, s₁, before, after, first, second, rfl⟩
      · exact .inl ⟨a, .call first, same⟩
      · exact .inr ⟨e, s₁, _ :: before, after, .call first, second, rfl⟩
  | get next ih =>
    cases run with
    | get later =>
      rcases ih _ later with ⟨a, first, same⟩ | ⟨e, s₁, before, after, first, second, rfl⟩
      · exact .inl ⟨a, .get first, same⟩
      · exact .inr ⟨e, s₁, before, after, .get first, second, rfl⟩
  | set s next ih =>
    cases run with
    | set later =>
      rcases ih later with ⟨a, first, same⟩ | ⟨e, s₁, before, after, first, second, rfl⟩
      · exact .inl ⟨a, .set first, same⟩
      · exact .inr ⟨e, s₁, before, after, .set first, second, rfl⟩

theorem runsEnsure {body : Program σ κ ρ ε α} {cleanup : Program σ κ ρ ε Unit} {r : Except ε α}
    (run : Runs s (body.ensure cleanup) trace r s') :
    ∃ r₁ s₁ before after ended, Runs s body before r₁ s₁ ∧ Runs s₁ cleanup after ended s' ∧
      trace = before ++ after ∧ r = ended.bind fun _ => r₁ := by
  rcases runsBind run with ⟨a, s₁, before, after, first, second, rfl⟩ | ⟨e, failed, rfl⟩
  · rcases runsTryCatch first with ⟨a', returned, same⟩ | ⟨e, s₂, before', after', raised, cleans, rfl⟩
    · cases same
      rcases runsBind second with ⟨u, s₂, early, late, cleaned, ended, rfl⟩ | ⟨e, cleaned, rfl⟩
      · cases ended
        exact ⟨.ok a, s₁, before, early, .ok u, returned, cleaned, by rw [List.append_nil], rfl⟩
      · exact ⟨.ok a, s₁, before, after, .error e, returned, cleaned, rfl, rfl⟩
    · rcases runsBind cleans with ⟨u, s₃, early, late, cleaned, ended, -⟩ | ⟨e', cleaned, same⟩
      · cases ended
      · cases same
  · rcases runsTryCatch failed with ⟨a, returned, same⟩ | ⟨e', s₂, before, after, raised, cleans, rfl⟩
    · cases same
    · rcases runsBind cleans with ⟨u, s₃, early, late, cleaned, ended, rfl⟩ | ⟨e'', cleaned, same⟩
      · cases ended
        exact ⟨.error e, s₂, before, early, .ok u, raised, cleaned, by rw [List.append_nil], rfl⟩
      · cases same
        exact ⟨.error e', s₂, before, after, .error e, raised, cleaned, rfl, rfl⟩

end Composed
end Calling
