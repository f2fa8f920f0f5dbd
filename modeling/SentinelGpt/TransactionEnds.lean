import SentinelGpt.TransactionSpecs

/-! Specifications that also say which exception ends a program, and the runs of programs
whose writes keep an invariant of the store. -/
namespace ReadCommitted
variable {σ ω κ ℓ ε α β : Type}

/- From a history as `P` says, what is returned and the history then are as `Q` says, and
an exception and the history then as `E` says. -/
def Ends (C : Contract σ ω ℓ) (P : List (Event σ ω ℓ) → Prop) (p : Program σ ω ℓ ε α)
    (Q : α → List (Event σ ω ℓ) → Prop) (E : ε → List (Event σ ω ℓ) → Prop) : Prop :=
  ∀ log, P log → wp C log p fun log r => (∀ a, r = .ok a → Q a log) ∧ ∀ e, r = .error e → E e log

namespace Ends
variable {C : Contract σ ω ℓ} {P P' : List (Event σ ω ℓ) → Prop}
  {Q Q' : α → List (Event σ ω ℓ) → Prop} {E E' : ε → List (Event σ ω ℓ) → Prop}

theorem pure {a : α} (holds : ∀ log, P log → Q a log) : Ends C P (Pure.pure a : Program σ ω ℓ ε α) Q E := by
  intro log before
  constructor
  · intro b same
    cases same
    exact holds log before
  · intro e same
    contradiction

theorem raise {e : ε} (holds : ∀ log, P log → E e log) : Ends C P (Program.raise e : Program σ ω ℓ ε α) Q E := by
  intro log before
  constructor
  · intro b same
    contradiction
  · intro f same
    cases same
    exact holds log before

theorem weaken {p : Program σ ω ℓ ε α} (ends : Ends C P p Q E) (before : ∀ log, P' log → P log)
    (after : ∀ a log, Q a log → Q' a log) (failed : ∀ e log, E e log → E' e log) : Ends C P' p Q' E' := by
  intro log holds
  apply wpMono _ (ends log (before log holds))
  intro log r ended
  exact ⟨fun a same => after a log (ended.1 a same), fun e same => failed e log (ended.2 e same)⟩

theorem before {p : Program σ ω ℓ ε α} (ends : Ends C P p Q E) (before : ∀ log, P' log → P log) :
    Ends C P' p Q E :=
  ends.weaken before (fun _ _ ended => ended) fun _ _ failed => failed

theorem after {p : Program σ ω ℓ ε α} (ends : Ends C P p Q E) (after : ∀ a log, Q a log → Q' a log) :
    Ends C P p Q' E :=
  ends.weaken (fun _ holds => holds) after fun _ _ failed => failed

theorem given {p : Program σ ω ℓ ε α} {known : Prop} (ends : known → Ends C P p Q E) :
    Ends C (fun log => known ∧ P log) p Q E :=
  fun log holds => ends holds.1 log holds.2

theorem bind {p : Program σ ω ℓ ε α} {k : α → Program σ ω ℓ ε β} {R : β → List (Event σ ω ℓ) → Prop}
    (first : Ends C P p Q E) (rest : ∀ a, Ends C (Q a) (k a) R E) : Ends C P (p >>= k) R E := by
  intro log holds
  apply wpBind.mpr
  apply wpMono _ (first log holds)
  intro log r ended
  cases r with
  | ok a => exact rest a log (ended.1 a rfl)
  | error e =>
    constructor
    · intro b same
      contradiction
    · intro f same
      cases same
      exact ended.2 e rfl

theorem tryCatch {p : Program σ ω ℓ ε α} {handler : ε → Program σ ω ℓ ε α}
    (body : Ends C P p Q E) (handled : ∀ e, Ends C (E e) (handler e) Q E') : Ends C P (p.tryCatch handler) Q E' := by
  intro log holds
  apply wpTryCatch.mpr
  apply wpMono _ (body log holds)
  intro log r ended
  cases r with
  | error e => exact handled e log (ended.2 e rfl)
  | ok a =>
    constructor
    · intro b same
      cases same
      exact ended.1 a rfl
    · intro e same
      contradiction

theorem exec {site : ℓ} {writes : σ → List ω} {next : σ → Program σ ω ℓ ε α}
    {R : σ → List (Event σ ω ℓ) → Prop}
    (step : ∀ log v, P log → C.assume log (.exec site v (writes v)) →
      C.guarantee log (.exec site v (writes v)) ∧ R v (log ++ [.exec site v (writes v)]))
    (rest : ∀ v, Ends C (R v) (next v) Q E) : Ends C P (.exec site writes next) Q E := by
  intro log holds v assumed
  obtain ⟨owed, reached⟩ := step log v holds assumed
  exact ⟨owed, rest v _ reached⟩

theorem commit {site : ℓ} {next : Program σ ω ℓ ε α} {R : List (Event σ ω ℓ) → Prop}
    (step : ∀ log, P log → C.guarantee log (.commit site) ∧ R (log ++ [.commit site]))
    (rest : Ends C R next Q E) : Ends C P (.commit site next) Q E := by
  intro log holds _
  obtain ⟨owed, reached⟩ := step log holds
  exact ⟨owed, rest _ reached⟩

theorem session {p : Program σ ω ℓ ε α} (allowed : ∀ log, C.guarantee log .rollback) (body : Ends C P p Q E)
    (returned : ∀ a, Stable (Q a)) (failed : ∀ e, Stable (E e)) : Ends C P p.session Q E := by
  have rolled : ∀ e, Ends C (E e) (.rollback (.raise e) : Program σ ω ℓ ε α) Q E := by
    intro e log ended _
    exact ⟨allowed log, raise (fun _ holds => holds) _ (failed e log _ ended)⟩
  apply bind (tryCatch body rolled)
  intro a log ended _
  exact ⟨allowed log, pure (fun _ holds => holds) _ (returned a log _ ended)⟩

end Ends

theorem viewKeeps {R : Rows σ ω κ} {P : σ → Prop} {allowed : ω → Prop} (keeps : ∀ s w, allowed w → P s → P (R.effect s w))
    {ws : List ω} (all : ∀ w ∈ ws, allowed w) {s : σ} (holds : P s) : P (view R.effect s ws) := by
  induction ws generalizing s with
  | nil => exact holds
  | cons w rest ih =>
    rw [viewCons]
    exact ih (fun x member => all x (List.mem_cons_of_mem _ member)) (keeps s w (all w List.mem_cons_self) holds)

theorem stagedStatement {log : List (Event σ ω ℓ)} {w : ω} (member : w ∈ staged log) :
    ∃ site v ws, .exec site v ws ∈ log ∧ w ∈ ws := by
  induction log using List.reverseRecOn with
  | nil => contradiction
  | append_singleton log e ih =>
    rw [stagedSnoc] at member
    have earlier : w ∈ staged log → ∃ site v ws, .exec site v ws ∈ log ++ [e] ∧ w ∈ ws := by
      intro old
      obtain ⟨site, v, ws, there, written⟩ := ih old
      exact ⟨site, v, ws, List.mem_append_left _ there, written⟩
    cases e with
    | exec site v ws =>
      rcases List.mem_append.mp member with old | new
      · exact earlier old
      · exact ⟨site, v, ws, List.mem_append_right _ (List.mem_singleton_self _), new⟩
    | call site => exact earlier member
    | commit site => contradiction
    | rollback => contradiction
    | crash => contradiction

theorem committedStatement {trace : List (Nat × Event σ ω ℓ)} {w : ω} (member : w ∈ committed trace) :
    ∃ i site v ws, (i, .exec site v ws) ∈ trace ∧ w ∈ ws := by
  induction trace using List.reverseRecOn with
  | nil => contradiction
  | append_singleton trace entry ih =>
    obtain ⟨j, e⟩ := entry
    have earlier : w ∈ committed trace → ∃ i site v ws, (i, .exec site v ws) ∈ trace ++ [(j, e)] ∧ w ∈ ws := by
      intro old
      obtain ⟨i, site, v, ws, there, written⟩ := ih old
      exact ⟨i, site, v, ws, List.mem_append_left _ there, written⟩
    cases ends : e.isCommit with
    | false =>
      rw [committedOther trace j ends] at member
      exact earlier member
    | true =>
      cases e with
      | commit site =>
        rw [committedCommit] at member
        rcases List.mem_append.mp member with old | new
        · exact earlier old
        · obtain ⟨site', v, ws, there, written⟩ := stagedStatement new
          exact ⟨j, site', v, ws, List.mem_append_left _ (memOwn.mp there), written⟩
      | _ => contradiction

end ReadCommitted
