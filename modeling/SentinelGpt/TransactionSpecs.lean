import SentinelGpt.TransactionHistory

/-! Specifications of programs by what their histories are before and after, and the rule
of rely and guarantee for runs in which each client has a contract of its own. -/
namespace ReadCommitted
variable {σ ω κ ℓ ε α β : Type}

/- From a history as `P` says, what is returned and the history then are as `Q` says, and
the history of an exception as `E` says. -/
def Spec (C : Contract σ ω ℓ) (P : List (Event σ ω ℓ) → Prop) (p : Program σ ω ℓ ε α)
    (Q : α → List (Event σ ω ℓ) → Prop) (E : List (Event σ ω ℓ) → Prop) : Prop :=
  ∀ log, P log → wp C log p fun log r => match r with
    | .ok a => Q a log
    | .error _ => E log

def Stable (K : List (Event σ ω ℓ) → Prop) : Prop := ∀ log e, K log → K (log ++ [e])

namespace Spec
variable {C : Contract σ ω ℓ} {P P' K : List (Event σ ω ℓ) → Prop}
  {E F : List (Event σ ω ℓ) → Prop}

theorem pure {a : α} {Q : α → List (Event σ ω ℓ) → Prop} (holds : ∀ log, P log → Q a log) :
    Spec C P (Pure.pure a : Program σ ω ℓ ε α) Q E := holds

theorem raise {e : ε} {Q : α → List (Event σ ω ℓ) → Prop} (holds : ∀ log, P log → E log) :
    Spec C P (Program.raise e : Program σ ω ℓ ε α) Q E := holds

theorem weaken {p : Program σ ω ℓ ε α} {Q Q' : α → List (Event σ ω ℓ) → Prop}
    (spec : Spec C P p Q E) (before : ∀ log, P' log → P log) (after : ∀ a log, Q a log → Q' a log)
    (failed : ∀ log, E log → F log) : Spec C P' p Q' F := by
  intro log holds
  refine wpMono (fun log r ended => ?_) (spec log (before log holds))
  cases r with
  | ok a => exact after a log ended
  | error e => exact failed log ended

theorem before {p : Program σ ω ℓ ε α} {Q : α → List (Event σ ω ℓ) → Prop} (spec : Spec C P p Q E)
    (before : ∀ log, P' log → P log) : Spec C P' p Q E :=
  spec.weaken before (fun _ _ ended => ended) fun _ failed => failed

theorem after {p : Program σ ω ℓ ε α} {Q Q' : α → List (Event σ ω ℓ) → Prop} (spec : Spec C P p Q E)
    (after : ∀ a log, Q a log → Q' a log) : Spec C P p Q' E :=
  spec.weaken (fun _ holds => holds) after fun _ failed => failed

theorem bind {p : Program σ ω ℓ ε α} {k : α → Program σ ω ℓ ε β}
    {Q : α → List (Event σ ω ℓ) → Prop} {R : β → List (Event σ ω ℓ) → Prop}
    (first : Spec C P p Q E) (rest : ∀ a, Spec C (Q a) (k a) R E) : Spec C P (p >>= k) R E := by
  intro log holds
  refine wpBind.mpr (wpMono (fun log r ended => ?_) (first log holds))
  cases r with
  | ok a => exact rest a log ended
  | error e => exact ended

theorem tryCatch {p : Program σ ω ℓ ε α} {handler : ε → Program σ ω ℓ ε α}
    {Q : α → List (Event σ ω ℓ) → Prop} (body : Spec C P p Q F)
    (handled : ∀ e, Spec C F (handler e) Q E) : Spec C P (p.tryCatch handler) Q E := by
  intro log holds
  refine wpTryCatch.mpr (wpMono (fun log r ended => ?_) (body log holds))
  cases r with
  | ok a => exact ended
  | error e => exact handled e log ended

theorem frame {p : Program σ ω ℓ ε α} {Q : α → List (Event σ ω ℓ) → Prop} (stable : Stable K)
    (spec : Spec C P p Q E) :
    Spec C (fun log => K log ∧ P log) p (fun a log => K log ∧ Q a log) fun log => K log ∧ E log := by
  rintro log ⟨known, holds⟩
  have start := spec log holds
  clear spec holds
  induction p generalizing log with
  | pure a => exact ⟨known, start⟩
  | raise e => exact ⟨known, start⟩
  | exec site writes next ih =>
    exact fun v a => ⟨(start v a).1, ih v _ (stable _ _ known) (start v a).2⟩
  | commit site next ih => exact fun a => ⟨(start a).1, ih _ (stable _ _ known) (start a).2⟩
  | rollback next ih => exact fun a => ⟨(start a).1, ih _ (stable _ _ known) (start a).2⟩
  | call site next ih => exact fun a => ⟨(start a).1, ih _ (stable _ _ known) (start a).2⟩

theorem session {p : Program σ ω ℓ ε α} {Q Q' : α → List (Event σ ω ℓ) → Prop}
    (allowed : ∀ log, C.guarantee log .rollback) (body : Spec C P p Q E)
    (returned : ∀ a log, Q a log → Q' a (log ++ [.rollback]))
    (failed : ∀ log, E log → F (log ++ [.rollback])) : Spec C P p.session Q' F := by
  refine .bind (Q := Q) (.tryCatch body fun e => ?_) fun a => ?_
  · exact fun log ended _ => ⟨allowed log, failed log ended⟩
  · exact fun log ended _ => ⟨allowed log, returned a log ended⟩

end Spec

def AlongEach (P : Nat → List (Event σ ω ℓ) → Event σ ω ℓ → Prop)
    (trace : List (Nat × Event σ ω ℓ)) : Prop :=
  ∀ before i e after, trace = before ++ (i, e) :: after → P i (own i before) e

theorem alongEachSnoc {P : Nat → List (Event σ ω ℓ) → Event σ ω ℓ → Prop}
    {trace : List (Nat × Event σ ω ℓ)} {i : Nat} {e : Event σ ω ℓ} (all : AlongEach P trace)
    (last : P i (own i trace) e) : AlongEach P (trace ++ [(i, e)]) := by
  intro before j f after same
  rcases List.eq_nil_or_concat after with rfl | ⟨after', entry, rfl⟩
  · obtain ⟨rfl, final⟩ := List.append_inj' same rfl
    cases final
    exact last
  · rw [List.concat_eq_append, ← List.cons_append, ← List.append_assoc] at same
    obtain ⟨rfl, -⟩ := List.append_inj' same rfl
    exact all before j f after' rfl

theorem alongEachOf {P : Nat → List (Event σ ω ℓ) → Event σ ω ℓ → Prop}
    {trace : List (Nat × Event σ ω ℓ)} {i : Nat} {e : Event σ ω ℓ}
    (all : AlongEach P (trace ++ [(i, e)])) : AlongEach P trace ∧ P i (own i trace) e := by
  refine ⟨fun before j f after same => all before j f (after ++ [(i, e)]) ?_, all trace i e [] rfl⟩
  rw [same, List.append_assoc, List.cons_append]

theorem memOwn {trace : List (Nat × Event σ ω ℓ)} {i : Nat} {e : Event σ ω ℓ} :
    e ∈ own i trace ↔ (i, e) ∈ trace := by
  simp only [own, List.mem_map, List.mem_filter, beq_iff_eq]
  constructor
  · rintro ⟨⟨j, f⟩, ⟨there, rfl⟩, rfl⟩
    exact there
  · exact fun there => ⟨(i, e), ⟨there, rfl⟩, rfl⟩

theorem alongEachMem {P : Nat → List (Event σ ω ℓ) → Event σ ω ℓ → Prop}
    {trace : List (Nat × Event σ ω ℓ)} (all : AlongEach P trace) {i : Nat} {e : Event σ ω ℓ}
    (member : e ∈ own i trace) : ∃ log, P i log e := by
  obtain ⟨before, after, same⟩ := List.append_of_mem (memOwn.mp member)
  exact ⟨own i before, all before i e after same⟩

section Moves
variable {R : Rows σ ω κ} {s t : System σ ω ℓ ε} {i : Nat} {c : Client σ ω ℓ ε} {e : Event σ ω ℓ}

def Left (C : Contract σ ω ℓ) (post : List (Event σ ω ℓ) → Except ε Unit → Prop)
    (log : List (Event σ ω ℓ)) (p : Program σ ω ℓ ε Unit) : Prop :=
  .crash ∈ log ∧ p = .pure () ∨ wp C log p post

theorem movedOwes {C : Contract σ ω ℓ} {post : List (Event σ ω ℓ) → Except ε Unit → Prop}
    {log : List (Event σ ω ℓ)} (crashes : C.guarantee log .crash) (did : Moved R s i c e t)
    (left : Left C post log c.program) (assumed : C.assume log e) :
    C.guarantee log e ∧ ∃ d, t.clients = s.clients.set i d ∧ Left C post (log ++ [e]) d.program := by
  cases did with
  | crash => exact ⟨crashes, _, rfl, .inl ⟨by simp, rfl⟩⟩
  | exec v at_ reads free =>
    rw [at_] at left
    rcases left with ⟨-, dead⟩ | left
    · contradiction
    · exact ⟨(left v assumed).1, _, rfl, .inr (left v assumed).2⟩
  | commit at_ =>
    rw [at_] at left
    rcases left with ⟨-, dead⟩ | left
    · contradiction
    · exact ⟨(left assumed).1, _, rfl, .inr (left assumed).2⟩
  | rollback at_ =>
    rw [at_] at left
    rcases left with ⟨-, dead⟩ | left
    · contradiction
    · exact ⟨(left assumed).1, _, rfl, .inr (left assumed).2⟩
  | call at_ =>
    rw [at_] at left
    rcases left with ⟨-, dead⟩ | left
    · contradiction
    · exact ⟨(left assumed).1, _, rfl, .inr (left assumed).2⟩

end Moves

section Runs
variable [DecidableEq κ] {R : Rows σ ω κ} {store : σ} {programs : List (Program σ ω ℓ ε Unit)}
  {C : Nat → Contract σ ω ℓ} {post : Nat → List (Event σ ω ℓ) → Except ε Unit → Prop}

theorem leftStart (valid : ∀ i p, programs[i]? = some p → wp (C i) [] p (post i)) (i : Nat) (c : Client σ ω ℓ ε)
    (found : (System.start store programs).clients[i]? = some c) : Left (C i) (post i) [] c.program := by
  simp only [System.start, List.getElem?_map, Option.map_eq_some_iff] at found
  obtain ⟨p, here, rfl⟩ := found
  exact .inr (valid i p here)

omit [DecidableEq κ] in
theorem leftMoves {trace : List (Nat × Event σ ω ℓ)} {t u : System σ ω ℓ ε} {i : Nat} {c : Client σ ω ℓ ε}
    {e : Event σ ω ℓ} (crashes : ∀ i log, (C i).guarantee log .crash) (found : t.clients[i]? = some c)
    (did : Moved R t i c e u)
    (left : ∀ j d, t.clients[j]? = some d → Left (C j) (post j) (own j trace) d.program)
    (assumed : (C i).assume (own i trace) e) : (C i).guarantee (own i trace) e ∧
      ∀ j d, u.clients[j]? = some d → Left (C j) (post j) (own j (trace ++ [(i, e)])) d.program := by
  obtain ⟨good, d, set, rest⟩ := movedOwes (crashes _ _) did (left _ c found) assumed
  refine ⟨good, fun j c' here => ?_⟩
  have bound : i < t.clients.length := (List.getElem?_eq_some_iff.mp found).1
  rw [set] at here
  by_cases same : i = j
  · subst same
    simp only [List.getElem?_set_self bound, Option.some.injEq] at here
    subst here
    simpa using rest
  · rw [List.getElem?_set_ne same] at here
    simpa [same] using left j c' here

/- The rule of rely and guarantee. An invariant of the run says that what the next event
relies on is so, and is kept by what the programs owe in return. -/
theorem runRelies (valid : ∀ i p, programs[i]? = some p → wp (C i) [] p (post i))
    (crashes : ∀ i log, (C i).guarantee log .crash)
    (I : List (Nat × Event σ ω ℓ) → System σ ω ℓ ε → Prop)
    (init : I [] (System.start store programs))
    (relies : ∀ trace t i c e u, Run R (System.start store programs) trace t → I trace t →
      t.clients[i]? = some c → Moved R t i c e u → (C i).assume (own i trace) e)
    (kept : ∀ trace t i c e u, Run R (System.start store programs) trace t → I trace t →
      t.clients[i]? = some c → Moved R t i c e u → (C i).guarantee (own i trace) e →
      I (trace ++ [(i, e)]) u)
    {trace t} (run : Run R (System.start store programs) trace t) :
    I trace t ∧ AlongEach (fun i => (C i).guarantee) trace ∧
      ∀ i c, t.clients[i]? = some c → Left (C i) (post i) (own i trace) c.program := by
  induction run with
  | nil => exact ⟨init, fun before i e after same => by simp at same, leftStart valid⟩
  | snoc m before moved ih =>
    obtain ⟨holds, owed, left⟩ := ih
    obtain ⟨c, found, did⟩ := movedOf moved
    have assumed := relies _ _ _ c _ _ before holds found did
    obtain ⟨good, rest⟩ := leftMoves crashes found did left assumed
    exact ⟨kept _ _ _ c _ _ before holds found did good, alongEachSnoc owed good, rest⟩

/- In a run whose events are as the contracts of their clients assume, they are as these guarantee. -/
theorem runAssumes (valid : ∀ i p, programs[i]? = some p → wp (C i) [] p (post i))
    (crashes : ∀ i log, (C i).guarantee log .crash) {trace t} (run : Run R (System.start store programs) trace t)
    (assumed : AlongEach (fun i => (C i).assume) trace) : AlongEach (fun i => (C i).guarantee) trace ∧
      ∀ i c, t.clients[i]? = some c → Left (C i) (post i) (own i trace) c.program := by
  induction run with
  | nil => exact ⟨fun before i e after same => by simp at same, leftStart valid⟩
  | snoc m before moved ih =>
    obtain ⟨earlier, now⟩ := alongEachOf assumed
    obtain ⟨owed, left⟩ := ih earlier
    obtain ⟨c, found, did⟩ := movedOf moved
    obtain ⟨good, rest⟩ := leftMoves crashes found did left now
    exact ⟨alongEachSnoc owed good, rest⟩

end Runs
end ReadCommitted
