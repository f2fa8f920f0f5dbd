import Mathlib.Data.List.Perm.Subperm
import SentinelGpt.TransactionSpecs

/-! Unique indexes under READ COMMITTED. A write locks the entries it adds, so that of two
transactions that both find an entry free only one comes to add it. -/
namespace ReadCommitted
variable {σ ω κ ℓ ε : Type}

/- The entries that a store has, and those that each write adds. -/
structure UniqueIndex (R : Rows σ ω κ) where
  entries : σ → List κ
  adds : ω → List κ
  locked : ∀ w, adds w ⊆ R.locks w
  effect : ∀ s w, (entries (R.effect s w)).Subperm (entries s ++ adds w)

namespace UniqueIndex
variable {R : Rows σ ω κ} (index : UniqueIndex R)

def added (ws : List ω) : List κ := ws.flatMap index.adds

def Keeps (w : ω) : Prop := ∀ s, index.entries s ++ index.adds w ⊆ index.entries (R.effect s w)

structure Free (v : σ) (ws : List ω) : Prop where
  keeps : ∀ w ∈ ws, index.Keeps w
  new : (index.added ws).Nodup
  free : ∀ k ∈ index.added ws, k ∉ index.entries v

def contract (removes : Bool) : Contract σ ω ℓ where
  assume _ _ := True
  guarantee _
    | .exec _ v ws => if removes then index.added ws = [] else index.Free v ws
    | _ => True

structure Held (removes : Bool) (s : σ) (ws : List ω) : Prop where
  kind : if removes then index.added ws = [] else ∀ w ∈ ws, index.Keeps w
  new : (index.added ws).Nodup
  free : ∀ k ∈ index.added ws, k ∉ index.entries s

structure Unique (removes : Nat → Bool) (t : System σ ω ℓ ε) : Prop where
  store : (index.entries t.store).Nodup
  held : ∀ (i : Nat) c, t.clients[i]? = some c → index.Held (removes i) t.store c.pending

section Views
variable {index}

theorem addedAppend (ws ws' : List ω) : index.added (ws ++ ws') = index.added ws ++ index.added ws' :=
  List.flatMap_append

theorem addedLocked {ws : List ω} {k : κ} (member : k ∈ index.added ws) : k ∈ ws.flatMap R.locks := by
  obtain ⟨w, there, adds⟩ := List.mem_flatMap.mp member
  exact List.mem_flatMap.mpr ⟨w, there, index.locked w adds⟩

theorem viewEntries (s : σ) (ws : List ω) :
    (index.entries (view R.effect s ws)).Subperm (index.entries s ++ index.added ws) := by
  induction ws generalizing s with
  | nil =>
    rw [added, List.flatMap_nil, List.append_nil]
    exact List.Subperm.refl _
  | cons w rest ih =>
    have first := (List.subperm_append_right (index.added rest)).mpr (index.effect s w)
    rw [List.append_assoc] at first
    exact (ih (R.effect s w)).trans first

theorem viewKept {ws : List ω} (keeps : ∀ w ∈ ws, index.Keeps w) (s : σ) :
    index.entries s ++ index.added ws ⊆ index.entries (view R.effect s ws) := by
  induction ws generalizing s with
  | nil => simp [added]
  | cons w rest ih =>
    intro k member
    apply ih (fun x there => keeps x (List.mem_cons_of_mem _ there)) (R.effect s w)
    have split : k ∈ (index.entries s ++ index.adds w) ++ index.added rest := by
      rw [List.append_assoc]
      exact member
    rcases List.mem_append.mp split with old | new
    · exact List.mem_append_left _ (keeps w List.mem_cons_self s old)
    · exact List.mem_append_right _ new

theorem heldNil (removes : Bool) (s : σ) : index.Held removes s [] := by
  constructor
  · split
    · rfl
    · simp
  · exact List.nodup_nil
  · simp [added]

theorem heldExec {removes : Bool} {s : σ} {pending ws : List ω} (held : index.Held removes s pending)
    (owed : if removes then index.added ws = [] else index.Free (view R.effect s pending) ws) :
    index.Held removes s (pending ++ ws) := by
  cases removes with
  | true =>
    have none : index.added (pending ++ ws) = [] := by
      rw [addedAppend, held.kind, owed, List.append_nil]
    exact ⟨none, by simp [none], by simp [none]⟩
  | false =>
    have kept := viewKept held.kind s
    constructor
    · intro w member
      exact (List.mem_append.mp member).elim (held.kind w) (owed.keeps w)
    · rw [addedAppend, List.nodup_append]
      refine ⟨held.new, owed.new, ?_⟩
      intro k old k' new same
      exact owed.free k' new (kept (List.mem_append_right _ (same ▸ old)))
    · intro k member there
      rw [addedAppend] at member
      rcases List.mem_append.mp member with old | new
      · exact held.free k old there
      · exact owed.free k new (kept (List.mem_append_left _ there))

theorem heldBeside {removes : Bool} {s : σ} {pending others : List ω} (held : index.Held removes s pending)
    (apart : ∀ k ∈ pending.flatMap R.locks, k ∉ others.flatMap R.locks) :
    index.Held removes (view R.effect s others) pending := by
  refine ⟨held.kind, held.new, ?_⟩
  intro k member there
  rcases List.mem_append.mp ((viewEntries s others).subset there) with old | new
  · exact held.free k member old
  · exact apart k (addedLocked member) (addedLocked new)

theorem heldCommit {removes : Bool} {s : σ} {pending : List ω} (unique : (index.entries s).Nodup)
    (held : index.Held removes s pending) : (index.entries (view R.effect s pending)).Nodup := by
  obtain ⟨chosen, same, part⟩ := viewEntries s pending
  apply same.nodup
  apply part.nodup
  rw [List.nodup_append]
  refine ⟨unique, held.new, ?_⟩
  intro k old k' new same
  exact held.free k' new (same ▸ old)

end Views

section Runs
variable {index} {store : σ} {programs : List (Program σ ω ℓ ε Unit)} {removes : Nat → Bool}

theorem uniqueStart (unique : (index.entries store).Nodup) :
    index.Unique removes (System.start store programs) := by
  refine ⟨unique, ?_⟩
  intro i c found
  simp only [System.start, List.getElem?_map, Option.map_eq_some_iff] at found
  obtain ⟨p, -, rfl⟩ := found
  exact heldNil _ _

theorem uniqueMove {t u : System σ ω ℓ ε} {i : Nat} {c : Client σ ω ℓ ε} {e : Event σ ω ℓ} {log : List (Event σ ω ℓ)}
    (apart : Apart R t) (unique : index.Unique removes t) (found : t.clients[i]? = some c) (did : Moved R t i c e u)
    (owed : (index.contract (removes i)).guarantee log e) : index.Unique removes u := by
  have mine := unique.held i c found
  constructor
  · rw [movedStore did]
    split
    · exact heldCommit unique.store mine
    · exact unique.store
  · apply movedEach (fun j d => index.Held (removes j) u.store d.pending) found did
    · intro d pending
      rw [pending]
      cases did with
      | exec v at_ reads free =>
        rw [reads] at owed
        rw [reads]
        exact heldExec mine owed
      | call at_ => exact mine
      | commit at_ => exact heldNil _ _
      | rollback at_ => exact heldNil _ _
      | crash => exact heldNil _ _
    · intro j d other here
      rw [movedStore did]
      split
      · exact heldBeside (unique.held j d here) (apart j i d c other here found)
      · exact unique.held j d here

/- The rule of a unique index: where every transaction finds the entries it adds free, no run
doubles one. -/
theorem runUnique [DecidableEq κ] (valid : ∀ i p, programs[i]? = some p → wp (index.contract (removes i)) [] p fun _ _ => True)
    (unique : (index.entries store).Nodup) {trace : List (Nat × Event σ ω ℓ)} {t : System σ ω ℓ ε}
    (run : Run R (System.start store programs) trace t) : (index.entries t.store).Nodup := by
  have kept := runRelies valid (fun _ _ => trivial) (fun _ t => index.Unique removes t) (uniqueStart unique)
    (fun _ _ _ _ _ _ _ _ _ _ => trivial)
    (fun _ _ _ _ _ _ run unique found did owed => uniqueMove (locksApart run) unique found did owed) run
  exact kept.1.store

end Runs
end UniqueIndex
end ReadCommitted
