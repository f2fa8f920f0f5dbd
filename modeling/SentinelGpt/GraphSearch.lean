import Mathlib.Algebra.BigOperators.Group.Finset.Basic
import Mathlib.Data.Finset.SDiff
import Mathlib.Logic.Relation

/-! The search of a graph from a stack of nodes, with the nodes seen so far: every round takes
one node from the stack. -/
namespace GraphSearch
open Relation

variable {ν : Type} [DecidableEq ν] (next : ν → List ν) (goal : ν → Bool)

def search : Nat → List ν → List ν → Option Bool
  | 0, _, _ => none
  | _ + 1, [], _ => some false
  | rounds + 1, v :: stack, seen =>
    if v ∈ seen then search rounds stack seen
    else if goal v then some true
    else search rounds (next v ++ stack) (v :: seen)

abbrev Reaches : ν → ν → Prop := ReflTransGen fun v w => w ∈ next v

/- The nodes on the stack, and those that the unseen ones can still bring there. -/
def potential (nodes : Finset ν) (stack seen : List ν) : Nat :=
  stack.length + ∑ v ∈ nodes \ seen.toFinset, ((next v).length + 1)

variable {next goal} {nodes : Finset ν} {stack seen : List ν} {rounds : Nat} {found : Bool}

theorem potentialSeen {v : ν} (inside : v ∈ nodes) (fresh : v ∉ seen) :
    potential next nodes (next v ++ stack) (v :: seen) < potential next nodes (v :: stack) seen := by
  have unseen : v ∈ nodes \ seen.toFinset := by simp [inside, fresh]
  have rest : nodes \ (v :: seen).toFinset = (nodes \ seen.toFinset).erase v := by
    rw [List.toFinset_cons, Finset.sdiff_insert]
  have sum := Finset.add_sum_erase (nodes \ seen.toFinset) (fun v => (next v).length + 1) unseen
  rw [potential, potential, rest, List.length_append, List.length_cons]
  omega

theorem searchEnds (closed : ∀ v ∈ nodes, ∀ w ∈ next v, w ∈ nodes) (inside : ∀ v ∈ stack, v ∈ nodes)
    (enough : potential next nodes stack seen < rounds) : ∃ found, search next goal rounds stack seen = some found := by
  induction rounds generalizing stack seen with
  | zero => omega
  | succ rounds ih =>
    cases stack with
    | nil => exact ⟨false, rfl⟩
    | cons v stack =>
      obtain ⟨here, others⟩ := List.forall_mem_cons.mp inside
      rw [search]
      split
      · refine ih others ?_
        rw [potential, List.length_cons] at enough
        rw [potential]
        omega
      · rename_i fresh
        split
        · exact ⟨true, rfl⟩
        · refine ih (fun w member => ?_) ?_
          · rcases List.mem_append.mp member with linked | waiting
            · exact closed v here w linked
            · exact others w waiting
          · have less := @potentialSeen ν _ next nodes stack seen v here fresh
            omega

theorem searchStays (ended : search next goal rounds stack seen = some found) {more : Nat} (longer : rounds ≤ more) :
    search next goal more stack seen = some found := by
  induction rounds generalizing stack seen more with
  | zero => cases ended
  | succ rounds ih =>
    obtain ⟨more, rfl⟩ : ∃ n, more = n + 1 := ⟨more - 1, by omega⟩
    cases stack with
    | nil => exact ended
    | cons v stack =>
      rw [search] at ended ⊢
      split
      · rename_i old
        rw [if_pos old] at ended
        exact ih ended (by omega)
      · rename_i fresh
        rw [if_neg fresh] at ended
        split
        · rename_i met
          rwa [if_pos met] at ended
        · rename_i other
          rw [if_neg other] at ended
          exact ih ended (by omega)

theorem searchSound (ended : search next goal rounds stack seen = some true) :
    ∃ v ∈ stack, ∃ w, Reaches next v w ∧ goal w = true := by
  induction rounds generalizing stack seen with
  | zero => cases ended
  | succ rounds ih =>
    cases stack with
    | nil => cases ended
    | cons v stack =>
      rw [search] at ended
      split at ended
      · obtain ⟨w, waiting, reached⟩ := ih ended
        exact ⟨w, List.mem_cons_of_mem v waiting, reached⟩
      · split at ended
        · rename_i met
          exact ⟨v, List.mem_cons_self, v, .refl, met⟩
        · obtain ⟨w, member, g, reached, met⟩ := ih ended
          rcases List.mem_append.mp member with linked | waiting
          · exact ⟨v, List.mem_cons_self, g, .head linked reached, met⟩
          · exact ⟨w, List.mem_cons_of_mem v waiting, g, reached, met⟩

structure Explored (next : ν → List ν) (goal : ν → Bool) (stack seen : List ν) : Prop where
  other : ∀ v ∈ seen, goal v = false
  linked : ∀ v ∈ seen, ∀ w ∈ next v, w ∈ seen ∨ w ∈ stack

omit [DecidableEq ν] in
theorem exploredNone (stack : List ν) : Explored next goal stack [] :=
  ⟨fun _ none => absurd none List.not_mem_nil, fun _ none => absurd none List.not_mem_nil⟩

theorem searchComplete (ended : search next goal rounds stack seen = some false)
    (explored : Explored next goal stack seen) {v w : ν} (known : v ∈ seen ∨ v ∈ stack) (reached : Reaches next v w) :
    goal w = false := by
  induction rounds generalizing stack seen with
  | zero => cases ended
  | succ rounds ih =>
    cases stack with
    | nil =>
      have closed : ∀ w, Reaches next v w → w ∈ seen := by
        intro w reached
        induction reached with
        | refl => exact known.resolve_right List.not_mem_nil
        | tail earlier link inside => exact (explored.linked _ inside _ link).resolve_right List.not_mem_nil
      exact explored.other w (closed w reached)
    | cons u stack =>
      rw [search] at ended
      split at ended
      · rename_i old
        refine ih ended ⟨explored.other, fun v member w link => ?_⟩ ?_
        · rcases explored.linked v member w link with there | waiting
          · exact .inl there
          · rcases List.mem_cons.mp waiting with rfl | waiting
            · exact .inl old
            · exact .inr waiting
        · rcases known with there | waiting
          · exact .inl there
          · rcases List.mem_cons.mp waiting with rfl | waiting
            · exact .inl old
            · exact .inr waiting
      · split at ended
        · cases ended
        · rename_i plain
          refine ih ended ⟨fun v member => ?_, fun v member w link => ?_⟩ ?_
          · rcases List.mem_cons.mp member with rfl | member
            · exact Bool.eq_false_iff.mpr plain
            · exact explored.other v member
          · rcases List.mem_cons.mp member with rfl | member
            · exact .inr (List.mem_append_left stack link)
            · rcases explored.linked v member w link with there | waiting
              · exact .inl (List.mem_cons_of_mem u there)
              · rcases List.mem_cons.mp waiting with rfl | waiting
                · exact .inl List.mem_cons_self
                · exact .inr (List.mem_append_right _ waiting)
          · rcases known with there | waiting
            · exact .inl (List.mem_cons_of_mem u there)
            · rcases List.mem_cons.mp waiting with rfl | waiting
              · exact .inl List.mem_cons_self
              · exact .inr (List.mem_append_right _ waiting)

theorem searchFrom {root : ν} (ended : search next goal rounds [root] [] = some found) :
    found = true ↔ ∃ v, Reaches next root v ∧ goal v = true := by
  constructor
  · rintro rfl
    obtain ⟨v, only, w, reached, met⟩ := searchSound ended
    rw [List.mem_singleton.mp only] at reached
    exact ⟨w, reached, met⟩
  · rintro ⟨v, reached, met⟩
    cases found with
    | true => rfl
    | false =>
      have plain := searchComplete ended (exploredNone _) (.inr (List.mem_singleton_self root)) reached
      rw [met] at plain
      cases plain

end GraphSearch
