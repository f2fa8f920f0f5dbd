import Mathlib.Data.List.Sort
import Mathlib.Order.Defs.LinearOrder

/-! Pages of rows in descending order of a key, each of which begins behind the last row of the one before. -/
namespace KeysetPages
variable {α κ : Type} [LinearOrder κ] (key : α → κ)

def Descends (rows : List α) : Prop := rows.Pairwise fun a b => key b < key a

def behind (cursor : Option κ) (rows : List α) : List α :=
  match cursor with
  | none => rows
  | some c => rows.filter fun row => key row < c

def ordered (rows : List α) : List α := rows.insertionSort fun a b => key b ≤ key a

theorem orderedPerm (rows : List α) : (ordered key rows).Perm rows := List.perm_insertionSort _ rows

theorem orderedDescends {rows : List α} (distinct : (rows.map key).Nodup) : Descends key (ordered key rows) := by
  have total : Std.Total fun a b : α => key b ≤ key a := ⟨fun a b => le_total (key b) (key a)⟩
  have trans : IsTrans α fun a b => key b ≤ key a := ⟨fun _ _ _ first second => second.trans first⟩
  have sorted := List.pairwise_insertionSort (fun a b : α => key b ≤ key a) rows
  have apart : ((ordered key rows).map key).Nodup := ((orderedPerm key rows).map key).nodup_iff.mpr distinct
  exact (sorted.and (List.pairwise_map.mp apart)).imp fun both => lt_of_le_of_ne both.1 (Ne.symm both.2)

variable {key}

theorem descendsUnique {rows rows' : List α} (perm : rows.Perm rows') (first : Descends key rows)
    (second : Descends key rows') : rows = rows' :=
  perm.eq_of_pairwise (fun _ _ _ _ less more => absurd less (lt_asymm more)) first second

theorem orderedBehind {rows : List α} (distinct : (rows.map key).Nodup) (cursor : Option κ) :
    ordered key (behind key cursor rows) = behind key cursor (ordered key rows) := by
  cases cursor with
  | none => rfl
  | some c =>
    have fewer : ((rows.filter fun row => key row < c).map key).Nodup :=
      distinct.sublist (List.filter_sublist.map key)
    have perm := (orderedPerm key (rows.filter fun row => key row < c)).trans ((orderedPerm key rows).filter _).symm
    exact descendsUnique perm (orderedDescends key fewer) ((orderedDescends key distinct).filter _)

theorem behindRow {before : List α} {row : α} {after : List α} (descends : Descends key (before ++ row :: after)) :
    behind key (some (key row)) (before ++ row :: after) = after := by
  obtain ⟨-, rest, crossed⟩ := List.pairwise_append.mp descends
  obtain ⟨later, -⟩ := List.pairwise_cons.mp rest
  have earlier : before.filter (fun r => key r < key row) = [] := by
    apply List.filter_eq_nil_iff.mpr
    intro r inside
    have above := crossed r inside row List.mem_cons_self
    exact fun less => lt_asymm above (of_decide_eq_true less)
  have others : after.filter (fun r => key r < key row) = after :=
    List.filter_eq_self.mpr fun r inside => decide_eq_true (later r inside)
  rw [behind, List.filter_append, earlier, List.filter_cons_of_neg (by simp), others]
  rfl

theorem pageEnds {limit : Nat} (positive : 1 ≤ limit) {rows : List α} (more : limit < rows.length) :
    ∃ front last, rows.take limit = front ++ [last] ∧ rows = front ++ last :: rows.drop limit := by
  have filled : rows.take limit ≠ [] := by
    intro none
    have short := congrArg List.length none
    rw [List.length_take, List.length_nil] at short
    omega
  have ends := List.dropLast_append_getLast filled
  refine ⟨_, _, ends.symm, ?_⟩
  have whole := List.take_append_drop limit rows
  rw [← ends, List.append_assoc] at whole
  exact whole.symm

end KeysetPages
