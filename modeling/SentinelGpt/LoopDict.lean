import Mathlib.Data.List.Induction
import Mathlib.Data.List.Nodup
import Mathlib.Data.List.Perm.Basic

/-! Dictionaries filled in a loop, as lists of entries in the order of their insertion: the last
value of each key, the first one, all of them, and how often a key occurs. -/
namespace SentinelGpt.LoopDict
variable {κ α : Type} [BEq κ]

def assign : List (κ × α) → κ → α → List (κ × α)
  | [], key, value => [(key, value)]
  | (k, v) :: rest, key, value => if k == key then (k, value) :: rest else (k, v) :: assign rest key value

def ofEntries (entries : List (κ × α)) : List (κ × α) :=
  entries.foldl (fun dict entry => assign dict entry.1 entry.2) []

def bump : List (κ × Nat) → κ → List (κ × Nat)
  | [], key => [(key, 1)]
  | (k, n) :: rest, key => if k == key then (k, n + 1) :: rest else (k, n) :: bump rest key

def tally (keys : List κ) : List (κ × Nat) := keys.foldl bump []

/- `if key not in first: first[key] = value`. -/
def keepFirst (first : List (κ × α)) (entry : κ × α) : List (κ × α) :=
  if (first.map Prod.fst).contains entry.1 then first else first ++ [entry]

def firsts (entries : List (κ × α)) : List (κ × α) := entries.foldl keepFirst []

/- `dict.setdefault(key, []).append(value)`. -/
def collect : List (κ × List α) → κ × α → List (κ × List α)
  | [], entry => [(entry.1, [entry.2])]
  | (k, vs) :: rest, entry =>
    if k == entry.1 then (k, vs ++ [entry.2]) :: rest else (k, vs) :: collect rest entry

def buckets (entries : List (κ × α)) : List (κ × List α) := entries.foldl collect []

section Keys
variable [LawfulBEq κ]

theorem assignKeys (dict : List (κ × α)) (k : κ) (value : α) (key : κ) :
    key ∈ (assign dict k value).map Prod.fst ↔ key = k ∨ key ∈ dict.map Prod.fst := by
  induction dict with
  | nil => simp [assign]
  | cons entry rest ih =>
    obtain ⟨first, v⟩ := entry
    unfold assign
    by_cases here : first = k
    · subst here
      simp
    · rw [beq_eq_false_iff_ne.mpr here, if_neg Bool.false_ne_true, List.map_cons, List.mem_cons, ih, List.map_cons,
        List.mem_cons]
      exact or_left_comm

theorem ofEntriesKeys (entries : List (κ × α)) (key : κ) :
    key ∈ (ofEntries entries).map Prod.fst ↔ key ∈ entries.map Prod.fst := by
  induction entries using List.reverseRecOn with
  | nil => rfl
  | append_singleton entries last ih =>
    rw [ofEntries, List.foldl_append, List.foldl_cons, List.foldl_nil, ← ofEntries, assignKeys, ih, List.map_append,
      List.mem_append, List.map_cons, List.map_nil, List.mem_singleton]
    exact or_comm

theorem assignNodup {dict : List (κ × α)} (distinct : (dict.map Prod.fst).Nodup) (k : κ) (value : α) :
    ((assign dict k value).map Prod.fst).Nodup := by
  induction dict with
  | nil => exact List.nodup_singleton k
  | cons entry rest ih =>
    obtain ⟨first, v⟩ := entry
    obtain ⟨fresh, others⟩ := List.nodup_cons.mp distinct
    unfold assign
    split
    · exact distinct
    · rename_i other
      refine List.nodup_cons.mpr ⟨fun again => ?_, ih others⟩
      rcases (assignKeys rest k value first).mp again with same | there
      · exact other (beq_iff_eq.mpr same)
      · exact fresh there

theorem ofEntriesNodup (entries : List (κ × α)) : ((ofEntries entries).map Prod.fst).Nodup := by
  induction entries using List.reverseRecOn with
  | nil => exact List.nodup_nil
  | append_singleton entries last ih =>
    rw [ofEntries, List.foldl_append, List.foldl_cons, List.foldl_nil, ← ofEntries]
    exact assignNodup ih _ _

theorem assignFresh {dict : List (κ × α)} {key : κ} (fresh : key ∉ dict.map Prod.fst) (value : α) :
    assign dict key value = dict ++ [(key, value)] := by
  induction dict with
  | nil => rfl
  | cons entry rest ih =>
    rw [List.map_cons, List.mem_cons, not_or] at fresh
    rw [assign, beq_eq_false_iff_ne.mpr (Ne.symm fresh.1), if_neg Bool.false_ne_true, ih fresh.2, List.cons_append]

theorem ofEntriesDistinct {entries : List (κ × α)} (distinct : (entries.map Prod.fst).Nodup) :
    ofEntries entries = entries := by
  induction entries using List.reverseRecOn with
  | nil => rfl
  | append_singleton entries last ih =>
    rw [List.map_append] at distinct
    obtain ⟨others, -, apart⟩ := List.nodup_append.mp distinct
    have fresh : last.1 ∉ entries.map Prod.fst := fun again => apart _ again _ (List.mem_singleton_self _) rfl
    rw [ofEntries, List.foldl_append, List.foldl_cons, List.foldl_nil, ← ofEntries, ih others, assignFresh fresh]

theorem lookupDistinct {dict : List (κ × α)} (distinct : (dict.map Prod.fst).Nodup) {entry : κ × α}
    (inside : entry ∈ dict) : dict.lookup entry.1 = some entry.2 := by
  induction dict with
  | nil => cases inside
  | cons first rest ih =>
    obtain ⟨fresh, others⟩ := List.nodup_cons.mp distinct
    rcases List.mem_cons.mp inside with here | there
    · rw [here, List.lookup_cons, BEq.rfl]
    · have other : entry.1 ≠ first.1 := fun same => fresh (same ▸ List.mem_map_of_mem there)
      rw [List.lookup_cons, beq_eq_false_iff_ne.mpr other]
      exact ih others there

end Keys

section Counts
variable [LawfulBEq κ]

theorem lookupBump (counts : List (κ × Nat)) (key other : κ) :
    (bump counts key).lookup other =
      if other == key then some ((counts.lookup key).getD 0 + 1) else counts.lookup other := by
  induction counts with
  | nil =>
    rw [bump, List.lookup_cons]
    cases other == key <;> rfl
  | cons entry rest ih =>
    obtain ⟨k, n⟩ := entry
    unfold bump
    by_cases here : k = key
    · subst here
      rw [beq_self_eq_true, if_pos rfl, List.lookup_cons_self, List.lookup_cons, List.lookup_cons]
      cases other == k <;> rfl
    · rw [beq_eq_false_iff_ne.mpr here, if_neg Bool.false_ne_true, List.lookup_cons, List.lookup_cons, List.lookup_cons,
        beq_eq_false_iff_ne.mpr (Ne.symm here), ih]
      by_cases same : other = key
      · subst same
        rw [beq_eq_false_iff_ne.mpr (Ne.symm here), beq_self_eq_true]
      · rw [beq_eq_false_iff_ne.mpr same, if_neg Bool.false_ne_true, if_neg Bool.false_ne_true]

theorem tallyLookup (keys : List κ) (key : κ) :
    (tally keys).lookup key = if keys.contains key then some (keys.count key) else none := by
  induction keys using List.reverseRecOn with
  | nil => rfl
  | append_singleton keys last ih =>
    rw [tally, List.foldl_append, List.foldl_cons, List.foldl_nil, ← tally, lookupBump]
    by_cases same : key = last
    · subst same
      rw [beq_self_eq_true, if_pos rfl, ih]
      by_cases before : key ∈ keys
      · simp [before]
      · simp [before, List.count_eq_zero_of_not_mem before]
    · have away : ¬ last = key := fun eq => same eq.symm
      rw [beq_eq_false_iff_ne.mpr same, if_neg Bool.false_ne_true, ih]
      simp [same, away]

theorem tallyPerm {keys keys' : List κ} (perm : keys.Perm keys') (key : κ) :
    (tally keys).lookup key = (tally keys').lookup key := by
  have both : keys.contains key = keys'.contains key := by
    rw [Bool.eq_iff_iff, List.contains_iff_mem, List.contains_iff_mem]
    exact perm.mem_iff
  rw [tallyLookup, tallyLookup, perm.count_eq, both]

end Counts

section Buckets
variable [LawfulBEq κ]

theorem lookupCollect (dict : List (κ × List α)) (entry : κ × α) (key : κ) :
    (collect dict entry).lookup key =
      if key == entry.1 then some ((dict.lookup key).getD [] ++ [entry.2]) else dict.lookup key := by
  induction dict with
  | nil =>
    rw [collect, List.lookup_cons]
    cases key == entry.1 <;> rfl
  | cons bucket rest ih =>
    obtain ⟨k, vs⟩ := bucket
    unfold collect
    by_cases here : k = entry.1
    · rw [beq_iff_eq.mpr here, if_pos rfl, List.lookup_cons, List.lookup_cons, here]
      cases key == entry.1 <;> rfl
    · rw [beq_eq_false_iff_ne.mpr here, if_neg Bool.false_ne_true, List.lookup_cons, List.lookup_cons, ih]
      by_cases same : key = entry.1
      · rw [beq_iff_eq.mpr same, if_pos rfl, same, beq_eq_false_iff_ne.mpr (Ne.symm here)]
        rfl
      · rw [beq_eq_false_iff_ne.mpr same, if_neg Bool.false_ne_true, if_neg Bool.false_ne_true]

theorem bucketsLookup (entries : List (κ × α)) (key : κ) :
    ((buckets entries).lookup key).getD [] = (entries.filter fun entry => entry.1 == key).map Prod.snd := by
  induction entries using List.reverseRecOn with
  | nil => rfl
  | append_singleton entries last ih =>
    rw [buckets, List.foldl_append, List.foldl_cons, List.foldl_nil, ← buckets, lookupCollect, List.filter_append,
      List.map_append, ← ih, List.filter_singleton]
    by_cases same : key = last.1
    · rw [beq_iff_eq.mpr same, if_pos rfl, beq_iff_eq.mpr same.symm]
      rfl
    · rw [beq_eq_false_iff_ne.mpr same, if_neg Bool.false_ne_true, beq_eq_false_iff_ne.mpr (Ne.symm same)]
      exact (List.append_nil _).symm

theorem collectKeys (dict : List (κ × List α)) (entry : κ × α) (key : κ) :
    key ∈ (collect dict entry).map Prod.fst ↔ key = entry.1 ∨ key ∈ dict.map Prod.fst := by
  induction dict with
  | nil => simp [collect]
  | cons bucket rest ih =>
    obtain ⟨k, vs⟩ := bucket
    unfold collect
    by_cases here : k = entry.1
    · simp [here]
    · rw [beq_eq_false_iff_ne.mpr here, if_neg Bool.false_ne_true, List.map_cons, List.mem_cons, ih, List.map_cons,
        List.mem_cons]
      exact or_left_comm

theorem bucketsKeys (entries : List (κ × α)) (key : κ) :
    key ∈ (buckets entries).map Prod.fst ↔ key ∈ entries.map Prod.fst := by
  induction entries using List.reverseRecOn with
  | nil => rfl
  | append_singleton entries last ih =>
    rw [buckets, List.foldl_append, List.foldl_cons, List.foldl_nil, ← buckets, collectKeys, ih, List.map_append,
      List.mem_append, List.map_cons, List.map_nil, List.mem_singleton]
    exact or_comm

theorem bucketsPerm {β : Type} (key : β → κ) {keys : List κ} (distinct : keys.Nodup) {items : List β}
    (known : ∀ item ∈ items, key item ∈ keys) :
    (keys.flatMap fun k => items.filter fun item => key item == k).Perm items := by
  induction keys generalizing items with
  | nil =>
    cases items with
    | nil => rfl
    | cons item items => cases known item List.mem_cons_self
  | cons k keys ih =>
    obtain ⟨fresh, distinct⟩ := List.nodup_cons.mp distinct
    have named : ∀ item ∈ items.filter fun item => !(key item == k), key item ∈ keys := by
      intro item inside
      obtain ⟨inside, other⟩ := List.mem_filter.mp inside
      rcases List.mem_cons.mp (known item inside) with same | later
      · rw [same, beq_self_eq_true] at other
        cases other
      · exact later
    have others := ih distinct named
    have apart : (keys.flatMap fun k' => (items.filter fun item => !(key item == k)).filter fun item => key item == k') =
        keys.flatMap fun k' => items.filter fun item => key item == k' := by
      apply List.flatMap_congr
      intro k' later
      rw [List.filter_filter]
      apply List.filter_congr
      intro item _
      by_cases here : key item = k'
      · have other : key item ≠ k := fun same => fresh (same ▸ here ▸ later)
        rw [beq_iff_eq.mpr here, beq_eq_false_iff_ne.mpr other]
        rfl
      · rw [beq_eq_false_iff_ne.mpr here, Bool.false_and]
    rw [apart] at others
    rw [List.flatMap_cons]
    exact (others.append_left _).trans (List.filter_append_perm _ items)

end Buckets

section Firsts

theorem firstsSnoc (entries : List (κ × α)) (entry : κ × α) :
    firsts (entries ++ [entry]) = keepFirst (firsts entries) entry := by
  rw [firsts, List.foldl_append]
  rfl

variable [LawfulBEq κ]

theorem firstsKeys (entries : List (κ × α)) (key : κ) :
    key ∈ (firsts entries).map Prod.fst ↔ key ∈ entries.map Prod.fst := by
  induction entries using List.reverseRecOn with
  | nil => rfl
  | append_singleton entries last ih =>
    rw [firstsSnoc, keepFirst, List.map_append, List.mem_append, ← ih]
    split
    · rename_i there
      have there := List.contains_iff_mem.mp there
      simp only [List.map_cons, List.map_nil, List.mem_singleton]
      exact ⟨.inl, fun either => either.elim id fun same => same ▸ there⟩
    · rw [List.map_append, List.mem_append]

theorem firstsNodup (entries : List (κ × α)) : ((firsts entries).map Prod.fst).Nodup := by
  induction entries using List.reverseRecOn with
  | nil => exact List.nodup_nil
  | append_singleton entries last ih =>
    rw [firstsSnoc, keepFirst]
    split
    · exact ih
    · rename_i new
      rw [List.map_append]
      refine List.nodup_append.mpr ⟨ih, List.nodup_singleton _, ?_⟩
      intro a there b only same
      rw [List.mem_singleton.mp only] at same
      exact new (List.contains_iff_mem.mpr (same ▸ there))

theorem firstsFirst {entries : List (κ × α)} {entry : κ × α} (kept : entry ∈ firsts entries) :
    ∃ before after, entries = before ++ entry :: after ∧ entry.1 ∉ before.map Prod.fst := by
  induction entries using List.reverseRecOn with
  | nil => cases kept
  | append_singleton entries last ih =>
    have earlier : entry ∈ firsts entries →
        ∃ before after, entries ++ [last] = before ++ entry :: after ∧ entry.1 ∉ before.map Prod.fst := by
      intro before
      obtain ⟨before, after, split, new⟩ := ih before
      exact ⟨before, after ++ [last], by rw [split, List.append_assoc]; rfl, new⟩
    rw [firstsSnoc, keepFirst] at kept
    split at kept
    · exact earlier kept
    · rename_i new
      rcases List.mem_append.mp kept with old | only
      · exact earlier old
      · cases List.mem_singleton.mp only
        rw [List.contains_iff_mem, firstsKeys] at new
        exact ⟨entries, [], rfl, new⟩

end Firsts
end SentinelGpt.LoopDict
