import SentinelGpt.AnalysisFailClosed
import SentinelGpt.LoopDict
import Mathlib.Data.List.Sort

/-! The candidate groups part the findings by category, whatever the order in which these come. -/
namespace SentinelGpt
open AiAnalysisService

theorem sortedStrSorted (texts : List PyStr) : (sortedStr texts).Pairwise fun a b => leStr a b = true := by
  have total : Std.Total fun a b : PyStr => leStr a b = true := ⟨fun a b => Bool.or_eq_true_iff.mp (leStrTotal a b)⟩
  have trans : IsTrans PyStr fun a b => leStr a b = true := ⟨fun _ _ _ => leStrTrans⟩
  exact List.pairwise_insertionSort _ texts

theorem sortedStrPerm {texts texts' : List PyStr} (perm : texts.Perm texts') : sortedStr texts = sortedStr texts' := by
  have both : (sortedStr texts).Perm (sortedStr texts') :=
    ((List.perm_insertionSort _ texts).trans perm).trans (List.perm_insertionSort _ texts').symm
  exact both.eq_of_pairwise (fun _ _ _ _ => leStrAntisymm) (sortedStrSorted texts) (sortedStrSorted texts')

def byCategory (e : EvidenceSet) : List (PyStr × List PyStr) :=
  LoopDict.buckets (e.findings.map fun f => (f.category, f.id))

def bucket (e : EvidenceSet) (category : PyStr) : List PyStr := ((byCategory e).lookup category).getD []

theorem bucketIs (e : EvidenceSet) (category : PyStr) :
    bucket e category = (e.findings.filter fun f => f.category == category).map Finding.id := by
  rw [bucket, byCategory, LoopDict.bucketsLookup, List.filter_map, List.map_map]
  rfl

theorem bucketSorted (e : EvidenceSet) (category : PyStr) : sortedStr (bucket e category) = categoryIds e category := by
  rw [bucketIs, categoryIds]

theorem knownFilled (e : EvidenceSet) : knownCategories e = categories.filter fun c => !(categoryIds e c.1).isEmpty := by
  unfold knownCategories
  congr 1
  funext c
  rw [Bool.eq_iff_iff, List.contains_iff_mem, Bool.not_eq_true', List.isEmpty_eq_false_iff_exists_mem]
  constructor
  · intro inside
    obtain ⟨f, member, same⟩ := List.mem_map.mp inside
    exact ⟨f.id, memCategoryIds.mpr ⟨f, member, same, rfl⟩⟩
  · intro filled
    obtain ⟨id, inside⟩ := filled
    obtain ⟨f, member, same, -⟩ := memCategoryIds.mp inside
    exact same ▸ List.mem_map_of_mem member

theorem extraKeys (e : EvidenceSet) : extraCategories e = sortedSet
    (((byCategory e).map Prod.fst).filter fun c => !(categories.map Prod.fst).contains c) := by
  unfold extraCategories sortedSet
  apply sortedStrPerm
  apply (List.perm_ext_iff_of_nodup (List.nodup_dedup _) (List.nodup_dedup _)).mpr
  intro c
  have keys := LoopDict.bucketsKeys (e.findings.map fun f => (f.category, f.id)) c
  rw [List.map_map] at keys
  rw [List.mem_dedup, List.mem_dedup, List.mem_filter, List.mem_filter, byCategory, keys]
  rfl

def clusterOf (python : Python) (category title : PyStr) (ids : List PyStr) : Except PyError CandidateGroup := do
  return {
    groupId := ← sha16 python (py "candidate|" ++ category ++ py "|" ++ join (py "|") ids)
    category, title
    findingIds := ids }

def groupsFromBuckets (python : Python) (e : EvidenceSet) : Except PyError (List CandidateGroup) := do
  let groups ← (categories.filter fun c => !(sortedStr (bucket e c.1)).isEmpty).mapM fun c =>
    clusterOf python c.1 c.2 (sortedStr (bucket e c.1))
  let unnamed := ((byCategory e).map Prod.fst).filter fun c => !(categories.map Prod.fst).contains c
  let extras ← (sortedSet unnamed).mapM fun c => clusterOf python c (c ++ py " cluster") (sortedStr (bucket e c))
  return sortedGroups (sortedGroups groups ++ extras)

theorem builtFromBuckets (python : Python) (e : EvidenceSet) :
    groupsFromBuckets python e = buildCandidateGroups python e := by
  unfold groupsFromBuckets buildCandidateGroups
  rw [knownFilled, extraKeys]
  simp only [bucketSorted]
  rfl

section Made
variable (python : Python) {e : EvidenceSet}

def CandidateGroup.identity (g : CandidateGroup) : PyStr :=
  py "candidate|" ++ g.category ++ py "|" ++ join (py "|") g.findingIds

def groupOf (e : EvidenceSet) (category title : PyStr) : CandidateGroup where
  groupId := (python.sha256 (py "candidate|" ++ category ++ py "|" ++ join (py "|") (categoryIds e category))).take 16
  category := category
  title := title
  findingIds := categoryIds e category

theorem candidateGroupMade {category title : PyStr} (fits : (candidateGroup python e category title).isOk = true) :
    candidateGroup python e category title = .ok (groupOf python e category title) := by
  unfold candidateGroup sha16 hexdigest encode at fits ⊢
  dsimp only at fits ⊢
  split
  · rfl
  · rename_i other
    rw [if_neg other] at fits
    cases fits

theorem mapMIs {α β : Type} {f : α → Except PyError β} {g : α → β} {items : List α}
    (each : ∀ a ∈ items, f a = .ok (g a)) : items.mapM f = .ok (items.map g) := by
  induction items with
  | nil => rfl
  | cons a items ih =>
    obtain ⟨first, others⟩ := List.forall_mem_cons.mp each
    rw [List.mapM_cons, first, ih others]
    rfl

def titled (e : EvidenceSet) : List (PyStr × PyStr) :=
  knownCategories e ++ (extraCategories e).map fun c => (c, c ++ py " cluster")

theorem memTitled {category : PyStr} :
    category ∈ (titled e).map Prod.fst ↔ category ∈ e.findings.map Finding.category := by
  rw [titled, List.map_append, List.map_map, List.mem_append]
  constructor
  · intro either
    rcases either with known | extra
    · obtain ⟨c, inside, rfl⟩ := List.mem_map.mp known
      exact List.contains_iff_mem.mp (List.mem_filter.mp inside).2
    · obtain ⟨c, inside, rfl⟩ := List.mem_map.mp extra
      exact (List.mem_filter.mp (memSortedSet.mp inside)).1
  · intro found
    by_cases known : category ∈ categories.map Prod.fst
    · obtain ⟨c, inTable, rfl⟩ := List.mem_map.mp known
      exact .inl (List.mem_map_of_mem (List.mem_filter.mpr ⟨inTable, List.contains_iff_mem.mpr found⟩))
    · have other : (!(categories.map Prod.fst).contains category) = true := by simpa using known
      exact .inr (List.mem_map.mpr ⟨category, memSortedSet.mpr (List.mem_filter.mpr ⟨found, other⟩), rfl⟩)

theorem titledNodup (e : EvidenceSet) : ((titled e).map Prod.fst).Nodup := by
  have table : (categories.map Prod.fst).Nodup := by decide
  have extras : (extraCategories e).Nodup :=
    (List.perm_insertionSort _ _).nodup_iff.mpr (List.nodup_dedup _)
  rw [titled, List.map_append, List.map_map]
  refine List.nodup_append.mpr ⟨table.sublist (List.filter_sublist.map Prod.fst), ?_, ?_⟩
  · exact (List.map_id (extraCategories e)).symm ▸ extras
  · intro a known b extra same
    obtain ⟨c, inside, rfl⟩ := List.mem_map.mp known
    obtain ⟨d, outside, rfl⟩ := List.mem_map.mp extra
    have unknown := (List.mem_filter.mp (memSortedSet.mp outside)).2
    have named : c.1 ∈ categories.map Prod.fst := List.mem_map_of_mem (List.mem_filter.mp inside).1
    rw [same] at named
    have both : (categories.map Prod.fst).contains d = true := List.contains_iff_mem.mpr named
    rw [both] at unknown
    cases unknown

theorem groupsMade (groupable' : groupable e = true) : buildCandidateGroups python e =
    .ok (sortedGroups (sortedGroups ((knownCategories e).map fun c => groupOf python e c.1 c.2) ++
      (extraCategories e).map fun c => groupOf python e c (c ++ py " cluster"))) := by
  have fits : ∀ category ∈ (titled e).map Prod.fst, ∀ title, (candidateGroup python e category title).isOk = true := by
    intro category inside title
    obtain ⟨f, member, rfl⟩ := List.mem_map.mp (memTitled.mp inside)
    have all := List.all_eq_true.mp groupable'
    rw [candidateGroupIsOk, Bool.and_eq_true, List.all_eq_true]
    refine ⟨(Bool.and_eq_true_iff.mp (all f member)).1, fun id inside => ?_⟩
    obtain ⟨f', member', -, rfl⟩ := memCategoryIds.mp inside
    exact (Bool.and_eq_true_iff.mp (all f' member')).2
  have known : (knownCategories e).mapM (fun c => candidateGroup python e c.1 c.2) = .ok _ :=
    mapMIs fun c inside => candidateGroupMade python (fits c.1 (by
      rw [titled, List.map_append]
      exact List.mem_append_left _ (List.mem_map_of_mem inside)) c.2)
  have extra : (extraCategories e).mapM (fun c => candidateGroup python e c (c ++ py " cluster")) = .ok _ :=
    mapMIs fun c inside => candidateGroupMade python (fits c (by
      rw [titled, List.map_append, List.map_map]
      exact List.mem_append_right _ (List.mem_map_of_mem inside)) (c ++ py " cluster"))
  rw [buildCandidateGroups, known, extra]
  rfl

theorem groupsPerm : (sortedGroups (sortedGroups ((knownCategories e).map fun c => groupOf python e c.1 c.2) ++
    (extraCategories e).map fun c => groupOf python e c (c ++ py " cluster"))).Perm
      ((titled e).map fun c => groupOf python e c.1 c.2) := by
  rw [titled, List.map_append, List.map_map]
  exact (List.perm_insertionSort _ _).trans ((List.perm_insertionSort _ _).append_right _)

end Made

/- The groups hold each id once, by category and in order. The digest's text tells a group from the
others where no id has a bar in it. -/
structure Partitions (python : Python) (e : EvidenceSet) (groups : List CandidateGroup) : Prop where
  once : (groups.flatMap CandidateGroup.findingIds).Perm e.findingIds
  filled : ∀ g ∈ groups, g.findingIds ≠ []
  ordered : ∀ g ∈ groups, g.findingIds.Pairwise fun a b => leStr a b = true
  alike : ∀ g ∈ groups, ∀ f ∈ e.findings, f.id ∈ g.findingIds ↔ f.category = g.category
  parted : (groups.map CandidateGroup.category).Nodup
  digested : ∀ g ∈ groups, g.groupId = (python.sha256 g.identity).take 16
  told : (∀ id ∈ e.findingIds, (0x7C : CodePoint) ∉ id) → (groups.map CandidateGroup.identity).Nodup

section Partition
variable (python : Python) {e : EvidenceSet}

theorem memGroupIds (distinct : e.findingIds.Nodup) {f : Finding} (member : f ∈ e.findings) (category : PyStr) :
    f.id ∈ categoryIds e category ↔ f.category = category := by
  rw [memCategoryIds]
  constructor
  · intro found
    obtain ⟨f', member', same, id⟩ := found
    rw [← List.inj_on_of_nodup_map distinct member' member id]
    exact same
  · intro same
    exact ⟨f, member, same, rfl⟩

theorem joinEnds {ids : List PyStr} (filled : ids ≠ []) :
    ∃ front, ∃ id ∈ ids, py "|" ++ join (py "|") ids = front ++ 0x7C :: id := by
  induction ids with
  | nil => exact absurd rfl filled
  | cons id ids ih =>
    cases ids with
    | nil => exact ⟨[], id, List.mem_cons_self, by simp [join]; rfl⟩
    | cons next rest =>
      obtain ⟨front, last, inside, ends⟩ := ih (List.cons_ne_nil next rest)
      refine ⟨py "|" ++ id ++ front, last, List.mem_cons_of_mem id inside, ?_⟩
      have unfolded : join (py "|") (id :: next :: rest) = id ++ (py "|" ++ join (py "|") (next :: rest)) := by
        simp [join]
      rw [unfolded, ends]
      simp only [List.append_assoc]

theorem identityTells (distinct : e.findingIds.Nodup) (plain : ∀ id ∈ e.findingIds, (0x7C : CodePoint) ∉ id) {c d : PyStr × PyStr}
    (first : c.1 ∈ e.findings.map Finding.category) (second : d.1 ∈ e.findings.map Finding.category)
    (same : (groupOf python e c.1 c.2).identity = (groupOf python e d.1 d.2).identity) : c.1 = d.1 := by
  have last : ∀ category title : PyStr, category ∈ e.findings.map Finding.category →
      ∃ f ∈ e.findings, f.category = category ∧ afterLast 0x7C (groupOf python e category title).identity = f.id := by
    intro category title inside
    obtain ⟨f, member, rfl⟩ := List.mem_map.mp inside
    have filled : categoryIds e f.category ≠ [] := List.ne_nil_of_mem (memCategoryIds.mpr ⟨f, member, rfl, rfl⟩)
    obtain ⟨front, id, inside, ends⟩ := joinEnds filled
    obtain ⟨f', member', category', rfl⟩ := memCategoryIds.mp inside
    have text : (groupOf python e f.category title).identity = (py "candidate|" ++ f.category ++ front) ++ 0x7C :: f'.id := by
      rw [List.append_assoc (_ ++ _) front, ← ends]
      exact List.append_assoc _ _ _
    refine ⟨f', member', category', ?_⟩
    rw [text, afterLastOf _ (plain f'.id (List.mem_map_of_mem member'))]
  obtain ⟨f, member, category, ends⟩ := last c.1 c.2 first
  obtain ⟨f', member', category', ends'⟩ := last d.1 d.2 second
  rw [same, ends'] at ends
  rw [← category, ← category', List.inj_on_of_nodup_map distinct member' member ends]

theorem groupsPartition (distinct : e.findingIds.Nodup) {groups : List CandidateGroup}
    (made : groups.Perm ((titled e).map fun c => groupOf python e c.1 c.2)) : Partitions python e groups where
  once := by
    have covers : ∀ f ∈ e.findings, f.category ∈ (titled e).map Prod.fst :=
      fun f member => memTitled.mpr (List.mem_map_of_mem member)
    have whole := LoopDict.bucketsPerm Finding.category (titledNodup e) covers
    have ids := (made.flatMap_right CandidateGroup.findingIds).trans (List.Perm.of_eq (List.flatMap_map ..))
    refine ids.trans (List.Perm.trans ?_ (whole.map Finding.id))
    rw [List.flatMap_map, List.map_flatMap]
    exact List.Perm.flatMap_left _ fun c _ => List.perm_insertionSort _ _
  filled := by
    intro g member
    obtain ⟨c, inside, rfl⟩ := List.mem_map.mp (made.mem_iff.mp member)
    obtain ⟨f, found, same⟩ := List.mem_map.mp (memTitled.mp (List.mem_map_of_mem (f := Prod.fst) inside))
    exact List.ne_nil_of_mem (memCategoryIds.mpr ⟨f, found, same, rfl⟩)
  ordered := by
    intro g member
    obtain ⟨c, -, rfl⟩ := List.mem_map.mp (made.mem_iff.mp member)
    exact sortedStrSorted _
  alike := by
    intro g member f found
    obtain ⟨c, -, rfl⟩ := List.mem_map.mp (made.mem_iff.mp member)
    exact memGroupIds distinct found c.1
  parted := by
    have titles := titledNodup e
    rw [(made.map CandidateGroup.category).nodup_iff, List.map_map]
    exact titles
  digested := by
    intro g member
    obtain ⟨c, -, rfl⟩ := List.mem_map.mp (made.mem_iff.mp member)
    rfl
  told := by
    intro plain
    rw [(made.map CandidateGroup.identity).nodup_iff, List.map_map]
    refine List.Nodup.map_on ?_ (titledNodup e).of_map
    intro c first d second same
    have categories := identityTells python distinct plain (memTitled.mp (List.mem_map_of_mem first))
      (memTitled.mp (List.mem_map_of_mem second)) same
    exact List.inj_on_of_nodup_map (titledNodup e) first second categories

end Partition

theorem categoryIdsPerm {e other : EvidenceSet} (perm : other.findings.Perm e.findings) (category : PyStr) :
    categoryIds other category = categoryIds e category :=
  sortedStrPerm ((perm.filter _).map Finding.id)

theorem candidateGroupPerm (python : Python) {e other : EvidenceSet} (perm : other.findings.Perm e.findings)
    (category title : PyStr) : candidateGroup python other category title = candidateGroup python e category title := by
  unfold candidateGroup
  rw [categoryIdsPerm perm]

/- The order of the findings is of no concern, also where grouping raises. -/
theorem groupsOfPerm (python : Python) {e other : EvidenceSet} (perm : other.findings.Perm e.findings) :
    buildCandidateGroups python other = buildCandidateGroups python e := by
  have found := perm.map Finding.category
  have known : knownCategories other = knownCategories e := by
    unfold knownCategories
    congr 1
    funext c
    rw [Bool.eq_iff_iff, List.contains_iff_mem, List.contains_iff_mem]
    exact found.mem_iff
  have extra : extraCategories other = extraCategories e := by
    unfold extraCategories sortedSet
    exact sortedStrPerm (found.filter _).dedup
  unfold buildCandidateGroups
  rw [known, extra]
  simp only [candidateGroupPerm python perm]

def brokenEvidence : EvidenceSet :=
  ⟨[], { timeoutResult with findings := [{ timeoutFinding with category := [0xD800] }] }, by decide⟩

end SentinelGpt
