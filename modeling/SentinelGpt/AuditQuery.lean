import Mathlib.Data.List.Sort
import SentinelGpt.JsonWriter

/-! The query of the audit log: filters, order and limit in the statement, visibility behind it. -/
namespace SentinelGpt.AuditQuery

structure AuditEntryDetails where
  id : Nat
  actorUserId : Option Nat
  actionCode : PyStr
  entityType : PyStr
  entityId : Nat
  metadataJson : List (PyStr × Json)
  occurredAt : Time

structure Query where
  actorUserId : Nat
  entityType : Option PyStr
  entityId : Option Nat
  actionCode : Option PyStr
  dateFrom : Option Time
  dateTo : Option Time
  limit : Nat

abbrev AuditLog := List AuditEntryDetails

def Query.selects (query : Query) (row : AuditEntryDetails) : Bool :=
  query.entityType.all (row.entityType == ·) && query.entityId.all (row.entityId == ·) &&
    query.actionCode.all (row.actionCode == ·) && query.dateFrom.all (· ≤ row.occurredAt) &&
    query.dateTo.all (row.occurredAt ≤ ·)

def visibleTo (row : AuditEntryDetails) (userId : Nat) : Bool :=
  row.actorUserId == some userId ||
    match Json.get? row.metadataJson (py "ownerUserId") with
    | some (.str owner) => owner == uuidText userId
    | _ => false

def later (a b : AuditEntryDetails) : Prop := b.occurredAt ≤ a.occurredAt

instance (a b : AuditEntryDetails) : Decidable (later a b) := inferInstanceAs (Decidable (_ ≤ _))

/- `ORDER BY occurred_at DESC LIMIT limit`. -/
def mostRecent (limit : Nat) (rows : AuditLog) : AuditLog := (rows.insertionSort later).take limit

def filtersOf (query : Query) : List (PyStr × Json) :=
  let text : Option PyStr → Json := fun value => value.elim .null .str
  [(py "filters", .dict [(py "entityType", text query.entityType),
    (py "entityId", text (query.entityId.map uuidText)), (py "actionCode", text query.actionCode)])]

def accessed (query : Query) (id : Nat) (now : Time) : AuditEntryDetails where
  id := id
  actorUserId := some query.actorUserId
  actionCode := py "AUDIT_LOG_ACCESSED"
  entityType := py "audit_log"
  entityId := query.actorUserId
  metadataJson := filtersOf query
  occurredAt := now

def queryEntries (query : Query) (id : Nat) (now : Time) (log : AuditLog) : AuditLog × AuditLog :=
  let rows := mostRecent query.limit (log.filter query.selects)
  (rows.filter fun row => visibleTo row query.actorUserId, log ++ [accessed query id now])

section Limits
variable {α : Type} {p : α → Bool}

/- A limit and a filter change places just where the limit lets only chosen elements through, or
none is behind it. -/
theorem takeFilter (n : Nat) (l : List α) : (l.take n).filter p = (l.filter p).take n ↔
    (∀ a ∈ l.take n, p a = true) ∨ ∀ a ∈ l.drop n, p a = false := by
  have split : l.filter p = (l.take n).filter p ++ (l.drop n).filter p := by
    rw [← List.filter_append, List.take_append_drop]
  have fits : ((l.take n).filter p).length ≤ n :=
    (List.length_filter_le p _).trans (List.length_take_le n l)
  rw [split, List.take_append, List.take_of_length_le fits, List.self_eq_append_right,
    List.take_eq_nil_iff]
  constructor
  · intro cut
    rcases cut with full | none
    · have whole : (l.take n).filter p = l.take n := by
        apply List.filter_sublist.eq_of_length_le
        have short := List.length_take_le n l
        omega
      left
      intro a member
      rw [← whole] at member
      exact (List.mem_filter.mp member).2
    · right
      intro a member
      simpa using List.filter_eq_nil_iff.mp none a member
  · intro cases'
    rcases cases' with all | none
    · rcases Nat.le_total l.length n with short | long
      · right
        rw [List.drop_eq_nil_of_le short]
        rfl
      · left
        rw [List.filter_eq_self.mpr all, List.length_take]
        omega
    · right
      apply List.filter_eq_nil_iff.mpr
      intro a member
      simpa using none a member

end Limits

section Queries
variable {log log' : AuditLog}

instance : Std.Total later := ⟨fun a b => Nat.le_total b.occurredAt a.occurredAt⟩

instance : IsTrans AuditEntryDetails later := ⟨fun _ _ _ ahead behind => Nat.le_trans behind ahead⟩

def Distinct (log : AuditLog) : Prop := (log.map AuditEntryDetails.occurredAt).Nodup

instance : Decidable (Distinct log) := inferInstanceAs (Decidable (List.Nodup _))

theorem sortedUnique {rows rows' : AuditLog} (distinct : Distinct rows) (same : rows.Perm rows')
    (ordered : rows.Pairwise later) (ordered' : rows'.Pairwise later) : rows = rows' := by
  apply same.eq_of_pairwise _ ordered ordered'
  intro a b first second ahead behind
  exact List.inj_on_of_nodup_map distinct first (same.mem_iff.mpr second) (Nat.le_antisymm behind ahead)

theorem distinctFilter {p : AuditEntryDetails → Bool} (distinct : Distinct log) : Distinct (log.filter p) :=
  distinct.sublist (List.filter_sublist.map _)

theorem distinctPerm (distinct : Distinct log) (same : log.Perm log') : Distinct log' :=
  (same.map _).nodup_iff.mp distinct

theorem sortedPerm (distinct : Distinct log) (same : log.Perm log') :
    log.insertionSort later = log'.insertionSort later := by
  have own := List.perm_insertionSort later log
  have other := List.perm_insertionSort later log'
  exact sortedUnique (distinctPerm distinct own.symm) ((own.trans same).trans other.symm)
    (List.pairwise_insertionSort later log) (List.pairwise_insertionSort later log')

theorem filterSorted {p : AuditEntryDetails → Bool} (distinct : Distinct log) :
    (log.insertionSort later).filter p = (log.filter p).insertionSort later := by
  have own := (List.perm_insertionSort later log).filter p
  have other := List.perm_insertionSort later (log.filter p)
  exact sortedUnique (distinctPerm (distinctFilter distinct) own.symm) (own.trans other.symm)
    ((List.pairwise_insertionSort later log).filter p) (List.pairwise_insertionSort later _)

def matching (query : Query) (log : AuditLog) : AuditLog := (log.filter query.selects).insertionSort later

def owed (query : Query) (log : AuditLog) : AuditLog :=
  mostRecent query.limit (log.filter fun row => query.selects row && visibleTo row query.actorUserId)

/- Either the limit is spent on visible rows alone, or no visible row is behind it. -/
def Unobstructed (query : Query) (log : AuditLog) : Prop :=
  (∀ row ∈ (matching query log).take query.limit, visibleTo row query.actorUserId = true) ∨
    ∀ row ∈ (matching query log).drop query.limit, visibleTo row query.actorUserId = false

theorem owedMatching {query : Query} (distinct : Distinct log) : owed query log =
    ((matching query log).filter (visibleTo · query.actorUserId)).take query.limit := by
  rw [matching, filterSorted (distinctFilter distinct), List.filter_filter]
  simp only [owed, mostRecent, Bool.and_comm]

theorem owedExactly {query : Query} {id : Nat} {now : Time} (distinct : Distinct log) :
    (queryEntries query id now log).1 = owed query log ↔ Unobstructed query log := by
  rw [owedMatching distinct]
  exact takeFilter query.limit (matching query log)

theorem owedVisible {query : Query} (distinct : Distinct log)
    (same : (log.filter (visibleTo · query.actorUserId)).Perm (log'.filter (visibleTo · query.actorUserId))) :
    owed query log = owed query log' := by
  have seen : ∀ rows : AuditLog, rows.filter (fun row => query.selects row && visibleTo row query.actorUserId) =
      (rows.filter (visibleTo · query.actorUserId)).filter query.selects :=
    fun rows => List.filter_filter.symm
  have ordered := sortedPerm (distinctFilter (distinctFilter distinct)) (same.filter query.selects)
  simp only [owed, mostRecent, seen, ordered]

theorem queriedExactly (query : Query) (id : Nat) (now : Time) (log : AuditLog) (distinct : Distinct log) :
    ((queryEntries query id now log).1 = owed query log ↔ Unobstructed query log) ∧
      ∀ (id' : Nat) (now' : Time) (log' : AuditLog), Distinct log' →
        (log.filter (visibleTo · query.actorUserId)).Perm (log'.filter (visibleTo · query.actorUserId)) →
        Unobstructed query log → Unobstructed query log' →
        (queryEntries query id now log).1 = (queryEntries query id' now' log').1 := by
  constructor
  · exact owedExactly distinct
  · intro id' now' log' distinct' same clear clear'
    rw [(owedExactly distinct).mpr clear, (owedExactly distinct').mpr clear', owedVisible distinct same]

def attestedBy (user : Nat) (occurredAt : Time) : AuditEntryDetails :=
  ⟨occurredAt, some user, py "ATTESTATION_CONFIRMED", py "authorization_attestation", user, [], occurredAt⟩

def latestOf (user : Nat) : Query := ⟨user, none, none, none, none, none, 1⟩

theorem clearQueried : Distinct [attestedBy 8 1, attestedBy 7 2] ∧
    (queryEntries (latestOf 7) 3 3 [attestedBy 8 1, attestedBy 7 2]).1 =
      owed (latestOf 7) [attestedBy 8 1, attestedBy 7 2] ∧
    (queryEntries (latestOf 7) 3 3 [attestedBy 8 1, attestedBy 7 2]).1 =
      (queryEntries (latestOf 7) 5 4 [attestedBy 7 2, attestedBy 9 0, attestedBy 8 1]).1 := by
  have distinct : Distinct [attestedBy 8 1, attestedBy 7 2] := by decide
  have distinct' : Distinct [attestedBy 7 2, attestedBy 9 0, attestedBy 8 1] := by decide
  have clear : ∀ log : AuditLog, (matching (latestOf 7) log).take 1 = [attestedBy 7 2] → Unobstructed (latestOf 7) log := by
    intro log first
    left
    intro row member
    have member : row ∈ (matching (latestOf 7) log).take 1 := member
    rw [first] at member
    cases List.mem_singleton.mp member
    rfl
  obtain ⟨whole, alike⟩ := queriedExactly (latestOf 7) 3 3 _ distinct
  exact ⟨distinct, whole.mpr (clear _ rfl), alike 5 4 _ distinct' (.refl _) (clear _ rfl) (clear _ rfl)⟩

/- A stranger's later row spends the limit, and the requester's own entry is not found; without
that row it is. -/
theorem strangerCrowdsOut : Distinct [attestedBy 7 1, attestedBy 8 2] ∧
    (queryEntries (latestOf 7) 3 3 [attestedBy 7 1, attestedBy 8 2]).1 = [] ∧
    owed (latestOf 7) [attestedBy 7 1, attestedBy 8 2] = [attestedBy 7 1] ∧
    (queryEntries (latestOf 7) 3 3 [attestedBy 7 1]).1 = [attestedBy 7 1] :=
  ⟨by decide, rfl, rfl, rfl⟩

end Queries
end SentinelGpt.AuditQuery
