import SentinelGpt.CursorCodec
import SentinelGpt.KeysetPages
import SentinelGpt.ScanStore
import Mathlib.Data.Prod.Lex

/-! The listing of targets, page by page. -/
namespace SentinelGpt.TargetPages
open KeysetPages

/- The driver reads a time with its zone in UTC. -/
structure TargetRow extends Target where
  createdAt : DateTime
  utc : createdAt.utcoffset = some 0
  inUuid : id < 2 ^ 128
  deriving DecidableEq

def TargetRow.instant (row : TargetRow) : Int := row.createdAt.instant.getD 0

theorem TargetRow.instantIs (row : TargetRow) : row.createdAt.instant = some row.instant := by
  rw [TargetRow.instant, DateTime.instant, row.utc]
  rfl

/- `ORDER BY created_at DESC, id DESC`. -/
def TargetRow.key (row : TargetRow) : Int ×ₗ Nat := toLex (row.instant, row.id)

/-! The repository. -/

def databaseError : PyError := .other (py "DBAPIError")

def listed (ownerOrganizationId ownerUserId : Option Nat) (includeArchived : Bool) (row : TargetRow) : Bool :=
  row.ownerOrganizationId == ownerOrganizationId && row.ownerUserId == ownerUserId &&
    (includeArchived || !row.isArchived)

/- The driver does not compare a naive time with the column. -/
def listForOwner (db : List TargetRow) (ownerOrganizationId ownerUserId : Option Nat) (includeArchived : Bool)
    (limit : Nat) (cursor : Option (DateTime × Nat)) : Except PyError (List TargetRow) :=
  let rows := db.filter (listed ownerOrganizationId ownerUserId includeArchived)
  match cursor with
  | none => .ok ((ordered TargetRow.key rows).take limit)
  | some (createdAt, id) =>
    match createdAt.instant with
    | none => .error databaseError
    | some at' =>
      let rows := rows.filter fun row => row.instant < at' || (row.instant == at' && row.id < id)
      .ok ((ordered TargetRow.key rows).take limit)

/-! The service. -/

def forbiddenError : PyError := .other (py "ForbiddenError")

structure TargetDetails where
  id : Nat
  hostname : PyStr
  normalizedUrl : PyStr
  ownerOrganizationId : Option Nat
  ownerUserId : Option Nat
  isArchived : Bool
  createdAt : DateTime
  deriving DecidableEq

structure TargetPage where
  items : List TargetDetails
  hasNextPage : Bool
  deriving DecidableEq

def toDetails (target : TargetRow) : TargetDetails where
  id := target.id
  hostname := target.hostname
  normalizedUrl := target.normalizedUrl
  ownerOrganizationId := target.ownerOrganizationId
  ownerUserId := target.ownerUserId
  isArchived := target.isArchived
  createdAt := target.createdAt

structure Requester where
  user : Nat
  isMember : Nat → Bool

def Requester.owned (requester : Requester) (organizationId : Option Nat) (includeArchived : Bool) : TargetRow → Bool :=
  listed organizationId (if organizationId.isSome then none else some requester.user) includeArchived

def serviceTargets (db : List TargetRow) (requester : Requester) (organizationId : Option Nat) (includeArchived : Bool)
    (limit : Nat) (cursor : Option (DateTime × Nat)) : Except PyError TargetPage :=
  if organizationId.any fun organization => !requester.isMember organization then .error forbiddenError
  else do
    let rows ← listForOwner db organizationId (if organizationId.isSome then none else some requester.user)
      includeArchived (limit + 1) cursor
    return ⟨(rows.take limit).map toDetails, limit < rows.length⟩

/-! The route. -/

def scanStatusPendingAttestation : PyStr := py "PENDING_ATTESTATION"

structure TargetResponse extends TargetDetails where
  status : PyStr := scanStatusPendingAttestation
  deriving DecidableEq

structure PageInfo where
  nextCursor : Option PyStr
  hasNextPage : Bool
  deriving DecidableEq

structure TargetListResponse where
  items : List TargetResponse
  pageInfo : PageInfo
  deriving DecidableEq

def toResponse (details : TargetDetails) : TargetResponse := { details with }

def position (python : Python) (other : OtherReads) : Option PyStr → Except PyError (Option (DateTime × Nat))
  | none => .ok none
  | some cursor => (decodeCursor python other cursor).map some

def listTargets (python : Python) (other : OtherReads) (db : List TargetRow) (requester : Requester)
    (organizationId : Option Nat) (includeArchived : Bool) (limit : Nat) (cursor : Option PyStr) :
    Except PyError TargetListResponse := do
  let start ← position python other cursor
  let page ← serviceTargets db requester organizationId includeArchived limit start
  let nextCursor := if page.hasNextPage then page.items.getLast?.map fun last => encodeCursor last.createdAt last.id
    else none
  return ⟨page.items.map toResponse, ⟨nextCursor, page.hasNextPage⟩⟩

def follow (list : Option PyStr → Except PyError TargetListResponse) :
    Nat → Option PyStr → Option (Except PyError (List TargetResponse))
  | 0, _ => none
  | rounds + 1, cursor =>
    match list cursor with
    | .error exc => some (.error exc)
    | .ok page =>
      if page.pageInfo.hasNextPage then
        (follow list rounds page.pageInfo.nextCursor).map fun rest => rest.map (page.items ++ ·)
      else some (.ok page.items)

section Page
variable {db : List TargetRow}

theorem keysNodup (distinct : (db.map fun row => row.id).Nodup) : (db.map TargetRow.key).Nodup := by
  have ids : (db.map TargetRow.key).map (fun key => (ofLex key).2) = db.map fun row => row.id := by
    rw [List.map_map]
    rfl
  exact List.Nodup.of_map _ (ids ▸ distinct)

theorem behindKey (row : TargetRow) (rows : List TargetRow) :
    (rows.filter fun r => r.instant < row.instant || (r.instant == row.instant && r.id < row.id)) =
      behind TargetRow.key (some row.key) rows := by
  apply List.filter_congr
  intro r _
  rw [Bool.eq_iff_iff, decide_eq_true_iff, TargetRow.key, TargetRow.key, Prod.Lex.toLex_lt_toLex]
  simp

theorem rowsRead (distinct : (db.map fun row => row.id).Nodup) (organization user : Option Nat) (includeArchived : Bool)
    (limit : Nat) {seen todo : List TargetRow}
    (parts : ordered TargetRow.key (db.filter (listed organization user includeArchived)) = seen ++ todo) :
    listForOwner db organization user includeArchived limit (seen.getLast?.map fun row => (row.createdAt, row.id)) =
      .ok (todo.take limit) := by
  have fewer : ((db.filter (listed organization user includeArchived)).map TargetRow.key).Nodup :=
    (keysNodup distinct).sublist (List.filter_sublist.map TargetRow.key)
  have descends := orderedDescends TargetRow.key fewer
  rcases List.eq_nil_or_concat' seen with rfl | ⟨front, last, rfl⟩
  · rw [List.nil_append] at parts
    rw [List.getLast?_nil, Option.map_none, listForOwner, parts]
  · rw [parts, List.append_assoc] at descends
    have rest := behindRow descends
    rw [List.getLast?_concat, Option.map_some, listForOwner]
    simp only [last.instantIs]
    rw [behindKey, orderedBehind fewer, parts, List.append_assoc]
    exact congrArg (fun rows => Except.ok (rows.take limit)) rest

variable (python : Python) (room : 1 ≤ python.loadsDepth) (other : OtherReads) (requester : Requester)
  {organizationId : Option Nat} (admitted : ∀ organization ∈ organizationId, requester.isMember organization = true)
include room admitted

def cursorOf (row : TargetRow) : PyStr := encodeCursor row.createdAt row.id

theorem pageRead (distinct : (db.map fun row => row.id).Nodup) (includeArchived : Bool) (limit : Nat)
    {seen todo : List TargetRow}
    (parts : ordered TargetRow.key (db.filter (requester.owned organizationId includeArchived)) = seen ++ todo) :
    listTargets python other db requester organizationId includeArchived limit (seen.getLast?.map cursorOf) =
      .ok ⟨(todo.take limit).map fun row => toResponse (toDetails row),
        ⟨if limit < todo.length then (todo.take limit).getLast?.map cursorOf else none, limit < todo.length⟩⟩ := by
  have rows := rowsRead distinct organizationId (if organizationId.isSome then none else some requester.user)
    includeArchived (limit + 1) parts
  have unbarred : (organizationId.any fun organization => !requester.isMember organization) = false := by
    cases organizationId with
    | none => rfl
    | some organization => rw [Option.any_some, admitted organization rfl, Bool.not_true]
  have start : position python other (seen.getLast?.map cursorOf) =
      .ok (seen.getLast?.map fun row => (row.createdAt, row.id)) := by
    cases seen.getLast? with
    | none => rfl
    | some row =>
      have decoded := cursorDecoded python room other row.createdAt row.inUuid
      rw [Option.map_some, position, cursorOf, decoded]
      rfl
  have kept : (todo.take (limit + 1)).take limit = todo.take limit := by
    rw [List.take_take, Nat.min_eq_left (Nat.le_succ limit)]
  have more : (limit < (todo.take (limit + 1)).length) ↔ limit < todo.length := by
    rw [List.length_take]
    omega
  have page : serviceTargets db requester organizationId includeArchived limit
      (seen.getLast?.map fun row => (row.createdAt, row.id)) =
        .ok ⟨(todo.take limit).map toDetails, limit < todo.length⟩ := by
    rw [serviceTargets, unbarred, if_neg Bool.false_ne_true, rows]
    simp only [bind, Except.bind, kept, more]
    rfl
  have last : ((todo.take limit).map toDetails).getLast?.map (fun last => encodeCursor last.createdAt last.id) =
      (todo.take limit).getLast?.map cursorOf := by
    rw [List.getLast?_map, Option.map_map]
    rfl
  rw [listTargets, start]
  simp only [bind, Except.bind, page, last, List.map_map, decide_eq_true_eq]
  rfl

/- Behind the rows seen, following the cursors visits the others, a page in each round. -/
theorem followFrom (distinct : (db.map fun row => row.id).Nodup) (includeArchived : Bool) {limit : Nat}
    (positive : 1 ≤ limit) {seen todo : List TargetRow}
    (parts : ordered TargetRow.key (db.filter (requester.owned organizationId includeArchived)) = seen ++ todo)
    {rounds : Nat} (enough : todo.length < rounds) :
    follow (listTargets python other db requester organizationId includeArchived limit) rounds
      (seen.getLast?.map cursorOf) = some (.ok (todo.map fun row => toResponse (toDetails row))) := by
  induction rounds generalizing seen todo with
  | zero => omega
  | succ rounds ih =>
    rw [follow, pageRead python room other requester admitted distinct includeArchived limit parts]
    dsimp only
    by_cases more : limit < todo.length
    · obtain ⟨front, last, page, whole⟩ := pageEnds positive more
      have further : ordered TargetRow.key (db.filter (requester.owned organizationId includeArchived)) =
          (seen ++ todo.take limit) ++ todo.drop limit := by
        rw [List.append_assoc, List.take_append_drop, parts]
      have fewer : (todo.drop limit).length < rounds := by
        rw [List.length_drop]
        omega
      have rest := ih further fewer
      have behind : (seen ++ todo.take limit).getLast? = (todo.take limit).getLast? := by
        rw [page, ← List.append_assoc, List.getLast?_concat, List.getLast?_concat]
      rw [behind] at rest
      rw [if_pos (decide_eq_true more), if_pos more, rest, Option.map_some, Except.map, ← List.map_append,
        List.take_append_drop]
    · rw [if_neg (fun full => more (of_decide_eq_true full)), List.take_of_length_le (by omega)]

end Page

section Cursors
variable (python : Python) (room : 1 ≤ python.loadsDepth) (other : OtherReads) {db : List TargetRow} {requester : Requester}
  {organizationId : Option Nat} {includeArchived : Bool} {limit : Nat}

theorem serviceItems {cursor : Option (DateTime × Nat)} {page : TargetPage}
    (ok : serviceTargets db requester organizationId includeArchived limit cursor = .ok page) :
    ∃ rows : List TargetRow, page.items = rows.map toDetails := by
  unfold serviceTargets at ok
  split at ok
  · cases ok
  · obtain ⟨rows, -, made⟩ := bindOk ok
    cases made
    exact ⟨rows.take limit, rfl⟩

include room

theorem cursorReads {cursor : Option PyStr} {page : TargetListResponse} {next : PyStr}
    (ok : listTargets python other db requester organizationId includeArchived limit cursor = .ok page)
    (more : page.pageInfo.nextCursor = some next) :
    ∃ last ∈ page.items.getLast?, decodeCursor python other next = .ok (last.createdAt, last.id) := by
  obtain ⟨start, -, ok⟩ := bindOk ok
  obtain ⟨found, served, ok⟩ := bindOk ok
  obtain ⟨rows, items⟩ := serviceItems served
  cases ok
  dsimp only at more ⊢
  split at more
  · rw [items, List.getLast?_map, Option.map_map, Option.map_eq_some_iff] at more
    obtain ⟨row, last, rfl⟩ := more
    refine ⟨toResponse (toDetails row), ?_, cursorDecoded python room other row.createdAt row.inUuid⟩
    rw [items, List.getLast?_map, List.getLast?_map, last]
    rfl
  · cases more

theorem pagesVisit (distinct : (db.map fun row => row.id).Nodup)
    (admitted : ∀ organization ∈ organizationId, requester.isMember organization = true) (positive : 1 ≤ limit) :
    (∃ visited : List TargetRow, visited.Perm (db.filter (requester.owned organizationId includeArchived)) ∧
      Descends TargetRow.key visited ∧ ∀ rounds, visited.length < rounds →
        follow (listTargets python other db requester organizationId includeArchived limit) rounds none =
          some (.ok (visited.map fun row => toResponse (toDetails row)))) ∧
      ∀ {cursor : Option PyStr} {page : TargetListResponse} {next : PyStr},
        listTargets python other db requester organizationId includeArchived limit cursor = .ok page →
          page.pageInfo.nextCursor = some next →
            ∃ last ∈ page.items.getLast?, decodeCursor python other next = .ok (last.createdAt, last.id) := by
  have fewer : ((db.filter (requester.owned organizationId includeArchived)).map TargetRow.key).Nodup :=
    (keysNodup distinct).sublist (List.filter_sublist.map TargetRow.key)
  refine ⟨⟨_, orderedPerm TargetRow.key _, orderedDescends TargetRow.key fewer, fun rounds enough => ?_⟩,
    fun ok more => cursorReads python room other ok more⟩
  exact followFrom python room other requester admitted distinct includeArchived positive (List.nil_append _).symm enough

end Cursors

/-! Three targets of one time. -/

def siteTime : DateTime := ⟨2026, 3, 1, 43200000000, some 0, by decide, by decide, by decide⟩

def siteRow (id : Nat) (small : id < 2 ^ 128) : TargetRow :=
  ⟨⟨id, none, some 7, py "example.com", py "https://example.com/", false⟩, siteTime, rfl, small⟩

def siteRows : List TargetRow := [siteRow 1 (by decide), siteRow 3 (by decide), siteRow 2 (by decide)]

def noOtherReads : OtherReads := ⟨fun _ => none, fun _ => none, fun _ => none⟩

theorem siteVisited : ∃ visited : List TargetRow,
    visited.Perm (siteRows.filter (Requester.owned ⟨7, fun _ => false⟩ none false)) ∧ Descends TargetRow.key visited ∧
      ∀ rounds, visited.length < rounds →
        follow (listTargets (Python.onAscii []) noOtherReads siteRows ⟨7, fun _ => false⟩ none false 2) rounds none =
          some (.ok (visited.map fun row => toResponse (toDetails row))) :=
  (pagesVisit (Python.onAscii []) (by decide) noOtherReads (by decide) (fun _ isOrganization => by cases isOrganization)
    (by decide : 1 ≤ 2)).1

end SentinelGpt.TargetPages
