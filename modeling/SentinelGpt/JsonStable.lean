import SentinelGpt.JsonRoundTrip
import Mathlib.Data.List.Sort

/-! `dumps_stable`: one text for all the orders the keys of an object may come in, and what is
read back of it. -/
namespace SentinelGpt
open JsonScan

def byName (a b : PyStr × Json) : Prop := leStr a.1 b.1

instance : DecidableRel byName := fun a b => inferInstanceAs (Decidable (leStr a.1 b.1 = true))

instance : Std.Total byName := ⟨fun a b => by
  have total := leStrTotal a.1 b.1
  rwa [Bool.or_eq_true] at total⟩

instance : IsTrans (PyStr × Json) byName := ⟨fun _ _ _ first second => leStrTrans first second⟩

mutual
def sortKeys : Json → Json
  | .list items => .list (sortItems items)
  | .dict members => .dict ((sortMembers members).insertionSort byName)
  | value => value

def sortItems : List Json → List Json
  | [] => []
  | value :: rest => sortKeys value :: sortItems rest

def sortMembers : List (PyStr × Json) → List (PyStr × Json)
  | [] => []
  | (key, value) :: rest => (key, sortKeys value) :: sortMembers rest
end

mutual
def compact : Json → PyStr
  | .null => py "null"
  | .bool true => py "true"
  | .bool false => py "false"
  | .int n => intText n
  | .float literal => literal.flatMap asciiEscape
  | .str s => dumpsStr s
  | .list items => py "[" ++ join (py ",") (compactItems items) ++ py "]"
  | .dict members => py "\x7b" ++ join (py ",") ((compactMembers members).map memberText) ++ py "\x7d"

def compactItems : List Json → List PyStr
  | [] => []
  | value :: rest => compact value :: compactItems rest

def compactMembers : List (PyStr × Json) → List (PyStr × PyStr)
  | [] => []
  | (key, value) :: rest => (key, compact value) :: compactMembers rest
end

section Sorted

theorem sortMembersMap (members : List (PyStr × Json)) :
    sortMembers members = members.map fun member => (member.1, sortKeys member.2) := by
  induction members with
  | nil => rfl
  | cons member rest ih =>
    rw [sortMembers, ih]
    rfl

theorem compactMembersMap (members : List (PyStr × Json)) :
    compactMembers members = members.map fun member => (member.1, compact member.2) := by
  induction members with
  | nil => rfl
  | cons member rest ih =>
    rw [compactMembers, ih]
    rfl

theorem sortNames (members : List (PyStr × Json)) : (sortMembers members).map Prod.fst = members.map Prod.fst := by
  rw [sortMembersMap, List.map_map]
  rfl

theorem compactSorted (members : List (PyStr × Json)) :
    compactMembers (members.insertionSort byName) = (compactMembers members).insertionSort byKey := by
  rw [compactMembersMap, compactMembersMap]
  exact List.map_insertionSort byName byKey (fun member => (member.1, compact member.2)) members fun _ _ _ _ => Iff.rfl

theorem sortSorted (members : List (PyStr × Json)) :
    sortMembers (members.insertionSort byName) = (sortMembers members).insertionSort byName := by
  rw [sortMembersMap, sortMembersMap]
  exact List.map_insertionSort byName byName (fun member => (member.1, sortKeys member.2)) members fun _ _ _ _ => Iff.rfl

mutual
theorem stableCompact (value : Json) : dumpsStable value = compact (sortKeys value) := by
  match value with
  | .null | .bool true | .bool false | .int _ | .float _ | .str _ => rfl
  | .list items =>
    rw [dumpsStable, sortKeys, compact, itemsCompact items]
  | .dict members =>
    rw [dumpsStable, sortKeys, compact, compactSorted, membersCompact members]

theorem itemsCompact (items : List Json) : dumpsItems items = compactItems (sortItems items) := by
  match items with
  | [] => rfl
  | value :: rest => rw [dumpsItems, sortItems, compactItems, stableCompact value, itemsCompact rest]

theorem membersCompact (members : List (PyStr × Json)) : dumpsMembers members = compactMembers (sortMembers members) := by
  match members with
  | [] => rfl
  | (key, value) :: rest => rw [dumpsMembers, sortMembers, compactMembers, stableCompact value, membersCompact rest]
end

mutual
theorem sortKeysTwice (value : Json) : sortKeys (sortKeys value) = sortKeys value := by
  match value with
  | .null | .bool _ | .int _ | .float _ | .str _ => rfl
  | .list items =>
    rw [sortKeys, sortKeys, sortItemsTwice items]
  | .dict members =>
    have sorted := List.pairwise_insertionSort byName (sortMembers members)
    rw [sortKeys, sortKeys, sortSorted, sortMembersTwice members, List.Pairwise.insertionSort_eq sorted]

theorem sortItemsTwice (items : List Json) : sortItems (sortItems items) = sortItems items := by
  match items with
  | [] => rfl
  | value :: rest => rw [sortItems, sortItems, sortKeysTwice value, sortItemsTwice rest]

theorem sortMembersTwice (members : List (PyStr × Json)) : sortMembers (sortMembers members) = sortMembers members := by
  match members with
  | [] => rfl
  | (key, value) :: rest => rw [sortMembers, sortMembers, sortKeysTwice value, sortMembersTwice rest]
end

theorem getPerm {members others : List (PyStr × Json)} (distinct : (members.map Prod.fst).Nodup)
    (same : members.Perm others) (name : PyStr) : Json.get? members name = Json.get? others name := by
  induction same with
  | nil => rfl
  | cons member _ ih =>
    rw [List.map_cons, List.nodup_cons] at distinct
    rw [Json.get?, Json.get?, ih distinct.2]
  | swap a b rest =>
    simp only [List.map_cons, List.nodup_cons, List.mem_cons, not_or] at distinct
    simp only [Json.get?]
    by_cases first : a.1 = name
    · have other : b.1 ≠ name := fun second => distinct.1.1 (second.trans first.symm)
      rw [if_pos first, if_neg other, if_pos first]
    · rw [if_neg first, if_neg first]
  | trans first _ ih ih' =>
    rw [ih distinct, ih' ((first.map Prod.fst).nodup_iff.mp distinct)]

theorem getSortMembers (members : List (PyStr × Json)) (name : PyStr) :
    Json.get? (sortMembers members) name = (Json.get? members name).map sortKeys := by
  induction members with
  | nil => rfl
  | cons member rest ih =>
    rw [sortMembers, Json.get?, Json.get?, ih]
    split <;> rfl

theorem getSorted {members : List (PyStr × Json)} (distinct : (members.map Prod.fst).Nodup) (name : PyStr) :
    Json.get? ((sortMembers members).insertionSort byName) name = (Json.get? members name).map sortKeys := by
  have perm := List.perm_insertionSort byName (sortMembers members)
  have names : ((sortMembers members).map Prod.fst).Nodup := by rwa [sortNames]
  rw [getPerm ((perm.map Prod.fst).nodup_iff.mpr names) perm, getSortMembers]

end Sorted

section Read

theorem readableMembersAll {depth : Nat} {members : List (PyStr × Json)} : ReadableMembers false depth members ↔
    ∀ member ∈ members, Unpaired member.1 ∧ Readable false depth member.2 := by
  induction members with
  | nil => exact ⟨fun _ _ none => absurd none List.not_mem_nil, fun _ => trivial⟩
  | cons member rest ih => rw [ReadableMembers, ih, List.forall_mem_cons, and_assoc]

mutual
theorem readableSorted {depth : Nat} {value : Json} (readable : Readable false depth value) : Readable false depth (sortKeys value) := by
  match depth, value with
  | _, .null | _, .bool _ | _, .int _ | _, .float _ | _, .str _ => exact readable
  | 0, .list _ | 0, .dict _ =>
    rw [Readable] at readable
    exact readable.elim
  | depth + 1, .list items =>
    rw [Readable] at readable
    rw [sortKeys, Readable]
    exact readableItemsSorted readable
  | depth + 1, .dict members =>
    rw [Readable] at readable
    have perm := List.perm_insertionSort byName (sortMembers members)
    rw [sortKeys, Readable]
    refine ⟨?_, readableMembersAll.mpr fun member inside => ?_⟩
    · rw [(perm.map Prod.fst).nodup_iff, sortNames]
      exact readable.1
    · exact readableMembersAll.mp (readableMembersSorted readable.2) member (perm.mem_iff.mp inside)

theorem readableItemsSorted {depth : Nat} {items : List Json} (readable : ReadableItems false depth items) :
    ReadableItems false depth (sortItems items) := by
  match items with
  | [] => trivial
  | value :: rest =>
    rw [ReadableItems] at readable
    rw [sortItems, ReadableItems]
    exact ⟨readableSorted readable.1, readableItemsSorted readable.2⟩

theorem readableMembersSorted {depth : Nat} {members : List (PyStr × Json)} (readable : ReadableMembers false depth members) :
    ReadableMembers false depth (sortMembers members) := by
  match members with
  | [] => trivial
  | (key, value) :: rest =>
    rw [ReadableMembers] at readable
    rw [sortMembers, ReadableMembers]
    exact ⟨readable.1, readableSorted readable.2.1, readableMembersSorted readable.2.2⟩
end

theorem joinedOpens {first : PyStr} (opens : Opens first) (rest : List PyStr) : Opens (join (py ",") (first :: rest)) := by
  cases rest with
  | nil =>
    rw [join, List.intercalate_singleton]
    exact opens
  | cons second rest =>
    rw [join, List.intercalate_cons_cons, List.append_assoc]
    exact opensAppend opens _

theorem compactOpens {depth : Nat} {value : Json} (readable : Readable false depth value) : Opens (compact value) := by
  match value with
  | .null | .bool true | .bool false => exact ⟨_, _, rfl, by decide⟩
  | .int n =>
    obtain ⟨c, rest, text, first⟩ := intFirst n
    rw [compact, text]
    exact opensDigit first rest
  | .float _ =>
    rw [Readable] at readable
    exact absurd readable.1 Bool.false_ne_true
  | .str s => exact ⟨_, _, (List.append_nil _).symm.trans (dumpsStrText s []), by decide⟩
  | .list items => exact ⟨0x5B, join (py ",") (compactItems items) ++ py "]", rfl, by decide⟩
  | .dict members =>
    exact ⟨0x7B, join (py ",") ((compactMembers members).map memberText) ++ py "\x7d", rfl, by decide⟩

theorem joinTwo (first second : PyStr) (rest : List PyStr) (after : PyStr) :
    join (py ",") (first :: second :: rest) ++ after = first ++ 0x2C :: (join (py ",") (second :: rest) ++ after) := by
  have comma : py "," = [0x2C] := rfl
  rw [join, List.intercalate_cons_cons, comma]
  simp [join]

theorem joinTwoLength (first second : PyStr) (rest : List PyStr) :
    (join (py ",") (first :: second :: rest)).length = first.length + 1 + (join (py ",") (second :: rest)).length := by
  have text := congrArg List.length (joinTwo first second rest [])
  simp only [List.append_nil, List.length_append, List.length_cons] at text
  omega

theorem memberShape (key text after : PyStr) : memberText (key, text) ++ after =
    0x22 :: (key.flatMap asciiEscape ++ 0x22 :: 0x3A :: (text ++ after)) := by
  have colon : py ":" = [0x3A] := rfl
  rw [memberText, colon, List.append_assoc, List.append_assoc, dumpsStrText]
  rfl

theorem memberLength (key text : PyStr) : key.length + text.length + 3 ≤ (memberText (key, text)).length := by
  have name := dumpsStrLength key
  have colon : (py ":").length = 1 := rfl
  rw [memberText, List.length_append, List.length_append, colon]
  dsimp only
  omega

theorem memberOpens (key text : PyStr) : Opens (memberText (key, text)) :=
  opensAppend (opensAppend ⟨_, _, (List.append_nil _).symm.trans (dumpsStrText key []), by decide⟩ _) _

mutual
theorem scanCompact {depth : Nat} {value : Json} (readable : Readable false depth value) (rest : PyStr) (stops : Stops rest)
    (fuel : Nat) (enough : 2 * (compact value).length + 1 ≤ fuel) :
    scanValue fuel depth (compact value ++ rest) = .ok (value, rest) := by
  obtain ⟨fuel, rfl⟩ : ∃ n, fuel = n + 1 := ⟨fuel - 1, by omega⟩
  match depth, value with
  | _, .null | _, .bool true | _, .bool false => exact scalarScan (by decide) fuel _ _
  | _, .int n =>
    rw [Readable] at readable
    rw [compact]
    have read := intScan readable stops
    obtain ⟨c, more, text, first⟩ := intFirst n
    rw [text, List.cons_append] at read ⊢
    rw [scalarScan (numberPlain first), read]
  | _, .float _ =>
    rw [Readable] at readable
    exact absurd readable.1 Bool.false_ne_true
  | _, .str s =>
    rw [Readable] at readable
    rw [compact] at enough ⊢
    have length := dumpsStrLength s
    rw [dumpsStrText, scanValue.eq_def]
    dsimp only
    rw [if_pos (by rfl), scanEscapes readable _ (by omega)]
    rfl
  | 0, .list _ | 0, .dict _ =>
    rw [Readable] at readable
    exact readable.elim
  | depth + 1, .list items =>
    rw [Readable] at readable
    rw [compact, List.length_append, List.length_append] at enough
    have brackets : (py "[").length = 1 ∧ (py "]").length = 1 := ⟨rfl, rfl⟩
    have text : compact (.list items) ++ rest = 0x5B :: (join (py ",") (compactItems items) ++ 0x5D :: rest) := by
      have open_ : py "[" = [0x5B] := rfl
      have close : py "]" = [0x5D] := rfl
      simp [compact, open_, close]
    rw [text, scanValue.eq_def]
    dsimp only
    rw [if_neg (by decide), if_neg (by decide), if_pos (by rfl)]
    cases items with
    | nil => rfl
    | cons first more =>
      have whole := readable
      rw [ReadableItems] at whole
      have opens := opensAppend (joinedOpens (compactOpens whole.1) (compactItems more)) (0x5D :: rest)
      have read := scanCompactItems readable rest fuel (by omega)
      rw [compactItems] at read ⊢
      rw [skipNone opens]
      obtain ⟨c, tail, shape, -, other, -⟩ := opens
      rw [shape] at read ⊢
      dsimp only
      rw [beq_eq_false_iff_ne.mpr other, if_neg Bool.false_ne_true, read]
      rfl
  | depth + 1, .dict members =>
    rw [Readable] at readable
    rw [compact, List.length_append, List.length_append] at enough
    have braces : (py "\x7b").length = 1 ∧ (py "\x7d").length = 1 := ⟨rfl, rfl⟩
    have text : compact (.dict members) ++ rest =
        0x7B :: (join (py ",") ((compactMembers members).map memberText) ++ 0x7D :: rest) := by
      have open_ : py "\x7b" = [0x7B] := rfl
      have close : py "\x7d" = [0x7D] := rfl
      simp [compact, open_, close]
    rw [text, scanValue.eq_def]
    dsimp only
    rw [if_neg (by decide), if_pos (by rfl)]
    cases members with
    | nil => rfl
    | cons first more =>
      have opens := opensAppend (joinedOpens (memberOpens first.1 (compact first.2)) ((compactMembers more).map memberText))
        (0x7D :: rest)
      have read := scanCompactMembers readable.2 rest fuel (by omega)
      rw [compactMembers, List.map_cons] at read ⊢
      rw [skipNone opens]
      obtain ⟨c, tail, shape, -, -, other, -⟩ := opens
      rw [shape] at read ⊢
      dsimp only
      rw [beq_eq_false_iff_ne.mpr other, if_neg Bool.false_ne_true, read]
      exact congrArg (fun ms => Except.ok (Json.dict ms, rest)) (dictOfDistinct readable.1)
termination_by fuel

theorem scanCompactItems {depth : Nat} {value : Json} {items : List Json} (readable : ReadableItems false depth (value :: items))
    (rest : PyStr) (fuel : Nat) (enough : 2 * (join (py ",") (compactItems (value :: items))).length + 2 ≤ fuel) :
    scanItems fuel depth (join (py ",") (compactItems (value :: items)) ++ 0x5D :: rest) = .ok (value :: items, rest) := by
  obtain ⟨fuel, rfl⟩ : ∃ n, fuel = n + 1 := ⟨fuel - 1, by omega⟩
  rw [ReadableItems] at readable
  match items with
  | [] =>
    rw [compactItems, compactItems, join, List.intercalate_singleton] at enough ⊢
    have read := scanCompact readable.1 (0x5D :: rest) (fun c first => by cases first; decide) fuel (by omega)
    rw [scanItems, read]
    rfl
  | next :: items =>
    have others := readable.2
    rw [ReadableItems] at others
    rw [compactItems, compactItems, joinTwoLength, ← compactItems] at enough
    have opens := opensAppend (joinedOpens (compactOpens others.1) (compactItems items)) (0x5D :: rest)
    have read := scanCompact readable.1 (0x2C :: (join (py ",") (compactItems (next :: items)) ++ 0x5D :: rest))
      (fun c first => by cases first; decide) fuel (by omega)
    have later := scanCompactItems readable.2 rest fuel (by omega)
    have here : ∀ more, skipWhitespace (0x2C :: more) = 0x2C :: more := fun _ => rfl
    rw [compactItems, compactItems, joinTwo, ← compactItems, scanItems, read]
    dsimp only
    rw [here]
    dsimp only
    rw [if_neg (by decide), if_pos (by rfl), compactItems, skipNone opens, ← compactItems, later]
    rfl
termination_by fuel

theorem scanCompactMembers {depth : Nat} {member : PyStr × Json} {members : List (PyStr × Json)}
    (readable : ReadableMembers false depth (member :: members)) (rest : PyStr) (fuel : Nat)
    (enough : 2 * (join (py ",") ((compactMembers (member :: members)).map memberText)).length + 2 ≤ fuel) :
    scanMembers fuel depth (join (py ",") ((compactMembers (member :: members)).map memberText) ++ 0x7D :: rest) =
      .ok (member :: members, rest) := by
  obtain ⟨fuel, rfl⟩ : ∃ n, fuel = n + 1 := ⟨fuel - 1, by omega⟩
  obtain ⟨key, value⟩ := member
  rw [ReadableMembers] at readable
  obtain ⟨unpaired, inside, others⟩ := readable
  have length := memberLength key (compact value)
  have colon : ∀ more, skipWhitespace (0x3A :: more) = 0x3A :: more := fun _ => rfl
  have skipped : ∀ more, skipWhitespace (compact value ++ more) = compact value ++ more := fun more =>
    skipNone (opensAppend (compactOpens inside) more)
  match members with
  | [] =>
    rw [compactMembers, compactMembers, List.map_cons, List.map_nil, join, List.intercalate_singleton] at enough ⊢
    have read := scanCompact inside (0x7D :: rest) (fun c first => by cases first; decide) fuel (by omega)
    rw [memberShape, scanMembers.eq_def]
    dsimp only
    rw [if_pos (by rfl), scanEscapes unpaired _ (by omega)]
    dsimp only
    rw [colon]
    dsimp only
    rw [if_pos (by rfl), skipped, read]
    rfl
  | next :: members =>
    have two : (compactMembers ((key, value) :: next :: members)).map memberText = memberText (key, compact value) ::
        memberText (next.1, compact next.2) :: (compactMembers members).map memberText := rfl
    have tail : memberText (next.1, compact next.2) :: (compactMembers members).map memberText =
        (compactMembers (next :: members)).map memberText := rfl
    rw [two, joinTwoLength, tail] at enough
    have opens := opensAppend (joinedOpens (memberOpens next.1 (compact next.2)) ((compactMembers members).map memberText))
      (0x7D :: rest)
    rw [tail] at opens
    have read := scanCompact inside
      (0x2C :: (join (py ",") ((compactMembers (next :: members)).map memberText) ++ 0x7D :: rest))
      (fun c first => by cases first; decide) fuel (by omega)
    have later := scanCompactMembers others rest fuel (by omega)
    have here : ∀ more, skipWhitespace (0x2C :: more) = 0x2C :: more := fun _ => rfl
    rw [two, joinTwo, tail, memberShape, scanMembers.eq_def]
    dsimp only
    rw [if_pos (by rfl), scanEscapes unpaired _ (by omega)]
    dsimp only
    rw [colon]
    dsimp only
    rw [if_pos (by rfl), skipped, read]
    dsimp only
    rw [here]
    dsimp only
    rw [if_neg (by decide), if_pos (by rfl), skipNone opens, later]
    rfl
termination_by fuel
end

/- What is read back of a text is the value with the keys of its objects in order. -/
theorem loadsStable (python : Python) {value : Json} (readable : Readable false python.loadsDepth value) :
    loads python (dumpsStable value) = .ok (sortKeys value) := by
  have sorted := readableSorted readable
  have opens := compactOpens sorted
  have bom : (compact (sortKeys value)).head? ≠ some 0xFEFF := by
    obtain ⟨c, rest, text, -, -, -, other⟩ := opens
    rw [text]
    exact fun same => other (Option.some.inj same)
  have read := scanCompact sorted [] (fun c none => by cases none) (2 * (compact (sortKeys value)).length + 2) (by omega)
  rw [List.append_nil] at read
  rw [stableCompact, loads, scanDocument, if_neg bom, skipNone opens, read]
  rfl

/- Two values have one text exactly when they differ in the order of their keys at most; the
text is read back as the value in that order, whose own text it is. -/
theorem stableCanonical (python : Python) {value other : Json} (readable : Readable false python.loadsDepth value)
    (otherReadable : Readable false python.loadsDepth other) :
    (dumpsStable value = dumpsStable other ↔ sortKeys value = sortKeys other) ∧
    loads python (dumpsStable value) = .ok (sortKeys value) ∧ dumpsStable (sortKeys value) = dumpsStable value := by
  refine ⟨⟨fun same => ?_, fun same => ?_⟩, loadsStable python readable, ?_⟩
  · have read := loadsStable python readable
    rw [same, loadsStable python otherReadable] at read
    exact (Except.ok.inj read).symm
  · rw [stableCompact, stableCompact, same]
  · rw [stableCompact, stableCompact, sortKeysTwice]

end Read

def firstOrder : Json := .dict [(py "b", .list [.bool true]), (py "a", .str (py "x"))]

def otherOrder : Json := .dict [(py "a", .str (py "x")), (py "b", .list [.bool true])]

theorem ordersReadable : Readable false 10000 firstOrder ∧ Readable false 10000 otherOrder :=
  ⟨⟨by decide, .singleton _, ⟨trivial, trivial⟩, .singleton _, .singleton _, trivial⟩,
    by decide, .singleton _, .singleton _, .singleton _, ⟨trivial, trivial⟩, trivial⟩

theorem ordersCanonical : (dumpsStable firstOrder = dumpsStable otherOrder ↔ sortKeys firstOrder = sortKeys otherOrder) ∧
    loads (Python.onAscii []) (dumpsStable firstOrder) = .ok (sortKeys firstOrder) ∧
    dumpsStable (sortKeys firstOrder) = dumpsStable firstOrder :=
  stableCanonical (Python.onAscii []) ordersReadable.1 ordersReadable.2

end SentinelGpt
