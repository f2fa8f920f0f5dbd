import SentinelGpt.NumberTexts
import Mathlib.Tactic.Ring

/-! The text of an address is read back as the address. -/
namespace SentinelGpt.IPAddress
open JsonScan

section Quads

theorem octetRead {n : Nat} (small : n < 256) : parseOctet (decimalText n) = some n := by
  have some : (decimalText n).isEmpty = false := by
    rw [Bool.eq_false_iff]
    exact fun empty => decimalSome n (List.isEmpty_iff.mp empty)
  have fits : (decimalText n).length ≤ 3 := decimalLength (by omega) (by decide)
  have plain : ¬ (decimalText n ≠ py "0" ∧ (decimalText n).head? = Option.some 0x30) := by
    cases Nat.eq_zero_or_pos n with
    | inl zero =>
      rw [zero]
      exact fun both => both.1 rfl
    | inr positive => exact fun both => decimalHead positive both.2
  rw [parseOctet, some, decimalDigits, decimalValue]
  simp only [Bool.not_true, Bool.or_self, Bool.false_or, decide_eq_true_eq]
  rw [if_neg (by omega), if_neg plain, if_neg (by omega)]

theorem decimalFree {c : CodePoint} (other : isDigit c = false) (n : Nat) : c ∉ decimalText n := by
  intro member
  rw [List.all_eq_true.mp (decimalDigits n) c member] at other
  contradiction

def quadText (value : Nat) : PyStr := join [0x2E] ((octets value).map decimalText)

theorem textV4 (value : Fin (2 ^ 32)) : text (.v4 value) = quadText value.val := by
  have each : (fun n : Nat => py (toString n)) = decimalText := funext pyDecimal
  rw [text, each]
  rfl

theorem quadParts (value : Nat) : splitOn 0x2E (quadText value) = (octets value).map decimalText := by
  apply splitJoin
  · intro part member
    obtain ⟨n, -, rfl⟩ := List.mem_map.mp member
    exact decimalFree rfl n
  · exact List.cons_ne_nil _ _

theorem quadRead (value : Fin (2 ^ 32)) : parseV4 (quadText value.val) = some value := by
  have bound := value.isLt
  have octet : ∀ n, parseOctet (decimalText (n % 256)) = some (n % 256) := fun n => octetRead (Nat.mod_lt _ (by decide))
  have read : ((octets value.val).map decimalText).mapM parseOctet = some (octets value.val) := by
    simp [octets, octet]
  unfold parseV4
  rw [quadParts, read]
  simp only [octets]
  apply congrArg some
  apply Fin.ext
  rw [Fin.val_ofNat, Nat.mod_eq_of_lt (by omega)]
  omega

end Quads

section Groups

def fold16 (parts : List Nat) : Nat := parts.foldl (fun n h => n * 65536 + h) 0

theorem foldFrom (parts : List Nat) (n : Nat) :
    parts.foldl (fun n h => n * 65536 + h) n = n * 65536 ^ parts.length + fold16 parts := by
  induction parts generalizing n with
  | nil => simp [fold16]
  | cons h rest ih =>
    rw [fold16, List.foldl_cons, List.foldl_cons, ih, ih (0 * 65536 + h), List.length_cons, Nat.pow_succ]
    ring

theorem foldZeros (k n : Nat) : (List.replicate k 0).foldl (fun n h => n * 65536 + h) n = n * 65536 ^ k := by
  induction k generalizing n with
  | zero => simp
  | succ k ih =>
    rw [List.replicate_succ, List.foldl_cons, ih, Nat.pow_succ]
    ring

theorem foldGap (high low : List Nat) (k : Nat) : fold16 (high ++ (List.replicate k 0 ++ low)) =
    fold16 high * 65536 ^ (k + low.length) + fold16 low := by
  rw [fold16, List.foldl_append, List.foldl_append, foldZeros, foldFrom, ← fold16, Nat.pow_add]
  ring

theorem hextetsOfMap {parts : List Nat} (small : ∀ h ∈ parts, h < 65536) :
    hextets (parts.map hextetText) = some (fold16 parts) := by
  have read : (parts.map hextetText).mapM parseHextet = some parts := by
    induction parts with
    | nil => rfl
    | cons h rest ih =>
      rw [List.map_cons, List.mapM_cons, hextetRead (small h List.mem_cons_self),
        ih fun h' member => small h' (List.mem_cons_of_mem _ member)]
      rfl
  rw [hextets, read]
  rfl

theorem hextetsOfFold {value : Nat} (small : value < 2 ^ 128) : fold16 (hextetsOf value) = value := by
  have step : ∀ k, value / 65536 ^ (k + 1) * 65536 + value / 65536 ^ k % 65536 = value / 65536 ^ k := by
    intro k
    rw [Nat.pow_succ, ← Nat.div_div_eq_div_mul, Nat.div_add_mod']
  have top : value / 65536 ^ (7 + 1) = 0 := Nat.div_eq_of_lt small
  have first := step 7
  rw [top] at first
  calc fold16 (hextetsOf value)
      = (((((((0 * 65536 + value / 65536 ^ 7 % 65536) * 65536 + value / 65536 ^ 6 % 65536) * 65536 +
          value / 65536 ^ 5 % 65536) * 65536 + value / 65536 ^ 4 % 65536) * 65536 +
          value / 65536 ^ 3 % 65536) * 65536 + value / 65536 ^ 2 % 65536) * 65536 +
          value / 65536 ^ 1 % 65536) * 65536 + value / 65536 ^ 0 % 65536 := rfl
    _ = value / 65536 ^ 0 := by
        rw [first, step 6, step 5, step 4, step 3, step 2, step 1, step 0]
    _ = value := Nat.div_one value

end Groups
section Gaps
variable {parts : List Nat}

structure ZeroRun (parts : List Nat) (run : Nat × Nat) : Prop where
  inside : run.1 + run.2 ≤ parts.length
  zeros : (parts.drop run.1).take run.2 = List.replicate run.2 0

theorem zeroRunAt {i : Nat} (inside : i < parts.length) :
    ZeroRun parts (i, ((parts.drop i).takeWhile (· == 0)).length) := by
  have front := List.takeWhile_prefix (· == 0) (l := parts.drop i)
  constructor
  · have bound := front.length_le
    rw [List.length_drop] at bound
    dsimp only
    omega
  · rw [← List.prefix_iff_eq_take.mp front]
    apply List.eq_replicate_iff.mpr
    exact ⟨rfl, fun h member => by simpa using List.mem_takeWhile_imp member⟩

theorem longestRun (parts : List Nat) : ZeroRun parts (longestZeros parts) := by
  have step : ∀ (indices : List Nat) (best : Nat × Nat), (∀ i ∈ indices, i < parts.length) → ZeroRun parts best →
      ZeroRun parts (indices.foldl (fun best i =>
        let length := ((parts.drop i).takeWhile (· == 0)).length
        if best.2 < length then (i, length) else best) best) := by
    intro indices
    induction indices with
    | nil => exact fun _ _ run => run
    | cons i rest ih =>
      intro best inside run
      rw [List.foldl_cons]
      apply ih _ fun j member => inside j (List.mem_cons_of_mem _ member)
      dsimp only
      split
      · exact zeroRunAt (inside i List.mem_cons_self)
      · exact run
  exact step _ _ (fun i member => List.mem_range.mp member) ⟨Nat.zero_le _, rfl⟩

theorem runSplits {run : Nat × Nat} (zeros : ZeroRun parts run) :
    parts = parts.take run.1 ++ (List.replicate run.2 0 ++ parts.drop (run.1 + run.2)) := by
  rw [← zeros.zeros, ← List.drop_drop, List.take_append_drop, List.take_append_drop]

def groupTexts (group : List Nat) : List PyStr := if group.isEmpty then [[]] else group.map hextetText

theorem groupLength (group : List Nat) : (groupTexts group).length = max group.length 1 := by
  cases group with
  | nil => rfl
  | cons h rest =>
    rw [groupTexts, if_neg (by simp), List.length_map, List.length_cons]
    omega

theorem groupPart {group : List Nat} {text : PyStr} (member : text ∈ groupTexts group) : text.isEmpty = group.isEmpty := by
  cases group with
  | nil =>
    cases List.mem_singleton.mp member
    rfl
  | cons h rest =>
    obtain ⟨n, -, rfl⟩ := List.mem_map.mp member
    rw [List.isEmpty_cons, Bool.eq_false_iff]
    exact fun empty => hextetSome n (List.isEmpty_iff.mp empty)

theorem groupFront (group : List Nat) (start : Prop) [Decidable start] (empty : start ↔ group = []) :
    (if start then [[]] else []) ++ group.map hextetText = groupTexts group := by
  unfold groupTexts
  by_cases first : start
  · rw [if_pos first, empty.mp first]
    rfl
  · rw [if_neg first, if_neg fun none => first (empty.mpr (List.isEmpty_iff.mp none)), List.nil_append]

theorem groupBack (group : List Nat) (last : Prop) [Decidable last] (empty : last ↔ group = []) :
    group.map hextetText ++ (if last then [[]] else []) = groupTexts group := by
  unfold groupTexts
  by_cases done : last
  · rw [if_pos done, empty.mp done]
    rfl
  · rw [if_neg done, if_neg fun none => done (empty.mpr (List.isEmpty_iff.mp none)), List.append_nil]

theorem compressedGap (long : 1 < (longestZeros parts).2) : compressed parts =
    groupTexts (parts.take (longestZeros parts).1) ++
      [] :: groupTexts (parts.drop ((longestZeros parts).1 + (longestZeros parts).2)) := by
  have inside := (longestRun parts).inside
  have front := groupFront (parts.take (longestZeros parts).1) ((longestZeros parts).1 = 0) (by
    rw [List.take_eq_nil_iff]
    refine ⟨.inl, fun either => either.elim id fun empty => ?_⟩
    have none := congrArg List.length empty
    rw [List.length_nil] at none
    omega)
  have back := groupBack (parts.drop ((longestZeros parts).1 + (longestZeros parts).2))
    ((longestZeros parts).1 + (longestZeros parts).2 = parts.length) (by
      rw [List.drop_eq_nil_iff]
      omega)
  unfold compressed
  dsimp only
  rw [if_pos long, ← front, ← back]
  simp only [List.append_assoc, List.cons_append, List.nil_append]

theorem groupFilled {group : List Nat} {i : Nat} (inside : i < (groupTexts group).length) (several : 1 < group.length) :
    (groupTexts group)[i]?.any List.isEmpty = false := by
  rw [List.getElem?_eq_getElem inside, Option.any_some, groupPart (List.getElem_mem inside), Bool.eq_false_iff]
  intro empty
  rw [List.isEmpty_iff.mp empty, List.length_nil] at several
  omega

theorem skipsGap (high low : List Nat) : skips (groupTexts high ++ [] :: groupTexts low) = [(groupTexts high).length] := by
  have m := groupLength high
  have k := groupLength low
  have here : ∀ i ∈ List.range (groupTexts high ++ [] :: groupTexts low).length,
      (decide (1 ≤ i) && decide (i + 1 < (groupTexts high ++ [] :: groupTexts low).length) &&
        ((groupTexts high ++ [] :: groupTexts low)[i]?.any List.isEmpty)) = (i == (groupTexts high).length) := by
    intro i _
    rw [List.length_append, List.length_cons]
    rcases Nat.lt_trichotomy i (groupTexts high).length with before | same | behind
    · rw [List.getElem?_append_left before, beq_eq_false_iff_ne.mpr (Nat.ne_of_lt before)]
      cases i with
      | zero => rfl
      | succ i => rw [groupFilled before (by omega), Bool.and_false]
    · rw [same, List.getElem?_append_right (Nat.le_refl _), Nat.sub_self, beq_self_eq_true, decide_eq_true (by omega),
        decide_eq_true (by omega)]
      rfl
    · rw [beq_eq_false_iff_ne.mpr (Nat.ne_of_gt behind)]
      by_cases last : i + 1 < (groupTexts high).length + ((groupTexts low).length + 1)
      · rw [List.getElem?_append_right (Nat.le_of_lt behind)]
        obtain ⟨j, offset⟩ : ∃ j, i - (groupTexts high).length = j + 1 := ⟨i - (groupTexts high).length - 1, by omega⟩
        rw [offset, List.getElem?_cons_succ, groupFilled (by omega) (by omega), Bool.and_false]
      · rw [decide_eq_false last, Bool.and_false, Bool.false_and]
  unfold skips
  rw [List.filter_congr here, List.filter_beq, List.count_eq_one_of_mem List.nodup_range]
  · rfl
  · apply List.mem_range.mpr
    rw [List.length_append, List.length_cons]
    omega

theorem v6ValueGap {high low : List Nat} (smallHigh : ∀ h ∈ high, h < 65536) (smallLow : ∀ h ∈ low, h < 65536)
    (room : high.length + low.length < 8) : v6Value (groupTexts high ++ [] :: groupTexts low) =
      some (fold16 high * 65536 ^ (8 - high.length) + fold16 low) := by
  have m := groupLength high
  have k := groupLength low
  have leading : (groupTexts high ++ [] :: groupTexts low).head?.any List.isEmpty = high.isEmpty := by
    cases first : groupTexts high with
    | nil =>
      rw [first, List.length_nil] at m
      omega
    | cons t rest => exact groupPart (first ▸ List.mem_cons_self)
  have trailing : (groupTexts high ++ [] :: groupTexts low).getLast?.any List.isEmpty = low.isEmpty := by
    have some : groupTexts low ≠ [] := fun none => by
      rw [none, List.length_nil] at k
      omega
    rw [List.getLast?_append_of_ne_nil _ (List.cons_ne_nil _ _), List.getLast?_cons_of_ne_nil some,
      List.getLast?_eq_some_getLast some]
    exact groupPart (List.getLast_mem some)
  have take : (if high.isEmpty then [] else (groupTexts high ++ [] :: groupTexts low).take (groupTexts high).length) =
      high.map hextetText := by
    rw [List.take_left]
    cases high <;> rfl
  have drop : (if low.isEmpty then [] else (groupTexts high ++ [] :: groupTexts low).drop ((groupTexts high).length + 1)) =
      low.map hextetText := by
    have behind : (groupTexts high ++ [] :: groupTexts low).drop ((groupTexts high).length + 1) = groupTexts low := by
      rw [List.drop_append, List.drop_eq_nil_of_le (by omega), Nat.add_sub_cancel_left]
      rfl
    rw [behind]
    cases low <;> rfl
  have ends : ((high.isEmpty && decide ((groupTexts high).length ≠ 1)) || (low.isEmpty && decide
      ((groupTexts high ++ [] :: groupTexts low).length - (groupTexts high).length - 1 ≠ 1))) = false := by
    have rest : (groupTexts high ++ [] :: groupTexts low).length - (groupTexts high).length - 1 = (groupTexts low).length := by
      rw [List.length_append, List.length_cons]
      omega
    rw [rest]
    cases high <;> cases low <;> simp [groupTexts]
  unfold v6Value
  rw [skipsGap]
  dsimp only
  rw [leading, trailing, take, drop, ends, if_neg Bool.false_ne_true, List.length_map, List.length_map,
    if_neg (by omega), hextetsOfMap smallHigh, hextetsOfMap smallLow]
  rfl

theorem skipsWhole {group : List Nat} (several : 1 < group.length) : skips (group.map hextetText) = [] := by
  apply List.filter_eq_nil_iff.mpr
  intro i member
  have filled : groupTexts group = group.map hextetText := if_neg fun empty => by
    rw [List.isEmpty_iff.mp empty, List.length_nil] at several
    omega
  rw [← filled] at member ⊢
  rw [groupFilled (List.mem_range.mp member) several, Bool.and_false]
  exact Bool.false_ne_true

theorem v6ValueCompressed {parts : List Nat} (eight : parts.length = 8) (small : ∀ h ∈ parts, h < 65536) :
    v6Value (compressed parts) = some (fold16 parts) := by
  by_cases long : 1 < (longestZeros parts).2
  · have run := longestRun parts
    have inside := run.inside
    have whole := runSplits run
    rw [compressedGap long, v6ValueGap (fun h member => small h (List.mem_of_mem_take member))
      (fun h member => small h (List.mem_of_mem_drop member)) (by rw [List.length_take, List.length_drop]; omega)]
    have value := congrArg fold16 whole
    rw [foldGap] at value
    rw [value, List.length_take, List.length_drop]
    congr 4
    omega
  · have plain : compressed parts = parts.map hextetText := by
      unfold compressed
      dsimp only
      rw [if_neg long]
    rw [plain, v6Value, skipsWhole (by omega)]
    dsimp only
    rw [List.length_map, if_pos eight, hextetsOfMap small]

end Gaps
section Literals

def groupText (value : Nat) : PyStr := join [0x3A] (compressed (hextetsOf value))

theorem textV6 (value : Fin (2 ^ 128)) : text (.v6 value none) = groupText value.val := List.append_nil _

theorem memGroup {group : List Nat} {part : PyStr} (member : part ∈ groupTexts group) :
    part = [] ∨ ∃ h ∈ group, part = hextetText h := by
  unfold groupTexts at member
  split at member
  · exact .inl (List.mem_singleton.mp member)
  · obtain ⟨h, listed, rfl⟩ := List.mem_map.mp member
    exact .inr ⟨h, listed, rfl⟩

theorem memCompressed {parts : List Nat} {part : PyStr} (member : part ∈ compressed parts) :
    part = [] ∨ ∃ h ∈ parts, part = hextetText h := by
  by_cases long : 1 < (longestZeros parts).2
  · rw [compressedGap long] at member
    rcases List.mem_append.mp member with front | member
    · exact (memGroup front).imp_right fun ⟨h, listed, same⟩ => ⟨h, List.mem_of_mem_take listed, same⟩
    · cases member with
      | head => exact .inl rfl
      | tail _ back => exact (memGroup back).imp_right fun ⟨h, listed, same⟩ => ⟨h, List.mem_of_mem_drop listed, same⟩
  · unfold compressed at member
    dsimp only at member
    rw [if_neg long] at member
    obtain ⟨h, listed, rfl⟩ := List.mem_map.mp member
    exact .inr ⟨h, listed, rfl⟩

theorem partDigits {parts : List Nat} {part : PyStr} {c : CodePoint} (member : part ∈ compressed parts) (inside : c ∈ part) :
    ∃ d < 16, c = digitCode d := by
  rcases memCompressed member with rfl | ⟨h, -, rfl⟩
  · cases inside
  · exact memHextet inside

theorem memGroupText {value : Nat} {c : CodePoint} (member : c ∈ groupText value) :
    c = 0x3A ∨ ∃ d < 16, c = digitCode d := by
  rcases memJoin member with colon | ⟨part, listed, inside⟩
  · exact .inl colon
  · exact .inr (partDigits listed inside)

theorem hextetsEight (value : Nat) : (hextetsOf value).length = 8 := rfl

theorem compressedLength {parts : List Nat} (eight : parts.length = 8) :
    3 ≤ (compressed parts).length ∧ (compressed parts).length ≤ 9 := by
  by_cases long : 1 < (longestZeros parts).2
  · have inside := (longestRun parts).inside
    rw [compressedGap long, List.length_append, List.length_cons, groupLength, groupLength, List.length_take,
      List.length_drop]
    omega
  · unfold compressed
    dsimp only
    rw [if_neg long, List.length_map]
    omega

theorem groupParts (value : Nat) : splitOn 0x3A (groupText value) = compressed (hextetsOf value) := by
  have length := (compressedLength (hextetsEight value)).1
  apply splitJoin
  · intro part member colon
    obtain ⟨d, small, same⟩ := partDigits member colon
    have digit := (hexDigitCode d small).1
    rw [← same] at digit
    cases digit
  · intro none
    rw [none, List.length_nil] at length
    omega

theorem hextetsSmall {value h : Nat} (member : h ∈ hextetsOf value) : h < 65536 := by
  obtain ⟨i, -, rfl⟩ := List.mem_map.mp member
  exact Nat.mod_lt _ (by decide)

theorem joinLength {c : CodePoint} {n : Nat} {parts : List PyStr} (short : ∀ part ∈ parts, part.length ≤ n) :
    (join [c] parts).length ≤ parts.length * (n + 1) := by
  induction parts with
  | nil => exact Nat.zero_le _
  | cons first rest ih =>
    have fits := short first List.mem_cons_self
    have later := ih fun part member => short part (List.mem_cons_of_mem _ member)
    rw [List.length_cons, Nat.add_mul]
    cases rest with
    | nil =>
      rw [join, List.intercalate_singleton]
      omega
    | cons second rest =>
      rw [join] at later ⊢
      rw [List.intercalate_cons_cons, List.length_append, List.length_append, List.length_singleton]
      omega

theorem groupLengthBound (value : Nat) : (groupText value).length ≤ 45 := by
  have parts := (compressedLength (hextetsEight value)).2
  have short : ∀ part ∈ compressed (hextetsOf value), part.length ≤ 4 := by
    intro part member
    rcases memCompressed member with rfl | ⟨h, listed, rfl⟩
    · exact Nat.zero_le _
    · exact hextetLength (hextetsSmall listed)
  have bound := joinLength (c := 0x3A) short
  rw [groupText]
  omega

theorem groupFree {c : CodePoint} (colon : c ≠ 0x3A) (other : hexValue c = none) (value : Nat) : c ∉ groupText value := by
  intro member
  rcases memGroupText member with same | ⟨d, small, same⟩
  · exact colon same
  · rw [same, (hexDigitCode d small).1] at other
    cases other

theorem groupsRead (value : Fin (2 ^ 128)) : parse (groupText value.val) = some (.v6 value none) := by
  have dot : (0x2E : CodePoint) ∉ groupText value.val := groupFree (by decide) rfl _
  have percent : (0x25 : CodePoint) ∉ groupText value.val := groupFree (by decide) rfl _
  have slash : (groupText value.val).contains 0x2F = false :=
    Bool.eq_false_iff.mpr fun member => groupFree (by decide) rfl _ (List.contains_iff_mem.mp member)
  have quad : parseV4 (groupText value.val) = none := by
    have one : splitOn 0x2E (groupText value.val) = [groupText value.val] := by
      rw [splitOnIs, List.splitOn_eq_singleton dot]
    rw [parseV4, one, List.mapM_cons, List.mapM_nil]
    cases parseOctet (groupText value.val) <;> rfl
  have length := compressedLength (hextetsEight value.val)
  have parts : colonParts (groupText value.val) = some (compressed (hextetsOf value.val)) := by
    have some : compressed (hextetsOf value.val) ≠ [] := fun none => by
      rw [none, List.length_nil] at length
      omega
    have plain : ((compressed (hextetsOf value.val)).getLast some).contains 0x2E = false := by
      rw [Bool.eq_false_iff]
      intro member
      obtain ⟨d, small, same⟩ := partDigits (List.getLast_mem some) (List.contains_iff_mem.mp member)
      have digit := (hexDigitCode d small).1
      rw [← same] at digit
      cases digit
    rw [colonParts, groupParts, if_neg (by omega), List.getLast?_eq_some_getLast some]
    exact if_neg fun dotted => Bool.false_ne_true (plain.symm.trans dotted)
  have read : v6Value (compressed (hextetsOf value.val)) = some value.val := by
    rw [v6ValueCompressed rfl fun h member => hextetsSmall member, hextetsOfFold value.isLt]
  have address : parseV6 (groupText value.val) = some (value, none) := by
    rw [parseV6, partitionFree percent]
    dsimp only
    rw [Bool.false_and, if_neg Bool.false_ne_true, parts, Option.bind_eq_bind, Option.bind_some, if_neg (by omega), read]
    have kept : Fin.ofNat (2 ^ 128) value.val = value := Fin.ext (Nat.mod_eq_of_lt value.isLt)
    change some (Fin.ofNat (2 ^ 128) value.val, none) = some (value, none)
    rw [kept]
  rw [parse, slash, quad, address]
  rfl

theorem textRead {address : IPAddress} (unscoped : ∀ value scope, address ≠ .v6 value (some scope)) :
    parse (text address) = some address := by
  cases address with
  | v4 value =>
    have slash : (quadText value.val).contains 0x2F = false := by
      rw [Bool.eq_false_iff]
      intro member
      rcases memJoin (List.contains_iff_mem.mp member) with dot | ⟨part, listed, inside⟩
      · cases dot
      · obtain ⟨n, -, rfl⟩ := List.mem_map.mp listed
        exact decimalFree rfl n inside
    rw [textV4, parse, slash, quadRead]
    rfl
  | v6 value scope =>
    cases scope with
    | none => rw [textV6, groupsRead]
    | some scope => exact absurd rfl (unscoped value scope)

end Literals
end SentinelGpt.IPAddress
