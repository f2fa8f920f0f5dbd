import SentinelGpt.AddressTexts
import SentinelGpt.RedirectGate

/-! Registration of an address literal beside the policy over resolved addresses. -/
namespace SentinelGpt
open IPAddress TargetNormalization UrlSplit

section Texts
variable {python : Python} {t : PyStr}

def isLiteralChar (c : CodePoint) : Bool := c == 0x3A || c == 0x2E || (List.range 16).any fun d => c == digitCode d

theorem literalDigit {d : Nat} (small : d < 16) : isLiteralChar (digitCode d) = true := by
  have found : ((List.range 16).any fun e => digitCode d == digitCode e) = true :=
    List.any_eq_true.mpr ⟨d, List.mem_range.mpr small, beq_self_eq_true _⟩
  rw [isLiteralChar, found, Bool.or_true]

theorem literalCharIs {c : CodePoint} (literal : isLiteralChar c = true) :
    c = 0x3A ∨ c = 0x2E ∨ ∃ d < 16, c = digitCode d := by
  simp only [isLiteralChar, Bool.or_eq_true, beq_iff_eq, List.any_eq_true, List.mem_range] at literal
  rcases literal with (colon | dot) | digit
  · exact .inl colon
  · exact .inr (.inl dot)
  · exact .inr (.inr digit)

theorem literalAll {p : CodePoint → Bool} (colon : p 0x3A = true) (dot : p 0x2E = true)
    (digits : ∀ d < 16, p (digitCode d) = true) {c : CodePoint} (literal : isLiteralChar c = true) : p c = true := by
  rcases literalCharIs literal with rfl | rfl | ⟨d, small, rfl⟩
  · exact colon
  · exact dot
  · exact digits d small

def isInert (c : CodePoint) : Bool := c.val < 0x80 && !(0x41 ≤ c.val && c.val ≤ 0x5A) && !isSpace c && isKept c &&
  !isNetlocEnd c && c != 0x40 && c != 0x5B && c != 0x5D && c != 0x25

theorem literalInert {c : CodePoint} (literal : isLiteralChar c = true) : isInert c = true :=
  literalAll rfl rfl (by decide) literal

structure IsLiteral (t : PyStr) : Prop where
  chars : ∀ c ∈ t, isLiteralChar c = true
  filled : t ≠ []
  last : t.getLast? ≠ some 0x2E

theorem IsLiteral.inert (literal : IsLiteral t) : ∀ c ∈ t, isInert c = true :=
  fun c member => literalInert (literal.chars c member)

theorem IsLiteral.free (literal : IsLiteral t) {c : CodePoint} (other : isLiteralChar c = false) : c ∉ t := fun member =>
  Bool.false_ne_true (other.symm.trans (literal.chars c member))

theorem inertParts {c : CodePoint} (inert : isInert c = true) : c.val < 0x80 ∧ ¬ (0x41 ≤ c.val ∧ c.val ≤ 0x5A) ∧
    isSpace c = false ∧ isKept c = true ∧ isNetlocEnd c = false ∧ stripBrackets.isBracket c = false := by
  simp only [isInert, Bool.and_eq_true, Bool.not_eq_true', decide_eq_true_eq, bne_iff_ne] at inert
  obtain ⟨⟨⟨⟨⟨⟨⟨⟨ascii, lower⟩, visible⟩, kept⟩, inside⟩, at_⟩, open_⟩, close⟩, percent⟩ := inert
  refine ⟨ascii, ?_, visible, kept, inside, ?_⟩
  · simpa using lower
  · rw [stripBrackets.isBracket, beq_eq_false_iff_ne.mpr open_, beq_eq_false_iff_ne.mpr close]
    rfl

theorem inertLower (ascii : AsciiCase python) (inert : ∀ c ∈ t, isInert c = true) : python.lower t = t := by
  have small : t.all (fun c => c.val < 0x80) = true := by
    rw [List.all_eq_true]
    exact fun c member => decide_eq_true (inertParts (inert c member)).1
  rw [ascii.lower t small, asciiCase]
  refine (List.map_congr_left fun c member => ?_).trans (List.map_id t)
  rw [if_neg (inertParts (inert c member)).2.1, id]

theorem dropNone {p : CodePoint → Bool} (none : ∀ c ∈ t, p c = false) : t.dropWhile p = t := by
  cases t with
  | nil => rfl
  | cons c rest => exact List.dropWhile_cons_of_neg (by rw [none c List.mem_cons_self]; exact Bool.false_ne_true)

theorem inertBrackets (inert : ∀ c ∈ t, isInert c = true) : stripBrackets t = t := by
  have none : ∀ c ∈ t, stripBrackets.isBracket c = false := fun c member => (inertParts (inert c member)).2.2.2.2.2
  rw [stripBrackets, dropNone none, dropNone fun c member => none c (List.mem_reverse.mp member), List.reverse_reverse]

theorem undotted (last : t.getLast? ≠ some 0x2E) : stripTrailingDot t = t := by
  have kept : t.reverse.dropWhile (· == 0x2E) = t.reverse := by
    cases back : t.reverse with
    | nil => rfl
    | cons c rest =>
      have first : t.getLast? = some c := by
        rw [← List.head?_reverse, back]
        rfl
      apply List.dropWhile_cons_of_neg
      intro dot
      exact last (first.trans (congrArg some (beq_iff_eq.mp dot)))
  rw [stripTrailingDot, rstrip, kept, List.reverse_reverse]

theorem literalGiven (ascii : AsciiCase python) (literal : IsLiteral t) : givenHost python t = t := by
  have visible : ∀ c ∈ t, isSpace c = false := fun c member => (inertParts (literal.inert c member)).2.2.1
  rw [givenHost, stripWord visible, stripWord visible, inertLower ascii literal.inert, inertBrackets literal.inert,
    undotted literal.last]

theorem literalUnlike (literal : IsLiteral t) (names : List PyStr)
    (strange : ∀ name ∈ names, name.any (fun c => !isLiteralChar c) = true) :
    (∀ name ∈ names, name.isSuffixOf t = false) ∧ names.contains t = false := by
  have ends : ∀ name ∈ names, ¬ name <:+ t := by
    intro name member suffix
    obtain ⟨c, inside, other⟩ := List.any_eq_true.mp (strange name member)
    rw [literal.chars c (suffix.subset inside)] at other
    cases other
  refine ⟨fun name member => ?_, ?_⟩
  · exact Bool.eq_false_iff.mpr fun suffix => ends name member (List.isSuffixOf_iff_suffix.mp suffix)
  · exact Bool.eq_false_iff.mpr fun member => ends t (List.contains_iff_mem.mp member) (List.suffix_refl t)

theorem literalNames (literal : IsLiteral t) : isLocalhost t = false ∧ isPrivateName t = false := by
  have names := literalUnlike literal [py "localhost", py ".localhost"] (by decide)
  have blocked := literalUnlike literal metadataNameBlocklist (by decide)
  have suffixes := literalUnlike literal privateNameSuffixes (by decide)
  constructor
  · rw [isLocalhost, names.1 _ (List.mem_cons_of_mem _ List.mem_cons_self), Bool.or_false, beq_eq_false_iff_ne]
    intro same
    have suffix := names.1 _ List.mem_cons_self
    rw [same] at suffix
    revert suffix
    decide
  · rw [isPrivateName, blocked.2, Bool.false_or, List.any_eq_false]
    exact fun name member suffix => Bool.false_ne_true ((suffixes.1 name member).symm.trans suffix)

theorem literalValid (literal : IsLiteral t) {address : IPAddress} (read : parse t = some address)
    (numeric : looksLikeNumericHost t = true → isCanonicalDottedQuad t = some true) :
    validateHost python t = .ok t ↔ isDisallowedIp address = false := by
  have filled : t.isEmpty = false := Bool.eq_false_iff.mpr fun empty => literal.filled (List.isEmpty_iff.mp empty)
  have digits : containsNonAsciiNumeric python t = false := by
    rw [containsNonAsciiNumeric, List.any_eq_false]
    intro c member high
    have small := (inertParts (literal.inert c member)).1
    simp only [Bool.and_eq_true, decide_eq_true_eq] at high
    omega
  have canonical : (if looksLikeNumericHost t then isCanonicalDottedQuad t else some true) = some true := by
    split
    · exact numeric ‹_›
    · rfl
  have address' : asIpLiteral python t = some address := by
    rw [asIpLiteral, inertBrackets literal.inert, read]
  obtain ⟨loopback, internal⟩ := literalNames literal
  unfold validateHost
  dsimp only
  rw [undotted literal.last, filled, digits, loopback, internal, canonical, address']
  simp only [Bool.false_eq_true, if_false, Option.any_some]
  split
  · rename_i disallowed
    exact iff_of_false (fun same => by cases same) (fun allowed => Bool.false_ne_true (allowed.symm.trans disallowed))
  · rename_i allowed
    exact iff_of_true rfl (Bool.eq_false_iff.mpr allowed)

end Texts
section Quads
variable {python : Python}

theorem quadLiteral (value : Nat) : IsLiteral (quadText value) := by
  have shape : quadText value = decimalText (value / 2 ^ 24 % 256) ++ ([0x2E] ++ (decimalText (value / 2 ^ 16 % 256) ++
      ([0x2E] ++ (decimalText (value / 2 ^ 8 % 256) ++ ([0x2E] ++ decimalText (value % 256)))))) := by
    simp only [quadText, octets, join, List.map_cons, List.map_nil, List.intercalate_cons_cons,
      List.intercalate_singleton, List.append_assoc]
  have digit : ∀ {n : Nat} {c : CodePoint}, c ∈ decimalText n → ∃ d < 16, c = digitCode d := by
    intro n c member
    obtain ⟨d, small, same⟩ := memDecimal member
    exact ⟨d, by omega, same⟩
  constructor
  · intro c member
    rcases memJoin member with rfl | ⟨part, listed, inside⟩
    · rfl
    · obtain ⟨n, -, rfl⟩ := List.mem_map.mp listed
      obtain ⟨d, small, rfl⟩ := digit inside
      exact literalDigit small
  · rw [shape]
    exact List.append_ne_nil_of_left_ne_nil (decimalSome _) _
  · have last : (quadText value).getLast? = (decimalText (value % 256)).getLast? := by
      rw [shape]
      repeat rw [List.getLast?_append_of_ne_nil _ (by simp [decimalSome])]
    intro dot
    rw [last] at dot
    obtain ⟨d, small, same⟩ := memDecimal (List.mem_of_getLast? dot)
    have value := digitCodeVal d small
    rw [← same] at value
    have code : (0x2E : CodePoint).val = 0x2E := rfl
    omega

theorem labelCanonical {n : Nat} (small : n < 256) (rest : List PyStr) :
    canonicalLabels (decimalText n :: rest) = canonicalLabels rest := by
  have digits : isAsciiDigits (decimalText n) = true := by
    rw [isAsciiDigits, decimalDigits, Bool.and_true, Bool.not_eq_true', Bool.eq_false_iff]
    exact fun empty => decimalSome n (List.isEmpty_iff.mp empty)
  have length : (decimalText n).length ≤ 3 := decimalLength (by omega) (by decide)
  have plain : (decide (1 < (decimalText n).length) && (decimalText n).head? == some 0x30) = false := by
    cases Nat.eq_zero_or_pos n with
    | inl zero =>
      rw [zero]
      rfl
    | inr positive => rw [beq_eq_false_iff_ne.mpr (decimalHead positive), Bool.and_false]
  have short : ¬ maxIntDigits < (decimalText n).length := by
    simp only [maxIntDigits]
    omega
  simp only [canonicalLabels, digits, plain, decimalValue, Bool.not_true, Bool.false_eq_true, if_false]
  rw [if_neg short, if_neg (by omega)]

theorem quadCanonical (value : Nat) : isCanonicalDottedQuad (quadText value) = some true := by
  have octet : ∀ n, n % 256 < 256 := fun n => Nat.mod_lt n (by decide)
  unfold isCanonicalDottedQuad
  dsimp only
  rw [quadParts]
  simp only [octets, List.map_cons, List.map_nil, labelCanonical (octet _)]
  rfl

theorem quadValid (value : Fin (2 ^ 32)) : validateHost python (quadText value.val) = .ok (quadText value.val) ↔
    isDisallowedIp (.v4 value) = false := by
  apply literalValid (quadLiteral _)
  · rw [← textV4, textRead (fun _ _ same => by cases same)]
  · exact fun _ => quadCanonical _

end Quads

section Groups
variable {python : Python}

theorem groupLiteral (value : Nat) : IsLiteral (groupText value) := by
  have colons : 1 < (splitOn 0x3A (groupText value)).length := by
    rw [groupParts]
    have length := (compressedLength (hextetsEight value)).1
    omega
  constructor
  · intro c member
    rcases memGroupText member with rfl | ⟨d, small, rfl⟩
    · rfl
    · exact literalDigit small
  · intro empty
    rw [empty] at colons
    exact absurd colons (by decide)
  · intro dot
    exact groupFree (by decide) rfl value (List.mem_of_getLast? dot)

theorem colonInGroups (value : Nat) : (0x3A : CodePoint) ∈ groupText value := by
  by_contra free
  have one : splitOn 0x3A (groupText value) = [groupText value] := by rw [splitOnIs, List.splitOn_eq_singleton free]
  have length := (compressedLength (hextetsEight value)).1
  rw [← groupParts, one, List.length_singleton] at length
  omega

theorem groupNotNumeric (value : Nat) : looksLikeNumericHost (groupText value) = false := by
  have one : splitOn 0x2E (groupText value) = [groupText value] := by
    rw [splitOnIs, List.splitOn_eq_singleton (groupFree (by decide) rfl value)]
  have digits : isAsciiDigits (groupText value) = false := by
    rw [isAsciiDigits, Bool.and_eq_false_iff]
    exact .inr (List.all_eq_false.mpr ⟨0x3A, colonInGroups value, Bool.false_ne_true⟩)
  have hex : (((groupText value).take 2 == py "0x" || (groupText value).take 2 == py "0X") &&
      ((groupText value).drop 2).all fun c => (JsonScan.hexValue c).isSome) = false := by
    rw [Bool.and_eq_false_iff]
    by_cases later : (0x3A : CodePoint) ∈ (groupText value).drop 2
    · exact .inr (List.all_eq_false.mpr ⟨0x3A, later, Bool.false_ne_true⟩)
    · have front : (0x3A : CodePoint) ∈ (groupText value).take 2 := by
        have inside := colonInGroups value
        rw [← List.take_append_drop 2 (groupText value)] at inside
        exact (List.mem_append.mp inside).resolve_right later
      refine .inl (Bool.or_eq_false_iff.mpr ⟨?_, ?_⟩)
      all_goals
        rw [beq_eq_false_iff_ne]
        intro same
        rw [same] at front
        revert front
        decide
  rw [looksLikeNumericHost, one, List.all_cons, isNumericLabel, digits, Bool.and_assoc, hex, Bool.and_false]
  rfl

theorem groupValid (value : Fin (2 ^ 128)) : validateHost python (groupText value.val) = .ok (groupText value.val) ↔
    isDisallowedIp (.v6 value none) = false := by
  apply literalValid (groupLiteral _) (groupsRead value)
  intro numeric
  rw [groupNotNumeric] at numeric
  cases numeric

end Groups
section Registration
variable {python : Python} {t : PyStr}

theorem literalStrip (literal : IsLiteral t) : strip t = t :=
  stripWord fun c member => (inertParts (literal.inert c member)).2.2.1

theorem literalKept (literal : IsLiteral t) : t.filter isKept = t :=
  List.filter_eq_self.mpr fun c member => (inertParts (literal.inert c member)).2.2.2.1

theorem literalAscii (literal : IsLiteral t) : t.all (fun c => c.val < 0x80) = true :=
  List.all_eq_true.mpr fun c member => decide_eq_true (inertParts (literal.inert c member)).1

theorem hostnameOfLiteral (ascii : AsciiCase python) (literal : IsLiteral t) {parts : SplitResult}
    (info : parts.hostinfo.1 = t) : hostOf python parts = t := by
  have filled : t.isEmpty = false := Bool.eq_false_iff.mpr fun empty => literal.filled (List.isEmpty_iff.mp empty)
  rw [hostOf, SplitResult.hostname]
  dsimp only
  rw [info, filled, partitionFree (literal.free (by decide))]
  simp [inertLower ascii literal.inert]

theorem bracketedLiteral (ascii : AsciiCase python) (literal : IsLiteral t) : hostOf python (bracketed t) = t := by
  apply hostnameOfLiteral ascii literal
  rw [hostinfoBracketed (literal.free (by decide)), literalKept literal, partition]
  exact takeUntil (literal.free (by decide))

theorem literalInUrl (literal : IsLiteral t) : ∀ c ∈ t, isNetlocEnd c = false ∧ c ≠ 0x40 := fun c member =>
  ⟨(inertParts (literal.inert c member)).2.2.2.2.1, fun same => literal.free (by decide) (same ▸ member)⟩

theorem bracketsChecked (literal : IsLiteral t) {value : Fin (2 ^ 128)} (read : parse t = some (.v6 value none)) :
    checkBrackets (bracketed t).netloc = true := by
  have netloc : (bracketed t).netloc = 0x5B :: (t ++ 0x5D :: []) := by
    rw [bracketed, literalKept literal]
    rfl
  have opens : (0x5B :: (t ++ 0x5D :: [])).contains (0x5B : CodePoint) = true := List.contains_iff_mem.mpr List.mem_cons_self
  have closes : (0x5B :: (t ++ 0x5D :: [])).contains (0x5D : CodePoint) = true :=
    List.contains_iff_mem.mpr (List.mem_cons_of_mem _ (List.mem_append_right _ List.mem_cons_self))
  have inside : (partition 0x5D (partition 0x5B (0x5B :: (t ++ 0x5D :: []))).2.2).1 = t := by
    rw [partition, partition]
    exact takeUntil (literal.free (by decide))
  have front : (t.head? == some 0x76) = false := by
    rw [beq_eq_false_iff_ne]
    intro first
    exact literal.free (by decide) (List.mem_of_head? first)
  unfold checkBrackets
  rw [netloc, opens, closes, inside]
  simp only [checkBracketedHost, front, read, Bool.false_eq_true, if_false]

theorem groupRegistered (ascii : AsciiCase python) (plain : PlainCase python) (value : Fin (2 ^ 128)) :
    RegistersHost python (groupText value.val) ↔ isDisallowedIp (.v6 value none) = false := by
  have literal := groupLiteral value.val
  rw [registersLiteral ascii plain (groupsRead value), ← @groupValid python]
  have valid : validateHost python (hostOf python (bracketed (groupText value.val))) =
      .ok (givenHost python (groupText value.val)) ↔
        validateHost python (groupText value.val) = .ok (groupText value.val) := by
    rw [bracketedLiteral ascii literal, literalGiven ascii literal]
  constructor
  · exact fun taken => valid.mp taken.valid
  · intro allowed
    have length := groupLengthBound value.val
    constructor
    · rw [literalStrip literal, maxHostnameLength]
      omega
    · exact literalInUrl literal
    · exact bracketsChecked literal (groupsRead value)
    · have small : (bracketed (groupText value.val)).netloc.all (fun c => c.val < 0x80) = true := by
        rw [bracketed, literalKept literal, List.all_append, List.all_append, literalAscii literal]
        rfl
      rw [checkNetloc, small, Bool.true_or, Bool.true_or]
    · exact valid.mpr allowed
    · rw [literalGiven ascii literal, maxHostnameLength]
      omega

theorem hostinfoPlain {parts : SplitResult} (anonymous : (0x40 : CodePoint) ∉ parts.netloc)
    (open_ : (0x5B : CodePoint) ∉ parts.netloc) (colon : (0x3A : CodePoint) ∉ parts.netloc) :
    parts.hostinfo = (parts.netloc, []) := by
  have all : ∀ c ∈ parts.netloc.reverse, (c != 0x40) = true := fun c member =>
    bne_iff_ne.mpr fun same => anonymous (same ▸ List.mem_reverse.mp member)
  have info : afterLast 0x40 parts.netloc = parts.netloc := by
    rw [afterLast, List.takeWhile_eq_self_iff.mpr all, List.reverse_reverse]
  rw [SplitResult.hostinfo, info, partitionFree open_]
  dsimp only
  rw [partitionFree colon]
  rfl

theorem quadNetloc {value : Nat} {parts : SplitResult} (netloc : parts.netloc = quadText value) :
    parts.hostinfo = (quadText value, []) := by
  have literal := quadLiteral value
  have colon : (0x3A : CodePoint) ∉ quadText value := by
    intro member
    rcases memJoin member with same | ⟨part, listed, inside⟩
    · cases same
    · obtain ⟨n, -, rfl⟩ := List.mem_map.mp listed
      exact decimalFree rfl n inside
  rw [hostinfoPlain, netloc]
  · rw [netloc]
    exact literal.free (by decide)
  · rw [netloc]
    exact literal.free (by decide)
  · rw [netloc]
    exact colon

theorem quadLengthBound (value : Nat) : (quadText value).length ≤ 16 := by
  have short : ∀ part ∈ (octets value).map decimalText, part.length ≤ 3 := by
    intro part member
    obtain ⟨n, listed, rfl⟩ := List.mem_map.mp member
    have small : n < 256 := by
      simp only [octets, List.mem_cons, List.not_mem_nil, or_false] at listed
      omega
    exact decimalLength (by omega) (by decide)
  exact joinLength short

theorem quadRegistered (ascii : AsciiCase python) (value : Fin (2 ^ 32)) :
    RegistersHost python (quadText value.val) ↔ isDisallowedIp (.v4 value) = false := by
  have literal := quadLiteral value.val
  have url : urlHost (quadText value.val) = quadText value.val := by
    have read : parse (quadText value.val) = some (.v4 value) := by
      rw [← textV4, textRead (fun _ _ same => by cases same)]
    rw [urlHost, read]
  rw [RegistersHost, url, ← @quadValid python]
  constructor
  · intro registered
    obtain ⟨n, accepted⟩ := registered
    obtain ⟨parts, port, acceptance⟩ := acceptedParts accepted
    have netloc := (netlocEmbedded acceptance.split).1
    have all : ∀ c ∈ quadText value.val, (!isNetlocEnd c) = true := fun c member => by
      rw [(literalInUrl literal c member).1]
      rfl
    rw [literalKept literal, List.takeWhile_eq_self_iff.mpr all] at netloc
    have valid := acceptance.valid
    rw [hostnameOfLiteral ascii literal (by rw [quadNetloc netloc]), acceptance.same, literalGiven ascii literal] at valid
    exact valid
  · intro valid
    have length := quadLengthBound value.val
    have info : SplitResult.hostinfo ⟨py "https", quadText value.val, py "/", [], []⟩ = (quadText value.val, []) :=
      quadNetloc rfl
    apply acceptsHost ascii (literalKept literal)
    · exact fun c member => by
        rw [(literalInUrl literal c member).1]
        rfl
    · have opens : (quadText value.val).contains 0x5B = false :=
        Bool.eq_false_iff.mpr fun member => literal.free (by decide) (List.contains_iff_mem.mp member)
      have closes : (quadText value.val).contains 0x5D = false :=
        Bool.eq_false_iff.mpr fun member => literal.free (by decide) (List.contains_iff_mem.mp member)
      rw [checkBrackets, opens, closes]
    · rw [checkNetloc, literalAscii literal, Bool.true_or, Bool.true_or]
    · exact literal.free (by decide)
    · rw [SplitResult.port, info]
      rfl
    · rw [literalStrip literal, maxHostnameLength]
      omega
    · rw [hostnameOfLiteral ascii literal (by rw [info]), literalGiven ascii literal, valid]
    · rw [literalGiven ascii literal, maxHostnameLength]
      omega

end Registration
section Policies
variable {python : Python} {address : IPAddress}

def sharedBlock : Block := net4 100 64 0 0 10

theorem sharedNotDisallowed {value : Fin (2 ^ 32)} (shared : sharedBlock.holds value.val = true) :
    isDisallowedIp (.v4 value) = false := by
  have range : 1681915904 ≤ value.val ∧ value.val < 1686110208 := by
    simp only [sharedBlock, Block.holds, net4, beq_iff_eq] at shared
    omega
  have outside : ∀ b ∈ privateV4 ++ [net4 169 254 0 0 16, net4 224 0 0 0 4, net4 240 0 0 0 4, net4 127 0 0 0 8],
      b.holds value.val = false := by
    have away : ∀ b ∈ privateV4 ++ [net4 169 254 0 0 16, net4 224 0 0 0 4, net4 240 0 0 0 4, net4 127 0 0 0 8],
        b.first / 2 ^ b.hostBits < 1681915904 / 2 ^ b.hostBits ∨
          1686110207 / 2 ^ b.hostBits < b.first / 2 ^ b.hostBits := by decide
    intro b member
    have low : 1681915904 / 2 ^ b.hostBits ≤ value.val / 2 ^ b.hostBits := Nat.div_le_div_right range.1
    have high : value.val / 2 ^ b.hostBits ≤ 1686110207 / 2 ^ b.hostBits := Nat.div_le_div_right (by omega)
    rw [Block.holds, beq_eq_false_iff_ne]
    rcases away b member with below | above
    · omega
    · omega
  have inner : isPrivateV4 value.val = false := by
    have none : privateV4.any (·.holds value.val) = false :=
      List.any_eq_false.mpr fun b member holds =>
        Bool.false_ne_true ((outside b (List.mem_append_left _ member)).symm.trans holds)
    rw [isPrivateV4, none, Bool.false_and]
  have special : ∀ b ∈ [net4 169 254 0 0 16, net4 224 0 0 0 4, net4 240 0 0 0 4, net4 127 0 0 0 8],
      b.holds value.val = false := fun b member => outside b (List.mem_append_right _ member)
  have nonzero : (value.val == 0) = false := beq_eq_false_iff_ne.mpr (by omega)
  simp only [List.forall_mem_cons] at special
  simp only [isDisallowedIp, isPrivate, isLoopback, isLinkLocal, isReserved, isMulticast, isUnspecified, inner, nonzero,
    special, Bool.or_self]

theorem allowedIff : (evaluateIp address).allowed = true ↔ isDisallowedIp address = false ∧ address.isGlobal = true := by
  rw [evaluateIpAllowed]
  simp only [ipChecks, List.forall_mem_cons, isDisallowedIp, Bool.or_eq_false_iff, Bool.not_eq_false']
  constructor
  · rintro ⟨-, unspecified, loopback, linkLocal, multicast, reserved, internal, global, -⟩
    exact ⟨⟨⟨⟨⟨⟨internal, loopback⟩, linkLocal⟩, reserved⟩, multicast⟩, unspecified⟩, global⟩
  · rintro ⟨⟨⟨⟨⟨⟨internal, loopback⟩, linkLocal⟩, reserved⟩, multicast⟩, unspecified⟩, global⟩
    refine ⟨?_, unspecified, loopback, linkLocal, multicast, reserved, internal, global, fun _ none => nomatch none⟩
    intro metadata
    rw [metadata] at linkLocal
    revert linkLocal
    decide

theorem literalRegistered (ascii : AsciiCase python) (plain : PlainCase python)
    (unscoped : ∀ value scope, address ≠ .v6 value (some scope)) :
    RegistersHost python (text address) ↔ isDisallowedIp address = false := by
  cases address with
  | v4 value =>
    rw [textV4]
    exact quadRegistered ascii value
  | v6 value scope =>
    cases scope with
    | none =>
      rw [textV6]
      exact groupRegistered ascii plain value
    | some scope => exact absurd rfl (unscoped value scope)

end Policies
end SentinelGpt
