import SentinelGpt.JsonWriter
import SentinelGpt.NumberTexts
import Mathlib.Data.List.Chain
import Mathlib.Data.List.TakeWhile

/-! `json.dumps` as it is called without options, and `json.loads` of what it writes. -/
namespace SentinelGpt
open JsonScan

/- A float's literal stands as it is. -/
mutual
def dumps : Json → PyStr
  | .null => py "null"
  | .bool true => py "true"
  | .bool false => py "false"
  | .int n => intText n
  | .float literal => literal
  | .str s => dumpsStr s
  | .list items => py "[" ++ itemsText items ++ py "]"
  | .dict members => py "\x7b" ++ membersText members ++ py "\x7d"

def itemsText : List Json → PyStr
  | [] => []
  | [value] => dumps value
  | value :: next :: rest => dumps value ++ py ", " ++ itemsText (next :: rest)

def membersText : List (PyStr × Json) → PyStr
  | [] => []
  | [(key, value)] => dumpsStr key ++ py ": " ++ dumps value
  | (key, value) :: next :: rest => dumpsStr key ++ py ": " ++ dumps value ++ py ", " ++ membersText (next :: rest)
end

def Unpaired (s : PyStr) : Prop := s.IsChain fun a b => (isHigh a.val && isLow b.val) = false

theorem unpairedSmall {s : PyStr} (small : ∀ c ∈ s, c.val < 0xD800) : Unpaired s := by
  induction s with
  | nil => exact .nil
  | cons c s ih =>
    obtain ⟨first, others⟩ := List.forall_mem_cons.mp small
    cases s with
    | nil => exact .singleton c
    | cons d s =>
      refine List.isChain_cons_cons.mpr ⟨?_, ih others⟩
      have plain : isHigh c.val = false := by
        simp only [isHigh, Bool.and_eq_false_iff, decide_eq_false_iff_not]
        omega
      rw [plain, Bool.false_and]

/- What is read as it was written, with `depth` containers left to enter, and floats only where
their literals are what they are written as. -/
mutual
def Readable (floats : Bool) : Nat → Json → Prop
  | _, .null | _, .bool _ => True
  | _, .int n => shortInt n = true
  | _, .float literal => floats = true ∧ scanNumber false literal = .ok (.float literal, [])
  | _, .str s => Unpaired s
  | 0, .list _ | 0, .dict _ => False
  | depth + 1, .list items => ReadableItems floats depth items
  | depth + 1, .dict members => (members.map Prod.fst).Nodup ∧ ReadableMembers floats depth members

def ReadableItems (floats : Bool) : Nat → List Json → Prop
  | _, [] => True
  | depth, value :: rest => Readable floats depth value ∧ ReadableItems floats depth rest

def ReadableMembers (floats : Bool) : Nat → List (PyStr × Json) → Prop
  | _, [] => True
  | depth, (key, value) :: rest => Unpaired key ∧ Readable floats depth value ∧ ReadableMembers floats depth rest
end

variable {floats : Bool}

def Stops (rest : PyStr) : Prop := ∀ c ∈ rest.head?, c = 0x2C ∨ c = 0x5D ∨ c = 0x7D

section Numbers
variable {text rest : PyStr}

theorem digitsStop (text : PyStr) (stops : Stops rest) : digits (text ++ rest) = ((digits text).1, (digits text).2 ++ rest) := by
  have none : rest.takeWhile isDigit = [] ∧ rest.dropWhile isDigit = rest := by
    cases rest with
    | nil => exact ⟨rfl, rfl⟩
    | cons c rest =>
      have other : isDigit c = false := by
        rcases stops c rfl with rfl | rfl | rfl <;> rfl
      simp [other]
  induction text with
  | nil => simp [digits, none]
  | cons c text ih =>
    simp only [digits, Prod.mk.injEq] at ih
    cases digit : isDigit c with
    | true => simp [digits, digit, ih]
    | false => simp [digits, digit]

theorem fractionStop (stops : Stops rest) : fraction (text ++ rest) = ((fraction text).1, (fraction text).2 ++ rest) := by
  have none : ∀ dot, fraction (dot :: rest) = ([], dot :: rest) ∧ fraction rest = ([], rest) := by
    intro dot
    cases rest with
    | nil => exact ⟨rfl, rfl⟩
    | cons c rest =>
      have other : isDigit c = false ∧ (c == 0x2E) = false := by
        rcases stops c rfl with rfl | rfl | rfl <;> exact ⟨rfl, rfl⟩
      cases rest with
      | nil => simp [fraction, other]
      | cons d rest => simp [fraction, other]
  match text with
  | [] => exact (none 0).2
  | [dot] => exact (none dot).1
  | dot :: d :: text =>
    have later := digitsStop (d :: text) stops
    rw [List.cons_append] at later
    rw [List.cons_append, List.cons_append, fraction, fraction, later]
    split <;> rfl

theorem exponentStop (stops : Stops rest) : exponent (text ++ rest) = ((exponent text).1, (exponent text).2 ++ rest) := by
  have other : ∀ c ∈ rest.head?, isDigit c = false ∧ (c == 0x2B) = false ∧ (c == 0x2D) = false ∧
      (c == 0x65) = false ∧ (c == 0x45) = false := by
    intro c first
    rcases stops c first with rfl | rfl | rfl <;> decide
  match text with
  | [] =>
    match rest, other with
    | [], _ | [_], _ => rfl
    | c :: d :: rest, other => simp [exponent, other c rfl]
  | [e] =>
    match rest, other with
    | [], _ => rfl
    | c :: rest, other => simp [exponent, other c rfl]
  | e :: sign :: text =>
    have whole := digitsStop (sign :: text) stops
    have later := digitsStop text stops
    have heads : (text ++ rest).head?.any isDigit = text.head?.any isDigit := by
      cases text with
      | nil =>
        match rest, other with
        | [], _ => rfl
        | c :: rest, other => simp [other c rfl]
      | cons c text => rfl
    rw [List.cons_append] at whole
    rw [List.cons_append, List.cons_append, exponent, exponent, whole, later, heads]
    split
    · split
      · rfl
      · split
        · split <;> rfl
        · rfl
    · rfl

theorem integerPartStop (stops : Stops rest) {int after : PyStr} (read : integerPart text = some (int, after)) :
    integerPart (text ++ rest) = some (int, after ++ rest) := by
  cases text with
  | nil => cases read
  | cons d text =>
    have whole := digitsStop (d :: text) stops
    rw [List.cons_append] at whole
    rw [List.cons_append]
    rw [integerPart] at read ⊢
    split
    · rename_i zero
      rw [if_pos zero] at read
      cases read
      rfl
    · rename_i other
      rw [if_neg other] at read
      split
      · rename_i digit
        rw [if_pos digit] at read
        rw [whole]
        cases read
        rfl
      · rename_i none
        rw [if_neg none] at read
        cases read

theorem scanNumberStop (stops : Stops rest) {negative : Bool} {value : Json}
    (read : scanNumber negative text = .ok (value, [])) : scanNumber negative (text ++ rest) = .ok (value, rest) := by
  unfold scanNumber at read ⊢
  cases part : integerPart text with
  | none =>
    rw [part] at read
    cases read
  | some found =>
    obtain ⟨int, after⟩ := found
    rw [part] at read
    rw [integerPartStop stops part]
    dsimp only at read ⊢
    rw [fractionStop stops]
    dsimp only
    rw [exponentStop stops]
    dsimp only
    split
    · rename_i plain
      rw [if_pos plain] at read
      split
      · rename_i long
        rw [if_pos long] at read
        cases read
      · rename_i short
        rw [if_neg short] at read
        simp only [Except.ok.injEq, Prod.mk.injEq] at read ⊢
        exact ⟨read.1, by rw [read.2]; rfl⟩
    · rename_i broken
      rw [if_neg broken] at read
      simp only [Except.ok.injEq, Prod.mk.injEq] at read ⊢
      exact ⟨read.1, by rw [read.2]; rfl⟩

theorem decimalScan (negative : Bool) {n : Nat} (short : n < 10 ^ maxIntDigits) :
    scanNumber negative (decimalText n) = .ok (.int (if negative then - (n : Int) else n), []) := by
  have all := decimalDigits n
  have whole : integerPart (decimalText n) = some (decimalText n, []) := by
    have digitsAll : digits (decimalText n) = (decimalText n, []) := by
      rw [digits, List.takeWhile_eq_self_iff.mpr (List.all_eq_true.mp all),
        List.dropWhile_eq_nil_iff.mpr (List.all_eq_true.mp all)]
    rcases Nat.eq_zero_or_pos n with rfl | positive
    · rfl
    · have head := decimalHead positive
      cases shape : decimalText n with
      | nil => exact absurd shape (decimalSome n)
      | cons d rest =>
        rw [shape] at head all digitsAll
        have nonzero : (d == 0x30) = false := beq_eq_false_iff_ne.mpr fun same => head (by rw [same]; rfl)
        have digit : isDigit d = true := List.all_eq_true.mp all d List.mem_cons_self
        rw [integerPart, nonzero, if_neg Bool.false_ne_true, if_pos digit, digitsAll]
  have fits : ¬ maxIntDigits < (decimalText n).length := by
    have bound := decimalLength short (by decide)
    omega
  rw [scanNumber, whole]
  dsimp only [fraction, exponent]
  rw [if_pos (by rfl), if_neg fits, decimalValue]

theorem noConstant {d : CodePoint} (digit : isDigit d = true) (rest : PyStr) :
    (constants.find? fun constant => constant.1.isPrefixOf (d :: rest)) = none ∧
      (constants.find? fun constant => constant.1.isPrefixOf (0x2D :: d :: rest)) = none := by
  have first : ∀ constant ∈ constants, constant.1[0]?.any (fun c => !isDigit c) = true := by decide
  have second : ∀ constant ∈ constants, constant.1[0]?.any (· != 0x2D) = true ∨
      constant.1[1]?.any (fun c => !isDigit c) = true := by decide
  have placed : ∀ {word text : PyStr} {i : Nat} {p : CodePoint → Bool}, word[i]?.any p = true →
      word.isPrefixOf text = true → text[i]?.any p = true := by
    intro word text i p found front
    obtain ⟨tail, rfl⟩ := List.isPrefixOf_iff_prefix.mp front
    cases here : word[i]? with
    | none =>
      rw [here] at found
      cases found
    | some c =>
      obtain ⟨inside, -⟩ := List.getElem?_eq_some_iff.mp here
      rw [List.getElem?_append_left inside, here]
      rwa [here] at found
  constructor
  · rw [List.find?_eq_none]
    intro constant listed front
    have other := placed (first constant listed) front
    simp [digit] at other
  · rw [List.find?_eq_none]
    intro constant listed front
    rcases second constant listed with sign | letter
    · have other := placed sign front
      simp at other
    · have other := placed letter front
      simp [digit] at other

theorem digitNoSign {d : CodePoint} (digit : isDigit d = true) : (d == 0x2D) = false := by
  rw [beq_eq_false_iff_ne]
  rintro rfl
  cases digit

theorem scanDigits {d : CodePoint} (digit : isDigit d = true) (rest : PyStr) :
    scanScalar (d :: rest) = scanNumber false (d :: rest) := by
  rw [scanScalar, (noConstant digit rest).1]
  dsimp only
  rw [digitNoSign digit, if_neg Bool.false_ne_true]

theorem scanMinus {d : CodePoint} (digit : isDigit d = true) (rest : PyStr) :
    scanScalar (0x2D :: d :: rest) = scanNumber true (d :: rest) := by
  rw [scanScalar, (noConstant digit rest).2]
  dsimp only
  rw [if_pos (by rfl)]

theorem decimalFirst (n : Nat) : ∃ d rest, decimalText n = d :: rest ∧ isDigit d = true := by
  have all := decimalDigits n
  cases shape : decimalText n with
  | nil => exact absurd shape (decimalSome n)
  | cons d rest =>
    rw [shape] at all
    exact ⟨d, rest, rfl, List.all_eq_true.mp all d List.mem_cons_self⟩

theorem intNegative (m : Nat) : intText (.negSucc m) = 0x2D :: decimalText (m + 1) := by
  have signed : toString (Int.negSucc m) = "-" ++ toString (m + 1) := rfl
  rw [intText, signed, py, String.toList_append, List.map_append, ← py, ← py, pyDecimal]
  rfl

theorem intScan {n : Int} (short : shortInt n = true) (stops : Stops rest) :
    scanScalar (intText n ++ rest) = .ok (.int n, rest) := by
  simp only [shortInt, decide_eq_true_eq] at short
  cases n with
  | ofNat m =>
    obtain ⟨d, more, shape, digit⟩ := decimalFirst m
    have read := scanNumberStop stops (decimalScan false (n := m) short)
    have text : intText (.ofNat m) = decimalText m := pyDecimal m
    rw [text]
    rw [shape] at read ⊢
    rw [List.cons_append] at read ⊢
    rw [scanDigits digit]
    exact read
  | negSucc m =>
    obtain ⟨d, more, shape, digit⟩ := decimalFirst (m + 1)
    have read := scanNumberStop stops (decimalScan true (n := m + 1) short)
    rw [intNegative]
    rw [shape] at read ⊢
    rw [List.cons_append] at read
    rw [List.cons_append, List.cons_append, scanMinus digit]
    exact read

theorem floatFirst {literal : PyStr} (readable : scanNumber false literal = .ok (.float literal, [])) :
    ∃ d rest, literal = d :: rest ∧ isDigit d = true := by
  cases literal with
  | nil => cases readable
  | cons d more =>
    refine ⟨d, more, rfl, ?_⟩
    cases digit : isDigit d with
    | true => rfl
    | false =>
      have zero : (d == 0x30) = false := beq_eq_false_iff_ne.mpr fun same => by
        subst same
        cases digit
      rw [scanNumber, integerPart, zero, digit] at readable
      cases readable

theorem floatScan {literal : PyStr} (readable : scanNumber false literal = .ok (.float literal, []))
    (stops : Stops rest) : scanScalar (literal ++ rest) = .ok (.float literal, rest) := by
  have read := scanNumberStop stops readable
  obtain ⟨d, more, rfl, digit⟩ := floatFirst readable
  rw [List.cons_append] at read ⊢
  rw [scanDigits digit]
  exact read

theorem intFirst (n : Int) : ∃ c rest, intText n = c :: rest ∧ (isDigit c = true ∨ c = 0x2D) := by
  cases n with
  | ofNat m =>
    obtain ⟨d, more, shape, digit⟩ := decimalFirst m
    exact ⟨d, more, (pyDecimal m).trans shape, .inl digit⟩
  | negSucc m =>
    rw [intNegative]
    exact ⟨_, _, rfl, .inr rfl⟩

end Numbers

section Strings

theorem hexDigitRead (n : Nat) : hexValue (hexDigit n) = some (n % 16) := by
  have each : ∀ d < 16, hexValue (hexDigit d) = some d := by decide
  have same : hexDigit n = hexDigit (n % 16) := by rw [hexDigit, hexDigit, Nat.mod_mod]
  rw [same, each _ (Nat.mod_lt n (by decide))]

theorem hexUnitRead {n : Nat} (small : n < 65536) (next : CodePoint) (rest : PyStr) :
    hexUnit (hexText 4 n ++ next :: rest) = some (n, next :: rest) := by
  have digits : hexText 4 n = [hexDigit (n / 4096), hexDigit (n / 256), hexDigit (n / 16), hexDigit n] := by
    simp [hexText, List.range_succ]
  rw [digits]
  simp only [List.cons_append, List.nil_append, hexUnit, hexDigitRead, Option.bind_eq_bind, Option.bind_some,
    Option.pure_def, Option.some.injEq, Prod.mk.injEq, and_true]
  omega

def NoLow (more : PyStr) : Prop :=
  (py "\\u").isPrefixOf more = false ∨ ∃ unit rest, hexUnit (more.drop 2) = some (unit, rest) ∧ isLow unit = false

theorem unicodeRead {unit : Nat} (small : unit < 65536) {next : CodePoint} {rest : PyStr}
    (free : isHigh unit = true → NoLow (next :: rest)) :
    unicodeEscape (hexText 4 unit ++ next :: rest) = .ok (ofNat unit, next :: rest) := by
  rw [unicodeEscape, hexUnitRead small]
  dsimp only
  split
  · rename_i paired
    simp only [Bool.and_eq_true] at paired
    rcases free paired.1.1 with none | ⟨low, after, read, other⟩
    · rw [paired.1.2] at none
      cases none
    · rw [read]
      dsimp only
      rw [other, if_neg Bool.false_ne_true]
  · rfl

theorem escapeUnitText (unit : Nat) (more : PyStr) :
    escapeUnit unit ++ more = 0x5C :: 0x75 :: (hexText 4 unit ++ more) := rfl

theorem escapePrefix (more : PyStr) : (py "\\u").isPrefixOf (0x5C :: 0x75 :: more) = true := rfl

theorem pairRead {high low : Nat} (isHighUnit : isHigh high = true) (isLowUnit : isLow low = true) (next : CodePoint)
    (rest : PyStr) : unicodeEscape (hexText 4 high ++ (escapeUnit low ++ next :: rest)) =
      .ok (joinSurrogates high low, next :: rest) := by
  have small : high < 65536 ∧ low < 65536 := by
    simp only [isHigh, isLow, Bool.and_eq_true, decide_eq_true_eq] at isHighUnit isLowUnit
    omega
  have length : (hexText 4 low).length = 4 := by simp [hexText]
  have long : 6 < (0x5C :: 0x75 :: (hexText 4 low ++ next :: rest)).length := by
    simp only [List.length_cons, List.length_append, length]
    omega
  rw [escapeUnitText, unicodeEscape, hexUnitRead small.1]
  dsimp only
  rw [isHighUnit, escapePrefix, decide_eq_true long, Bool.and_true, Bool.and_true, if_pos rfl, List.drop_succ_cons, List.drop_succ_cons,
    List.drop_zero, hexUnitRead small.2]
  dsimp only
  rw [isLowUnit, if_pos rfl]

theorem surrogatesOf {c : CodePoint} (wide : 0x10000 ≤ c.val) :
    isHigh (0xD800 + (c.val - 0x10000) / 0x400) = true ∧ isLow (0xDC00 + (c.val - 0x10000) % 0x400) = true ∧
      joinSurrogates (0xD800 + (c.val - 0x10000) / 0x400) (0xDC00 + (c.val - 0x10000) % 0x400) = c := by
  have bound := c.isLt
  refine ⟨?_, ?_, ?_⟩
  · simp only [isHigh, Bool.and_eq_true, decide_eq_true_eq]
    omega
  · simp only [isLow, Bool.and_eq_true, decide_eq_true_eq]
    omega
  · apply Fin.ext
    rw [joinSurrogates, ofNatVal (by omega)]
    omega

theorem scanEscape (c : CodePoint) {next : CodePoint} {rest : PyStr}
    (free : isHigh c.val = true → NoLow (next :: rest)) :
    scanChar (asciiEscape c ++ next :: rest) = .ok (some c, next :: rest) := by
  have unit : ∀ unit more, scanChar (escapeUnit unit ++ more) =
      (unicodeEscape (hexText 4 unit ++ more)).map fun read => (some read.1, read.2) := fun _ _ => rfl
  unfold asciiEscape
  split
  · rename_i same
    rw [beq_iff_eq.mp same]
    rfl
  split
  · rename_i same
    rw [beq_iff_eq.mp same]
    rfl
  split
  · rename_i same
    rw [beq_iff_eq.mp same]
    rfl
  split
  · rename_i same
    rw [beq_iff_eq.mp same]
    rfl
  split
  · rename_i same
    rw [beq_iff_eq.mp same]
    rfl
  split
  · rename_i same
    rw [beq_iff_eq.mp same]
    rfl
  split
  · rename_i same
    rw [beq_iff_eq.mp same]
    rfl
  split
  · rename_i quote slash _ _ _ _ _ printable
    have visible : ¬ c.val < 0x20 := by omega
    rw [List.singleton_append, scanChar, if_neg quote, if_neg visible, if_neg slash]
  split
  · rename_i narrow
    rw [unit, unicodeRead narrow free, ofNat, dif_pos c.isLt]
    rfl
  · rename_i wide
    obtain ⟨high, low, joined⟩ := surrogatesOf (c := c) (by omega)
    rw [List.append_assoc, unit, pairRead high low, joined]
    rfl

theorem escapeFree {c : CodePoint} (single : isLow c.val = false) (next : CodePoint) (rest : PyStr) :
    NoLow (asciiEscape c ++ next :: rest) := by
  unfold asciiEscape
  split; · exact .inl rfl
  split; · exact .inl rfl
  split; · exact .inl rfl
  split; · exact .inl rfl
  split; · exact .inl rfl
  split; · exact .inl rfl
  split; · exact .inl rfl
  split
  · rename_i _ slash _ _ _ _ _ _
    have other : (0x5C == c) = false := beq_eq_false_iff_ne.mpr fun same => slash (by rw [← same]; rfl)
    refine .inl ?_
    rw [List.singleton_append]
    change (0x5C == c && _) = false
    rw [other, Bool.false_and]
  split
  · rename_i narrow
    refine .inr ⟨c.val, next :: rest, ?_, single⟩
    rw [escapeUnitText, List.drop_succ_cons, List.drop_succ_cons, List.drop_zero, hexUnitRead narrow]
  · rename_i wide
    obtain ⟨high, -, -⟩ := surrogatesOf (c := c) (by omega)
    simp only [isHigh, Bool.and_eq_true, decide_eq_true_eq] at high
    refine .inr ⟨0xD800 + (c.val - 0x10000) / 0x400, escapeUnit (0xDC00 + (c.val - 0x10000) % 0x400) ++ next :: rest, ?_, ?_⟩
    · rw [List.append_assoc, escapeUnitText, List.drop_succ_cons, List.drop_succ_cons, List.drop_zero]
      exact hexUnitRead (by omega) _ _
    · simp only [isLow, Bool.and_eq_false_iff, decide_eq_false_iff_not]
      omega

theorem scanEscapes {s : PyStr} (unpaired : Unpaired s) (fuel : Nat) (enough : s.length < fuel) (rest : PyStr) :
    scanString fuel (s.flatMap asciiEscape ++ 0x22 :: rest) = .ok (s, rest) := by
  induction s generalizing fuel with
  | nil =>
    obtain ⟨fuel, rfl⟩ : ∃ n, fuel = n + 1 := ⟨fuel - 1, by omega⟩
    rfl
  | cons c s ih =>
    obtain ⟨fuel, rfl⟩ : ∃ n, fuel = n + 1 := ⟨fuel - 1, by omega⟩
    have tail : Unpaired s := unpaired.tail
    have later := ih tail fuel (by simpa using enough)
    have free : isHigh c.val = true → NoLow (s.flatMap asciiEscape ++ 0x22 :: rest) := by
      intro high
      cases s with
      | nil => exact .inl rfl
      | cons d s =>
        have single : isLow d.val = false := by
          have apart := (List.isChain_cons_cons.mp unpaired).1
          rwa [high, Bool.true_and] at apart
        rw [List.flatMap_cons, List.append_assoc]
        cases more : s.flatMap asciiEscape ++ 0x22 :: rest with
        | nil => simp at more
        | cons next after => exact escapeFree single next after
    rw [List.flatMap_cons, List.append_assoc]
    cases more : s.flatMap asciiEscape ++ 0x22 :: rest with
    | nil => simp at more
    | cons next after =>
      rw [more] at later free
      rw [scanString, scanEscape c free]
      dsimp only
      rw [later]
      rfl

end Strings
section Values

theorem setMemberNew {members : List (PyStr × Json)} {name : PyStr} (fresh : name ∉ members.map Prod.fst) (value : Json) :
    setMember members name value = members ++ [(name, value)] := by
  induction members with
  | nil => rfl
  | cons member rest ih =>
    obtain ⟨other, later⟩ := not_or.mp (mt List.mem_cons.mpr fresh)
    rw [setMember, if_neg (Ne.symm other), ih later, List.cons_append]

theorem dictOfDistinct {members : List (PyStr × Json)} (distinct : (members.map Prod.fst).Nodup) :
    dictOf members = members := by
  induction members using List.reverseRecOn with
  | nil => rfl
  | append_singleton members last ih =>
    rw [List.map_append, List.nodup_append] at distinct
    obtain ⟨before, -, apart⟩ := distinct
    have fresh : last.1 ∉ members.map Prod.fst := fun there => apart _ there _ (List.mem_singleton_self _) rfl
    rw [dictOf, List.foldl_append, List.foldl_cons, List.foldl_nil, ← dictOf, ih before, setMemberNew fresh]

theorem escapeSome (c : CodePoint) : 1 ≤ (asciiEscape c).length := by
  unfold asciiEscape
  repeat' split
  all_goals simp [py, escapeUnit]

theorem escapesLength (s : PyStr) : s.length ≤ (s.flatMap asciiEscape).length := by
  induction s with
  | nil => exact Nat.le_refl 0
  | cons c s ih =>
    have one := escapeSome c
    rw [List.flatMap_cons, List.length_append, List.length_cons]
    omega

theorem dumpsStrText (s rest : PyStr) : dumpsStr s ++ rest = 0x22 :: (s.flatMap asciiEscape ++ 0x22 :: rest) := by
  have quote : py "\"" = [0x22] := rfl
  simp [dumpsStr, quote]

theorem dumpsStrLength (s : PyStr) : s.length + 2 ≤ (dumpsStr s).length := by
  have text := dumpsStrText s []
  rw [List.append_nil] at text
  rw [text, List.length_cons, List.length_append, List.length_singleton]
  have inside := escapesLength s
  omega

def Opens (text : PyStr) : Prop :=
  ∃ c rest, text = c :: rest ∧ isWhitespace c = false ∧ c ≠ 0x5D ∧ c ≠ 0x7D ∧ c ≠ 0xFEFF

theorem opensAppend {text : PyStr} (opens : Opens text) (more : PyStr) : Opens (text ++ more) := by
  obtain ⟨c, rest, rfl, plain⟩ := opens
  exact ⟨c, rest ++ more, rfl, plain⟩

theorem opensDigit {c : CodePoint} (digit : isDigit c = true ∨ c = 0x2D) (rest : PyStr) : Opens (c :: rest) := by
  refine ⟨c, rest, rfl, ?_⟩
  rcases digit with digit | rfl
  · have code : 0x30 ≤ c.val ∧ c.val ≤ 0x39 := by simpa [isDigit] using digit
    refine ⟨?_, ?_, ?_, ?_⟩
    · simp only [isWhitespace, Bool.or_eq_false_iff, beq_eq_false_iff_ne]
      refine ⟨⟨⟨?_, ?_⟩, ?_⟩, ?_⟩
      all_goals
        rintro rfl
        revert code
        decide
    all_goals
      rintro rfl
      revert code
      decide
  · decide

theorem skipNone {text : PyStr} (opens : Opens text) : skipWhitespace text = text := by
  obtain ⟨c, rest, rfl, plain, -⟩ := opens
  rw [skipWhitespace, List.dropWhile_cons, plain]
  rfl

theorem dumpsOpens {depth : Nat} {value : Json} (readable : Readable floats depth value) : Opens (dumps value) := by
  match value with
  | .null | .bool true | .bool false => exact ⟨_, _, rfl, by decide⟩
  | .int n =>
    obtain ⟨c, rest, text, first⟩ := intFirst n
    rw [dumps, text]
    exact opensDigit first rest
  | .float literal =>
    rw [Readable] at readable
    obtain ⟨d, rest, rfl, digit⟩ := floatFirst readable.2
    exact opensDigit (.inl digit) rest
  | .str s => exact ⟨_, _, (List.append_nil _).symm.trans (dumpsStrText s []), by decide⟩
  | .list items => exact ⟨0x5B, itemsText items ++ py "]", rfl, by decide⟩
  | .dict members => exact ⟨0x7B, membersText members ++ py "\x7d", rfl, by decide⟩

theorem scalarScan {c : CodePoint} (plain : c ≠ 0x22 ∧ c ≠ 0x7B ∧ c ≠ 0x5B) (fuel depth : Nat) (rest : PyStr) :
    scanValue (fuel + 1) depth (c :: rest) = scanScalar (c :: rest) := by
  obtain ⟨quote, brace, bracket⟩ := plain
  rw [scanValue.eq_def]
  dsimp only
  rw [beq_eq_false_iff_ne.mpr quote, beq_eq_false_iff_ne.mpr brace, beq_eq_false_iff_ne.mpr bracket,
    if_neg Bool.false_ne_true, if_neg Bool.false_ne_true, if_neg Bool.false_ne_true]

theorem numberPlain {c : CodePoint} (first : isDigit c = true ∨ c = 0x2D) : c ≠ 0x22 ∧ c ≠ 0x7B ∧ c ≠ 0x5B := by
  rcases first with digit | rfl
  · refine ⟨?_, ?_, ?_⟩
    all_goals
      rintro rfl
      cases digit
  · decide

theorem itemsOpen {depth : Nat} {value : Json} {items : List Json} (readable : ReadableItems floats depth (value :: items)) :
    Opens (itemsText (value :: items)) := by
  rw [ReadableItems] at readable
  cases items with
  | nil => exact dumpsOpens readable.1
  | cons next items =>
    rw [itemsText]
    exact opensAppend (opensAppend (dumpsOpens readable.1) _) _

theorem membersOpen (member : PyStr × Json) (members : List (PyStr × Json)) : Opens (membersText (member :: members)) := by
  obtain ⟨key, value⟩ := member
  have quoted : Opens (dumpsStr key) := ⟨_, _, (List.append_nil _).symm.trans (dumpsStrText key []), by decide⟩
  cases members with
  | nil => exact opensAppend (opensAppend quoted _) _
  | cons next members => exact opensAppend (opensAppend (opensAppend (opensAppend quoted _) _) _) _

mutual
theorem scanDumps {depth : Nat} {value : Json} (readable : Readable floats depth value) (rest : PyStr) (stops : Stops rest)
    (fuel : Nat) (enough : 2 * (dumps value).length + 1 ≤ fuel) :
    scanValue fuel depth (dumps value ++ rest) = .ok (value, rest) := by
  obtain ⟨fuel, rfl⟩ : ∃ n, fuel = n + 1 := ⟨fuel - 1, by omega⟩
  match depth, value with
  | _, .null | _, .bool true | _, .bool false =>
    exact scalarScan (by decide) fuel _ _
  | _, .int n =>
    rw [Readable] at readable
    rw [dumps]
    have read := intScan readable stops
    obtain ⟨c, more, text, first⟩ := intFirst n
    rw [text, List.cons_append] at read ⊢
    rw [scalarScan (numberPlain first), read]
  | _, .float literal =>
    rw [Readable] at readable
    rw [dumps]
    have read := floatScan readable.2 stops
    obtain ⟨d, more, rfl, digit⟩ := floatFirst readable.2
    rw [List.cons_append] at read ⊢
    rw [scalarScan (numberPlain (.inl digit)), read]
  | _, .str s =>
    rw [Readable] at readable
    rw [dumps] at enough ⊢
    have length := dumpsStrLength s
    rw [dumpsStrText, scanValue.eq_def]
    dsimp only
    rw [if_pos (by rfl), scanEscapes readable _ (by omega)]
    rfl
  | 0, .list _ | 0, .dict _ =>
    rw [Readable] at readable
    exact readable.elim
  | depth + 1, .list items =>
    rw [Readable] at readable
    rw [dumps, List.length_append, List.length_append] at enough
    have brackets : (py "[").length = 1 ∧ (py "]").length = 1 := ⟨rfl, rfl⟩
    have text : dumps (.list items) ++ rest = 0x5B :: (itemsText items ++ 0x5D :: rest) := by
      have open_ : py "[" = [0x5B] := rfl
      have close : py "]" = [0x5D] := rfl
      simp [dumps, open_, close]
    rw [text, scanValue.eq_def]
    dsimp only
    rw [if_neg (by decide), if_neg (by decide), if_pos (by rfl)]
    cases items with
    | nil => rfl
    | cons first more =>
      have opens := opensAppend (itemsOpen readable) (0x5D :: rest)
      have read := scanDumpsItems readable rest fuel (by omega)
      rw [skipNone opens]
      obtain ⟨c, tail, shape, -, other, -⟩ := opens
      rw [shape] at read ⊢
      dsimp only
      rw [beq_eq_false_iff_ne.mpr other, if_neg Bool.false_ne_true, read]
      rfl
  | depth + 1, .dict members =>
    rw [Readable] at readable
    rw [dumps, List.length_append, List.length_append] at enough
    have braces : (py "\x7b").length = 1 ∧ (py "\x7d").length = 1 := ⟨rfl, rfl⟩
    have text : dumps (.dict members) ++ rest = 0x7B :: (membersText members ++ 0x7D :: rest) := by
      have open_ : py "\x7b" = [0x7B] := rfl
      have close : py "\x7d" = [0x7D] := rfl
      simp [dumps, open_, close]
    rw [text, scanValue.eq_def]
    dsimp only
    rw [if_neg (by decide), if_pos (by rfl)]
    cases members with
    | nil => rfl
    | cons first more =>
      have opens := opensAppend (membersOpen first more) (0x7D :: rest)
      have read := scanDumpsMembers readable.2 rest fuel (by omega)
      rw [skipNone opens]
      obtain ⟨c, tail, shape, -, -, other, -⟩ := opens
      rw [shape] at read ⊢
      dsimp only
      rw [beq_eq_false_iff_ne.mpr other, if_neg Bool.false_ne_true, read]
      exact congrArg (fun ms => Except.ok (Json.dict ms, rest)) (dictOfDistinct readable.1)
termination_by fuel

theorem scanDumpsItems {depth : Nat} {value : Json} {items : List Json} (readable : ReadableItems floats depth (value :: items))
    (rest : PyStr) (fuel : Nat) (enough : 2 * (itemsText (value :: items)).length + 2 ≤ fuel) :
    scanItems fuel depth (itemsText (value :: items) ++ 0x5D :: rest) = .ok (value :: items, rest) := by
  obtain ⟨fuel, rfl⟩ : ∃ n, fuel = n + 1 := ⟨fuel - 1, by omega⟩
  rw [ReadableItems] at readable
  match items with
  | [] =>
    rw [itemsText] at enough ⊢
    have read := scanDumps readable.1 (0x5D :: rest) (fun c first => by cases first; decide) fuel (by omega)
    rw [scanItems, read]
    rfl
  | next :: items =>
    rw [itemsText, List.length_append, List.length_append] at enough
    have comma : (py ", ").length = 2 := rfl
    have text : itemsText (value :: next :: items) ++ 0x5D :: rest =
        dumps value ++ 0x2C :: 0x20 :: (itemsText (next :: items) ++ 0x5D :: rest) := by
      have separator : py ", " = [0x2C, 0x20] := rfl
      simp [itemsText, separator]
    have read := scanDumps readable.1 (0x2C :: 0x20 :: (itemsText (next :: items) ++ 0x5D :: rest))
      (fun c first => by cases first; decide) fuel (by omega)
    have later := scanDumpsItems readable.2 rest fuel (by omega)
    have skipped : skipWhitespace (0x20 :: (itemsText (next :: items) ++ 0x5D :: rest)) =
        itemsText (next :: items) ++ 0x5D :: rest := skipNone (opensAppend (itemsOpen readable.2) _)
    have here : skipWhitespace (0x2C :: 0x20 :: (itemsText (next :: items) ++ 0x5D :: rest)) =
        0x2C :: 0x20 :: (itemsText (next :: items) ++ 0x5D :: rest) := rfl
    rw [text, scanItems, read]
    dsimp only
    rw [here]
    dsimp only
    rw [if_neg (by decide), if_pos (by rfl), skipped, later]
    rfl
termination_by fuel

theorem scanDumpsMembers {depth : Nat} {member : PyStr × Json} {members : List (PyStr × Json)}
    (readable : ReadableMembers floats depth (member :: members)) (rest : PyStr) (fuel : Nat)
    (enough : 2 * (membersText (member :: members)).length + 2 ≤ fuel) :
    scanMembers fuel depth (membersText (member :: members) ++ 0x7D :: rest) = .ok (member :: members, rest) := by
  obtain ⟨fuel, rfl⟩ : ∃ n, fuel = n + 1 := ⟨fuel - 1, by omega⟩
  obtain ⟨key, value⟩ := member
  rw [ReadableMembers] at readable
  obtain ⟨unpaired, inside, others⟩ := readable
  have name := dumpsStrLength key
  have colon : (py ": ").length = 2 := rfl
  have after : ∀ more, skipWhitespace (0x3A :: 0x20 :: more) = 0x3A :: 0x20 :: more := fun _ => rfl
  have skipped : ∀ more, skipWhitespace (0x20 :: (dumps value ++ more)) = dumps value ++ more := fun more =>
    skipNone (opensAppend (dumpsOpens inside) more)
  match members with
  | [] =>
    rw [membersText, List.length_append, List.length_append] at enough
    have text : membersText [(key, value)] ++ 0x7D :: rest =
        0x22 :: (key.flatMap asciiEscape ++ 0x22 :: 0x3A :: 0x20 :: (dumps value ++ 0x7D :: rest)) := by
      have separator : py ": " = [0x3A, 0x20] := rfl
      simp [membersText, dumpsStrText, separator]
    have read := scanDumps inside (0x7D :: rest) (fun c first => by cases first; decide) fuel (by omega)
    rw [text, scanMembers.eq_def]
    dsimp only
    rw [if_pos (by rfl), scanEscapes unpaired _ (by omega)]
    dsimp only
    rw [after]
    dsimp only
    rw [if_pos (by rfl), skipped, read]
    rfl
  | next :: members =>
    rw [membersText, List.length_append, List.length_append, List.length_append, List.length_append] at enough
    have comma : (py ", ").length = 2 := rfl
    have text : membersText ((key, value) :: next :: members) ++ 0x7D :: rest =
        0x22 :: (key.flatMap asciiEscape ++ 0x22 :: 0x3A :: 0x20 ::
          (dumps value ++ 0x2C :: 0x20 :: (membersText (next :: members) ++ 0x7D :: rest))) := by
      have first : py ": " = [0x3A, 0x20] := rfl
      have second : py ", " = [0x2C, 0x20] := rfl
      simp [membersText, dumpsStrText, first, second]
    have read := scanDumps inside (0x2C :: 0x20 :: (membersText (next :: members) ++ 0x7D :: rest))
      (fun c first => by cases first; decide) fuel (by omega)
    have later := scanDumpsMembers others rest fuel (by omega)
    have here : skipWhitespace (0x2C :: 0x20 :: (membersText (next :: members) ++ 0x7D :: rest)) =
        0x2C :: 0x20 :: (membersText (next :: members) ++ 0x7D :: rest) := rfl
    have onward : skipWhitespace (0x20 :: (membersText (next :: members) ++ 0x7D :: rest)) =
        membersText (next :: members) ++ 0x7D :: rest := skipNone (opensAppend (membersOpen next members) _)
    rw [text, scanMembers.eq_def]
    dsimp only
    rw [if_pos (by rfl), scanEscapes unpaired _ (by omega)]
    dsimp only
    rw [after]
    dsimp only
    rw [if_pos (by rfl), skipped, read]
    dsimp only
    rw [here]
    dsimp only
    rw [if_neg (by decide), if_pos (by rfl), onward, later]
    rfl
termination_by fuel
end

/- `json.loads(json.dumps(value))` is the value. -/
theorem loadsDumps (python : Python) {value : Json} (readable : Readable floats python.loadsDepth value) :
    loads python (dumps value) = .ok value := by
  have opens := dumpsOpens readable
  have bom : (dumps value).head? ≠ some 0xFEFF := by
    obtain ⟨c, rest, text, -, -, -, other⟩ := opens
    rw [text]
    exact fun same => other (Option.some.inj same)
  have read := scanDumps readable [] (fun c none => by cases none) (2 * (dumps value).length + 2) (by omega)
  rw [List.append_nil] at read
  rw [loads, scanDocument, if_neg bom, skipNone opens, read]
  rfl

end Values

section Lines

theorem hexTextUnbroken (n : Nat) : Unbroken (hexText 4 n) := by
  have each : ∀ d < 16, isLineBreak (hexDigit d) = false := by decide
  intro c inside
  rw [hexText, List.mem_reverse, List.mem_map] at inside
  obtain ⟨i, -, rfl⟩ := inside
  have same : hexDigit (n / 16 ^ i) = hexDigit (n / 16 ^ i % 16) := by rw [hexDigit, hexDigit, Nat.mod_mod]
  rw [same, each _ (Nat.mod_lt _ (by decide))]

theorem escapeUnitUnbroken (unit : Nat) : Unbroken (escapeUnit unit) :=
  unbrokenAppend (by decide) (hexTextUnbroken unit)

theorem escapeUnbroken (c : CodePoint) : Unbroken (asciiEscape c) := by
  unfold asciiEscape
  split; · decide
  split; · decide
  split; · decide
  split; · decide
  split; · decide
  split; · decide
  split; · decide
  split
  · rename_i printable
    intro d only
    rw [List.mem_singleton.mp only]
    simp [isLineBreak]
    omega
  split
  · exact escapeUnitUnbroken _
  · exact unbrokenAppend (escapeUnitUnbroken _) (escapeUnitUnbroken _)

theorem dumpsStrUnbroken (s : PyStr) : Unbroken (dumpsStr s) := by
  refine unbrokenAppend (unbrokenAppend (by decide) fun c inside => ?_) (by decide)
  obtain ⟨d, -, inside⟩ := List.mem_flatMap.mp inside
  exact escapeUnbroken d c inside

theorem digitUnbroken {c : CodePoint} (digit : isDigit c = true) : isLineBreak c = false := by
  have code : 0x30 ≤ c.val ∧ c.val ≤ 0x39 := by simpa [isDigit] using digit
  simp [isLineBreak]
  omega

theorem digitsUnbroken (text : PyStr) : Unbroken (digits text).1 := fun _ inside =>
  digitUnbroken (List.mem_takeWhile_imp inside)

theorem intUnbroken (n : Int) : Unbroken (intText n) := by
  have decimal : ∀ m, Unbroken (decimalText m) := fun m c inside =>
    digitUnbroken (List.all_eq_true.mp (decimalDigits m) c inside)
  cases n with
  | ofNat m =>
    have text : intText (.ofNat m) = decimalText m := pyDecimal m
    rw [text]
    exact decimal m
  | negSucc m =>
    rw [intNegative]
    exact unbrokenAppend (by decide : Unbroken [0x2D]) (decimal _)

theorem fractionUnbroken (text : PyStr) : Unbroken (fraction text).1 := by
  have none : Unbroken [] := by decide
  unfold fraction
  split
  · split
    · rename_i dotted
      simp only [Bool.and_eq_true, beq_iff_eq] at dotted
      rw [dotted.1]
      exact unbrokenAppend (by decide : Unbroken [0x2E]) (digitsUnbroken _)
    · exact none
  · exact none

theorem exponentUnbroken (text : PyStr) : Unbroken (exponent text).1 := by
  have none : Unbroken [] := by decide
  unfold exponent
  split
  · rename_i e sign rest
    split
    · rename_i marked
      have mark : Unbroken [e] := by
        simp only [Bool.or_eq_true, beq_iff_eq] at marked
        rcases marked with rfl | rfl <;> decide
      split
      · exact unbrokenAppend mark (digitsUnbroken _)
      · split
        · rename_i signed
          have sign_ : Unbroken [sign] := by
            simp only [Bool.or_eq_true, beq_iff_eq] at signed
            rcases signed with rfl | rfl <;> decide
          split
          · exact unbrokenAppend (unbrokenAppend mark sign_) (digitsUnbroken _)
          · exact none
        · exact none
    · exact none
  · exact none

theorem integerUnbroken {text int after : PyStr} (read : integerPart text = some (int, after)) : Unbroken int := by
  unfold integerPart at read
  split at read
  · rename_i d rest
    split at read
    · rename_i zero
      cases read
      rw [beq_iff_eq.mp zero]
      decide
    · split at read
      · cases read
        exact digitsUnbroken (d :: rest)
      · cases read
  · cases read

theorem floatUnbroken {literal : PyStr} (readable : scanNumber false literal = .ok (.float literal, [])) :
    Unbroken literal := by
  unfold scanNumber at readable
  split at readable
  · cases readable
  · rename_i int after part
    dsimp only at readable
    split at readable
    · split at readable <;> cases readable
    · simp only [Except.ok.injEq, Prod.mk.injEq, Json.float.injEq] at readable
      rw [← readable.1]
      exact unbrokenAppend (unbrokenAppend (unbrokenAppend (by decide) (integerUnbroken part)) (fractionUnbroken _))
        (exponentUnbroken _)

mutual
theorem dumpsUnbroken {depth : Nat} {value : Json} (readable : Readable floats depth value) : Unbroken (dumps value) := by
  match depth, value with
  | _, .null | _, .bool true | _, .bool false =>
    rw [dumps]
    decide
  | _, .int n =>
    rw [dumps]
    exact intUnbroken n
  | _, .float literal =>
    rw [Readable] at readable
    rw [dumps]
    exact floatUnbroken readable.2
  | _, .str s =>
    rw [dumps]
    exact dumpsStrUnbroken s
  | 0, .list _ | 0, .dict _ =>
    rw [Readable] at readable
    exact readable.elim
  | depth + 1, .list items =>
    rw [Readable] at readable
    rw [dumps]
    exact unbrokenAppend (unbrokenAppend (by decide) (itemsUnbroken readable)) (by decide)
  | depth + 1, .dict members =>
    rw [Readable] at readable
    rw [dumps]
    exact unbrokenAppend (unbrokenAppend (by decide) (membersUnbroken readable.2)) (by decide)

theorem itemsUnbroken {depth : Nat} {items : List Json} (readable : ReadableItems floats depth items) :
    Unbroken (itemsText items) := by
  match items with
  | [] =>
    rw [itemsText]
    decide
  | [value] =>
    rw [ReadableItems] at readable
    rw [itemsText]
    exact dumpsUnbroken readable.1
  | value :: next :: rest =>
    rw [ReadableItems] at readable
    rw [itemsText]
    exact unbrokenAppend (unbrokenAppend (dumpsUnbroken readable.1) (by decide)) (itemsUnbroken readable.2)

theorem membersUnbroken {depth : Nat} {members : List (PyStr × Json)} (readable : ReadableMembers floats depth members) :
    Unbroken (membersText members) := by
  match members with
  | [] =>
    rw [membersText]
    decide
  | [(key, value)] =>
    rw [ReadableMembers] at readable
    rw [membersText]
    exact unbrokenAppend (unbrokenAppend (dumpsStrUnbroken key) (by decide)) (dumpsUnbroken readable.2.1)
  | (key, value) :: next :: rest =>
    rw [ReadableMembers] at readable
    rw [membersText]
    exact unbrokenAppend (unbrokenAppend (unbrokenAppend (unbrokenAppend (dumpsStrUnbroken key) (by decide))
      (dumpsUnbroken readable.2.1)) (by decide)) (membersUnbroken readable.2.2)
end

end Lines
end SentinelGpt
