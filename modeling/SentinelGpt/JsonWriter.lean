import SentinelGpt.JsonScanner

/-! The texts of JSON values: `json.dumps` as `dumps_stable` calls it, and `str()`. -/
namespace SentinelGpt

/-! `dumps_stable`: keys sorted, no blanks, everything outside ASCII escaped. -/

def hexDigit (n : Nat) : CodePoint :=
  if n % 16 < 10 then JsonScan.ofNat (0x30 + n % 16) else JsonScan.ofNat (0x57 + n % 16)

def hexText (width n : Nat) : PyStr :=
  ((List.range width).map fun i => hexDigit (n / 16 ^ i)).reverse

def uuidText (id : Nat) : PyStr :=
  let digits := hexText 32 id
  join (py "-") [digits.take 8, (digits.drop 8).take 4, (digits.drop 12).take 4, (digits.drop 16).take 4,
    digits.drop 20]

def escapeUnit (unit : Nat) : PyStr := py "\\u" ++ hexText 4 unit

def asciiEscape (c : CodePoint) : PyStr :=
  if c == 0x22 then py "\\\""
  else if c == 0x5C then py "\\\\"
  else if c == 0x0A then py "\\n"
  else if c == 0x0D then py "\\r"
  else if c == 0x09 then py "\\t"
  else if c == 0x0C then py "\\f"
  else if c == 0x08 then py "\\b"
  else if 0x20 ≤ c.val ∧ c.val ≤ 0x7E then [c]
  else if c.val < 0x10000 then escapeUnit c.val
  else escapeUnit (0xD800 + (c.val - 0x10000) / 0x400) ++
    escapeUnit (0xDC00 + (c.val - 0x10000) % 0x400)

def dumpsStr (s : PyStr) : PyStr := py "\"" ++ s.flatMap asciiEscape ++ py "\""

def intText (n : Int) : PyStr := py (toString n)

def byKey (a b : PyStr × PyStr) : Prop := leStr a.1 b.1

instance : DecidableRel byKey := fun a b => inferInstanceAs (Decidable (leStr a.1 b.1 = true))

def memberText (member : PyStr × PyStr) : PyStr := dumpsStr member.1 ++ py ":" ++ member.2

/- The documents the program writes hold no floats; their literals stand as they are. -/
mutual
def dumpsStable : Json → PyStr
  | .null => py "null"
  | .bool true => py "true"
  | .bool false => py "false"
  | .int n => intText n
  | .float literal => literal.flatMap asciiEscape
  | .str s => dumpsStr s
  | .list items => py "[" ++ join (py ",") (dumpsItems items) ++ py "]"
  | .dict members =>
    py "\x7b" ++ join (py ",") (((dumpsMembers members).insertionSort byKey).map memberText) ++ py "\x7d"

def dumpsItems : List Json → List PyStr
  | [] => []
  | value :: rest => dumpsStable value :: dumpsItems rest

def dumpsMembers : List (PyStr × Json) → List (PyStr × PyStr)
  | [] => []
  | (key, value) :: rest => (key, dumpsStable value) :: dumpsMembers rest
end

def dumpsObject (members : List (PyStr × Json)) : PyStr :=
  py "\x7b" ++ join (py ",") ((dumpsMembers members).map memberText) ++ py "\x7d"

/-! `str()` of a JSON value. -/

def reprEscape (python : Python) (quote c : CodePoint) : PyStr :=
  if c == quote || c == 0x5C then [0x5C, c]
  else if c == 0x09 then py "\\t"
  else if c == 0x0A then py "\\n"
  else if c == 0x0D then py "\\r"
  else if c.val < 0x20 || c.val == 0x7F then py "\\x" ++ hexText 2 c.val
  else if c.val < 0x7F || python.isPrintable c then [c]
  else if c.val ≤ 0xFF then py "\\x" ++ hexText 2 c.val
  else if c.val ≤ 0xFFFF then py "\\u" ++ hexText 4 c.val
  else py "\\U" ++ hexText 8 c.val

def reprStr (python : Python) (s : PyStr) : PyStr :=
  let quote : CodePoint := if s.contains 0x27 && !s.contains 0x22 then 0x22 else 0x27
  quote :: s.flatMap (reprEscape python quote) ++ [quote]

def shortInt (n : Int) : Bool := n.natAbs < 10 ^ maxIntDigits

/- `repr(value)`, with `depth` calls left before RecursionError. -/
mutual
def reprJson (python : Python) : Nat → Json → Except PyError PyStr
  | 0, _ => .error .recursionError
  | _ + 1, .null => .ok (py "None")
  | _ + 1, .bool true => .ok (py "True")
  | _ + 1, .bool false => .ok (py "False")
  | _ + 1, .int n => if shortInt n then .ok (intText n) else .error .valueError
  | _ + 1, .float literal => .ok (python.floatRepr literal)
  | _ + 1, .str s => .ok (reprStr python s)
  | depth + 1, .list items => do
    return py "[" ++ join (py ", ") (← reprItems python depth items) ++ py "]"
  | depth + 1, .dict members => do
    return py "\x7b" ++ join (py ", ") (← reprMembers python depth members) ++ py "\x7d"

def reprItems (python : Python) : Nat → List Json → Except PyError (List PyStr)
  | _, [] => .ok []
  | depth, value :: rest => do
    return (← reprJson python depth value) :: (← reprItems python depth rest)

def reprMembers (python : Python) : Nat → List (PyStr × Json) → Except PyError (List PyStr)
  | _, [] => .ok []
  | depth, (key, value) :: rest => do
    return (reprStr python key ++ py ": " ++ (← reprJson python depth value)) ::
      (← reprMembers python depth rest)
end

def strJson (python : Python) : Json → Except PyError PyStr
  | .str s => .ok s
  | value => reprJson python python.reprDepth value

/- The values whose `repr` is a text: nested no deeper than `depth`, every integer short. -/
mutual
def reprable : Nat → Json → Bool
  | 0, _ => false
  | _ + 1, .int n => shortInt n
  | depth + 1, .list items => reprableItems depth items
  | depth + 1, .dict members => reprableMembers depth members
  | _ + 1, _ => true

def reprableItems : Nat → List Json → Bool
  | _, [] => true
  | depth, value :: rest => reprable depth value && reprableItems depth rest

def reprableMembers : Nat → List (PyStr × Json) → Bool
  | _, [] => true
  | depth, (_, value) :: rest => reprable depth value && reprableMembers depth rest
end

mutual
theorem reprIsOk (python : Python) (depth : Nat) (value : Json) :
    (reprJson python depth value).isOk = reprable depth value := by
  match depth, value with
  | 0, _ => rw [reprJson, reprable]; rfl
  | _ + 1, .null => rfl
  | _ + 1, .bool true => rfl
  | _ + 1, .bool false => rfl
  | _ + 1, .int n =>
    rw [reprJson, reprable]
    cases shortInt n <;> rfl
  | _ + 1, .float _ => rfl
  | _ + 1, .str _ => rfl
  | depth + 1, .list items =>
    have inside := reprItemsIsOk python depth items
    rw [reprJson, reprable, ← inside]
    cases reprItems python depth items <;> rfl
  | depth + 1, .dict members =>
    have inside := reprMembersIsOk python depth members
    rw [reprJson, reprable, ← inside]
    cases reprMembers python depth members <;> rfl

theorem reprItemsIsOk (python : Python) (depth : Nat) (items : List Json) :
    (reprItems python depth items).isOk = reprableItems depth items := by
  match items with
  | [] => rfl
  | value :: rest =>
    have head := reprIsOk python depth value
    have tail := reprItemsIsOk python depth rest
    rw [reprItems, reprableItems, ← head, ← tail]
    cases reprJson python depth value <;> cases reprItems python depth rest <;> rfl

theorem reprMembersIsOk (python : Python) (depth : Nat) (members : List (PyStr × Json)) :
    (reprMembers python depth members).isOk = reprableMembers depth members := by
  match members with
  | [] => rfl
  | (_, value) :: rest =>
    have head := reprIsOk python depth value
    have tail := reprMembersIsOk python depth rest
    rw [reprMembers, reprableMembers, ← head, ← tail]
    cases reprJson python depth value <;> cases reprMembers python depth rest <;> rfl
end

/- `str(value)` is a text, and does not raise. -/
def strable (python : Python) : Json → Bool
  | .str _ => true
  | value => reprable python.reprDepth value

theorem strIsOk (python : Python) (value : Json) :
    (strJson python value).isOk = strable python value := by
  unfold strJson strable
  split
  · rfl
  · exact reprIsOk python _ _

/-! What `dumps_stable` writes holds no surrogate, so that encoding it never fails. -/

theorem encodableFlatMap {s : PyStr} {f : CodePoint → PyStr}
    (ok : ∀ c, encodable (f c) = true) : encodable (s.flatMap f) = true := by
  simp only [encodable, List.all_eq_true, List.mem_flatMap] at ok ⊢
  rintro c ⟨a, -, inside⟩
  exact ok a c inside

theorem smallEncodable {c : CodePoint} (small : c.val < 0x80) : isSurrogate c = false := by
  rw [surrogateFalse]
  omega

theorem ofNatVal {n : Nat} (small : n < 0x110000) : (JsonScan.ofNat n).val = n := by
  simp [JsonScan.ofNat, small]

theorem hexDigitSmall (n : Nat) : (hexDigit n).val < 0x80 := by
  unfold hexDigit
  split <;> rw [ofNatVal (by omega)] <;> omega

theorem hexTextEncodable (width n : Nat) : encodable (hexText width n) = true := by
  simp only [hexText, encodable, List.all_reverse, List.all_map, List.all_eq_true]
  intro i _
  simp only [Function.comp, smallEncodable (hexDigitSmall _), Bool.not_false]

theorem escapeUnitEncodable (unit : Nat) : encodable (escapeUnit unit) = true := by
  rw [escapeUnit, encodableAppend, pyEncodable, hexTextEncodable]
  rfl

theorem asciiEscapeEncodable (c : CodePoint) : encodable (asciiEscape c) = true := by
  unfold asciiEscape
  split; · exact pyEncodable _
  split; · exact pyEncodable _
  split; · exact pyEncodable _
  split; · exact pyEncodable _
  split; · exact pyEncodable _
  split; · exact pyEncodable _
  split; · exact pyEncodable _
  split
  · have plain : isSurrogate c = false := smallEncodable (by omega)
    simp [encodable, plain]
  split
  · exact escapeUnitEncodable _
  · rw [encodableAppend, escapeUnitEncodable, escapeUnitEncodable]
    rfl

theorem dumpsStrEncodable (s : PyStr) : encodable (dumpsStr s) = true := by
  rw [dumpsStr, encodableAppend, encodableAppend, encodableFlatMap asciiEscapeEncodable,
    pyEncodable]
  rfl

theorem bracketsEncodable (opening closing : String) {parts : List PyStr}
    (ok : ∀ part ∈ parts, encodable part = true) :
    encodable (py opening ++ join (py ",") parts ++ py closing) = true := by
  rw [encodableAppend, encodableAppend, (encodableIntercalate _ _ (pyEncodable ",")).mpr ok,
    pyEncodable, pyEncodable]
  rfl

mutual
theorem dumpsEncodable (value : Json) : encodable (dumpsStable value) = true := by
  match value with
  | .null => exact pyEncodable _
  | .bool true => exact pyEncodable _
  | .bool false => exact pyEncodable _
  | .int n => exact pyEncodable _
  | .float literal => exact encodableFlatMap asciiEscapeEncodable
  | .str s => exact dumpsStrEncodable s
  | .list items =>
    rw [dumpsStable]
    exact bracketsEncodable _ _ (dumpsItemsEncodable items)
  | .dict members =>
    have values := dumpsMembersEncodable members
    rw [dumpsStable]
    refine bracketsEncodable _ _ fun part member => ?_
    obtain ⟨pair, inside, rfl⟩ := List.mem_map.mp member
    rw [memberText, encodableAppend, encodableAppend, dumpsStrEncodable, pyEncodable,
      values pair ((List.mem_insertionSort _).mp inside)]
    rfl

theorem dumpsItemsEncodable (items : List Json) :
    ∀ part ∈ dumpsItems items, encodable part = true := by
  match items with
  | [] => simp [dumpsItems]
  | value :: rest =>
    have head := dumpsEncodable value
    have tail := dumpsItemsEncodable rest
    intro part member
    rw [dumpsItems, List.mem_cons] at member
    rcases member with rfl | inside
    · exact head
    · exact tail part inside

theorem dumpsMembersEncodable (members : List (PyStr × Json)) :
    ∀ pair ∈ dumpsMembers members, encodable pair.2 = true := by
  match members with
  | [] => simp [dumpsMembers]
  | (key, value) :: rest =>
    have head := dumpsEncodable value
    have tail := dumpsMembersEncodable rest
    intro pair member
    rw [dumpsMembers, List.mem_cons] at member
    rcases member with rfl | inside
    · exact head
    · exact tail pair inside
end

end SentinelGpt
