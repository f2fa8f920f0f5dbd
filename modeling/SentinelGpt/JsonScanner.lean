import SentinelGpt.PythonText

/-! `json.loads` as CPython 3.12 computes it. The scanner recurses on a budget that its
text always leaves sufficient. -/
namespace SentinelGpt

inductive ScanError where
  | decode (msg : PyStr)
  | recursion
  | intDigits
  | outOfFuel
  deriving DecidableEq, Repr

namespace JsonScan

def expecting (what : String) : ScanError := .decode (py ("Expecting " ++ what))

def isWhitespace (c : CodePoint) : Bool := c == 0x20 || c == 0x09 || c == 0x0A || c == 0x0D

def skipWhitespace (text : PyStr) : PyStr := text.dropWhile isWhitespace

def isDigit (c : CodePoint) : Bool := 0x30 ≤ c.val && c.val ≤ 0x39

def hexValue (c : CodePoint) : Option Nat :=
  if 0x30 ≤ c.val ∧ c.val ≤ 0x39 then some (c.val - 0x30)
  else if 0x41 ≤ c.val ∧ c.val ≤ 0x46 then some (c.val - 0x37)
  else if 0x61 ≤ c.val ∧ c.val ≤ 0x66 then some (c.val - 0x57)
  else none

def hexUnit : PyStr → Option (Nat × PyStr)
  | a :: b :: c :: d :: next :: rest => do
    let unit := (((← hexValue a) * 16 + (← hexValue b)) * 16 + (← hexValue c)) * 16
    return (unit + (← hexValue d), next :: rest)
  | _ => none

def isHigh (unit : Nat) : Bool := 0xD800 ≤ unit && unit ≤ 0xDBFF

def isLow (unit : Nat) : Bool := 0xDC00 ≤ unit && unit ≤ 0xDFFF

def ofNat (n : Nat) : CodePoint := if h : n < 0x110000 then ⟨n, h⟩ else 0xFFFD

def joinSurrogates (high low : Nat) : CodePoint :=
  ofNat (0x10000 + (high - 0xD800) * 0x400 + (low - 0xDC00))

def escape? (c : CodePoint) : Option CodePoint :=
  if c == 0x22 || c == 0x5C || c == 0x2F then some c
  else if c == 0x62 then some 0x08
  else if c == 0x66 then some 0x0C
  else if c == 0x6E then some 0x0A
  else if c == 0x72 then some 0x0D
  else if c == 0x74 then some 0x09
  else none

def badUnicodeEscape : ScanError := .decode (py "Invalid \\uXXXX escape")

def unterminated : ScanError := .decode (py "Unterminated string starting at")

/- What follows `\u`. Two escapes that form a surrogate pair are one code point, and a
lone surrogate is kept. -/
def unicodeEscape (text : PyStr) : Except ScanError (CodePoint × PyStr) :=
  match hexUnit text with
  | none => .error badUnicodeEscape
  | some (unit, rest) =>
    if isHigh unit && (py "\\u").isPrefixOf rest && 6 < rest.length then
      match hexUnit (rest.drop 2) with
      | none => .error badUnicodeEscape
      | some (low, after) =>
        if isLow low then .ok (joinSurrogates unit low, after) else .ok (ofNat unit, rest)
    else .ok (ofNat unit, rest)

def escaped : PyStr → Except ScanError (CodePoint × PyStr)
  | [] => .error unterminated
  | e :: rest =>
    if e == 0x75 then unicodeEscape rest
    else match escape? e with
      | some c => .ok (c, rest)
      | none => .error (.decode (py "Invalid \\escape"))

def scanChar : PyStr → Except ScanError (Option CodePoint × PyStr)
  | [] => .error unterminated
  | c :: rest =>
    if c == 0x22 then .ok (none, rest)
    else if c.val < 0x20 then .error (.decode (py "Invalid control character at"))
    else if c == 0x5C then (escaped rest).map fun (c, after) => (some c, after)
    else .ok (some c, rest)

/- `scanstring` after the opening quote: what the string holds and what follows it. -/
def scanString : Nat → PyStr → Except ScanError (PyStr × PyStr)
  | 0, _ => .error .outOfFuel
  | fuel + 1, text =>
    match scanChar text with
    | .error e => .error e
    | .ok (none, rest) => .ok ([], rest)
    | .ok (some c, rest) => (scanString fuel rest).map fun (s, after) => (c :: s, after)

def digits (text : PyStr) : PyStr × PyStr := (text.takeWhile isDigit, text.dropWhile isDigit)

def digitsValue (ds : PyStr) : Nat := ds.foldl (fun n d => n * 10 + (d.val - 0x30)) 0

def fraction : PyStr → PyStr × PyStr
  | dot :: d :: rest =>
    if dot == 0x2E && isDigit d then (dot :: (digits (d :: rest)).1, (digits (d :: rest)).2)
    else ([], dot :: d :: rest)
  | text => ([], text)

/- The exponent of a number: `e` or `E`, perhaps a sign, and a digit. -/
def exponent : PyStr → PyStr × PyStr
  | e :: sign :: rest =>
    if e == 0x65 || e == 0x45 then
      if isDigit sign then (e :: (digits (sign :: rest)).1, (digits (sign :: rest)).2)
      else if sign == 0x2B || sign == 0x2D then
        if rest.head?.any isDigit then (e :: sign :: (digits rest).1, (digits rest).2)
        else ([], e :: sign :: rest)
      else ([], e :: sign :: rest)
    else ([], e :: sign :: rest)
  | text => ([], text)

def integerPart : PyStr → Option (PyStr × PyStr)
  | d :: rest =>
    if d == 0x30 then some ([d], rest)
    else if isDigit d then some (digits (d :: rest))
    else none
  | [] => none

/- `_match_number`: the text before it had its minus sign taken off. -/
def scanNumber (negative : Bool) (text : PyStr) : Except ScanError (Json × PyStr) :=
  match integerPart text with
  | none => .error (expecting "value")
  | some (int, rest) =>
    let (frac, rest) := fraction rest
    let (exp, rest) := exponent rest
    if frac.isEmpty && exp.isEmpty then
      if maxIntDigits < int.length then .error .intDigits
      else .ok (.int (if negative then - (digitsValue int : Int) else digitsValue int), rest)
    else .ok (.float ((if negative then [0x2D] else []) ++ int ++ frac ++ exp), rest)

def constants : List (PyStr × Json) :=
  [(py "null", .null), (py "true", .bool true), (py "false", .bool false),
   (py "NaN", .float (py "nan")), (py "Infinity", .float (py "inf")),
   (py "-Infinity", .float (py "-inf"))]

def scanScalar (text : PyStr) : Except ScanError (Json × PyStr) :=
  match constants.find? fun constant => constant.1.isPrefixOf text with
  | some (word, value) => .ok (value, text.drop word.length)
  | none => match text with
    | c :: rest => if c == 0x2D then scanNumber true rest else scanNumber false text
    | [] => .error (expecting "value")

/- `d[name] = value`: a name already there keeps its place. -/
def setMember : List (PyStr × Json) → PyStr → Json → List (PyStr × Json)
  | [], name, value => [(name, value)]
  | (k, v) :: rest, name, value =>
    if k = name then (k, value) :: rest else (k, v) :: setMember rest name value

def dictOf (members : List (PyStr × Json)) : List (PyStr × Json) :=
  members.foldl (fun d member => setMember d member.1 member.2) []

/- `scan_once` and the loops of `_parse_array` and `_parse_object`, `depth` being how many
containers may still be entered before RecursionError. -/
mutual
def scanValue : Nat → Nat → PyStr → Except ScanError (Json × PyStr)
  | 0, _, _ => .error .outOfFuel
  | _ + 1, _, [] => .error (expecting "value")
  | fuel + 1, depth, c :: rest =>
    if c == 0x22 then (scanString fuel rest).map fun (s, after) => (.str s, after)
    else if c == 0x7B then
      match depth with
      | 0 => .error .recursion
      | depth + 1 =>
        match skipWhitespace rest with
        | [] => scanMembers fuel depth [] |>.map fun (ms, after) => (.dict (dictOf ms), after)
        | c :: rest =>
          if c == 0x7D then .ok (.dict [], rest)
          else scanMembers fuel depth (c :: rest) |>.map fun (ms, after) =>
            (.dict (dictOf ms), after)
    else if c == 0x5B then
      match depth with
      | 0 => .error .recursion
      | depth + 1 =>
        match skipWhitespace rest with
        | [] => scanItems fuel depth [] |>.map fun (vs, after) => (.list vs, after)
        | c :: rest =>
          if c == 0x5D then .ok (.list [], rest)
          else scanItems fuel depth (c :: rest) |>.map fun (vs, after) => (.list vs, after)
    else scanScalar (c :: rest)

def scanItems : Nat → Nat → PyStr → Except ScanError (List Json × PyStr)
  | 0, _, _ => .error .outOfFuel
  | fuel + 1, depth, text =>
    match scanValue fuel depth text with
    | .error e => .error e
    | .ok (value, rest) =>
      match skipWhitespace rest with
      | [] => .error (expecting "',' delimiter")
      | c :: rest =>
        if c == 0x5D then .ok ([value], rest)
        else if c == 0x2C then
          (scanItems fuel depth (skipWhitespace rest)).map fun (vs, after) => (value :: vs, after)
        else .error (expecting "',' delimiter")

def scanMembers : Nat → Nat → PyStr → Except ScanError (List (PyStr × Json) × PyStr)
  | 0, _, _ => .error .outOfFuel
  | _ + 1, _, [] => .error (expecting "property name enclosed in double quotes")
  | fuel + 1, depth, c :: rest =>
    if c == 0x22 then
      match scanString fuel rest with
      | .error e => .error e
      | .ok (key, rest) =>
        match skipWhitespace rest with
        | [] => .error (expecting "':' delimiter")
        | c :: rest =>
          if c == 0x3A then
            match scanValue fuel depth (skipWhitespace rest) with
            | .error e => .error e
            | .ok (value, rest) =>
              match skipWhitespace rest with
              | [] => .error (expecting "',' delimiter")
              | c :: rest =>
                if c == 0x7D then .ok ([(key, value)], rest)
                else if c == 0x2C then
                  (scanMembers fuel depth (skipWhitespace rest)).map fun (ms, after) =>
                    ((key, value) :: ms, after)
                else .error (expecting "',' delimiter")
          else .error (expecting "':' delimiter")
    else .error (expecting "property name enclosed in double quotes")
end

/-! Every scanner consumes text, so its budget is never used up. -/

theorem exceptMapOk {ε α β : Type} {x : Except ε α} {f : α → β} {y : β} :
    x.map f = .ok y ↔ ∃ a, x = .ok a ∧ f a = y := by
  cases x <;> simp [Except.map]

theorem exceptMapError {ε α β : Type} {x : Except ε α} {f : α → β} {e : ε} :
    x.map f = .error e ↔ x = .error e := by
  cases x <;> simp [Except.map]

theorem hexUnitShorter {text rest : PyStr} {unit : Nat} (ok : hexUnit text = some (unit, rest)) :
    rest.length + 4 = text.length := by
  unfold hexUnit at ok
  split at ok
  · simp only [Option.bind_eq_bind, Option.bind_eq_some_iff, Option.pure_def, Option.some.injEq,
      Prod.mk.injEq] at ok
    obtain ⟨_, _, _, _, _, _, _, _, _, rfl⟩ := ok
    rfl
  · contradiction

theorem unicodeEscapeShorter {text rest : PyStr} {c : CodePoint}
    (ok : unicodeEscape text = .ok (c, rest)) : rest.length < text.length := by
  unfold unicodeEscape at ok
  split at ok
  · contradiction
  · rename_i unit after read
    have first := hexUnitShorter read
    split at ok
    · split at ok
      · contradiction
      · rename_i low last readLow
        have second := hexUnitShorter readLow
        rw [List.length_drop] at second
        split at ok <;>
        · simp only [Except.ok.injEq, Prod.mk.injEq] at ok
          obtain ⟨-, rfl⟩ := ok
          omega
    · simp only [Except.ok.injEq, Prod.mk.injEq] at ok
      obtain ⟨-, rfl⟩ := ok
      omega

theorem scanCharShorter {text rest : PyStr} {c : Option CodePoint}
    (ok : scanChar text = .ok (c, rest)) : rest.length < text.length := by
  unfold scanChar at ok
  split at ok
  · contradiction
  · rename_i c' after
    split at ok
    · cases ok; simp
    · split at ok
      · contradiction
      · split at ok
        · simp only [exceptMapOk, Prod.exists, Prod.mk.injEq] at ok
          obtain ⟨d, rest', escapedOk, -, rfl⟩ := ok
          unfold escaped at escapedOk
          split at escapedOk
          · contradiction
          · split at escapedOk
            · have := unicodeEscapeShorter escapedOk
              simp only [List.length_cons]
              omega
            · split at escapedOk
              · cases escapedOk
                simp only [List.length_cons]
                omega
              · contradiction
        · cases ok; simp

theorem scanStringShorter {fuel : Nat} {text s rest : PyStr}
    (ok : scanString fuel text = .ok (s, rest)) : rest.length < text.length := by
  induction fuel generalizing text s rest with
  | zero => contradiction
  | succ fuel ih =>
    unfold scanString at ok
    split at ok
    · contradiction
    · rename_i read
      cases ok
      exact scanCharShorter read
    · rename_i read
      simp only [exceptMapOk, Prod.exists, Prod.mk.injEq] at ok
      obtain ⟨s', rest', scanned, -, rfl⟩ := ok
      have := ih scanned
      have := scanCharShorter read
      omega

theorem unicodeEscapeError {text : PyStr} {e : ScanError} (bad : unicodeEscape text = .error e) :
    ∃ msg, e = .decode msg := by
  unfold unicodeEscape at bad
  split at bad
  · cases bad; exact ⟨_, rfl⟩
  · split at bad
    · split at bad
      · cases bad; exact ⟨_, rfl⟩
      · split at bad <;> contradiction
    · contradiction

theorem scanCharError {text : PyStr} {e : ScanError} (bad : scanChar text = .error e) :
    ∃ msg, e = .decode msg := by
  unfold scanChar at bad
  split at bad
  · cases bad; exact ⟨_, rfl⟩
  · split at bad
    · contradiction
    · split at bad
      · cases bad; exact ⟨_, rfl⟩
      · split at bad
        · rw [exceptMapError] at bad
          unfold escaped at bad
          split at bad
          · cases bad; exact ⟨_, rfl⟩
          · split at bad
            · exact unicodeEscapeError bad
            · split at bad
              · contradiction
              · cases bad; exact ⟨_, rfl⟩
        · contradiction

theorem scanStringFuel {fuel : Nat} {text : PyStr} (enough : text.length < fuel) :
    scanString fuel text ≠ .error .outOfFuel := by
  induction fuel generalizing text with
  | zero => omega
  | succ fuel ih =>
    unfold scanString
    split
    · rename_i e read
      obtain ⟨msg, rfl⟩ := scanCharError read
      simp
    · simp
    · rename_i read
      have := scanCharShorter read
      rw [Ne, exceptMapError]
      exact ih (by omega)

theorem dropWhileShorter (p : CodePoint → Bool) (text : PyStr) :
    (text.dropWhile p).length ≤ text.length :=
  (List.dropWhile_suffix p).length_le

theorem skipWhitespaceShorter (text : PyStr) : (skipWhitespace text).length ≤ text.length :=
  dropWhileShorter _ _

theorem fractionShorter (text : PyStr) : (fraction text).2.length ≤ text.length := by
  unfold fraction
  split
  · split
    · have := dropWhileShorter isDigit
      simp only [digits]
      grind
    · simp
  · simp

theorem exponentShorter (text : PyStr) : (exponent text).2.length ≤ text.length := by
  have shorter := dropWhileShorter isDigit
  unfold exponent
  simp only [digits]
  split
  · rename_i e sign rest
    have all := shorter (sign :: rest)
    have tail := shorter rest
    simp only [List.length_cons] at all ⊢
    split
    · split
      · simp only; omega
      · split
        · split <;> simp only [List.length_cons] <;> omega
        · simp
    · simp
  · simp

theorem integerPartShorter {text int rest : PyStr} (ok : integerPart text = some (int, rest)) :
    rest.length < text.length := by
  unfold integerPart at ok
  split at ok
  · rename_i d after
    split at ok
    · cases ok; simp
    · split at ok
      · rename_i digit
        cases ok
        have := dropWhileShorter isDigit after
        simp only [List.dropWhile_cons, digit, if_true, List.length_cons]
        omega
      · contradiction
  · contradiction

theorem scanNumberShorter {negative : Bool} {text rest : PyStr} {value : Json}
    (ok : scanNumber negative text = .ok (value, rest)) : rest.length < text.length := by
  unfold scanNumber at ok
  split at ok
  · contradiction
  · rename_i int after read
    have first := integerPartShorter read
    have second := fractionShorter after
    have third := exponentShorter (fraction after).2
    simp only at ok
    split at ok
    · split at ok
      · contradiction
      · simp only [Except.ok.injEq, Prod.mk.injEq] at ok
        obtain ⟨-, rfl⟩ := ok
        omega
    · simp only [Except.ok.injEq, Prod.mk.injEq] at ok
      obtain ⟨-, rfl⟩ := ok
      omega

theorem scanNumberFuel (negative : Bool) (text : PyStr) :
    scanNumber negative text ≠ .error .outOfFuel := by
  unfold scanNumber
  split
  · simp [expecting]
  · simp only
    split
    · split <;> simp
    · simp

theorem dropPrefixShorter {word text : PyStr} (front : word.isPrefixOf text = true)
    (nonempty : 0 < word.length) : (text.drop word.length).length < text.length := by
  have := (List.isPrefixOf_iff_prefix.mp front).length_le
  rw [List.length_drop]
  omega

theorem scanScalarShorter {text rest : PyStr} {value : Json}
    (ok : scanScalar text = .ok (value, rest)) : rest.length < text.length := by
  unfold scanScalar at ok
  split at ok
  · rename_i word value' found
    cases ok
    have front := List.find?_some found
    have nonempty : ∀ constant ∈ constants, 0 < constant.1.length := by decide
    exact dropPrefixShorter front (nonempty _ (List.mem_of_find?_eq_some found))
  · split at ok
    · split at ok
      · have := scanNumberShorter ok
        simp only [List.length_cons]
        omega
      · exact scanNumberShorter ok
    · contradiction

theorem scanScalarFuel (text : PyStr) : scanScalar text ≠ .error .outOfFuel := by
  unfold scanScalar
  split
  · simp
  · split
    · split <;> exact scanNumberFuel _ _
    · simp [expecting]

theorem scansShorter (fuel : Nat) :
    (∀ depth text value rest, scanValue fuel depth text = .ok (value, rest) →
      rest.length < text.length) ∧
    (∀ depth text values rest, scanItems fuel depth text = .ok (values, rest) →
      rest.length < text.length) ∧
    (∀ depth text members rest, scanMembers fuel depth text = .ok (members, rest) →
      rest.length < text.length) := by
  induction fuel with
  | zero => exact ⟨by simp [scanValue], by simp [scanItems], by simp [scanMembers]⟩
  | succ fuel ih =>
    obtain ⟨values, items, members⟩ := ih
    refine ⟨?_, ?_, ?_⟩
    · intro depth text value rest ok
      cases text with
      | nil => simp [scanValue] at ok
      | cons c after =>
        rw [scanValue.eq_def] at ok
        simp only at ok
        have white := skipWhitespaceShorter after
        split at ok
        · simp only [exceptMapOk, Prod.exists, Prod.mk.injEq] at ok
          obtain ⟨s, rest', scanned, -, rfl⟩ := ok
          have := scanStringShorter scanned
          simp only [List.length_cons]
          omega
        split at ok
        · split at ok
          · contradiction
          · split at ok
            · simp only [exceptMapOk, Prod.exists, Prod.mk.injEq] at ok
              obtain ⟨ms, rest', scanned, -, rfl⟩ := ok
              have := members _ _ _ _ scanned
              simp at this
            · rename_i c' after' here
              rw [here, List.length_cons] at white
              split at ok
              · cases ok
                simp only [List.length_cons]
                omega
              · simp only [exceptMapOk, Prod.exists, Prod.mk.injEq] at ok
                obtain ⟨ms, rest', scanned, -, rfl⟩ := ok
                have := members _ _ _ _ scanned
                simp only [List.length_cons] at this ⊢
                omega
        split at ok
        · split at ok
          · contradiction
          · split at ok
            · simp only [exceptMapOk, Prod.exists, Prod.mk.injEq] at ok
              obtain ⟨vs, rest', scanned, -, rfl⟩ := ok
              have := items _ _ _ _ scanned
              simp at this
            · rename_i c' after' here
              rw [here, List.length_cons] at white
              split at ok
              · cases ok
                simp only [List.length_cons]
                omega
              · simp only [exceptMapOk, Prod.exists, Prod.mk.injEq] at ok
                obtain ⟨vs, rest', scanned, -, rfl⟩ := ok
                have := items _ _ _ _ scanned
                simp only [List.length_cons] at this ⊢
                omega
        · exact scanScalarShorter ok
    · intro depth text vs rest ok
      unfold scanItems at ok
      split at ok
      · contradiction
      · rename_i value after scanned
        have first := values _ _ _ _ scanned
        have white := skipWhitespaceShorter after
        split at ok
        · contradiction
        · rename_i c after' here
          rw [here, List.length_cons] at white
          split at ok
          · cases ok
            omega
          · split at ok
            · simp only [exceptMapOk, Prod.exists, Prod.mk.injEq] at ok
              obtain ⟨vs', rest', more, -, rfl⟩ := ok
              have := items _ _ _ _ more
              have := skipWhitespaceShorter after'
              omega
            · contradiction
    · intro depth text ms rest ok
      cases text with
      | nil => simp [scanMembers] at ok
      | cons c after =>
        rw [scanMembers.eq_def] at ok
        simp only at ok
        split at ok
        · split at ok
          · contradiction
          · rename_i key after₁ scanned
            have one := scanStringShorter scanned
            have white₁ := skipWhitespaceShorter after₁
            split at ok
            · contradiction
            · rename_i c₂ after₂ here₂
              rw [here₂, List.length_cons] at white₁
              have white₂ := skipWhitespaceShorter after₂
              split at ok
              · split at ok
                · contradiction
                · rename_i value after₃ scanned₃
                  have three := values _ _ _ _ scanned₃
                  have white₃ := skipWhitespaceShorter after₃
                  split at ok
                  · contradiction
                  · rename_i c₄ after₄ here₄
                    rw [here₄, List.length_cons] at white₃
                    split at ok
                    · cases ok
                      simp only [List.length_cons]
                      omega
                    · split at ok
                      · simp only [exceptMapOk, Prod.exists, Prod.mk.injEq] at ok
                        obtain ⟨ms', rest', more, -, rfl⟩ := ok
                        have := members _ _ _ _ more
                        have := skipWhitespaceShorter after₄
                        simp only [List.length_cons]
                        omega
                      · contradiction
              · contradiction
        · contradiction

theorem scansFuel (fuel : Nat) :
    (∀ depth text, 2 * text.length + 1 ≤ fuel → scanValue fuel depth text ≠ .error .outOfFuel) ∧
    (∀ depth text, 2 * text.length + 2 ≤ fuel → scanItems fuel depth text ≠ .error .outOfFuel) ∧
    (∀ depth text, 2 * text.length + 2 ≤ fuel →
      scanMembers fuel depth text ≠ .error .outOfFuel) := by
  induction fuel with
  | zero => exact ⟨by omega, by omega, by omega⟩
  | succ fuel ih =>
    obtain ⟨values, items, members⟩ := ih
    have shorter := scansShorter fuel
    refine ⟨?_, ?_, ?_⟩
    · intro depth text enough
      cases text with
      | nil => simp [scanValue, expecting]
      | cons c after =>
        rw [List.length_cons] at enough
        have white := skipWhitespaceShorter after
        rw [scanValue.eq_def]
        simp only
        split
        · rw [Ne, exceptMapError]
          exact scanStringFuel (by omega)
        split
        · split
          · simp
          · split
            · rw [Ne, exceptMapError]
              exact members _ _ (by simp only [List.length_nil]; omega)
            · rename_i here
              rw [here, List.length_cons] at white
              split
              · simp
              · rw [Ne, exceptMapError]
                exact members _ _ (by simp only [List.length_cons]; omega)
        split
        · split
          · simp
          · split
            · rw [Ne, exceptMapError]
              exact items _ _ (by simp only [List.length_nil]; omega)
            · rename_i here
              rw [here, List.length_cons] at white
              split
              · simp
              · rw [Ne, exceptMapError]
                exact items _ _ (by simp only [List.length_cons]; omega)
        · exact scanScalarFuel _
    · intro depth text enough
      unfold scanItems
      split
      · rename_i e failed
        intro same
        cases same
        exact values _ _ (by omega) failed
      · rename_i value after scanned
        have first := shorter.1 _ _ _ _ scanned
        have white := skipWhitespaceShorter after
        split
        · simp [expecting]
        · rename_i c after' here
          rw [here, List.length_cons] at white
          split
          · simp
          · split
            · have := skipWhitespaceShorter after'
              rw [Ne, exceptMapError]
              exact items _ _ (by omega)
            · simp [expecting]
    · intro depth text enough
      cases text with
      | nil => simp [scanMembers, expecting]
      | cons c after =>
        rw [List.length_cons] at enough
        rw [scanMembers.eq_def]
        simp only
        split
        · split
          · rename_i e failed
            intro same
            cases same
            exact scanStringFuel (by omega) failed
          · rename_i key after₁ scanned
            have one := scanStringShorter scanned
            have white₁ := skipWhitespaceShorter after₁
            split
            · simp [expecting]
            · rename_i c₂ after₂ here₂
              rw [here₂, List.length_cons] at white₁
              have white₂ := skipWhitespaceShorter after₂
              split
              · split
                · rename_i e failed
                  intro same
                  cases same
                  exact values _ _ (by omega) failed
                · rename_i value after₃ scanned₃
                  have three := shorter.1 _ _ _ _ scanned₃
                  have white₃ := skipWhitespaceShorter after₃
                  split
                  · simp [expecting]
                  · rename_i c₄ after₄ here₄
                    rw [here₄, List.length_cons] at white₃
                    split
                    · simp
                    · split
                      · have := skipWhitespaceShorter after₄
                        rw [Ne, exceptMapError]
                        exact members _ _ (by omega)
                      · simp [expecting]
              · simp [expecting]
        · simp [expecting]

end JsonScan

open JsonScan in
def scanDocument (depth : Nat) (text : PyStr) : Except ScanError Json :=
  if text.head? = some 0xFEFF then
    .error (.decode (py "Unexpected UTF-8 BOM (decode using utf-8-sig)"))
  else match scanValue (2 * text.length + 2) depth (skipWhitespace text) with
    | .error e => .error e
    | .ok (value, rest) =>
      if (skipWhitespace rest).isEmpty then .ok value else .error (.decode (py "Extra data"))

def loads (python : Python) (text : PyStr) : Except PyError Json :=
  match scanDocument python.loadsDepth text with
  | .ok value => .ok value
  | .error (.decode msg) => .error (.jsonDecodeError msg)
  | .error .recursion => .error .recursionError
  | .error .intDigits => .error .valueError
  | .error .outOfFuel => .error .assertionError

theorem loadsHasFuel (depth : Nat) (text : PyStr) :
    scanDocument depth text ≠ .error .outOfFuel := by
  unfold scanDocument
  split
  · simp
  · have white := JsonScan.skipWhitespaceShorter text
    have fueled := (JsonScan.scansFuel (2 * text.length + 2)).1 depth
      (JsonScan.skipWhitespace text) (by omega)
    split
    · rename_i e failed
      intro same
      cases same
      exact fueled failed
    · split <;> simp

end SentinelGpt
