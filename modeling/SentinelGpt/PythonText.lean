import Mathlib.Algebra.GroupWithZero.Nat
import Mathlib.Data.List.DropRight
import Mathlib.Data.List.Sort
import Mathlib.Tactic.Common

/-! Python text and JSON values. A Python string is a sequence of code points, lone
surrogates included; encoding it as UTF-8 fails exactly on those. -/
namespace SentinelGpt

abbrev CodePoint := Fin 0x110000

instance someCodePoint : NeZero 0x110000 := ⟨by decide⟩

abbrev PyStr := List CodePoint

def codePoint (c : Char) : CodePoint := ⟨c.toNat, by
  have valid := c.valid
  simp only [UInt32.isValidChar, Nat.isValidChar] at valid
  simp only [Char.toNat]
  omega⟩

def py (s : String) : PyStr := s.toList.map codePoint

def isSurrogate (c : CodePoint) : Bool := 0xD800 ≤ c.val && c.val ≤ 0xDFFF

/- `str.encode("utf-8")` raises UnicodeEncodeError otherwise. -/
def encodable (s : PyStr) : Bool := s.all fun c => !isSurrogate c

def utf8Width (c : CodePoint) : Nat :=
  if c.val < 0x80 then 1 else if c.val < 0x800 then 2 else if c.val < 0x10000 then 3 else 4

def utf8Length (s : PyStr) : Nat := (s.map utf8Width).sum

/-! `bytes.decode("utf-8", errors="replace")`: every maximal ill-formed part becomes one
U+FFFD. -/

abbrev Byte := Fin 256

def scalar (n : Nat) : CodePoint :=
  if h : n < 0x110000 ∧ ¬ (0xD800 ≤ n ∧ n ≤ 0xDFFF) then ⟨n, h.1⟩ else 0xFFFD

def within (low high : Nat) (b : Byte) : Bool := low ≤ b.val && b.val ≤ high

def secondOf (lead : Byte) : Byte → Bool :=
  if lead.val = 0xE0 then within 0xA0 0xBF
  else if lead.val = 0xED then within 0x80 0x9F
  else if lead.val = 0xF0 then within 0x90 0xBF
  else if lead.val = 0xF4 then within 0x80 0x8F
  else within 0x80 0xBF

def bits (b : Byte) : Nat := b.val % 64

def decodeOne (lead : Byte) (rest : List Byte) : CodePoint × Nat :=
  if lead.val < 0x80 then (scalar lead.val, 1)
  else if within 0xC2 0xDF lead then match rest with
    | b :: _ => if within 0x80 0xBF b then (scalar (lead.val % 32 * 64 + bits b), 2) else (0xFFFD, 1)
    | [] => (0xFFFD, 1)
  else if within 0xE0 0xEF lead then match rest with
    | b :: c :: _ =>
      if secondOf lead b then
        if within 0x80 0xBF c then (scalar (lead.val % 16 * 4096 + bits b * 64 + bits c), 3)
        else (0xFFFD, 2)
      else (0xFFFD, 1)
    | [b] => (0xFFFD, if secondOf lead b then 2 else 1)
    | [] => (0xFFFD, 1)
  else if within 0xF0 0xF4 lead then match rest with
    | b :: c :: d :: _ =>
      if secondOf lead b then
        if within 0x80 0xBF c then
          if within 0x80 0xBF d then
            (scalar (lead.val % 8 * 262144 + bits b * 4096 + bits c * 64 + bits d), 4)
          else (0xFFFD, 3)
        else (0xFFFD, 2)
      else (0xFFFD, 1)
    | [b, c] =>
      (0xFFFD, if secondOf lead b then if within 0x80 0xBF c then 3 else 2 else 1)
    | [b] => (0xFFFD, if secondOf lead b then 2 else 1)
    | [] => (0xFFFD, 1)
  else (0xFFFD, 1)

def decodeReplace (data : List Byte) : PyStr :=
  match data with
  | [] => []
  | lead :: rest =>
    (decodeOne lead rest).1 :: decodeReplace (rest.drop ((decodeOne lead rest).2 - 1))
termination_by data.length
decreasing_by simp only [List.length_drop, List.length_cons]; omega

/- `str.isspace` of one code point, the set `str.strip` removes. -/
def isSpace (c : CodePoint) : Bool :=
  (0x09 ≤ c.val && c.val ≤ 0x0D) || (0x1C ≤ c.val && c.val ≤ 0x20) || c.val == 0x85 ||
  c.val == 0xA0 || c.val == 0x1680 || (0x2000 ≤ c.val && c.val ≤ 0x200A) ||
  c.val == 0x2028 || c.val == 0x2029 || c.val == 0x202F || c.val == 0x205F || c.val == 0x3000

def strip (s : PyStr) : PyStr := ((s.dropWhile isSpace).reverse.dropWhile isSpace).reverse

/- `s.partition(c)`: what is before the first `c`, whether there is one, and the rest. -/
def partition (c : CodePoint) (s : PyStr) : PyStr × Bool × PyStr :=
  (s.takeWhile (· != c), s.contains c, (s.dropWhile (· != c)).drop 1)

/- The last part of `s.rpartition(c)`. -/
def afterLast (c : CodePoint) (s : PyStr) : PyStr :=
  (s.reverse.takeWhile (· != c)).reverse

def splitOn (c : CodePoint) : PyStr → List PyStr
  | [] => [[]]
  | a :: rest =>
    if a = c then [] :: splitOn c rest
    else match splitOn c rest with
      | [] => [[a]]
      | part :: parts => (a :: part) :: parts

def isLineBreak (c : CodePoint) : Bool :=
  (0x0A ≤ c.val && c.val ≤ 0x0D) || (0x1C ≤ c.val && c.val ≤ 0x1E) || c.val == 0x85 ||
  c.val == 0x2028 || c.val == 0x2029

/- `s.splitlines()`. -/
def splitlines : PyStr → List PyStr
  | [] => []
  | [a] => if isLineBreak a then [[]] else [[a]]
  | a :: b :: rest =>
    if a = 0x0D ∧ b = 0x0A then [] :: splitlines rest
    else if isLineBreak a then [] :: splitlines (b :: rest)
    else match splitlines (b :: rest) with
      | [] => [[a]]
      | line :: lines => (a :: line) :: lines

def rstrip (c : CodePoint) (s : PyStr) : PyStr := (s.reverse.dropWhile (· == c)).reverse

def join (sep : PyStr) (parts : List PyStr) : PyStr := List.intercalate sep parts

/- The order of Python's `sorted` on strings: by code point. -/
def leStr : PyStr → PyStr → Bool
  | [], _ => true
  | _ :: _, [] => false
  | a :: as, b :: bs => a.val < b.val || (a == b && leStr as bs)

/- The values `json.loads` builds. A float keeps its literal; the members of an object
have distinct names, the last of each kept. -/
inductive Json where
  | null
  | bool (value : Bool)
  | int (value : Int)
  | float (literal : PyStr)
  | str (value : PyStr)
  | list (items : List Json)
  | dict (members : List (PyStr × Json))
  deriving Repr

namespace Json

def get? : List (PyStr × Json) → PyStr → Option Json
  | [], _ => none
  | (k, v) :: rest, name => if k = name then some v else get? rest name

def asStr? : Json → Option PyStr
  | .str s => some s
  | _ => none

def text (s : String) : Json := .str (py s)

end Json

@[simp] theorem codePointVal (c : Char) : (codePoint c).val = c.toNat := rfl

theorem surrogateFalse {c : CodePoint} : isSurrogate c = false ↔ ¬ (0xD800 ≤ c.val ∧ c.val ≤ 0xDFFF) := by
  rw [isSurrogate, Bool.and_eq_false_iff, decide_eq_false_iff_not, decide_eq_false_iff_not]
  omega

theorem codePointScalar (c : Char) : isSurrogate (codePoint c) = false := by
  have valid := c.valid
  simp only [UInt32.isValidChar, Nat.isValidChar] at valid
  rw [surrogateFalse, codePointVal]
  simp only [Char.toNat]
  omega

theorem pyEncodable (s : String) : encodable (py s) = true := by
  simp only [encodable, py, List.all_eq_true, List.mem_map]
  rintro c ⟨a, -, rfl⟩
  simp [codePointScalar]

/- What the interpreter and its standard library give the program: the Unicode tables
behind `str.isprintable`, `str.isdigit`, the decimal digits with their values, `str.lower`,
`str.upper` and NFKC, the texts of floats and times, what `int()` makes of a float literal
(none for an infinity or NaN), SHA-256 (the hex digest of the UTF-8 bytes of a text), and how
deep `json.loads` and `str()` nest before RecursionError. -/
structure Python where
  isPrintable : CodePoint → Bool
  isDigit : CodePoint → Bool
  isDecimal : CodePoint → Bool
  decimalValue : CodePoint → Nat
  lower : PyStr → PyStr
  upper : PyStr → PyStr
  nfkc : PyStr → PyStr
  floatRepr : PyStr → PyStr
  isoformat : Nat → PyStr
  floatTrunc : PyStr → Option Int
  sha256 : PyStr → PyStr
  digestEncodable : ∀ s, encodable (sha256 s) = true
  loadsDepth : Nat
  reprDepth : Nat

abbrev Time := Nat

def asciiCase (first last : Nat) (shift : CodePoint → CodePoint) (s : PyStr) : PyStr :=
  s.map fun c => if first ≤ c.val ∧ c.val ≤ last then shift c else c

def lookupDigest (digests : List (PyStr × String)) (s : PyStr) : PyStr :=
  match digests.find? fun entry => entry.1 == s with
  | some entry => py entry.2
  | none => []

theorem lookupDigestEncodable (digests : List (PyStr × String)) (s : PyStr) :
    encodable (lookupDigest digests s) = true := by
  unfold lookupDigest
  split
  · exact pyEncodable _
  · rfl

/- CPython on ASCII texts and on unsigned literals without exponent, given the digests of the
texts that are hashed. -/
def Python.onAscii (digests : List (PyStr × String)) : Python where
  isPrintable c := 0x20 ≤ c.val && c.val < 0x7F
  isDigit c := 0x30 ≤ c.val && c.val ≤ 0x39
  isDecimal c := 0x30 ≤ c.val && c.val ≤ 0x39
  decimalValue c := c.val - 0x30
  lower := asciiCase 0x41 0x5A fun c => c + 0x20
  upper := asciiCase 0x61 0x7A fun c => c - 0x20
  nfkc s := s
  floatRepr literal := literal
  isoformat t := py ("1970-01-01T00:00:" ++ toString t ++ "+00:00")
  floatTrunc literal := some ((literal.takeWhile fun c => 0x30 ≤ c.val && c.val ≤ 0x39).foldl
    (fun (n : Int) c => n * 10 + (c.val - 0x30)) 0)
  sha256 := lookupDigest digests
  digestEncodable := lookupDigestEncodable digests
  loadsDepth := 10000
  reprDepth := 10000

/- `str.lower` and `str.upper` on ASCII texts. -/
structure AsciiCase (python : Python) : Prop where
  lower : ∀ s, s.all (fun c => c.val < 0x80) = true →
    python.lower s = asciiCase 0x41 0x5A (fun c => c + 0x20) s
  upper : ∀ s, s.all (fun c => c.val < 0x80) = true →
    python.upper s = asciiCase 0x61 0x7A (fun c => c - 0x20) s

/- The longest integer `int()` and `str()` convert: sys.int_info.default_max_str_digits. -/
def maxIntDigits : Nat := 4300

/- The exceptions the program raises or tells apart; `other` is any class not named here,
by its name. -/
inductive PyError where
  | valueError
  | unicodeEncodeError
  | jsonDecodeError (msg : PyStr)
  | recursionError
  | typeError
  | keyError
  | lookupError
  | assertionError
  | unsupportedFingerprintCategory
  | notFoundError
  | notAuthenticatedError
  | invalidScanStateError
  | attestationNotConfirmedError
  | scannerExecutionBlockedError
  | targetUnresolvedError
  | other (name : PyStr)
  deriving DecidableEq, Repr

def PyError.name : PyError → PyStr
  | .valueError => py "ValueError"
  | .unicodeEncodeError => py "UnicodeEncodeError"
  | .jsonDecodeError _ => py "JSONDecodeError"
  | .recursionError => py "RecursionError"
  | .typeError => py "TypeError"
  | .keyError => py "KeyError"
  | .lookupError => py "LookupError"
  | .assertionError => py "AssertionError"
  | .unsupportedFingerprintCategory => py "UnsupportedFingerprintCategory"
  | .notFoundError => py "NotFoundError"
  | .notAuthenticatedError => py "NotAuthenticatedError"
  | .invalidScanStateError => py "InvalidScanStateError"
  | .attestationNotConfirmedError => py "AttestationNotConfirmedError"
  | .scannerExecutionBlockedError => py "ScannerExecutionBlockedError"
  | .targetUnresolvedError => py "TargetUnresolvedError"
  | .other name => name

def PyError.isValueError : PyError → Bool
  | .valueError | .unicodeEncodeError | .jsonDecodeError _ => true
  | _ => false

def encode (text : PyStr) : Except PyError PyStr :=
  if encodable text then .ok text else .error .unicodeEncodeError

def hexdigest (python : Python) (text : PyStr) : Except PyError PyStr := do
  return python.sha256 (← encode text)

theorem bindOk {α β ε : Type} {x : Except ε α} {f : α → Except ε β} {b : β}
    (ok : (x >>= f) = .ok b) : ∃ a, x = .ok a ∧ f a = .ok b := by
  cases x with
  | error e => cases ok
  | ok a => exact ⟨a, rfl, ok⟩

theorem bindFails {α β ε : Type} {x : Except ε α} {f : α → Except ε β} {e : ε} (failed : (x >>= f) = .error e) :
    x = .error e ∨ ∃ a, x = .ok a ∧ f a = .error e := by
  cases x with
  | error e' =>
    cases failed
    exact .inl rfl
  | ok a => exact .inr ⟨a, rfl, failed⟩

theorem okOfIsOk {α ε : Type} {x : Except ε α} (ok : x.isOk = true) : ∃ a, x = .ok a := by
  cases x with
  | error _ => contradiction
  | ok a => exact ⟨a, rfl⟩

theorem bindIsOk {α β ε : Type} {x : Except ε α} {f : α → Except ε β} :
    (x >>= f).isOk = true ↔ ∃ a, x = .ok a ∧ (f a).isOk = true := by
  constructor
  · intro ok
    obtain ⟨b, returned⟩ := okOfIsOk ok
    obtain ⟨a, first, second⟩ := bindOk returned
    exact ⟨a, first, by rw [second]; rfl⟩
  · rintro ⟨a, rfl, ok⟩
    exact ok

theorem okOfToOption {α ε : Type} {x : Except ε α} {a : α} (returned : x.toOption = some a) :
    x = .ok a := by
  cases x with
  | error e => cases returned
  | ok b => exact congrArg Except.ok (Option.some.inj returned)

theorem mapMOk {α β γ ε : Type} {f : α → Except ε β} {g : β → γ} {h : α → γ}
    (each : ∀ a b, f a = .ok b → g b = h a) :
    ∀ {items : List α} {results : List β}, items.mapM f = .ok results →
      results.map g = items.map h
  | [], results, ok => by
    simp only [List.mapM_nil] at ok
    cases ok
    rfl
  | a :: rest, results, ok => by
    rw [List.mapM_cons] at ok
    obtain ⟨b, first, ok⟩ := bindOk ok
    obtain ⟨bs, others, ok⟩ := bindOk ok
    cases ok
    rw [List.map_cons, List.map_cons, each a b first, mapMOk each others]

theorem encodableAppend (s t : PyStr) : encodable (s ++ t) = (encodable s && encodable t) := by
  simp [encodable]

theorem encodableTake (n : Nat) {s : PyStr} (ok : encodable s = true) :
    encodable (s.take n) = true := by
  simp only [encodable, List.all_eq_true] at ok ⊢
  intro c member
  exact ok c (List.mem_of_mem_take member)

theorem encodableIntercalate (sep : PyStr) (parts : List PyStr) (sepOk : encodable sep = true) :
    encodable (join sep parts) = true ↔ ∀ part ∈ parts, encodable part = true := by
  induction parts with
  | nil => simp [join, encodable]
  | cons head tail ih =>
    cases tail with
    | nil => simp [join]
    | cons second rest =>
      have unfolded : join sep (head :: second :: rest) =
          head ++ (sep ++ join sep (second :: rest)) := by
        simp [join]
      rw [unfolded, encodableAppend, encodableAppend, Bool.and_eq_true, Bool.and_eq_true, ih]
      simp [sepOk]

theorem hexdigestOk (python : Python) {text : PyStr} (ok : encodable text = true) :
    hexdigest python text = .ok (python.sha256 text) := by
  simp [hexdigest, encode, ok]

theorem hexdigestError (python : Python) {text : PyStr} (bad : encodable text = false) :
    hexdigest python text = .error .unicodeEncodeError := by
  simp [hexdigest, encode, bad]

theorem leStrTotal (s t : PyStr) : leStr s t || leStr t s := by
  induction s generalizing t with
  | nil => simp [leStr]
  | cons a as ih =>
    cases t with
    | nil => simp [leStr]
    | cons b bs =>
      have rest := ih bs
      simp only [leStr, Bool.or_eq_true, decide_eq_true_eq, Bool.and_eq_true, beq_iff_eq] at rest ⊢
      rcases Nat.lt_trichotomy a.val b.val with less | same | more
      · exact .inl (.inl less)
      · have eq : a = b := Fin.ext same
        subst eq
        rcases rest with h | h
        · exact .inl (.inr ⟨rfl, h⟩)
        · exact .inr (.inr ⟨rfl, h⟩)
      · exact .inr (.inl more)

theorem leStrAntisymm {s t : PyStr} (le : leStr s t = true) (ge : leStr t s = true) : s = t := by
  induction s generalizing t with
  | nil =>
    cases t with
    | nil => rfl
    | cons b bs => cases ge
  | cons a as ih =>
    cases t with
    | nil => cases le
    | cons b bs =>
      simp only [leStr, Bool.or_eq_true, decide_eq_true_eq, Bool.and_eq_true, beq_iff_eq] at le ge
      rcases le with less | ⟨same, rest⟩
      · rcases ge with more | ⟨same, -⟩
        · omega
        · rw [same] at less
          omega
      · subst same
        rcases ge with more | ⟨-, back⟩
        · omega
        · rw [ih rest back]

theorem leStrTrans {s t u : PyStr} (first : leStr s t = true) (second : leStr t u = true) : leStr s u = true := by
  induction s generalizing t u with
  | nil => rfl
  | cons a as ih =>
    cases t with
    | nil => cases first
    | cons b bs =>
      cases u with
      | nil => cases second
      | cons c cs =>
        simp only [leStr, Bool.or_eq_true, decide_eq_true_eq, Bool.and_eq_true, beq_iff_eq] at first second ⊢
        rcases first with less | ⟨same, rest⟩
        · rcases second with less' | ⟨same', -⟩
          · exact .inl (by omega)
          · exact .inl (same' ▸ less)
        · subst same
          rcases second with less' | ⟨same', rest'⟩
          · exact .inl less'
          · exact .inr ⟨same', ih rest rest'⟩

theorem mapMIsOk {α β : Type} (f : α → Except PyError β) (items : List α) :
    (items.mapM f).isOk = items.all fun a => (f a).isOk := by
  induction items with
  | nil => rfl
  | cons a rest ih =>
    rw [List.mapM_cons, List.all_cons, ← ih]
    cases f a with
    | error _ => rfl
    | ok _ => cases rest.mapM f <;> rfl

theorem mapMSame {α β : Type} {f g : α → Except PyError β} {xs : List α}
    (same : ∀ x ∈ xs, f x = g x) : xs.mapM f = xs.mapM g := by
  induction xs with
  | nil => rfl
  | cons x xs ih =>
    rw [List.mapM_cons, List.mapM_cons, same x List.mem_cons_self,
      ih fun y member => same y (List.mem_cons_of_mem _ member)]

section Texts
variable {n v s t : PyStr} {c : CodePoint}

theorem takeUntil (free : c ∉ n) : (n ++ c :: v).takeWhile (· != c) = n := by
  have others : ∀ a ∈ n, (a != c) = true := fun a member =>
    bne_iff_ne.mpr fun same => free (same.symm ▸ member)
  rw [List.takeWhile_append_of_pos others]
  simp

theorem untilFree : c ∉ s.takeWhile (· != c) := by
  intro member
  simpa using List.mem_takeWhile_imp member

theorem splitAtFirst (member : c ∈ s) :
    ∃ rest, s = s.takeWhile (· != c) ++ c :: rest := by
  induction s with
  | nil => cases member
  | cons a s ih =>
    by_cases same : a = c
    · subst same
      exact ⟨s, by simp⟩
    · obtain ⟨rest, split⟩ := ih (by simpa [Ne.symm same] using member)
      refine ⟨rest, ?_⟩
      rw [List.takeWhile_cons_of_pos (by simpa using same), List.cons_append, ← split]

theorem dropSpaces (visible : isSpace c = false) :
    (n ++ c :: v).dropWhile isSpace = n.dropWhile isSpace ++ c :: v := by
  induction n with
  | nil => exact List.dropWhile_cons_of_neg (by simp [visible])
  | cons a n ih =>
    cases space : isSpace a with
    | true => simpa [List.dropWhile_cons, space] using ih
    | false => simp [space]

theorem afterLastOf {c : CodePoint} {last : PyStr} (front : PyStr) (free : c ∉ last) :
    afterLast c (front ++ c :: last) = last := by
  have kept : ∀ a ∈ last.reverse, (a != c) = true := fun a member =>
    bne_iff_ne.mpr fun same => free (same ▸ List.mem_reverse.mp member)
  rw [afterLast, List.reverse_append, List.reverse_cons, List.append_assoc, List.takeWhile_append_of_pos kept]
  simp

theorem afterLastWhole {c : CodePoint} {last : PyStr} (free : c ∉ last) : afterLast c last = last := by
  have kept : ∀ a ∈ last.reverse, (a != c) = true := fun a member =>
    bne_iff_ne.mpr fun same => free (same ▸ List.mem_reverse.mp member)
  rw [afterLast, List.takeWhile_eq_self_iff.mpr kept, List.reverse_reverse]

theorem stripAround (visible : isSpace c = false) :
    strip (n ++ c :: v) = n.dropWhile isSpace ++ c :: (v.reverse.dropWhile isSpace).reverse := by
  rw [strip, dropSpaces visible, List.reverse_append, List.reverse_cons, List.append_assoc,
    List.singleton_append, dropSpaces visible, List.reverse_append, List.reverse_cons,
    List.reverse_reverse, List.append_assoc, List.singleton_append]

theorem stripDropped : strip (n.dropWhile isSpace) = strip n := by
  rw [strip, strip, List.dropWhile_idempotent]

theorem memStrip (member : c ∈ strip s) : c ∈ s := by
  have inner := (List.dropWhile_sublist isSpace).mem (List.mem_reverse.mp member)
  exact (List.dropWhile_sublist isSpace).mem (List.mem_reverse.mp inner)

theorem splitHead : (splitOn c s).headD [] = s.takeWhile (· != c) := by
  induction s with
  | nil => rfl
  | cons a s ih =>
    by_cases same : a = c
    · simp [splitOn, same]
    · rw [splitOn, if_neg same, List.takeWhile_cons_of_pos (by simpa using same)]
      cases parts : splitOn c s with
      | nil => simp [parts, ← ih]
      | cons part parts => simpa [parts] using ih

theorem stripWord (word : ∀ a ∈ s, isSpace a = false) : strip s = s := by
  have front : s.dropWhile isSpace = s := by
    cases s with
    | nil => rfl
    | cons a s => exact List.dropWhile_cons_of_neg (by simp [word a List.mem_cons_self])
  have back : s.reverse.dropWhile isSpace = s.reverse := by
    cases reversed : s.reverse with
    | nil => rfl
    | cons a t =>
      have member : a ∈ s := List.mem_reverse.mp (reversed ▸ List.mem_cons_self)
      exact List.dropWhile_cons_of_neg (by simp [word a member])
  rw [strip, front, back, List.reverse_reverse]

end Texts

def Unbroken (text : PyStr) : Prop := ∀ c ∈ text, isLineBreak c = false

instance (text : PyStr) : Decidable (Unbroken text) := List.decidableBAll _ _

theorem unbrokenAppend {a b : PyStr} (first : Unbroken a) (second : Unbroken b) : Unbroken (a ++ b) := by
  intro c inside
  rcases List.mem_append.mp inside with front | back
  · exact first c front
  · exact second c back

theorem splitlinesLine {line rest : PyStr} (unbroken : Unbroken line) :
    splitlines (line ++ 0x0A :: rest) = line :: splitlines rest := by
  induction line with
  | nil =>
    cases rest with
    | nil => rfl
    | cons b rest =>
      rw [List.nil_append, splitlines, if_neg fun both => absurd both.1 (by decide), if_pos (by decide)]
  | cons a line ih =>
    obtain ⟨plain, others⟩ := List.forall_mem_cons.mp unbroken
    have later := ih others
    have carriage : a ≠ 0x0D := fun same => by
      subst same
      cases plain
    cases line with
    | nil =>
      rw [List.nil_append] at later
      rw [List.cons_append, List.nil_append, splitlines, if_neg fun both => carriage both.1,
        if_neg (Bool.eq_false_iff.mp plain), later]
    | cons b line =>
      rw [List.cons_append] at later
      rw [List.cons_append, List.cons_append, splitlines, if_neg fun both => carriage both.1,
        if_neg (Bool.eq_false_iff.mp plain), later]

end SentinelGpt
