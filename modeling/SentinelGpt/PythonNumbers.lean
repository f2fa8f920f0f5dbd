import SentinelGpt.JsonScanner

/-! `int()` and `float()` of texts. -/
namespace SentinelGpt
open JsonScan

/- The blanks around a number; the information separators are not among them. -/
def isNumberSpace (c : CodePoint) : Bool := isSpace c && !(0x1C ≤ c.val && c.val ≤ 0x1F)

def stripNumber (text : PyStr) : PyStr :=
  ((text.dropWhile isNumberSpace).reverse.dropWhile isNumberSpace).reverse

def groupedDigits (value : CodePoint → Option Nat) : PyStr → Option (List Nat)
  | [] => none
  | [c] => (value c).map ([·])
  | c :: d :: rest => do
    let first ← value c
    if d == 0x5F then return first :: (← groupedDigits value rest)
    else return first :: (← groupedDigits value (d :: rest))

def positional (base : Nat) (ds : List Nat) : Nat := ds.foldl (fun n d => n * base + d) 0

def decimalDigit (python : Python) (c : CodePoint) : Option Nat :=
  if isDigit c then some (c.val - 0x30)
  else if 127 < c.val && python.isDecimal c then some (python.decimalValue c)
  else none

def signed : PyStr → Bool × PyStr
  | [] => (false, [])
  | c :: rest => if c == 0x2D then (true, rest) else if c == 0x2B then (false, rest) else (false, c :: rest)

/- `int(text)`; `none` is its ValueError. -/
def intOfText (python : Python) (text : PyStr) : Option Int :=
  let (negative, body) := signed (stripNumber text)
  match groupedDigits (decimalDigit python) body with
  | some ds =>
    if ds.length ≤ maxIntDigits then
      some (if negative then - (positional 10 ds : Int) else positional 10 ds)
    else none
  | none => none

/- `int(text, 16)` of a text that begins with `0x`, without decimal digits outside ASCII; an
underscore may follow the prefix. -/
def hexInt (text : PyStr) : Option Nat :=
  let body := (stripNumber text).drop 2
  (groupedDigits hexValue (if body.head? == some 0x5F then body.drop 1 else body)).map (positional 16)

def ungrouped (afterDigit : Bool) : PyStr → Option PyStr
  | [] => some []
  | c :: rest =>
    if c == 0x5F then
      if afterDigit && rest.head?.any isDigit then ungrouped false rest else none
    else do return c :: (← ungrouped (isDigit c) rest)

def exponentReads : PyStr → Bool
  | [] => true
  | e :: rest => (e == 0x65 || e == 0x45) && !(signed rest).2.isEmpty && (signed rest).2.all isDigit

def floatConstants : List PyStr := [py "inf", py "infinity", py "nan"]

def floatBodyReads (body : PyStr) : Bool :=
  let whole := body.takeWhile isDigit
  let rest := body.dropWhile isDigit
  let point := rest.head? == some 0x2E
  let fraction := if point then (rest.drop 1).takeWhile isDigit else []
  let rest := if point then (rest.drop 1).dropWhile isDigit else rest
  floatConstants.contains (asciiCase 0x41 0x5A (fun c => c + 0x20) body) ||
    ((!whole.isEmpty || !fraction.isEmpty) && exponentReads rest)

/- Whether `float(text)` is a number, and no ValueError. -/
def floatReads (python : Python) (text : PyStr) : Bool :=
  let ascii := (stripNumber text).map fun c =>
    match decimalDigit python c with
    | some d => JsonScan.ofNat (0x30 + d)
    | none => c
  match ungrouped false ascii with
  | some number => floatBodyReads (signed number).2
  | none => false

end SentinelGpt
