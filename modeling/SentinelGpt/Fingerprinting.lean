import SentinelGpt.PythonText

/-! Deterministic cross-scan fingerprints of findings: SHA-256 over the host, the
canonical category and an identifier read out of the title or the location. -/
namespace SentinelGpt.Fingerprinting

def normalizeHostname (python : Python) (hostname : PyStr) : PyStr :=
  rstrip 0x2E (python.lower (strip hostname))

def normalizeHeaderName (python : Python) (raw : PyStr) : PyStr :=
  rstrip 0x3A (python.lower (strip raw))

/- Runs of slashes become one, which is where replacing "//" by "/" ends. -/
def collapseSlashes : PyStr → PyStr
  | [] => []
  | a :: rest => match collapseSlashes rest with
    | b :: tail => if a = 0x2F ∧ b = 0x2F then b :: tail else a :: b :: tail
    | [] => [a]

def normalizePath (python : Python) (path : PyStr) : PyStr :=
  let trimmed := rstrip 0x2F (collapseSlashes (python.lower (strip path)))
  if trimmed.isEmpty then py "/" else trimmed

def normalizeCveId (python : Python) (raw : PyStr) : PyStr := python.upper (strip raw)

def splitBlanks (s : PyStr) : List PyStr := (s.splitBy fun a b => isSpace a == isSpace b).filter
  fun part => !part.any isSpace

def normalizeGenericIdentifier (python : Python) (raw : PyStr) : PyStr :=
  join (py " ") (splitBlanks (python.lower (strip raw)))

/-! Patterns under `re.IGNORECASE`. Each takes the text it matches off the front; none
of the patterns needs to give back what a repetition took. -/

/- The code points a pattern's lower-case letter stands for: both cases, and the letters
Python counts as the same as `i`, `s` and `k`. -/
def sameLetter (letter c : CodePoint) : Bool :=
  c == letter ||
  (0x61 ≤ letter.val && letter.val ≤ 0x7A && c.val + 0x20 == letter.val) ||
  (letter == 0x69 && (c == 0x130 || c == 0x131)) || (letter == 0x73 && c == 0x17F) ||
  (letter == 0x6B && c == 0x212A)

def isLetter (c : CodePoint) : Bool :=
  (0x61 ≤ c.val && c.val ≤ 0x7A) || (0x41 ≤ c.val && c.val ≤ 0x5A) ||
  c == 0x130 || c == 0x131 || c == 0x17F || c == 0x212A

def isNameChar (c : CodePoint) : Bool :=
  isLetter c || (0x30 ≤ c.val && c.val ≤ 0x39) || c == 0x2D

def word : PyStr → PyStr → Option PyStr
  | [], text => some text
  | _ :: _, [] => none
  | letter :: letters, c :: text => if sameLetter letter c then word letters text else none

def blanks (text : PyStr) : Option PyStr :=
  if text.head?.any isSpace then some (text.dropWhile isSpace) else none

def search {α : Type} (pattern : PyStr → Option α) : PyStr → Option α
  | [] => pattern []
  | c :: rest => match pattern (c :: rest) with
    | some found => some found
    | none => search pattern rest

def phrase : List PyStr → PyStr → Option PyStr
  | [], text => some text
  | [last], text => word last text
  | first :: rest, text => do phrase rest (← blanks (← word first text))

/- `Missing\s+(?P<name>[A-Z][A-Za-z0-9-]+)\s+security\s+header`. -/
def headerTitle (text : PyStr) : Option PyStr := do
  let rest ← blanks (← word (py "missing") text)
  let name := rest.takeWhile isNameChar
  if name.length ≥ 2 ∧ name.head?.any isLetter then
    let _ ← phrase [py "security", py "header"] (← blanks (rest.drop name.length))
    some name
  else none

/- `Nonstandard\s+(X-Content-Type-Options)\s+value`. -/
def nonstandardXcto (text : PyStr) : Option PyStr := do
  let rest ← blanks (← word (py "nonstandard") text)
  let after ← word (py "x-content-type-options") rest
  let _ ← word (py "value") (← blanks after)
  some (rest.take (rest.length - after.length))

/- `Cookies?\s+without\s+the\s+(name)\s+attribute`. -/
def cookieWithout (name : PyStr) (text : PyStr) : Option PyStr := do
  let rest ← word (py "cookie") text
  let plural := if rest.head?.any (sameLetter 0x73) then rest.drop 1 else rest
  phrase [py "without", py "the", name, py "attribute"] (← blanks plural)

/- `(CVE-\d{4}-\d{4,})`. -/
def cveId (python : Python) (text : PyStr) : Option PyStr := do
  let rest ← word (py "cve-") text
  let year := rest.take 4
  let serial := (rest.drop 5).takeWhile python.isDecimal
  if year.length = 4 ∧ year.all python.isDecimal ∧ rest[4]? = some 0x2D ∧ serial.length ≥ 4 then
    some (text.take (9 + serial.length))
  else none

/- `exposed:\s*(\S+)`. -/
def exposedName (text : PyStr) : Option PyStr := do
  let rest ← word (py "exposed:") text
  let name := (rest.dropWhile isSpace).takeWhile fun c => !isSpace c
  if name.isEmpty then none else some name

def occurs (part : PyStr) (text : PyStr) : Bool :=
  (search (fun here => if part.isPrefixOf here then some () else none) text).isSome

def knownHeaders : List PyStr :=
  [py "strict-transport-security", py "x-content-type-options", py "x-frame-options",
   py "referrer-policy", py "permissions-policy"]

def extractSecurityHeaderIdentifier (python : Python) (title _location : PyStr) : Option PyStr :=
  match search headerTitle title with
  | some name => some (normalizeHeaderName python name)
  | none => match search nonstandardXcto title with
    | some name => some (normalizeHeaderName python name)
    | none => knownHeaders.find? fun known => occurs known (python.lower title)

def extractCookieIdentifier (python : Python) (title _location : PyStr) : Option PyStr :=
  if (search (cookieWithout (py "secure")) title).isSome then some (py "cookie_missing_secure")
  else if (search (cookieWithout (py "httponly")) title).isSome then
    some (py "cookie_missing_httponly")
  else if occurs (py "samesite") (python.lower title) then some (py "cookie_samesite_issue")
  else none

def extractTransportIdentifier (python : Python) (title _location : PyStr) : Option PyStr :=
  let lowered := python.lower title
  if occurs (py "hsts") lowered || occurs (py "https downgrade") lowered then
    some (py "transport_hsts_downgrade")
  else if occurs (py "tls") lowered || occurs (py "certificate") lowered then
    some (py "transport_tls")
  else some (py "transport_posture")

def extractServerInfoIdentifier (python : Python) (title _location : PyStr) : Option PyStr :=
  match search exposedName title with
  | some name => some (normalizeHeaderName python name)
  | none => some (py "server_info_disclosure")

def orNone (s : PyStr) : Option PyStr := if s.isEmpty then none else some s

def identifierExtractors (python : Python) : List (PyStr × (PyStr → PyStr → Option PyStr)) :=
  [(py "MISSING_SECURITY_HEADER", extractSecurityHeaderIdentifier python),
   (py "http.security-headers", extractSecurityHeaderIdentifier python),
   (py "http.cookies", extractCookieIdentifier python),
   (py "http.transport", extractTransportIdentifier python),
   (py "http.server-info", extractServerInfoIdentifier python),
   (py "KNOWN_CVE", fun title _ => (search (cveId python) title).map (normalizeCveId python)),
   (py "EXPOSED_ADMIN_PANEL", fun _ location =>
      if (strip location).isEmpty then none else some (normalizePath python location)),
   (py "OUTDATED_TLS", fun title _ => orNone (normalizeGenericIdentifier python title)),
   (py "WEAK_CIPHER", fun title _ => orNone (normalizeGenericIdentifier python title))]

def extractorFor (python : Python) (code : PyStr) : Option (PyStr → PyStr → Option PyStr) :=
  ((identifierExtractors python).find? fun entry => entry.1 == code).map Prod.snd

def extractIdentifier (python : Python) (categoryCode title location : PyStr) :
    Except PyError PyStr :=
  let extractor := (extractorFor python (python.upper (strip categoryCode))).or
    (extractorFor python (python.lower (strip categoryCode)))
  match extractor with
  | none => .error .unsupportedFingerprintCategory
  | some extract => match extract title location with
    | none => .error .unsupportedFingerprintCategory
    | some raw => if (strip raw).isEmpty then .error .unsupportedFingerprintCategory else .ok raw

def generateFingerprint (python : Python) (hostname categoryCode identifier : PyStr) :
    Except PyError PyStr :=
  let normalizedHost := normalizeHostname python hostname
  let normalizedCat := python.upper (strip categoryCode)
  let normalizedIdent := normalizeGenericIdentifier python identifier
  if normalizedHost.isEmpty || normalizedCat.isEmpty || normalizedIdent.isEmpty then
    .error .valueError
  else hexdigest python (normalizedHost ++ py "|" ++ normalizedCat ++ py "|" ++ normalizedIdent)

def generateFingerprintFromFinding (python : Python) (hostname categoryCode title location : PyStr) :
    Except PyError PyStr := do
  let identifier ← extractIdentifier python categoryCode title location
  generateFingerprint python hostname categoryCode identifier

end SentinelGpt.Fingerprinting
