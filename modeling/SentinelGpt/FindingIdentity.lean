import SentinelGpt.ScanTasks
import SentinelGpt.HttpEngine
import Mathlib.Data.List.Nodup

/-! The identities of what the HTTP engine finds: which findings are stored with a
fingerprint, and that no two of them share it. -/
namespace SentinelGpt
open HttpAnalysis Fingerprinting

def identifiable (python : Python) (hostname : PyStr) : Bool :=
  !(normalizeHostname python hostname).isEmpty && encodable (normalizeHostname python hostname)

def preimage (python : Python) (hostname category identifier : PyStr) : PyStr :=
  normalizeHostname python hostname ++ py "|" ++ category ++ py "|" ++ identifier

def identityDigest (python : Python) (hostname category identifier : PyStr) : Option PyStr :=
  if identifiable python hostname then
    some (python.sha256 (preimage python hostname category identifier))
  else none

section
variable {python : Python}

theorem safeIsOption (hostname category title location : PyStr) :
    safeFingerprint python hostname category title location =
      (generateFingerprintFromFinding python hostname category title location).toOption := by
  unfold safeFingerprint
  split <;> simp_all [Except.toOption]

theorem generated {hostname category identifier normalized : PyStr}
    (upper : python.upper (strip category) = category)
    (reads : normalizeGenericIdentifier python identifier = normalized)
    (categoryOk : category.isEmpty = false ∧ encodable category = true)
    (normalizedOk : normalized.isEmpty = false ∧ encodable normalized = true) :
    (generateFingerprint python hostname category identifier).toOption =
      identityDigest python hostname category normalized := by
  unfold generateFingerprint identityDigest
  simp only [upper, reads, categoryOk.1, normalizedOk.1, Bool.or_false]
  cases empty : (normalizeHostname python hostname).isEmpty with
  | true => simp [identifiable, empty, Except.toOption]
  | false =>
    have bar : encodable (py "|") = true := pyEncodable "|"
    have whole : encodable (preimage python hostname category normalized) =
        encodable (normalizeHostname python hostname) := by
      simp only [preimage, encodableAppend, bar, categoryOk.2, normalizedOk.2, Bool.and_true]
    simp only [identifiable, empty, Bool.not_false, Bool.true_and, Bool.false_eq_true, if_false]
    cases text : encodable (normalizeHostname python hostname) with
    | true =>
      have digest := hexdigestOk python (whole.trans text)
      rw [preimage] at digest
      rw [digest, if_pos rfl, preimage]
      rfl
    | false =>
      have digest := hexdigestError python (whole.trans text)
      rw [preimage] at digest
      rw [digest, if_neg (by simp)]
      rfl

theorem fingerprinted {hostname category title location : PyStr}
    {extract : PyStr → PyStr → Option PyStr}
    (extractor : extractorFor python category = some extract)
    (upper : python.upper (strip category) = category) :
    safeFingerprint python hostname category title location =
      match extract title location with
      | none => none
      | some raw => if (strip raw).isEmpty then none
        else (generateFingerprint python hostname category raw).toOption := by
  rw [safeIsOption, generateFingerprintFromFinding, extractIdentifier, upper, extractor]
  simp only [Option.some_or]
  cases extract title location with
  | none => rfl
  | some raw =>
    simp only
    split <;> rfl

def headerCode : PyStr := py "MISSING_SECURITY_HEADER"
def cipherCode : PyStr := py "WEAK_CIPHER"
def noResponse : PyStr := py "no http response obtained"

theorem canonicalHeaders : canonicalCategoryCode python categoryHeaders = headerCode ∧
    canonicalCategoryCode python categoryCookies = headerCode ∧
    canonicalCategoryCode python categoryTransport = cipherCode := ⟨rfl, rfl, rfl⟩

def plain (s : PyStr) : Bool := s.all fun c => c.val < 0x80

def lowered (s : PyStr) : PyStr := asciiCase 0x41 0x5A (fun c => c + 0x20) s

def Canonical (s : PyStr) : Prop :=
  plain (strip s) = true ∧ join (py " ") (splitBlanks (lowered (strip s))) = s ∧
    s.isEmpty = false ∧ (strip s).isEmpty = false ∧ encodable s = true

instance (s : PyStr) : Decidable (Canonical s) := inferInstanceAs (Decidable (_ ∧ _ ∧ _ ∧ _ ∧ _))

variable (ascii : AsciiCase python)
include ascii

theorem canonicalReads {s : PyStr} (canonical : Canonical s) :
    normalizeGenericIdentifier python s = s := by
  rw [normalizeGenericIdentifier, ascii.lower _ canonical.1]
  exact canonical.2.1

theorem upperCodes : python.upper (strip headerCode) = headerCode ∧
    python.upper (strip cipherCode) = cipherCode := by
  constructor
  all_goals
    rw [ascii.upper _ (by decide +kernel)]
    decide +kernel

theorem headerFingerprint {hostname title location identifier : PyStr}
    (canonical : Canonical identifier)
    (extracted : extractSecurityHeaderIdentifier python title location = some identifier) :
    safeFingerprint python hostname headerCode title location =
      identityDigest python hostname headerCode identifier := by
  have upper := (upperCodes ascii).1
  have extractor : extractorFor python headerCode = some (extractSecurityHeaderIdentifier python) := rfl
  rw [fingerprinted extractor upper, extracted]
  simp only [canonical.2.2.2.1, Bool.false_eq_true, if_false]
  exact generated upper (canonicalReads ascii canonical) (by decide +kernel)
    ⟨canonical.2.2.1, canonical.2.2.2.2⟩

theorem headerUnidentified {hostname title location : PyStr}
    (unread : extractSecurityHeaderIdentifier python title location = none) :
    safeFingerprint python hostname headerCode title location = none := by
  have extractor : extractorFor python headerCode = some (extractSecurityHeaderIdentifier python) := rfl
  rw [fingerprinted extractor (upperCodes ascii).1, unread]

theorem normalizedHeader {name : PyStr} (text : plain (strip name) = true) :
    normalizeHeaderName python name = rstrip 0x3A (lowered (strip name)) := by
  rw [normalizeHeaderName, ascii.lower _ text]
  rfl

theorem missingExtracted {header : SecurityHeader} (known : header ∈ securityHeaders)
    (location : PyStr) : Canonical header.lowered ∧
      extractSecurityHeaderIdentifier python
        (py "Missing " ++ header.display ++ py " security header") location = some header.lowered := by
  have each : ∀ h ∈ securityHeaders, Canonical h.lowered ∧
      search headerTitle (py "Missing " ++ h.display ++ py " security header") = some h.display ∧
      plain (strip h.display) = true ∧ rstrip 0x3A (lowered (strip h.display)) = h.lowered := by
    decide +kernel
  obtain ⟨canonical, found, text, reads⟩ := each header known
  refine ⟨canonical, ?_⟩
  simp only [extractSecurityHeaderIdentifier, found, normalizedHeader ascii text, reads]

theorem nonstandardExtracted {header : SecurityHeader} (known : header ∈ securityHeaders)
    (options : header.lowered = contentTypeOptions) (location : PyStr) :
    extractSecurityHeaderIdentifier python (py "Nonstandard " ++ header.display ++ py " value")
      location = some header.lowered := by
  have each : ∀ h ∈ securityHeaders, h.lowered = contentTypeOptions →
      search headerTitle (py "Nonstandard " ++ h.display ++ py " value") = none ∧
      search nonstandardXcto (py "Nonstandard " ++ h.display ++ py " value") = some h.display ∧
      plain (strip h.display) = true ∧ rstrip 0x3A (lowered (strip h.display)) = h.lowered := by
    decide +kernel
  obtain ⟨missing, found, text, reads⟩ := each header known options
  simp only [extractSecurityHeaderIdentifier, missing, found, normalizedHeader ascii text, reads]

def allCookieTitles : List PyStr :=
  [py "Cookies without the Secure attribute", py "Cookies without the HttpOnly attribute",
   py "SameSite attribute missing or invalid"]

theorem cookieUnread {title : PyStr} (known : title ∈ allCookieTitles) (location : PyStr) :
    extractSecurityHeaderIdentifier python title location = none := by
  have each : ∀ t ∈ allCookieTitles, search headerTitle t = none ∧
      search nonstandardXcto t = none ∧ plain t = true ∧
      (knownHeaders.find? fun known => occurs known (lowered t)) = none := by
    decide +kernel
  obtain ⟨missing, nonstandard, text, none⟩ := each title known
  rw [extractSecurityHeaderIdentifier, missing, nonstandard]
  simp only [ascii.lower _ text]
  exact none

theorem silenceFingerprint (hostname location : PyStr) :
    safeFingerprint python hostname cipherCode (py "No HTTP response obtained") location =
      identityDigest python hostname cipherCode noResponse := by
  have upper := (upperCodes ascii).2
  have reads : normalizeGenericIdentifier python (py "No HTTP response obtained") = noResponse := by
    rw [normalizeGenericIdentifier, ascii.lower _ (by decide +kernel)]
    decide +kernel
  have extractor : extractorFor python cipherCode =
      some fun title _ => orNone (normalizeGenericIdentifier python title) := rfl
  have canonical : Canonical noResponse := by decide +kernel
  rw [fingerprinted extractor upper]
  simp only [reads]
  rw [show orNone noResponse = some noResponse from rfl]
  simp only [canonical.2.2.2.1, Bool.false_eq_true, if_false]
  exact generated upper (canonicalReads ascii canonical) (by decide +kernel)
    ⟨canonical.2.2.1, canonical.2.2.2.2⟩

theorem fingerprintOfKind {identity : FindingIdentity} {f : Finding} {category title : PyStr}
    (known : category ∈ [categoryHeaders, categoryCookies, categoryTransport])
    (kind : kindOf f = (category, title)) (location : PyStr) :
    findingFingerprint python identity f =
      safeFingerprint python identity.hostname (canonicalCategoryCode python category) title
        location := by
  obtain ⟨sameCategory, sameTitle⟩ := Prod.mk.inj kind
  have headers : extractorFor python headerCode = some (extractSecurityHeaderIdentifier python) := rfl
  have cipher : extractorFor python cipherCode =
      some fun title _ => orNone (normalizeGenericIdentifier python title) := rfl
  obtain ⟨upperHeader, upperCipher⟩ := upperCodes ascii
  rw [findingFingerprint, sameCategory, sameTitle]
  simp only [List.mem_cons, List.not_mem_nil, or_false] at known
  rcases known with rfl | rfl | rfl
  · rw [canonicalHeaders.1, fingerprinted headers upperHeader, fingerprinted headers upperHeader]
    rfl
  · rw [canonicalHeaders.2.1, fingerprinted headers upperHeader, fingerprinted headers upperHeader]
    rfl
  · rw [canonicalHeaders.2.2, fingerprinted cipher upperCipher, fingerprinted cipher upperCipher]

def flagged (python : Python) (headers : Headers) : List SecurityHeader :=
  securityHeaders.filter fun header => (headerIssue python headers header).isSome

theorem issueExtracted {headers : Headers} {header : SecurityHeader} {title location : PyStr}
    (known : header ∈ securityHeaders) (issue : headerIssue python headers header = some title) :
    extractSecurityHeaderIdentifier python title location = some header.lowered := by
  unfold headerIssue at issue
  split at issue
  · cases issue
    exact (missingExtracted ascii known location).2
  · split at issue
    · rename_i sniffing
      cases issue
      exact nonstandardExtracted ascii known sniffing.1 location
    · contradiction

theorem titlesFingerprints (headers : Headers) (hostname location : PyStr) :
    (headerTitles python headers).map (safeFingerprint python hostname headerCode · location) =
      (flagged python headers).map fun header => identityDigest python hostname headerCode header.lowered := by
  have each : ∀ known : List SecurityHeader, (∀ header ∈ known, header ∈ securityHeaders) →
      (known.filterMap (headerIssue python headers)).map
          (safeFingerprint python hostname headerCode · location) =
        (known.filter fun header => (headerIssue python headers header).isSome).map
          fun header => identityDigest python hostname headerCode header.lowered := by
    intro known
    induction known with
    | nil => intro _; rfl
    | cons header rest ih =>
      intro inside
      have others := ih fun h member => inside h (List.mem_cons_of_mem _ member)
      have member := inside header List.mem_cons_self
      cases issue : headerIssue python headers header with
      | none =>
        rw [List.filterMap_cons_none issue, List.filter_cons_of_neg (by simp [issue]), others]
      | some title =>
        rw [List.filterMap_cons_some issue, List.filter_cons_of_pos (by simp [issue]), List.map_cons,
          List.map_cons, others, headerFingerprint ascii (missingExtracted ascii member location).1
            (issueExtracted ascii member issue)]
  exact each securityHeaders fun _ member => member

end

theorem cookieTitlesKnown {python : Python} {cookies : List PyStr} {title : PyStr}
    (found : title ∈ cookieTitles python cookies) : title ∈ allCookieTitles := by
  simp only [cookieTitles, List.mem_append] at found
  simp only [allCookieTitles, List.mem_cons, List.not_mem_nil, or_false]
  rcases found with (found | found) | found
  all_goals
    split at found
    · simp only [List.mem_singleton] at found
      simp [found]
    · contradiction

def hardened (python : Python) (cookie : PyStr) : Bool :=
  !lacks python (py "secure") cookie && !lacks python (py "httponly") cookie &&
    (samesiteIssue python cookie).isNone

theorem cookieTitlesNil {python : Python} {cookies : List PyStr} :
    cookieTitles python cookies = [] ↔ cookies.all (hardened python) = true := by
  simp only [cookieTitles, List.append_eq_nil_iff, ite_eq_right_iff, List.cons_ne_nil, imp_false,
    Bool.not_eq_true, List.any_eq_false, List.all_eq_true, hardened, Bool.and_eq_true,
    Bool.not_eq_true', Option.isNone_iff_eq_none, Option.isSome_eq_false_iff]
  exact ⟨fun h c member => ⟨⟨h.1.1 c member, h.1.2 c member⟩, h.2 c member⟩,
    fun h => ⟨⟨fun c member => (h c member).1.1, fun c member => (h c member).1.2⟩,
      fun c member => (h c member).2⟩⟩

def headerMet (python : Python) (headers : Headers) (header : SecurityHeader) : Bool :=
  match headerMap python headers header.lowered with
  | none => false
  | some value => header.lowered != contentTypeOptions || nosniff python value

theorem flaggedNil {python : Python} {headers : Headers} :
    flagged python headers = [] ↔ securityHeaders.all (headerMet python headers) = true := by
  have each : ∀ header, (headerIssue python headers header).isSome = !headerMet python headers header := by
    intro header
    unfold headerIssue headerMet
    cases headerMap python headers header.lowered with
    | none => rfl
    | some value =>
      simp only
      cases nosniff python value <;> by_cases sniffing : header.lowered = contentTypeOptions <;>
        simp [sniffing]
  simp only [flagged, each, List.filter_eq_nil_iff, Bool.not_eq_true', Bool.not_eq_false,
    List.all_eq_true]

/- Every row has a fingerprint, and no two rows share one. -/
def AllTracked (rows : List ScanFinding) : Prop :=
  (∀ row ∈ rows, row.fingerprint ≠ none) ∧
    rows.Pairwise fun a b => a.fingerprint ≠ b.fingerprint

theorem rowFingerprints (env : Env) (identity : FindingIdentity) (execution : ScanEngineExecution)
    (code : PyStr) (findings : List Finding) :
    (findingRows env identity execution code findings).map ScanFinding.fingerprint =
      findings.map (findingFingerprint env.python identity) := by
  apply List.ext_getElem
  · simp [findingRows]
  · intro i h₁ h₂
    simp [findingRows, findingRow]

theorem trackedFingerprints {rows : List ScanFinding} {fingerprints : List (Option PyStr)}
    (same : rows.map ScanFinding.fingerprint = fingerprints) :
    AllTracked rows ↔ none ∉ fingerprints ∧ fingerprints.Nodup := by
  subst same
  simp only [AllTracked, List.mem_map, not_exists, not_and, List.Nodup, List.pairwise_map]

def identityKnown (python : Python) : Option Target → Bool
  | none => false
  | some target => identifiable python target.hostname

def trackable (python : Python) (target : Option Target) :
    Except ControlledTransportError HttpResponseData → Bool
  | .error _ => identityKnown python target
  | .ok response => (cookiesOf python response).all (hardened python) &&
      (identityKnown python target || securityHeaders.all (headerMet python response.headers))

def preimages (python : Python) (hostname : PyStr) : List PyStr :=
  securityHeaders.map fun header => preimage python hostname headerCode header.lowered

/- SHA-256 does not collide on what is hashed for a target. -/
def Unambiguous (python : Python) (hostname : PyStr) : Prop :=
  ∀ s ∈ preimages python hostname, ∀ t ∈ preimages python hostname,
    python.sha256 s = python.sha256 t → s = t

theorem identityKnownIs {python : Python} (ascii : AsciiCase python) (scan : Scan)
    (target : Option Target) :
    identityKnown python target = identifiable python (identityOf scan target).hostname := by
  cases target with
  | none =>
    have empty : normalizeHostname python [] = [] := by
      rw [normalizeHostname, ascii.lower _ rfl]
      rfl
    rw [identityOf, identityKnown, identifiable, empty]
    rfl
  | some target => rfl

theorem digestsDistinct {python : Python} {hostname : PyStr} (distinct : Unambiguous python hostname)
    (named : identifiable python hostname = true) (headers : Headers) :
    ((flagged python headers).map fun header =>
      identityDigest python hostname headerCode header.lowered).Nodup := by
  have unique : (securityHeaders.map SecurityHeader.lowered).Nodup := by decide +kernel
  have part : (flagged python headers).Sublist securityHeaders := List.filter_sublist
  refine (List.nodup_map_iff_inj_on (List.Nodup.of_map _ (unique.sublist (part.map _)))).mpr ?_
  intro a inA b inB same
  have knownA := part.subset inA
  have knownB := part.subset inB
  simp only [identityDigest, named, if_true, Option.some.injEq] at same
  have pre := distinct _ (List.mem_map_of_mem knownA) _ (List.mem_map_of_mem knownB) same
  exact List.inj_on_of_nodup_map unique knownA knownB (List.append_cancel_left pre)

theorem kindsFingerprints {python : Python} (ascii : AsciiCase python) {identity : FindingIdentity}
    {category : PyStr} (known : category ∈ [categoryHeaders, categoryCookies, categoryTransport])
    {titles : List PyStr} {findings : List Finding}
    (kinds : findings.map kindOf = titles.map (category, ·)) :
    findings.map (findingFingerprint python identity) =
      titles.map (safeFingerprint python identity.hostname (canonicalCategoryCode python category) · []) := by
  induction titles generalizing findings with
  | nil =>
    rw [List.map_nil, List.map_eq_nil_iff] at kinds
    rw [kinds]
    rfl
  | cons title rest ih =>
    obtain ⟨f, others, rfl, kind, kinds⟩ := List.map_eq_cons_iff.mp kinds
    rw [List.map_cons, List.map_cons, ih kinds, fingerprintOfKind ascii known kind []]

def responseFingerprints (python : Python) (hostname : PyStr) (response : HttpResponseData) :
    List (Option PyStr) :=
  ((flagged python response.headers).map fun header =>
    identityDigest python hostname headerCode header.lowered) ++
  (cookieTitles python (cookiesOf python response)).map fun _ => none

theorem assessedFingerprints {python : Python} (ascii : AsciiCase python) {name version : PyStr}
    {requested : PyStr} {origin : OriginSpec} {response : HttpResponseData}
    {result : HttpAnalysisResult} (identity : FindingIdentity)
    (ok : assessedResult python name version requested origin response = .ok result) :
    result.findings.map (findingFingerprint python identity) =
      responseFingerprints python identity.hostname response := by
  obtain ⟨headers, cookies, whole, ofHeaders, ofCookies⟩ := List.map_eq_append_iff.mp (assessedKinds ok)
  have byCookie : (cookieTitles python (cookiesOf python response)).map
      (safeFingerprint python identity.hostname headerCode · []) =
      (cookieTitles python (cookiesOf python response)).map fun _ => none :=
    List.map_congr_left fun title member =>
      headerUnidentified ascii (cookieUnread ascii (cookieTitlesKnown member) [])
  rw [whole, List.map_append, kindsFingerprints ascii (by decide) ofHeaders,
    kindsFingerprints ascii (by decide) ofCookies, canonicalHeaders.1, canonicalHeaders.2.1,
    titlesFingerprints ascii, byCookie, responseFingerprints]

theorem assessedTracked {python : Python} {hostname : PyStr}
    (distinct : Unambiguous python hostname) (response : HttpResponseData) :
    (none ∉ responseFingerprints python hostname response ∧
      (responseFingerprints python hostname response).Nodup) ↔
    (cookiesOf python response).all (hardened python) = true ∧
      (identifiable python hostname = true ∨
        securityHeaders.all (headerMet python response.headers) = true) := by
  rw [← cookieTitlesNil, ← flaggedNil, responseFingerprints]
  constructor
  · rintro ⟨present, -⟩
    rw [List.mem_append, not_or, List.mem_map, List.mem_map, not_exists, not_exists] at present
    refine ⟨?_, ?_⟩
    · cases titles : cookieTitles python (cookiesOf python response) with
      | nil => rfl
      | cons title rest =>
        have member : title ∈ cookieTitles python (cookiesOf python response) := by simp [titles]
        exact absurd ⟨member, rfl⟩ (present.2 title)
    · cases none : flagged python response.headers with
      | nil => exact .inr rfl
      | cons header rest =>
        have member : header ∈ flagged python response.headers := by simp [none]
        cases named : identifiable python hostname with
        | true => exact .inl rfl
        | false => exact absurd ⟨member, by simp [identityDigest, named]⟩ (present.1 header)
  · rintro ⟨titles, named | none⟩
    · rw [titles, List.map_nil, List.append_nil]
      refine ⟨?_, digestsDistinct distinct named _⟩
      simp [identityDigest, named]
    · rw [titles, none]
      exact ⟨by simp, List.nodup_nil⟩

/- What the engine reports is stored with a fingerprint of its own for each finding exactly
where every cookie is hardened and the target, if anything is found, has a name. -/
theorem trackedIffHardened {env : Env} (ascii : AsciiCase env.python) {name version : PyStr}
    {context : ScanNetworkContext} {services : EngineServices env.python} {result : HttpAnalysisResult}
    (ran : execute name version context services = .ok result) (scan : Scan) (target : Option Target)
    (distinct : Unambiguous env.python (identityOf scan target).hostname)
    (execution : ScanEngineExecution) (code : PyStr) :
    ∃ outcome, fetch context services = .ok outcome ∧
      (AllTracked (findingRows env (identityOf scan target) execution code result.findings) ↔
        trackable env.python target outcome = true) := by
  obtain ⟨outcome, fetched, ok⟩ := bindOk ran
  refine ⟨outcome, fetched, ?_⟩
  have rows := rowFingerprints env (identityOf scan target) execution code result.findings
  cases outcome with
  | error exc =>
    obtain ⟨-, f, only, category, title⟩ := unreachableFindings ok
    have kind : kindOf f = (categoryTransport, py "No HTTP response obtained") := by
      rw [kindOf, category, title]
    rw [only, List.map_singleton, fingerprintOfKind ascii (by decide) kind [], canonicalHeaders.2.2,
      silenceFingerprint ascii] at rows
    rw [only, trackedFingerprints rows, trackable, identityKnownIs ascii scan target]
    simp [identityDigest]
  | ok response =>
    rw [assessedFingerprints ascii _ ok] at rows
    rw [trackedFingerprints rows, assessedTracked distinct, trackable,
      identityKnownIs ascii scan target, Bool.and_eq_true, Bool.or_eq_true]

/-! A response with one cookie, once with and once without the Secure flag. -/

def pagePython : Python := Python.onAscii
  [(py "example.com|MISSING_SECURITY_HEADER|content-security-policy",
     "27e2fb8add50021e2c82761906e0aa4cdfe4833dd6c1fd6dfd862072ddf47f5d"),
   (py "example.com|MISSING_SECURITY_HEADER|strict-transport-security",
     "e0c57b4d0c30adca70412380b66887bdb8810fc8d62bb2faa74dbacbc8e0bb49"),
   (py "example.com|MISSING_SECURITY_HEADER|x-content-type-options",
     "1c21f9bc6653124d49ac77a0d55105bd657a1211e14b4ad8fcc301a251f63ba2"),
   (py "example.com|MISSING_SECURITY_HEADER|x-frame-options",
     "33bf34eb268c9c1b488e14e365525a14640e6cbd5723bb5aefc2cb3cd4c7329c"),
   (py "example.com|MISSING_SECURITY_HEADER|referrer-policy",
     "3ade98266e411cc1144610db4c1aeabb37f1aa89b65b366eb26dfe0f598b121e"),
   (py "example.com|MISSING_SECURITY_HEADER|permissions-policy",
     "958e95ab849eded3a15658a974d4acd2fa223d830023bd579b135143dd0b1c43"),
   (py "http.transport|Transport posture|https://example.com/",
     "6b002dc6790bb603befb0e78b445fd47f4e923999dca13682131f8181eab1e3d"),
   (py "http.security-headers|Content-Security-Policy present|https://example.com/",
     "2f332523ef7b56da6b657dbdc777043152e324e63864f8aacc023deaf0a86d22"),
   (py "http.security-headers|Strict-Transport-Security present|https://example.com/",
     "a563083cfb1ee6c21787235fff19728faf8188d3523a69527ed051aaf50aaf6f"),
   (py "http.security-headers|X-Content-Type-Options present|https://example.com/",
     "f3beef6e9f666b8383b67cc8db86ce1ed8418f4574608ec84a805432572f5111"),
   (py "http.security-headers|X-Frame-Options present|https://example.com/",
     "d95c51cf18f567d65aa14f6c4b50e8d6b0dda4378b023e2abda11da1f559c1fe"),
   (py "http.security-headers|Referrer-Policy present|https://example.com/",
     "207de12118adc6f93827bec00e05dca2e7aed87131b4514d16543c5793af6eee"),
   (py "http.security-headers|Permissions-Policy present|https://example.com/",
     "1659b2dec2245692845219be49cf22ee456e48c64497d57e50ec49297c6e98da"),
   (py "http.security-headers|Permissions-Policy absent|https://example.com/",
     "707c6f3de04410a534d8d0faf87bc23dd217447060cf5947e8c9210db1c6d273"),
   (py "http.cookies|1 Set-Cookie header(s) observed|https://example.com/",
     "517c542527ec938736a41769db522c4a4417036e254bc4e0cc6a49158b3f64ac"),
   (py "http.cookies|Cookies missing Secure|https://example.com/",
     "8500c7cd041f97f565558b2ca7ff4182d1545422e8efec18d176690e5f8c0d8f"),
   (py "finding|http.cookies|Cookies without the Secure attribute|https://example.com/",
     "38992b2200ce161a0845559dcac8b413765193dc4b29ed4312bccaca98523457"),
   (py "finding|http.security-headers|Missing Permissions-Policy security header|https://example.com/",
     "b3a4535563206ecc3bbe9385a39ec49f4690dfcf409ce5cec1113d5d8d05c132")]

def pageEnv : Env := plainEnv pagePython 1 (plainPipeline answeredResult) noFault

def pageBinding : ValidatedTargetBinding where
  hostname := py "example.com"
  addresses := [.ofOctets 93 184 216 34]
  pinnedAddress := some (.ofOctets 93 184 216 34)
  validated := by decide +kernel
  pinned := by decide

def pageTarget : ConnectionTarget where
  address := .ofOctets 93 184 216 34
  port := 443
  scheme := py "https"
  hostname := py "example.com"

def pageResponse (extra : Headers) : HttpResponseData where
  status := 200
  headers := [(py "content-security-policy", py "default-src 'self'"),
    (py "strict-transport-security", py "max-age=63072000"),
    (py "x-content-type-options", py "nosniff"), (py "x-frame-options", py "DENY"),
    (py "referrer-policy", py "no-referrer")] ++ extra
  body := []
  finalTarget := pageTarget
  viaRedirects := []
  truncated := false

def pageServices (extra : Headers) : EngineServices pageEnv.python where
  limits := ⟨2000000, 10, 4, defaultsPositive⟩
  cancelled := false
  origin := ⟨py "https", none, py "/"⟩
  client _ := .ok (pageResponse extra)

def pageScan : Scan := { queuedScan 1 none with status := .running }

def pageTargetRow : Target := ⟨1, none, some 1, py "example.com", py "https://example.com/", false⟩

def pageExecution : ScanEngineExecution :=
  executionRow pageEnv .createExecution 1 4 (py "1") .running (some 1)

def pageRows (extra : Headers) : Option (List ScanFinding) :=
  (execute (py "http-security-analysis") (py "1") ⟨pageBinding⟩ (pageServices extra)).toOption.map
    fun result => findingRows pageEnv (identityOf pageScan pageTargetRow) pageExecution
      (py "headers-analyzer") result.findings

def secureCookie : Headers := [(py "set-cookie", py "session=1; Secure; HttpOnly; SameSite=Lax")]

def insecureCookie : Headers :=
  [(py "permissions-policy", py "camera=()"), (py "set-cookie", py "session=1; HttpOnly; SameSite=Lax")]

theorem pageAscii : AsciiCase pageEnv.python := ⟨fun _ _ => rfl, fun _ _ => rfl⟩

theorem hardenedPageTracked :
    ∃ result, execute (py "http-security-analysis") (py "1") ⟨pageBinding⟩
        (pageServices secureCookie) = .ok result ∧ result.findings.length = 1 ∧
      AllTracked (findingRows pageEnv (identityOf pageScan pageTargetRow) pageExecution
        (py "headers-analyzer") result.findings) := by
  have one : (execute (py "http-security-analysis") (py "1") ⟨pageBinding⟩
      (pageServices secureCookie)).toOption.map (fun result => result.findings.length) = some 1 := by
    decide +kernel
  obtain ⟨result, returned, count⟩ := Option.map_eq_some_iff.mp one
  have ran := okOfToOption returned
  have digests : ((preimages pageEnv.python (identityOf pageScan pageTargetRow).hostname).map
      pageEnv.python.sha256).Nodup := by
    decide +kernel
  have distinct : Unambiguous pageEnv.python (identityOf pageScan pageTargetRow).hostname :=
    fun _ a _ b same => List.inj_on_of_nodup_map digests a b same
  obtain ⟨outcome, fetched, tracked⟩ := trackedIffHardened pageAscii ran pageScan pageTargetRow
    distinct pageExecution (py "headers-analyzer")
  have response : fetch ⟨pageBinding⟩ (pageServices secureCookie) = .ok (.ok (pageResponse secureCookie)) := by
    decide +kernel
  rw [response] at fetched
  cases fetched
  exact ⟨result, ran, count, tracked.mpr (by decide +kernel)⟩

theorem insecureCookieUntracked :
    ∃ rows, pageRows insecureCookie = some rows ∧ rows ≠ [] ∧ ¬ AllTracked rows := by
  have none : (pageRows insecureCookie).map (fun rows => rows.map ScanFinding.fingerprint) =
      some [none] := by
    decide +kernel
  obtain ⟨rows, found, fingerprints⟩ := Option.map_eq_some_iff.mp none
  refine ⟨rows, found, fun empty => by simp [empty] at fingerprints, ?_⟩
  rw [trackedFingerprints fingerprints]
  simp

end SentinelGpt
