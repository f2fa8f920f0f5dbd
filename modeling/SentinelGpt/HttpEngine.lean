import SentinelGpt.HttpContract
import SentinelGpt.Fingerprinting

/-! The passive HTTP engine: one request to the validated origin, and what its response
says about headers, cookies, transport and server. -/
namespace SentinelGpt.HttpAnalysis

def categoryHeaders : PyStr := py "http.security-headers"
def categoryCookies : PyStr := py "http.cookies"
def categoryServer : PyStr := py "http.server-info"

def maxCookieNamesInEvidence : Nat := 10

structure SecurityHeader where
  lowered : PyStr
  display : PyStr
  purpose : PyStr
  deriving DecidableEq, Repr

def contentTypeOptions : PyStr := py "x-content-type-options"

def securityHeaders : List SecurityHeader :=
  [⟨py "content-security-policy", py "Content-Security-Policy", py "limits script/style sources"⟩,
   ⟨py "strict-transport-security", py "Strict-Transport-Security",
    py "forces HTTPS for future visits"⟩,
   ⟨contentTypeOptions, py "X-Content-Type-Options", py "disables MIME sniffing when 'nosniff'"⟩,
   ⟨py "x-frame-options", py "X-Frame-Options", py "controls framing/clickjacking posture"⟩,
   ⟨py "referrer-policy", py "Referrer-Policy", py "restricts referrer leakage"⟩,
   ⟨py "permissions-policy", py "Permissions-Policy", py "restricts powerful browser features"⟩]

def lowSeverityHeaders : List PyStr :=
  [py "content-security-policy", py "strict-transport-security", contentTypeOptions,
   py "x-frame-options"]

/- `{k.lower(): v for k, v in headers}.get(name)`: the last value of a name is kept. -/
def headerMap (python : Python) (headers : Headers) (name : PyStr) : Option PyStr :=
  (headers.reverse.find? fun h => python.lower h.1 == name).map Prod.snd

structure Assessed where
  observations : List Observation
  findings : List Finding
  deriving DecidableEq, Repr

def Assessed.observed (observation : Observation) : Assessed := ⟨[observation], []⟩

def Assessed.joined (parts : List Assessed) : Assessed :=
  ⟨parts.flatMap Assessed.observations, parts.flatMap Assessed.findings⟩

/-! Transport posture. -/

def natText (n : Nat) : PyStr := py (toString n)

def postureDetail (python : Python) (scheme : PyStr) (response : HttpResponseData) : PyStr :=
  py "Exchange completed over " ++ python.upper scheme ++ py " with certificate verification " ++
    (if scheme = py "https" then py "enforced" else py "not applicable") ++ py "; " ++
    natText response.viaRedirects.length ++ py " validated redirect hop(s); body " ++
    natText response.body.length ++ py " bytes" ++
    (if response.truncated then py " (clamped)" else []) ++ py "."

/- The encoder gives up on an integer too long for its text. -/
def postureEvidence (scheme : PyStr) (response : HttpResponseData) : Except PyError PyStr :=
  if shortInt response.status then
    .ok (dumpsObject [(py "scheme", .str scheme), (py "status", .int response.status),
      (py "redirects", .list ((response.viaRedirects.take 10).map .str)),
      (py "truncated", .bool response.truncated), (py "bytes", .int response.body.length)])
  else .error .valueError

def assessTransport (python : Python) (hostname : PyStr) (origin : OriginSpec)
    (response : HttpResponseData) : Except PyError Assessed := do
  let scheme := python.lower origin.scheme
  return .observed (← Observation.create python categoryTransport (py "Transport posture")
    (postureDetail python scheme response) (← postureEvidence scheme response)
    (scheme ++ py "://" ++ hostname ++ origin.path))

/-! Security headers. -/

def nosniff (python : Python) (value : PyStr) : Bool := python.lower (strip value) == py "nosniff"

def nonstandardValue (python : Python) (header : SecurityHeader) (location value : PyStr) :
    Except PyError Assessed := do
  let evidence := header.display ++ py ": " ++ value
  let observation ← Observation.create python categoryHeaders
    (header.display ++ py " has a nonstandard value")
    (header.display ++ py " should be exactly 'nosniff' to " ++ header.purpose ++
      py "; got an unrecognized value.") evidence location
  let finding ← Finding.create python categoryHeaders (py "Nonstandard " ++ header.display ++ py " value")
    (py "The header is present but does not disable MIME sniffing as intended (" ++
      header.purpose ++ py ").") .low .high evidence location
    (py "Set " ++ header.display ++ py ": nosniff.") [observation.id]
  return ⟨[observation], [finding]⟩

def headerPresent (python : Python) (header : SecurityHeader) (location value detail : PyStr) :
    Except PyError Assessed := do
  return .observed (← Observation.create python categoryHeaders (header.display ++ py " present") detail
    (header.display ++ py ": " ++ value) location)

def headerAbsent (python : Python) (header : SecurityHeader) (location : PyStr) :
    Except PyError Assessed := do
  let observation ← Observation.create python categoryHeaders (header.display ++ py " absent")
    (py "The response does not send " ++ header.display ++ py ", which " ++ header.purpose ++ py ".")
    [] location
  let finding ← Finding.create python categoryHeaders
    (py "Missing " ++ header.display ++ py " security header")
    (py "The response does not explicitly " ++ header.purpose ++
      py " because the header is absent.")
    (if lowSeverityHeaders.contains header.lowered then .low else .info) .high [] location
    (py "Consider sending " ++ header.display ++ py ".") [observation.id]
  return ⟨[observation], [finding]⟩

def assessHeader (python : Python) (headers : Headers) (location : PyStr) (header : SecurityHeader) :
    Except PyError Assessed :=
  match headerMap python headers header.lowered with
  | none => headerAbsent python header location
  | some value =>
    if header.lowered = contentTypeOptions then
      if nosniff python value then
        headerPresent python header location value (header.display ++ py " is set to 'nosniff'.")
      else nonstandardValue python header location value
    else headerPresent python header location value (header.display ++ py " is set.")

def hstsOverHttp (python : Python) (response : HttpResponseData) (location : PyStr) :
    Except PyError Assessed :=
  if response.finalTarget.scheme = py "http" then
    match headerMap python response.headers (py "strict-transport-security") with
    | none => return ⟨[], []⟩
    | some hsts => return .observed (← Observation.create python categoryHeaders
        (py "HSTS sent over plain HTTP")
        (py "Strict-Transport-Security has no effect on an http:// response.")
        (py "Strict-Transport-Security: " ++ hsts) location)
  else return ⟨[], []⟩

def assessHeaders (python : Python) (response : HttpResponseData) (location : PyStr) :
    Except PyError Assessed := do
  let parts ← securityHeaders.mapM (assessHeader python response.headers location)
  return .joined (parts ++ [← hstsOverHttp python response location])

/-! Cookies. -/

def samesiteValues : List PyStr := [py "strict", py "lax", py "none"]

def afterEquals (token : PyStr) : PyStr := (partition 0x3D token).2.2

/- The last SameSite token decides. -/
def redactedSamesite (lowered : PyStr) : PyStr :=
  (splitOn 0x3B lowered).foldl (fun samesite token =>
    if (py "samesite=").isPrefixOf (strip token) then
      let raw := strip (afterEquals (strip token))
      if samesiteValues.contains raw then raw else py "invalid"
    else samesite) (py "unspecified")

def redactCookieValue (python : Python) (setCookie : PyStr) : PyStr :=
  let (first, _, attributes) := partition 0x3B setCookie
  let namePart := strip first
  let name := if namePart.contains 0x3D then strip (partition 0x3D namePart).1 else namePart
  let lowered := python.lower attributes
  let flags := (if Fingerprinting.occurs (py "secure") lowered then [py "Secure"] else []) ++
    (if Fingerprinting.occurs (py "httponly") lowered then [py "HttpOnly"] else []) ++
    [py "SameSite=" ++ redactedSamesite lowered]
  name ++ py " [<value-redacted>] (" ++ join (py ", ") flags ++ py ")"

def cookiesOf (python : Python) (response : HttpResponseData) : List PyStr :=
  (response.headers.filter fun h => python.lower h.1 == py "set-cookie").map Prod.snd

def cookieName (python : Python) (cookie : PyStr) : PyStr :=
  (splitOn 0x20 (redactCookieValue python cookie)).headD []

def cookieFlags (python : Python) (cookie : PyStr) : List PyStr :=
  ((splitOn 0x3B (partition 0x3B cookie).2.2).filter fun token => !(strip token).isEmpty).map
    fun token => python.lower (strip token)

def lacks (python : Python) (flag cookie : PyStr) : Bool := !(cookieFlags python cookie).contains flag

def samesiteIssue (python : Python) (cookie : PyStr) : Option PyStr :=
  match ((cookieFlags python cookie).filter (py "samesite=").isPrefixOf).map afterEquals with
  | [] => some (cookieName python cookie ++ py ": unspecified")
  | value :: _ =>
    if samesiteValues.contains value then none
    else some (cookieName python cookie ++ py ": invalid '" ++ value ++ py "'")

def listed (names : List PyStr) : PyStr :=
  join (py ", ") (names.take maxCookieNamesInEvidence) ++
    (if names.length ≤ maxCookieNamesInEvidence then [] else [0x20, 0x2026])

def missingAttribute (python : Python) (flag title description recommendation : PyStr)
    (names : List PyStr) (location : PyStr) : Except PyError Assessed := do
  if names.isEmpty then return ⟨[], []⟩
  let evidence := boundEvidence python (listed names) maxEvidenceChars
  let observation ← Observation.create python categoryCookies (py "Cookies missing " ++ flag)
    (natText names.length ++ py " cookie(s) lack the " ++ flag ++ py " attribute.")
    evidence location
  let finding ← Finding.create python categoryCookies title description .low .high evidence location
    recommendation [observation.id]
  return ⟨[observation], [finding]⟩

def missingSecure (python : Python) (cookies : List PyStr) (location : PyStr) :
    Except PyError Assessed :=
  missingAttribute python (py "Secure") (py "Cookies without the Secure attribute")
    (py "These cookies can be transmitted over plaintext connections.")
    (py "Add the Secure attribute to every cookie.")
    ((cookies.filter (lacks python (py "secure"))).map (cookieName python)) location

def missingHttponly (python : Python) (cookies : List PyStr) (location : PyStr) :
    Except PyError Assessed :=
  missingAttribute python (py "HttpOnly") (py "Cookies without the HttpOnly attribute")
    (py "Script running on the origin can read these cookies.")
    (py "Add HttpOnly to session-bearing cookies.")
    ((cookies.filter (lacks python (py "httponly"))).map (cookieName python)) location

def samesiteIssues (python : Python) (cookies : List PyStr) (location : PyStr) :
    Except PyError Assessed := do
  let issues := cookies.filterMap (samesiteIssue python)
  if issues.isEmpty then return ⟨[], []⟩
  let evidence := join (py "; ") (issues.take maxCookieNamesInEvidence)
  let observation ← Observation.create python categoryCookies (py "SameSite attribute gaps")
    (py "Some cookies lack a valid SameSite attribute.") evidence location
  let finding ← Finding.create python categoryCookies (py "SameSite attribute missing or invalid")
    (py "CSRF protection benefits from explicit SameSite settings.") .info .medium evidence
    location (py "Set SameSite=Lax or Strict where appropriate.") [observation.id]
  return ⟨[observation], [finding]⟩

def cookiesObserved (python : Python) (cookies : List PyStr) (location : PyStr) :
    Except PyError Assessed := do
  return .observed (← Observation.create python categoryCookies
    (natText cookies.length ++ py " Set-Cookie header(s) observed")
    (py "Cookie values are redacted; only names and attribute flags kept.")
    (join [0x0A] ((cookies.map (redactCookieValue python)).take maxCookieNamesInEvidence)) location)

def assessCookies (python : Python) (response : HttpResponseData) (location : PyStr) :
    Except PyError Assessed := do
  let cookies := cookiesOf python response
  if cookies.isEmpty then return ⟨[], []⟩
  return .joined [← cookiesObserved python cookies location, ← missingSecure python cookies location,
    ← missingHttponly python cookies location, ← samesiteIssues python cookies location]

/-! Server information. -/

def interestingHeaders : List PyStr :=
  [py "server", py "x-powered-by", py "x-generator", py "x-framework"]

def assessServerHeader (python : Python) (headers : Headers) (key : PyStr) :
    Except PyError Assessed :=
  match headerMap python headers key with
  | none => return ⟨[], []⟩
  | some value => do
    if value.isEmpty then return ⟨[], []⟩
    return .observed (← Observation.create python categoryServer
      (py "Server information exposed: " ++ key)
      (py "Ordinary response header reveals implementation detail.") (key ++ py ": " ++ value)
      (py "response-headers"))

def assessServerInfo (python : Python) (response : HttpResponseData) : Except PyError Assessed := do
  return .joined (← interestingHeaders.mapM (assessServerHeader python response.headers))

/-! The engine. -/

/- What an engine is given beside its context: its client stands for one the executor made. -/
structure EngineServices (python : Python) where
  limits : HttpLimits
  cancelled : Bool
  origin : OriginSpec
  client : HttpScanRequest python → Except HttpFailure HttpResponseData

def requestBudgetExceededError : PyError := .other (py "RequestBudgetExceededError")

def buildRequest {python : Python} (context : ScanNetworkContext) (services : EngineServices python) :
    Except PyError (HttpScanRequest python) := do
  let origin := services.origin
  let spec ← HttpRequestSpec.create python (py "GET") origin.path [] none
  let target ← ConnectionTarget.forContext python context origin.scheme origin.port
  if !context.egressAuthorize target.address then throw egressDeniedError
  return ⟨context, spec, target⟩

def singleRequest {python : Python} (services : EngineServices python)
    (request : HttpScanRequest python) : Except PyError (Except ControlledTransportError HttpResponseData) := do
  if services.cancelled then throw scanCancelledError
  match services.client request with
  | .ok response => return .ok response
  | .error (.transport exc) => return .error exc
  | .error (.raised exc) => throw exc

def fetch {python : Python} (context : ScanNetworkContext) (services : EngineServices python) :
    Except PyError (Except ControlledTransportError HttpResponseData) := do
  if services.limits.maxRequests < 1 then throw requestBudgetExceededError
  singleRequest services (← buildRequest context services)

def assessedResult (python : Python) (name version hostname : PyStr) (origin : OriginSpec)
    (response : HttpResponseData) : Except PyError HttpAnalysisResult := do
  let location := origin.scheme ++ py "://" ++ hostname ++ origin.path
  let assessed := Assessed.joined [← assessTransport python hostname origin response,
    ← assessHeaders python response location, ← assessCookies python response location,
    ← assessServerInfo python response]
  return {
    engineName := name
    engineVersion := version
    targetHostname := hostname
    requestScheme := python.lower origin.scheme
    requestPort := response.finalTarget.port
    requestPath := origin.path
    status := some response.status
    redirectCount := response.viaRedirects.length
    truncated := response.truncated
    contentType := boundEvidence python ((header? python response.headers (py "content-type")).getD []) 128
    responseBytes := some response.body.length
    observations := assessed.observations
    findings := assessed.findings
    errorKind := none
    errorDetail := [] }

theorem assessedUnfailed {python : Python} {name version hostname : PyStr} {origin : OriginSpec}
    {response : HttpResponseData} {result : HttpAnalysisResult}
    (ok : assessedResult python name version hostname origin response = .ok result) :
    result.errorKind = none := by
  obtain ⟨transport, -, ok⟩ := bindOk ok
  obtain ⟨headers, -, ok⟩ := bindOk ok
  obtain ⟨cookies, -, ok⟩ := bindOk ok
  obtain ⟨server, -, ok⟩ := bindOk ok
  cases ok
  rfl

def execute {python : Python} (name version : PyStr) (context : ScanNetworkContext)
    (services : EngineServices python) : Except PyError HttpAnalysisResult := do
  match ← fetch context services with
  | .error exc => unreachableResult python name version context.binding.hostname services.origin exc
  | .ok response =>
    assessedResult python name version context.binding.hostname services.origin response

abbrev Kind := PyStr × PyStr

def kindOf (f : Finding) : Kind := (f.category, f.title)

def Assessed.kinds (a : Assessed) : List Kind := a.findings.map kindOf

theorem joinedKinds (parts : List Assessed) :
    (Assessed.joined parts).kinds = parts.flatMap Assessed.kinds := by
  exact List.map_flatMap

theorem createdKind {python : Python} {category title description evidence location
    recommendation : PyStr} {severity : Severity} {confidence : Confidence}
    {observationIds : List PyStr} {f : Finding}
    (ok : Finding.create python category title description severity confidence evidence location
      recommendation observationIds = .ok f) : kindOf f = (category, title) := by
  obtain ⟨sameCategory, sameTitle, -⟩ := createdAs ok
  rw [kindOf, sameCategory, sameTitle]

def headerIssue (python : Python) (headers : Headers) (header : SecurityHeader) : Option PyStr :=
  match headerMap python headers header.lowered with
  | none => some (py "Missing " ++ header.display ++ py " security header")
  | some value =>
    if header.lowered = contentTypeOptions ∧ nosniff python value = false then
      some (py "Nonstandard " ++ header.display ++ py " value")
    else none

theorem presentKinds {python : Python} {header : SecurityHeader} {location value detail : PyStr}
    {a : Assessed} (ok : headerPresent python header location value detail = .ok a) :
    a.kinds = [] := by
  obtain ⟨observation, -, ok⟩ := bindOk ok
  cases ok
  rfl

theorem headerKinds {python : Python} {headers : Headers} {location : PyStr}
    {header : SecurityHeader} {a : Assessed}
    (ok : assessHeader python headers location header = .ok a) :
    a.kinds = (headerIssue python headers header).toList.map (categoryHeaders, ·) := by
  cases found : headerMap python headers header.lowered with
  | none =>
    simp only [assessHeader, headerIssue, found] at ok ⊢
    obtain ⟨observation, -, ok⟩ := bindOk ok
    obtain ⟨finding, created, ok⟩ := bindOk ok
    cases ok
    simp only [Assessed.kinds, List.map_cons, List.map_nil, createdKind created, Option.toList_some]
  | some value =>
    simp only [assessHeader, headerIssue, found] at ok ⊢
    by_cases sniffing : header.lowered = contentTypeOptions
    · cases standard : nosniff python value with
      | true =>
        rw [if_pos sniffing, standard, if_pos rfl] at ok
        rw [if_neg (by simp), presentKinds ok]
        rfl
      | false =>
        rw [if_pos sniffing, standard, if_neg (by simp)] at ok
        obtain ⟨observation, -, ok⟩ := bindOk ok
        obtain ⟨finding, created, ok⟩ := bindOk ok
        cases ok
        rw [if_pos ⟨sniffing, rfl⟩]
        simp only [Assessed.kinds, List.map_cons, List.map_nil, createdKind created,
          Option.toList_some]
    · rw [if_neg sniffing] at ok
      rw [if_neg (by simp [sniffing]), presentKinds ok]
      rfl

def headerTitles (python : Python) (headers : Headers) : List PyStr :=
  securityHeaders.filterMap (headerIssue python headers)

theorem hstsKinds {python : Python} {response : HttpResponseData} {location : PyStr} {a : Assessed}
    (ok : hstsOverHttp python response location = .ok a) : a.kinds = [] := by
  unfold hstsOverHttp at ok
  split at ok
  · split at ok
    · cases ok
      rfl
    · obtain ⟨observation, -, ok⟩ := bindOk ok
      cases ok
      rfl
  · cases ok
    rfl

theorem headersKinds {python : Python} {response : HttpResponseData} {location : PyStr}
    {a : Assessed} (ok : assessHeaders python response location = .ok a) :
    a.kinds = (headerTitles python response.headers).map (categoryHeaders, ·) := by
  obtain ⟨parts, each, ok⟩ := bindOk ok
  obtain ⟨hsts, noted, ok⟩ := bindOk ok
  cases ok
  have kinds : parts.map Assessed.kinds = securityHeaders.map fun header =>
      (headerIssue python response.headers header).toList.map (categoryHeaders, ·) :=
    mapMOk (fun _ _ ok => headerKinds ok) each
  rw [joinedKinds, List.flatMap_append, List.flatMap_singleton, hstsKinds noted, List.append_nil,
    List.flatMap_def, kinds, ← List.flatMap_def, headerTitles]
  rw [List.filterMap_eq_flatMap_toList, List.map_flatMap]

def cookieTitles (python : Python) (cookies : List PyStr) : List PyStr :=
  (if cookies.any (lacks python (py "secure")) then [py "Cookies without the Secure attribute"] else []) ++
  (if cookies.any (lacks python (py "httponly")) then
    [py "Cookies without the HttpOnly attribute"] else []) ++
  (if cookies.any fun c => (samesiteIssue python c).isSome then
    [py "SameSite attribute missing or invalid"] else [])

theorem missingKinds {python : Python} {flag title description recommendation location : PyStr}
    {cookies : List PyStr} {test : PyStr → Bool} {a : Assessed}
    (ok : missingAttribute python flag title description recommendation
      ((cookies.filter test).map (cookieName python)) location = .ok a) :
    a.kinds = if cookies.any test then [(categoryCookies, title)] else [] := by
  unfold missingAttribute at ok
  cases some : cookies.any test with
  | false =>
    have none : cookies.filter test = [] := by simpa using some
    rw [none] at ok
    cases ok
    rfl
  | true =>
    have names : ((cookies.filter test).map (cookieName python)).isEmpty = false := by
      simpa using some
    rw [names] at ok
    obtain ⟨observation, -, ok⟩ := bindOk ok
    obtain ⟨finding, created, ok⟩ := bindOk ok
    cases ok
    simp only [Assessed.kinds, List.map_cons, List.map_nil, createdKind created, if_true]

theorem samesiteKinds {python : Python} {cookies : List PyStr} {location : PyStr} {a : Assessed}
    (ok : samesiteIssues python cookies location = .ok a) :
    a.kinds = if cookies.any fun c => (samesiteIssue python c).isSome then
      [(categoryCookies, py "SameSite attribute missing or invalid")] else [] := by
  unfold samesiteIssues at ok
  cases some : cookies.any fun c => (samesiteIssue python c).isSome with
  | false =>
    have none : cookies.filterMap (samesiteIssue python) = [] := by simpa using some
    rw [none] at ok
    cases ok
    rfl
  | true =>
    have issues : (cookies.filterMap (samesiteIssue python)).isEmpty = false := by
      simpa [Option.isSome_iff_ne_none] using some
    simp only [issues] at ok
    obtain ⟨observation, -, ok⟩ := bindOk ok
    obtain ⟨finding, created, ok⟩ := bindOk ok
    cases ok
    simp only [Assessed.kinds, List.map_cons, List.map_nil, createdKind created, if_true]

theorem secureKinds {python : Python} {cookies : List PyStr} {location : PyStr} {a : Assessed}
    (ok : missingSecure python cookies location = .ok a) :
    a.kinds = if cookies.any (lacks python (py "secure")) then
      [(categoryCookies, py "Cookies without the Secure attribute")] else [] :=
  missingKinds ok

theorem httponlyKinds {python : Python} {cookies : List PyStr} {location : PyStr} {a : Assessed}
    (ok : missingHttponly python cookies location = .ok a) :
    a.kinds = if cookies.any (lacks python (py "httponly")) then
      [(categoryCookies, py "Cookies without the HttpOnly attribute")] else [] :=
  missingKinds ok

theorem titlesKinds (found : Bool) (title : PyStr) :
    (if found then [(categoryCookies, title)] else []) =
      (if found then [title] else []).map (categoryCookies, ·) := by
  cases found <;> rfl

theorem cookiesKinds {python : Python} {response : HttpResponseData} {location : PyStr}
    {a : Assessed} (ok : assessCookies python response location = .ok a) :
    a.kinds = (cookieTitles python (cookiesOf python response)).map (categoryCookies, ·) := by
  unfold assessCookies at ok
  cases empty : (cookiesOf python response).isEmpty with
  | true =>
    simp only [empty] at ok
    cases ok
    rw [List.isEmpty_iff.mp empty]
    simp only [cookieTitles, List.any_nil, Bool.false_eq_true, if_false, List.append_nil, List.map_nil,
      Assessed.kinds]
  | false =>
    simp only [empty] at ok
    obtain ⟨observed, noted, ok⟩ := bindOk ok
    obtain ⟨secure, inSecure, ok⟩ := bindOk ok
    obtain ⟨httponly, inHttponly, ok⟩ := bindOk ok
    obtain ⟨samesite, inSamesite, ok⟩ := bindOk ok
    obtain ⟨observation, -, noted⟩ := bindOk noted
    cases ok
    cases noted
    have none : (Assessed.observed observation).kinds = [] := rfl
    rw [joinedKinds, List.flatMap_cons, List.flatMap_cons, List.flatMap_cons, List.flatMap_cons,
      List.flatMap_nil, none, secureKinds inSecure, httponlyKinds inHttponly, samesiteKinds inSamesite,
      titlesKinds, titlesKinds, titlesKinds, cookieTitles, List.map_append, List.map_append,
      List.nil_append, List.append_nil, List.append_assoc]

theorem serverKinds {python : Python} {response : HttpResponseData} {a : Assessed}
    (ok : assessServerInfo python response = .ok a) : a.kinds = [] := by
  obtain ⟨parts, each, ok⟩ := bindOk ok
  cases ok
  have none : parts.map Assessed.kinds = interestingHeaders.map fun _ => [] := by
    refine mapMOk (fun key part ok => ?_) each
    unfold assessServerHeader at ok
    split at ok
    · cases ok
      rfl
    · split at ok
      · cases ok
        rfl
      · obtain ⟨observation, -, ok⟩ := bindOk ok
        cases ok
        rfl
  rw [joinedKinds, List.flatMap_def, none]
  rfl

theorem assessedKinds {python : Python} {name version hostname : PyStr} {origin : OriginSpec}
    {response : HttpResponseData} {r : HttpAnalysisResult}
    (ok : assessedResult python name version hostname origin response = .ok r) :
    r.findings.map kindOf = (headerTitles python response.headers).map (categoryHeaders, ·) ++
      (cookieTitles python (cookiesOf python response)).map (categoryCookies, ·) := by
  obtain ⟨transport, posture, ok⟩ := bindOk ok
  obtain ⟨headers, inHeaders, ok⟩ := bindOk ok
  obtain ⟨cookies, inCookies, ok⟩ := bindOk ok
  obtain ⟨server, inServer, ok⟩ := bindOk ok
  obtain ⟨evidence, -, posture⟩ := bindOk posture
  obtain ⟨observation, -, posture⟩ := bindOk posture
  cases posture
  cases ok
  have kinds := joinedKinds [.observed observation, headers, cookies, server]
  simp only [List.flatMap_cons, List.flatMap_nil, List.append_nil, headersKinds inHeaders,
    cookiesKinds inCookies, serverKinds inServer] at kinds
  exact kinds

end SentinelGpt.HttpAnalysis
