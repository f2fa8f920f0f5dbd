import SentinelGpt.UrlJoin
import SentinelGpt.PythonNumbers

/-! The validation and normalization of a target at registration. -/
namespace SentinelGpt
open JsonScan

/- InvalidTargetError with its message, or the ValueError of `int()` on too many digits. -/
inductive TargetError where
  | invalidTarget (message : PyStr)
  | valueError
  deriving DecidableEq, Repr

namespace TargetNormalization

def metadataNameBlocklist : List PyStr := [py "metadata.google.internal", py "metadata.goog"]

def privateNameSuffixes : List PyStr :=
  [py ".internal", py ".local", py ".localhost", py ".localdomain", py ".home.arpa", py ".lan"]

def isAsciiDigits (text : PyStr) : Bool := !text.isEmpty && text.all isDigit

def addressOfInt (n : Nat) : Option IPAddress :=
  if small : n < 2 ^ 32 then some (.v4 ⟨n, small⟩)
  else if large : n < 2 ^ 128 then some (.v6 ⟨n, large⟩ none)
  else none

def stripBrackets (host : PyStr) : PyStr :=
  ((host.dropWhile isBracket).reverse.dropWhile isBracket).reverse
where
  isBracket (c : CodePoint) : Bool := c == 0x5B || c == 0x5D

def asIpLiteral (python : Python) (host : PyStr) : Option IPAddress :=
  let candidate := stripBrackets host
  match IPAddress.parse candidate with
  | some address => some address
  | none =>
    if isAsciiDigits candidate then
      if candidate.length ≤ maxIntDigits then addressOfInt (digitsValue candidate) else none
    else if (py "0x").isPrefixOf (python.lower candidate) && 2 < candidate.length then
      (hexInt candidate).bind addressOfInt
    else none

def isDisallowedIp (address : IPAddress) : Bool :=
  address.isPrivate || address.isLoopback || address.isLinkLocal || address.isReserved ||
    address.isMulticast || address.isUnspecified

def stripTrailingDot (host : PyStr) : PyStr := rstrip 0x2E host

def isNumericLabel (label : PyStr) : Bool :=
  isAsciiDigits label ||
    (2 < label.length && (label.take 2 == py "0x" || label.take 2 == py "0X") &&
      (label.drop 2).all fun c => (hexValue c).isSome)

def looksLikeNumericHost (host : PyStr) : Bool := (splitOn 0x2E host).all isNumericLabel

/- The labels one after the other, to the first that decides; `none` is a ValueError. -/
def canonicalLabels : List PyStr → Option Bool
  | [] => some true
  | label :: rest =>
    if !isAsciiDigits label then some false
    else if 1 < label.length && label.head? == some 0x30 then some false
    else if maxIntDigits < label.length then none
    else if 255 < digitsValue label then some false
    else canonicalLabels rest

def isCanonicalDottedQuad (host : PyStr) : Option Bool :=
  let labels := splitOn 0x2E host
  if labels.length = 4 then canonicalLabels labels else some false

def containsNonAsciiNumeric (python : Python) (host : PyStr) : Bool :=
  host.any fun c => python.isDigit c && 127 < c.val

def isLocalhost (host : PyStr) : Bool := host == py "localhost" || (py ".localhost").isSuffixOf host

def isPrivateName (host : PyStr) : Bool :=
  metadataNameBlocklist.contains host || privateNameSuffixes.any fun suffix => suffix.isSuffixOf host

def validateHost (python : Python) (host : PyStr) : Except TargetError PyStr :=
  let host := stripTrailingDot host
  if host.isEmpty then .error (.invalidTarget (py "URL has no hostname."))
  else if containsNonAsciiNumeric python host then
    .error (.invalidTarget (py "Non-ASCII numeric characters are not allowed in hostnames."))
  else if isLocalhost host then .error (.invalidTarget (py "localhost targets are not allowed."))
  else if isPrivateName host then
    .error (.invalidTarget (py "Private/internal network names are not allowed as targets."))
  else match (if looksLikeNumericHost host then isCanonicalDottedQuad host else some true) with
    | none => .error .valueError
    | some false => .error (.invalidTarget
        (py "Non-canonical numeric hostname forms are not allowed; use a standard DNS name or dotted-decimal IPv4 literal."))
    | some true =>
      if (asIpLiteral python host).any isDisallowedIp then
        .error (.invalidTarget
          (py "Targets resolving inside private, loopback, link-local, or reserved ranges are not allowed."))
      else .ok host

structure NormalizedTarget where
  hostname : PyStr
  normalizedUrl : PyStr
  deriving DecidableEq, Repr

def maxHostnameLength : Nat := 255
def maxNormalizedUrlLength : Nat := 500

def allowedSchemes : List PyStr := [py "http", py "https"]

def normalizedUrl (scheme host : PyStr) (port : Option Nat) (parts : SplitResult) : PyStr :=
  let displayHost := if host.contains 0x3A then py "[" ++ host ++ py "]" else host
  let netloc := match port with
    | some n => displayHost ++ py ":" ++ py (toString n)
    | none => displayHost
  urlunsplit ⟨scheme, netloc, if parts.path.isEmpty then py "/" else parts.path, parts.query, []⟩

def normalizeTarget (python : Python) (hostname url : PyStr) : Except TargetError NormalizedTarget := do
  let hostname := strip hostname
  let url := strip url
  if hostname.isEmpty || maxHostnameLength < hostname.length then
    throw (.invalidTarget (py "hostname must be between 1 and 255 characters."))
  if url.isEmpty then throw (.invalidTarget (py "url must not be empty."))
  let parts ← (urlsplit python url).mapError fun _ => .invalidTarget (py "URL could not be parsed.")
  let scheme := python.lower parts.scheme
  if !allowedSchemes.contains scheme then
    throw (.invalidTarget (py "Only http and https URLs are allowed."))
  if parts.netloc.contains 0x40 then
    throw (.invalidTarget (py "Credentials embedded in the URL are not allowed."))
  let port ← parts.port.mapError fun _ => .invalidTarget (py "URL contains an invalid port.")
  let host ← validateHost python ((parts.hostname python).getD [])
  if maxHostnameLength < host.length then
    throw (.invalidTarget (py "Resolved hostname exceeds 255 characters."))
  if host ≠ stripTrailingDot (stripBrackets (python.lower (strip hostname))) then
    throw (.invalidTarget (py "hostname does not match the URL host."))
  let normalized := normalizedUrl scheme host port parts
  if maxNormalizedUrlLength < normalized.length then
    throw (.invalidTarget (py "Normalized URL exceeds 500 characters."))
  return ⟨host, normalized⟩

theorem memStripTrailingDot {host : PyStr} {c : CodePoint} (member : c ∈ stripTrailingDot host) : c ∈ host := by
  unfold stripTrailingDot rstrip at member
  exact List.mem_reverse.1 (List.dropWhile_sublist _ |>.subset (List.mem_reverse.1 member))

end TargetNormalization
end SentinelGpt
