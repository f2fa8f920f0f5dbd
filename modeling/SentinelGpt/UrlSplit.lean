import SentinelGpt.IpAddress

/-! `urllib.parse.urlsplit` and the accessors of its result. -/
namespace SentinelGpt

structure SplitResult where
  scheme : PyStr
  netloc : PyStr
  path : PyStr
  query : PyStr
  fragment : PyStr
  deriving DecidableEq, Repr

namespace UrlSplit
open JsonScan

def isAsciiAlpha (c : CodePoint) : Bool :=
  (0x41 ≤ c.val && c.val ≤ 0x5A) || (0x61 ≤ c.val && c.val ≤ 0x7A)

def isSchemeChar (c : CodePoint) : Bool :=
  isAsciiAlpha c || isDigit c || c == 0x2B || c == 0x2D || c == 0x2E

/- Leading control characters and blanks go, and every tab and line break. -/
def cleaned (url : PyStr) : PyStr :=
  (url.dropWhile fun c => c.val ≤ 0x20).filter fun c => !(c == 0x09 || c == 0x0D || c == 0x0A)

def splitScheme (python : Python) (url : PyStr) : PyStr × PyStr :=
  let (front, hasColon, rest) := partition 0x3A url
  if hasColon && front.head?.any isAsciiAlpha && front.all isSchemeChar then
    (python.lower front, rest)
  else ([], url)

def isNetlocEnd (c : CodePoint) : Bool := c == 0x2F || c == 0x3F || c == 0x23

def splitNetloc (url : PyStr) : PyStr × PyStr :=
  if (py "//").isPrefixOf url then
    ((url.drop 2).takeWhile fun c => !isNetlocEnd c, (url.drop 2).dropWhile fun c => !isNetlocEnd c)
  else ([], url)

/- `v` HEX+ `.` ANY+, the dot not matching a line break. -/
def isIpvFuture (host : PyStr) : Bool :=
  let hex := (host.drop 1).takeWhile fun c => (hexValue c).isSome
  let rest := (host.drop 1).dropWhile fun c => (hexValue c).isSome
  !hex.isEmpty && rest.head? == some 0x2E && !(rest.drop 1).isEmpty &&
    (rest.drop 1).all fun c => c != 0x0A

def checkBracketedHost (host : PyStr) : Bool :=
  if host.head? == some 0x76 then isIpvFuture host
  else match IPAddress.parse host with
    | some (.v6 _ _) => true
    | _ => false

def checkBrackets (netloc : PyStr) : Bool :=
  match netloc.contains 0x5B, netloc.contains 0x5D with
  | false, false => true
  | true, true => checkBracketedHost (partition 0x5D (partition 0x5B netloc).2.2).1
  | _, _ => false

/- No character of the netloc may expand under NFKC to one that ends or splits it. -/
def checkNetloc (python : Python) (netloc : PyStr) : Bool :=
  let kept := netloc.filter fun c => !(c == 0x40 || c == 0x3A || c == 0x23 || c == 0x3F)
  netloc.all (fun c => c.val < 0x80) || python.nfkc kept == kept ||
    !(python.nfkc kept).any fun c => isNetlocEnd c || c == 0x40 || c == 0x3A

end UrlSplit

open UrlSplit in
def urlsplit (python : Python) (url : PyStr) : Except PyError SplitResult :=
  let (scheme, rest) := splitScheme python (cleaned url)
  let (netloc, rest) := splitNetloc rest
  if !checkBrackets netloc then .error .valueError
  else
    let (rest, _, fragment) := partition 0x23 rest
    let (path, _, query) := partition 0x3F rest
    if checkNetloc python netloc then .ok ⟨scheme, netloc, path, query, fragment⟩
    else .error .valueError

namespace SplitResult
open JsonScan

def hostinfo (parts : SplitResult) : PyStr × PyStr :=
  let info := afterLast 0x40 parts.netloc
  let (_, bracket, bracketed) := partition 0x5B info
  if bracket then
    let (host, _, rest) := partition 0x5D bracketed
    (host, (partition 0x3A rest).2.2)
  else
    let (host, _, port) := partition 0x3A info
    (host, port)

def hostname (python : Python) (parts : SplitResult) : Option PyStr :=
  let host := parts.hostinfo.1
  if host.isEmpty then none
  else
    let (name, percent, zone) := partition 0x25 host
    some (python.lower name ++ (if percent then [0x25] else []) ++ zone)

/- `parts.port`; ValueError where it is no number or out of range. -/
def port (parts : SplitResult) : Except PyError (Option Nat) :=
  let text := parts.hostinfo.2
  if text.isEmpty then .ok none
  else if text.all isDigit && text.length ≤ maxIntDigits && digitsValue text ≤ 65535 then
    .ok (some (digitsValue text))
  else .error .valueError

end SplitResult
end SentinelGpt
