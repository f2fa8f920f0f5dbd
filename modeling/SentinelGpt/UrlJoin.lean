import SentinelGpt.UrlSplit

/-! `urllib.parse.urlunsplit`, and `urljoin` of references without a scheme. -/
namespace SentinelGpt

/- `urlunsplit` of parts with a netloc, or without a scheme. -/
def urlunsplit (parts : SplitResult) : PyStr :=
  let { scheme, netloc, path, query, fragment } := parts
  let url :=
    if !netloc.isEmpty || (py "//").isPrefixOf path then
      py "//" ++ netloc ++ (if !path.isEmpty && path.head? != some 0x2F then 0x2F :: path else path)
    else path
  (if scheme.isEmpty then [] else scheme ++ [0x3A]) ++ url ++
    (if query.isEmpty then [] else 0x3F :: query) ++ (if fragment.isEmpty then [] else 0x23 :: fragment)

namespace UrlJoin

def splitParams (path : PyStr) : PyStr × PyStr :=
  let last := afterLast 0x2F path
  let (segment, _, params) := partition 0x3B last
  (path.take (path.length - last.length) ++ segment, params)

def withParams (path params : PyStr) : PyStr := if params.isEmpty then path else path ++ 0x3B :: params

def filterInner : List PyStr → List PyStr
  | [] => []
  | first :: rest => first :: (rest.dropLast.filter fun s => !s.isEmpty) ++ rest.getLast?.toList

def resolveSegment (resolved : List PyStr) (segment : PyStr) : List PyStr :=
  if segment = py ".." then resolved.dropLast
  else if segment = py "." then resolved
  else resolved ++ [segment]

def resolveSegments (segments : List PyStr) : List PyStr :=
  segments.foldl resolveSegment [] ++
    (if segments.getLast? = some (py ".") ∨ segments.getLast? = some (py "..") then [[]] else [])

def directoryOf (path : PyStr) : List PyStr :=
  let parts := splitOn 0x2F path
  if parts.getLast? = some [] then parts else parts.dropLast

def segmentsOf (base path : PyStr) : List PyStr :=
  if path.head? = some 0x2F then splitOn 0x2F path
  else filterInner (directoryOf base ++ splitOn 0x2F path)

def joinedPath (base path : PyStr) : PyStr :=
  let joined := join (py "/") (resolveSegments (segmentsOf base path))
  if joined.isEmpty then py "/" else joined

end UrlJoin

open UrlJoin in
/- `urljoin(base, url)`, where neither has a scheme nor `url` a netloc. -/
def urljoin (python : Python) (base url : PyStr) : Except PyError PyStr := do
  if base.isEmpty then return url
  if url.isEmpty then return base
  let b ← urlsplit python base
  let u ← urlsplit python url
  let (basePath, baseParams) := splitParams b.path
  let (path, params) := splitParams u.path
  if path.isEmpty && params.isEmpty then
    return urlunsplit ⟨[], b.netloc, withParams basePath baseParams,
      if u.query.isEmpty then b.query else u.query, u.fragment⟩
  return urlunsplit ⟨[], b.netloc, withParams (joinedPath basePath path) params, u.query, u.fragment⟩

end SentinelGpt
