import SentinelGpt.FindingExplanation
import SentinelGpt.HttpEngine

/-! The stored fallback map has the ids of the engine, and is asked for the ids of the table. -/
namespace SentinelGpt
open FallbackTemplates

theorem mapMMem {α β ε : Type} {f : α → Except ε β} {items : List α} {results : List β}
    (ok : items.mapM f = .ok results) {b : β} (member : b ∈ results) : ∃ a ∈ items, f a = .ok b := by
  induction items generalizing results with
  | nil =>
    cases ok
    exact absurd member List.not_mem_nil
  | cons a rest ih =>
    rw [List.mapM_cons] at ok
    obtain ⟨first, here, ok⟩ := bindOk ok
    obtain ⟨others, there, ok⟩ := bindOk ok
    cases ok
    rcases List.mem_cons.mp member with same | later
    · exact ⟨a, List.mem_cons_self, same ▸ here⟩
    · obtain ⟨c, inside, made⟩ := ih there later
      exact ⟨c, List.mem_cons_of_mem a inside, made⟩

def Finding.Made (python : Python) (f : Finding) : Prop :=
  ∃ category title location, Finding.makeId python category title location = .ok f.id

def HttpAnalysisResult.Emitted (python : Python) (result : HttpAnalysisResult) : Prop :=
  ∀ f ∈ result.findings, f.Made python

theorem createdMade {python : Python} {category title description evidence location
    recommendation : PyStr} {severity : Severity} {confidence : Confidence}
    {observationIds : List PyStr} {f : Finding}
    (ok : Finding.create python category title description severity confidence evidence location
      recommendation observationIds = .ok f) : f.Made python := by
  obtain ⟨id, made, ok⟩ := bindOk ok
  cases ok
  exact ⟨category, title, location, made⟩

theorem madeShort {python : Python} {f : Finding} (made : f.Made python) : f.id.length ≤ 16 := by
  obtain ⟨category, title, location, made⟩ := made
  obtain ⟨digest, -, ok⟩ := bindOk made
  rw [← Except.ok.inj ok]
  exact List.length_take_le 16 digest

theorem uuidTextLength (id : Nat) : (uuidText id).length = 36 := by
  have hyphened : ∀ digits : PyStr, digits.length = 32 →
      (join (py "-") [digits.take 8, (digits.drop 8).take 4, (digits.drop 12).take 4,
        (digits.drop 16).take 4, digits.drop 20]).length = 36 := by
    intro digits length
    have hyphen : (py "-").length = 1 := rfl
    simp [join, List.intercalate, length, hyphen]
  apply hyphened
  rw [hexText, List.length_reverse, List.length_map, List.length_range]

namespace HttpAnalysis

section Engine
variable {python : Python}

def Assessed.Made (python : Python) (a : Assessed) : Prop := ∀ f ∈ a.findings, f.Made python

theorem joinedMade {parts : List Assessed} (made : ∀ a ∈ parts, a.Made python) :
    (Assessed.joined parts).Made python := by
  intro f member
  obtain ⟨a, part, inside⟩ := List.mem_flatMap.mp member
  exact made a part f inside

theorem blankMade {observations : List Observation} : Assessed.Made python ⟨observations, []⟩ :=
  fun _ member => absurd member List.not_mem_nil

theorem singleMade {observations : List Observation} {f : Finding} (made : f.Made python) :
    Assessed.Made python ⟨observations, [f]⟩ := by
  intro g member
  rw [List.mem_singleton.mp member]
  exact made

theorem presentMade {header : SecurityHeader} {location value detail : PyStr} {a : Assessed}
    (ok : headerPresent python header location value detail = .ok a) : a.Made python := by
  obtain ⟨observation, -, ok⟩ := bindOk ok
  cases ok
  exact blankMade

theorem headerMade {headers : Headers} {location : PyStr} {header : SecurityHeader} {a : Assessed}
    (ok : assessHeader python headers location header = .ok a) : a.Made python := by
  unfold assessHeader at ok
  split at ok
  · obtain ⟨observation, -, ok⟩ := bindOk ok
    obtain ⟨finding, created, ok⟩ := bindOk ok
    cases ok
    exact singleMade (createdMade created)
  · split at ok
    · split at ok
      · exact presentMade ok
      · obtain ⟨observation, -, ok⟩ := bindOk ok
        obtain ⟨finding, created, ok⟩ := bindOk ok
        cases ok
        exact singleMade (createdMade created)
    · exact presentMade ok

theorem hstsMade {response : HttpResponseData} {location : PyStr} {a : Assessed}
    (ok : hstsOverHttp python response location = .ok a) : a.Made python := by
  unfold hstsOverHttp at ok
  split at ok
  · split at ok
    · cases ok
      exact blankMade
    · obtain ⟨observation, -, ok⟩ := bindOk ok
      cases ok
      exact blankMade
  · cases ok
    exact blankMade

theorem headersMade {response : HttpResponseData} {location : PyStr} {a : Assessed}
    (ok : assessHeaders python response location = .ok a) : a.Made python := by
  obtain ⟨parts, each, ok⟩ := bindOk ok
  obtain ⟨hsts, noted, ok⟩ := bindOk ok
  cases ok
  apply joinedMade
  intro a member
  rcases List.mem_append.mp member with part | last
  · obtain ⟨header, -, made⟩ := mapMMem each part
    exact headerMade made
  · rw [List.mem_singleton.mp last]
    exact hstsMade noted

theorem missingMade {flag title description recommendation location : PyStr} {names : List PyStr}
    {a : Assessed} (ok : missingAttribute python flag title description recommendation names location =
      .ok a) : a.Made python := by
  unfold missingAttribute at ok
  split at ok
  · cases ok
    exact blankMade
  · obtain ⟨observation, -, ok⟩ := bindOk ok
    obtain ⟨finding, created, ok⟩ := bindOk ok
    cases ok
    exact singleMade (createdMade created)

theorem samesiteMade {cookies : List PyStr} {location : PyStr} {a : Assessed}
    (ok : samesiteIssues python cookies location = .ok a) : a.Made python := by
  unfold samesiteIssues at ok
  dsimp only at ok
  split at ok
  · cases ok
    exact blankMade
  · obtain ⟨observation, -, ok⟩ := bindOk ok
    obtain ⟨finding, created, ok⟩ := bindOk ok
    cases ok
    exact singleMade (createdMade created)

theorem cookiesMade {response : HttpResponseData} {location : PyStr} {a : Assessed}
    (ok : assessCookies python response location = .ok a) : a.Made python := by
  unfold assessCookies at ok
  dsimp only at ok
  split at ok
  · cases ok
    exact blankMade
  · obtain ⟨observed, noted, ok⟩ := bindOk ok
    obtain ⟨secure, inSecure, ok⟩ := bindOk ok
    obtain ⟨httponly, inHttponly, ok⟩ := bindOk ok
    obtain ⟨samesite, inSamesite, ok⟩ := bindOk ok
    obtain ⟨observation, -, noted⟩ := bindOk noted
    cases ok
    cases noted
    apply joinedMade
    simp only [List.forall_mem_cons]
    exact ⟨blankMade, missingMade inSecure, missingMade inHttponly, samesiteMade inSamesite,
      fun _ member => absurd member List.not_mem_nil⟩

theorem serverMade {response : HttpResponseData} {a : Assessed}
    (ok : assessServerInfo python response = .ok a) : a.Made python := by
  obtain ⟨parts, each, ok⟩ := bindOk ok
  cases ok
  apply joinedMade
  intro a member
  obtain ⟨key, -, made⟩ := mapMMem each member
  unfold assessServerHeader at made
  split at made
  · cases made
    exact blankMade
  · split at made
    · cases made
      exact blankMade
    · obtain ⟨observation, -, made⟩ := bindOk made
      cases made
      exact blankMade

theorem assessedEmitted {name version hostname : PyStr} {origin : OriginSpec}
    {response : HttpResponseData} {r : HttpAnalysisResult}
    (ok : assessedResult python name version hostname origin response = .ok r) : r.Emitted python := by
  obtain ⟨transport, posture, ok⟩ := bindOk ok
  obtain ⟨headers, inHeaders, ok⟩ := bindOk ok
  obtain ⟨cookies, inCookies, ok⟩ := bindOk ok
  obtain ⟨server, inServer, ok⟩ := bindOk ok
  obtain ⟨evidence, -, posture⟩ := bindOk posture
  obtain ⟨observation, -, posture⟩ := bindOk posture
  cases posture
  cases ok
  have parts : ∀ a ∈ [Assessed.observed observation, headers, cookies, server], a.Made python := by
    simp only [List.forall_mem_cons]
    exact ⟨blankMade, headersMade inHeaders, cookiesMade inCookies, serverMade inServer,
      fun _ member => absurd member List.not_mem_nil⟩
  exact joinedMade parts

theorem unreachableEmitted {name version hostname : PyStr} {origin : OriginSpec}
    {exc : ControlledTransportError} {r : HttpAnalysisResult}
    (ok : unreachableResult python name version hostname origin exc = .ok r) : r.Emitted python := by
  obtain ⟨observation, -, ok⟩ := bindOk ok
  obtain ⟨finding, created, ok⟩ := bindOk ok
  cases ok
  intro f member
  rw [List.mem_singleton.mp member]
  exact createdMade created

theorem engineEmits {name version : PyStr} {context : ScanNetworkContext}
    {services : EngineServices python} {r : HttpAnalysisResult}
    (ok : execute name version context services = .ok r) : r.Emitted python := by
  obtain ⟨outcome, -, ok⟩ := bindOk ok
  cases outcome with
  | error exc => exact unreachableEmitted ok
  | ok response => exact assessedEmitted ok

end Engine
end HttpAnalysis

theorem dictSetGet (members : List (PyStr × Json)) (name key : PyStr) (value : Json) :
    Json.get? (dictSet members name value) key =
      if name = key then some value else Json.get? members key := by
  induction members with
  | nil => rfl
  | cons entry rest ih =>
    obtain ⟨k, v⟩ := entry
    unfold dictSet
    by_cases same : k = name
    · rw [if_pos same, Json.get?, Json.get?, same]
      split <;> rfl
    · rw [if_neg same, Json.get?, Json.get?, ih]
      by_cases first : k = key
      · rw [if_pos first, if_pos first, if_neg (fun other => same (first.trans other.symm))]
      · rw [if_neg first, if_neg first]

theorem payloadGet (python : Python) (result : HttpAnalysisResult) (key : PyStr) :
    Json.get? (perFindingFallbackPayload python result) key =
      (result.findings.reverse.find? fun f => f.id == key).map fun f =>
        (buildFallbackExplanation python f.id f.category).toDict := by
  have folded : ∀ (findings : List Finding) (members : List (PyStr × Json)),
      Json.get? (findings.foldl (fun members f => dictSet members f.id
        (buildFallbackExplanation python f.id f.category).toDict) members) key =
      ((findings.reverse.find? fun f => f.id == key).map fun f =>
        (buildFallbackExplanation python f.id f.category).toDict).or (Json.get? members key) := by
    intro findings
    induction findings with
    | nil => exact fun members => rfl
    | cons f rest ih =>
      intro members
      rw [List.foldl_cons, ih, dictSetGet, List.reverse_cons, List.find?_append]
      cases rest.reverse.find? fun f => f.id == key with
      | some g => rfl
      | none =>
        by_cases same : f.id = key
        · simp [same]
        · simp [same]
  exact (folded result.findings []).trans Option.or_none

/- A stored finding has its entry under the id the endpoint asks for, and the entry is the fallback
for its stored category. -/
def FallbackServed (python : Python) (result : HttpAnalysisResult) (row : ScanFinding) : Prop :=
  ∃ category, categoryCode? row.categoryId = some category ∧
    Json.get? (perFindingFallbackPayload python result) (uuidText row.id) =
      some (buildFallbackExplanation python (uuidText row.id) category).toDict

/- The map has nothing under the id of any row: the ids the engine makes are shorter. -/
theorem entryMissing {python : Python} {result : HttpAnalysisResult} (emitted : result.Emitted python)
    (id : Nat) : Json.get? (perFindingFallbackPayload python result) (uuidText id) = none := by
  rw [payloadGet, Option.map_eq_none_iff, List.find?_eq_none]
  intro f member same
  have short := madeShort (emitted f (List.mem_reverse.mp member))
  rw [beq_iff_eq.mp same, uuidTextLength] at short
  omega

theorem fallbackUnserved (env : Env) (identity : FindingIdentity) (execution : ScanEngineExecution)
    (engineCode : PyStr) (result : HttpAnalysisResult) (emitted : result.Emitted env.python) :
    ∀ row ∈ findingRows env identity execution engineCode result.findings,
      ¬ FallbackServed env.python result row := by
  intro row _ served
  obtain ⟨category, -, found⟩ := served
  rw [entryMissing emitted] at found
  contradiction

def silentRun : Except PyError HttpAnalysisResult :=
  HttpAnalysis.unreachableResult (Python.onAscii []) (py "http-security-analysis") (py "1")
    (py "example.com") ⟨py "https", none, py "/"⟩ ⟨.connectTimeout, py "timed out"⟩

def silentRows (result : HttpAnalysisResult) : List ScanFinding :=
  findingRows (plainEnv (Python.onAscii []) 2 (plainPipeline result) noFault) (identityOf rescan none)
    rescanExecution (py "headers-analyzer") result.findings

theorem silentReturned : ∃ result, silentRun = .ok result ∧ result.findings.length = 1 := by
  have one : silentRun.toOption.map (fun result => result.findings.length) = some 1 := by decide +kernel
  obtain ⟨result, returned, count⟩ := Option.map_eq_some_iff.mp one
  exact ⟨result, okOfToOption returned, count⟩

theorem silentUnserved : ∃ result, silentRun = .ok result ∧
    ∀ row ∈ silentRows result, ¬ FallbackServed (Python.onAscii []) result row := by
  obtain ⟨result, ran, -⟩ := silentReturned
  exact ⟨result, ran, fallbackUnserved _ _ _ _ result (HttpAnalysis.unreachableEmitted ran)⟩

/- The entry of the one finding is under the id of the engine, and nothing is under that of its row. -/
theorem silentEntryMissing : ∃ result row, silentRun = .ok result ∧ row ∈ silentRows result ∧
    ¬ FallbackServed (Python.onAscii []) result row := by
  obtain ⟨result, ran, count⟩ := silentReturned
  obtain ⟨f, single⟩ := List.length_eq_one_iff.mp count
  have stored : ∃ row, row ∈ silentRows result := by
    rw [silentRows, single]
    exact ⟨_, List.mem_singleton.mpr rfl⟩
  obtain ⟨row, member⟩ := stored
  refine ⟨result, row, ran, member, fun served => ?_⟩
  obtain ⟨category, -, found⟩ := served
  rw [entryMissing (HttpAnalysis.unreachableEmitted ran)] at found
  contradiction

end SentinelGpt
