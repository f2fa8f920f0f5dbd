import SentinelGpt.FindingIdentity
import SentinelGpt.LoopDict
import SentinelGpt.AddressTexts
import Mathlib.Data.List.Sort

/-! What the engine observes and finds in one response has identities of its own, so that the evidence
set does not depend on the order in which it is reported. -/
namespace SentinelGpt
open HttpAnalysis

def Observation.identity (o : Observation) : PyStr := o.category ++ py "|" ++ o.title ++ py "|" ++ o.location

def Finding.identity (f : Finding) : PyStr :=
  py "finding|" ++ f.category ++ py "|" ++ f.title ++ py "|" ++ f.location

def digest16 (python : Python) (identity : PyStr) : PyStr := (python.sha256 identity).take 16

def TellsApart (python : Python) (texts : List PyStr) : Prop :=
  ∀ s ∈ texts, ∀ t ∈ texts, digest16 python s = digest16 python t → s = t

theorem sha16Is {python : Python} {identity id : PyStr} (ok : sha16 python identity = .ok id) :
    id = digest16 python identity := by
  obtain ⟨digest, hashed, ok⟩ := bindOk ok
  cases ok
  cases text : encodable identity with
  | true =>
    rw [hexdigestOk python text] at hashed
    cases hashed
    rfl
  | false =>
    rw [hexdigestError python text] at hashed
    cases hashed

def Observation.kind (o : Observation) : Kind := (o.category, o.title)

theorem observationMade {python : Python} {category title detail evidence location : PyStr} {o : Observation}
    (ok : Observation.create python category title detail evidence location = .ok o) :
    o.kind = (category, title) ∧ o.id = digest16 python o.identity := by
  obtain ⟨id, made, ok⟩ := bindOk ok
  cases ok
  exact ⟨rfl, sha16Is made⟩

theorem findingMade {python : Python} {category title description evidence location recommendation : PyStr}
    {severity : Severity} {confidence : Confidence} {observationIds : List PyStr} {f : Finding}
    (ok : Finding.create python category title description severity confidence evidence location
      recommendation observationIds = .ok f) : f.id = digest16 python f.identity := by
  obtain ⟨id, made, ok⟩ := bindOk ok
  cases ok
  exact sha16Is made

def BarFree (text : PyStr) : Prop := (0x7C : CodePoint) ∉ text

instance (text : PyStr) : Decidable (BarFree text) := inferInstanceAs (Decidable (_ ∉ _))

theorem barFreeAppend {s t : PyStr} (first : BarFree s) (second : BarFree t) : BarFree (s ++ t) := fun bar =>
  (List.mem_append.mp bar).elim first second

theorem barTells {a b x y : PyStr} (free : BarFree a) (free' : BarFree b) (same : a ++ 0x7C :: x = b ++ 0x7C :: y) :
    a = b ∧ x = y := by
  have first := takeUntil (v := x) free
  rw [same, takeUntil free'] at first
  rw [first] at same
  exact ⟨first.symm, List.tail_eq_of_cons_eq (List.append_cancel_left same)⟩

def identityText (kind : Kind) (location : PyStr) : PyStr := kind.1 ++ py "|" ++ kind.2 ++ py "|" ++ location

theorem kindTells {kind kind' : Kind} {location location' : PyStr} (free : BarFree kind.1 ∧ BarFree kind.2)
    (free' : BarFree kind'.1 ∧ BarFree kind'.2) (same : identityText kind location = identityText kind' location') :
    kind = kind' := by
  simp only [identityText, List.append_assoc] at same
  obtain ⟨categories, rest⟩ := barTells free.1 free'.1 same
  obtain ⟨titles, -⟩ := barTells free.2 free'.2 rest
  exact Prod.ext categories titles

theorem identitiesNodup {α : Type} {items : List α} {kind : α → Kind} (location : α → PyStr)
    (distinct : (items.map kind).Nodup) (free : ∀ k ∈ items.map kind, BarFree k.1 ∧ BarFree k.2) :
    (items.map fun a => identityText (kind a) (location a)).Nodup := by
  apply List.Nodup.map_on _ (List.Nodup.of_map kind distinct)
  intro a inA b inB same
  have kinds := kindTells (free _ (List.mem_map_of_mem inA)) (free _ (List.mem_map_of_mem inB)) same
  exact List.inj_on_of_nodup_map distinct inA inB kinds

abbrev Sections := List (PyStr × List PyStr)

def Sections.kinds (sections : Sections) : List Kind := sections.flatMap fun s => s.2.map (s.1, ·)

theorem sectionsMem {sections : Sections} {kind : Kind} :
    kind ∈ sections.kinds ↔ ∃ s ∈ sections, kind.1 = s.1 ∧ kind.2 ∈ s.2 := by
  rw [Sections.kinds, List.mem_flatMap]
  apply exists_congr
  intro s
  apply and_congr_right
  intro _
  constructor
  · intro inside
    obtain ⟨title, member, rfl⟩ := List.mem_map.mp inside
    exact ⟨rfl, member⟩
  · intro inside
    exact List.mem_map.mpr ⟨kind.2, inside.2, Prod.ext inside.1.symm rfl⟩

theorem sectionsNodup {sections : Sections} (categories : (sections.map Prod.fst).Nodup)
    (titles : ∀ s ∈ sections, s.2.Nodup) : sections.kinds.Nodup := by
  induction sections with
  | nil => exact List.nodup_nil
  | cons s rest ih =>
    obtain ⟨fresh, others⟩ := List.nodup_cons.mp categories
    obtain ⟨ofFirst, ofOthers⟩ := List.forall_mem_cons.mp titles
    have first : (s.2.map (s.1, ·)).Nodup := List.Nodup.map (fun _ _ same => (Prod.mk.inj same).2) ofFirst
    have apart : ∀ kind ∈ s.2.map (s.1, ·), ∀ kind' ∈ Sections.kinds rest, kind ≠ kind' := by
      intro kind here kind' there same
      obtain ⟨title, -, rfl⟩ := List.mem_map.mp here
      obtain ⟨s', inside, category, -⟩ := sectionsMem.mp (same ▸ there)
      exact fresh (category ▸ List.mem_map_of_mem inside)
    exact List.nodup_append.mpr ⟨first, ih others ofOthers, apart⟩

theorem sectionsBarFree {sections : Sections} (each : ∀ s ∈ sections, BarFree s.1 ∧ ∀ t ∈ s.2, BarFree t) :
    ∀ k ∈ sections.kinds, BarFree k.1 ∧ BarFree k.2 := by
  intro k inside
  obtain ⟨s, member, category, title⟩ := sectionsMem.mp inside
  exact ⟨category ▸ (each s member).1, (each s member).2 _ title⟩

theorem takenNodup {α : Type} {items : List α} {choices : α → List PyStr} {taken : α → Option PyStr}
    (apart : items.Pairwise fun a b => ∀ t ∈ choices a, t ∉ choices b)
    (chosen : ∀ a ∈ items, ∀ t ∈ taken a, t ∈ choices a) : (items.filterMap taken).Nodup := by
  induction items with
  | nil => exact List.nodup_nil
  | cons a rest ih =>
    obtain ⟨first, others⟩ := List.pairwise_cons.mp apart
    obtain ⟨own, theirs⟩ := List.forall_mem_cons.mp chosen
    have rest := ih others theirs
    cases found : taken a with
    | none => rwa [List.filterMap_cons_none found]
    | some t =>
      rw [List.filterMap_cons_some found]
      apply List.nodup_cons.mpr ⟨_, rest⟩
      intro again
      obtain ⟨b, inside, same⟩ := List.mem_filterMap.mp again
      exact first b inside t (own t found) (theirs b inside t same)

structure Reports (python : Python) (a : Assessed) (category : PyStr) (titles : List PyStr) : Prop where
  kinds : a.observations.map Observation.kind = titles.map (category, ·)
  observed : ∀ o ∈ a.observations, o.id = digest16 python o.identity
  found : ∀ f ∈ a.findings, f.id = digest16 python f.identity

section Parts
variable {python : Python} {category : PyStr}

theorem reportsNothing : Reports python ⟨[], []⟩ category [] :=
  ⟨rfl, fun _ inside => absurd inside List.not_mem_nil, fun _ inside => absurd inside List.not_mem_nil⟩

theorem reportsObserved {title detail evidence location : PyStr} {o : Observation}
    (ok : Observation.create python category title detail evidence location = .ok o) :
    Reports python (.observed o) category [title] := by
  obtain ⟨kind, id⟩ := observationMade ok
  constructor
  · simp only [Assessed.observed, List.map_cons, List.map_nil, kind]
  · intro o' only
    rw [List.mem_singleton.mp only, id]
  · intro f none
    cases none

theorem reportsBoth {title detail evidence location : PyStr} {o : Observation} {f : Finding}
    (ok : Observation.create python category title detail evidence location = .ok o)
    (id : f.id = digest16 python f.identity) : Reports python ⟨[o], [f]⟩ category [title] := by
  have observed := reportsObserved ok
  constructor
  · exact observed.kinds
  · exact observed.observed
  · intro f' only
    rw [List.mem_singleton.mp only, id]

theorem reportsJoined {parts : List Assessed} {titles : List (List PyStr)}
    (each : List.Forall₂ (fun part titles => Reports python part category titles) parts titles) :
    Reports python (.joined parts) category titles.flatten := by
  induction each with
  | nil => exact reportsNothing
  | @cons part own parts titles first others ih =>
    have observations : (Assessed.joined (part :: parts)).observations =
        part.observations ++ (Assessed.joined parts).observations := List.flatMap_cons
    have findings : (Assessed.joined (part :: parts)).findings =
        part.findings ++ (Assessed.joined parts).findings := List.flatMap_cons
    constructor
    · rw [observations, List.map_append, first.kinds, ih.kinds, List.flatten_cons, List.map_append]
    · rw [observations]
      exact List.forall_mem_append.mpr ⟨first.observed, ih.observed⟩
    · rw [findings]
      exact List.forall_mem_append.mpr ⟨first.found, ih.found⟩

theorem reportsEach {α : Type} {assess : α → Except PyError Assessed} {title : α → Option PyStr} {items : List α}
    {parts : List Assessed} (each : ∀ a part, assess a = .ok part → Reports python part category (title a).toList)
    (ok : items.mapM assess = .ok parts) :
    List.Forall₂ (fun part titles => Reports python part category titles) parts
      (items.map fun a => (title a).toList) := by
  induction items generalizing parts with
  | nil =>
    cases ok
    exact .nil
  | cons a items ih =>
    rw [List.mapM_cons] at ok
    obtain ⟨part, first, ok⟩ := bindOk ok
    obtain ⟨others, rest, ok⟩ := bindOk ok
    cases ok
    exact .cons (each a part first) (ih rest)

end Parts

def headerNote (python : Python) (headers : Headers) (header : SecurityHeader) : PyStr :=
  match headerMap python headers header.lowered with
  | none => header.display ++ py " absent"
  | some value =>
    if header.lowered = contentTypeOptions ∧ nosniff python value = false then
      header.display ++ py " has a nonstandard value"
    else header.display ++ py " present"

def hstsNote (python : Python) (response : HttpResponseData) : Option PyStr :=
  if response.finalTarget.scheme = py "http" ∧
      (headerMap python response.headers (py "strict-transport-security")).isSome then
    some (py "HSTS sent over plain HTTP")
  else none

def missingNote (python : Python) (flag lacked : PyStr) (cookies : List PyStr) : Option PyStr :=
  if cookies.any (lacks python flag) then some (py "Cookies missing " ++ lacked) else none

def samesiteNote (python : Python) (cookies : List PyStr) : Option PyStr :=
  if cookies.any fun c => (samesiteIssue python c).isSome then some (py "SameSite attribute gaps") else none

def cookieNotes (python : Python) (cookies : List PyStr) : List PyStr :=
  if cookies.isEmpty then [] else
    (natText cookies.length ++ py " Set-Cookie header(s) observed") ::
      ([missingNote python (py "secure") (py "Secure") cookies,
        missingNote python (py "httponly") (py "HttpOnly") cookies, samesiteNote python cookies].filterMap id)

def serverNote (python : Python) (headers : Headers) (key : PyStr) : Option PyStr :=
  match headerMap python headers key with
  | none => none
  | some value => if value.isEmpty then none else some (py "Server information exposed: " ++ key)

section Titles
variable {python : Python} {location : PyStr}

theorem headerReports {headers : Headers} {header : SecurityHeader} {a : Assessed}
    (ok : assessHeader python headers location header = .ok a) :
    Reports python a categoryHeaders [headerNote python headers header] := by
  have present : ∀ {value detail}, headerPresent python header location value detail = .ok a →
      Reports python a categoryHeaders [header.display ++ py " present"] := by
    intro value detail ok
    obtain ⟨observation, made, ok⟩ := bindOk ok
    cases ok
    exact reportsObserved made
  cases found : headerMap python headers header.lowered with
  | none =>
    simp only [assessHeader, headerNote, found] at ok ⊢
    obtain ⟨observation, made, ok⟩ := bindOk ok
    obtain ⟨finding, created, ok⟩ := bindOk ok
    cases ok
    exact reportsBoth made (findingMade created)
  | some value =>
    simp only [assessHeader, headerNote, found] at ok ⊢
    by_cases sniffing : header.lowered = contentTypeOptions
    · cases standard : nosniff python value with
      | true =>
        rw [if_pos sniffing, standard, if_pos rfl] at ok
        rw [if_neg (by simp)]
        exact present ok
      | false =>
        rw [if_pos sniffing, standard, if_neg (by simp)] at ok
        obtain ⟨observation, made, ok⟩ := bindOk ok
        obtain ⟨finding, created, ok⟩ := bindOk ok
        cases ok
        rw [if_pos ⟨sniffing, rfl⟩]
        exact reportsBoth made (findingMade created)
    · rw [if_neg sniffing] at ok
      rw [if_neg (by simp [sniffing])]
      exact present ok

theorem hstsReports {response : HttpResponseData} {a : Assessed}
    (ok : hstsOverHttp python response location = .ok a) :
    Reports python a categoryHeaders (hstsNote python response).toList := by
  unfold hstsOverHttp at ok
  unfold hstsNote
  split at ok
  · rename_i plain
    split at ok
    · rename_i unsent
      cases ok
      rw [unsent, if_neg (by simp)]
      exact reportsNothing
    · rename_i sent
      obtain ⟨observation, made, ok⟩ := bindOk ok
      cases ok
      rw [sent, if_pos ⟨plain, rfl⟩]
      exact reportsObserved made
  · rename_i secure
    cases ok
    rw [if_neg fun both => secure both.1]
    exact reportsNothing

theorem takenJoined {α : Type} (title : α → Option PyStr) (items : List α) :
    (items.map fun a => (title a).toList).flatten = items.filterMap title := by
  rw [List.filterMap_eq_flatMap_toList, List.flatMap_def]

theorem headersReports {response : HttpResponseData} {a : Assessed}
    (ok : assessHeaders python response location = .ok a) :
    Reports python a categoryHeaders
      (securityHeaders.filterMap (fun header => some (headerNote python response.headers header)) ++
        (hstsNote python response).toList) := by
  obtain ⟨parts, each, ok⟩ := bindOk ok
  obtain ⟨hsts, noted, ok⟩ := bindOk ok
  cases ok
  have ofParts : List.Forall₂ (fun part titles => Reports python part categoryHeaders titles) parts
      (securityHeaders.map fun header => (some (headerNote python response.headers header)).toList) :=
    reportsEach (fun _ _ ok => headerReports ok) each
  have joined := reportsJoined (List.rel_append ofParts (.cons (hstsReports noted) .nil))
  rw [List.flatten_append, takenJoined, List.flatten_singleton] at joined
  exact joined

theorem missingReports {flag lacked title description recommendation : PyStr} {cookies : List PyStr} {a : Assessed}
    (ok : missingAttribute python lacked title description recommendation
      ((cookies.filter (lacks python flag)).map (cookieName python)) location = .ok a) :
    Reports python a categoryCookies (missingNote python flag lacked cookies).toList := by
  unfold missingAttribute at ok
  unfold missingNote
  cases some : cookies.any (lacks python flag) with
  | false =>
    have none : cookies.filter (lacks python flag) = [] := by simpa using some
    rw [none] at ok
    cases ok
    exact reportsNothing
  | true =>
    have names : ((cookies.filter (lacks python flag)).map (cookieName python)).isEmpty = false := by
      simpa using some
    rw [names] at ok
    obtain ⟨observation, made, ok⟩ := bindOk ok
    obtain ⟨finding, created, ok⟩ := bindOk ok
    cases ok
    exact reportsBoth made (findingMade created)

theorem samesiteReports {cookies : List PyStr} {a : Assessed}
    (ok : samesiteIssues python cookies location = .ok a) :
    Reports python a categoryCookies (samesiteNote python cookies).toList := by
  unfold samesiteIssues at ok
  unfold samesiteNote
  cases some : cookies.any fun c => (samesiteIssue python c).isSome with
  | false =>
    have none : cookies.filterMap (samesiteIssue python) = [] := by simpa using some
    rw [none] at ok
    cases ok
    exact reportsNothing
  | true =>
    have issues : (cookies.filterMap (samesiteIssue python)).isEmpty = false := by
      simpa [Option.isSome_iff_ne_none] using some
    simp only [issues] at ok
    obtain ⟨observation, made, ok⟩ := bindOk ok
    obtain ⟨finding, created, ok⟩ := bindOk ok
    cases ok
    exact reportsBoth made (findingMade created)

theorem cookiesReports {response : HttpResponseData} {a : Assessed}
    (ok : assessCookies python response location = .ok a) :
    Reports python a categoryCookies (cookieNotes python (cookiesOf python response)) := by
  unfold assessCookies at ok
  unfold cookieNotes
  cases empty : (cookiesOf python response).isEmpty with
  | true =>
    simp only [empty] at ok
    cases ok
    exact reportsNothing
  | false =>
    simp only [empty] at ok
    obtain ⟨observed, noted, ok⟩ := bindOk ok
    obtain ⟨secure, inSecure, ok⟩ := bindOk ok
    obtain ⟨httponly, inHttponly, ok⟩ := bindOk ok
    obtain ⟨samesite, inSamesite, ok⟩ := bindOk ok
    obtain ⟨observation, made, noted⟩ := bindOk noted
    cases ok
    cases noted
    have joined := reportsJoined (.cons (reportsObserved made) (.cons (missingReports inSecure)
      (.cons (missingReports inHttponly) (.cons (samesiteReports inSamesite) .nil))))
    rw [if_neg Bool.false_ne_true, ← takenJoined]
    exact joined

theorem serverReports {response : HttpResponseData} {a : Assessed}
    (ok : assessServerInfo python response = .ok a) :
    Reports python a categoryServer (interestingHeaders.filterMap (serverNote python response.headers)) := by
  obtain ⟨parts, each, ok⟩ := bindOk ok
  cases ok
  rw [← takenJoined]
  apply reportsJoined (reportsEach _ each)
  intro key part ok
  cases sent : headerMap python response.headers key with
  | none =>
    simp only [assessServerHeader, serverNote, sent] at ok ⊢
    cases ok
    exact reportsNothing
  | some value =>
    simp only [assessServerHeader, serverNote, sent] at ok ⊢
    cases empty : value.isEmpty with
    | true =>
      rw [empty] at ok
      cases ok
      exact reportsNothing
    | false =>
      rw [empty] at ok
      obtain ⟨observation, made, ok⟩ := bindOk ok
      cases ok
      exact reportsObserved made

end Titles

section Distinct
variable {python : Python}

def headerChoices (header : SecurityHeader) : List PyStr :=
  [header.display ++ py " absent", header.display ++ py " has a nonstandard value", header.display ++ py " present"]

theorem headerNoteChosen (headers : Headers) (header : SecurityHeader) :
    headerNote python headers header ∈ headerChoices header := by
  unfold headerNote headerChoices
  split
  · exact List.mem_cons_self
  · split
    · exact List.mem_cons_of_mem _ List.mem_cons_self
    · exact List.mem_cons_of_mem _ (List.mem_cons_of_mem _ List.mem_cons_self)

def issueChoices (header : SecurityHeader) : List PyStr :=
  [py "Missing " ++ header.display ++ py " security header", py "Nonstandard " ++ header.display ++ py " value"]

theorem issueChosen {headers : Headers} {header : SecurityHeader} {title : PyStr}
    (issue : headerIssue python headers header = some title) : title ∈ issueChoices header := by
  unfold headerIssue at issue
  split at issue
  · cases issue
    exact List.mem_cons_self
  · split at issue
    · cases issue
      exact List.mem_cons_of_mem _ List.mem_cons_self
    · cases issue

theorem headersNodup (response : HttpResponseData) :
    (securityHeaders.filterMap (fun header => some (headerNote python response.headers header)) ++
      (hstsNote python response).toList).Nodup ∧
    ∀ title ∈ securityHeaders.filterMap (fun header => some (headerNote python response.headers header)) ++
      (hstsNote python response).toList, BarFree title := by
  have apart : securityHeaders.Pairwise fun a b => ∀ t ∈ headerChoices a, t ∉ headerChoices b := by decide +kernel
  have plain : ∀ header ∈ securityHeaders, ∀ t ∈ headerChoices header,
      BarFree t ∧ t ≠ py "HSTS sent over plain HTTP" := by decide +kernel
  have chosen : ∀ t ∈ securityHeaders.filterMap (fun header => some (headerNote python response.headers header)),
      BarFree t ∧ t ≠ py "HSTS sent over plain HTTP" := by
    intro t inside
    obtain ⟨header, known, taken⟩ := List.mem_filterMap.mp inside
    exact plain header known t (Option.some.inj taken ▸ headerNoteChosen _ header)
  have hsts : ∀ t ∈ (hstsNote python response).toList, t = py "HSTS sent over plain HTTP" := by
    intro t inside
    have noted := Option.mem_toList.mp inside
    unfold hstsNote at noted
    split at noted
    · exact (Option.some.inj noted).symm
    · cases noted
  constructor
  · apply List.nodup_append.mpr
    constructor
    · exact takenNodup apart fun header _ t taken => Option.some.inj taken ▸ headerNoteChosen _ header
    · constructor
      · cases hstsNote python response with
        | none => exact List.nodup_nil
        | some t => exact List.nodup_singleton t
      · intro t inside t' last same
        exact (chosen t inside).2 (same.trans (hsts t' last))
  · intro t inside
    rcases List.mem_append.mp inside with inside | last
    · exact (chosen t inside).1
    · rw [hsts t last]
      decide

theorem takenSublist {taken : List (Option PyStr)} {titles : List PyStr}
    (each : List.Forall₂ (fun t title => ∀ u ∈ t, u = title) taken titles) : (taken.filterMap id).Sublist titles := by
  induction each with
  | nil => exact List.Sublist.slnil
  | @cons t title taken titles first _ ih =>
    cases t with
    | none => exact ih.cons title
    | some u =>
      rw [first u rfl]
      exact ih.cons_cons title

theorem noteOf {found : Bool} {title u : PyStr} (noted : u ∈ if found then some title else none) : u = title := by
  cases found with
  | true => exact (Option.some.inj noted).symm
  | false => cases noted

theorem cookiesNodup (cookies : List PyStr) :
    (cookieNotes python cookies).Nodup ∧ ∀ title ∈ cookieNotes python cookies, BarFree title := by
  have others := takenSublist (.cons (fun _ noted => noteOf noted) (.cons (fun _ noted => noteOf noted)
    (.cons (fun _ noted => noteOf noted) .nil)) :
    List.Forall₂ (fun t title => ∀ u ∈ t, u = title) [missingNote python (py "secure") (py "Secure") cookies,
      missingNote python (py "httponly") (py "HttpOnly") cookies, samesiteNote python cookies]
      [py "Cookies missing Secure", py "Cookies missing HttpOnly", py "SameSite attribute gaps"])
  have known : ∀ t ∈ [py "Cookies missing Secure", py "Cookies missing HttpOnly", py "SameSite attribute gaps"],
      BarFree t ∧ t.getLast? ≠ some 0x64 := by decide +kernel
  have counted : BarFree (natText cookies.length ++ py " Set-Cookie header(s) observed") := by
    rw [natText, pyDecimal]
    exact barFreeAppend (IPAddress.decimalFree rfl _) (by decide)
  have ends : (natText cookies.length ++ py " Set-Cookie header(s) observed").getLast? = some 0x64 := by
    rw [List.getLast?_append]
    rfl
  unfold cookieNotes
  split
  · exact ⟨List.nodup_nil, fun _ none => absurd none List.not_mem_nil⟩
  · constructor
    · apply List.nodup_cons.mpr
      constructor
      · intro again
        exact (known _ (others.subset again)).2 ends
      · exact List.Nodup.sublist others (by decide +kernel)
    · intro t inside
      rcases List.mem_cons.mp inside with rfl | inside
      · exact counted
      · exact (known t (others.subset inside)).1

theorem issuesNodup (headers : Headers) :
    (headerTitles python headers).Nodup ∧ ∀ title ∈ headerTitles python headers, BarFree title := by
  have apart : securityHeaders.Pairwise fun a b => ∀ t ∈ issueChoices a, t ∉ issueChoices b := by decide +kernel
  have plain : ∀ header ∈ securityHeaders, ∀ t ∈ issueChoices header, BarFree t := by decide +kernel
  constructor
  · exact takenNodup apart fun _ _ _ taken => issueChosen taken
  · intro t inside
    obtain ⟨header, known, issue⟩ := List.mem_filterMap.mp inside
    exact plain header known t (issueChosen issue)

theorem cookieIssuesNodup (cookies : List PyStr) :
    (cookieTitles python cookies).Nodup ∧ ∀ title ∈ cookieTitles python cookies, BarFree title := by
  have each : ∀ (found : Bool) (title : PyStr), (if found then [title] else []).Sublist [title] := by
    intro found title
    cases found with
    | true => exact List.Sublist.refl _
    | false => exact List.nil_sublist _
  have known : (cookieTitles python cookies).Sublist allCookieTitles :=
    ((each _ _).append (each _ _)).append (each _ _)
  have plain : ∀ t ∈ allCookieTitles, BarFree t := by decide +kernel
  constructor
  · exact List.Nodup.sublist known (by decide +kernel)
  · intro t inside
    exact plain t (known.subset inside)

theorem serverNodup (headers : Headers) :
    (interestingHeaders.filterMap (serverNote python headers)).Nodup ∧
      ∀ title ∈ interestingHeaders.filterMap (serverNote python headers), BarFree title := by
  have apart : interestingHeaders.Pairwise fun a b => ∀ t ∈ [py "Server information exposed: " ++ a],
      t ∉ [py "Server information exposed: " ++ b] := by decide +kernel
  have plain : ∀ key ∈ interestingHeaders, BarFree (py "Server information exposed: " ++ key) := by decide +kernel
  have chosen : ∀ key ∈ interestingHeaders, ∀ t ∈ serverNote python headers key,
      t ∈ [py "Server information exposed: " ++ key] := by
    intro key _ t noted
    unfold serverNote at noted
    split at noted
    · cases noted
    · split at noted
      · cases noted
      · rw [← Option.some.inj noted]
        exact List.mem_singleton_self _
  constructor
  · exact takenNodup apart chosen
  · intro t inside
    obtain ⟨key, known, noted⟩ := List.mem_filterMap.mp inside
    rw [List.mem_singleton.mp (chosen key known t noted)]
    exact plain key known

end Distinct

/- The kinds of what is observed are distinct, and so are those of what is found; ids are digests. -/
structure Identified (python : Python) (r : HttpAnalysisResult) : Prop where
  observed : (r.observations.map Observation.identity).Nodup
  found : (r.findings.map Finding.identity).Nodup
  observationIds : r.observations.map Observation.id = (r.observations.map Observation.identity).map (digest16 python)
  findingIds : r.findings.map Finding.id = (r.findings.map Finding.identity).map (digest16 python)

section Whole
variable {python : Python} {r : HttpAnalysisResult}

theorem identified (observed : (r.observations.map Observation.kind).Nodup)
    (observedFree : ∀ k ∈ r.observations.map Observation.kind, BarFree k.1 ∧ BarFree k.2)
    (found : (r.findings.map kindOf).Nodup)
    (foundFree : ∀ k ∈ r.findings.map kindOf, BarFree k.1 ∧ BarFree k.2)
    (observationIds : ∀ o ∈ r.observations, o.id = digest16 python o.identity)
    (findingIds : ∀ f ∈ r.findings, f.id = digest16 python f.identity) : Identified python r where
  observed := identitiesNodup Observation.location observed observedFree
  found := by
    have texts := identitiesNodup Finding.location found foundFree
    have whole := texts.map (List.append_right_injective (py "finding|"))
    rw [List.map_map] at whole
    exact whole
  observationIds := by
    rw [List.map_map]
    exact List.map_congr_left observationIds
  findingIds := by
    rw [List.map_map]
    exact List.map_congr_left findingIds

def observedSections (python : Python) (response : HttpResponseData) : Sections :=
  [(categoryTransport, [py "Transport posture"]),
   (categoryHeaders, securityHeaders.filterMap (fun header => some (headerNote python response.headers header)) ++
      (hstsNote python response).toList),
   (categoryCookies, cookieNotes python (cookiesOf python response)),
   (categoryServer, interestingHeaders.filterMap (serverNote python response.headers))]

def foundSections (python : Python) (response : HttpResponseData) : Sections :=
  [(categoryHeaders, headerTitles python response.headers),
   (categoryCookies, cookieTitles python (cookiesOf python response))]

theorem observedDistinct (response : HttpResponseData) : (observedSections python response).kinds.Nodup ∧
    ∀ k ∈ (observedSections python response).kinds, BarFree k.1 ∧ BarFree k.2 := by
  have each : ∀ s ∈ observedSections python response, s.2.Nodup ∧ ∀ t ∈ s.2, BarFree t := by
    simp only [observedSections, List.forall_mem_cons]
    exact ⟨by decide, headersNodup response, cookiesNodup _, serverNodup _, List.forall_mem_nil _⟩
  have categories : ∀ c ∈ (observedSections python response).map Prod.fst, BarFree c := by
    show ∀ c ∈ [categoryTransport, categoryHeaders, categoryCookies, categoryServer], BarFree c
    decide
  constructor
  · apply sectionsNodup _ fun s inside => (each s inside).1
    show [categoryTransport, categoryHeaders, categoryCookies, categoryServer].Nodup
    decide
  · exact sectionsBarFree fun s inside => ⟨categories _ (List.mem_map_of_mem inside), (each s inside).2⟩

theorem foundDistinct (response : HttpResponseData) : (foundSections python response).kinds.Nodup ∧
    ∀ k ∈ (foundSections python response).kinds, BarFree k.1 ∧ BarFree k.2 := by
  have each : ∀ s ∈ foundSections python response, s.2.Nodup ∧ ∀ t ∈ s.2, BarFree t := by
    simp only [foundSections, List.forall_mem_cons]
    exact ⟨issuesNodup _, cookieIssuesNodup _, List.forall_mem_nil _⟩
  have categories : ∀ c ∈ (foundSections python response).map Prod.fst, BarFree c := by
    show ∀ c ∈ [categoryHeaders, categoryCookies], BarFree c
    decide
  constructor
  · apply sectionsNodup _ fun s inside => (each s inside).1
    show [categoryHeaders, categoryCookies].Nodup
    decide
  · exact sectionsBarFree fun s inside => ⟨categories _ (List.mem_map_of_mem inside), (each s inside).2⟩

theorem assessedIdentified {name version hostname : PyStr} {origin : OriginSpec} {response : HttpResponseData}
    (ok : assessedResult python name version hostname origin response = .ok r) : Identified python r := by
  have kinds := assessedKinds ok
  obtain ⟨transport, posture, ok⟩ := bindOk ok
  obtain ⟨headers, inHeaders, ok⟩ := bindOk ok
  obtain ⟨cookies, inCookies, ok⟩ := bindOk ok
  obtain ⟨server, inServer, ok⟩ := bindOk ok
  obtain ⟨evidence, -, posture⟩ := bindOk posture
  obtain ⟨observation, made, posture⟩ := bindOk posture
  cases posture
  cases ok
  have ofTransport := reportsObserved made
  have ofHeaders := headersReports inHeaders
  have ofCookies := cookiesReports inCookies
  have ofServer := serverReports inServer
  have observed : (Assessed.joined [.observed observation, headers, cookies, server]).observations.map
      Observation.kind = (observedSections python response).kinds := by
    simp only [Assessed.joined, Sections.kinds, observedSections, List.flatMap_cons, List.flatMap_nil, List.map_append,
      List.append_nil, ofTransport.kinds, ofHeaders.kinds, ofCookies.kinds, ofServer.kinds]
  have found : (Assessed.joined [.observed observation, headers, cookies, server]).findings.map kindOf =
      (foundSections python response).kinds := by
    rw [kinds]
    simp only [Sections.kinds, foundSections, List.flatMap_cons, List.flatMap_nil, List.append_nil]
  have parts : ∀ part ∈ [Assessed.observed observation, headers, cookies, server],
      (∀ o ∈ part.observations, o.id = digest16 python o.identity) ∧
        ∀ f ∈ part.findings, f.id = digest16 python f.identity := by
    simp only [List.forall_mem_cons]
    exact ⟨⟨ofTransport.observed, ofTransport.found⟩, ⟨ofHeaders.observed, ofHeaders.found⟩,
      ⟨ofCookies.observed, ofCookies.found⟩, ⟨ofServer.observed, ofServer.found⟩, List.forall_mem_nil _⟩
  obtain ⟨observedNodup, observedFree⟩ := @observedDistinct python response
  obtain ⟨foundNodup, foundFree⟩ := @foundDistinct python response
  apply identified
  · exact observed ▸ observedNodup
  · exact observed ▸ observedFree
  · exact found ▸ foundNodup
  · exact found ▸ foundFree
  · intro o inside
    obtain ⟨part, member, inside⟩ := List.mem_flatMap.mp inside
    exact (parts part member).1 o inside
  · intro f inside
    obtain ⟨part, member, inside⟩ := List.mem_flatMap.mp inside
    exact (parts part member).2 f inside

theorem unreachableIdentified {name version hostname : PyStr} {origin : OriginSpec} {exc : ControlledTransportError}
    (ok : unreachableResult python name version hostname origin exc = .ok r) : Identified python r := by
  obtain ⟨observation, made, ok⟩ := bindOk ok
  obtain ⟨finding, created, ok⟩ := bindOk ok
  cases ok
  obtain ⟨-, observed⟩ := observationMade made
  constructor
  · exact List.nodup_singleton _
  · exact List.nodup_singleton _
  · exact congrArg (fun id => [id]) observed
  · exact congrArg (fun id => [id]) (findingMade created)

theorem executeIdentified {name version : PyStr} {context : ScanNetworkContext} {services : EngineServices python}
    (ran : execute name version context services = .ok r) : Identified python r := by
  obtain ⟨outcome, -, ok⟩ := bindOk ran
  cases outcome with
  | error exc => exact unreachableIdentified ok
  | ok response => exact assessedIdentified ok

end Whole

/-! The evidence set. -/

namespace EvidenceSet

/- `_finding_index`: the findings by their ids. -/
def findingIndex (e : EvidenceSet) : List (PyStr × Finding) := LoopDict.ofEntries (e.findings.map fun f => (f.id, f))

def getFinding (e : EvidenceSet) (findingId : PyStr) : Option Finding := e.findingIndex.lookup findingId

def serialize (e : EvidenceSet) : PyStr := dumpsStable e.toDict

end EvidenceSet

structure Reordered (r r' : HttpAnalysisResult) : Prop where
  findings : r'.findings.Perm r.findings
  observations : r'.observations.Perm r.observations
  rest : r' = { r with findings := r'.findings, observations := r'.observations }

section Order

theorem sortedByKey {α : Type} {key : α → PyStr} {items items' : List α} (distinct : (items.map key).Nodup)
    (perm : items'.Perm items) :
    items'.insertionSort (fun a b => leStr (key a) (key b) = true) =
      items.insertionSort fun a b => leStr (key a) (key b) = true := by
  have total : Std.Total fun a b : α => leStr (key a) (key b) = true :=
    ⟨fun a b => Bool.or_eq_true_iff.mp (leStrTotal (key a) (key b))⟩
  have trans : IsTrans α fun a b => leStr (key a) (key b) = true := ⟨fun _ _ _ => leStrTrans⟩
  have sorted := List.perm_insertionSort (fun a b : α => leStr (key a) (key b) = true) items
  have sorted' := List.perm_insertionSort (fun a b : α => leStr (key a) (key b) = true) items'
  have both := (sorted'.trans perm).trans sorted.symm
  apply both.eq_of_pairwise _ (List.pairwise_insertionSort _ _) (List.pairwise_insertionSort _ _)
  intro a b inA inB le ge
  have same := leStrAntisymm le ge
  exact List.inj_on_of_nodup_map distinct (perm.subset (sorted'.subset inA)) (sorted.subset inB) same

theorem reorderedSet {python : Python} {r r' : HttpAnalysisResult} (findings : (r.findings.map Finding.id).Nodup)
    (observations : (r.observations.map Observation.id).Nodup) (reordered : Reordered r r') :
    EvidenceSet.fromResult python r' = EvidenceSet.fromResult python r := by
  have sorted : EvidenceSet.sortedById r' = EvidenceSet.sortedById r := by
    rw [EvidenceSet.sortedById, EvidenceSet.sortedById, sortedByKey findings reordered.findings,
      sortedByKey observations reordered.observations, reordered.rest]
  simp only [EvidenceSet.fromResult, sorted]

theorem digestsNodup {python : Python} {texts : List PyStr} (distinct : texts.Nodup) (apart : TellsApart python texts) :
    (texts.map (digest16 python)).Nodup :=
  distinct.map_on apart

theorem indexed {python : Python} {r : HttpAnalysisResult} (ids : (r.findings.map Finding.id).Nodup) :
    ((EvidenceSet.fromResult python r).findingIndex.map Prod.snd).Perm r.findings ∧
      ∀ f ∈ r.findings, (EvidenceSet.fromResult python r).getFinding f.id = some f := by
  have sorted : (EvidenceSet.fromResult python r).findings.Perm r.findings := List.perm_insertionSort _ r.findings
  have keys : ((EvidenceSet.fromResult python r).findings.map fun f => (f.id, f)).map Prod.fst =
      (EvidenceSet.fromResult python r).findings.map Finding.id := List.map_map
  have values : ((EvidenceSet.fromResult python r).findings.map fun f => (f.id, f)).map Prod.snd =
      (EvidenceSet.fromResult python r).findings := by
    rw [List.map_map]
    exact List.map_id _
  have distinct : (((EvidenceSet.fromResult python r).findings.map fun f => (f.id, f)).map Prod.fst).Nodup := by
    rw [keys]
    exact (sorted.map Finding.id).nodup_iff.mpr ids
  have index : (EvidenceSet.fromResult python r).findingIndex =
      (EvidenceSet.fromResult python r).findings.map fun f => (f.id, f) := LoopDict.ofEntriesDistinct distinct
  constructor
  · rw [index, values]
    exact sorted
  · intro f inside
    rw [EvidenceSet.getFinding, index]
    exact LoopDict.lookupDistinct distinct (List.mem_map_of_mem (sorted.symm.subset inside))

end Order

/- Whatever the response, no two findings share an identity, and no two observations do; and where the
digests tell them apart, the evidence set indexes every finding and is the same in any order. -/
theorem evidenceIdentified {python : Python} {name version : PyStr} {context : ScanNetworkContext}
    {services : EngineServices python} {r : HttpAnalysisResult} (ran : execute name version context services = .ok r) :
    (r.observations.map Observation.identity).Nodup ∧ (r.findings.map Finding.identity).Nodup ∧
      (TellsApart python (r.observations.map Observation.identity) →
        TellsApart python (r.findings.map Finding.identity) →
          (r.observations.map Observation.id).Nodup ∧ (r.findings.map Finding.id).Nodup ∧
          ((EvidenceSet.fromResult python r).findingIndex.map Prod.snd).Perm r.findings ∧
          (∀ f ∈ r.findings, (EvidenceSet.fromResult python r).getFinding f.id = some f) ∧
          ∀ r', Reordered r r' →
            (EvidenceSet.fromResult python r').evidenceSetId = (EvidenceSet.fromResult python r).evidenceSetId ∧
            (EvidenceSet.fromResult python r').serialize = (EvidenceSet.fromResult python r).serialize) := by
  have known := executeIdentified ran
  constructor
  · exact known.observed
  · constructor
    · exact known.found
    · intro observationsApart findingsApart
      have observationIds : (r.observations.map Observation.id).Nodup := by
        rw [known.observationIds]
        exact digestsNodup known.observed observationsApart
      have findingIds : (r.findings.map Finding.id).Nodup := by
        rw [known.findingIds]
        exact digestsNodup known.found findingsApart
      obtain ⟨none, each⟩ := @indexed python r findingIds
      have same := fun r' (reordered : Reordered r r') =>
        @reorderedSet python r r' findingIds observationIds reordered
      exact ⟨observationIds, findingIds, none, each, fun r' reordered =>
        ⟨congrArg EvidenceSet.evidenceSetId (same r' reordered), congrArg EvidenceSet.serialize (same r' reordered)⟩⟩

def bareCookie : Headers := [(py "set-cookie", py "session=1; HttpOnly; SameSite=Lax")]

def bareObservationIds : List PyStr :=
  [py "6b002dc6790bb603", py "2f332523ef7b56da", py "a563083cfb1ee6c2", py "f3beef6e9f666b83", py "d95c51cf18f567d6",
   py "207de12118adc6f9", py "707c6f3de04410a5", py "517c542527ec9387", py "8500c7cd041f97f5"]

def bareFindingIds : List PyStr := [py "b3a4535563206ecc", py "38992b2200ce161a"]

theorem barePageIdentified :
    ∃ r, execute (py "http-security-analysis") (py "1") ⟨pageBinding⟩ (pageServices bareCookie) = .ok r ∧
      r.observations.map Observation.id = bareObservationIds ∧ r.findings.map Finding.id = bareFindingIds ∧
      (∀ f ∈ r.findings, (EvidenceSet.fromResult pageEnv.python r).getFinding f.id = some f) ∧
      ∀ r', Reordered r r' → (EvidenceSet.fromResult pageEnv.python r').serialize =
        (EvidenceSet.fromResult pageEnv.python r).serialize := by
  have ids : (execute (py "http-security-analysis") (py "1") ⟨pageBinding⟩ (pageServices bareCookie)).toOption.map
      (fun r => (r.observations.map Observation.id, r.findings.map Finding.id)) =
      some (bareObservationIds, bareFindingIds) := by
    decide +kernel
  obtain ⟨r, returned, ids⟩ := Option.map_eq_some_iff.mp ids
  obtain ⟨observationIds, findingIds⟩ := Prod.mk.inj ids
  have ran := okOfToOption returned
  have known := executeIdentified ran
  have observed : ((r.observations.map Observation.identity).map (digest16 pageEnv.python)).Nodup := by
    rw [← known.observationIds, observationIds]
    decide +kernel
  have found : ((r.findings.map Finding.identity).map (digest16 pageEnv.python)).Nodup := by
    rw [← known.findingIds, findingIds]
    decide +kernel
  obtain ⟨-, -, told⟩ := evidenceIdentified ran
  obtain ⟨-, -, -, each, same⟩ := told (fun _ a _ b same => List.inj_on_of_nodup_map observed a b same)
    fun _ a _ b same => List.inj_on_of_nodup_map found a b same
  exact ⟨r, ran, observationIds, findingIds, each, fun r' reordered => (same r' reordered).2⟩

end SentinelGpt
