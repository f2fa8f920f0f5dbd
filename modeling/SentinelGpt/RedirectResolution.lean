import SentinelGpt.TransportSafety
import SentinelGpt.UrlResolution

/-! Where redirects lead, and what their locations resolve to. -/
namespace SentinelGpt
open Calling HttpAnalysis TargetNormalization SandboxHttpClient UrlSplit UrlJoin

def requestUrl {python : Python} (current : HttpScanRequest python) : Uri.Reference CodePoint Destination :=
  urlOf current.target.scheme ⟨current.target.hostname, some current.target.port⟩ current.spec.path

/- A request goes to a URL: its scheme, host and port are those of the URL, and so are its path and
query; an empty path is the root. -/
structure GoesTo {python : Python} (next : HttpScanRequest python) (url : Uri.Reference CodePoint Destination) : Prop where
  scheme : url.scheme.map python.lower = some next.target.scheme
  destination : ∃ d, url.authority = some d ∧ python.lower d.host = python.lower next.target.hostname ∧
    d.port.getD (defaultPort next.target.scheme) = next.target.port
  path : Uri.before 0x23 next.spec.path = pathQuery (if url.path = [] then py "/" else url.path) url.query

/- An absolute location that is sent as it is resolved: without a query and without dot segments, to a
name that ends in no dot. -/
structure PlainDestination (location : PyStr) : Prop where
  query : (reference location).query = none
  path : ∀ s ∈ Uri.segments uriMarks (reference location).path, s ≠ py "." ∧ s ≠ py ".."
  host : ∀ d, (reference location).authority = some d → 0x5B ∉ d.host ∧ rstrip 0x2E d.host = d.host

/- What is read as an authority of a relative location: a path in hand that begins with two slashes,
or the location. -/
def Doubled {python : Python} (current : HttpScanRequest python) (location : PyStr) : Prop :=
  startsTwice current.spec.path ∨ startsTwice location

structure Read {python : Python} (current : HttpScanRequest python) (location : PyStr) : Prop where
  written : Written location
  clean : cleaned current.spec.path = current.spec.path
  once : (reference location).scheme = none → ¬ Doubled current location

/- A location that leads where it is resolved to. -/
inductive LeadsPlainly {python : Python} (current : HttpScanRequest python) (location : PyStr) : Prop where
  | absolute (written : Written location) (named : (reference location).scheme.isSome = true)
      (plain : PlainDestination location)
  | same (empty : location = [])
  | relative (read : Read current location) (unnamed : (reference location).scheme = none)
      (joins : Joins (requestUrl current) location)

section Hosts
variable {python : Python} {parts : SplitResult}

def loweredCode (c : CodePoint) : CodePoint := if 0x41 ≤ c.val ∧ c.val ≤ 0x5A then c + 0x20 else c

theorem lowerCodes (ascii : AsciiCase python) {text : PyStr} (small : ∀ c ∈ text, c.val < 0x80) :
    python.lower text = text.map loweredCode :=
  ascii.lower text (List.all_eq_true.mpr fun c member => by simpa using small c member)

theorem loweredUpper {c : CodePoint} (upper : 0x41 ≤ c.val ∧ c.val ≤ 0x5A) : (loweredCode c).val = c.val + 0x20 := by
  rw [loweredCode, if_pos upper, Fin.val_add]
  simp
  omega

theorem loweredOther {c : CodePoint} (other : ¬ (0x41 ≤ c.val ∧ c.val ≤ 0x5A)) : loweredCode c = c := if_neg other

theorem loweredTwice (c : CodePoint) : loweredCode (loweredCode c) = loweredCode c := by
  by_cases upper : 0x41 ≤ c.val ∧ c.val ≤ 0x5A
  · have value := loweredUpper upper
    exact loweredOther (by omega)
  · rw [loweredOther upper, loweredOther upper]

theorem loweredVisible {c : CodePoint} (visible : isVisible c = true) : isVisible (loweredCode c) = true := by
  by_cases upper : 0x41 ≤ c.val ∧ c.val ≤ 0x5A
  · have value := loweredUpper upper
    simp only [isVisible, Bool.and_eq_true, decide_eq_true_eq]
    omega
  · rwa [loweredOther upper]

theorem loweredSmall {c : CodePoint} (small : c.val < 0x80) : (loweredCode c).val < 0x80 := by
  by_cases upper : 0x41 ≤ c.val ∧ c.val ≤ 0x5A
  · have value := loweredUpper upper
    omega
  · rwa [loweredOther upper]

theorem loweredDot {c : CodePoint} : loweredCode c = 0x2E ↔ c = 0x2E := by
  constructor
  · intro dot
    by_cases upper : 0x41 ≤ c.val ∧ c.val ≤ 0x5A
    · have value := loweredUpper upper
      have dotted : (0x2E : CodePoint).val = 0x2E := rfl
      rw [dot, dotted] at value
      omega
    · rwa [loweredOther upper] at dot
  · rintro rfl
    exact loweredOther (by decide)

theorem loweredAgain (text : PyStr) : (text.map loweredCode).map loweredCode = text.map loweredCode := by
  rw [List.map_map]
  exact List.map_congr_left fun c _ => loweredTwice c

theorem hostInfoIs (plain : (0x5B : CodePoint) ∉ (hostPort parts.netloc).1) : parts.hostinfo = hostPort parts.netloc := by
  unfold SplitResult.hostinfo hostPort at *
  dsimp only at *
  split
  · rename_i bracket
    rw [if_pos bracket] at plain
    exact absurd (List.mem_append_left _ (List.mem_append_right _ List.mem_cons_self)) plain
  · rfl

theorem literalShorter (literal : (0x5B : CodePoint) ∈ (hostPort parts.netloc).1) :
    parts.hostinfo.1.length < (hostPort parts.netloc).1.length := by
  unfold SplitResult.hostinfo hostPort at *
  dsimp only at *
  split at literal
  · rename_i bracket
    rw [if_pos bracket, if_pos bracket]
    simp
    omega
  · rename_i bracket
    have member : (0x5B : CodePoint) ∈ afterLast 0x40 parts.netloc := (List.takeWhile_sublist _).subset literal
    exact absurd (List.contains_iff_mem.mpr member) bracket

theorem hostnameIs (ascii : AsciiCase python) (small : ∀ c ∈ parts.hostinfo.1, c.val < 0x80) :
    ∃ name zone, parts.hostinfo.1 = name ++ zone ∧ (parts.hostname python).getD [] = name.map loweredCode ++ zone := by
  have whole := partitionJoins 0x25 parts.hostinfo.1
  refine ⟨_, _, whole.symm, ?_⟩
  have front : ∀ c ∈ (partition 0x25 parts.hostinfo.1).1, c.val < 0x80 := fun c member =>
    small c ((List.takeWhile_sublist _).subset member)
  unfold SplitResult.hostname
  dsimp only
  split
  · rename_i empty
    rw [List.isEmpty_iff.mp empty]
    rfl
  · rw [lowerCodes ascii front, Option.getD_some, List.append_assoc]

theorem rstripSelf {c : CodePoint} {text : PyStr} : rstrip c text = text ↔ text.getLast? ≠ some c := by
  unfold rstrip
  rw [← List.head?_reverse, List.reverse_eq_iff]
  cases text.reverse with
  | nil => simp
  | cons a rest =>
    by_cases same : a = c
    · rw [List.dropWhile_cons_of_pos (by simpa using same)]
      refine iff_of_false (fun whole => ?_) (by simp [same])
      have shorter := (List.dropWhile_sublist (l := rest) fun a => a == c).length_le
      rw [whole, List.length_cons] at shorter
      omega
    · rw [List.dropWhile_cons_of_neg (by simpa using same)]
      exact iff_of_true rfl (by simpa using same)

theorem rstripSublist {c : CodePoint} {text : PyStr} : (rstrip c text).Sublist text := by
  have shorter := (List.dropWhile_sublist (l := text.reverse) fun a => a == c).reverse
  rwa [List.reverse_reverse] at shorter

theorem lastDot {text : PyStr} : (text.map loweredCode).getLast? = some 0x2E ↔ text.getLast? = some 0x2E := by
  rw [List.getLast?_map, Option.map_eq_some_iff]
  constructor
  · rintro ⟨c, found, lowered⟩
    rw [found, loweredDot.mp lowered]
  · intro found
    exact ⟨_, found, loweredDot.mpr rfl⟩

theorem hostKept {host name : PyStr} (same : name.map loweredCode = host.map loweredCode) :
    host.map loweredCode = (rstrip 0x2E name).map loweredCode ↔ rstrip 0x2E host = host := by
  rw [rstripSelf, ne_eq, ← lastDot, ← same, lastDot]
  constructor
  · intro kept dot
    have lengths := congrArg List.length kept
    rw [List.length_map, List.length_map] at lengths
    exact rstripSelf.mp (rstripSublist.eq_of_length lengths.symm) dot
  · intro plain
    rw [rstripSelf.mpr plain]

theorem hostPortSmall (small : ∀ c ∈ parts.netloc, c.val < 0x80) : ∀ c ∈ (hostPort parts.netloc).1, c.val < 0x80 := by
  have info : ∀ c ∈ afterLast 0x40 parts.netloc, c.val < 0x80 := fun c member =>
    small c (List.mem_reverse.mp ((List.takeWhile_sublist _).subset (List.mem_reverse.mp member)))
  intro c member
  unfold hostPort at member
  dsimp only at member
  split at member
  · rcases List.mem_append.mp member with inside | bracket
    · rcases List.mem_append.mp inside with front | inside
      · exact info c ((List.takeWhile_sublist _).subset front)
      · rcases List.mem_cons.mp inside with rfl | inside
        · decide
        · exact info c ((List.dropWhile_sublist _).subset (List.mem_of_mem_drop ((List.takeWhile_sublist _).subset inside)))
    · rw [List.mem_singleton.mp bracket]
      decide
  · exact info c ((List.takeWhile_sublist _).subset member)

/- The host is kept just where it is a name without a trailing dot. -/
theorem hostRead (ascii : AsciiCase python) (visible : ∀ c ∈ parts.netloc, isVisible c = true) :
    python.lower (hostPort parts.netloc).1 = python.lower (strip (destinationHost python parts)) ↔
      0x5B ∉ (hostPort parts.netloc).1 ∧ rstrip 0x2E (hostPort parts.netloc).1 = (hostPort parts.netloc).1 := by
  have info : ∀ c ∈ parts.hostinfo.1, isVisible c = true := fun c member => visible c ((hostinfoSublist parts).subset member)
  obtain ⟨name, zone, host, hostname⟩ := hostnameIs ascii fun c member => visibleSmall (info c member)
  have lookedUp : ∀ c ∈ destinationHost python parts, isVisible c = true := by
    intro c member
    have inside := rstripSublist.subset member
    rw [hostname] at inside
    rcases List.mem_append.mp inside with lowered | zoned
    · obtain ⟨a, letter, rfl⟩ := List.mem_map.mp lowered
      exact loweredVisible (info a (by rw [host]; exact List.mem_append_left zone letter))
    · exact info c (by rw [host]; exact List.mem_append_right name zoned)
  have same : ((parts.hostname python).getD []).map loweredCode = parts.hostinfo.1.map loweredCode := by
    rw [hostname, host, List.map_append, List.map_append, loweredAgain]
  have stripped : strip (destinationHost python parts) = destinationHost python parts := by
    refine stripWord fun c member => ?_
    have code := lookedUp c member
    simp only [isVisible, Bool.and_eq_true, decide_eq_true_eq] at code
    simp [isSpace]
    omega
  rw [stripped, lowerCodes ascii fun c member => visibleSmall (lookedUp c member),
    lowerCodes ascii (hostPortSmall fun c member => visibleSmall (visible c member))]
  by_cases literal : (0x5B : CodePoint) ∈ (hostPort parts.netloc).1
  · refine iff_of_false (fun equal => ?_) fun plain => plain.1 literal
    have lengths := congrArg List.length equal
    have shorter := literalShorter literal
    have kept := congrArg List.length same
    have cut : (destinationHost python parts).length ≤ ((parts.hostname python).getD []).length := rstripSublist.length_le
    simp only [List.length_map] at lengths kept
    omega
  · rw [and_iff_right literal]
    rw [hostInfoIs literal] at same
    exact hostKept same

end Hosts

section Absolute
variable {python : Python} {current next : HttpScanRequest python} {location : PyStr} {parts : SplitResult}
  {port : Option Nat} {binding : ValidatedTargetBinding}

theorem authorityRead (ascii : AsciiCase python) (written : Written location) (read : ReadAs python location parts)
    (gated : SandboxHttpClient.Gated current parts port) : (∃ word, (reference location).scheme = some word ∧
      parts.scheme = python.lower word ∧ word.all isSchemeChar = true) ∧
    (reference location).authority = some (destinationOf parts.netloc) ∧ parts.netloc ≠ [] ∧
    ∀ c ∈ parts.netloc, isVisible c = true := by
  have some : parts.netloc ≠ [] := fun none => gated.host (by
    rw [destinationHost, SplitResult.hostname, SplitResult.hostinfo, none]
    rfl)
  refine ⟨?_, ?_, some, ?_⟩
  · cases named : (reference location).scheme with
    | none =>
      have scheme := gated.scheme
      rw [read.scheme, named, Option.elim_none, lowerCodes ascii fun c none => absurd none List.not_mem_nil] at scheme
      exact absurd scheme (by decide)
    | some word =>
      exact ⟨word, rfl, by rw [read.scheme, named]; rfl, (written.scheme word named).2⟩
  · rw [read.netloc.1]
    have netloc := read.netloc.2
    cases authority : (Uri.cutAuthority uriMarks (Uri.cutScheme uriMarks location).2).1 with
    | none =>
      rw [authority] at netloc
      exact absurd netloc some
    | some text =>
      rw [authority] at netloc
      rw [netloc]
      rfl
  · rw [read.netloc.2]
    exact written.authority

theorem portRead (given : parts.port = .ok port) (plain : (0x5B : CodePoint) ∉ (hostPort parts.netloc).1) :
    (destinationOf parts.netloc).port = port := by
  unfold SplitResult.port at given
  rw [hostInfoIs plain] at given
  unfold destinationOf
  dsimp only at given ⊢
  split at given
  · rename_i empty
    cases given
    exact if_pos empty
  · rename_i some
    split at given
    · cases given
      exact if_neg some
    · cases given

theorem originPath (rooted : parts.netloc ≠ []) (split : urlsplit python location = .ok parts)
    (read : ReadAs python location parts) (sent : next.spec.path = if parts.path.isEmpty then py "/" else parts.path) :
    Uri.before 0x23 next.spec.path =
        pathQuery (if Uri.removeDotSegments uriMarks (reference location).path = [] then py "/"
          else Uri.removeDotSegments uriMarks (reference location).path) (reference location).query ↔
      (reference location).query = none ∧
        ∀ s ∈ Uri.segments uriMarks (reference location).path, s ≠ py "." ∧ s ≠ py ".." := by
  have starts := splitPath split rooted
  rw [read.path] at starts sent
  rw [sent]
  have alone : ∀ {text resolved : PyStr}, 0x3F ∉ text → 0x3F ∉ resolved →
      (text = pathQuery resolved (reference location).query ↔ (reference location).query = none ∧ resolved = text) := by
    intro text resolved free resolvedFree
    have same : text ++ queryText [] = pathQuery resolved (reference location).query ↔
        text = resolved ∧ none = (reference location).query := sameQuery free resolvedFree
    rw [queryText, List.isEmpty_nil, if_pos rfl, List.append_nil] at same
    rw [same]
    exact ⟨fun both => ⟨both.2.symm, both.1.symm⟩, fun both => ⟨both.2.symm, both.1.symm⟩⟩
  rcases starts with empty | rooted
  · have segments : ∀ s ∈ Uri.segments uriMarks ([] : PyStr), s ≠ py "." ∧ s ≠ py ".." := by decide
    have removed : Uri.removeDotSegments uriMarks ([] : PyStr) = [] := rfl
    have slash : Uri.before 0x23 (py "/") = py "/" := rfl
    rw [empty, removed, if_pos rfl, List.isEmpty_nil, if_pos rfl, slash, alone (by decide) (by decide)]
    exact and_congr_right fun _ => iff_of_true rfl segments
  · obtain ⟨rest, text⟩ := List.isPrefixOf_iff_prefix.mp rooted
    have text : (reference location).path = 0x2F :: rest := text.symm
    have free : 0x23 ∉ (reference location).path ∧ 0x3F ∉ (reference location).path :=
      ⟨referenceFree.1, referenceFree.2.1⟩
    have fixed : Uri.removeDotSegments uriMarks (reference location).path = (reference location).path ↔
        ∀ s ∈ Uri.segments uriMarks (reference location).path, s ≠ py "." ∧ s ≠ py ".." := by
      rw [text]
      exact Uri.removeDotSegmentsFixed
    have some : Uri.removeDotSegments uriMarks (reference location).path ≠ [] := by
      rw [text]
      exact fun none => absurd ((Uri.removeDotSegmentsRooted (m := uriMarks) rest).symm.trans none) (List.cons_ne_nil _ _)
    have given : ¬ (reference location).path.isEmpty = true := by
      rw [text]
      exact Bool.false_ne_true
    have whole : Uri.before 0x23 (reference location).path = (reference location).path :=
      List.takeWhile_eq_self_iff.mpr fun c member => bne_iff_ne.mpr fun same => free.1 (same ▸ member)
    rw [if_neg given, if_neg some, whole, alone free.2 (removedFree (by decide) free.2), fixed]

/- An absolute location is followed to where it is resolved to exactly where it is a plain one. -/
theorem originResolved (ascii : AsciiCase python) (written : Written location) (split : urlsplit python location = .ok parts)
    (gated : SandboxHttpClient.Gated current parts port) (hop : OriginHop parts port binding next)
    (named : binding.hostname = strip (destinationHost python parts)) {base : Uri.Reference CodePoint Destination} :
    GoesTo next (Uri.resolve uriMarks base (reference location)) ↔ PlainDestination location := by
  have read := splitWritten written split
  obtain ⟨⟨word, scheme, lowered, letters⟩, authority, some, visible⟩ := authorityRead ascii written read gated
  have small : ∀ c ∈ word, c.val < 0x80 := fun c member => schemeSmall (List.all_eq_true.mp letters c member)
  have kept : python.lower parts.scheme = parts.scheme := by
    rw [lowered, lowerCodes ascii small, lowerCodes ascii, loweredAgain]
    intro c member
    obtain ⟨a, letter, rfl⟩ := List.mem_map.mp member
    exact loweredSmall (small a letter)
  have sameScheme : python.lower word = next.target.scheme := by rw [hop.scheme, kept, kept, lowered]
  have hosts := hostRead ascii visible
  rw [← named, ← hop.named] at hosts
  rw [Uri.resolveNamed (by rw [scheme]; rfl)]
  have paths := originPath some split read hop.path
  constructor
  · rintro ⟨-, ⟨d, given, host, -⟩, path⟩
    rw [authority] at given
    obtain ⟨query, dots⟩ := paths.mp path
    refine ⟨query, dots, fun d' given' => ?_⟩
    rw [authority] at given'
    rw [← Option.some.inj given']
    rw [← Option.some.inj given] at host
    exact hosts.mp host
  · intro plain
    have host := plain.host _ authority
    refine ⟨?_, ⟨_, authority, hosts.mpr host, ?_⟩, paths.mpr ⟨plain.query, plain.path⟩⟩
    · rw [scheme]
      exact congrArg Option.some sameScheme
    · rw [portRead gated.port host.1, hop.port]

end Absolute

section Followed
variable {python : Python} {current next s s' : HttpScanRequest python} {location : PyStr} {trace : TransportLog}
  {client : SandboxHttpClient} {limits : TransportLimits} {sent : WorkloadSpec}

def portShown (target : ConnectionTarget) : Option Nat :=
  if target.port = defaultPort target.scheme then none else some target.port

/- The URL of an exchange shows the scheme, the port and the path of the request; its host is the
address, and the name goes with it. -/
structure Shows (sent : WorkloadSpec) (next : HttpScanRequest python) : Prop where
  url : sent.url = originUrl next.target.scheme next.target.address (portShown next.target) next.spec.path
  sni : sent.sniHostname = next.target.hostname
  host : (py "Host", next.target.hostname) ∈ sent.headers

theorem specShows (fits : client.workloadSpec limits next = .ok sent) :
    next.target.scheme ∈ allowedHttpSchemes ∧ Shows sent next := by
  obtain ⟨pinned, headers, sni⟩ := specAs fits
  obtain ⟨port, shown, made⟩ := bindOk pinned
  have text := Except.ok.inj made
  refine ⟨pinnedPortAllowed shown, ?_, sni, by rw [headers]; exact List.mem_append_right _ (List.mem_singleton.mpr rfl)⟩
  have ports : port = portShown next.target := by
    unfold pinnedPort at shown
    unfold portShown
    split at shown
    · cases shown
    · split at shown
      · rename_i default
        cases shown
        rw [if_pos default]
      · rename_i other
        split at shown
        · cases shown
          rw [if_neg other]
        · cases shown
  rw [← text, ports, if_pos next.spec.relative]

theorem rootedOf {path : PyStr} (relative : (py "/").isPrefixOf path = true) : startsRooted path := by
  obtain ⟨rest, whole⟩ := List.isPrefixOf_iff_prefix.mp relative
  exact ⟨rest, whole.symm⟩

theorem relativeGoes (ascii : AsciiCase python) (unnamed : (reference location).scheme = none)
    (unhosted : (reference location).authority = none) (found : relativeHop current location = .ok next)
    (known : next.target.scheme ∈ allowedHttpSchemes) :
    GoesTo next (Uri.resolve uriMarks (requestUrl current) (reference location)) ↔
      SentAs next.spec.path (Uri.resolve uriMarks (requestUrl current) (reference location)) := by
  obtain ⟨-, -, target⟩ := relativeHopIs found
  have some : (Uri.resolve uriMarks (requestUrl current) (reference location)).path ≠ [] :=
    resolvedSome (rootedOf current.spec.relative) unnamed unhosted
  have origin : (Uri.resolve uriMarks (requestUrl current) (reference location)).scheme = (requestUrl current).scheme ∧
      (Uri.resolve uriMarks (requestUrl current) (reference location)).authority = (requestUrl current).authority :=
    Uri.resolveRelative unnamed unhosted
  obtain ⟨scheme, authority⟩ := origin
  constructor
  · rintro ⟨-, -, path⟩
    rwa [if_neg some] at path
  · intro sent
    refine ⟨?_, ⟨⟨current.target.hostname, current.target.port⟩, authority, ?_, ?_⟩, by rwa [if_neg some]⟩
    · have kept := schemeKept ascii (List.contains_iff_mem.mpr known)
      rw [scheme]
      rw [target] at kept ⊢
      exact congrArg Option.some kept
    · rw [target]
    · rw [target]
      rfl

theorem unnamedOf (ascii : AsciiCase python) (written : Written location) {parts : SplitResult}
    (split : urlsplit python location = .ok parts) (relative : (parts.scheme.isEmpty && parts.netloc.isEmpty) = true) :
    (reference location).scheme = none := by
  have scheme := (splitWritten written split).scheme
  rw [List.isEmpty_iff.mp (Bool.and_eq_true_iff.mp relative).1] at scheme
  cases named : (reference location).scheme with
  | none => rfl
  | some word =>
    obtain ⟨first, letters⟩ := written.scheme word named
    have lowered := lowerCodes ascii fun c member => schemeSmall (List.all_eq_true.mp letters c member)
    rw [named, Option.elim_some, lowered] at scheme
    rw [List.map_eq_nil_iff.mp scheme.symm] at first
    cases first

theorem relativeFollowed (ascii : AsciiCase python) (read : Read current location) (given : location ≠ [])
    (unnamed : (reference location).scheme = none) (found : relativeHop current location = .ok next)
    (known : next.target.scheme ∈ allowedHttpSchemes) :
    GoesTo next (Uri.resolve uriMarks (requestUrl current) (reference location)) ↔ Joins (requestUrl current) location := by
  have unhosted := unhostedOf unnamed fun twice => read.once unnamed (.inr twice)
  rw [relativeGoes ascii unnamed unhosted found known]
  exact relativeSent (rootedOf current.spec.relative) (fun twice => read.once unnamed (.inl twice)) read.clean
    read.written unnamed unhosted given (relativeHopIs found).1 (rootedOf next.spec.relative)

theorem emptyFollowed (ascii : AsciiCase python) (found : relativeHop current [] = .ok next)
    (known : next.target.scheme ∈ allowedHttpSchemes) :
    GoesTo next (Uri.resolve uriMarks (requestUrl current) (reference [])) :=
  (relativeGoes ascii rfl rfl found known).mpr (emptySent (rootedSome (rootedOf current.spec.relative)) (relativeHopIs found).1)

theorem relativeLeads (ascii : AsciiCase python) {parts : SplitResult} (split : urlsplit python location = .ok parts)
    (relative : (parts.scheme.isEmpty && parts.netloc.isEmpty) = true) (found : relativeHop current location = .ok next)
    (known : next.target.scheme ∈ allowedHttpSchemes) :
    (LeadsPlainly current location → GoesTo next (Uri.resolve uriMarks (requestUrl current) (reference location))) ∧
    (Read current location → GoesTo next (Uri.resolve uriMarks (requestUrl current) (reference location)) →
      LeadsPlainly current location) := by
  constructor
  · intro leads
    cases leads with
    | absolute written named =>
      rw [unnamedOf ascii written split relative] at named
      cases named
    | same empty =>
      subst empty
      exact emptyFollowed ascii found known
    | relative read unnamed joins =>
      by_cases empty : location = []
      · subst empty
        exact emptyFollowed ascii found known
      · exact (relativeFollowed ascii read empty unnamed found known).mpr joins
  · intro read goes
    by_cases empty : location = []
    · exact .same empty
    · have unnamed := unnamedOf ascii read.written split relative
      exact .relative read unnamed ((relativeFollowed ascii read empty unnamed found known).mp goes)

theorem absoluteLeads (ascii : AsciiCase python) {parts : SplitResult} {port : Option Nat} {binding : ValidatedTargetBinding}
    (split : urlsplit python location = .ok parts) (gated : SandboxHttpClient.Gated current parts port)
    (hop : OriginHop parts port binding next) (lookup : binding.hostname = strip (destinationHost python parts)) :
    (LeadsPlainly current location → GoesTo next (Uri.resolve uriMarks (requestUrl current) (reference location))) ∧
    (Read current location → GoesTo next (Uri.resolve uriMarks (requestUrl current) (reference location)) →
      LeadsPlainly current location) := by
  have named : Written location → (reference location).scheme.isSome = true := by
    intro written
    obtain ⟨⟨word, scheme, -⟩, -⟩ := authorityRead ascii written (splitWritten written split) gated
    rw [scheme]
    rfl
  constructor
  · intro leads
    cases leads with
    | absolute written _ plain => exact (originResolved ascii written split gated hop lookup).mpr plain
    | same empty =>
      subst empty
      have blank : urlsplit python [] = .ok ⟨[], [], [], [], []⟩ := rfl
      rw [blank] at split
      cases split
      exact absurd gated.absolute (by decide)
    | relative read unnamed =>
      have set := named read.written
      rw [unnamed] at set
      cases set
  · intro read goes
    exact .absolute read.written (named read.written)
      ((originResolved ascii read.written split gated hop lookup).mp goes)

end Followed

/-! A site that redirects, along its own paths and away. -/

theorem siteAscii : AsciiCase (Python.onAscii []) := ⟨fun _ _ => rfl, fun _ _ => rfl⟩

def siteFrom : HttpScanRequest (Python.onAscii []) := siteRequestTo "/a/b/c?x" rfl
def siteTo : HttpScanRequest (Python.onAscii []) := siteRequestTo "/a/d?e" rfl

theorem siteHops : Runs siteFrom (nextHop siteFrom (py "../d?e")) [] (.ok siteTo) siteFrom := by
  have run := playRuns (redirecting "../d?e") [] siteFrom (nextHop siteFrom (py "../d?e"))
  have made : play (redirecting "../d?e") [] siteFrom (nextHop siteFrom (py "../d?e")) = ([], .ok siteTo, siteFrom) := by
    rfl
  rwa [made] at run

theorem siteWritten : Written (py "../d?e") :=
  ⟨by decide +kernel, nofun, nofun⟩

theorem siteJoins : Joins (requestUrl siteFrom) (py "../d?e") :=
  .merged (by decide) (fun ⟨_, rooted⟩ => by cases rooted) (by decide) (by unfold Filled; decide) (by unfold Undotted; decide)
    (.inl (by decide +kernel))

theorem siteLeads : LeadsPlainly siteFrom (py "../d?e") := by
  refine .relative ⟨siteWritten, by decide +kernel, fun _ doubled => ?_⟩ rfl siteJoins
  rcases doubled with ⟨_, twice⟩ | ⟨_, twice⟩
  · cases twice
  · cases twice

theorem otherValidated : evaluateAll [otherAddress] = none := by decide +kernel

theorem otherPinned : ∀ a ∈ some otherAddress, a ∈ [otherAddress] := fun _ pinned =>
  List.mem_singleton.mpr (Option.mem_some_iff.mp pinned).symm

def siteAway : HttpScanRequest (Python.onAscii []) where
  context := ⟨⟨py "b", [otherAddress], some otherAddress, otherValidated, otherPinned⟩⟩
  spec := (siteRequestTo "/x" rfl).spec
  target := ⟨otherAddress, 443, py "https", py "b"⟩

theorem siteHopsAway : Runs siteFrom (nextHop siteFrom (py "https://b/x?q"))
    [⟨.resolveAll (py "b"), .ok (.success (py "b") [otherAddress])⟩] (.ok siteAway) siteFrom := by
  have run := playRuns (redirecting "https://b/x?q") [] siteFrom (nextHop siteFrom (py "https://b/x?q"))
  have made : play (redirecting "https://b/x?q") [] siteFrom (nextHop siteFrom (py "https://b/x?q")) =
      ([⟨.resolveAll (py "b"), .ok (.success (py "b") [otherAddress])⟩], .ok siteAway, siteFrom) := by
    rfl
  rwa [made] at run

end SentinelGpt
