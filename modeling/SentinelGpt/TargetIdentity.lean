import SentinelGpt.NormalizationTwice
import SentinelGpt.ScanStore

/-! Which registrations are one target. -/
namespace SentinelGpt
open TargetNormalization UrlSplit JsonScan SandboxHttpClient

def foldedHost (python : Python) (parts : SplitResult) : PyStr :=
  let (name, percent, zone) := partition 0x25 parts.hostinfo.1
  stripTrailingDot (python.lower name ++ (if percent then [0x25] else []) ++ python.lower (stripTrailingDot zone))

/- Two URLs that differ at most in the case of the scheme and the host, in dots behind the host,
in the fragment, and in an empty path for `/`. -/
structure Alike (python : Python) (p q : SplitResult) : Prop where
  scheme : python.lower p.scheme = python.lower q.scheme
  host : foldedHost python p = foldedHost python q
  port : p.port = q.port
  path : displayPath p = displayPath q
  query : p.query = q.query

inductive RegistrationError where
  | invalid (error : TargetError)
  | forbidden
  | duplicate
  | multipleResults
  deriving DecidableEq, Repr

/- `find_by_owner_and_url`: at most one row, or MultipleResultsFound. -/
def findByOwnerAndUrl (targets : List Target) (organization user : Option Nat) (normalizedUrl : PyStr) :
    Except RegistrationError (Option Target) :=
  match targets.filter fun t => t.normalizedUrl == normalizedUrl && t.ownerOrganizationId == organization &&
      t.ownerUserId == user with
  | [] => .ok none
  | [target] => .ok (some target)
  | _ => .error .multipleResults

def ownerOfNew (isMember : Nat → Bool) (user : Nat) :
    Option Nat → Except RegistrationError (Option Nat × Option Nat)
  | some organization => if isMember organization then .ok (some organization, none) else .error .forbidden
  | none => .ok (none, some user)

def registerTarget (python : Python) (isMember : Nat → Bool) (user : Nat) (targets : List Target) (fresh : Nat)
    (hostname url : PyStr) (organization : Option Nat) : Except RegistrationError Target := do
  let normalized ← (normalizeTarget python hostname url).mapError .invalid
  let owner ← ownerOfNew isMember user organization
  let existing ← findByOwnerAndUrl targets owner.1 owner.2 normalized.normalizedUrl
  match existing with
  | some _ => .error .duplicate
  | none => .ok ⟨fresh, owner.1, owner.2, normalized.hostname, normalized.normalizedUrl, false⟩

section Identity
variable {python : Python} {hostname hostname' url url' : PyStr} {p q : SplitResult} {port port' : Option Nat}
  {n n' : NormalizedTarget}

theorem undottedAppend {s t : PyStr} (solid : stripTrailingDot t ≠ []) :
    stripTrailingDot (s ++ t) = s ++ stripTrailingDot t := by
  unfold stripTrailingDot rstrip at solid ⊢
  rw [List.reverse_append, List.dropWhile_append]
  split
  · rename_i none
    rw [List.isEmpty_iff.mp none] at solid
    exact absurd rfl solid
  · rw [List.reverse_append, List.reverse_reverse]

theorem undottedBehind (s : PyStr) {c : CodePoint} (other : c ≠ 0x2E) (t : PyStr) :
    stripTrailingDot (s ++ c :: t) = s ++ c :: stripTrailingDot t := by
  have cons : stripTrailingDot (c :: t) = c :: stripTrailingDot t := by
    unfold stripTrailingDot rstrip
    rw [List.reverse_cons, List.dropWhile_append]
    split
    · rename_i none
      have only : (c == 0x2E) = false := beq_eq_false_iff_ne.mpr other
      rw [List.isEmpty_iff.mp none, List.dropWhile_cons, only]
      rfl
    · rw [List.reverse_append]
      rfl
  rw [undottedAppend (by rw [cons]; exact List.cons_ne_nil _ _), cons]

theorem storedHost (acceptance : Acceptance python hostname url p port n) : n.hostname = stripTrailingDot
    (python.lower (partition 0x25 p.hostinfo.1).1 ++ (if (partition 0x25 p.hostinfo.1).2.1 then [0x25] else []) ++
      (partition 0x25 p.hostinfo.1).2.2) := by
  have name := validHost acceptance.valid
  have filled := storedHostSome acceptance
  unfold hostOf SplitResult.hostname at name
  dsimp only at name
  split at name
  · exact absurd name filled
  · exact name

theorem storedFolded (acceptance : Acceptance python hostname url p port n) (stable : StableCase python) :
    n.hostname = foldedHost python p := by
  have name := storedHost acceptance
  have lowered := storedLower acceptance stable
  unfold foldedHost
  dsimp only
  by_cases percent : 0x25 ∈ p.hostinfo.1
  · have sign : (partition 0x25 p.hostinfo.1).2.1 = true := List.contains_iff_mem.mpr percent
    rw [sign, if_pos rfl, List.append_assoc, List.singleton_append, undottedBehind _ (by decide)] at name ⊢
    have inside : stripTrailingDot (partition 0x25 p.hostinfo.1).2.2 <:+: n.hostname := by
      rw [name]
      exact (List.suffix_cons _ _).isInfix.trans (List.suffix_append _ _).isInfix
    rw [stable.part _ _ lowered inside, undottedTwice, name]
  · have empty : python.lower [] = [] := stable.part n.hostname [] lowered List.nil_infix
    rw [partitionFree percent] at name ⊢
    rw [name]
    exact congrArg (fun zone => stripTrailingDot (python.lower p.hostinfo.1 ++ [] ++ zone)) empty.symm

theorem alikeSame (first : Acceptance python hostname url p port n) (second : Acceptance python hostname' url' q port' n')
    (stable : StableCase python) (alike : Alike python p q) : n = n' := by
  have host : n.hostname = n'.hostname := by
    rw [storedFolded first stable, storedFolded second stable, alike.host]
  have ports : port = port' := by
    have same := alike.port
    rw [first.portRead, second.portRead] at same
    exact Except.ok.inj same
  have query : displayQuery p = displayQuery q := by
    rw [displayQuery, displayQuery, alike.query]
  have text : n.normalizedUrl = n'.normalizedUrl := by
    rw [storedText first, storedText second, alike.scheme, alike.path, query, host, ports]
  cases n
  cases n'
  cases host
  cases text
  rfl

theorem webUrlInj {scheme scheme' rest rest' : PyStr} (web : IsWeb scheme) (web' : IsWeb scheme')
    (same : webUrl scheme rest = webUrl scheme' rest') : scheme = scheme' ∧ rest = rest' := by
  have fifth : (webUrl scheme rest)[4]? = (webUrl scheme' rest')[4]? := by rw [same]
  rcases web with rfl | rfl <;> rcases web' with rfl | rfl
  · exact ⟨rfl, List.append_cancel_left (List.append_cancel_left same)⟩
  · exact absurd (Option.some.inj fifth) (by decide)
  · exact absurd (Option.some.inj fifth) (by decide)
  · exact ⟨rfl, List.append_cancel_left (List.append_cancel_left same)⟩

theorem portDigitsInj (same : portText port = portText port') : port = port' := by
  rcases port with _ | k <;> rcases port' with _ | k'
  · rfl
  · cases same
  · cases same
  · have digits : decimalText k = decimalText k' := (List.cons.inj same).2
    rw [← decimalValue k, ← decimalValue k', digits]

theorem netlocParted {netloc netloc' tail tail' : PyStr} (inside : ∀ c ∈ netloc, isNetlocEnd c = false)
    (inside' : ∀ c ∈ netloc', isNetlocEnd c = false) (rooted : tail.head? = some 0x2F) (rooted' : tail'.head? = some 0x2F)
    (same : netloc ++ tail = netloc' ++ tail') : netloc = netloc' ∧ tail = tail' := by
  have front : ∀ {a b : PyStr}, (∀ c ∈ a, isNetlocEnd c = false) → b.head? = some 0x2F →
      (a ++ b).takeWhile (fun c => !isNetlocEnd c) = a := by
    intro a b stays slash
    cases b with
    | nil => cases slash
    | cons c rest =>
      cases Option.some.inj slash
      rw [List.takeWhile_append_of_pos fun c member => by rw [stays c member]; rfl]
      exact List.append_nil _
  have first : netloc = netloc' := by
    rw [← front inside rooted, ← front inside' rooted', same]
  rw [first] at same
  exact ⟨first, List.append_cancel_left same⟩

theorem sameAlike (first : Acceptance python hostname url p port n) (second : Acceptance python hostname' url' q port' n')
    (plain : PlainCase python) (stable : StableCase python) (same : n = n') : Alike python p q := by
  cases same
  have texts := (storedText first).symm.trans (storedText second)
  obtain ⟨scheme, rest⟩ := webUrlInj (webScheme first) (webScheme second) texts
  have slash : ∀ {parts : SplitResult}, (displayPath parts).head? = some 0x2F →
      (displayPath parts ++ displayQuery parts).head? = some 0x2F := by
    intro parts rooted
    rw [List.head?_append, rooted]
    rfl
  obtain ⟨netloc, tail⟩ := netlocParted (fun c member => (storedNetloc first plain c member).1)
    (fun c member => (storedNetloc second plain c member).1) (slash (storedTail first).1) (slash (storedTail second).1) rest
  have ports : port = port' := by
    rw [displayNetlocIs, displayNetlocIs] at netloc
    exact portDigitsInj (List.append_cancel_left netloc)
  have front := @queryParted (displayPath p) p.query fun member => ((storedTail first).2.1 _ member).1 rfl
  have behind := @queryParted (displayPath q) q.query fun member => ((storedTail second).2.1 _ member).1 rfl
  rw [← displayQueryIs, tail, displayQueryIs] at front
  constructor
  · exact scheme
  · rw [← storedFolded first stable, ← storedFolded second stable]
  · rw [first.portRead, second.portRead, ports]
  · exact front.1.symm.trans behind.1
  · exact front.2.symm.trans behind.2

theorem entryFound {targets : List Target} {target : Target} (stored : target ∈ targets) :
    findByOwnerAndUrl targets target.ownerOrganizationId target.ownerUserId target.normalizedUrl ≠ .ok none := by
  have kept : target ∈ targets.filter fun t => t.normalizedUrl == target.normalizedUrl &&
      t.ownerOrganizationId == target.ownerOrganizationId && t.ownerUserId == target.ownerUserId :=
    List.mem_filter.mpr ⟨stored, by simp⟩
  intro absent
  unfold findByOwnerAndUrl at absent
  split at absent
  · rename_i empty
    rw [empty] at kept
    cases kept
  · cases absent
  · cases absent

theorem registeredEntry {isMember : Nat → Bool} {user fresh : Nat} {targets : List Target} {organization : Option Nat}
    {target : Target} (registered : registerTarget python isMember user targets fresh hostname url organization = .ok target) :
    ∃ normalized owner, normalizeTarget python hostname url = .ok normalized ∧
      ownerOfNew isMember user organization = .ok owner ∧
      findByOwnerAndUrl targets owner.1 owner.2 normalized.normalizedUrl = .ok none ∧
      target = ⟨fresh, owner.1, owner.2, normalized.hostname, normalized.normalizedUrl, false⟩ := by
  unfold registerTarget at registered
  obtain ⟨normalized, accepted, registered⟩ := bindIff.mp registered
  obtain ⟨owner, owned, registered⟩ := bindIff.mp registered
  obtain ⟨existing, found, registered⟩ := bindIff.mp registered
  cases existing with
  | some other => cases registered
  | none => exact ⟨normalized, owner, mapErrorIff.mp accepted, owned, found, (Except.ok.inj registered).symm⟩

theorem ownerSame {isMember isMember' : Nat → Bool} {user : Nat} {organization : Option Nat} {owner owner' : Option Nat × Option Nat}
    (first : ownerOfNew isMember user organization = .ok owner)
    (second : ownerOfNew isMember' user organization = .ok owner') : owner = owner' := by
  cases organization with
  | none => exact Except.ok.inj (first.symm.trans second)
  | some id =>
    unfold ownerOfNew at first second
    dsimp only at first second
    split at first
    · split at second
      · exact Except.ok.inj (first.symm.trans second)
      · cases second
    · cases first

/- Two accepted inputs give one normalized target exactly when they are alike; who registered
the first of two such inputs cannot register the second while the first is stored. -/
theorem oneTarget (plain : PlainCase python) (stable : StableCase python)
    (accepted : normalizeTarget python hostname url = .ok n) (accepted' : normalizeTarget python hostname' url' = .ok n')
    (split : urlsplit python (strip url) = .ok p) (split' : urlsplit python (strip url') = .ok q) :
    (n = n' ↔ Alike python p q) ∧
      (Alike python p q → ∀ isMember isMember' user organization before after fresh fresh' target,
        registerTarget python isMember user before fresh hostname url organization = .ok target → target ∈ after →
        ∀ other, registerTarget python isMember' user after fresh' hostname' url' organization ≠ .ok other) := by
  obtain ⟨parts, port, first⟩ := acceptedParts accepted
  obtain ⟨parts', port', second⟩ := acceptedParts accepted'
  cases first.split.symm.trans split
  cases second.split.symm.trans split'
  refine ⟨⟨sameAlike first second plain stable, alikeSame first second stable⟩, ?_⟩
  intro alike isMember isMember' user organization before after fresh fresh' target registered stored other again
  obtain ⟨normalized, owner, normal, owned, -, made⟩ := registeredEntry registered
  obtain ⟨normalized', owner', normal', owned', absent, -⟩ := registeredEntry again
  cases normal.symm.trans accepted
  cases normal'.symm.trans accepted'
  cases ownerSame owned owned'
  cases alikeSame first second stable alike
  have found := entryFound stored
  rw [made] at found
  exact found absent

end Identity

section Runs

/- An explicit default port is kept. -/
theorem defaultPortKept :
    normalizeTarget (Python.onAscii []) (py "example.com") (py "https://example.com:443/") =
      .ok ⟨py "example.com", py "https://example.com:443/"⟩ ∧
    normalizeTarget (Python.onAscii []) (py "example.com") (py "https://example.com/") =
      .ok ⟨py "example.com", py "https://example.com/"⟩ ∧
    (⟨py "example.com", py "https://example.com:443/"⟩ : NormalizedTarget) ≠ ⟨py "example.com", py "https://example.com/"⟩ := by
  decide +kernel

theorem dottedAlike : Alike (Python.onAscii []) ⟨py "https", py "Example.com.", [], [], py "b"⟩
    ⟨py "https", py "example.COM", py "/", [], []⟩ := by
  have first : normalizeTarget (Python.onAscii []) (py "Example.com") (py "HTTPS://Example.com.#b") =
      .ok ⟨py "example.com", py "https://example.com/"⟩ := by decide +kernel
  have second : normalizeTarget (Python.onAscii []) (py "example.com.") (py "https://example.COM/") =
      .ok ⟨py "example.com", py "https://example.com/"⟩ := by decide +kernel
  exact (oneTarget (plainOfAscii fun _ => rfl) (stableOfAscii fun _ => rfl) first second (by decide +kernel)
    (by decide +kernel)).1.mp rfl

end Runs
end SentinelGpt
