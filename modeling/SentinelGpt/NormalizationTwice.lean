import SentinelGpt.NormalizedUrls

/-! A target normalized a second time. -/
namespace SentinelGpt
open TargetNormalization UrlSplit SandboxHttpClient

section Trimmed

def trimmed (s : PyStr) : PyStr := (s.reverse.dropWhile isSpace).reverse

theorem trimmedPrefix (s : PyStr) : trimmed s <+: s := by
  have front := List.reverse_prefix.mpr (List.dropWhile_suffix (l := s.reverse) isSpace)
  rwa [List.reverse_reverse] at front

theorem trimmedSelf {s : PyStr} : trimmed s = s ↔ ∀ c ∈ s.getLast?, isSpace c = false := by
  rw [← List.head?_reverse]
  unfold trimmed
  constructor
  · intro same c first
    have whole := congrArg List.reverse same
    rw [List.reverse_reverse] at whole
    have stopped := List.head?_dropWhile_not isSpace s.reverse
    rw [whole, Option.mem_def.mp first] at stopped
    simpa using stopped
  · intro visible
    cases back : s.reverse with
    | nil => rw [List.reverse_eq_nil_iff.mp back]; rfl
    | cons c rest =>
      have shown : isSpace c = false := visible c (by rw [back]; rfl)
      rw [List.dropWhile_cons_of_neg (by rw [shown]; exact Bool.false_ne_true), ← back, List.reverse_reverse]

end Trimmed

section Twice
variable {python : Python} {hostname url : PyStr} {parts parts' : SplitResult} {port port' : Option Nat}
  {n : NormalizedTarget}

/- What a second pass needs of the first: no blank or bracket at an end of the host, a netloc
that is read, and no blank at the end of the path and the query. -/
structure ReadsBack (python : Python) (hostname : PyStr) (parts : SplitResult) (port : Option Nat) : Prop where
  visible : strip (givenHost python hostname) = givenHost python hostname
  unbracketed : stripBrackets (givenHost python hostname) = givenHost python hostname
  brackets : checkBrackets (displayNetloc (givenHost python hostname) port) = true
  netloc : checkNetloc python (displayNetloc (givenHost python hostname) port) = true
  ends : ∀ c ∈ (displayPath parts ++ displayQuery parts).getLast?, isSpace c = false

theorem undottedTwice (s : PyStr) : stripTrailingDot (stripTrailingDot s) = stripTrailingDot s := by
  rw [stripTrailingDot, stripTrailingDot, rstrip, rstrip, List.reverse_reverse, List.dropWhile_idempotent]

theorem validAgain {host name : PyStr} (valid : validateHost python host = .ok name) :
    validateHost python name = .ok name := by
  have same := validHost valid
  unfold validateHost at valid ⊢
  dsimp only at valid ⊢
  rw [same, undottedTwice, ← same]
  rw [← same] at valid
  exact valid

theorem stripInfix (s : PyStr) : strip s <:+: s :=
  (trimmedPrefix (s.dropWhile isSpace)).isInfix.trans (List.dropWhile_suffix _).isInfix

theorem bracketsInfix (s : PyStr) : stripBrackets s <:+: s := by
  have suffix := List.reverse_prefix.mpr (List.dropWhile_suffix (l := (s.dropWhile stripBrackets.isBracket).reverse)
    stripBrackets.isBracket)
  rw [List.reverse_reverse] at suffix
  exact suffix.isInfix.trans (List.dropWhile_suffix _).isInfix

theorem undottedSublist (s : PyStr) : (stripTrailingDot s).Sublist s := by
  have front := (List.dropWhile_sublist (· == (0x2E : CodePoint)) (l := s.reverse)).reverse
  rwa [List.reverse_reverse] at front

theorem givenTwice (stable : StableCase python) {host : PyStr} (lowered : python.lower host = host)
    (undotted : stripTrailingDot host = host) :
    host = givenHost python host ↔ strip host = host ∧ stripBrackets host = host := by
  constructor
  · intro same
    have inner : strip (strip host) <:+: host := (stripInfix _).trans (stripInfix _)
    rw [givenHost, stable.part host _ lowered inner] at same
    have lengths := congrArg List.length same
    have dots := (undottedSublist (stripBrackets (strip (strip host)))).length_le
    have brackets := (bracketsInfix (strip (strip host))).length_le
    have again := (stripInfix (strip host)).length_le
    have whole : strip host = host := (stripInfix host).sublist.eq_of_length (by have once := (stripInfix host).length_le; omega)
    rw [whole, whole] at lengths brackets dots
    exact ⟨whole, (bracketsInfix host).sublist.eq_of_length (by omega)⟩
  · intro ⟨visible, unbracketed⟩
    rw [givenHost, visible, visible, lowered, unbracketed, undotted]

theorem storedUndotted (acceptance : Acceptance python hostname url parts port n) :
    stripTrailingDot n.hostname = n.hostname := by
  rw [acceptance.same, givenHost, undottedTwice]

theorem tailSlash (acceptance : Acceptance python hostname url parts port n) :
    ∃ more, displayPath parts ++ displayQuery parts = 0x2F :: more := by
  have rooted := (storedTail acceptance).1
  cases path : displayPath parts with
  | nil =>
    rw [path] at rooted
    cases rooted
  | cons c rest =>
    rw [path] at rooted
    cases Option.some.inj rooted
    exact ⟨rest ++ displayQuery parts, rfl⟩

theorem storedStrip (acceptance : Acceptance python hostname url parts port n) {more : PyStr}
    (tail : displayPath parts ++ displayQuery parts = 0x2F :: more) : strip n.normalizedUrl =
      webUrl (python.lower parts.scheme) (displayNetloc n.hostname port ++ 0x2F :: trimmed more) := by
  rw [storedText acceptance, tail]
  exact stripWeb (webScheme acceptance) _ _

theorem tailEnds {more : PyStr} (tail : displayPath parts ++ displayQuery parts = 0x2F :: more) :
    trimmed more = more ↔ ∀ c ∈ (displayPath parts ++ displayQuery parts).getLast?, isSpace c = false := by
  rw [tail, trimmedSelf]
  cases more with
  | nil =>
    refine iff_of_true (fun c none => by cases none) fun c last => ?_
    cases last
    rfl
  | cons c rest => rw [List.getLast?_cons_cons]

def storedParts (python : Python) (host : PyStr) (parts : SplitResult) (port : Option Nat) : SplitResult :=
  ⟨python.lower parts.scheme, displayNetloc host port, displayPath parts, parts.query, []⟩

theorem normalizedAgain (acceptance : Acceptance python hostname url parts port n) : normalizedUrl
    (python.lower parts.scheme) n.hostname port (storedParts python n.hostname parts port) = n.normalizedUrl := by
  have filled : (displayPath parts).isEmpty = false := by
    rw [Bool.eq_false_iff]
    intro empty
    have rooted := (storedTail acceptance).1
    rw [List.isEmpty_iff.mp empty] at rooted
    cases rooted
  rw [acceptance.url]
  unfold normalizedUrl storedParts
  dsimp only
  rw [filled, if_neg Bool.false_ne_true]
  rfl

theorem acceptedAgain (acceptance : Acceptance python hostname url parts port n) (plain : PlainCase python)
    (stable : StableCase python) (back : ReadsBack python hostname parts port) :
    Acceptance python n.hostname n.normalizedUrl (storedParts python n.hostname parts port) port n := by
  obtain ⟨visible, unbracketed, brackets, netloc, ends⟩ := back
  rw [← acceptance.same] at visible unbracketed brackets netloc
  obtain ⟨close, anonymous⟩ := storedMarks acceptance plain
  obtain ⟨more, tail⟩ := tailSlash acceptance
  have info : (storedParts python n.hostname parts port).hostinfo = (n.hostname, portDigits port) :=
    shownInfo rfl close anonymous brackets
  have whole : strip n.normalizedUrl = n.normalizedUrl := by
    rw [storedStrip acceptance tail, (tailEnds tail).mpr ends, storedText acceptance, tail]
  have lowered := storedLower acceptance stable
  constructor
  · rw [visible]
    exact storedHostSome acceptance
  · rw [visible]
    exact acceptance.hostFits
  · rw [whole, storedText acceptance]
    rcases webScheme acceptance with http | https
    · rw [http]
      exact List.cons_ne_nil _ _
    · rw [https]
      exact List.cons_ne_nil _ _
  · rw [whole, storedRead acceptance plain stable, brackets, netloc]
    rfl
  · rw [storedParts, stable.again]
    exact acceptance.scheme
  · exact Bool.eq_false_iff.mpr fun member => storedAnonymous acceptance plain (List.contains_iff_mem.mp member)
  · exact shownPort info (portRange acceptance.portRead)
  · rw [shownName stable (storedHostSome acceptance) lowered info]
    exact validAgain acceptance.valid
  · exact acceptance.hostFits
  · exact (givenTwice stable lowered (storedUndotted acceptance)).mpr ⟨visible, unbracketed⟩
  · rw [show (storedParts python n.hostname parts port).scheme = python.lower parts.scheme from rfl, stable.again,
      normalizedAgain acceptance]
  · exact acceptance.urlFits

theorem partedLength (scheme netloc fragment more : PyStr) :
    (displayPath ⟨scheme, netloc, (partition 0x3F (0x2F :: more)).1, (partition 0x3F (0x2F :: more)).2.2, fragment⟩ ++
      displayQuery ⟨scheme, netloc, (partition 0x3F (0x2F :: more)).1, (partition 0x3F (0x2F :: more)).2.2,
        fragment⟩).length ≤ (0x2F :: more : PyStr).length := by
  have whole := congrArg List.length (partitionJoins 0x3F (0x2F :: more))
  have path : displayPath ⟨scheme, netloc, (partition 0x3F (0x2F :: more)).1, (partition 0x3F (0x2F :: more)).2.2,
      fragment⟩ = (partition 0x3F (0x2F :: more)).1 := rfl
  rw [List.length_append, List.length_append] at whole
  rw [path, List.length_append]
  by_cases mark : (0x3F : CodePoint) ∈ 0x2F :: more
  · have here : (partition 0x3F (0x2F :: more)).2.1 = true := List.contains_iff_mem.mpr mark
    rw [here, if_pos rfl, List.length_singleton] at whole
    unfold displayQuery
    split
    · rw [List.length_nil]
      omega
    · rw [List.length_cons]
      dsimp only
      omega
  · rw [partitionFree mark]
    exact Nat.le_refl _

theorem backOfTwice (acceptance : Acceptance python hostname url parts port n) (plain : PlainCase python)
    (stable : StableCase python) (again : Acceptance python n.hostname n.normalizedUrl parts' port' n) :
    ReadsBack python hostname parts port := by
  obtain ⟨close, anonymous⟩ := storedMarks acceptance plain
  obtain ⟨more, tail⟩ := tailSlash acceptance
  obtain ⟨-, -, kept⟩ := storedTail acceptance
  have host := (givenTwice stable (storedLower acceptance stable) (storedUndotted acceptance)).mp again.same
  have split := again.split
  have plainTail : ∀ c ∈ (0x2F : CodePoint) :: trimmed more, c ≠ 0x23 ∧ isKept c = true := by
    intro c member
    apply kept c
    rw [tail]
    exact ((trimmedPrefix more).sublist.cons_cons 0x2F).subset member
  rw [storedStrip acceptance tail, webRead (webScheme acceptance) (storedNetloc acceptance plain) rfl plainTail] at split
  split at split
  · rename_i checked
    simp only [Bool.and_eq_true] at checked
    have same := Except.ok.inj split
    have info : parts'.hostinfo = (n.hostname, portDigits port) :=
      shownInfo (by rw [← same]) close anonymous checked.1
    have ported : port' = port := by
      have given := again.portRead
      rw [shownPort info (portRange acceptance.portRead)] at given
      exact (Except.ok.inj given).symm
    have ends : trimmed more = more := by
      have first := storedText acceptance
      have second := storedText again
      rw [tail] at first
      rw [first, ported, ← same] at second
      dsimp only at second
      rw [stable.again, stable.again] at second
      have tails : 0x2F :: more = displayPath parts' ++ displayQuery parts' := by
        rw [← same]
        exact List.append_cancel_left (List.append_cancel_left (List.append_cancel_left second))
      have shown := partedLength (python.lower (python.lower parts.scheme)) (displayNetloc n.hostname port) [] (trimmed more)
      have lengths := congrArg List.length tails
      rw [← same] at lengths
      rw [List.length_cons] at shown lengths
      exact (trimmedPrefix more).eq_of_length_le (by omega)
    refine ⟨?_, ?_, ?_, ?_, (tailEnds tail).mp ends⟩
    · rw [← acceptance.same]
      exact host.1
    · rw [← acceptance.same]
      exact host.2
    · rw [← acceptance.same]
      exact checked.1
    · rw [← acceptance.same]
      exact checked.2
  · cases split

/- A second pass returns the result of the first exactly when the first leaves nothing that
the second one strips or cannot read. -/
theorem twiceIff (plain : PlainCase python) (stable : StableCase python) {hostname url : PyStr} {n : NormalizedTarget}
    {parts : SplitResult} {port : Option Nat} (accepted : normalizeTarget python hostname url = .ok n)
    (split : urlsplit python (strip url) = .ok parts) (given : parts.port = .ok port) :
    normalizeTarget python n.hostname n.normalizedUrl = .ok n ↔ ReadsBack python hostname parts port := by
  obtain ⟨parts', port', acceptance⟩ := acceptedParts accepted
  cases acceptance.split.symm.trans split
  cases acceptance.portRead.symm.trans given
  constructor
  · intro twice
    obtain ⟨parts', port', again⟩ := acceptedParts twice
    exact backOfTwice acceptance plain stable again
  · intro back
    exact acceptsParts (acceptedAgain acceptance plain stable back)

theorem blankStored : normalizeTarget (Python.onAscii []) (py "example.com") (py "https://example.com/a #b") =
      .ok ⟨py "example.com", py "https://example.com/a "⟩ ∧
    normalizeTarget (Python.onAscii []) (py "example.com") (py "https://example.com/a ") =
      .ok ⟨py "example.com", py "https://example.com/a"⟩ := by
  decide +kernel

theorem plainReadsBack : ReadsBack (Python.onAscii []) (py "Example.com.")
    ⟨py "https", py "example.com.", [], [], py "b"⟩ none := by
  have twice : normalizeTarget (Python.onAscii []) (py "example.com") (py "https://example.com/") =
      .ok ⟨py "example.com", py "https://example.com/"⟩ := by decide +kernel
  have accepted : normalizeTarget (Python.onAscii []) (py "Example.com.") (py "https://example.com.#b") =
      .ok ⟨py "example.com", py "https://example.com/"⟩ := by decide +kernel
  exact (twiceIff (plainOfAscii fun _ => rfl) (stableOfAscii fun _ => rfl) accepted (by decide +kernel) rfl).mp twice

end Twice
end SentinelGpt
