import SentinelGpt.TransportWalks
import SentinelGpt.TargetAcceptance
import SentinelGpt.UrlText

/-! The lexical gate of redirects beside that of registration. -/
namespace SentinelGpt
open TargetNormalization UrlSplit SandboxHttpClient Calling

def urlHost (host : PyStr) : PyStr :=
  match IPAddress.parse host with
  | some (.v6 _ _) => py "[" ++ host ++ py "]"
  | _ => host

def RegistersHost (python : Python) (host : PyStr) : Prop :=
  ∃ n, normalizeTarget python host (py "https://" ++ urlHost host ++ py "/") = .ok n

section Literals
variable {host : PyStr}

theorem splitOnHead {c : CodePoint} {s part : PyStr} {parts : List PyStr} (some : parts ≠ [])
    (split : splitOn c s = part :: parts) : ∃ rest, s = part ++ c :: rest := by
  induction s generalizing part parts with
  | nil =>
    cases split
    exact absurd rfl some
  | cons a rest ih =>
    unfold splitOn at split
    by_cases same : a = c
    · rw [if_pos same] at split
      cases split
      exact ⟨rest, by rw [same]; rfl⟩
    · rw [if_neg same] at split
      cases later : splitOn c rest with
      | nil =>
        rw [later] at split
        cases split
        exact absurd rfl some
      | cons first others =>
        rw [later] at split
        cases split
        obtain ⟨tail, whole⟩ := ih some later
        exact ⟨tail, by rw [whole]; rfl⟩

theorem splitOnSublist {c : CodePoint} {s part : PyStr} (member : part ∈ splitOn c s) : part.Sublist s := by
  induction s generalizing part with
  | nil =>
    cases List.mem_singleton.mp member
    exact List.Sublist.refl _
  | cons a rest ih =>
    unfold splitOn at member
    split at member
    · cases member with
      | head => exact List.nil_sublist _
      | tail _ member => exact (ih member).cons a
    · split at member
      · cases List.mem_singleton.mp member
        exact (List.nil_sublist _).cons_cons a
      · rename_i first others later
        cases member with
        | head => exact (ih (later ▸ List.mem_cons_self)).cons_cons a
        | tail _ member => exact (ih (later ▸ List.mem_cons_of_mem _ member)).cons a

theorem eachRead {α β : Type} {f : α → Option β} {items : List α} {results : List β}
    (read : items.mapM f = some results) : ∀ a ∈ items, (f a).isSome = true := by
  induction items generalizing results with
  | nil => exact fun a member => absurd member List.not_mem_nil
  | cons b rest ih =>
    rw [List.mapM_cons] at read
    obtain ⟨first, head, read⟩ := Option.bind_eq_some_iff.mp read
    obtain ⟨others, tail, -⟩ := Option.bind_eq_some_iff.mp read
    intro a member
    cases member with
    | head => rw [head]; rfl
    | tail _ later => exact ih tail a later

theorem hextetDigits {hextet : PyStr} (read : (IPAddress.parseHextet hextet).isSome = true) :
    ∀ c ∈ hextet, (JsonScan.hexValue c).isSome = true := by
  obtain ⟨n, read⟩ := Option.isSome_iff_exists.mp read
  unfold IPAddress.parseHextet at read
  split at read
  · cases read
  · obtain ⟨values, each, -⟩ := Option.bind_eq_some_iff.mp read
    exact eachRead each

theorem hextetsRead {parts : List PyStr} {n : Nat} (read : IPAddress.hextets parts = some n) :
    ∀ part ∈ parts, (IPAddress.parseHextet part).isSome = true := by
  obtain ⟨values, each, -⟩ := Option.bind_eq_some_iff.mp read
  exact eachRead each

theorem v6First {first : PyStr} {parts : List PyStr} {value : Nat}
    (read : IPAddress.v6Value (first :: parts) = some value) :
    ∀ c ∈ first, (JsonScan.hexValue c).isSome = true := by
  unfold IPAddress.v6Value at read
  split at read
  · split at read
    · exact hextetDigits (hextetsRead read first List.mem_cons_self)
    · cases read
  · rename_i skip one
    dsimp only at read
    cases leading : first with
    | nil => exact fun c member => absurd member List.not_mem_nil
    | cons a more =>
      have inside : skip ∈ IPAddress.skips (first :: parts) := by rw [one]; exact List.mem_cons_self
      have positive : 1 ≤ skip := by
        have kept := (List.mem_filter.mp inside).2
        simp only [Bool.and_eq_true, decide_eq_true_eq] at kept
        exact kept.1.1
      have some : (first :: parts).head?.any List.isEmpty = false := by rw [leading]; rfl
      rw [some] at read
      simp only [Bool.false_eq_true, if_false] at read
      generalize (if (first :: parts).getLast?.any List.isEmpty = true then [] else (first :: parts).drop (skip + 1)) =
        low at read
      split at read
      · cases read
      split at read
      · cases read
      obtain ⟨high, each, -⟩ := Option.bind_eq_some_iff.mp read
      have member : first ∈ (first :: parts).take skip := by
        cases skip with
        | zero => omega
        | succ k => exact List.mem_cons_self
      exact leading ▸ hextetDigits (hextetsRead each first member)
  · cases read

theorem colonPartsHead {address : PyStr} {parts : List PyStr} (split : IPAddress.colonParts address = some parts) :
    ∃ first more others, splitOn 0x3A address = first :: more ∧ more ≠ [] ∧ parts = first :: others := by
  unfold IPAddress.colonParts at split
  dsimp only at split
  cases texts : splitOn 0x3A address with
  | nil => simp [texts] at split
  | cons first more =>
    rw [texts] at split
    cases more with
    | nil => simp at split
    | cons second more =>
      simp only [List.length_cons, List.dropLast_cons_cons] at split
      split at split
      · cases split
      split at split
      · split at split
        · obtain ⟨suffix, -, same⟩ := Option.bind_eq_some_iff.mp split
          cases same
          exact ⟨first, second :: more, _, rfl, List.cons_ne_nil _ _, rfl⟩
        · cases split
          exact ⟨first, second :: more, _, rfl, List.cons_ne_nil _ _, rfl⟩
      · cases split

theorem literalHead {value : Fin (2 ^ 128)} {scope : Option PyStr}
    (literal : IPAddress.parse host = some (.v6 value scope)) :
    ∃ first rest, host = first ++ 0x3A :: rest ∧ ∀ c ∈ first, (JsonScan.hexValue c).isSome = true := by
  unfold IPAddress.parse at literal
  split at literal
  · cases literal
  split at literal
  · cases literal
  obtain ⟨⟨v, s⟩, read, same⟩ := Option.map_eq_some_iff.mp literal
  unfold IPAddress.parseV6 at read
  dsimp only at read
  split at read
  · cases read
  obtain ⟨parts, split, read⟩ := Option.bind_eq_some_iff.mp read
  obtain ⟨first, more, others, texts, some, rfl⟩ := colonPartsHead split
  have digits : ∀ c ∈ first, (JsonScan.hexValue c).isSome = true := by
    split at read
    · cases read
    · obtain ⟨number, value, -⟩ := Option.bind_eq_some_iff.mp read
      exact v6First value
  obtain ⟨rest, address⟩ := splitOnHead some texts
  have whole := partitionJoins 0x25 host
  rw [address, List.append_assoc] at whole
  exact ⟨first, _, whole.symm, digits⟩

end Literals
section Embedded
variable {python : Python} {host : PyStr} {parts : SplitResult} {p : CodePoint → Bool}

theorem gateUrl (host : PyStr) : py "https://" ++ host ++ py "/" = webUrl (py "https") (host ++ 0x2F :: []) := by
  rw [webUrl, ← List.append_assoc]
  rfl

theorem netlocEmbedded (split : urlsplit python (strip (py "https://" ++ host ++ py "/")) = .ok parts) :
    parts.netloc = ((host.filter isKept).takeWhile fun c => !isNetlocEnd c) ∧
      checkBrackets parts.netloc = true ∧ checkNetloc python parts.netloc = true := by
  have kept : (host ++ [0x2F]).filter isKept = host.filter isKept ++ [0x2F] := List.filter_append ..
  rw [gateUrl, stripWeb (.inr rfl), List.reverse_nil, List.dropWhile_nil, List.reverse_nil,
    urlsplitWeb (.inr rfl) kept rfl rfl] at split
  have stop : [(0x2F : CodePoint)].takeWhile (fun c => !isNetlocEnd c) = [] := rfl
  split at split
  · rename_i checked
    cases split
    refine ⟨?_, Bool.and_eq_true_iff.mp checked⟩
    dsimp only
    rw [List.takeWhile_append]
    split
    · rename_i whole
      rw [stop, List.append_nil, (List.takeWhile_prefix _).eq_of_length whole]
    · rfl
  · cases split

theorem hostOfCount (plain : PlainCase python) (only : ∀ c, p c = true → isPlain c = true)
    (split : urlsplit python (strip (py "https://" ++ host ++ py "/")) = .ok parts) :
    (hostOf python parts).countP p ≤ host.countP p := by
  rw [hostOf, hostCount plain only]
  refine (hostinfoSublist parts).countP_le.trans ?_
  rw [(netlocEmbedded split).1]
  exact ((List.takeWhile_sublist _).trans List.filter_sublist).countP_le

theorem hostinfoShorter {first rest : PyStr} (netloc : parts.netloc = first ++ 0x3A :: rest)
    (open_ : (0x5B : CodePoint) ∉ first) (anonymous : (0x40 : CodePoint) ∉ parts.netloc) :
    parts.hostinfo.1.countP (· == 0x3A) < parts.netloc.countP (· == 0x3A) := by
  have fewer : rest.countP (· == 0x3A) < parts.netloc.countP (· == 0x3A) := by
    rw [netloc, List.countP_append, List.countP_cons_of_pos (by rfl)]
    omega
  have info : afterLast 0x40 parts.netloc = parts.netloc := by
    have all : ∀ c ∈ parts.netloc.reverse, (c != 0x40) = true := fun c member =>
      bne_iff_ne.mpr fun same => anonymous (same ▸ List.mem_reverse.mp member)
    rw [afterLast, List.takeWhile_eq_self_iff.mpr all, List.reverse_reverse]
  unfold SplitResult.hostinfo partition
  dsimp only
  rw [info]
  split
  · have behind : parts.netloc.dropWhile (· != 0x5B) = rest.dropWhile (· != 0x5B) := by
      have free : ∀ c ∈ first, (c != 0x5B) = true := fun c member => bne_iff_ne.mpr fun same => open_ (same ▸ member)
      rw [netloc, List.dropWhile_append_of_pos free]
      rfl
    rw [behind]
    have inside := (List.takeWhile_sublist (· != (0x5D : CodePoint))).trans
      ((List.drop_sublist 1 (rest.dropWhile (· != 0x5B))).trans (List.dropWhile_sublist _))
    exact Nat.lt_of_le_of_lt inside.countP_le fewer
  · have none : (parts.netloc.takeWhile (· != 0x3A)).countP (· == 0x3A) = 0 := by
      apply List.countP_eq_zero.mpr
      intro c member colon
      simpa [beq_iff_eq.mp colon] using List.mem_takeWhile_imp member
    rw [none]
    omega

end Embedded
section Gates
variable {python : Python} {host : PyStr} {n : NormalizedTarget} {p : CodePoint → Bool}
  {s s' : HttpScanRequest python} {trace : TransportLog}

theorem givenHostCount (plain : PlainCase python) (only : ∀ c, p c = true → isPlain c = true)
    (space : ∀ c, p c = true → isSpace c = false) (bracket : ∀ c, p c = true → stripBrackets.isBracket c = false)
    (dot : p 0x2E = false) : (givenHost python host).countP p = host.countP p := by
  rw [givenHost, stripTrailingDot, countRstrip dot, stripBrackets, countStripped bracket, countLower plain only,
    countStrip space, countStrip space]

theorem colonPlain : ∀ c : CodePoint, (c == 0x3A) = true → isPlain c = true := by
  intro c colon
  rw [beq_iff_eq.mp colon]
  rfl

theorem colonsGiven (plain : PlainCase python) : (givenHost python host).countP (· == 0x3A) = host.countP (· == 0x3A) := by
  apply givenHostCount plain colonPlain <;> try rfl
  all_goals
    intro c colon
    rw [beq_iff_eq.mp colon]
    rfl

theorem hexOther {c d : CodePoint} (digit : (JsonScan.hexValue c).isSome = true)
    (other : d.val < 0x30 ∨ d.val = 0x3F ∨ d.val = 0x5B) : c ≠ d := by
  intro same
  subst same
  unfold JsonScan.hexValue at digit
  split at digit
  · omega
  split at digit
  · omega
  split at digit
  · omega
  · cases digit

theorem hexInUrl {c : CodePoint} (digit : (JsonScan.hexValue c).isSome = true) :
    isKept c = true ∧ isNetlocEnd c = false ∧ c ≠ 0x5B := by
  have other : ∀ d : CodePoint, d.val < 0x30 ∨ d.val = 0x3F ∨ d.val = 0x5B → (c == d) = false :=
    fun d which => beq_eq_false_iff_ne.mpr (hexOther digit which)
  refine ⟨?_, ?_, hexOther digit (.inr (.inr rfl))⟩
  · rw [isKept, other 0x09 (.inl (by decide)), other 0x0D (.inl (by decide)), other 0x0A (.inl (by decide))]
    rfl
  · rw [isNetlocEnd, other 0x2F (.inl (by decide)), other 0x3F (.inr (.inl rfl)), other 0x23 (.inl (by decide))]
    rfl

theorem literalRefused (plain : PlainCase python) {value : Fin (2 ^ 128)} {scope : Option PyStr}
    (literal : IPAddress.parse host = some (.v6 value scope)) :
    normalizeTarget python host (py "https://" ++ host ++ py "/") ≠ .ok n := by
  intro accepted
  obtain ⟨parts, port, acceptance⟩ := acceptedParts accepted
  obtain ⟨first, rest, whole, digits⟩ := literalHead literal
  have netloc := (netlocEmbedded acceptance.split).1
  have free : ∀ c ∈ first, isKept c = true ∧ isNetlocEnd c = false ∧ c ≠ 0x5B := fun c member =>
    hexInUrl (digits c member)
  have cut : parts.netloc = first ++ 0x3A :: (rest.filter isKept).takeWhile fun c => !isNetlocEnd c := by
    rw [netloc, whole, List.filter_append, List.filter_eq_self.mpr fun c member => (free c member).1,
      List.takeWhile_append_of_pos fun c member => by rw [(free c member).2.1]; rfl]
    rfl
  have anonymous : (0x40 : CodePoint) ∉ parts.netloc := fun member =>
    Bool.false_ne_true (acceptance.anonymous.symm.trans (List.contains_iff_mem.mpr member))
  have shorter := hostinfoShorter cut (fun member => (free _ member).2.2 rfl) anonymous
  have colons : n.hostname.countP (· == 0x3A) = parts.hostinfo.1.countP (· == 0x3A) := by
    rw [validHost acceptance.valid, stripTrailingDot, countRstrip rfl, hostOf, hostCount plain colonPlain]
  have given : n.hostname.countP (· == 0x3A) = host.countP (· == 0x3A) := by
    rw [acceptance.same, colonsGiven plain]
  have fewer : parts.netloc.countP (· == 0x3A) ≤ host.countP (· == 0x3A) := by
    rw [netloc]
    exact ((List.takeWhile_sublist _).trans List.filter_sublist).countP_le
  omega

theorem labelsUnread {labels : List PyStr} (unread : canonicalLabels labels = none) :
    ∃ label ∈ labels, label.all JsonScan.isDigit = true ∧ maxIntDigits < label.length := by
  induction labels with
  | nil => cases unread
  | cons label rest ih =>
    unfold canonicalLabels at unread
    split at unread
    · cases unread
    rename_i digits
    split at unread
    · cases unread
    split at unread
    · rename_i long
      simp only [isAsciiDigits, Bool.not_eq_true, Bool.not_eq_false', Bool.and_eq_true] at digits
      exact ⟨label, List.mem_cons_self, digits.2, long⟩
    split at unread
    · cases unread
    · obtain ⟨later, member, found⟩ := ih unread
      exact ⟨later, List.mem_cons_of_mem _ member, found⟩

theorem hostUnread {host : PyStr} (unread : validateHost python host = .error .valueError) :
    maxIntDigits < host.countP JsonScan.isDigit := by
  unfold validateHost at unread
  dsimp only at unread
  split at unread
  · cases unread
  split at unread
  · cases unread
  split at unread
  · cases unread
  split at unread
  · cases unread
  split at unread
  · rename_i decided
    split at decided
    · unfold isCanonicalDottedQuad at decided
      dsimp only at decided
      split at decided
      · obtain ⟨label, member, digits, long⟩ := labelsUnread decided
        have inside := (splitOnSublist member).countP_le (p := JsonScan.isDigit)
        rw [List.countP_eq_length.mpr (List.all_eq_true.mp digits), stripTrailingDot, countRstrip rfl] at inside
        omega
      · cases decided
    · cases decided
  · cases unread
  · split at unread <;> cases unread

theorem gateDecides (plain : PlainCase python) :
    normalizeTarget python host (py "https://" ++ host ++ py "/") ≠ .error .valueError := by
  intro raised
  obtain ⟨fits, parts, split, unread⟩ := valueErrorOf raised
  have digitPlain : ∀ c, JsonScan.isDigit c = true → isPlain c = true := by
    intro c digit
    simp only [JsonScan.isDigit, Bool.and_eq_true, decide_eq_true_eq] at digit
    simp only [isPlain, isAsciiAlpha, Bool.and_eq_true, Bool.not_eq_true', Bool.or_eq_false_iff,
      Bool.and_eq_false_iff, decide_eq_true_eq, decide_eq_false_iff_not]
    omega
  have digitVisible : ∀ c, JsonScan.isDigit c = true → isSpace c = false := by
    intro c digit
    simp only [JsonScan.isDigit, Bool.and_eq_true, decide_eq_true_eq] at digit
    simp only [isSpace, Bool.or_eq_false_iff, Bool.and_eq_false_iff, decide_eq_false_iff_not, beq_eq_false_iff_ne]
    omega
  have long := hostUnread unread
  have bound := (hostOfCount plain digitPlain split).trans
    ((countStrip digitVisible host).symm.le.trans (List.countP_le_length.trans fits))
  simp only [maxIntDigits, maxHostnameLength] at long bound
  omega

theorem nameAllowed : isProhibitedName python host = .ok false ↔
    ∃ n, normalizeTarget python host (py "https://" ++ host ++ py "/") = .ok n := by
  unfold isProhibitedName
  split
  · rename_i n accepted
    exact iff_of_true rfl ⟨n, accepted⟩
  all_goals
    rename_i refused
    refine iff_of_false (fun same => by cases same) ?_
    intro ⟨n, accepted⟩
    cases refused.symm.trans accepted

theorem nameRefused (plain : PlainCase python) (refused : isProhibitedName python host ≠ .ok false) :
    isProhibitedName python host = .ok true := by
  unfold isProhibitedName at refused ⊢
  split
  · rename_i accepted
    rw [accepted] at refused
    exact absurd rfl refused
  · rfl
  · rename_i raised
    exact absurd raised (gateDecides plain)

theorem nameOfUrl (other : ∀ value scope, IPAddress.parse host ≠ some (.v6 value scope)) : urlHost host = host := by
  unfold urlHost
  split
  · rename_i value scope literal
    exact absurd literal (other value scope)
  · rfl

theorem evaluateBlocked {context : ScanNetworkContext} {location : PyStr} {parts : SplitResult}
    {r : Except HttpFailure ScanNetworkContext}
    (split : urlsplit python location = .ok parts)
    (absolute : (parts.scheme.isEmpty && parts.netloc.isEmpty) = false)
    (name : isProhibitedName python (destinationHost python parts) = .ok true)
    (run : Runs s (evaluate context location) trace r s') :
    r = .error (.raised redirectDestinationBlockedError) := by
  unfold evaluate at run
  rcases attemptBind run with ⟨parts', again, run⟩ | ⟨e, failed, -⟩
  · rw [split] at again
    cases again
    simp only [absolute, Bool.false_eq_true, if_false] at run
    split at run
    · exact (refusedRuns run).2.1
    split at run
    · exact (refusedRuns run).2.1
    rcases attemptBind run with ⟨prohibited, given, run⟩ | ⟨e, failed, -⟩
    · rw [destinationHost] at name
      cases name.symm.trans given
      exact (refusedRuns run).2.1
    · cases name.symm.trans failed
  · cases split.symm.trans failed

end Gates
section Passing
variable {python : Python} {host shown netloc : PyStr}

theorem acceptsHost (ascii : AsciiCase python) (kept : shown.filter isKept = netloc)
    (stays : ∀ c ∈ netloc, (!isNetlocEnd c) = true) (brackets : checkBrackets netloc = true)
    (checked : checkNetloc python netloc = true) (anonymous : (0x40 : CodePoint) ∉ netloc)
    (port : SplitResult.port ⟨py "https", netloc, py "/", [], []⟩ = .ok none)
    (fits : (strip host).length ≤ maxHostnameLength)
    (valid : validateHost python (hostOf python ⟨py "https", netloc, py "/", [], []⟩) = .ok (givenHost python host))
    (hostFits : (givenHost python host).length ≤ maxHostnameLength) :
    ∃ n, normalizeTarget python host (py "https://" ++ shown ++ py "/") = .ok n := by
  have lowered : python.lower (py "https") = py "https" := ascii.lower _ (by decide)
  have stripped := stripWeb (.inr rfl) shown []
  have whole : (shown ++ 0x2F :: []).filter isKept = netloc ++ [0x2F] := by
    rw [List.filter_append, kept]
    rfl
  have split : urlsplit python (strip (py "https://" ++ shown ++ py "/")) = .ok ⟨py "https", netloc, py "/", [], []⟩ := by
    rw [gateUrl, stripped, List.reverse_nil, List.dropWhile_nil, List.reverse_nil,
      urlsplitWeb (.inr rfl) whole (List.takeWhile_append_of_pos stays) (List.dropWhile_append_of_pos stays)]
    have stop : [(0x2F : CodePoint)].takeWhile (fun c => !isNetlocEnd c) = [] := rfl
    rw [stop, List.append_nil, brackets, checked, lowered]
    rfl
  have some := validHostSome valid
  refine ⟨⟨givenHost python host, normalizedUrl (python.lower (py "https")) (givenHost python host) none
    ⟨py "https", netloc, py "/", [], []⟩⟩, acceptedIff.mpr ⟨⟨py "https", netloc, py "/", [], []⟩, none, ?_⟩⟩
  constructor
  · intro empty
    have none : python.lower [] = [] := ascii.lower [] rfl
    rw [givenHost, empty, show strip [] = [] from rfl, none] at some
    exact some rfl
  · exact fits
  · rw [gateUrl, stripped]
    exact List.append_ne_nil_of_left_ne_nil (by decide) _
  · exact split
  · rw [lowered]
    decide
  · exact Bool.eq_false_iff.mpr fun member => anonymous (List.contains_iff_mem.mp member)
  · exact port
  · exact valid
  · exact hostFits
  · rfl
  · rfl
  · rw [lowered]
    have text : normalizedUrl (py "https") (givenHost python host) none ⟨py "https", netloc, py "/", [], []⟩ = _ :=
      normalizedUrlText (List.cons_ne_nil _ _) some fun c first => (Option.some.inj first).symm
    have display := displayHostLength (givenHost python host)
    have front : (py "https").length = 5 ∧ (py "://").length = 3 := ⟨rfl, rfl⟩
    have behind : (displayPath ⟨py "https", netloc, py "/", [], []⟩ ++
      displayQuery ⟨py "https", netloc, py "/", [], []⟩).length = 1 := rfl
    simp only [maxHostnameLength, maxNormalizedUrlLength] at hostFits ⊢
    rw [text, webUrl, List.length_append, List.length_append, List.length_append, displayNetloc]
    omega

end Passing

section Brackets
variable {python : Python} {host : PyStr}

def bracketed (host : PyStr) : SplitResult := ⟨py "https", py "[" ++ host.filter isKept ++ py "]", py "/", [], []⟩

structure LiteralTaken (python : Python) (host : PyStr) : Prop where
  fits : (strip host).length ≤ maxHostnameLength
  whole : ∀ c ∈ host, isNetlocEnd c = false ∧ c ≠ 0x40
  brackets : checkBrackets (bracketed host).netloc = true
  netloc : checkNetloc python (bracketed host).netloc = true
  valid : validateHost python (hostOf python (bracketed host)) = .ok (givenHost python host)
  hostFits : (givenHost python host).length ≤ maxHostnameLength

theorem hostOfNetloc {parts parts' : SplitResult} (same : parts.netloc = parts'.netloc) :
    hostOf python parts = hostOf python parts' := by
  rw [hostOf, hostOf, SplitResult.hostname, SplitResult.hostname, SplitResult.hostinfo, SplitResult.hostinfo, same]

def endsUserinfo (c : CodePoint) : Bool := isNetlocEnd c || c == 0x40

theorem endsUserinfoIs {c : CodePoint} (ends : endsUserinfo c = true) : c = 0x2F ∨ c = 0x3F ∨ c = 0x23 ∨ c = 0x40 := by
  simpa [endsUserinfo, isNetlocEnd, or_assoc] using ends

theorem bracketedWhole (whole : ∀ c ∈ host, isNetlocEnd c = false ∧ c ≠ 0x40) :
    (bracketed host).netloc.takeWhile (fun c => !isNetlocEnd c) = (bracketed host).netloc := by
  apply List.takeWhile_eq_self_iff.mpr
  intro c member
  simp only [bracketed, List.mem_append] at member
  rcases member with (first | inside) | last
  · cases List.mem_singleton.mp first
    rfl
  · rw [(whole c (List.mem_filter.mp inside).1).1]
    rfl
  · cases List.mem_singleton.mp last
    rfl

theorem takenOfLiteral (plain : PlainCase python) {n : NormalizedTarget}
    (accepted : normalizeTarget python host (py "https://" ++ (py "[" ++ host ++ py "]") ++ py "/") = .ok n) :
    LiteralTaken python host := by
  obtain ⟨parts, port, acceptance⟩ := acceptedParts accepted
  obtain ⟨netloc, brackets, checked⟩ := netlocEmbedded acceptance.split
  have inside : (py "[" ++ host ++ py "]").filter isKept = (bracketed host).netloc := by
    rw [List.filter_append, List.filter_append]
    rfl
  rw [inside] at netloc
  have free : parts.netloc.countP endsUserinfo = 0 := by
    apply List.countP_eq_zero.mpr
    intro c member ends
    have stays : isNetlocEnd c = false := by
      rw [netloc] at member
      simpa using List.mem_takeWhile_imp member
    rw [endsUserinfo, stays, Bool.false_or, beq_iff_eq] at ends
    rw [ends] at member
    exact Bool.false_ne_true (acceptance.anonymous.symm.trans (List.contains_iff_mem.mpr member))
  have counted : host.countP endsUserinfo = 0 := by
    have given : n.hostname.countP endsUserinfo = host.countP endsUserinfo := by
      rw [acceptance.same]
      apply givenHostCount plain <;> try rfl
      all_goals
        intro c ends
        rcases endsUserinfoIs ends with rfl | rfl | rfl | rfl <;> rfl
    have fewer : n.hostname.countP endsUserinfo ≤ parts.netloc.countP endsUserinfo := by
      rw [validHost acceptance.valid, stripTrailingDot, countRstrip rfl, hostOf, hostCount plain ?_]
      · exact (hostinfoSublist parts).countP_le
      · intro c ends
        rcases endsUserinfoIs ends with rfl | rfl | rfl | rfl <;> rfl
    omega
  have whole : ∀ c ∈ host, isNetlocEnd c = false ∧ c ≠ 0x40 := by
    intro c member
    have none := List.countP_eq_zero.mp counted c member
    simpa [endsUserinfo] using none
  have read : parts.netloc = (bracketed host).netloc := netloc.trans (bracketedWhole whole)
  rw [read] at brackets checked
  have valid := acceptance.valid
  rw [hostOfNetloc read, acceptance.same] at valid
  exact ⟨acceptance.hostnameFits, whole, brackets, checked, valid, acceptance.same ▸ acceptance.hostFits⟩

theorem bracketedAnonymous (anonymous : (0x40 : CodePoint) ∉ host) : (0x40 : CodePoint) ∉ (bracketed host).netloc := by
  intro member
  simp only [bracketed, List.mem_append] at member
  rcases member with (first | inside) | last
  · cases List.mem_singleton.mp first
  · exact anonymous (List.mem_filter.mp inside).1
  · cases List.mem_singleton.mp last

theorem hostinfoBracketed (anonymous : (0x40 : CodePoint) ∉ host) : (bracketed host).hostinfo =
    ((partition 0x5D (host.filter isKept ++ py "]")).1,
      (partition 0x3A (partition 0x5D (host.filter isKept ++ py "]")).2.2).2.2) := by
  have free : ∀ c ∈ (bracketed host).netloc.reverse, (c != 0x40) = true := fun c member =>
    bne_iff_ne.mpr fun same => bracketedAnonymous anonymous (same ▸ List.mem_reverse.mp member)
  have info : afterLast 0x40 (bracketed host).netloc = (bracketed host).netloc := by
    rw [afterLast, List.takeWhile_eq_self_iff.mpr free, List.reverse_reverse]
  unfold SplitResult.hostinfo
  rw [info]
  rfl

theorem portBracketed (plain : PlainCase python) (taken : LiteralTaken python host) : (bracketed host).port = .ok none := by
  have info := hostinfoBracketed fun member => (taken.whole _ member).2 rfl
  have kept : (host.filter isKept).countP (· == 0x3A) = host.countP (· == 0x3A) := by
    rw [List.countP_filter]
    apply List.countP_congr
    intro c _
    simp only [Bool.and_eq_true]
    refine ⟨fun both => both.1, fun colon => ⟨colon, ?_⟩⟩
    rw [beq_iff_eq.mp colon]
    rfl
  have read : (bracketed host).hostinfo.1.countP (· == 0x3A) = host.countP (· == 0x3A) := by
    have named := congrArg (List.countP (· == 0x3A)) (validHost taken.valid)
    rw [colonsGiven plain, stripTrailingDot, countRstrip rfl, hostOf, hostCount plain colonPlain] at named
    exact named.symm
  have whole := congrArg (List.countP (· == 0x3A)) (partitionJoins 0x5D (host.filter isKept ++ py "]"))
  have front : (bracketed host).hostinfo.1 = (partition 0x5D (host.filter isKept ++ py "]")).1 := by rw [info]
  rw [List.countP_append, List.countP_append, List.countP_append, kept, ← read, front] at whole
  have last : (py "]").countP (· == 0x3A) = 0 := rfl
  have behind : (partition 0x5D (host.filter isKept ++ py "]")).2.2.countP (· == 0x3A) = 0 := by omega
  have text : (bracketed host).hostinfo.2 = [] := by
    rw [info]
    unfold partition at behind ⊢
    dsimp only at behind ⊢
    rw [List.dropWhile_eq_nil_iff.mpr, List.drop_nil]
    intro c member
    exact bne_iff_ne.mpr fun same => List.countP_eq_zero.mp behind c member (beq_iff_eq.mpr same)
  unfold SplitResult.port
  rw [text]
  rfl

theorem literalOfTaken (ascii : AsciiCase python) (plain : PlainCase python) (taken : LiteralTaken python host) :
    ∃ n, normalizeTarget python host (py "https://" ++ (py "[" ++ host ++ py "]") ++ py "/") = .ok n := by
  have kept : (py "[" ++ host ++ py "]").filter isKept = (bracketed host).netloc := by
    rw [List.filter_append, List.filter_append]
    rfl
  apply acceptsHost ascii kept
  · exact List.takeWhile_eq_self_iff.mp (bracketedWhole taken.whole)
  · exact taken.brackets
  · exact taken.netloc
  · exact bracketedAnonymous fun inside => (taken.whole _ inside).2 rfl
  · exact portBracketed plain taken
  · exact taken.fits
  · exact taken.valid
  · exact taken.hostFits

end Brackets
section Agreement
variable {python : Python} {host : PyStr} {s s' : HttpScanRequest python} {trace : TransportLog}

theorem urlOfLiteral {value : Fin (2 ^ 128)} {scope : Option PyStr}
    (literal : IPAddress.parse host = some (.v6 value scope)) : urlHost host = py "[" ++ host ++ py "]" := by
  unfold urlHost
  rw [literal]

theorem registersLiteral (ascii : AsciiCase python) (plain : PlainCase python) {value : Fin (2 ^ 128)}
    {scope : Option PyStr} (literal : IPAddress.parse host = some (.v6 value scope)) :
    RegistersHost python host ↔ LiteralTaken python host := by
  unfold RegistersHost
  rw [urlOfLiteral literal]
  exact ⟨fun ⟨n, accepted⟩ => takenOfLiteral plain accepted, literalOfTaken ascii plain⟩

/- The gate and registration agree about a host exactly when it is no IPv6 literal that
registration takes in its brackets. -/
theorem gateAgreesIff (ascii : AsciiCase python) (plain : PlainCase python) (host : PyStr) :
    ((RegistersHost python host → isProhibitedName python host = .ok false) ∧
      (¬ RegistersHost python host → ∀ (context : ScanNetworkContext) (location : PyStr) (parts : SplitResult)
        (s s' : HttpScanRequest python) (trace : TransportLog) (r : Except HttpFailure ScanNetworkContext),
        urlsplit python location = .ok parts → (parts.scheme.isEmpty && parts.netloc.isEmpty) = false →
        destinationHost python parts = host → Runs s (evaluate context location) trace r s' →
          r = .error (.raised redirectDestinationBlockedError))) ↔
      ∀ value scope, IPAddress.parse host = some (.v6 value scope) → ¬ LiteralTaken python host := by
  by_cases version : ∃ value scope, IPAddress.parse host = some (.v6 value scope)
  · obtain ⟨value, scope, literal⟩ := version
    have refused : isProhibitedName python host ≠ .ok false := fun allowed => by
      obtain ⟨n, accepted⟩ := nameAllowed.mp allowed
      exact literalRefused plain literal accepted
    rw [registersLiteral ascii plain literal]
    constructor
    · intro agree _ _ _ taken
      exact refused (agree.1 taken)
    · intro none
      refine ⟨fun taken => absurd taken (none value scope literal), ?_⟩
      intro _ context location parts s s' trace r split absolute named run
      subst named
      exact evaluateBlocked split absolute (nameRefused plain refused) run
  · have other : ∀ value scope, IPAddress.parse host ≠ some (.v6 value scope) := fun value scope literal =>
      version ⟨value, scope, literal⟩
    have same : RegistersHost python host ↔ isProhibitedName python host = .ok false := by
      rw [nameAllowed, RegistersHost, nameOfUrl other]
    refine iff_of_true ⟨same.mp, ?_⟩ fun value scope literal => absurd literal (other value scope)
    intro unregistered context location parts s s' trace r split absolute named run
    subst named
    exact evaluateBlocked split absolute (nameRefused plain fun allowed => unregistered (same.mpr allowed)) run

def publicLiteral : PyStr := py "2606:4700::1111"

/- Registration takes it, and a redirect to it is refused. -/
theorem publicLiteralRefused : RegistersHost (Python.onAscii []) publicLiteral ∧
    isProhibitedName (Python.onAscii []) publicLiteral = .ok true :=
  ⟨⟨⟨publicLiteral, py "https://[2606:4700::1111]/"⟩, by decide +kernel⟩, by decide +kernel⟩

theorem publicLiteralTaken : ∃ value scope, IPAddress.parse publicLiteral = some (.v6 value scope) ∧
    LiteralTaken (Python.onAscii []) publicLiteral := by
  have ascii : AsciiCase (Python.onAscii []) := ⟨fun _ _ => rfl, fun _ _ => rfl⟩
  have plain : PlainCase (Python.onAscii []) := plainOfAscii fun _ => rfl
  by_contra none
  have agree := (gateAgreesIff ascii plain publicLiteral).mpr fun value scope literal taken =>
    none ⟨value, scope, literal, taken⟩
  have registered : RegistersHost (Python.onAscii []) publicLiteral :=
    ⟨⟨publicLiteral, py "https://[2606:4700::1111]/"⟩, by decide +kernel⟩
  have allowed := agree.1 registered
  revert allowed
  decide +kernel

end Agreement
end SentinelGpt
