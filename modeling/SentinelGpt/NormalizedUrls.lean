import SentinelGpt.TransportWalks
import SentinelGpt.TargetAcceptance
import SentinelGpt.NumberTexts

/-! What a normalized URL is read as. -/
namespace SentinelGpt
open TargetNormalization UrlSplit JsonScan SandboxHttpClient

/- `str.lower` leaves its results, and the parts of them, as they are. -/
structure StableCase (python : Python) : Prop where
  again : ∀ s, python.lower (python.lower s) = python.lower s
  part : ∀ s t, python.lower s = s → t <:+: s → python.lower t = t

theorem stableOfAscii {python : Python} (lower : ∀ s, python.lower s = asciiCase 0x41 0x5A (fun c => c + 0x20) s) :
    StableCase python := by
  have settled : ∀ c : CodePoint, let l := if 0x41 ≤ c.val ∧ c.val ≤ 0x5A then c + 0x20 else c
      (if 0x41 ≤ l.val ∧ l.val ≤ 0x5A then l + 0x20 else l) = l := by
    intro c
    by_cases upper : 0x41 ≤ c.val ∧ c.val ≤ 0x5A
    · have value : (c + 0x20).val = c.val + 0x20 := by
        rw [Fin.val_add]
        simp
        omega
      simp only [if_pos upper]
      exact if_neg (by omega)
    · simp only [if_neg upper]
  constructor
  · intro s
    rw [lower, lower, asciiCase, asciiCase, List.map_map]
    exact List.map_congr_left fun c _ => settled c
  · intro s t same part
    rw [lower, asciiCase] at same ⊢
    have each := List.map_inj_left.mp (same.trans (List.map_id s).symm)
    refine (List.map_congr_left fun c member => ?_).trans (List.map_id t)
    exact each c (part.subset member)

section Pieces
variable {python : Python} {url : PyStr} {parts : SplitResult}

structure SplitPieces (parts : SplitResult) : Prop where
  netloc : ∀ c ∈ parts.netloc, isNetlocEnd c = false ∧ isKept c = true
  path : ∀ c ∈ parts.path, c ≠ 0x3F ∧ c ≠ 0x23 ∧ isKept c = true
  query : ∀ c ∈ parts.query, c ≠ 0x23 ∧ isKept c = true
  brackets : checkBrackets parts.netloc = true

theorem partitionFront {c : CodePoint} {s : PyStr} : ∀ a ∈ (partition c s).1, a ∈ s ∧ a ≠ c := by
  intro a member
  refine ⟨(List.takeWhile_sublist _).subset member, ?_⟩
  simpa using List.mem_takeWhile_imp member

theorem partitionBehind {c : CodePoint} {s : PyStr} : ∀ a ∈ (partition c s).2.2, a ∈ s :=
  fun _ member => (List.dropWhile_sublist _).subset ((List.drop_sublist _ _).subset member)

theorem cleanedKept (url : PyStr) : ∀ c ∈ cleaned url, isKept c = true := fun _ member => (List.mem_filter.mp member).2

theorem schemeRest : ∀ c ∈ (splitScheme python url).2, c ∈ url := by
  unfold splitScheme
  dsimp only
  split
  · exact partitionBehind
  · exact fun _ member => member

theorem splitPieces (split : urlsplit python url = .ok parts) : SplitPieces parts := by
  unfold urlsplit at split
  dsimp only at split
  have kept : ∀ c ∈ (splitScheme python (cleaned url)).2, isKept c = true := fun c member =>
    cleanedKept url c (schemeRest c member)
  generalize (splitScheme python (cleaned url)).2 = rest at split kept
  have cut : (∀ c ∈ (splitNetloc rest).1, isNetlocEnd c = false ∧ isKept c = true) ∧
      ∀ c ∈ (splitNetloc rest).2, isKept c = true := by
    unfold splitNetloc
    split
    · constructor
      · intro c member
        refine ⟨by simpa using List.mem_takeWhile_imp member, kept c ?_⟩
        exact (List.drop_sublist _ _).subset ((List.takeWhile_sublist _).subset member)
      · exact fun c member => kept c ((List.drop_sublist _ _).subset ((List.dropWhile_sublist _).subset member))
    · exact ⟨fun c member => absurd member List.not_mem_nil, kept⟩
  generalize splitNetloc rest = pieces at split cut
  split at split
  · cases split
  rename_i checked
  split at split
  · cases split
    refine ⟨cut.1, ?_, ?_, by simpa using checked⟩
    · intro c member
      have front := partitionFront c member
      have before := partitionFront c front.1
      exact ⟨front.2, before.2, cut.2 c before.1⟩
    · intro c member
      have before := partitionFront c (partitionBehind c member)
      exact ⟨before.2, cut.2 c before.1⟩
  · cases split

end Pieces
section Together
variable {python : Python} {scheme netloc tail path query : PyStr}

theorem webRead (web : IsWeb scheme) (inside : ∀ c ∈ netloc, isNetlocEnd c = false ∧ isKept c = true)
    (rooted : tail.head? = some 0x2F) (plain : ∀ c ∈ tail, c ≠ 0x23 ∧ isKept c = true) :
    urlsplit python (webUrl scheme (netloc ++ tail)) =
      if checkBrackets netloc && checkNetloc python netloc then
        .ok ⟨python.lower scheme, netloc, (partition 0x3F tail).1, (partition 0x3F tail).2.2, []⟩
      else .error .valueError := by
  have kept : (netloc ++ tail).filter isKept = netloc ++ tail := by
    apply List.filter_eq_self.mpr
    intro c member
    rcases List.mem_append.mp member with front | behind
    · exact (inside c front).2
    · exact (plain c behind).2
  have stays : ∀ c ∈ netloc, (!isNetlocEnd c) = true := fun c member => by
    rw [(inside c member).1]
    rfl
  have free : (0x23 : CodePoint) ∉ tail := fun member => (plain _ member).1 rfl
  cases tail with
  | nil => cases rooted
  | cons slash rest =>
    cases Option.some.inj rooted
    have front : (netloc ++ 0x2F :: rest).takeWhile (fun c => !isNetlocEnd c) = netloc := by
      rw [List.takeWhile_append_of_pos stays]
      exact List.append_nil _
    have behind : (netloc ++ 0x2F :: rest).dropWhile (fun c => !isNetlocEnd c) = 0x2F :: rest :=
      List.dropWhile_append_of_pos stays
    rw [urlsplitWeb web kept front behind, partitionFree free]

theorem queryParted (free : (0x3F : CodePoint) ∉ path) :
    (partition 0x3F (path ++ queryText query)).1 = path ∧ (partition 0x3F (path ++ queryText query)).2.2 = query := by
  unfold queryText
  cases query with
  | nil =>
    rw [List.isEmpty_nil, if_pos rfl, List.append_nil, partitionFree free]
    exact ⟨rfl, rfl⟩
  | cons c rest =>
    have front : ∀ a ∈ path, (a != 0x3F) = true := fun a member => bne_iff_ne.mpr fun same => free (same ▸ member)
    rw [List.isEmpty_cons, if_neg Bool.false_ne_true, partition, List.takeWhile_append_of_pos front,
      List.dropWhile_append_of_pos front]
    exact ⟨List.append_nil _, rfl⟩

end Together

section Shown
variable {python : Python} {host : PyStr} {port : Option Nat} {parts : SplitResult}

theorem anonymousInfo (anonymous : (0x40 : CodePoint) ∉ parts.netloc) : afterLast 0x40 parts.netloc = parts.netloc := by
  have all : ∀ c ∈ parts.netloc.reverse, (c != 0x40) = true := fun c member =>
    bne_iff_ne.mpr fun same => anonymous (same ▸ List.mem_reverse.mp member)
  rw [afterLast, List.takeWhile_eq_self_iff.mpr all, List.reverse_reverse]

theorem hostinfoMarks (brackets : checkBrackets parts.netloc = true) (anonymous : (0x40 : CodePoint) ∉ parts.netloc) :
    0x5D ∉ parts.hostinfo.1 := by
  unfold SplitResult.hostinfo
  rw [anonymousInfo anonymous]
  dsimp only
  split
  · exact fun member => (partitionFront _ member).2 rfl
  · rename_i open_
    intro member
    have inside := (partitionFront _ member).1
    have close : parts.netloc.contains 0x5D = true := List.contains_iff_mem.mpr inside
    have none : parts.netloc.contains 0x5B = false := by simpa [partition] using open_
    rw [checkBrackets, none, close] at brackets
    cases brackets

theorem memLower (plain : PlainCase python) {s : PyStr} {c : CodePoint} (is : isPlain c = true)
    (member : c ∈ python.lower s) : c ∈ s := by
  have kept : c ∈ (python.lower s).filter isPlain := List.mem_filter.mpr ⟨member, is⟩
  rw [plain.lower] at kept
  exact (List.mem_filter.mp kept).1

theorem memHostOf (plain : PlainCase python) {c : CodePoint} (is : isPlain c = true)
    (member : c ∈ hostOf python parts) : c ∈ parts.hostinfo.1 := by
  unfold hostOf SplitResult.hostname at member
  dsimp only at member
  split at member
  · cases member
  · have whole := partitionJoins 0x25 parts.hostinfo.1
    rw [← whole]
    rw [Option.getD_some, List.append_assoc] at member
    rcases List.mem_append.mp member with front | behind
    · exact List.mem_append_left _ (memLower plain is front)
    · exact List.mem_append_right _ behind

def portDigits : Option Nat → PyStr
  | some n => decimalText n
  | none => []

def portText (port : Option Nat) : PyStr := if port.isSome then 0x3A :: portDigits port else []

theorem displayNetlocIs (host : PyStr) (port : Option Nat) : displayNetloc host port = displayHost host ++ portText port := by
  cases port with
  | none => exact (List.append_nil _).symm
  | some n =>
    rw [displayNetloc, pyDecimal, List.append_assoc]
    rfl

theorem portTextChars {c : CodePoint} (member : c ∈ portText port) : c = 0x3A ∨ ∃ d < 10, c = digitCode d := by
  cases port with
  | none => cases member
  | some n =>
    cases member with
    | head => exact .inl rfl
    | tail _ digit => exact .inr (memDecimal digit)

theorem memDisplayNetloc {c : CodePoint} (member : c ∈ displayNetloc host port) :
    c ∈ host ∨ c = 0x5B ∨ c = 0x5D ∨ c = 0x3A ∨ ∃ d < 10, c = digitCode d := by
  rw [displayNetlocIs] at member
  rcases List.mem_append.mp member with front | behind
  · unfold displayHost at front
    split at front
    · rcases List.mem_append.mp front with front | close
      · rcases List.mem_append.mp front with open_ | inside
        · exact .inr (.inl (List.mem_singleton.mp open_))
        · exact .inl inside
      · exact .inr (.inr (.inl (List.mem_singleton.mp close)))
    · exact .inl front
  · exact .inr (.inr (.inr (portTextChars behind)))

theorem portTextFree {c : CodePoint} (other : c ≠ 0x3A) (digit : ∀ d < 10, c ≠ digitCode d) : c ∉ portText port := by
  intro member
  rcases portTextChars member with colon | ⟨d, small, same⟩
  · exact other colon
  · exact digit d small same

theorem portBehind (front : PyStr) (free : 0x3A ∉ front) :
    partition 0x3A (front ++ portText port) = (front, port.isSome, portDigits port) := by
  cases port with
  | none => exact (congrArg (partition 0x3A) (List.append_nil front)).trans (partitionFree free)
  | some n =>
    have others : ∀ a ∈ front, (a != 0x3A) = true := fun a member => bne_iff_ne.mpr fun same => free (same ▸ member)
    have here : (front ++ portText (some n)).contains 0x3A = true :=
      List.contains_iff_mem.mpr (List.mem_append_right _ List.mem_cons_self)
    rw [partition, here, List.takeWhile_append_of_pos others, List.dropWhile_append_of_pos others]
    exact Prod.ext (List.append_nil _) rfl

theorem shownInfo (shown : parts.netloc = displayNetloc host port) (close : 0x5D ∉ host) (anonymous : 0x40 ∉ host)
    (brackets : checkBrackets (displayNetloc host port) = true) : parts.hostinfo = (host, portDigits port) := by
  have named : (0x40 : CodePoint) ∉ portText port := portTextFree (by decide) (by decide)
  have closed : (0x5D : CodePoint) ∉ portText port := portTextFree (by decide) (by decide)
  rw [displayNetlocIs] at shown brackets
  by_cases colon : (0x3A : CodePoint) ∈ host
  · have display : displayHost host = 0x5B :: (host ++ [0x5D]) := if_pos (List.contains_iff_mem.mpr colon)
    rw [display] at shown
    have at_ : (0x40 : CodePoint) ∉ parts.netloc := by
      rw [shown]
      simp only [List.mem_append, List.mem_cons, List.not_mem_nil, or_false, not_or]
      exact ⟨⟨by decide, anonymous, by decide⟩, named⟩
    have behind : partition 0x5B parts.netloc = ([], true, host ++ 0x5D :: portText port) := by
      rw [shown, List.cons_append, List.append_assoc]
      rfl
    have cut : partition 0x5D (host ++ 0x5D :: portText port) = (host, true, portText port) := by
      have others : ∀ a ∈ host, (a != 0x5D) = true := fun a member => bne_iff_ne.mpr fun same => close (same ▸ member)
      have here : (host ++ 0x5D :: portText port).contains 0x5D = true :=
        List.contains_iff_mem.mpr (List.mem_append_right _ List.mem_cons_self)
      rw [partition, here, List.dropWhile_append_of_pos others, takeUntil close]
      rfl
    have digits : partition 0x3A (portText port) = ([], port.isSome, portDigits port) := portBehind [] List.not_mem_nil
    rw [SplitResult.hostinfo, anonymousInfo at_, behind]
    dsimp only
    rw [if_pos rfl, cut]
    dsimp only
    rw [digits]
  · have display : displayHost host = host := if_neg fun member => colon (List.contains_iff_mem.mp member)
    rw [display] at shown brackets
    have at_ : (0x40 : CodePoint) ∉ parts.netloc := by
      rw [shown, List.mem_append]
      exact fun either => either.elim anonymous named
    have none : (host ++ portText port).contains 0x5D = false := by
      rw [Bool.eq_false_iff]
      exact fun member => (List.mem_append.mp (List.contains_iff_mem.mp member)).elim close closed
    have open_ : (0x5B : CodePoint) ∉ host ++ portText port := by
      intro member
      rw [checkBrackets, none, List.contains_iff_mem.mpr member] at brackets
      cases brackets
    rw [SplitResult.hostinfo, anonymousInfo at_, shown, partitionFree open_]
    dsimp only
    rw [portBehind host colon]
    rfl

theorem shownPort (info : parts.hostinfo = (host, portDigits port)) (range : ∀ n, port = some n → n ≤ 65535) :
    parts.port = .ok port := by
  unfold SplitResult.port
  rw [info]
  cases port with
  | none => rfl
  | some n =>
    have small := range n rfl
    have some : (decimalText n).isEmpty = false :=
      Bool.eq_false_iff.mpr fun empty => decimalSome n (List.isEmpty_iff.mp empty)
    have short : (decimalText n).length ≤ maxIntDigits :=
      (decimalLength (k := 5) (by omega) (by decide)).trans (by decide)
    dsimp only [portDigits]
    rw [some, decimalDigits, decimalValue, decide_eq_true short, decide_eq_true small]
    rfl

theorem shownName (stable : StableCase python) (some : host ≠ []) (lowered : python.lower host = host)
    (info : parts.hostinfo = (host, portDigits port)) : hostOf python parts = host := by
  have filled : host.isEmpty = false := Bool.eq_false_iff.mpr fun empty => some (List.isEmpty_iff.mp empty)
  have whole := partitionJoins 0x25 host
  have front : python.lower (partition 0x25 host).1 = (partition 0x25 host).1 :=
    stable.part host _ lowered ⟨[], _, whole⟩
  unfold hostOf SplitResult.hostname
  rw [info]
  dsimp only
  rw [filled, if_neg Bool.false_ne_true, front, Option.getD_some, List.append_assoc]
  exact whole

end Shown
section Stored
variable {python : Python} {hostname url : PyStr} {parts : SplitResult} {port : Option Nat} {n : NormalizedTarget}

theorem webScheme (acceptance : Acceptance python hostname url parts port n) : IsWeb (python.lower parts.scheme) := by
  have listed := List.contains_iff_mem.mp acceptance.scheme
  simpa [allowedSchemes, IsWeb] using listed

theorem storedHostSome (acceptance : Acceptance python hostname url parts port n) : n.hostname ≠ [] :=
  validHostSome acceptance.valid

theorem memStoredHost (acceptance : Acceptance python hostname url parts port n) (plain : PlainCase python) {c : CodePoint}
    (is : isPlain c = true) (member : c ∈ n.hostname) : c ∈ parts.hostinfo.1 := by
  rw [validHost acceptance.valid] at member
  exact memHostOf plain is (memStripTrailingDot member)

theorem storedMarks (acceptance : Acceptance python hostname url parts port n) (plain : PlainCase python) :
    0x5D ∉ n.hostname ∧ 0x40 ∉ n.hostname := by
  have pieces := splitPieces acceptance.split
  have anonymous : (0x40 : CodePoint) ∉ parts.netloc := fun member =>
    Bool.false_ne_true (acceptance.anonymous.symm.trans (List.contains_iff_mem.mpr member))
  constructor
  · exact fun member => hostinfoMarks pieces.brackets anonymous (memStoredHost acceptance plain rfl member)
  · exact fun member => anonymous ((hostinfoSublist parts).subset (memStoredHost acceptance plain rfl member))

theorem storedHostChars (acceptance : Acceptance python hostname url parts port n) (plain : PlainCase python) :
    ∀ c ∈ n.hostname, isNetlocEnd c = false ∧ isKept c = true := by
  have pieces := splitPieces acceptance.split
  intro c member
  cases ascii : isPlain c with
  | true => exact pieces.netloc c ((hostinfoSublist parts).subset (memStoredHost acceptance plain ascii member))
  | false =>
    have other : ∀ d : CodePoint, isPlain d = true → c ≠ d := fun d is same => by
      rw [same, is] at ascii
      cases ascii
    constructor
    · simp [isNetlocEnd, other 0x2F rfl, other 0x3F rfl, other 0x23 rfl]
    · simp [isKept, other 0x09 rfl, other 0x0D rfl, other 0x0A rfl]

theorem storedNetloc (acceptance : Acceptance python hostname url parts port n) (plain : PlainCase python) :
    ∀ c ∈ displayNetloc n.hostname port, isNetlocEnd c = false ∧ isKept c = true := by
  intro c member
  have digits : ∀ d < 10, isNetlocEnd (digitCode d) = false ∧ isKept (digitCode d) = true := by decide
  rcases memDisplayNetloc member with inside | rfl | rfl | rfl | ⟨d, small, rfl⟩
  · exact storedHostChars acceptance plain c inside
  · exact ⟨rfl, rfl⟩
  · exact ⟨rfl, rfl⟩
  · exact ⟨rfl, rfl⟩
  · exact digits d small

theorem storedAnonymous (acceptance : Acceptance python hostname url parts port n) (plain : PlainCase python) :
    0x40 ∉ displayNetloc n.hostname port := by
  intro member
  have digits : ∀ d < 10, (0x40 : CodePoint) ≠ digitCode d := by decide
  rcases memDisplayNetloc member with inside | same | same | same | ⟨d, small, same⟩
  · exact (storedMarks acceptance plain).2 inside
  · cases same
  · cases same
  · cases same
  · exact digits d small same

theorem displayQueryIs (parts : SplitResult) : displayQuery parts = queryText parts.query := rfl

theorem netlocSome (acceptance : Acceptance python hostname url parts port n) : parts.netloc ≠ [] := by
  intro none
  have valid := acceptance.valid
  have empty : parts.hostinfo.1 = [] := by
    have part := hostinfoSublist parts
    rw [none] at part
    exact List.sublist_nil.mp part
  rw [hostOf, SplitResult.hostname, empty] at valid
  exact validHostSome valid (validHost valid)

theorem storedTail (acceptance : Acceptance python hostname url parts port n) :
    (displayPath parts).head? = some 0x2F ∧ (∀ c ∈ displayPath parts, c ≠ 0x3F ∧ c ≠ 0x23 ∧ isKept c = true) ∧
      ∀ c ∈ displayPath parts ++ displayQuery parts, c ≠ 0x23 ∧ isKept c = true := by
  have pieces := splitPieces acceptance.split
  have path : ∀ c ∈ displayPath parts, c ≠ 0x3F ∧ c ≠ 0x23 ∧ isKept c = true := by
    intro c member
    unfold displayPath at member
    split at member
    · cases List.mem_singleton.mp member
      exact ⟨by decide, by decide, rfl⟩
    · exact pieces.path c member
  refine ⟨?_, path, ?_⟩
  · unfold displayPath
    rcases splitPath acceptance.split (netlocSome acceptance) with none | rooted
    · rw [none]
      rfl
    · obtain ⟨rest, whole⟩ := List.isPrefixOf_iff_prefix.mp rooted
      rw [← whole]
      rfl
  · intro c member
    rcases List.mem_append.mp member with front | behind
    · exact (path c front).2
    · unfold displayQuery at behind
      split at behind
      · cases behind
      · cases behind with
        | head => exact ⟨by decide, rfl⟩
        | tail _ inside => exact pieces.query c inside

theorem storedText (acceptance : Acceptance python hostname url parts port n) : n.normalizedUrl =
    webUrl (python.lower parts.scheme) (displayNetloc n.hostname port ++ (displayPath parts ++ displayQuery parts)) := by
  have schemed : python.lower parts.scheme ≠ [] := by
    rcases webScheme acceptance with http | https
    · rw [http]
      exact List.cons_ne_nil _ _
    · rw [https]
      exact List.cons_ne_nil _ _
  have rooted : ∀ c ∈ parts.path.head?, c = 0x2F := by
    intro c first
    have head := (storedTail acceptance).1
    unfold displayPath at head
    split at head
    · rename_i none
      rw [List.isEmpty_iff.mp none] at first
      cases first
    · rw [Option.mem_def.mp first] at head
      exact Option.some.inj head
  rw [acceptance.url, normalizedUrlText schemed (storedHostSome acceptance) rooted]

theorem portRange (given : parts.port = .ok port) : ∀ k, port = some k → k ≤ 65535 := by
  intro k some
  unfold SplitResult.port at given
  dsimp only at given
  split at given
  · cases given
    cases some
  · split at given
    · rename_i read
      cases given
      cases Option.some.inj some
      simp only [Bool.and_eq_true, decide_eq_true_eq] at read
      exact read.2
    · cases given

theorem storedRead (acceptance : Acceptance python hostname url parts port n) (plain : PlainCase python)
    (stable : StableCase python) : urlsplit python n.normalizedUrl =
      if checkBrackets (displayNetloc n.hostname port) && checkNetloc python (displayNetloc n.hostname port) then
        .ok ⟨python.lower parts.scheme, displayNetloc n.hostname port, displayPath parts, parts.query, []⟩
      else .error .valueError := by
  obtain ⟨rooted, path, tail⟩ := storedTail acceptance
  have slash : (displayPath parts ++ displayQuery parts).head? = some 0x2F := by
    rw [List.head?_append, rooted]
    rfl
  have parted := @queryParted (displayPath parts) parts.query fun member => (path _ member).1 rfl
  rw [storedText acceptance, webRead (webScheme acceptance) (storedNetloc acceptance plain) slash tail, stable.again,
    displayQueryIs, parted.1, parted.2]

theorem storedLower (acceptance : Acceptance python hostname url parts port n) (stable : StableCase python) :
    python.lower n.hostname = n.hostname := by
  have dots : ∀ s : PyStr, stripTrailingDot s <:+: s := fun s => by
    have suffix := List.reverse_prefix.mpr (List.dropWhile_suffix (l := s.reverse) (· == 0x2E))
    rw [List.reverse_reverse] at suffix
    exact suffix.isInfix
  have inner : ∀ s : PyStr, stripBrackets s <:+: s := fun s => by
    have suffix := List.reverse_prefix.mpr (List.dropWhile_suffix (l := (s.dropWhile stripBrackets.isBracket).reverse)
      stripBrackets.isBracket)
    rw [List.reverse_reverse] at suffix
    exact suffix.isInfix.trans (List.dropWhile_suffix _).isInfix
  rw [acceptance.same]
  exact stable.part _ _ (stable.again _) ((dots _).trans (inner _))

end Stored
end SentinelGpt
