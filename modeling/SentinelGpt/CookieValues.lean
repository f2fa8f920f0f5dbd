import SentinelGpt.FindingIdentity

/-! What a result of the engine tells of the values of cookies. -/
namespace SentinelGpt.HttpAnalysis

/-! The parts of a Set-Cookie header: the first segment, with a name or without one, and
what follows it. -/

def firstSegment (cookie : PyStr) : PyStr := cookie.takeWhile (· != 0x3B)

def fromAttributes (cookie : PyStr) : PyStr := cookie.dropWhile (· != 0x3B)

def hasName (cookie : PyStr) : Bool := (firstSegment cookie).contains 0x3D

/- The name, where there is one, and everything from the first `;` on. -/
def withoutValue (cookie : PyStr) : Option PyStr × PyStr :=
  (if hasName cookie then some ((firstSegment cookie).takeWhile (· != 0x3D)) else none,
   fromAttributes cookie)

def headerWithoutValue (python : Python) (header : PyStr × PyStr) : PyStr × Option PyStr × PyStr :=
  if python.lower header.1 = py "set-cookie" then (header.1, withoutValue header.2)
  else (header.1, none, header.2)

def SameButCookieValues (python : Python) (r r' : HttpResponseData) : Prop :=
  r.headers.map (headerWithoutValue python) = r'.headers.map (headerWithoutValue python) ∧
    r' = { r with headers := r'.headers }

def shownName (cookie : PyStr) : PyStr :=
  let namePart := strip (firstSegment cookie)
  if namePart.contains 0x3D then strip (namePart.takeWhile (· != 0x3D)) else namePart

theorem shownNamed {cookie : PyStr} (name : hasName cookie = true) :
    shownName cookie = strip ((firstSegment cookie).takeWhile (· != 0x3D)) := by
  obtain ⟨v, split⟩ := splitAtFirst (List.contains_iff_mem.mp name)
  have free : (0x3D : CodePoint) ∉ (firstSegment cookie).takeWhile (· != 0x3D) := untilFree
  generalize (firstSegment cookie).takeWhile (· != 0x3D) = n at split free
  have stripped := stripAround (n := n) (v := v) (c := 0x3D) rfl
  have kept : (0x3D : CodePoint) ∉ n.dropWhile isSpace := fun member =>
    free ((List.dropWhile_sublist isSpace).mem member)
  simp only [shownName, split, stripped]
  rw [if_pos (by simp), takeUntil kept, stripDropped]

theorem shownNameless {cookie : PyStr} (none : hasName cookie = false) :
    shownName cookie = strip (firstSegment cookie) := by
  have free : (strip (firstSegment cookie)).contains 0x3D = false := by
    rw [← Bool.not_eq_true, List.contains_iff_mem]
    intro member
    have there := List.contains_iff_mem.mpr (memStrip member)
    rw [hasName] at none
    rw [there] at none
    cases none
  simp only [shownName, free, Bool.false_eq_true, if_false]

def redactedTail (python : Python) (following : PyStr) : PyStr :=
  let lowered := python.lower (following.drop 1)
  let flags := (if Fingerprinting.occurs (py "secure") lowered then [py "Secure"] else []) ++
    (if Fingerprinting.occurs (py "httponly") lowered then [py "HttpOnly"] else []) ++
    [py "SameSite=" ++ redactedSamesite lowered]
  py " [<value-redacted>] (" ++ join (py ", ") flags ++ py ")"

theorem redactedAs (python : Python) (cookie : PyStr) :
    redactCookieValue python cookie =
      shownName cookie ++ redactedTail python (fromAttributes cookie) := by
  simp only [redactCookieValue, partition, shownName, redactedTail, firstSegment, fromAttributes,
    List.append_assoc]
  rfl

theorem nameAs (python : Python) (cookie : PyStr) :
    cookieName python cookie = (shownName cookie).takeWhile (· != 0x20) := by
  rw [cookieName, splitHead, redactedAs]
  have blank : redactedTail python (fromAttributes cookie) =
      0x20 :: (redactedTail python (fromAttributes cookie)).drop 1 := rfl
  rw [blank]
  by_cases space : (0x20 : CodePoint) ∈ shownName cookie
  · obtain ⟨rest, split⟩ := splitAtFirst space
    have free : (0x20 : CodePoint) ∉ (shownName cookie).takeWhile (· != 0x20) := untilFree
    generalize (shownName cookie).takeWhile (· != 0x20) = n at split free ⊢
    rw [split, List.append_assoc, List.cons_append, takeUntil free]
  · rw [takeUntil space, List.takeWhile_eq_self_iff.mpr]
    exact fun a member => bne_iff_ne.mpr fun same => space (same ▸ member)

/-! The lists of cookies in the evidence: of all of them, and of those that lack something.
Which cookies are listed is read off their attributes. -/

def flagsOf (python : Python) (following : PyStr) : List PyStr :=
  ((splitOn 0x3B (following.drop 1)).filter fun token => !(strip token).isEmpty).map
    fun token => python.lower (strip token)

theorem flagsAs (python : Python) (cookie : PyStr) :
    cookieFlags python cookie = flagsOf python (fromAttributes cookie) := rfl

def wide (text : PyStr) : Prop := text = [] ∨ 2 ≤ text.length

structure Listing where
  lists : PyStr → Bool
  word : PyStr → PyStr
  whole : ∀ {name}, (0x20 : CodePoint) ∉ name → word name = name
  tail : PyStr → PyStr
  sep : PyStr
  suffix : Nat → PyStr
  broad : (∀ following, 2 ≤ (tail following).length) ∨
    ((∀ following, tail following = []) ∧ sep = py ", " ∧ ∀ n, wide (suffix n))

def redactedListing (python : Python) : Listing where
  lists _ := true
  word name := name
  whole _ := rfl
  tail := redactedTail python
  sep := [0x0A]
  suffix _ := []
  broad := .inl fun _ => by
    have opening : 2 ≤ (py " [<value-redacted>] (").length := by decide
    simp only [redactedTail, List.length_append]
    omega

def firstWord (name : PyStr) : PyStr := name.takeWhile (· != 0x20)

theorem firstWordWhole {name : PyStr} (free : (0x20 : CodePoint) ∉ name) : firstWord name = name :=
  List.takeWhile_eq_self_iff.mpr fun _ member => bne_iff_ne.mpr fun same => free (same ▸ member)

def missingListing (python : Python) (flag : PyStr) : Listing where
  lists following := !(flagsOf python following).contains flag
  word := firstWord
  whole := firstWordWhole
  tail _ := []
  sep := py ", "
  suffix n := if n ≤ maxCookieNamesInEvidence then [] else [0x20, 0x2026]
  broad := .inr ⟨fun _ => rfl, rfl, fun n => by
    split
    · exact .inl rfl
    · exact .inr (Nat.le_refl 2)⟩

def samesiteSaid (python : Python) (following : PyStr) : Option PyStr :=
  match ((flagsOf python following).filter (py "samesite=").isPrefixOf).map afterEquals with
  | [] => some (py ": unspecified")
  | value :: _ =>
    if samesiteValues.contains value then none else some (py ": invalid '" ++ value ++ py "'")

theorem samesiteAs (python : Python) (cookie : PyStr) :
    samesiteIssue python cookie = (samesiteSaid python (fromAttributes cookie)).map
      (firstWord (shownName cookie) ++ ·) := by
  rw [samesiteIssue, samesiteSaid, flagsAs, nameAs]
  cases ((flagsOf python (fromAttributes cookie)).filter (py "samesite=").isPrefixOf).map afterEquals with
  | nil => rfl
  | cons value values =>
    dsimp only
    by_cases valid : samesiteValues.contains value = true
    · rw [if_pos valid, if_pos valid]
      rfl
    · rw [if_neg valid, if_neg valid, Option.map_some, List.append_assoc, List.append_assoc,
        List.append_assoc]
      rfl

def samesiteListing (python : Python) : Listing where
  lists following := (samesiteSaid python following).isSome
  word := firstWord
  whole := firstWordWhole
  tail following := (samesiteSaid python following).getD (py ": unspecified")
  sep := py "; "
  suffix _ := []
  broad := .inl fun following => by
    unfold samesiteSaid
    split
    · decide
    · split
      · decide
      · have opening : 2 ≤ (py ": invalid '").length := by decide
        simp only [Option.getD_some, List.length_append]
        omega

def listings (python : Python) : List Listing :=
  [redactedListing python, missingListing python (py "secure"),
   missingListing python (py "httponly"), samesiteListing python]

namespace Listing
variable (l : Listing)

def listed (cookies : List PyStr) : List PyStr := cookies.filter fun c => l.lists (fromAttributes c)

def shown (cookies : List PyStr) : List PyStr := (l.listed cookies).take maxCookieNamesInEvidence

def entry (cookie : PyStr) : PyStr := l.word (shownName cookie) ++ l.tail (fromAttributes cookie)

def text (cookies : List PyStr) : PyStr :=
  join l.sep ((l.shown cookies).map l.entry) ++ l.suffix (l.listed cookies).length

def preceding (before : List PyStr) : PyStr := before.flatMap fun c => l.entry c ++ l.sep

def following (n : Nat) (cookie : PyStr) (after : List PyStr) : PyStr :=
  l.tail (fromAttributes cookie) ++ after.flatMap (fun c => l.sep ++ l.entry c) ++ l.suffix n

/- The first cookie without a name is shown, if at all, where the evidence is cut off. -/
def hides (cookies : List PyStr) : Prop :=
  match (l.shown cookies).dropWhile hasName with
  | [] => True
  | cookie :: after =>
    let before := l.preceding ((l.shown cookies).takeWhile hasName)
    maxEvidenceChars ≤ before.length + 1 ∧
      (l.following (l.listed cookies).length cookie after = [] → maxEvidenceChars < before.length)

instance (cookies : List PyStr) : Decidable (l.hides cookies) := by
  unfold hides
  split <;> infer_instance

end Listing

section Bounds
variable {python : Python} {limit : Nat} {p rest : PyStr}

def cleaned (python : Python) (c : CodePoint) : CodePoint :=
  if python.isPrintable c || c == 0x09 then c else 0x20

def Prints (python : Python) : Prop :=
  python.isPrintable 0x41 = true ∧ python.isPrintable 0x42 = true ∧ python.isPrintable 0x2026 = true

theorem boundFits (fits : p.length ≤ limit) : boundEvidence python p limit = p.map (cleaned python) := by
  have same : (p.map (cleaned python)).length ≤ limit := by rwa [List.length_map]
  exact if_pos same

theorem boundCut (long : limit < p.length) :
    boundEvidence python p limit = (p.map (cleaned python)).take (limit - 1) ++ [0x2026] := by
  have longer : ¬ (p.map (cleaned python)).length ≤ limit := by rwa [List.length_map, Nat.not_le]
  exact if_neg longer

theorem cleanedTwice (c : CodePoint) : cleaned python (cleaned python c) = cleaned python c := by
  cases printable : python.isPrintable c || c == 0x09 with
  | true => simp [cleaned, printable]
  | false => simp [cleaned, printable]

theorem boundTwice (prints : Prints python) (positive : 0 < limit) (text : PyStr) :
    boundEvidence python (boundEvidence python text limit) limit = boundEvidence python text limit := by
  have twice : (fun c => cleaned python (cleaned python c)) = cleaned python := funext cleanedTwice
  have ellipsis : cleaned python 0x2026 = 0x2026 := by simp [cleaned, prints.2.2]
  by_cases fits : text.length ≤ limit
  · rw [boundFits fits, boundFits (by rwa [List.length_map]), List.map_map]
    exact congrArg (text.map ·) twice
  · have long : limit < text.length := Nat.lt_of_not_le fits
    rw [boundCut long, boundFits (by simp; omega), List.map_append, List.map_take, List.map_map,
      List.map_singleton, ellipsis]
    exact congrArg (fun f => (text.map f).take (limit - 1) ++ [0x2026]) twice

theorem boundHides {text text' : PyStr} (cut : limit ≤ p.length + 1)
    (long : limit < (p ++ text).length) (long' : limit < (p ++ text').length) :
    boundEvidence python (p ++ text) limit = boundEvidence python (p ++ text') limit := by
  have within : limit - 1 ≤ (p.map (cleaned python)).length := by
    rw [List.length_map]
    omega
  rw [boundCut long, boundCut long', List.map_append, List.map_append,
    List.take_append_of_le_length within, List.take_append_of_le_length within]

theorem boundAt {i : Nat} {text : PyStr} (seen : i + 1 < limit) :
    (boundEvidence python text limit)[i]? = text[i]?.map (cleaned python) := by
  by_cases fits : text.length ≤ limit
  · rw [boundFits fits, List.getElem?_map]
  · have long : limit < text.length := Nat.lt_of_not_le fits
    have early : i < ((text.map (cleaned python)).take (limit - 1)).length := by
      simp only [List.length_take, List.length_map]
      omega
    rw [boundCut long, List.getElem?_append_left early, List.getElem?_take_of_lt (by omega),
      List.getElem?_map]

theorem boundShows (prints : Prints python) (seen : p.length + 1 < limit) {rest' : PyStr} :
    boundEvidence python (p ++ 0x41 :: rest) limit ≠ boundEvidence python (p ++ 0x42 :: rest') limit := by
  intro same
  have at_ := congrArg (·[p.length]?) same
  simp only [boundAt seen, List.getElem?_append_right (Nat.le_refl _), Nat.sub_self,
    List.getElem?_cons_zero, Option.map_some, cleaned, prints.1, prints.2.1, Bool.true_or,
    if_true] at at_
  cases at_

theorem boundEnds (near : limit ≤ p.length + 1)
    (fits : p.length ≤ limit) (blank : p = [] ∨ ∃ q, p = q ++ [0x20]) :
    boundEvidence python p limit ≠ boundEvidence python (p ++ [0x41, 0x41]) limit := by
  have long : limit < (p ++ [0x41, 0x41]).length := by
    simp only [List.length_append, List.length_cons, List.length_nil]
    omega
  rw [boundFits fits, boundCut long]
  intro same
  have lengths := congrArg List.length same
  simp only [List.length_map, List.length_append, List.length_take,
    List.length_cons, List.length_nil] at lengths
  rcases blank with rfl | ⟨q, rfl⟩
  · simp only [List.length_nil] at near lengths
    omega
  · rw [List.map_append, List.map_singleton] at same
    have last := (List.append_inj' same rfl).2
    have space : cleaned python 0x20 = 0x20 := by
      unfold cleaned
      split <;> rfl
    rw [space] at last
    cases last

end Bounds

namespace Listing
variable {l : Listing} {cookies cookies' before after : List PyStr} {cookie cookie' : PyStr} {n : Nat}

theorem joinSplit (sep : PyStr) (entries later : List PyStr) (e : PyStr) :
    join sep (entries ++ e :: later) =
      entries.flatMap (· ++ sep) ++ (e ++ later.flatMap (sep ++ ·)) := by
  have tail : ∀ (first : PyStr) (rest : List PyStr),
      join sep (first :: rest) = first ++ rest.flatMap (sep ++ ·) := by
    intro first rest
    induction rest generalizing first with
    | nil => simp [join]
    | cons next rest ih =>
      have step : join sep (first :: next :: rest) = first ++ (sep ++ join sep (next :: rest)) := by
        simp [join, List.intercalate, List.intersperse]
      rw [step, ih, List.flatMap_cons, List.append_assoc]
  induction entries with
  | nil => exact tail e later
  | cons first entries ih =>
    cases entries with
    | nil =>
      have step : join sep (first :: e :: later) = first ++ (sep ++ join sep (e :: later)) := by
        simp [join, List.intercalate, List.intersperse]
      simp only [List.singleton_append, step, tail, List.flatMap_cons, List.flatMap_nil,
        List.append_nil, List.append_assoc]
    | cons second entries =>
      have step : join sep (first :: second :: entries ++ e :: later) =
          first ++ (sep ++ join sep (second :: entries ++ e :: later)) := by
        simp [join, List.intercalate, List.intersperse]
      rw [step, ih]
      simp only [List.flatMap_cons, List.append_assoc]

theorem textSplit (split : l.shown cookies = before ++ cookie :: after) :
    l.text cookies = l.preceding before ++
      (l.word (shownName cookie) ++ l.following (l.listed cookies).length cookie after) := by
  rw [text, split, List.map_append, List.map_cons, joinSplit, preceding, following, entry,
    List.flatMap_map, List.flatMap_map]
  simp only [List.append_assoc]

theorem followingWide (l : Listing) (n : Nat) (cookie : PyStr) (after : List PyStr) :
    wide (l.following n cookie after) := by
  rcases l.broad with tails | ⟨none, comma, suffix⟩
  · refine .inr ?_
    have two := tails (fromAttributes cookie)
    rw [following, List.length_append, List.length_append]
    omega
  · rw [following, none, List.nil_append]
    cases after with
    | nil => exact suffix n
    | cons next after =>
      refine .inr ?_
      have two : l.sep.length = 2 := by rw [comma]; rfl
      simp only [List.flatMap_cons, List.length_append]
      omega

theorem listedAlike (alike : cookies.map withoutValue = cookies'.map withoutValue) :
    (l.listed cookies).map withoutValue = (l.listed cookies').map withoutValue := by
  have through : ∀ xs : List PyStr, (l.listed xs).map withoutValue =
      (xs.map withoutValue).filter fun w => l.lists w.2 := fun xs => by
    rw [List.filter_map]
    rfl
  rw [through, through, alike]

theorem shownAlike (alike : cookies.map withoutValue = cookies'.map withoutValue) :
    (l.shown cookies).map withoutValue = (l.shown cookies').map withoutValue := by
  rw [shown, shown, List.map_take, List.map_take, listedAlike alike]

theorem countAlike (alike : cookies.map withoutValue = cookies'.map withoutValue) :
    (l.listed cookies).length = (l.listed cookies').length := by
  have lengths := congrArg List.length (listedAlike (l := l) alike)
  rwa [List.length_map, List.length_map] at lengths

theorem nameAlike (same : withoutValue cookie = withoutValue cookie') :
    hasName cookie = hasName cookie' := by
  have names := congrArg (fun w => w.1.isSome) same
  unfold withoutValue at names
  cases one : hasName cookie <;> cases other : hasName cookie' <;> simp_all

theorem entryAlike (named : hasName cookie = true) (same : withoutValue cookie = withoutValue cookie') :
    l.entry cookie = l.entry cookie' := by
  have named' := (nameAlike same).symm.trans named
  have attributes : fromAttributes cookie = fromAttributes cookie' := congrArg Prod.snd same
  have names := congrArg Prod.fst same
  simp only [withoutValue, named, named', if_true, Option.some.injEq] at names
  rw [entry, entry, shownNamed named, shownNamed named', names, attributes]

theorem entriesAlike (named : ∀ c ∈ before, hasName c = true) {before' : List PyStr}
    (same : before.map withoutValue = before'.map withoutValue) :
    before.map l.entry = before'.map l.entry := by
  induction before generalizing before' with
  | nil => cases before' with
    | nil => rfl
    | cons _ _ => cases same
  | cons c before ih => cases before' with
    | nil => cases same
    | cons c' before' =>
      obtain ⟨head, tail⟩ := List.cons.inj same
      rw [List.map_cons, List.map_cons, entryAlike (named c List.mem_cons_self) head,
        ih (fun c member => named c (List.mem_cons_of_mem _ member)) tail]

theorem precedingEntries : l.preceding before = (before.map l.entry).flatMap (· ++ l.sep) := by
  rw [preceding, List.flatMap_map]

theorem followingNil {after' : List PyStr} (same : after.length = after'.length)
    (none : l.following n cookie after = []) : l.following n cookie' after' = [] := by
  rcases l.broad with tails | ⟨tail, comma, -⟩
  · have two := tails (fromAttributes cookie)
    have lengths := congrArg List.length none
    rw [following, List.length_append, List.length_append, List.length_nil] at lengths
    omega
  · rw [following, tail, List.nil_append] at none ⊢
    obtain ⟨noneAfter, noSuffix⟩ := List.append_eq_nil_iff.mp none
    cases after with
    | nil =>
      rw [List.eq_nil_of_length_eq_zero same.symm]
      exact none
    | cons next after =>
      have lengths := congrArg List.length noneAfter
      rw [List.flatMap_cons, List.length_append, List.length_append, comma, List.length_nil] at lengths
      have two : (py ", ").length = 2 := rfl
      omega

theorem hidesSame {python : Python} (hides : l.hides cookies)
    (alike : cookies.map withoutValue = cookies'.map withoutValue) :
    boundEvidence python (l.text cookies) maxEvidenceChars =
      boundEvidence python (l.text cookies') maxEvidenceChars := by
  have shown := shownAlike (l := l) alike
  have split := List.takeWhile_append_dropWhile (p := hasName) (l := l.shown cookies)
  have named : ∀ c ∈ (l.shown cookies).takeWhile hasName, hasName c = true :=
    fun c member => List.mem_takeWhile_imp member
  unfold Listing.hides at hides
  generalize (l.shown cookies).takeWhile hasName = before at split named hides
  cases rest : (l.shown cookies).dropWhile hasName with
  | nil =>
    rw [rest, List.append_nil] at split
    have entries := entriesAlike (l := l) (split ▸ named) shown
    rw [text, text, entries, countAlike alike]
  | cons cookie after =>
    rw [rest] at split
    simp only [rest] at hides
    obtain ⟨cut, longer⟩ := hides
    rw [← split, List.map_append, List.map_cons] at shown
    obtain ⟨before', rest', split', sameBefore, sameRest⟩ := List.append_eq_map_iff.mp shown
    obtain ⟨cookie', after', rfl, -, sameAfter⟩ := List.map_eq_cons_iff.mp sameRest
    have lengths := congrArg List.length sameAfter
    rw [List.length_map, List.length_map] at lengths
    have same : l.preceding before = l.preceding before' := by
      rw [precedingEntries, precedingEntries, entriesAlike named sameBefore.symm]
    rw [textSplit split.symm, textSplit split', ← same, ← countAlike alike]
    have long : ∀ {word after}, (l.following (l.listed cookies).length word after = [] →
        maxEvidenceChars < (l.preceding before).length) → ∀ name : PyStr, maxEvidenceChars <
          (l.preceding before ++ (name ++ l.following (l.listed cookies).length word after)).length := by
      intro word after ends name
      rw [List.length_append, List.length_append]
      rcases l.followingWide (l.listed cookies).length word after with none | two
      · have past := ends none
        omega
      · omega
    exact boundHides cut (long longer _)
      (long (fun none => longer (followingNil lengths none)) _)

def setNameless (word cookie : PyStr) : PyStr :=
  if hasName cookie then cookie else word ++ fromAttributes cookie

def simpleWord (word : PyStr) : Prop := ∀ c ∈ word, c = 0x41 ∨ c = 0x42

theorem wordFree {word : PyStr} (simple : simpleWord word) {c : CodePoint} (letterA : c ≠ 0x41)
    (letterB : c ≠ 0x42) : c ∉ word := by
  intro member
  rcases simple c member with same | same
  · exact letterA same
  · exact letterB same

theorem attributesEdge (cookie : PyStr) : (fromAttributes cookie).takeWhile (· != 0x3B) = [] ∧
    (fromAttributes cookie).dropWhile (· != 0x3B) = fromAttributes cookie := by
  refine ⟨?_, List.dropWhile_idempotent _ _⟩
  unfold fromAttributes
  induction cookie with
  | nil => rfl
  | cons c cookie ih =>
    by_cases semicolon : c = 0x3B
    · simp [semicolon]
    · simpa [List.dropWhile_cons, semicolon] using ih

theorem setParts {word : PyStr} (simple : simpleWord word) (none : hasName cookie = false) :
    firstSegment (setNameless word cookie) = word ∧
      fromAttributes (setNameless word cookie) = fromAttributes cookie := by
  have others : ∀ c ∈ word, (c != 0x3B) = true := fun c member =>
    bne_iff_ne.mpr fun same => wordFree simple (by decide) (by decide) (same ▸ member)
  unfold setNameless
  rw [none, if_neg Bool.false_ne_true, firstSegment, List.takeWhile_append_of_pos others,
    (attributesEdge cookie).1, List.append_nil, fromAttributes, List.dropWhile_append_of_pos others,
    (attributesEdge cookie).2]
  exact ⟨rfl, rfl⟩

theorem setAlike {word : PyStr} (simple : simpleWord word) (cookie : PyStr) :
    withoutValue (setNameless word cookie) = withoutValue cookie := by
  cases none : hasName cookie with
  | true => rw [setNameless, none, if_pos rfl]
  | false =>
    obtain ⟨first, attributes⟩ := setParts simple none
    have still : hasName (setNameless word cookie) = false := by
      rw [hasName, first, ← Bool.not_eq_true, List.contains_iff_mem]
      exact wordFree simple (by decide) (by decide)
    rw [withoutValue, withoutValue, still, none, attributes]
    rfl

theorem setAll {word : PyStr} (simple : simpleWord word) (cookies : List PyStr) :
    (cookies.map (setNameless word)).map withoutValue = cookies.map withoutValue := by
  rw [List.map_map]
  exact List.map_congr_left fun c _ => setAlike simple c

theorem setShown {word : PyStr} (simple : simpleWord word) (none : hasName cookie = false) :
    shownName (setNameless word cookie) = word := by
  obtain ⟨first, -⟩ := setParts simple none
  have still : hasName (setNameless word cookie) = false :=
    (nameAlike (setAlike simple cookie)).trans none
  rw [shownNameless still, first]
  refine stripWord fun c member => ?_
  rcases simple c member with rfl | rfl <;> rfl

theorem shownSet {word : PyStr} (simple : simpleWord word) :
    l.shown (cookies.map (setNameless word)) = (l.shown cookies).map (setNameless word) := by
  have judged : (fun c => l.lists (fromAttributes c)) ∘ setNameless word =
      fun c => l.lists (fromAttributes c) := funext fun c =>
    congrArg l.lists (congrArg Prod.snd (setAlike simple c))
  rw [shown, shown, listed, listed, List.filter_map, judged, List.map_take]

theorem textSet {word : PyStr} (simple : simpleWord word)
    (split : l.shown cookies = before ++ cookie :: after) (named : ∀ c ∈ before, hasName c = true)
    (none : hasName cookie = false) :
    l.text (cookies.map (setNameless word)) = l.preceding before ++ (word ++
      l.following (l.listed cookies).length (setNameless word cookie) (after.map (setNameless word))) := by
  have kept : before.map (setNameless word) = before :=
    (List.map_congr_left fun c member => if_pos (named c member)).trans (List.map_id before)
  have shown : l.shown (cookies.map (setNameless word)) = (l.shown cookies).map (setNameless word) :=
    shownSet simple
  rw [split, List.map_append, List.map_cons, kept] at shown
  rw [textSplit shown, setShown simple none, l.whole (wordFree simple (by decide) (by decide)),
    countAlike (setAll simple cookies)]

theorem showsOther {python : Python} (prints : Prints python) (shows : ¬ l.hides cookies) :
    ∃ word word', simpleWord word ∧ simpleWord word' ∧
      boundEvidence python (l.text (cookies.map (setNameless word))) maxEvidenceChars ≠
        boundEvidence python (l.text (cookies.map (setNameless word'))) maxEvidenceChars := by
  have split := List.takeWhile_append_dropWhile (p := hasName) (l := l.shown cookies)
  have named : ∀ c ∈ (l.shown cookies).takeWhile hasName, hasName c = true :=
    fun c member => List.mem_takeWhile_imp member
  have stops := List.head?_dropWhile_not hasName (l.shown cookies)
  unfold Listing.hides at shows
  generalize (l.shown cookies).takeWhile hasName = before at split named shows
  cases rest : (l.shown cookies).dropWhile hasName with
  | nil => exact absurd trivial (by simpa only [rest] using shows)
  | cons cookie after =>
    rw [rest] at split
    simp only [rest, List.head?_cons] at shows stops
    have read := fun {word} (simple : simpleWord word) => textSet simple split.symm named stops
    by_cases seen : (l.preceding before).length + 1 < maxEvidenceChars
    · have simpleA : simpleWord [0x41] := fun c member => .inl (List.mem_singleton.mp member)
      have simpleB : simpleWord [0x42] := fun c member => .inr (List.mem_singleton.mp member)
      refine ⟨[0x41], [0x42], simpleA, simpleB, ?_⟩
      rw [read simpleA, read simpleB]
      exact boundShows prints seen
    · have simple : simpleWord [0x41, 0x41] := fun c member => .inl (by simpa using member)
      have empty : simpleWord [] := fun c member => absurd member List.not_mem_nil
      have near : maxEvidenceChars ≤ (l.preceding before).length + 1 := Nat.le_of_not_lt seen
      obtain ⟨none, fits⟩ := Classical.not_imp.mp (not_and.mp shows near)
      have ends : ∀ word, l.following (l.listed cookies).length (setNameless word cookie)
          (after.map (setNameless word)) = [] := fun word => followingNil (List.length_map _).symm none
      refine ⟨[], [0x41, 0x41], empty, simple, ?_⟩
      rw [read empty, read simple, ends, ends, List.append_nil, List.append_nil, List.append_nil]
      refine boundEnds near (Nat.le_of_not_lt fits) ?_
      rcases List.eq_nil_or_concat before with rfl | ⟨front, last, rfl⟩
      · exact .inl rfl
      · have comma : l.sep = [0x2C] ++ [0x20] := by
          rcases l.broad with tails | ⟨-, comma, -⟩
          · have two := tails (fromAttributes cookie)
            have lengths := congrArg List.length none
            rw [following, List.length_append, List.length_append, List.length_nil] at lengths
            omega
          · exact comma
        refine .inr ⟨l.preceding front ++ (l.entry last ++ [0x2C]), ?_⟩
        rw [List.concat_eq_append, preceding, preceding, List.flatMap_append, List.flatMap_singleton, comma]
        simp only [List.append_assoc]

end Listing

section Evidence
variable {python : Python} {cookies cookies' : List PyStr} {location : PyStr} {r r' : HttpResponseData}

theorem redactedText : join [0x0A] ((cookies.map (redactCookieValue python)).take maxCookieNamesInEvidence) =
    (redactedListing python).text cookies := by
  have each : redactCookieValue python = (redactedListing python).entry := funext (redactedAs python)
  have all : (redactedListing python).listed cookies = cookies := List.filter_eq_self.mpr fun _ _ => rfl
  rw [Listing.text, Listing.shown, all, ← List.map_take, each]
  exact (List.append_nil _).symm

theorem missingText (flag : PyStr) : HttpAnalysis.listed
    ((cookies.filter (lacks python flag)).map (cookieName python)) =
      (missingListing python flag).text cookies := by
  have each : cookieName python = (missingListing python flag).entry := funext fun c =>
    (nameAs python c).trans (List.append_nil _).symm
  rw [HttpAnalysis.listed, Listing.text, Listing.shown, ← List.map_take, List.length_map, each]
  rfl

theorem samesiteEach : cookies.filterMap (samesiteIssue python) =
    ((samesiteListing python).listed cookies).map (samesiteListing python).entry := by
  induction cookies with
  | nil => rfl
  | cons c cookies ih =>
    rw [List.filterMap_cons, samesiteAs, Listing.listed, List.filter_cons]
    cases said : samesiteSaid python (fromAttributes c) with
    | none =>
      have unlisted : (samesiteListing python).lists (fromAttributes c) = false := by
        simp only [samesiteListing, said, Option.isSome_none]
      rw [unlisted]
      exact ih
    | some text =>
      have lists : (samesiteListing python).lists (fromAttributes c) = true := by
        simp only [samesiteListing, said, Option.isSome_some]
      have entry : (samesiteListing python).entry c = firstWord (shownName c) ++ text := by
        simp only [Listing.entry, samesiteListing, said, Option.getD_some]
      rw [lists, if_pos rfl, List.map_cons, entry]
      exact congrArg _ ih

theorem samesiteText : join (py "; ") ((cookies.filterMap (samesiteIssue python)).take
    maxCookieNamesInEvidence) = (samesiteListing python).text cookies := by
  rw [samesiteEach, Listing.text, Listing.shown, ← List.map_take]
  exact (List.append_nil _).symm

def Listing.evidence (python : Python) (cookies : List PyStr) (l : Listing) : Option PyStr :=
  if (l.listed cookies).isEmpty then none
  else some (boundEvidence python (l.text cookies) maxEvidenceChars)

theorem createdEvidence {category title detail evidence : PyStr} {o : Observation}
    (ok : Observation.create python category title detail evidence location = .ok o) :
    o.evidence = boundEvidence python evidence maxEvidenceChars := by
  obtain ⟨id, -, ok⟩ := bindOk ok
  cases ok
  rfl

theorem missingEvidence (prints : Prints python) {flag said title description recommendation : PyStr}
    {a : Assessed} (ok : missingAttribute python said title description recommendation
      ((cookies.filter (lacks python flag)).map (cookieName python)) location = .ok a) :
    a.observations.map Observation.evidence =
      ((missingListing python flag).evidence python cookies).toList := by
  have listed : (missingListing python flag).listed cookies = cookies.filter (lacks python flag) := rfl
  have bounded : 0 < maxEvidenceChars := by decide
  unfold missingAttribute at ok
  rw [Listing.evidence, listed]
  cases names : cookies.filter (lacks python flag) with
  | nil =>
    rw [names] at ok
    cases ok
    rfl
  | cons c rest =>
    rw [missingText, names] at ok
    obtain ⟨observation, created, ok⟩ := bindOk ok
    obtain ⟨finding, -, ok⟩ := bindOk ok
    cases ok
    rw [List.map_singleton, createdEvidence created, boundTwice prints bounded]
    rfl

theorem samesiteEvidence {a : Assessed} (ok : samesiteIssues python cookies location = .ok a) :
    a.observations.map Observation.evidence =
      ((samesiteListing python).evidence python cookies).toList := by
  unfold samesiteIssues at ok
  dsimp only at ok
  rw [samesiteText, samesiteEach] at ok
  rw [Listing.evidence]
  cases issues : (samesiteListing python).listed cookies with
  | nil =>
    rw [issues] at ok
    cases ok
    rfl
  | cons c rest =>
    rw [issues] at ok
    obtain ⟨observation, created, ok⟩ := bindOk ok
    obtain ⟨finding, -, ok⟩ := bindOk ok
    cases ok
    rw [List.map_singleton, createdEvidence created]
    rfl

theorem cookiesEvidence (prints : Prints python) {a : Assessed}
    (ok : assessCookies python r location = .ok a) :
    a.observations.map Observation.evidence =
      (listings python).filterMap (Listing.evidence python (cookiesOf python r)) := by
  unfold assessCookies at ok
  rw [List.filterMap_eq_flatMap_toList]
  generalize cookiesOf python r = cookies at ok ⊢
  cases cookies with
  | nil =>
    cases ok
    rfl
  | cons c cookies =>
    obtain ⟨observed, noted, ok⟩ := bindOk ok
    obtain ⟨secure, inSecure, ok⟩ := bindOk ok
    obtain ⟨httponly, inHttponly, ok⟩ := bindOk ok
    obtain ⟨samesite, inSamesite, ok⟩ := bindOk ok
    cases ok
    unfold cookiesObserved at noted
    rw [redactedText] at noted
    obtain ⟨observation, created, noted⟩ := bindOk noted
    cases noted
    have first : [observation.evidence] =
        ((redactedListing python).evidence python (c :: cookies)).toList := by
      rw [createdEvidence created]
      rfl
    simp only [listings, Assessed.joined, List.flatMap_cons, List.flatMap_nil, List.append_nil,
      List.map_append, missingEvidence prints inSecure, missingEvidence prints inHttponly,
      samesiteEvidence inSamesite, ← first]
    rfl

theorem createAlike {category title detail evidence evidence' : PyStr}
    (same : boundEvidence python evidence maxEvidenceChars =
      boundEvidence python evidence' maxEvidenceChars) :
    Observation.create python category title detail evidence location =
      Observation.create python category title detail evidence' location := by
  rw [Observation.create, Observation.create, same]

theorem findingAlike {category title description evidence evidence' recommendation : PyStr}
    {severity : Severity} {confidence : Confidence} {observationIds : List PyStr}
    (same : boundEvidence python evidence maxEvidenceChars =
      boundEvidence python evidence' maxEvidenceChars) :
    Finding.create python category title description severity confidence evidence location
        recommendation observationIds =
      Finding.create python category title description severity confidence evidence' location
        recommendation observationIds := by
  rw [Finding.create, Finding.create, same]

theorem emptyAlike {xs ys : List PyStr} (lengths : xs.length = ys.length) : xs.isEmpty = ys.isEmpty := by
  cases xs with
  | nil => rw [List.eq_nil_of_length_eq_zero lengths.symm]
  | cons x xs => cases ys with
    | nil => cases lengths
    | cons y ys => rfl

theorem missingAlike {flag said title description recommendation : PyStr}
    (count : ((missingListing python flag).listed cookies).length =
      ((missingListing python flag).listed cookies').length)
    (same : boundEvidence python ((missingListing python flag).text cookies) maxEvidenceChars =
      boundEvidence python ((missingListing python flag).text cookies') maxEvidenceChars) :
    missingAttribute python said title description recommendation
        ((cookies.filter (lacks python flag)).map (cookieName python)) location =
      missingAttribute python said title description recommendation
        ((cookies'.filter (lacks python flag)).map (cookieName python)) location := by
  have names : ((cookies.filter (lacks python flag)).map (cookieName python)).length =
      ((cookies'.filter (lacks python flag)).map (cookieName python)).length := by
    rw [List.length_map, List.length_map]
    exact count
  unfold missingAttribute
  rw [missingText, missingText, same, names, emptyAlike names]

theorem samesiteAlike
    (count : ((samesiteListing python).listed cookies).length =
      ((samesiteListing python).listed cookies').length)
    (same : boundEvidence python ((samesiteListing python).text cookies) maxEvidenceChars =
      boundEvidence python ((samesiteListing python).text cookies') maxEvidenceChars) :
    samesiteIssues python cookies location = samesiteIssues python cookies' location := by
  have issues : (((samesiteListing python).listed cookies).map (samesiteListing python).entry).length =
      (((samesiteListing python).listed cookies').map (samesiteListing python).entry).length := by
    rwa [List.length_map, List.length_map]
  unfold samesiteIssues
  dsimp only
  rw [samesiteText, samesiteText, samesiteEach, samesiteEach, emptyAlike issues, createAlike same]
  simp only [findingAlike same]

theorem assessAlike (alike : (cookiesOf python r).map withoutValue = (cookiesOf python r').map withoutValue)
    (same : ∀ l ∈ listings python, boundEvidence python (l.text (cookiesOf python r)) maxEvidenceChars =
      boundEvidence python (l.text (cookiesOf python r')) maxEvidenceChars) :
    assessCookies python r location = assessCookies python r' location := by
  have count : (cookiesOf python r).length = (cookiesOf python r').length := by
    have lengths := congrArg List.length alike
    rwa [List.length_map, List.length_map] at lengths
  simp only [listings, List.forall_mem_cons] at same
  obtain ⟨all, secure, httponly, samesite, -⟩ := same
  have observed : cookiesObserved python (cookiesOf python r) location =
      cookiesObserved python (cookiesOf python r') location := by
    unfold cookiesObserved
    rw [redactedText, redactedText, count, createAlike all]
  unfold assessCookies missingSecure missingHttponly
  dsimp only
  rw [emptyAlike count, observed, missingAlike (Listing.countAlike alike) secure,
    missingAlike (Listing.countAlike alike) httponly, samesiteAlike (Listing.countAlike alike) samesite]

end Evidence

section Responses
variable {python : Python} {r r' : HttpResponseData} {headers headers' : Headers} {location : PyStr}

theorem findAlike {name : PyStr} (other : name ≠ py "set-cookie")
    (same : headers.map (headerWithoutValue python) = headers'.map (headerWithoutValue python)) :
    headers.find? (fun h => python.lower h.1 == name) =
      headers'.find? (fun h => python.lower h.1 == name) := by
  induction headers generalizing headers' with
  | nil =>
    rw [List.map_eq_nil_iff.mp same.symm]
  | cons h headers ih =>
    cases headers' with
    | nil => cases same
    | cons h' headers' =>
      obtain ⟨head, tail⟩ := List.cons.inj same
      have keys : h.1 = h'.1 := by
        have first := congrArg Prod.fst head
        unfold headerWithoutValue at first
        split at first <;> split at first <;> exact first
      rw [List.find?_cons, List.find?_cons, ← keys, ih tail]
      cases found : python.lower h.1 == name with
      | false => rfl
      | true =>
        have lowered : python.lower h.1 ≠ py "set-cookie" := by
          rw [eq_of_beq found]
          exact other
        have lowered' : python.lower h'.1 ≠ py "set-cookie" := keys ▸ lowered
        simp only [headerWithoutValue, if_neg lowered, if_neg lowered'] at head
        have values : h.2 = h'.2 := congrArg (fun p => p.2.2) head
        rw [Prod.ext keys values]

theorem headerMapAlike {name : PyStr} (other : name ≠ py "set-cookie")
    (same : headers.map (headerWithoutValue python) = headers'.map (headerWithoutValue python)) :
    headerMap python headers name = headerMap python headers' name := by
  have reversed : headers.reverse.map (headerWithoutValue python) =
      headers'.reverse.map (headerWithoutValue python) := by
    rw [List.map_reverse, List.map_reverse, same]
  rw [headerMap, headerMap, findAlike other reversed]

theorem cookiesAlike (same : r.headers.map (headerWithoutValue python) =
    r'.headers.map (headerWithoutValue python)) :
    (cookiesOf python r).map withoutValue = (cookiesOf python r').map withoutValue := by
  have through : ∀ headers : Headers,
      ((headers.filter fun h => python.lower h.1 == py "set-cookie").map Prod.snd).map withoutValue =
        ((headers.map (headerWithoutValue python)).filter fun h =>
          python.lower h.1 == py "set-cookie").map Prod.snd := by
    intro headers
    induction headers with
    | nil => rfl
    | cons h headers ih =>
      by_cases cookie : python.lower h.1 = py "set-cookie"
      · simpa [headerWithoutValue, cookie] using ih
      · simpa [headerWithoutValue, cookie] using ih
  rw [cookiesOf, cookiesOf, through, through, same]

theorem headersAlike (same : SameButCookieValues python r r') :
    assessHeaders python r location = assessHeaders python r' location := by
  obtain ⟨headers, response⟩ := same
  have names : ∀ header ∈ securityHeaders, header.lowered ≠ py "set-cookie" := by decide
  have each : ∀ header ∈ securityHeaders,
      assessHeader python r.headers location header = assessHeader python r'.headers location header := by
    intro header member
    rw [assessHeader, assessHeader, headerMapAlike (names header member) headers]
  have hsts : hstsOverHttp python r location = hstsOverHttp python r' location := by
    have target : r'.finalTarget = r.finalTarget := by rw [response]
    rw [hstsOverHttp, hstsOverHttp, target, headerMapAlike (by decide) headers]
  rw [assessHeaders, assessHeaders, mapMSame each, hsts]

theorem serverAlike (same : SameButCookieValues python r r') :
    assessServerInfo python r = assessServerInfo python r' := by
  have names : ∀ key ∈ interestingHeaders, key ≠ py "set-cookie" := by decide
  have each : ∀ key ∈ interestingHeaders,
      assessServerHeader python r.headers key = assessServerHeader python r'.headers key := by
    intro key member
    rw [assessServerHeader, assessServerHeader, headerMapAlike (names key member) same.1]
  rw [assessServerInfo, assessServerInfo, mapMSame each]

theorem resultAlike {name version hostname : PyStr} {origin : OriginSpec}
    (same : SameButCookieValues python r r')
    (cookies : ∀ location, assessCookies python r location = assessCookies python r' location) :
    assessedResult python name version hostname origin r =
      assessedResult python name version hostname origin r' := by
  have transport : assessTransport python hostname origin r = assessTransport python hostname origin r' := by
    rw [same.2]
    rfl
  have contentType : header? python r.headers (py "content-type") =
      header? python r'.headers (py "content-type") := by
    rw [header?, header?, findAlike (by decide) same.1]
  have rest : r'.finalTarget = r.finalTarget ∧ r'.status = r.status ∧ r'.viaRedirects = r.viaRedirects ∧
      r'.truncated = r.truncated ∧ r'.body = r.body := by
    rw [same.2]
    exact ⟨rfl, rfl, rfl, rfl, rfl⟩
  obtain ⟨target, status, via, truncated, body⟩ := rest
  unfold assessedResult
  dsimp only
  rw [transport, headersAlike same, cookies, serverAlike same, contentType, target, status, via,
    truncated, body]

theorem resultCookies {name version hostname : PyStr} {origin : OriginSpec} {result : HttpAnalysisResult}
    (same : SameButCookieValues python r r')
    (ok : assessedResult python name version hostname origin r = .ok result)
    (ok' : assessedResult python name version hostname origin r' = .ok result) :
    ∃ a a' location, assessCookies python r location = .ok a ∧
      assessCookies python r' location = .ok a' ∧ a.observations = a'.observations := by
  have transport : assessTransport python hostname origin r' = assessTransport python hostname origin r := by
    rw [same.2]
    rfl
  unfold assessedResult at ok ok'
  dsimp only at ok ok'
  rw [transport, ← headersAlike same, ← serverAlike same] at ok'
  obtain ⟨posture, first, ok⟩ := bindOk ok
  obtain ⟨headers, second, ok⟩ := bindOk ok
  obtain ⟨cookies, third, ok⟩ := bindOk ok
  obtain ⟨server, fourth, ok⟩ := bindOk ok
  obtain ⟨posture', first', ok'⟩ := bindOk ok'
  obtain ⟨headers', second', ok'⟩ := bindOk ok'
  obtain ⟨cookies', third', ok'⟩ := bindOk ok'
  obtain ⟨server', fourth', ok'⟩ := bindOk ok'
  rw [first] at first'
  rw [second] at second'
  rw [fourth] at fourth'
  cases first'
  cases second'
  cases fourth'
  cases ok
  have observations := congrArg (fun x => x.toOption.map HttpAnalysisResult.observations) ok'
  simp only [Assessed.joined, List.flatMap_cons, List.flatMap_nil, List.append_nil] at observations
  have joined := Option.some.inj observations
  have tails := List.append_cancel_left (List.append_cancel_left joined)
  exact ⟨cookies, cookies', _, third, third', (List.append_cancel_right tails).symm⟩

def setValues (python : Python) (word : PyStr) (r : HttpResponseData) : HttpResponseData :=
  { r with headers := r.headers.map fun h =>
      if python.lower h.1 = py "set-cookie" then (h.1, Listing.setNameless word h.2) else h }

theorem setSame {word : PyStr} (simple : Listing.simpleWord word) :
    SameButCookieValues python r (setValues python word r) := by
  refine ⟨?_, rfl⟩
  rw [setValues, List.map_map]
  refine List.map_congr_left fun h _ => ?_
  by_cases cookie : python.lower h.1 = py "set-cookie"
  · simp only [Function.comp_apply, headerWithoutValue, if_pos cookie, Listing.setAlike simple]
  · simp only [Function.comp_apply, headerWithoutValue, if_neg cookie]

theorem setCookies (word : PyStr) : cookiesOf python (setValues python word r) =
    (cookiesOf python r).map (Listing.setNameless word) := by
  unfold cookiesOf setValues
  induction r.headers with
  | nil => rfl
  | cons h headers ih =>
    by_cases cookie : python.lower h.1 = py "set-cookie"
    · simpa [cookie] using ih
    · simpa [cookie] using ih

end Responses

def EngineServices.answering {python : Python} (services : EngineServices python)
    (response : HttpResponseData) : EngineServices python :=
  { services with client := fun _ => .ok response }

def asked {python : Python} (context : ScanNetworkContext) (services : EngineServices python) :
    Except PyError Unit := do
  if services.limits.maxRequests < 1 then throw requestBudgetExceededError
  let _ ← buildRequest context services
  if services.cancelled then throw scanCancelledError

theorem executeAnswering {python : Python} (name version : PyStr) (context : ScanNetworkContext)
    (services : EngineServices python) (response : HttpResponseData) :
    HttpAnalysis.execute name version context (services.answering response) =
      (asked context services).bind fun _ =>
        assessedResult python name version context.binding.hostname services.origin response := by
  unfold HttpAnalysis.execute fetch asked singleRequest
  have request : buildRequest context (services.answering response) = buildRequest context services := rfl
  have limits : (services.answering response).limits = services.limits := rfl
  have cancelled : (services.answering response).cancelled = services.cancelled := rfl
  rw [request, limits, cancelled]
  by_cases budget : services.limits.maxRequests < 1
  · rw [if_pos budget, if_pos budget]
    rfl
  · rw [if_neg budget, if_neg budget]
    cases built : buildRequest context services with
    | error e => rfl
    | ok request =>
      cases services.cancelled <;> rfl

theorem filterMapSame {α β : Type} {f g : α → Option β} {xs : List α}
    (some : ∀ x ∈ xs, (f x).isSome = (g x).isSome) (same : xs.filterMap f = xs.filterMap g) :
    ∀ x ∈ xs, f x = g x := by
  induction xs with
  | nil => exact fun _ none => absurd none List.not_mem_nil
  | cons x xs ih =>
    have head := some x List.mem_cons_self
    have tail := fun y member => some y (List.mem_cons_of_mem _ member)
    rw [List.filterMap_cons, List.filterMap_cons] at same
    cases one : f x with
    | none =>
      cases other : g x with
      | none =>
        rw [one, other] at same
        exact List.forall_mem_cons.mpr ⟨one.trans other.symm, ih tail same⟩
      | some b =>
        rw [one, other] at head
        cases head
    | some a =>
      cases other : g x with
      | none =>
        rw [one, other] at head
        cases head
      | some b =>
        rw [one, other] at same
        obtain ⟨rfl, rest⟩ := List.cons.inj same
        exact List.forall_mem_cons.mpr ⟨one.trans other.symm, ih tail rest⟩

theorem evidenceTexts {python : Python} {l : Listing} {cookies cookies' : List PyStr}
    (shows : ¬ l.hides cookies) (alike : cookies.map withoutValue = cookies'.map withoutValue)
    {other : List PyStr} (alike' : cookies.map withoutValue = other.map withoutValue)
    (same : l.evidence python cookies' = l.evidence python other) :
    boundEvidence python (l.text cookies') maxEvidenceChars =
      boundEvidence python (l.text other) maxEvidenceChars := by
  cases empty : (l.listed cookies).isEmpty with
  | true =>
    refine absurd ?_ shows
    have none : l.shown cookies = [] := by
      rw [Listing.shown, List.isEmpty_iff.mp empty, List.take_nil]
    unfold Listing.hides
    rw [none]
    trivial
  | false =>
    have one := (emptyAlike (Listing.countAlike (l := l) alike)).symm.trans empty
    have two := (emptyAlike (Listing.countAlike (l := l) alike')).symm.trans empty
    rw [Listing.evidence, Listing.evidence, one, two] at same
    exact Option.some.inj same

/- A result tells nothing of the values of its cookies just where every list hides them. -/
theorem valuesHidden {python : Python} (prints : Prints python) {name version : PyStr}
    {context : ScanNetworkContext} {services : EngineServices python} {response : HttpResponseData}
    {result : HttpAnalysisResult}
    (ok : HttpAnalysis.execute name version context (services.answering response) = .ok result) :
    (∀ response', SameButCookieValues python response response' →
      HttpAnalysis.execute name version context (services.answering response') = .ok result) ↔
    ∀ l ∈ listings python, l.hides (cookiesOf python response) := by
  constructor
  · intro hidden l member
    by_contra shows
    obtain ⟨word, word', simple, simple', differ⟩ := Listing.showsOther prints shows
    have one := hidden _ (setSame simple)
    have two := hidden _ (setSame simple')
    rw [executeAnswering] at one two
    obtain ⟨_, -, one⟩ := bindOk one
    obtain ⟨_, -, two⟩ := bindOk two
    have between : SameButCookieValues python (setValues python word response)
        (setValues python word' response) :=
      ⟨(setSame simple).1.symm.trans (setSame simple').1, rfl⟩
    obtain ⟨a, a', location, first, second, observations⟩ := resultCookies between one two
    have evidence := congrArg (List.map Observation.evidence) observations
    rw [cookiesEvidence prints first, cookiesEvidence prints second, setCookies, setCookies] at evidence
    have alike := (Listing.setAll simple (cookiesOf python response)).symm
    have alike' := (Listing.setAll simple' (cookiesOf python response)).symm
    have both : ∀ l ∈ listings python, (l.evidence python
        ((cookiesOf python response).map (Listing.setNameless word))).isSome =
        (l.evidence python ((cookiesOf python response).map (Listing.setNameless word'))).isSome := by
      intro l _
      rw [Listing.evidence, Listing.evidence,
        emptyAlike ((Listing.countAlike alike).symm.trans (Listing.countAlike alike'))]
      split <;> rfl
    exact differ (evidenceTexts shows alike alike' (filterMapSame both evidence l member))
  · intro hides response' same
    have alike := cookiesAlike same.1
    have cookies : ∀ location, assessCookies python response location =
        assessCookies python response' location := fun _ =>
      assessAlike alike fun l member => Listing.hidesSame (hides l member) alike
    rw [executeAnswering, ← resultAlike same cookies, ← executeAnswering]
    exact ok

def printing : Python :=
  { pagePython with isPrintable := fun c => pagePython.isPrintable c || c == 0x2026 }

def cookieServices : EngineServices printing where
  limits := ⟨2000000, 10, 4, defaultsPositive⟩
  cancelled := false
  origin := ⟨py "https", none, py "/"⟩
  client _ := .ok (pageResponse [])

def withCookie (first : String) : HttpResponseData :=
  pageResponse [(py "permissions-policy", py "camera=()"),
    (py "set-cookie", py first ++ py "; Secure; HttpOnly; SameSite=Lax")]

def analysed (response : HttpResponseData) : Except PyError HttpAnalysisResult :=
  HttpAnalysis.execute (py "http-security-analysis") (py "1") ⟨pageBinding⟩
    (cookieServices.answering response)

def evidenceOf (first : String) : Option (List PyStr) :=
  (analysed (withCookie first)).toOption.map fun result => result.observations.map Observation.evidence

theorem namedCookieHidden : ∃ result, analysed (withCookie "session=1") = .ok result ∧
    ∀ response', SameButCookieValues printing (withCookie "session=1") response' →
      analysed response' = .ok result := by
  have returns : (evidenceOf "session=1").isSome = true := by decide +kernel
  obtain ⟨evidence, found⟩ := Option.isSome_iff_exists.mp returns
  obtain ⟨result, returned, -⟩ := Option.map_eq_some_iff.mp found
  have ran := okOfToOption returned
  exact ⟨result, ran, (valuesHidden (by unfold Prints; decide +kernel) ran).mpr (by decide +kernel)⟩

/- A token sent without a name is told. -/
theorem namelessCookieTold :
    SameButCookieValues printing (withCookie "token1") (withCookie "token2") ∧
      ∃ result result', analysed (withCookie "token1") = .ok result ∧
        analysed (withCookie "token2") = .ok result' ∧
        result.observations ≠ result'.observations := by
  refine ⟨⟨by decide +kernel, rfl⟩, ?_⟩
  have returns : (evidenceOf "token1").isSome = true := by decide +kernel
  have returns' : (evidenceOf "token2").isSome = true := by decide +kernel
  have differ : evidenceOf "token1" ≠ evidenceOf "token2" := by decide +kernel
  obtain ⟨evidence, found⟩ := Option.isSome_iff_exists.mp returns
  obtain ⟨evidence', found'⟩ := Option.isSome_iff_exists.mp returns'
  obtain ⟨result, returned, seen⟩ := Option.map_eq_some_iff.mp found
  obtain ⟨result', returned', seen'⟩ := Option.map_eq_some_iff.mp found'
  refine ⟨result, result', okOfToOption returned, okOfToOption returned', fun same => ?_⟩
  rw [found, found', ← seen, ← seen', same] at differ
  exact differ rfl

end SentinelGpt.HttpAnalysis
