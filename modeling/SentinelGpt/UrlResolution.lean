import SentinelGpt.UrlReading

/-! `urljoin` of a path and a relative reference, and the resolution of the one against the other. -/
namespace SentinelGpt
open UrlSplit UrlJoin

def pathQuery (path : PyStr) (query : Option PyStr) : PyStr := path ++ query.elim [] fun text => 0x3F :: text

/- The URL of an origin and what follows it, a fragment aside. -/
def urlOf (scheme : PyStr) (destination : Destination) (path : PyStr) : Uri.Reference CodePoint Destination :=
  ⟨some scheme, some destination, Uri.before 0x3F (Uri.before 0x23 path), Uri.behind 0x3F (Uri.before 0x23 path)⟩

/- Where a location is joined to a URL as it is resolved against it. Its query is not empty; a bare
query is not joined to a base whose last segment ends in a bare sign for parameters; and no path ends
so, or in dots with parameters. A rooted path must not come to begin with two slashes, and in a merged
one no segment but the last may be empty, unless the dots take all of them away. -/
inductive Joins (url : Uri.Reference CodePoint Destination) (location : PyStr) : Prop where
  | query (given : location ≠ []) (pathless : (reference location).path = []) (asked : (reference location).query ≠ some [])
      (kept : (reference location).query = none → url.query ≠ some []) (filled : Filled (afterLast 0x2F url.path))
  | rooted (rooted : startsRooted (reference location).path) (asked : (reference location).query ≠ some [])
      (filled : Filled (afterLast 0x2F (reference location).path))
      (undotted : Undotted (afterLast 0x2F (reference location).path))
      (once : ¬ startsTwice (Uri.removeDotSegments uriMarks (reference location).path))
  | merged (given : (reference location).path ≠ []) (relative : ¬ startsRooted (reference location).path)
      (asked : (reference location).query ≠ some [])
      (filled : Filled (afterLast 0x2F (reference location).path))
      (undotted : Undotted (afterLast 0x2F (reference location).path))
      (inner : [] ∉ ((splitOn 0x2F (Uri.merge uriMarks url (reference location).path)).drop 1).dropLast ∨
        ∃ name, Uri.removeDotSegments uriMarks (Uri.merge uriMarks url (reference location).path) = 0x2F :: name ∧
          0x2F ∉ name)

section Joined
variable {python : Python} {path query fragment text : PyStr} {asked : Option PyStr}

theorem urlunsplitRelative : urlunsplit ⟨[], [], path, query, fragment⟩ =
    unsplit path ++ queryText query ++ (if fragment.isEmpty then [] else 0x23 :: fragment) := by
  have sent : (if !([] : PyStr).isEmpty || (py "//").isPrefixOf path then
      py "//" ++ ([] : PyStr) ++ (if !path.isEmpty && path.head? != some 0x2F then 0x2F :: path else path)
    else path) = unsplit path := by
    cases twice : (py "//").isPrefixOf path with
    | false => rw [unsplit, twice]; rfl
    | true =>
      obtain ⟨rest, rfl⟩ := startsTwiceIff.mp twice
      rw [unsplit, twice]
      rfl
  unfold urlunsplit queryText
  dsimp only
  rw [sent]
  rfl

theorem beforeUnsplit (free : 0x23 ∉ path) (queryFree : 0x23 ∉ query) :
    Uri.before 0x23 (urlunsplit ⟨[], [], path, query, fragment⟩) = unsplit path ++ queryText query := by
  have plain : (0x23 : CodePoint) ∉ unsplit path ++ queryText query := by
    intro inside
    rcases List.mem_append.mp inside with inside | inside
    · rcases memUnsplit inside with other | inside
      · exact absurd other (by decide)
      · exact free inside
    · unfold queryText at inside
      split at inside
      · cases inside
      · rcases List.mem_cons.mp inside with other | inside
        · exact absurd other (by decide)
        · exact queryFree inside
  have cut : Uri.before 0x23 (unsplit path ++ queryText query ++
      (if fragment.isEmpty then none else some fragment).elim [] (0x23 :: ·)) = unsplit path ++ queryText query :=
    Uri.beforeJoin plain
  rw [urlunsplitRelative]
  cases fragment with
  | nil => exact cut
  | cons c rest => exact cut

theorem sameQuery {resolved : PyStr} (free : 0x3F ∉ text) (resolvedFree : 0x3F ∉ resolved) :
    text ++ queryText query = pathQuery resolved asked ↔
      text = resolved ∧ (if query.isEmpty then none else some query) = asked := by
  have whole : text ++ queryText query = text ++ (if query.isEmpty then none else some query).elim [] (0x3F :: ·) := by
    unfold queryText
    split
    · rfl
    · rfl
  rw [whole]
  constructor
  · intro same
    have front := congrArg (Uri.before 0x3F) same
    have back := congrArg (Uri.behind 0x3F) same
    rw [pathQuery] at front back
    rw [Uri.beforeJoin free, Uri.beforeJoin resolvedFree] at front
    rw [Uri.behindJoin free, Uri.behindJoin resolvedFree] at back
    exact ⟨front, back⟩
  · rintro ⟨rfl, rfl⟩
    rfl

end Joined

section Queries
variable {asked given : Option PyStr}

theorem queryKept : (if (asked.getD []).isEmpty then none else some (asked.getD [])) = asked ↔ asked ≠ some [] := by
  cases asked with
  | none => exact iff_of_true rfl nofun
  | some text => cases text with
    | nil => exact iff_of_false nofun fun other => other rfl
    | cons c rest => exact iff_of_true rfl nofun

theorem queryMerged : (if (if (asked.getD []).isEmpty then given.getD [] else asked.getD []).isEmpty then none
      else some (if (asked.getD []).isEmpty then given.getD [] else asked.getD [])) = asked.or given ↔
    asked ≠ some [] ∧ (asked = none → given ≠ some []) := by
  cases asked with
  | none =>
    have same : (if (given.getD []).isEmpty then none else some (given.getD [])) = given ↔ given ≠ some [] := queryKept
    simpa using same
  | some text => cases text with
    | nil =>
      refine iff_of_false (fun same => ?_) fun both => both.1 rfl
      cases given with
      | none => cases same
      | some text => cases text <;> cases same
    | cons c rest => exact iff_of_true rfl ⟨nofun, nofun⟩

end Queries

section Marks
variable {text : PyStr} {c : CodePoint}

theorem memBehind {mark : CodePoint} (member : c ∈ (Uri.behind mark text).getD []) : c ∈ text := by
  unfold Uri.behind at member
  split at member
  · exact (List.dropWhile_sublist _).subset (List.mem_of_mem_drop member)
  · cases member

theorem hashFree : 0x23 ∉ Uri.before 0x3F (Uri.before 0x23 text) ∧ 0x23 ∉ (Uri.behind 0x3F (Uri.before 0x23 text)).getD [] :=
  ⟨fun inside => Uri.beforeFree ((List.takeWhile_sublist _).subset inside), fun inside => Uri.beforeFree (memBehind inside)⟩

end Marks

section Resolved
variable {python : Python} {path location joined : PyStr} {scheme : PyStr} {destination : Destination} {parts : SplitResult}

theorem rootedScheme (rooted : startsRooted path) : Uri.cutScheme uriMarks path = (none, path) := by
  obtain ⟨rest, rfl⟩ := rooted
  rfl

theorem onceAuthority (once : ¬ startsTwice path) : Uri.cutAuthority uriMarks path = (none, path) := by
  refine if_neg fun twice => once ?_
  obtain ⟨rest, whole⟩ := List.isPrefixOf_iff_prefix.mp twice
  exact ⟨rest, whole.symm⟩

theorem unhostedOf (unnamed : (reference location).scheme = none) (once : ¬ startsTwice location) :
    (reference location).authority = none := by
  rcases Uri.cutSchemeOf (m := uriMarks) location with ⟨word, rest, -, -, -, found⟩ | ⟨found, -⟩
  · have named : (reference location).scheme = some word := by rw [reference, Uri.parse, found]
    rw [named] at unnamed
    cases unnamed
  · rw [reference, Uri.parse, found]
    dsimp only
    rw [onceAuthority once]
    rfl

theorem baseRead (clean : cleaned path = path) (rooted : startsRooted path) (once : ¬ startsTwice path)
    (split : urlsplit python path = .ok parts) : parts.netloc = [] ∧
      parts.path = (urlOf scheme destination path).path ∧
      parts.query = (urlOf scheme destination path).query.getD [] := by
  have written : Written path := by
    refine ⟨clean, fun word named => ?_, ?_⟩
    · rw [rootedScheme rooted] at named
      cases named
    · rw [rootedScheme rooted]
      dsimp only
      rw [onceAuthority once]
      exact fun c none => absurd none List.not_mem_nil
  have read := splitWritten written split
  have netloc := read.netloc.2
  have place := read.path
  have asked := read.query
  unfold reference Uri.parse at place asked
  rw [rootedScheme rooted] at netloc place asked
  dsimp only at netloc place asked
  rw [onceAuthority once] at netloc place asked
  exact ⟨netloc, place, asked⟩

theorem urlFree : 0x23 ∉ (urlOf scheme destination path).path ∧ 0x3F ∉ (urlOf scheme destination path).path ∧
    0x23 ∉ (urlOf scheme destination path).query.getD [] :=
  ⟨hashFree.1, Uri.beforeFree, hashFree.2⟩

theorem referenceFree : 0x23 ∉ (reference location).path ∧ 0x3F ∉ (reference location).path ∧
    0x23 ∉ (reference location).query.getD [] :=
  ⟨hashFree.1, Uri.beforeFree, hashFree.2⟩

theorem urljoinParts (some : path ≠ []) (given : location ≠ []) (made : urljoin python path location = .ok joined) :
    ∃ b u, urlsplit python path = .ok b ∧ urlsplit python location = .ok u ∧
      joined = if (splitParams u.path).1.isEmpty && (splitParams u.path).2.isEmpty then
          urlunsplit ⟨[], b.netloc, withParams (splitParams b.path).1 (splitParams b.path).2,
            if u.query.isEmpty then b.query else u.query, u.fragment⟩
        else urlunsplit ⟨[], b.netloc, joinedWith b.path u.path, u.query, u.fragment⟩ := by
  unfold urljoin at made
  rw [if_neg fun empty => some (List.isEmpty_iff.mp empty)] at made
  rw [if_neg fun empty => given (List.isEmpty_iff.mp empty)] at made
  obtain ⟨b, base, made⟩ := bindOk made
  obtain ⟨u, reference, made⟩ := bindOk made
  refine ⟨b, u, base, reference, ?_⟩
  dsimp only at made
  split at made
  · rename_i bare
    cases made
    rw [if_pos bare]
  · rename_i named
    cases made
    rw [if_neg named]
    rfl

def SentAs (joined : PyStr) (url : Uri.Reference CodePoint Destination) : Prop :=
  Uri.before 0x23 joined = pathQuery url.path url.query

theorem unsplitRootedOf {query fragment : PyStr} (some : path ≠ [])
    (rooted : startsRooted (urlunsplit ⟨[], [], path, query, fragment⟩)) : startsRooted (unsplit path) := by
  rw [urlunsplitRelative] at rooted
  have filled : unsplit path ≠ [] := by
    unfold unsplit
    split
    · exact List.cons_ne_nil _ _
    · exact some
  cases text : unsplit path with
  | nil => exact absurd text filled
  | cons c rest =>
    rw [text] at rooted
    obtain ⟨other, whole⟩ := rooted
    exact ⟨rest, by rw [(List.cons.inj whole).1]⟩

theorem pathlessJoins {url : Uri.Reference CodePoint Destination} (given : location ≠ [])
    (pathless : (reference location).path = []) : Joins url location ↔
      Filled (afterLast 0x2F url.path) ∧ (reference location).query ≠ some [] ∧
        ((reference location).query = none → url.query ≠ some []) := by
  constructor
  · intro joins
    cases joins with
    | query _ _ asked kept filled => exact ⟨filled, asked, kept⟩
    | rooted rooted =>
      obtain ⟨rest, whole⟩ := rooted
      rw [pathless] at whole
      cases whole
    | merged some => exact absurd pathless some
  · rintro ⟨filled, asked, kept⟩
    exact .query given pathless asked kept filled

theorem unsplitIs {text : PyStr} (once : ¬ startsTwice path) : unsplit text = path ↔ text = path := by
  by_cases twice : startsTwice text
  · rw [unsplitTwice twice]
    refine iff_of_false (fun same => once ⟨text, same.symm⟩) fun same => once (same ▸ twice)
  · rw [unsplitOnce twice]

theorem baseOnce (rooted : startsRooted path) (once : ¬ startsTwice path) :
    startsRooted (urlOf scheme destination path).path ∧ ¬ startsTwice (urlOf scheme destination path).path := by
  obtain ⟨rest, rfl⟩ := rooted
  refine ⟨⟨_, rfl⟩, fun ⟨more, twice⟩ => ?_⟩
  cases rest with
  | nil => cases twice
  | cons c rest =>
    refine once ⟨rest, ?_⟩
    have place : (urlOf scheme destination (0x2F :: c :: rest)).path =
        0x2F :: Uri.before 0x3F (Uri.before 0x23 (c :: rest)) := rfl
    rw [place] at twice
    by_cases hash : c = 0x23
    · rw [hash] at twice
      cases twice
    · have cut : Uri.before 0x23 (c :: rest) = c :: Uri.before 0x23 rest := List.takeWhile_cons_of_pos (bne_iff_ne.mpr hash)
      rw [cut] at twice
      by_cases question : c = 0x3F
      · rw [question] at twice
        cases twice
      · have cut : Uri.before 0x3F (c :: Uri.before 0x23 rest) = c :: Uri.before 0x3F (Uri.before 0x23 rest) :=
          List.takeWhile_cons_of_pos (bne_iff_ne.mpr question)
        rw [cut] at twice
        rw [(List.cons.inj (List.cons.inj twice).2).1]

theorem rootedSome (rooted : startsRooted path) : path ≠ [] := by
  obtain ⟨rest, rfl⟩ := rooted
  exact List.cons_ne_nil _ _

theorem putBackFree {c : CodePoint} (other : c ≠ 0x3B) (free : c ∉ path) :
    c ∉ withParams (splitParams path).1 (splitParams path).2 := by
  intro inside
  rcases memWithParams inside with sign | name | params
  · exact other sign
  · exact free (memSplitParams.1 name)
  · exact free (memSplitParams.2 params)

theorem unsplitFree {c : CodePoint} (other : c ≠ 0x2F) (free : c ∉ path) : c ∉ unsplit path := fun inside =>
  (memUnsplit inside).elim other free

theorem joinedFree {c : CodePoint} (slashless : c ≠ 0x2F) (other : c ≠ 0x3B) (free : c ∉ path) (locationFree : c ∉ location) :
    c ∉ joinedWith path location := by
  intro inside
  rcases memJoinedWith inside with slash | sign | base | reference
  · exact slashless slash
  · exact other sign
  · exact free base
  · exact locationFree reference

theorem joinedSome : joinedWith path location ≠ [] := by
  have some : joinedPath (splitParams path).1 (splitParams location).1 ≠ [] := by
    unfold joinedPath
    dsimp only
    split
    · exact List.cons_ne_nil _ _
    · rename_i filled
      exact fun none => filled (List.isEmpty_iff.mpr none)
  rw [joinedWith, withParamsIs]
  exact List.append_ne_nil_of_left_ne_nil some _

theorem rootedJoins {url : Uri.Reference CodePoint Destination} (rooted : startsRooted (reference location).path) :
    Joins url location ↔ (Filled (afterLast 0x2F (reference location).path) ∧
      Undotted (afterLast 0x2F (reference location).path) ∧
        ¬ startsTwice (Uri.removeDotSegments uriMarks (reference location).path)) ∧
      (reference location).query ≠ some [] := by
  constructor
  · intro joins
    cases joins with
    | query _ pathless => exact absurd pathless (rootedSome rooted)
    | rooted _ asked filled undotted once => exact ⟨⟨filled, undotted, once⟩, asked⟩
    | merged _ relative => exact absurd rooted relative
  · rintro ⟨⟨filled, undotted, once⟩, asked⟩
    exact .rooted rooted asked filled undotted once

theorem mergedJoins {url : Uri.Reference CodePoint Destination} (given : (reference location).path ≠ [])
    (relative : ¬ startsRooted (reference location).path) :
    Joins url location ↔ (Filled (afterLast 0x2F (reference location).path) ∧
      Undotted (afterLast 0x2F (reference location).path) ∧
        ([] ∉ ((splitOn 0x2F (Uri.merge uriMarks url (reference location).path)).drop 1).dropLast ∨
          ∃ name, Uri.removeDotSegments uriMarks (Uri.merge uriMarks url (reference location).path) = 0x2F :: name ∧
            0x2F ∉ name)) ∧ (reference location).query ≠ some [] := by
  constructor
  · intro joins
    cases joins with
    | query _ pathless => exact absurd pathless given
    | rooted rooted => exact absurd rooted relative
    | merged _ _ asked filled undotted inner => exact ⟨⟨filled, undotted, inner⟩, asked⟩
  · rintro ⟨⟨filled, undotted, inner⟩, asked⟩
    exact .merged given relative asked filled undotted inner

theorem removedFree {c : CodePoint} (other : c ≠ 0x2F) (free : c ∉ path) : c ∉ Uri.removeDotSegments uriMarks path :=
  fun inside => (Uri.memRemoveDotSegments inside).elim other free

theorem mergedFree {c : CodePoint} {url : Uri.Reference CodePoint Destination} (other : c ≠ 0x2F) (free : c ∉ url.path)
    (locationFree : c ∉ location) : c ∉ Uri.merge uriMarks url location := by
  intro inside
  rcases Uri.memMerge inside with slash | base | reference
  · exact other slash
  · exact free base
  · exact locationFree reference

theorem askedFree : 0x23 ∉ (if ((reference location).query.getD []).isEmpty then
    (urlOf scheme destination path).query.getD [] else (reference location).query.getD []) := by
  split
  · exact urlFree.2.2
  · exact referenceFree.2.2

theorem rootedNamed (rooted : startsRooted path) :
    ¬ ((splitParams path).1.isEmpty && (splitParams path).2.isEmpty) = true := by
  intro empty
  obtain ⟨name, params⟩ := Bool.and_eq_true_iff.mp empty
  rcases unnamedPath (List.isEmpty_iff.mp name) (List.isEmpty_iff.mp params) with none | bare
  · exact rootedSome rooted none
  · obtain ⟨rest, text⟩ := rooted
    rw [text] at bare
    exact absurd (List.cons.inj bare).1 (by decide)

variable (rooted : startsRooted path) (once : ¬ startsTwice path) (clean : cleaned path = path)
  (written : Written location) (unnamed : (reference location).scheme = none)
  (unhosted : (reference location).authority = none)
include rooted once clean written unnamed unhosted

theorem pathlessSent (given : location ≠ []) (pathless : (reference location).path = [])
    (made : urljoin python path location = .ok joined) :
    SentAs joined (Uri.resolve uriMarks (urlOf scheme destination path) (reference location)) ↔
      Joins (urlOf scheme destination path) location := by
  obtain ⟨b, u, base, relative, rfl⟩ := urljoinParts (rootedSome rooted) given made
  have parts : b.netloc = [] ∧ b.path = (urlOf scheme destination path).path ∧
      b.query = (urlOf scheme destination path).query.getD [] := baseRead clean rooted once base
  obtain ⟨netloc, place, asked⟩ := parts
  have read := splitWritten written relative
  have bare : ((splitParams ([] : PyStr)).1.isEmpty && (splitParams ([] : PyStr)).2.isEmpty) = true := rfl
  rw [netloc, place, asked, read.path, read.query, pathless, if_pos bare, Uri.resolvePathless unnamed unhosted pathless,
    pathlessJoins given pathless, SentAs]
  rw [beforeUnsplit (putBackFree (by decide) urlFree.1) askedFree,
    sameQuery (unsplitFree (by decide) (putBackFree (by decide) urlFree.2.1)) urlFree.2.1,
    unsplitIs (baseOnce rooted once).2, baseKept, queryMerged]

theorem pathSent (given : (reference location).path ≠ []) (made : urljoin python path location = .ok joined)
    (sent : startsRooted joined) :
    SentAs joined (Uri.resolve uriMarks (urlOf scheme destination path) (reference location)) ↔
      Joins (urlOf scheme destination path) location := by
  have asked : location ≠ [] := by
    rintro rfl
    exact given rfl
  obtain ⟨b, u, base, relative, rfl⟩ := urljoinParts (rootedSome rooted) asked made
  have parts : b.netloc = [] ∧ b.path = (urlOf scheme destination path).path ∧
      b.query = (urlOf scheme destination path).query.getD [] := baseRead clean rooted once base
  obtain ⟨netloc, place, query⟩ := parts
  have read := splitWritten written relative
  have basePath : startsRooted (urlOf scheme destination path).path := (baseOnce rooted once).1
  have freeOfMerged : 0x3F ∉ Uri.merge uriMarks (urlOf scheme destination path) (reference location).path :=
    mergedFree (by decide) urlFree.2.1 referenceFree.2.1
  rw [netloc, place, query, read.path, read.query] at sent ⊢
  by_cases rootedPath : startsRooted (reference location).path
  · rw [if_neg (rootedNamed rootedPath)] at sent ⊢
    rw [Uri.resolveRooted unnamed unhosted (headRooted.mpr rootedPath), SentAs,
      beforeUnsplit (joinedFree (by decide) (by decide) urlFree.1 referenceFree.1) referenceFree.2.2,
      sameQuery (unsplitFree (by decide) (joinedFree (by decide) (by decide) urlFree.2.1 referenceFree.2.1))
        (removedFree (by decide) referenceFree.2.1),
      joinedWithRooted rootedPath (unsplitRootedOf joinedSome sent), queryKept, rootedJoins rootedPath]
  · rw [Uri.resolveMerged unnamed unhosted given fun rooted => rootedPath (headRooted.mp rooted),
      mergedJoins given rootedPath, SentAs]
    by_cases empty : ((splitParams (reference location).path).1.isEmpty && (splitParams (reference location).path).2.isEmpty) = true
    · obtain ⟨name, params⟩ := Bool.and_eq_true_iff.mp empty
      have bare := (unnamedPath (List.isEmpty_iff.mp name) (List.isEmpty_iff.mp params)).resolve_left given
      rw [if_pos empty, beforeUnsplit (putBackFree (by decide) urlFree.1) askedFree,
        sameQuery (unsplitFree (by decide) (putBackFree (by decide) urlFree.2.1)) (removedFree (by decide) freeOfMerged), bare]
      refine iff_of_false (fun same => baseParted basePath same.1) fun same => ?_
      exact same.1.1 (by decide) (by decide)
    · rw [if_neg empty] at sent ⊢
      rw [beforeUnsplit (joinedFree (by decide) (by decide) urlFree.1 referenceFree.1) referenceFree.2.2,
        sameQuery (unsplitFree (by decide) (joinedFree (by decide) (by decide) urlFree.2.1 referenceFree.2.1))
          (removedFree (by decide) freeOfMerged),
        joinedWithMerged basePath rootedPath (unsplitRootedOf joinedSome sent), queryKept]

omit rooted once clean written unnamed unhosted in
theorem emptySent (some : path ≠ []) (made : urljoin python path [] = .ok joined) :
    SentAs joined (Uri.resolve uriMarks (urlOf scheme destination path) (reference [])) := by
  unfold urljoin at made
  rw [if_neg fun empty => some (List.isEmpty_iff.mp empty)] at made
  cases made
  have pathless : (reference []).path = [] := rfl
  rw [Uri.resolvePathless rfl rfl pathless]
  exact (Uri.beforeBehind 0x3F (Uri.before 0x23 path)).symm

/- A location without scheme and authority is sent as it is resolved exactly where it joins. -/
theorem relativeSent (given : location ≠ []) (made : urljoin python path location = .ok joined) (sent : startsRooted joined) :
    SentAs joined (Uri.resolve uriMarks (urlOf scheme destination path) (reference location)) ↔
      Joins (urlOf scheme destination path) location := by
  by_cases pathless : (reference location).path = []
  · exact pathlessSent rooted once clean written unnamed unhosted given pathless made
  · exact pathSent rooted once clean written unnamed unhosted pathless made sent

omit once clean written in
theorem resolvedSome : (Uri.resolve uriMarks (urlOf scheme destination path) (reference location)).path ≠ [] := by
  have base : startsRooted (urlOf scheme destination path).path := by
    obtain ⟨rest, rfl⟩ := rooted
    exact ⟨_, rfl⟩
  have removed : ∀ {text : PyStr}, startsRooted text → Uri.removeDotSegments uriMarks text ≠ [] := by
    rintro text ⟨rest, rfl⟩
    exact fun none => absurd ((Uri.removeDotSegmentsRooted (m := uriMarks) rest).symm.trans none) (List.cons_ne_nil _ _)
  by_cases pathless : (reference location).path = []
  · rw [Uri.resolvePathless unnamed unhosted pathless]
    exact rootedSome base
  · by_cases rootedPath : startsRooted (reference location).path
    · rw [Uri.resolveRooted unnamed unhosted (headRooted.mpr rootedPath)]
      exact removed rootedPath
    · rw [Uri.resolveMerged unnamed unhosted pathless fun rooted => rootedPath (headRooted.mp rooted)]
      obtain ⟨dirs, file, within⟩ := segmentsOfText (urlOf scheme destination path).path
      obtain ⟨dirs, rfl⟩ := (rootedHead within).mp base
      obtain ⟨front, last, is⟩ := segmentsOfText (reference location).path
      exact removed ((rootedHead (mergedText within is)).mpr ⟨_, rfl⟩)

end Resolved
end SentinelGpt
