import Mathlib.Data.List.Basic
import Mathlib.Data.List.TakeWhile

/-! References of RFC 3986 and their resolution (section 5.2), over any characters. -/
namespace SentinelGpt
namespace Uri

/- The characters at which a reference is cut. -/
structure Marks (α : Type) where
  colon : α
  slash : α
  question : α
  hash : α
  dot : α

/- A reference without its fragment. -/
structure Reference (α β : Type) where
  scheme : Option (List α)
  authority : Option β
  path : List α
  query : Option (List α)
  deriving DecidableEq

theorem takeWhileCut {α : Type} {text : List α} {c : α} {p : α → Bool} (next : (text.drop (text.takeWhile p).length).head? = some c) :
    ∃ rest, text = text.takeWhile p ++ c :: rest := by
  have split := List.takeWhile_append_dropWhile (p := p) (l := text)
  have behind : text.drop (text.takeWhile p).length = text.dropWhile p := by
    have taken : (text.takeWhile p ++ text.dropWhile p).drop (text.takeWhile p).length = text.dropWhile p :=
      List.drop_left
    rwa [split] at taken
  rw [behind] at next
  obtain ⟨rest, cut⟩ := List.head?_eq_some_iff.mp next
  exact ⟨rest, by rw [← cut, split]⟩

section Parse
variable {α β : Type} [DecidableEq α] (m : Marks α)

def before (c : α) (text : List α) : List α := text.takeWhile fun a => a != c

def behind (c : α) (text : List α) : Option (List α) :=
  if c ∈ text then some ((text.dropWhile fun a => a != c).drop 1) else none

def isEnd (a : α) : Bool := a == m.slash || a == m.question || a == m.hash

def cutScheme (text : List α) : Option (List α) × List α :=
  let word := text.takeWhile fun a => !(a == m.colon || isEnd m a)
  if word ≠ [] ∧ (text.drop word.length).head? = some m.colon then
    (some word, text.drop (word.length + 1))
  else (none, text)

def cutAuthority (text : List α) : Option (List α) × List α :=
  if [m.slash, m.slash].isPrefixOf text then
    (some ((text.drop 2).takeWhile fun a => !isEnd m a), (text.drop 2).dropWhile fun a => !isEnd m a)
  else (none, text)

/- The components of a text, as appendix B cuts it. -/
def parse (readAuthority : List α → β) (text : List α) : Reference α β :=
  let (scheme, rest) := cutScheme m text
  let (authority, rest) := cutAuthority m rest
  let body := before m.hash rest
  ⟨scheme, authority.map readAuthority, before m.question body, behind m.question body⟩

variable {m} {text front : List α} {c : α} {query : Option (List α)}

theorem beforeJoin (free : c ∉ front) : before c (front ++ query.elim [] (c :: ·)) = front := by
  have kept : ∀ a ∈ front, (a != c) = true := fun a member => bne_iff_ne.mpr fun same => free (same ▸ member)
  rw [before, List.takeWhile_append_of_pos kept]
  cases query with
  | none => exact List.append_nil front
  | some text => simp

theorem behindJoin (free : c ∉ front) : behind c (front ++ query.elim [] (c :: ·)) = query := by
  cases query with
  | none =>
    rw [behind, if_neg]
    simpa using free
  | some text =>
    have kept : ∀ a ∈ front, (a != c) = true := fun a member => bne_iff_ne.mpr fun same => free (same ▸ member)
    rw [behind, if_pos (by simp), List.dropWhile_append_of_pos kept]
    simp

theorem beforeBehind (c : α) (text : List α) : before c text ++ (behind c text).elim [] (c :: ·) = text := by
  have split := List.takeWhile_append_dropWhile (p := fun a => a != c) (l := text)
  unfold before behind
  by_cases member : c ∈ text
  · rw [if_pos member]
    cases rest : text.dropWhile (fun a => a != c) with
    | nil => exact absurd (List.dropWhile_eq_nil_iff.mp rest c member) (by simp)
    | cons a tail =>
      have stop : a = c := by
        have first := List.head?_dropWhile_not (fun a => a != c) text
        rw [rest] at first
        simpa using first
      rw [rest, stop] at split
      exact split
  · have all : text.dropWhile (fun a => a != c) = [] :=
      List.dropWhile_eq_nil_iff.mpr fun a inside => bne_iff_ne.mpr fun same => member (same ▸ inside)
    rw [if_neg member]
    rwa [all] at split

theorem beforeFree : c ∉ before c text := fun member => by
  simpa using List.mem_takeWhile_imp member

/- A scheme is a word in front of a colon, with no mark in it. -/
theorem cutSchemeOf (text : List α) :
    (∃ word rest, word ≠ [] ∧ text = word ++ m.colon :: rest ∧
      (∀ a ∈ word, (a == m.colon || isEnd m a) = false) ∧ cutScheme m text = (some word, rest)) ∨
    (cutScheme m text = (none, text) ∧ ∀ word rest, word ≠ [] → text = word ++ m.colon :: rest →
      ¬ ∀ a ∈ word, (a == m.colon || isEnd m a) = false) := by
  unfold cutScheme
  dsimp only
  by_cases named : (text.takeWhile fun a => !(a == m.colon || isEnd m a)) ≠ [] ∧
      (text.drop (text.takeWhile fun a => !(a == m.colon || isEnd m a)).length).head? = some m.colon
  · obtain ⟨rest, cut⟩ := takeWhileCut named.2
    have plain : ∀ a ∈ text.takeWhile (fun a => !(a == m.colon || isEnd m a)),
        (a == m.colon || isEnd m a) = false := fun a member => by simpa using List.mem_takeWhile_imp member
    rw [if_pos named]
    have behind : ∀ word : List α, text = word ++ m.colon :: rest → text.drop (word.length + 1) = rest := by
      intro word cut
      rw [cut, ← List.drop_drop, List.drop_left]
      rfl
    exact .inl ⟨_, rest, named.1, cut, plain, by rw [behind _ cut]⟩
  · rw [if_neg named]
    refine .inr ⟨rfl, fun word rest some cut plain => named ?_⟩
    have whole : text.takeWhile (fun a => !(a == m.colon || isEnd m a)) = word := by
      rw [cut, List.takeWhile_append_of_pos fun a member => by rw [plain a member]; rfl]
      simp
    rw [whole]
    refine ⟨some, ?_⟩
    rw [cut, List.drop_left]
    rfl

end Parse

/-! Dot segments. -/

section Segments
variable {σ : Type} [DecidableEq σ] (dot dotdot : σ)

def step (stack : List σ) (segment : σ) : List σ :=
  if segment = dotdot then stack.dropLast
  else if segment = dot then stack
  else stack ++ [segment]

/- The segments of a rooted path without its dot segments; behind a last one the path goes on with
an empty segment. -/
def removeDots (empty : σ) (segments : List σ) : List σ :=
  segments.foldl (step dot dotdot) [] ++
    if segments.getLast? = some dot ∨ segments.getLast? = some dotdot then [empty] else []

/- Whether the dots lead above a number of segments. -/
def climbs : Nat → List σ → Bool
  | _, [] => false
  | depth, segment :: rest =>
    if segment = dotdot then depth == 0 || climbs (depth - 1) rest
    else if segment = dot then climbs depth rest
    else climbs (depth + 1) rest

variable {dot dotdot} {empty root : σ} {stack stack' segments : List σ}

theorem foldFree (free : ∀ s ∈ stack, s ≠ dot ∧ s ≠ dotdot) :
    ∀ s ∈ segments.foldl (step dot dotdot) stack, s ≠ dot ∧ s ≠ dotdot := by
  induction segments generalizing stack with
  | nil => exact free
  | cons a rest ih =>
    refine ih fun s member => ?_
    unfold step at member
    split at member
    · exact free s (List.dropLast_subset stack member)
    · rename_i other
      split at member
      · exact free s member
      · rename_i another
        rcases List.mem_append.mp member with before | now
        · exact free s before
        · rw [List.mem_singleton.mp now]
          exact ⟨another, other⟩

theorem foldSelf (free : ∀ s ∈ segments, s ≠ dot ∧ s ≠ dotdot) :
    segments.foldl (step dot dotdot) stack = stack ++ segments := by
  induction segments generalizing stack with
  | nil => rw [List.foldl_nil, List.append_nil]
  | cons a rest ih =>
    obtain ⟨dotless, up⟩ := free a List.mem_cons_self
    rw [List.foldl_cons, ih fun s member => free s (List.mem_cons_of_mem a member), step, if_neg up,
      if_neg dotless, List.append_assoc, List.singleton_append]

theorem removeDotsFixed (plain : empty ≠ dot ∧ empty ≠ dotdot) :
    removeDots dot dotdot empty segments = segments ↔ ∀ s ∈ segments, s ≠ dot ∧ s ≠ dotdot := by
  constructor
  · intro same s member
    rw [← same, removeDots] at member
    rcases List.mem_append.mp member with left | last
    · exact foldFree (fun _ none => absurd none List.not_mem_nil) s left
    · split at last
      · rw [List.mem_singleton.mp last]
        exact plain
      · cases last
  · intro free
    have last : ¬ (segments.getLast? = some dot ∨ segments.getLast? = some dotdot) := by
      rintro (last | last)
      · exact (free _ (List.mem_of_getLast? last)).1 rfl
      · exact (free _ (List.mem_of_getLast? last)).2 rfl
    rw [removeDots, if_neg last, foldSelf free, List.nil_append, List.append_nil]

theorem removeDotsSnoc {segment : σ} : removeDots dot dotdot empty (segments ++ [segment]) =
    step dot dotdot (segments.foldl (step dot dotdot) []) segment ++
      if segment = dot ∨ segment = dotdot then [empty] else [] := by
  simp only [removeDots, List.foldl_append, List.foldl_cons, List.foldl_nil, List.getLast?_append,
    List.getLast?_singleton, Option.some_or, Option.some.injEq]

theorem memFold {s : σ} (member : s ∈ segments.foldl (step dot dotdot) stack) : s ∈ stack ∨ s ∈ segments := by
  induction segments generalizing stack with
  | nil => exact .inl member
  | cons a rest ih =>
    rcases ih member with before | after
    · unfold step at before
      split at before
      · exact .inl (List.dropLast_subset stack before)
      · split at before
        · exact .inl before
        · rcases List.mem_append.mp before with before | now
          · exact .inl before
          · rw [List.mem_singleton.mp now]
            exact .inr List.mem_cons_self
    · exact .inr (List.mem_cons_of_mem a after)

theorem memRemoveDots {s : σ} (member : s ∈ removeDots dot dotdot empty segments) : s = empty ∨ s ∈ segments := by
  rcases List.mem_append.mp member with left | last
  · rcases memFold left with none | inside
    · cases none
    · exact .inr inside
  · split at last
    · exact .inl (List.mem_singleton.mp last)
    · cases last

/- A root at the bottom is lost just where the dots lead above it. -/
theorem foldRoot : segments.foldl (step dot dotdot) (root :: stack) =
    if climbs dot dotdot stack.length segments then segments.foldl (step dot dotdot) stack
    else root :: segments.foldl (step dot dotdot) stack := by
  induction segments generalizing stack with
  | nil => rfl
  | cons a rest ih =>
    rw [List.foldl_cons, List.foldl_cons, climbs]
    by_cases up : a = dotdot
    · cases stack with
      | nil => simp [step, up]
      | cons b stack =>
        have shorter : (b :: stack).dropLast.length = stack.length := by simp
        rw [if_pos up, step, step, if_pos up, if_pos up, List.dropLast_cons_cons, ih, shorter]
        rfl
    · by_cases stays : a = dot
      · rw [if_neg up, if_pos stays, step, step, if_neg up, if_neg up, if_pos stays, if_pos stays, ih]
      · have longer : (stack ++ [a]).length = stack.length + 1 := by simp
        rw [if_neg up, if_neg stays, step, step, if_neg up, if_neg up, if_neg stays, if_neg stays,
          List.cons_append, ih, longer]

theorem climbsSnoc (stack : List σ) {segment : σ} (low : climbs dot dotdot stack.length (segments ++ [segment]) = false) :
    climbs dot dotdot stack.length segments = false ∧
      (segment = dotdot → segments.foldl (step dot dotdot) stack ≠ []) := by
  induction segments generalizing stack with
  | nil =>
    refine ⟨rfl, fun up empty => ?_⟩
    rw [List.foldl_nil] at empty
    rw [empty, up] at low
    simp [climbs] at low
  | cons a rest ih =>
    rw [List.cons_append, climbs] at low
    rw [climbs, List.foldl_cons, step]
    by_cases up : a = dotdot
    · rw [if_pos up] at low ⊢
      rw [if_pos up]
      cases stack with
      | nil => cases low
      | cons b stack =>
        have shorter : (b :: stack).dropLast.length = (b :: stack).length - 1 := List.length_dropLast
        have some : ((b :: stack).length == 0) = false := rfl
        rw [some, Bool.false_or] at low ⊢
        rw [← shorter]
        exact ih _ (by rw [shorter]; exact low)
    · rw [if_neg up] at low ⊢
      rw [if_neg up]
      by_cases stays : a = dot
      · rw [if_pos stays] at low ⊢
        rw [if_pos stays]
        exact ih _ low
      · have longer : (stack ++ [a]).length = stack.length + 1 := by simp
        rw [if_neg stays] at low ⊢
        rw [if_neg stays, ← longer]
        exact ih _ (by rw [longer]; exact low)

theorem removeDotsSome (some : segments ≠ []) : removeDots dot dotdot empty segments ≠ [] := by
  rcases List.eq_nil_or_concat' segments with none | ⟨front, last, rfl⟩
  · exact absurd none some
  · rw [removeDotsSnoc, step]
    by_cases up : last = dotdot
    · simp [up]
    · by_cases stays : last = dot
      · simp [stays]
      · simp [up, stays]

theorem foldCount (plain : empty ≠ dot ∧ empty ≠ dotdot) (deeper : stack'.length ≤ stack.length)
    (low : climbs dot dotdot stack'.length (segments.filter (· ≠ empty)) = false) :
    (segments.foldl (step dot dotdot) stack).length + stack'.length =
      ((segments.filter (· ≠ empty)).foldl (step dot dotdot) stack').length + stack.length +
        segments.count empty := by
  induction segments generalizing stack stack' with
  | nil => simp [Nat.add_comm]
  | cons a rest ih =>
    by_cases blank : a = empty
    · subst blank
      have longer : stack'.length ≤ (stack ++ [a]).length := by simp; omega
      rw [List.filter_cons_of_neg (by simp)] at low ⊢
      rw [List.foldl_cons, step, if_neg plain.2, if_neg plain.1, List.count_cons_self]
      have rest := ih longer low
      rw [List.length_append, List.length_singleton] at rest
      omega
    · rw [List.filter_cons_of_pos (by simpa using blank)] at low ⊢
      rw [climbs] at low
      rw [List.foldl_cons, List.foldl_cons, step, step, List.count_cons_of_ne blank]
      by_cases up : a = dotdot
      · rw [if_pos up] at low
        rw [if_pos up, if_pos up]
        cases stack' with
        | nil => cases low
        | cons b stack' =>
          have shorter : (b :: stack').dropLast.length = stack'.length := by simp
          have below : (b :: stack').dropLast.length ≤ stack.dropLast.length := by
            simp only [List.length_dropLast, List.length_cons] at deeper ⊢
            omega
          have rest := ih below (by rw [shorter]; exact low)
          simp only [List.length_dropLast, List.length_cons] at rest deeper ⊢
          omega
      · rw [if_neg up] at low
        rw [if_neg up, if_neg up]
        by_cases stays : a = dot
        · rw [if_pos stays] at low
          rw [if_pos stays, if_pos stays]
          exact ih deeper low
        · have longer : (stack' ++ [a]).length = stack'.length + 1 := by simp
          rw [if_neg stays] at low
          rw [if_neg stays, if_neg stays]
          have further : (stack' ++ [a]).length ≤ (stack ++ [a]).length := by simpa using deeper
          have rest := ih further (by rw [longer]; exact low)
          simp only [List.length_append, List.length_singleton] at rest
          omega

theorem removeDotsCount {segment : σ} (plain : empty ≠ dot ∧ empty ≠ dotdot)
    (low : climbs dot dotdot 0 (segments.filter (· ≠ empty) ++ [segment]) = false) :
    (removeDots dot dotdot empty (segments ++ [segment])).length =
      (removeDots dot dotdot empty (segments.filter (· ≠ empty) ++ [segment])).length + segments.count empty := by
  have rooted : ([] : List σ).length ≤ ([] : List σ).length := Nat.le_refl 0
  obtain ⟨below, up⟩ := climbsSnoc [] low
  have count := foldCount plain rooted below
  simp only [List.length_nil] at count
  rw [removeDotsSnoc, removeDotsSnoc, List.length_append, List.length_append, step, step]
  by_cases ups : segment = dotdot
  · have some := List.length_pos_iff.mpr (up ups)
    rw [if_pos ups, if_pos ups, List.length_dropLast, List.length_dropLast]
    omega
  · rw [if_neg ups, if_neg ups]
    by_cases stays : segment = dot
    · rw [if_pos stays, if_pos stays]
      omega
    · rw [if_neg stays, if_neg stays, List.length_append, List.length_append]
      omega

theorem removeDotsLong {segment : σ} (plain : empty ≠ dot ∧ empty ≠ dotdot)
    (low : climbs dot dotdot 0 (segments.filter (· ≠ empty) ++ [segment]) = false) (blank : empty ∈ segments) :
    1 < (removeDots dot dotdot empty (segments ++ [segment])).length := by
  have some : segments.filter (· ≠ empty) ++ [segment] ≠ [] :=
    List.append_ne_nil_of_right_ne_nil _ (List.cons_ne_nil segment [])
  have least : 0 < (removeDots dot dotdot empty (segments.filter (· ≠ empty) ++ [segment])).length :=
    List.length_pos_iff.mpr (removeDotsSome some)
  have blanks := List.count_pos_iff.mpr blank
  rw [removeDotsCount plain low]
  omega

/- Without its empty segments a path is the same, as long as it stays below the root, only if it
has none. -/
theorem removeDotsBlank {segment : σ} (plain : empty ≠ dot ∧ empty ≠ dotdot)
    (low : climbs dot dotdot 0 (segments.filter (· ≠ empty) ++ [segment]) = false) :
    removeDots dot dotdot empty (segments.filter (· ≠ empty) ++ [segment]) =
      removeDots dot dotdot empty (segments ++ [segment]) ↔ empty ∉ segments := by
  constructor
  · intro same
    have count := removeDotsCount plain low
    rw [same] at count
    exact List.count_eq_zero.mp (by omega)
  · intro none
    rw [List.filter_eq_self.mpr fun s member => by
      simpa using fun same : s = empty => none (same ▸ member)]

theorem climbsPlain {segment : σ} {depth : Nat} (other : segment ≠ dotdot) :
    climbs dot dotdot depth (segments ++ [segment]) = climbs dot dotdot depth segments := by
  induction segments generalizing depth with
  | nil => simp [climbs, other]
  | cons a rest ih => simp only [List.cons_append, climbs, ih]

theorem removeDotsRoot (plain : root ≠ dot ∧ root ≠ dotdot) (some : segments ≠ []) :
    removeDots dot dotdot empty (root :: segments) =
      if climbs dot dotdot 0 segments then removeDots dot dotdot empty segments
      else root :: removeDots dot dotdot empty segments := by
  have first : step dot dotdot [] root = [root] := by rw [step, if_neg plain.2, if_neg plain.1, List.nil_append]
  have last : (root :: segments).getLast? = segments.getLast? := List.getLast?_cons_of_ne_nil some
  have folded : segments.foldl (step dot dotdot) [root] = if climbs dot dotdot 0 segments then
      segments.foldl (step dot dotdot) [] else root :: segments.foldl (step dot dotdot) [] := foldRoot
  rw [removeDots, removeDots, List.foldl_cons, first, last, folded]
  split
  · rfl
  · rfl

theorem removeDotsPlain {segment : σ} (other : segment ≠ dot ∧ segment ≠ dotdot) :
    removeDots dot dotdot empty (segments ++ [segment]) = segments.foldl (step dot dotdot) [] ++ [segment] := by
  have neither : ¬ (segment = dot ∨ segment = dotdot) := fun either => either.elim other.1 other.2
  rw [removeDotsSnoc, step, if_neg other.2, if_neg other.1, if_neg neither, List.append_nil]

def settled (dot dotdot empty segment : σ) : σ := if segment = dot ∨ segment = dotdot then empty else segment

theorem removeDotsEnds (dot dotdot empty : σ) (segments : List σ) (segment : σ) :
    ∃ front, removeDots dot dotdot empty (segments ++ [segment]) = front ++ [settled dot dotdot empty segment] ∧
      ∀ s ∈ front, s ∈ segments := by
  have among : ∀ s ∈ segments.foldl (step dot dotdot) [], s ∈ segments := fun s member =>
    (memFold member).resolve_left List.not_mem_nil
  rw [removeDotsSnoc, step, settled]
  by_cases up : segment = dotdot
  · rw [if_pos up, if_pos (.inr up), if_pos (.inr up)]
    exact ⟨_, rfl, fun s member => among s (List.dropLast_subset _ member)⟩
  · rw [if_neg up]
    by_cases stays : segment = dot
    · rw [if_pos stays, if_pos (.inl stays), if_pos (.inl stays)]
      exact ⟨_, rfl, among⟩
    · have other : ¬ (segment = dot ∨ segment = dotdot) := fun either => either.elim stays up
      rw [if_neg stays, if_neg other, if_neg other, List.append_nil]
      exact ⟨_, rfl, among⟩

end Segments

section Resolve
variable {α β : Type} [DecidableEq α] (m : Marks α)

/- Beside an authority a path is rooted or empty; any other stays. -/
def removeDotSegments (path : List α) : List α :=
  match path with
  | [] => []
  | c :: rest =>
    if c = m.slash then
      c :: List.intercalate [m.slash] (removeDots [m.dot] [m.dot, m.dot] [] (rest.splitOn m.slash))
    else path

def merge (base : Reference α β) (path : List α) : List α :=
  if base.authority.isSome ∧ base.path = [] then m.slash :: path
  else (base.path.reverse.dropWhile fun a => a != m.slash).reverse ++ path

def resolve (base ref : Reference α β) : Reference α β :=
  if ref.scheme.isSome then ⟨ref.scheme, ref.authority, removeDotSegments m ref.path, ref.query⟩
  else if ref.authority.isSome then
    ⟨base.scheme, ref.authority, removeDotSegments m ref.path, ref.query⟩
  else if ref.path = [] then ⟨base.scheme, base.authority, base.path, ref.query.or base.query⟩
  else if ref.path.head? = some m.slash then
    ⟨base.scheme, base.authority, removeDotSegments m ref.path, ref.query⟩
  else ⟨base.scheme, base.authority, removeDotSegments m (merge m base ref.path), ref.query⟩

section Kinds
variable {m} {base ref : Reference α β}

theorem resolveNamed (named : ref.scheme.isSome = true) :
    resolve m base ref = ⟨ref.scheme, ref.authority, removeDotSegments m ref.path, ref.query⟩ := if_pos named

variable (unnamed : ref.scheme = none) (unhosted : ref.authority = none)
include unnamed unhosted

theorem resolveRelative : (resolve m base ref).scheme = base.scheme ∧ (resolve m base ref).authority = base.authority := by
  rw [resolve, unnamed, unhosted]
  simp only [Option.isSome_none, Bool.false_eq_true, if_false]
  split
  · exact ⟨rfl, rfl⟩
  · split
    · exact ⟨rfl, rfl⟩
    · exact ⟨rfl, rfl⟩

theorem resolvePathless (pathless : ref.path = []) :
    resolve m base ref = ⟨base.scheme, base.authority, base.path, ref.query.or base.query⟩ := by
  simp [resolve, unnamed, unhosted, pathless]

theorem resolveRooted (rooted : ref.path.head? = some m.slash) :
    resolve m base ref = ⟨base.scheme, base.authority, removeDotSegments m ref.path, ref.query⟩ := by
  have given : ref.path ≠ [] := fun none => by rw [none] at rooted; cases rooted
  simp [resolve, unnamed, unhosted, given, rooted]

theorem resolveMerged (given : ref.path ≠ []) (relative : ref.path.head? ≠ some m.slash) : resolve m base ref =
    ⟨base.scheme, base.authority, removeDotSegments m (merge m base ref.path), ref.query⟩ := by
  simp [resolve, unnamed, unhosted, given, relative]

end Kinds

/-! Texts of segments. -/

variable {m} {c : α} {xs ys : List (List α)} {text : List α}

omit [DecidableEq α] in
theorem memIntercalate {a : α} (member : a ∈ List.intercalate [c] xs) : a = c ∨ ∃ x ∈ xs, a ∈ x := by
  induction xs with
  | nil => cases member
  | cons x rest ih =>
    cases rest with
    | nil =>
      rw [List.intercalate_singleton] at member
      exact .inr ⟨x, List.mem_cons_self, member⟩
    | cons y rest =>
      rw [List.intercalate_cons_cons, List.mem_append, List.mem_append] at member
      rcases member with (inside | mark) | later
      · exact .inr ⟨x, List.mem_cons_self, inside⟩
      · exact .inl (List.mem_singleton.mp mark)
      · rcases ih later with mark | ⟨z, among, inside⟩
        · exact .inl mark
        · exact .inr ⟨z, List.mem_cons_of_mem x among, inside⟩

theorem memSplitOn {x : List α} (member : x ∈ text.splitOn c) : c ∉ x ∧ ∀ a ∈ x, a ∈ text := by
  induction text generalizing x with
  | nil =>
    rw [List.splitOn_nil, List.mem_singleton] at member
    rw [member]
    exact ⟨List.not_mem_nil, fun _ none => by cases none⟩
  | cons a rest ih =>
    have further : ∀ {y : List α}, y ∈ rest.splitOn c → c ∉ y ∧ ∀ b ∈ y, b ∈ a :: rest := fun inside =>
      ⟨(ih inside).1, fun b among => List.mem_cons_of_mem a ((ih inside).2 b among)⟩
    rw [List.splitOn_cons_eq_if_modifyHead] at member
    by_cases mark : a = c
    · rw [if_pos (by simpa using mark)] at member
      rcases List.mem_cons.mp member with rfl | inside
      · exact ⟨List.not_mem_nil, fun _ none => by cases none⟩
      · exact further inside
    · rw [if_neg (by simpa using mark)] at member
      cases split : rest.splitOn c with
      | nil => exact absurd split (List.splitOn_ne_nil c rest)
      | cons y ys =>
        rw [split, List.modifyHead_cons] at member
        rcases List.mem_cons.mp member with rfl | inside
        · obtain ⟨free, among⟩ := further (split ▸ List.mem_cons_self : y ∈ rest.splitOn c)
          refine ⟨fun inside => ?_, fun b inside => ?_⟩
          · rcases List.mem_cons.mp inside with same | inside
            · exact mark same.symm
            · exact free inside
          · rcases List.mem_cons.mp inside with rfl | inside
            · exact List.mem_cons_self
            · exact among b inside
        · exact further (split ▸ List.mem_cons_of_mem y inside)

theorem intercalateInj (free : ∀ x ∈ xs, c ∉ x) (free' : ∀ y ∈ ys, c ∉ y) (some : xs ≠ []) (some' : ys ≠ [])
    (same : List.intercalate [c] xs = List.intercalate [c] ys) : xs = ys := by
  rw [← List.splitOn_intercalate c free some, same, List.splitOn_intercalate c free' some']

def segments (m : Marks α) (path : List α) : List (List α) := path.splitOn m.slash

theorem removeDotSegmentsRooted (rest : List α) : removeDotSegments m (m.slash :: rest) =
    m.slash :: List.intercalate [m.slash] (removeDots [m.dot] [m.dot, m.dot] [] (rest.splitOn m.slash)) :=
  if_pos rfl

theorem removeDotsFree (segments : List (List α)) (free : ∀ x ∈ segments, c ∉ x) {dot dotdot : List α} :
    ∀ x ∈ removeDots dot dotdot [] segments, c ∉ x := by
  intro x member
  rcases memRemoveDots member with rfl | inside
  · exact List.not_mem_nil
  · exact free x inside

theorem removeDotSegmentsFixed {rest : List α} : removeDotSegments m (m.slash :: rest) = m.slash :: rest ↔
    ∀ s ∈ segments m (m.slash :: rest), s ≠ [m.dot] ∧ s ≠ [m.dot, m.dot] := by
  have plain : ([] : List α) ≠ [m.dot] ∧ ([] : List α) ≠ [m.dot, m.dot] := by simp
  have split : segments m (m.slash :: rest) = [] :: rest.splitOn m.slash := by
    rw [segments, List.splitOn_cons_eq_if_modifyHead, if_pos BEq.rfl]
  have free : ∀ x ∈ rest.splitOn m.slash, m.slash ∉ x := fun x member => (memSplitOn member).1
  have some := List.splitOn_ne_nil m.slash rest
  rw [removeDotSegmentsRooted, split, List.forall_mem_cons, and_iff_right plain, ← removeDotsFixed plain]
  constructor
  · intro same
    refine intercalateInj (removeDotsFree _ free) free (removeDotsSome some) some ?_
    rw [List.intercalate_splitOn]
    exact (List.cons_inj_right m.slash).mp same
  · intro same
    rw [same, List.intercalate_splitOn]

theorem memRemoveDotSegments {a : α} {path : List α} (member : a ∈ removeDotSegments m path) :
    a = m.slash ∨ a ∈ path := by
  cases path with
  | nil => exact .inr member
  | cons b rest =>
    rw [removeDotSegments] at member
    split at member
    · rename_i root
      rcases List.mem_cons.mp member with first | later
      · exact .inl (first.trans root)
      · rcases memIntercalate later with mark | ⟨x, among, inside⟩
        · exact .inl mark
        · rcases memRemoveDots among with rfl | among
          · cases inside
          · exact .inr (List.mem_cons_of_mem b ((memSplitOn among).2 a inside))
    · exact .inr member

theorem memMerge {a : α} {base : Reference α β} {path : List α} (member : a ∈ merge m base path) :
    a = m.slash ∨ a ∈ base.path ∨ a ∈ path := by
  unfold merge at member
  split at member
  · exact (List.mem_cons.mp member).imp_right .inr
  · rcases List.mem_append.mp member with directory | inside
    · exact .inr (.inl (List.mem_reverse.mp ((List.dropWhile_sublist _).subset (List.mem_reverse.mp directory))))
    · exact .inr (.inr inside)

end Resolve

def asciiMarks : Marks Char := ⟨':', '/', '?', '#', '.'⟩

/- Section 5.4: references against `http://a/b/c/d;p?q`. -/
def resolvedText (text : String) : Reference Char (List Char) :=
  resolve asciiMarks (parse asciiMarks id "http://a/b/c/d;p?q".toList) (parse asciiMarks id text.toList)

example : resolvedText "../../../g" = parse asciiMarks id "http://a/g".toList := by decide +kernel
example : resolvedText "g;x=1/../y" = parse asciiMarks id "http://a/b/c/y".toList := by decide +kernel
example : resolvedText "?y#s" = parse asciiMarks id "http://a/b/c/d;p?y".toList := by decide +kernel
example : resolvedText "//g" = parse asciiMarks id "http://g".toList := by decide +kernel

end Uri
end SentinelGpt
