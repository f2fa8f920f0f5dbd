import SentinelGpt.UriReference
import SentinelGpt.UrlJoin
import SentinelGpt.UrlText

/-! The paths of `urljoin`, segment by segment. -/
namespace SentinelGpt
namespace UrlJoin

def uriMarks : Uri.Marks CodePoint := ⟨0x3A, 0x2F, 0x3F, 0x23, 0x2E⟩

abbrev withoutDots (segments : List PyStr) : List PyStr := Uri.removeDots (py ".") (py "..") [] segments

abbrev climbing (segments : List PyStr) : Bool := Uri.climbs (py ".") (py "..") 0 segments

/- The text of a directory, and with a last segment that of a path. -/
def folder (segments : List PyStr) : PyStr := segments.flatMap fun s => s ++ [0x2F]

theorem blankPlain : ([] : PyStr) ≠ py "." ∧ ([] : PyStr) ≠ py ".." := by decide

theorem resolveIs (segments : List PyStr) : resolveSegments segments = withoutDots segments := rfl

theorem splitOnIs (c : CodePoint) (text : PyStr) : splitOn c text = text.splitOn c := by
  induction text with
  | nil => rfl
  | cons a rest ih =>
    rw [splitOn, ih, List.splitOn_cons_eq_if_modifyHead]
    by_cases mark : a = c
    · rw [if_pos mark, if_pos (by simpa using mark)]
    · rw [if_neg mark, if_neg (by simpa using mark)]
      cases split : rest.splitOn c with
      | nil => exact absurd split (List.splitOn_ne_nil c rest)
      | cons y ys => rfl

theorem joinFolder (front : List PyStr) (last : PyStr) : join (py "/") (front ++ [last]) = folder front ++ last := by
  induction front with
  | nil => exact List.intercalate_singleton
  | cons first front ih =>
    have more : front ++ [last] ≠ [] := List.append_ne_nil_of_right_ne_nil front (List.cons_ne_nil last [])
    have slash : py "/" = [0x2F] := rfl
    rw [join] at ih
    rw [List.cons_append, join, List.intercalate_cons_of_ne_nil more, ih, slash, folder, folder, List.flatMap_cons,
      List.append_assoc, List.append_assoc, List.append_assoc]

theorem afterFolder {last : PyStr} (front : List PyStr) (free : 0x2F ∉ last) : afterLast 0x2F (folder front ++ last) = last := by
  rcases List.eq_nil_or_concat' front with rfl | ⟨others, segment, rfl⟩
  · exact afterLastWhole free
  · have cut : folder (others ++ [segment]) ++ last = (folder others ++ segment) ++ 0x2F :: last := by
      rw [folder, List.flatMap_append, List.flatMap_singleton]
      simp only [folder, List.append_assoc]
      rfl
    rw [cut]
    exact afterLastOf _ free

structure InSegments (path : PyStr) (front : List PyStr) (last : PyStr) : Prop where
  text : path = folder front ++ last
  free : ∀ s ∈ front, 0x2F ∉ s
  lastFree : 0x2F ∉ last

theorem segmentsOfText (path : PyStr) : ∃ front last, InSegments path front last := by
  rcases List.eq_nil_or_concat' (path.splitOn 0x2F) with none | ⟨front, last, split⟩
  · exact absurd none (List.splitOn_ne_nil _ _)
  · have free : ∀ s ∈ front ++ [last], (0x2F : CodePoint) ∉ s := fun s member => (Uri.memSplitOn (split ▸ member)).1
    refine ⟨front, last, ?_, fun s member => free s (List.mem_append_left _ member), free last (by simp)⟩
    have whole : List.intercalate [0x2F] (path.splitOn 0x2F) = path := List.intercalate_splitOn _
    rw [split] at whole
    rw [← whole]
    exact joinFolder front last

section InSegments
variable {path : PyStr} {front : List PyStr} {last : PyStr} (is : InSegments path front last)
include is

theorem InSegments.split : splitOn 0x2F path = front ++ [last] := by
  have free : ∀ s ∈ front ++ [last], (0x2F : CodePoint) ∉ s := by
    intro s member
    rcases List.mem_append.mp member with inside | now
    · exact is.free s inside
    · rw [List.mem_singleton.mp now]
      exact is.lastFree
  have joined := joinFolder front last
  rw [splitOnIs, is.text, ← joined]
  exact List.splitOn_intercalate _ free (List.append_ne_nil_of_right_ne_nil front (List.cons_ne_nil last []))

theorem InSegments.afterLast : afterLast 0x2F path = last := by
  rw [is.text]
  exact afterFolder front is.lastFree

theorem InSegments.params : splitParams path = (folder front ++ (partition 0x3B last).1, (partition 0x3B last).2.2) := by
  have taken : (folder front ++ last).take ((folder front ++ last).length - last.length) = folder front := by
    rw [List.length_append, Nat.add_sub_cancel, List.take_left]
  unfold splitParams
  rw [is.afterLast, is.text]
  dsimp only
  rw [taken]

end InSegments

/-! The parameters of a last segment: cut off, and put back behind what is made of the rest. -/

def nameOf (segment : PyStr) : PyStr := (partition 0x3B segment).1
def paramsOf (segment : PyStr) : PyStr := (partition 0x3B segment).2.2

/- A sign for parameters has some behind it. -/
def Filled (segment : PyStr) : Prop := 0x3B ∈ segment → paramsOf segment ≠ []

/- What is in front of parameters is not taken for dots. -/
def Undotted (segment : PyStr) : Prop := 0x3B ∈ segment → nameOf segment ≠ py "." ∧ nameOf segment ≠ py ".."

def paramsText (params : PyStr) : PyStr := withParams [] params

theorem withParamsIs (text params : PyStr) : withParams text params = text ++ paramsText params := by
  unfold paramsText withParams
  split
  · rw [List.append_nil]
  · rfl

theorem partedText (segment : PyStr) :
    (0x3B ∉ segment ∧ nameOf segment = segment ∧ paramsOf segment = []) ∨
      0x3B ∈ segment ∧ segment = nameOf segment ++ 0x3B :: paramsOf segment := by
  have whole := partitionJoins 0x3B segment
  by_cases parted : (0x3B : CodePoint) ∈ segment
  · have found : (partition 0x3B segment).2.1 = true := List.contains_iff_mem.mpr parted
    rw [found] at whole
    exact .inr ⟨parted, whole.symm⟩
  · have kept : ∀ c ∈ segment, (c != 0x3B) = true := fun c member => bne_iff_ne.mpr fun same => parted (same ▸ member)
    refine .inl ⟨parted, List.takeWhile_eq_self_iff.mpr kept, ?_⟩
    rw [paramsOf, partition, List.dropWhile_eq_nil_iff.mpr kept, List.drop_nil]

theorem filledIff {segment : PyStr} : nameOf segment ++ paramsText (paramsOf segment) = segment ↔ Filled segment := by
  rcases partedText segment with ⟨free, name, params⟩ | ⟨parted, text⟩
  · rw [name, params]
    exact iff_of_true (List.append_nil segment) fun parted => absurd parted free
  · unfold Filled paramsText withParams
    rw [forall_prop_of_true parted]
    cases params : paramsOf segment with
    | nil =>
      refine iff_of_false (fun same => ?_) (fun some => some rfl)
      have lengths := congrArg List.length (same.trans text)
      simp [params] at lengths
    | cons c rest => exact iff_of_true (params ▸ text).symm (List.cons_ne_nil c rest)

theorem partedPlain {segment : PyStr} (parted : 0x3B ∈ segment) : segment ≠ py "." ∧ segment ≠ py ".." := by
  constructor
  · rintro rfl
    revert parted
    decide
  · rintro rfl
    revert parted
    decide

section Last
variable {segment : PyStr} {segments : List PyStr}

def settled (segment : PyStr) : PyStr := Uri.settled (py ".") (py "..") [] segment

theorem settledEnds (segments : List PyStr) (segment : PyStr) :
    ∃ front, withoutDots (segments ++ [segment]) = front ++ [settled segment] ∧ ∀ s ∈ front, s ∈ segments :=
  Uri.removeDotsEnds _ _ _ segments segment

theorem settledFree (free : 0x2F ∉ segment) : 0x2F ∉ settled segment := by
  unfold settled Uri.settled
  split
  · exact List.not_mem_nil
  · exact free

theorem lastKept : settled (nameOf segment) ++ paramsText (paramsOf segment) = settled segment ↔
    Filled segment ∧ Undotted segment := by
  rcases partedText segment with ⟨free, name, params⟩ | ⟨parted, text⟩
  · rw [name, params]
    exact iff_of_true (List.append_nil _) ⟨fun parted => absurd parted free, fun parted => absurd parted free⟩
  · have whole : settled segment = segment :=
      if_neg fun either => either.elim (partedPlain parted).1 (partedPlain parted).2
    rw [whole]
    by_cases dots : nameOf segment = py "." ∨ nameOf segment = py ".."
    · have gone : settled (nameOf segment) = [] := if_pos dots
      rw [gone]
      refine iff_of_false (fun same => ?_) fun both => dots.elim (both.2 parted).1 (both.2 parted).2
      have lengths := congrArg List.length (same.trans text)
      have some : 0 < (nameOf segment).length := by rcases dots with is | is <;> rw [is] <;> decide
      have short : (paramsText (paramsOf segment)).length ≤ (paramsOf segment).length + 1 := by
        unfold paramsText withParams
        split
        · exact Nat.zero_le _
        · exact Nat.le_refl _
      simp only [List.nil_append, List.length_append, List.length_cons] at lengths
      omega
    · have stays : settled (nameOf segment) = nameOf segment := if_neg dots
      have undotted : Undotted segment := fun _ => not_or.mp dots
      rw [stays, filledIff, and_iff_left undotted]

theorem endsAlike (segments : List PyStr) (filled : Filled segment) (undotted : Undotted segment) :
    ∃ front, withoutDots (segments ++ [nameOf segment]) = front ++ [settled (nameOf segment)] ∧
      withoutDots (segments ++ [segment]) = front ++ [settled (nameOf segment) ++ paramsText (paramsOf segment)] ∧
      climbing (segments ++ [nameOf segment]) = climbing (segments ++ [segment]) ∧
      ∀ s ∈ front, s ∈ segments := by
  rw [lastKept.mpr ⟨filled, undotted⟩]
  rcases partedText segment with ⟨-, name, -⟩ | ⟨parted, -⟩
  · rw [name]
    obtain ⟨front, ends, among⟩ := settledEnds segments segment
    exact ⟨front, ends, ends, rfl, among⟩
  · obtain ⟨front, ends, among⟩ := settledEnds segments segment
    refine ⟨front, ?_, ends, ?_, among⟩
    · have plain : withoutDots (segments ++ [nameOf segment]) =
          segments.foldl (Uri.step (py ".") (py "..")) [] ++ [nameOf segment] := Uri.removeDotsPlain (undotted parted)
      have other : withoutDots (segments ++ [segment]) =
          segments.foldl (Uri.step (py ".") (py "..")) [] ++ [segment] := Uri.removeDotsPlain (partedPlain parted)
      rw [other] at ends
      have same := (List.append_inj' ends rfl).1
      have stays : settled (nameOf segment) = nameOf segment :=
        if_neg fun either => either.elim (undotted parted).1 (undotted parted).2
      rw [plain, same, stays]
    · rw [climbing, climbing, Uri.climbsPlain (undotted parted).2, Uri.climbsPlain (partedPlain parted).2]

end Last

/-! What is joined, beside what the dots are removed from. -/

def joinedText (segments : List PyStr) (name : PyStr) : PyStr :=
  let joined := join (py "/") (withoutDots ([] :: segments ++ [name]))
  if joined.isEmpty then py "/" else joined

def rootedText (segments : List PyStr) : PyStr := 0x2F :: join (py "/") (withoutDots segments)

/- `urlunsplit` sets two slashes before a path that begins with two. -/
def unsplit (path : PyStr) : PyStr := if (py "//").isPrefixOf path then py "//" ++ path else path

def startsRooted (path : PyStr) : Prop := ∃ rest, path = 0x2F :: rest
def startsTwice (path : PyStr) : Prop := ∃ rest, path = 0x2F :: 0x2F :: rest

theorem startsTwiceIff {path : PyStr} : (py "//").isPrefixOf path = true ↔ startsTwice path := by
  rw [List.isPrefixOf_iff_prefix]
  exact ⟨fun ⟨rest, whole⟩ => ⟨rest, whole.symm⟩, fun ⟨rest, whole⟩ => ⟨rest, whole.symm⟩⟩

theorem unsplitTwice {path : PyStr} (twice : startsTwice path) : unsplit path = 0x2F :: 0x2F :: path := if_pos (startsTwiceIff.mpr twice)

theorem unsplitOnce {path : PyStr} (once : ¬ startsTwice path) : unsplit path = path :=
  if_neg fun twice => once (startsTwiceIff.mp twice)

theorem unsplitRooted {path : PyStr} (rooted : startsRooted (unsplit path)) : startsRooted path := by
  by_cases twice : startsTwice path
  · obtain ⟨rest, whole⟩ := twice
    exact ⟨_, whole⟩
  · rwa [unsplitOnce twice] at rooted

theorem folderRoot (front : List PyStr) (last : PyStr) :
    join (py "/") ([] :: (front ++ [last])) = 0x2F :: (folder front ++ last) := by
  rw [← List.cons_append, joinFolder]
  rfl

section Joined
variable {segments : List PyStr} {last : PyStr}

/- Where the dots lead above the root, it is lost, and set anew only before nothing. -/
theorem joinedIs (segments : List PyStr) (filled : Filled last) (undotted : Undotted last) :
    (joinedText segments (nameOf last) ++ paramsText (paramsOf last) = rootedText (segments ++ [last]) ∧
      (climbing (segments ++ [last]) = true → ∃ h, withoutDots (segments ++ [last]) = [h])) ∨
    rootedText (segments ++ [last]) = 0x2F :: (joinedText segments (nameOf last) ++ paramsText (paramsOf last)) := by
  obtain ⟨front, ends, whole, climbs, -⟩ := endsAlike segments filled undotted
  have some : segments ++ [nameOf last] ≠ [] := List.append_ne_nil_of_right_ne_nil segments (List.cons_ne_nil _ [])
  have root : withoutDots ([] :: (segments ++ [nameOf last])) = if climbing (segments ++ [nameOf last]) then
      withoutDots (segments ++ [nameOf last]) else [] :: withoutDots (segments ++ [nameOf last]) :=
    Uri.removeDotsRoot blankPlain some
  unfold joinedText rootedText
  rw [List.cons_append, root, climbs, ends, whole]
  cases climbing (segments ++ [last]) with
  | true =>
    rw [if_pos rfl, joinFolder, joinFolder]
    by_cases nothing : (folder front ++ settled (nameOf last)).isEmpty = true
    · obtain ⟨directory, name⟩ := List.append_eq_nil_iff.mp (List.isEmpty_iff.mp nothing)
      have empty : front = [] := by
        cases front with
        | nil => rfl
        | cons first front => cases first <;> cases directory
      rw [if_pos nothing, directory, name, empty]
      exact .inl ⟨rfl, fun _ => ⟨_, rfl⟩⟩
    · rw [if_neg nothing, List.append_assoc]
      exact .inr rfl
  | false =>
    have some : ¬ (0x2F :: (folder front ++ settled (nameOf last)) : PyStr).isEmpty = true := Bool.false_ne_true
    rw [if_neg Bool.false_ne_true, folderRoot, if_neg some, joinFolder, List.cons_append, List.append_assoc]
    exact .inl ⟨rfl, fun other => by cases other⟩

theorem joinedLast {name params : PyStr} (free : 0x2F ∉ name) (paramsFree : 0x2F ∉ params) :
    afterLast 0x2F (joinedText segments name ++ params) = settled name ++ params := by
  have cut : ∃ front, joinedText segments name = folder front ++ settled name := by
    obtain ⟨front, ends, -⟩ := settledEnds ([] :: segments) name
    unfold joinedText
    rw [ends, joinFolder]
    dsimp only
    split
    · rename_i nothing
      have name := (List.append_eq_nil_iff.mp (List.isEmpty_iff.mp nothing)).2
      refine ⟨[[]], ?_⟩
      rw [name]
      rfl
    · exact ⟨front, rfl⟩
  obtain ⟨front, text⟩ := cut
  rw [text, List.append_assoc]
  refine afterFolder front fun inside => ?_
  rcases List.mem_append.mp inside with left | right
  · exact settledFree free left
  · exact paramsFree right

theorem rootedLast (free : 0x2F ∉ last) : afterLast 0x2F (rootedText (segments ++ [last])) = settled last := by
  obtain ⟨front, ends, -⟩ := settledEnds segments last
  rw [rootedText, ends, joinFolder]
  exact afterFolder ([] :: front) (settledFree free)

theorem partsFree (free : 0x2F ∉ last) : 0x2F ∉ nameOf last ∧ 0x2F ∉ paramsText (paramsOf last) := by
  refine ⟨fun inside => free ((List.takeWhile_sublist _).subset inside), ?_⟩
  rcases partedText last with ⟨-, -, params⟩ | ⟨-, text⟩
  · rw [params]
    exact List.not_mem_nil
  · unfold paramsText withParams
    split
    · exact List.not_mem_nil
    · intro inside
      exact free (by rw [text]; exact List.mem_append_right _ inside)

theorem unsplitLast (path : PyStr) : afterLast 0x2F (unsplit path) = afterLast 0x2F path := by
  by_cases twice : startsTwice path
  · obtain ⟨front, last, is⟩ := segmentsOfText path
    rw [unsplitTwice twice, is.afterLast, is.text]
    exact afterFolder ([] :: [] :: front) is.lastFree
  · rw [unsplitOnce twice]

theorem lastAlike {others : List PyStr} (free : 0x2F ∉ last)
    (same : unsplit (joinedText segments (nameOf last) ++ paramsText (paramsOf last)) = rootedText (others ++ [last])) :
    Filled last ∧ Undotted last := by
  have ends := congrArg (afterLast 0x2F) same
  rw [unsplitLast, joinedLast (partsFree free).1 (partsFree free).2, rootedLast free] at ends
  exact lastKept.mp ends

/- A rooted path is joined as its dots are removed unless it comes to begin with two slashes. -/
theorem rootedJoined (free : 0x2F ∉ last)
    (rooted : startsRooted (unsplit (joinedText segments (nameOf last) ++ paramsText (paramsOf last)))) :
    unsplit (joinedText segments (nameOf last) ++ paramsText (paramsOf last)) = rootedText (segments ++ [last]) ↔
      Filled last ∧ Undotted last ∧ ¬ startsTwice (rootedText (segments ++ [last])) := by
  obtain ⟨rest, starts⟩ := unsplitRooted rooted
  constructor
  · intro same
    obtain ⟨filled, undotted⟩ := lastAlike free same
    refine ⟨filled, undotted, fun twice => ?_⟩
    rcases joinedIs segments filled undotted with ⟨joined, -⟩ | joined
    · rw [joined, unsplitTwice twice] at same
      have lengths := congrArg List.length same
      simp only [List.length_cons] at lengths
      omega
    · have lengths := congrArg List.length (same.trans joined)
      unfold unsplit at lengths
      split at lengths
      · have slashes : (py "//").length = 2 := rfl
        simp only [List.length_append, List.length_cons, slashes] at lengths
        omega
      · simp only [List.length_cons] at lengths
        omega
  · rintro ⟨filled, undotted, once⟩
    rcases joinedIs segments filled undotted with ⟨joined, -⟩ | joined
    · rw [joined, unsplitOnce once]
    · rw [starts] at joined
      exact absurd ⟨rest, joined⟩ once

theorem rootedInj {others : List PyStr} (free : ∀ s ∈ segments, 0x2F ∉ s) (othersFree : ∀ s ∈ others, 0x2F ∉ s)
    (some : segments ≠ []) (othersSome : others ≠ []) : rootedText segments = rootedText others ↔
      withoutDots segments = withoutDots others := by
  refine ⟨fun same => ?_, fun same => by rw [rootedText, same, rootedText]⟩
  exact Uri.intercalateInj (Uri.removeDotsFree segments free) (Uri.removeDotsFree others othersFree)
    (Uri.removeDotsSome some) (Uri.removeDotsSome othersSome) (List.cons.inj same).2

theorem singleSettled {h : PyStr} (single : withoutDots (segments ++ [last]) = [h]) : h = settled last := by
  obtain ⟨front, ends, -⟩ := settledEnds segments last
  rw [ends] at single
  cases front with
  | nil => exact (List.cons.inj single).1.symm
  | cons first front =>
    have lengths := congrArg List.length single
    simp at lengths

theorem rootedSingle (lastFree : 0x2F ∉ last) :
    (∃ name, rootedText (segments ++ [last]) = 0x2F :: name ∧ 0x2F ∉ name) ↔
      withoutDots (segments ++ [last]) = [settled last] := by
  obtain ⟨front, ends, -⟩ := settledEnds segments last
  unfold rootedText
  rw [ends, joinFolder]
  constructor
  · rintro ⟨name, text, nameless⟩
    cases front with
    | nil => rfl
    | cons first front =>
      refine absurd ?_ nameless
      rw [← (List.cons.inj text).2, folder, List.flatMap_cons]
      simp
  · intro single
    have empty : front = [] := List.append_left_eq_self.mp single
    rw [empty]
    exact ⟨_, rfl, settledFree lastFree⟩

theorem filledOnce (free : ∀ s ∈ segments, 0x2F ∉ s) (some : ∀ s ∈ segments, s ≠ []) (lastFree : 0x2F ∉ last) :
    ¬ startsTwice (rootedText (segments ++ [last])) := by
  obtain ⟨front, ends, among⟩ := settledEnds segments last
  rintro ⟨rest, twice⟩
  rw [rootedText, ends, joinFolder] at twice
  have second := (List.cons.inj twice).2
  cases front with
  | nil =>
    have name : settled last = 0x2F :: rest := second
    exact settledFree lastFree (by rw [name]; exact List.mem_cons_self)
  | cons first front =>
    have member := among first List.mem_cons_self
    cases letters : first with
    | nil => exact some first member letters
    | cons c letters' =>
      rw [letters] at second
      have slash : c = 0x2F := (List.cons.inj second).1
      exact free first member (by rw [letters, slash]; exact List.mem_cons_self)

/- A merged path is joined without its empty segments, which shows unless the dots take away all that
is in front of the last one. -/
theorem filledJoined (free : ∀ s ∈ segments, 0x2F ∉ s) (lastFree : 0x2F ∉ last) (filled : Filled last)
    (undotted : Undotted last)
    (rooted : startsRooted (unsplit (joinedText (segments.filter (· ≠ [])) (nameOf last) ++ paramsText (paramsOf last)))) :
    unsplit (joinedText (segments.filter (· ≠ [])) (nameOf last) ++ paramsText (paramsOf last)) =
        rootedText (segments ++ [last]) ↔
      [] ∉ segments ∨ ∃ name, rootedText (segments ++ [last]) = 0x2F :: name ∧ 0x2F ∉ name := by
  obtain ⟨rest, starts⟩ := unsplitRooted rooted
  have someFree : ∀ s ∈ segments.filter (· ≠ []), 0x2F ∉ s := fun s member => free s (List.mem_of_mem_filter member)
  have once := filledOnce someFree (fun s member => by simpa using List.of_mem_filter member) lastFree
  have ends : ∀ (front : List PyStr), front ++ [last] ≠ [] := fun front =>
    List.append_ne_nil_of_right_ne_nil front (List.cons_ne_nil last [])
  have allFree : ∀ {front : List PyStr}, (∀ s ∈ front, 0x2F ∉ s) → ∀ s ∈ front ++ [last], 0x2F ∉ s := by
    intro front fronts s member
    rcases List.mem_append.mp member with inside | now
    · exact fronts s inside
    · rw [List.mem_singleton.mp now]
      exact lastFree
  rw [rootedSingle lastFree]
  rcases joinedIs (segments.filter (· ≠ [])) filled undotted with ⟨joined, climbed⟩ | joined
  · rw [joined, unsplitOnce once, rootedInj (allFree someFree) (allFree free) (ends _) (ends _)]
    cases climbs : climbing (segments.filter (· ≠ []) ++ [last]) with
    | false =>
      rw [Uri.removeDotsBlank blankPlain climbs]
      refine ⟨.inl, fun either => either.elim id fun single blank => ?_⟩
      have long : 1 < (withoutDots (segments ++ [last])).length := Uri.removeDotsLong blankPlain climbs blank
      rw [single, List.length_singleton] at long
      exact absurd long (Nat.lt_irrefl 1)
    | true =>
      obtain ⟨h, single⟩ := climbed climbs
      rw [singleSettled single] at single
      rw [single]
      refine ⟨fun same => .inr same.symm, fun either => either.elim (fun none => ?_) Eq.symm⟩
      rw [← single, List.filter_eq_self.mpr fun s member => by
        simpa using fun same : s = [] => none (same ▸ member)]
  · rw [starts] at joined
    exact absurd ⟨rest, joined⟩ once

theorem mergedJoined (free : ∀ s ∈ segments, 0x2F ∉ s) (lastFree : 0x2F ∉ last)
    (rooted : startsRooted (unsplit (joinedText (segments.filter (· ≠ [])) (nameOf last) ++ paramsText (paramsOf last)))) :
    unsplit (joinedText (segments.filter (· ≠ [])) (nameOf last) ++ paramsText (paramsOf last)) =
        rootedText (segments ++ [last]) ↔
      Filled last ∧ Undotted last ∧
        ([] ∉ segments ∨ ∃ name, rootedText (segments ++ [last]) = 0x2F :: name ∧ 0x2F ∉ name) := by
  constructor
  · intro same
    obtain ⟨filled, undotted⟩ := lastAlike lastFree same
    exact ⟨filled, undotted, (filledJoined free lastFree filled undotted rooted).mp same⟩
  · rintro ⟨filled, undotted, others⟩
    exact (filledJoined free lastFree filled undotted rooted).mpr others

end Joined

/-! The paths of a base and of a reference. -/

section Paths
variable {base path : PyStr} {dirs front : List PyStr} {file last : PyStr}

theorem InSegments.named (is : InSegments path front last) : InSegments (splitParams path).1 front (nameOf last) := by
  rw [is.params]
  exact ⟨rfl, is.free, (partsFree is.lastFree).1⟩

theorem rootedHead (is : InSegments path front last) : startsRooted path ↔ ∃ others, front = [] :: others := by
  rw [is.text]
  constructor
  · rintro ⟨rest, rooted⟩
    cases front with
    | nil =>
      refine absurd ?_ is.lastFree
      have text : last = 0x2F :: rest := rooted
      rw [text]
      exact List.mem_cons_self
    | cons first others =>
      cases first with
      | nil => exact ⟨others, rfl⟩
      | cons c letters =>
        have slash : c = 0x2F := (List.cons.inj rooted).1
        refine absurd ?_ (is.free (c :: letters) List.mem_cons_self)
        rw [slash]
        exact List.mem_cons_self
  · rintro ⟨others, rfl⟩
    exact ⟨_, rfl⟩

theorem headRooted : path.head? = some 0x2F ↔ startsRooted path := by
  cases path with
  | nil => exact ⟨nofun, fun ⟨_, rooted⟩ => nomatch rooted⟩
  | cons c rest =>
    rw [List.head?_cons, Option.some.injEq]
    exact ⟨fun slash => ⟨rest, by rw [slash]⟩, fun ⟨_, rooted⟩ => (List.cons.inj rooted).1⟩

theorem joinedRooted (is : InSegments path ([] :: front) last) :
    joinedPath base (splitParams path).1 = joinedText front (nameOf last) := by
  have rooted := headRooted.mpr ((rootedHead is.named).mpr ⟨front, rfl⟩)
  unfold joinedPath segmentsOf
  rw [if_pos rooted, is.named.split, resolveIs]
  rfl

theorem filterInnerEnds (first last : PyStr) (inner : List PyStr) :
    filterInner (first :: (inner ++ [last])) = first :: (inner.filter (· ≠ []) ++ [last]) := by
  have kept : (fun s : PyStr => !s.isEmpty) = fun s => decide (s ≠ []) := by
    funext s
    cases s with
    | nil => rfl
    | cons c rest => rfl
  rw [filterInner, List.dropLast_concat, List.getLast?_concat, kept]
  rfl

theorem joinedMerged (within : InSegments base ([] :: dirs) file) (is : InSegments path front last)
    (relative : ¬ startsRooted path) : joinedPath (splitParams base).1 (splitParams path).1 =
      joinedText ((dirs ++ front).filter (· ≠ [])) (nameOf last) := by
  have relative : ¬ (splitParams path).1.head? = some 0x2F := fun rooted =>
    relative ((rootedHead is).mpr ((rootedHead is.named).mp (headRooted.mp rooted)))
  have segments : filterInner (directoryOf (splitParams base).1 ++ (front ++ [nameOf last])) =
      [] :: ((dirs ++ front).filter (· ≠ []) ++ [nameOf last]) := by
    unfold directoryOf
    dsimp only
    rw [within.named.split, List.getLast?_concat, List.dropLast_concat]
    split
    · rename_i empty
      rw [Option.some.inj empty, List.cons_append, List.cons_append, ← List.append_assoc, filterInnerEnds]
      simp
    · rw [List.cons_append, ← List.append_assoc, filterInnerEnds]
  unfold joinedPath segmentsOf
  rw [if_neg relative, is.named.split, segments, resolveIs]
  rfl

theorem removedRooted (is : InSegments path ([] :: front) last) :
    Uri.removeDotSegments uriMarks path = rootedText (front ++ [last]) := by
  have text : path = 0x2F :: (folder front ++ last) := is.text
  have rest : InSegments (folder front ++ last) front last :=
    ⟨rfl, fun s member => is.free s (List.mem_cons_of_mem _ member), is.lastFree⟩
  have split := rest.split
  rw [splitOnIs] at split
  have removed := Uri.removeDotSegmentsRooted (m := uriMarks) (folder front ++ last)
  rw [text]
  refine removed.trans ?_
  have slash : uriMarks.slash = 0x2F := rfl
  rw [slash, split]
  rfl

theorem directoryText (within : InSegments base dirs file) :
    (base.reverse.dropWhile fun a => a != 0x2F).reverse = folder dirs := by
  have dropped : ∀ a ∈ file.reverse, (a != 0x2F) = true := fun a member =>
    bne_iff_ne.mpr fun same => within.lastFree (same ▸ List.mem_reverse.mp member)
  rw [within.text, List.reverse_append, List.dropWhile_append_of_pos dropped]
  rcases List.eq_nil_or_concat' dirs with rfl | ⟨others, segment, rfl⟩
  · rfl
  · rw [folder, List.flatMap_append, List.flatMap_singleton, List.reverse_append, List.reverse_append]
    simp

theorem mergedText {url : Uri.Reference CodePoint β} (within : InSegments url.path ([] :: dirs) file)
    (is : InSegments path front last) :
    InSegments (Uri.merge uriMarks url path) ([] :: (dirs ++ front)) last := by
  have some : ¬ (url.authority.isSome = true ∧ url.path = []) := by
    rintro ⟨-, empty⟩
    have text := within.text
    rw [empty] at text
    cases text
  refine ⟨?_, ?_, is.lastFree⟩
  · have slash : uriMarks.slash = 0x2F := rfl
    rw [Uri.merge, if_neg some, slash, directoryText within, is.text, folder, folder, folder]
    simp
  · intro s member
    rcases List.mem_cons.mp member with rfl | member
    · exact List.not_mem_nil
    · rcases List.mem_append.mp member with directory | inside
      · exact within.free s (List.mem_cons_of_mem _ directory)
      · exact is.free s inside

end Paths

def joinedWith (base path : PyStr) : PyStr := withParams (joinedPath (splitParams base).1 (splitParams path).1) (splitParams path).2

section Joins
variable {base path : PyStr}

theorem joinedWithRooted (rootedPath : startsRooted path) (rooted : startsRooted (unsplit (joinedWith base path))) :
    unsplit (joinedWith base path) = Uri.removeDotSegments uriMarks path ↔
      Filled (afterLast 0x2F path) ∧ Undotted (afterLast 0x2F path) ∧
        ¬ startsTwice (Uri.removeDotSegments uriMarks path) := by
  obtain ⟨front, last, is⟩ := segmentsOfText path
  obtain ⟨others, rfl⟩ := (rootedHead is).mp rootedPath
  have joined : joinedWith base path = joinedText others (nameOf last) ++ paramsText (paramsOf last) := by
    rw [joinedWith, joinedRooted is, is.params]
    exact withParamsIs _ _
  rw [joined] at rooted ⊢
  rw [is.afterLast, removedRooted is]
  exact rootedJoined is.lastFree rooted

theorem joinedWithMerged {url : Uri.Reference CodePoint β} (rootedBase : startsRooted url.path) (relative : ¬ startsRooted path)
    (rooted : startsRooted (unsplit (joinedWith url.path path))) :
    unsplit (joinedWith url.path path) = Uri.removeDotSegments uriMarks (Uri.merge uriMarks url path) ↔
      Filled (afterLast 0x2F path) ∧ Undotted (afterLast 0x2F path) ∧
        ([] ∉ ((splitOn 0x2F (Uri.merge uriMarks url path)).drop 1).dropLast ∨
          ∃ name, Uri.removeDotSegments uriMarks (Uri.merge uriMarks url path) = 0x2F :: name ∧ 0x2F ∉ name) := by
  obtain ⟨dirs, file, within⟩ := segmentsOfText url.path
  obtain ⟨dirs, rfl⟩ := (rootedHead within).mp rootedBase
  obtain ⟨front, last, is⟩ := segmentsOfText path
  have merged := mergedText within is
  have joined : joinedWith url.path path =
      joinedText ((dirs ++ front).filter (· ≠ [])) (nameOf last) ++ paramsText (paramsOf last) := by
    rw [joinedWith, joinedMerged within is relative, is.params]
    exact withParamsIs _ _
  have inner : ((splitOn 0x2F (Uri.merge uriMarks url path)).drop 1).dropLast = dirs ++ front := by
    rw [merged.split]
    exact List.dropLast_concat
  rw [joined] at rooted ⊢
  rw [is.afterLast, removedRooted merged, inner]
  exact mergedJoined (fun s member => merged.free s (List.mem_cons_of_mem _ member)) is.lastFree rooted

theorem baseKept : withParams (splitParams base).1 (splitParams base).2 = base ↔ Filled (afterLast 0x2F base) := by
  obtain ⟨front, last, is⟩ := segmentsOfText base
  rw [is.afterLast, is.params, withParamsIs, ← filledIff]
  constructor
  · intro same
    rw [List.append_assoc] at same
    exact List.append_cancel_left (same.trans is.text)
  · intro same
    rw [List.append_assoc]
    exact (congrArg (folder front ++ ·) same).trans is.text.symm

theorem unnamedPath (name : (splitParams path).1 = []) (params : (splitParams path).2 = []) : path = [] ∨ path = [0x3B] := by
  obtain ⟨front, last, is⟩ := segmentsOfText path
  rw [is.params] at name params
  obtain ⟨directory, name⟩ := List.append_eq_nil_iff.mp name
  have text := is.text
  rw [directory, List.nil_append] at text
  rw [text]
  rcases partedText last with ⟨-, same, -⟩ | ⟨-, same⟩
  · exact .inl (same.symm.trans name)
  · have nameless : nameOf last = [] := name
    have unparted : paramsOf last = [] := params
    rw [nameless, unparted] at same
    exact .inr same

theorem neverBare (segment : PyStr) : nameOf segment ++ paramsText (paramsOf segment) ≠ [0x3B] := by
  rcases partedText segment with ⟨free, name, params⟩ | ⟨parted, text⟩
  · rw [name, params]
    intro same
    have whole : segment = [0x3B] := (List.append_nil segment).symm.trans same
    exact free (by rw [whole]; exact List.mem_singleton.mpr rfl)
  · intro same
    have nameFree : (0x3B : CodePoint) ∉ nameOf segment := fun inside => by simpa using List.mem_takeWhile_imp inside
    cases name : nameOf segment with
    | nil =>
      rw [name, List.nil_append] at same
      cases params : paramsOf segment with
      | nil =>
        rw [params] at same
        cases same
      | cons c rest =>
        rw [params] at same
        cases same
    | cons c rest =>
      rw [name] at same nameFree
      have sign : c = 0x3B := (List.cons.inj same).1
      exact nameFree (by rw [sign]; exact List.mem_cons_self)

theorem baseParted {url : Uri.Reference CodePoint β} (rootedBase : startsRooted url.path) :
    unsplit (withParams (splitParams url.path).1 (splitParams url.path).2) ≠
      Uri.removeDotSegments uriMarks (Uri.merge uriMarks url [0x3B]) := by
  obtain ⟨dirs, file, within⟩ := segmentsOfText url.path
  obtain ⟨dirs, rfl⟩ := (rootedHead within).mp rootedBase
  have bare : InSegments [0x3B] [] [0x3B] := ⟨rfl, fun s none => absurd none List.not_mem_nil, by decide⟩
  intro same
  have ends := congrArg (afterLast 0x2F) same
  have file : afterLast 0x2F (unsplit (withParams (splitParams url.path).1 (splitParams url.path).2)) =
      nameOf file ++ paramsText (paramsOf file) := by
    rw [unsplitLast, within.params, withParamsIs, List.append_assoc]
    refine afterFolder _ fun inside => ?_
    exact (List.mem_append.mp inside).elim (partsFree within.lastFree).1 (partsFree within.lastFree).2
  rw [file, removedRooted (mergedText within bare), rootedLast (by decide)] at ends
  exact neverBare _ ends

end Joins

section Characters
variable {base path : PyStr} {c : CodePoint}

theorem memWithParams {text params : PyStr} (member : c ∈ withParams text params) : c = 0x3B ∨ c ∈ text ∨ c ∈ params := by
  unfold withParams at member
  split at member
  · exact .inr (.inl member)
  · rcases List.mem_append.mp member with inside | later
    · exact .inr (.inl inside)
    · exact (List.mem_cons.mp later).imp_right .inr

theorem memSplitParams : (c ∈ (splitParams path).1 → c ∈ path) ∧ (c ∈ (splitParams path).2 → c ∈ path) := by
  obtain ⟨front, last, is⟩ := segmentsOfText path
  rw [is.params]
  constructor
  · intro member
    rw [is.text]
    rcases List.mem_append.mp member with directory | name
    · exact List.mem_append_left _ directory
    · exact List.mem_append_right _ ((List.takeWhile_sublist _).subset name)
  · intro member
    rw [is.text]
    exact List.mem_append_right _ ((List.dropWhile_sublist _).subset (List.mem_of_mem_drop member))

theorem memFilterInner {segments : List PyStr} {s : PyStr} (member : s ∈ filterInner segments) : s ∈ segments := by
  cases segments with
  | nil => cases member
  | cons first rest =>
    rw [filterInner, List.cons_append] at member
    rcases List.mem_cons.mp member with now | member
    · exact now ▸ List.mem_cons_self
    · rcases List.mem_append.mp member with inner | last
      · exact List.mem_cons_of_mem _ (List.dropLast_subset _ (List.mem_of_mem_filter inner))
      · exact List.mem_cons_of_mem _ (List.mem_of_getLast? (Option.mem_toList.mp last))

theorem memSegmentsOf {s : PyStr} (member : s ∈ segmentsOf base path) (inside : c ∈ s) : c ∈ base ∨ c ∈ path := by
  have among : ∀ {text : PyStr}, s ∈ splitOn 0x2F text → c ∈ text := fun part => by
    rw [splitOnIs] at part
    exact (Uri.memSplitOn part).2 c inside
  unfold segmentsOf at member
  split at member
  · exact .inr (among member)
  · rcases List.mem_append.mp (memFilterInner member) with directory | part
    · refine .inl (among ?_)
      unfold directoryOf at directory
      dsimp only at directory
      split at directory
      · exact directory
      · exact List.dropLast_subset _ directory
    · exact .inr (among part)

theorem memJoinedPath (member : c ∈ joinedPath base path) : c = 0x2F ∨ c ∈ base ∨ c ∈ path := by
  have joined : c ∈ py "/" → c = 0x2F := List.mem_singleton.mp
  unfold joinedPath at member
  dsimp only at member
  split at member
  · exact .inl (joined member)
  · rcases Uri.memIntercalate (c := 0x2F) member with slash | ⟨s, part, inside⟩
    · exact .inl slash
    · rcases Uri.memRemoveDots part with rfl | segment
      · cases inside
      · exact .inr (memSegmentsOf segment inside)

theorem memJoinedWith (member : c ∈ joinedWith base path) : c = 0x2F ∨ c = 0x3B ∨ c ∈ base ∨ c ∈ path := by
  rcases memWithParams member with sign | joined | params
  · exact .inr (.inl sign)
  · rcases memJoinedPath joined with slash | text | text
    · exact .inl slash
    · exact .inr (.inr (.inl (memSplitParams.1 text)))
    · exact .inr (.inr (.inr (memSplitParams.1 text)))
  · exact .inr (.inr (.inr (memSplitParams.2 params)))

theorem memUnsplit (member : c ∈ unsplit path) : c = 0x2F ∨ c ∈ path := by
  unfold unsplit at member
  split at member
  · rcases List.mem_append.mp member with slashes | inside
    · exact .inl (by simpa [py, codePoint] using slashes)
    · exact .inr inside
  · exact .inr member

end Characters

end UrlJoin
end SentinelGpt
