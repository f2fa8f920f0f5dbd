import SentinelGpt.UrlPaths

/-! What `urlsplit` makes of a URI reference, beside its components. -/
namespace SentinelGpt
open UrlSplit UrlJoin

/- The host of an authority, an IP literal in its brackets, and its port. -/
structure Destination where
  host : PyStr
  port : Option Nat
  deriving DecidableEq, Repr

def hostPort (authority : PyStr) : PyStr × PyStr :=
  let info := afterLast 0x40 authority
  let (front, bracket, bracketed) := partition 0x5B info
  if bracket then
    let (inside, _, rest) := partition 0x5D bracketed
    (front ++ 0x5B :: inside ++ [0x5D], (partition 0x3A rest).2.2)
  else
    let (host, _, port) := partition 0x3A info
    (host, port)

def destinationOf (authority : PyStr) : Destination :=
  ⟨(hostPort authority).1,
    if (hostPort authority).2.isEmpty then none else some (JsonScan.digitsValue (hostPort authority).2)⟩

def reference (text : PyStr) : Uri.Reference CodePoint Destination := Uri.parse uriMarks destinationOf text

def isVisible (c : CodePoint) : Bool := 0x21 ≤ c.val && c.val ≤ 0x7E

/- What is read as it is written: nothing is cleaned away, a scheme is a word, and an authority is in
visible ASCII. -/
structure Written (text : PyStr) : Prop where
  clean : cleaned text = text
  scheme : ∀ word, (Uri.cutScheme uriMarks text).1 = some word →
    word.head?.any isAsciiAlpha = true ∧ word.all isSchemeChar = true
  authority : ∀ c ∈ (Uri.cutAuthority uriMarks (Uri.cutScheme uriMarks text).2).1.getD [], isVisible c = true

section Reads
variable {python : Python} {location : PyStr} {parts : SplitResult}

theorem visibleSmall {c : CodePoint} (visible : isVisible c = true) : c.val < 0x80 := by
  simp only [isVisible, Bool.and_eq_true, decide_eq_true_eq] at visible
  omega

theorem schemeSmall {c : CodePoint} (char : isSchemeChar c = true) : c.val < 0x80 := by
  simp only [isSchemeChar, isAsciiAlpha, JsonScan.isDigit, Bool.or_eq_true, Bool.and_eq_true, decide_eq_true_eq,
    beq_iff_eq] at char
  rcases char with (((letter | digit) | rfl) | rfl) | rfl
  · omega
  · omega
  · decide
  · decide
  · decide

theorem schemeCharInside {c : CodePoint} (char : isSchemeChar c = true) :
    (c == uriMarks.colon || Uri.isEnd uriMarks c) = false := by
  revert char
  simp only [isSchemeChar, isAsciiAlpha, JsonScan.isDigit, Uri.isEnd, uriMarks]
  intro char
  simp only [Bool.or_eq_false_iff, beq_eq_false_iff_ne]
  refine ⟨?_, ⟨?_, ?_⟩, ?_⟩ <;> rintro rfl <;> simp at char

theorem splitSchemeWritten (written : Written location) :
    splitScheme python location = ((Uri.cutScheme uriMarks location).1.elim [] python.lower,
      (Uri.cutScheme uriMarks location).2) := by
  have proper := written.scheme
  rcases @Uri.cutSchemeOf _ _ uriMarks location with ⟨word, rest, some, cut, plain, found⟩ | ⟨found, nameless⟩
  · rw [found] at proper ⊢
    obtain ⟨first, chars⟩ := proper word rfl
    have free : (0x3A : CodePoint) ∉ word := fun member => by
      have colon := plain _ member
      revert colon
      decide
    have behind : (word ++ (0x3A : CodePoint) :: rest).dropWhile (fun a => a != 0x3A) = 0x3A :: rest := by
      rw [List.dropWhile_append_of_pos fun a member => bne_iff_ne.mpr fun same : a = 0x3A => free (same ▸ member)]
      rfl
    have contains : (word ++ (0x3A : CodePoint) :: rest).contains 0x3A = true := by simp
    unfold splitScheme partition
    dsimp only
    have colon : uriMarks.colon = 0x3A := rfl
    rw [cut, colon, takeUntil free, contains, first, chars, behind]
    rfl
  · rw [found]
    refine if_neg fun named => ?_
    simp only [Bool.and_eq_true] at named
    obtain ⟨⟨colon, first⟩, chars⟩ := named
    obtain ⟨rest, cut⟩ := splitAtFirst (List.contains_iff_mem.mp colon)
    refine nameless _ rest (fun empty => ?_) cut fun a member => schemeCharInside (List.all_eq_true.mp chars a member)
    rw [empty] at first
    cases first

theorem splitNetlocCut (text : PyStr) : splitNetloc text =
    ((Uri.cutAuthority uriMarks text).1.getD [], (Uri.cutAuthority uriMarks text).2) := by
  unfold splitNetloc Uri.cutAuthority
  have slashes : py "//" = [uriMarks.slash, uriMarks.slash] := rfl
  rw [slashes]
  split
  · rfl
  · rfl

theorem partitionRest (c : CodePoint) (text : PyStr) : (partition c text).2.2 = (Uri.behind c text).getD [] := by
  unfold partition Uri.behind
  split
  · rfl
  · rename_i none
    have all : text.dropWhile (fun a => a != c) = [] :=
      List.dropWhile_eq_nil_iff.mpr fun a member => bne_iff_ne.mpr fun same => none (same ▸ member)
    rw [all]
    rfl

structure ReadAs (python : Python) (location : PyStr) (parts : SplitResult) : Prop where
  scheme : parts.scheme = (reference location).scheme.elim [] python.lower
  netloc : (reference location).authority = (Uri.cutAuthority uriMarks (Uri.cutScheme uriMarks location).2).1.map destinationOf ∧
    parts.netloc = (Uri.cutAuthority uriMarks (Uri.cutScheme uriMarks location).2).1.getD []
  path : parts.path = (reference location).path
  query : parts.query = (reference location).query.getD []

theorem splitWritten (written : Written location) (split : urlsplit python location = .ok parts) :
    ReadAs python location parts := by
  unfold urlsplit at split
  rw [written.clean, splitSchemeWritten written] at split
  dsimp only at split
  rw [splitNetlocCut] at split
  dsimp only at split
  split at split
  · cases split
  · split at split
    · cases split
      exact ⟨rfl, ⟨rfl, rfl⟩, rfl, partitionRest _ _⟩
    · cases split

end Reads
end SentinelGpt
