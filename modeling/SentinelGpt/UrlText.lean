import SentinelGpt.UrlSplit
import Mathlib.Data.List.TakeWhile

/-! What reading a URL does with its punctuation and its digits. -/
namespace SentinelGpt
open UrlSplit

def isPlain (c : CodePoint) : Bool := c.val < 0x80 && !isAsciiAlpha c

/- `str.lower` keeps what is plain and makes none of anything else. -/
structure PlainCase (python : Python) : Prop where
  lower : ∀ s, (python.lower s).filter isPlain = s.filter isPlain

section Counts
variable {python : Python} {p : CodePoint → Bool}

theorem countLower (plain : PlainCase python) (only : ∀ c, p c = true → isPlain c = true) (s : PyStr) :
    (python.lower s).countP p = s.countP p := by
  have inside : ∀ t : PyStr, (t.filter isPlain).countP p = t.countP p := by
    intro t
    rw [List.countP_filter]
    apply List.countP_congr
    intro c _
    simp only [Bool.and_eq_true]
    exact ⟨fun both => both.1, fun holds => ⟨holds, only c holds⟩⟩
  rw [← inside, plain.lower, inside]

theorem countDrop {q : CodePoint → Bool} (other : ∀ c, p c = true → q c = false) (s : PyStr) :
    (s.dropWhile q).countP p = s.countP p := by
  have none : (s.takeWhile q).countP p = 0 := by
    apply List.countP_eq_zero.mpr
    intro c member holds
    have dropped := List.mem_takeWhile_imp member
    rw [other c holds] at dropped
    contradiction
  have whole := congrArg (List.countP p) (List.takeWhile_append_dropWhile (p := q) (l := s))
  rw [List.countP_append, none] at whole
  omega

theorem countStripped {q : CodePoint → Bool} (other : ∀ c, p c = true → q c = false) (s : PyStr) :
    ((s.dropWhile q).reverse.dropWhile q).reverse.countP p = s.countP p := by
  rw [List.countP_reverse, countDrop other, List.countP_reverse, countDrop other]

theorem countStrip (other : ∀ c, p c = true → isSpace c = false) (s : PyStr) :
    (strip s).countP p = s.countP p := countStripped other s

theorem countRstrip {d : CodePoint} (other : p d = false) (s : PyStr) : (rstrip d s).countP p = s.countP p := by
  have differs : ∀ c, p c = true → (c == d) = false := by
    intro c holds
    apply beq_eq_false_iff_ne.mpr
    intro same
    rw [same, other] at holds
    contradiction
  rw [rstrip, List.countP_reverse, countDrop differs, List.countP_reverse]

theorem partitionJoins (c : CodePoint) (s : PyStr) : (partition c s).1 ++
    ((if (partition c s).2.1 then [c] else []) ++ (partition c s).2.2) = s := by
  have whole := List.takeWhile_append_dropWhile (p := (· != c)) (l := s)
  unfold partition
  dsimp only
  cases rest : s.dropWhile (· != c) with
  | nil =>
    have missing : s.contains c = false := by
      have all := List.dropWhile_eq_nil_iff.mp rest
      by_contra here
      have member := List.contains_iff_mem.mp (Bool.eq_true_of_not_eq_false here)
      simpa using all c member
    rw [missing]
    simpa [rest] using whole
  | cons d later =>
    have stopped : d = c := by
      have first := List.head?_dropWhile_not (· != c) s
      rw [rest] at first
      simpa using first
    rw [rest, stopped] at whole
    have here : s.contains c = true := by
      apply List.contains_iff_mem.mpr
      rw [← whole]
      simp
    rw [here]
    exact whole

theorem hostCount (plain : PlainCase python) (only : ∀ c, p c = true → isPlain c = true)
    (parts : SplitResult) : ((parts.hostname python).getD []).countP p = parts.hostinfo.1.countP p := by
  unfold SplitResult.hostname
  dsimp only
  split
  · rename_i empty
    rw [List.isEmpty_iff.mp empty]
    rfl
  · have whole := congrArg (List.countP p) (partitionJoins 0x25 parts.hostinfo.1)
    rw [List.countP_append, List.countP_append] at whole
    rw [Option.getD_some, List.countP_append, List.countP_append, countLower plain only, ← whole, ← Nat.add_assoc]

theorem hostinfoSublist (parts : SplitResult) : parts.hostinfo.1.Sublist parts.netloc := by
  have info : (afterLast 0x40 parts.netloc).Sublist parts.netloc := by
    have front := (List.takeWhile_sublist (· != (0x40 : CodePoint)) (l := parts.netloc.reverse)).reverse
    rwa [List.reverse_reverse] at front
  unfold SplitResult.hostinfo partition
  dsimp only
  split
  · exact (List.takeWhile_sublist _).trans ((List.drop_sublist _ _).trans ((List.dropWhile_sublist _).trans info))
  · exact (List.takeWhile_sublist _).trans info

theorem asciiLowerPlain (c : CodePoint) :
    isPlain (if 0x41 ≤ c.val ∧ c.val ≤ 0x5A then c + 0x20 else c) = isPlain c ∧
      (isPlain c = true → (if 0x41 ≤ c.val ∧ c.val ≤ 0x5A then c + 0x20 else c) = c) := by
  by_cases upper : 0x41 ≤ c.val ∧ c.val ≤ 0x5A
  · have value : (c + 0x20).val = c.val + 0x20 := by
      rw [Fin.val_add]
      simp
      omega
    rw [if_pos upper]
    have letter : isPlain c = false := by simp [isPlain, isAsciiAlpha, upper]
    have lowered : isPlain (c + 0x20) = false := by
      simp only [isPlain, isAsciiAlpha, value]
      simp
      omega
    rw [letter, lowered]
    exact ⟨rfl, fun none => nomatch none⟩
  · rw [if_neg upper]
    exact ⟨rfl, fun _ => rfl⟩

theorem plainOfAscii (lower : ∀ s, python.lower s = asciiCase 0x41 0x5A (fun c => c + 0x20) s) :
    PlainCase python := by
  constructor
  intro s
  rw [lower, asciiCase]
  induction s with
  | nil => rfl
  | cons c rest ih =>
    obtain ⟨same, kept⟩ := asciiLowerPlain c
    rw [List.map_cons, List.filter_cons, List.filter_cons, same, ih]
    cases plain : isPlain c with
    | false => rfl
    | true => rw [kept plain]

end Counts

section Web
variable {python : Python} {scheme rest : PyStr}

def isKept (c : CodePoint) : Bool := !(c == 0x09 || c == 0x0D || c == 0x0A)

def IsWeb (scheme : PyStr) : Prop := scheme = py "http" ∨ scheme = py "https"

def queryText (query : PyStr) : PyStr := if query.isEmpty then [] else 0x3F :: query

def webUrl (scheme rest : PyStr) : PyStr := scheme ++ (py "://" ++ rest)

theorem cleanedWeb (web : IsWeb scheme) : cleaned (webUrl scheme rest) = webUrl scheme (rest.filter isKept) := by
  have front : ((scheme ++ py "://") ++ rest).dropWhile (fun c => decide (c.val ≤ 0x20)) = (scheme ++ py "://") ++ rest := by
    rcases web with rfl | rfl <;> exact List.dropWhile_cons_of_neg (by decide)
  have kept : (scheme ++ py "://").filter isKept = scheme ++ py "://" := by
    rcases web with rfl | rfl <;> decide
  rw [webUrl, ← List.append_assoc, cleaned, front]
  change ((scheme ++ py "://") ++ rest).filter isKept = _
  rw [List.filter_append, kept, List.append_assoc]
  rfl

theorem splitSchemeWeb (web : IsWeb scheme) :
    splitScheme python (webUrl scheme rest) = (python.lower scheme, py "//" ++ rest) := by
  have free : (0x3A : CodePoint) ∉ scheme := by rcases web with rfl | rfl <;> decide
  have front : (webUrl scheme rest).takeWhile (· != 0x3A) = scheme := takeUntil free
  have letters : (scheme.head?.any isAsciiAlpha && scheme.all isSchemeChar) = true := by
    rcases web with rfl | rfl <;> decide
  have here : (webUrl scheme rest).contains 0x3A = true :=
    List.contains_iff_mem.mpr (List.mem_append_right _ (List.mem_cons_self))
  have whole := List.takeWhile_append_dropWhile (p := (· != (0x3A : CodePoint))) (l := webUrl scheme rest)
  rw [front] at whole
  have behind : (webUrl scheme rest).dropWhile (· != 0x3A) = py "://" ++ rest := List.append_cancel_left whole
  unfold splitScheme partition
  dsimp only
  rw [here, front, Bool.true_and, if_pos letters, behind]
  rfl

theorem urlsplitWeb (web : IsWeb scheme) {text netloc tail : PyStr} (kept : rest.filter isKept = text)
    (front : text.takeWhile (fun c => !isNetlocEnd c) = netloc)
    (behind : text.dropWhile (fun c => !isNetlocEnd c) = tail) :
    urlsplit python (webUrl scheme rest) =
      if checkBrackets netloc && checkNetloc python netloc then
        .ok ⟨python.lower scheme, netloc, (partition 0x3F (partition 0x23 tail).1).1,
          (partition 0x3F (partition 0x23 tail).1).2.2, (partition 0x23 tail).2.2⟩
      else .error .valueError := by
  have cut : splitNetloc (py "//" ++ text) = (netloc, tail) := by
    have slashes : (py "//").isPrefixOf (py "//" ++ text) = true := List.isPrefixOf_iff_prefix.mpr (List.prefix_append _ _)
    rw [splitNetloc, if_pos slashes, ← front, ← behind]
    rfl
  unfold urlsplit
  rw [cleanedWeb web, splitSchemeWeb web, kept]
  dsimp only
  rw [cut]
  dsimp only
  cases checkBrackets netloc <;> rfl

theorem stripWeb (web : IsWeb scheme) (netloc more : PyStr) :
    strip (webUrl scheme (netloc ++ 0x2F :: more)) =
      webUrl scheme (netloc ++ 0x2F :: (more.reverse.dropWhile isSpace).reverse) := by
  have front : ((scheme ++ py "://") ++ netloc).dropWhile isSpace = (scheme ++ py "://") ++ netloc := by
    rcases web with rfl | rfl <;> exact List.dropWhile_cons_of_neg (by decide)
  have around := stripAround (n := (scheme ++ py "://") ++ netloc) (c := 0x2F) (v := more) (by decide)
  rw [front] at around
  simpa only [webUrl, List.append_assoc] using around

end Web
end SentinelGpt
