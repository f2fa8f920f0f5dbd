import SentinelGpt.HttpEngine
import Mathlib.Data.List.Infix

/-! The two readings of a cookie's attributes: the flags that are rendered of it, and those that it is
reported to lack. -/
namespace SentinelGpt
open HttpAnalysis Fingerprinting

section Words
variable {α : Type} {w s : List α}

theorem prefixStops {p : α → Bool} (all : ∀ a ∈ w, p a = true) : w <+: s ↔ w <+: s.takeWhile p := by
  constructor
  · intro start
    obtain ⟨rest, rfl⟩ := start
    rw [List.takeWhile_append_of_pos all]
    exact List.prefix_append _ _
  · intro start
    exact start.trans (List.takeWhile_prefix p)

theorem infixDropWhile {p : α → Bool} (some : w ≠ []) (free : ∀ a ∈ w, p a = false) :
    w <:+: s ↔ w <:+: s.dropWhile p := by
  induction s with
  | nil => rfl
  | cons a rest ih =>
    cases blank : p a with
    | false => rw [List.dropWhile_cons_of_neg (by rw [blank]; exact Bool.false_ne_true)]
    | true =>
      rw [List.dropWhile_cons_of_pos blank, ← ih, List.infix_cons_iff]
      apply or_iff_right
      intro start
      cases w with
      | nil => exact some rfl
      | cons b w =>
        have first := free b List.mem_cons_self
        rw [(List.cons_prefix_cons.mp start).1, blank] at first
        cases first

end Words

theorem occursInfix {part text : PyStr} : occurs part text = true ↔ part <:+: text := by
  induction text with
  | nil =>
    rw [List.infix_nil]
    cases part with
    | nil => exact ⟨fun _ => rfl, fun _ => rfl⟩
    | cons a part => exact ⟨fun found => absurd found Bool.false_ne_true, fun none => absurd none (List.cons_ne_nil a part)⟩
  | cons a rest ih =>
    rw [List.infix_cons_iff, ← ih, ← List.isPrefixOf_iff_prefix]
    unfold occurs
    rw [search]
    cases part.isPrefixOf (a :: rest) with
    | true => exact ⟨fun _ => .inl rfl, fun _ => rfl⟩
    | false => exact ⟨.inr, fun either => either.resolve_left Bool.false_ne_true⟩

theorem infixStrip {w s : PyStr} (some : w ≠ []) (free : ∀ c ∈ w, isSpace c = false) : w <:+: s ↔ w <:+: strip s := by
  have some' : w.reverse ≠ [] := fun none => some (List.reverse_eq_nil_iff.mp none)
  have free' : ∀ c ∈ w.reverse, isSpace c = false := fun c inside => free c (List.mem_reverse.mp inside)
  rw [infixDropWhile some free, ← List.reverse_infix, infixDropWhile some' free', ← List.reverse_infix,
    List.reverse_reverse]
  rfl

theorem splitOnSome (c : CodePoint) (s : PyStr) : splitOn c s ≠ [] := by
  cases s with
  | nil => exact List.cons_ne_nil _ _
  | cons a rest =>
    rw [splitOn]
    split
    · exact List.cons_ne_nil _ _
    · split
      · exact List.cons_ne_nil _ _
      · exact List.cons_ne_nil _ _

theorem infixSplitOn {w s : PyStr} {c : CodePoint} (free : c ∉ w) :
    w <:+: s ↔ ∃ part ∈ splitOn c s, w <:+: part := by
  have letters : ∀ a ∈ w, (a != c) = true := fun a inside => bne_iff_ne.mpr fun same => free (same ▸ inside)
  induction s with
  | nil =>
    rw [splitOn]
    simp only [List.mem_singleton, exists_eq_left]
  | cons a rest ih =>
    apply (List.infix_cons_iff.trans (or_congr (prefixStops letters) ih)).trans
    rw [splitOn]
    split
    · rename_i here
      rw [here, List.takeWhile_cons_of_neg (by simp), List.exists_mem_cons_iff, List.prefix_nil, List.infix_nil]
    · rename_i other
      have head := splitHead (c := c) (s := rest)
      have first : (a :: rest).takeWhile (· != c) = a :: rest.takeWhile (· != c) :=
        List.takeWhile_cons_of_pos (bne_iff_ne.mpr other)
      rw [first, ← head]
      cases parts : splitOn c rest with
      | nil => exact absurd parts (splitOnSome c rest)
      | cons part others =>
        simp only [List.exists_mem_cons_iff, List.headD_cons]
        rw [List.infix_cons_iff, or_assoc]

/- `str.lower` keeps the places where a text is cut and the blanks around it. -/
structure CutCase (python : Python) : Prop where
  empty : python.lower [] = []
  cut : ∀ s, splitOn 0x3B (python.lower s) = (splitOn 0x3B s).map python.lower
  strip : ∀ s, SentinelGpt.strip (python.lower s) = python.lower (SentinelGpt.strip s)

def attributesOf (python : Python) (cookie : PyStr) : List PyStr :=
  (splitOn 0x3B (partition 0x3B cookie).2.2).map fun token => python.lower (strip token)

def samesitesOf (python : Python) (cookie : PyStr) : List PyStr :=
  ((attributesOf python cookie).filter (py "samesite=").isPrefixOf).map afterEquals

/- A flag's name is in an attribute only where an attribute is that name. -/
def FlagExact (python : Python) (flag cookie : PyStr) : Prop :=
  ∀ attr ∈ attributesOf python cookie, flag <:+: attr → flag ∈ attributesOf python cookie

def SamesiteClear (python : Python) (cookie : PyStr) : Prop :=
  ∀ first ∈ (samesitesOf python cookie).head?, ∀ last ∈ (samesitesOf python cookie).getLast?,
    (first ∈ samesiteValues ↔ strip last ∈ samesiteValues)

structure Unequivocal (python : Python) (cookie : PyStr) : Prop where
  secure : FlagExact python (py "secure") cookie
  httponly : FlagExact python (py "httponly") cookie
  samesite : SamesiteClear python cookie

def shownFlags (python : Python) (cookie : PyStr) : List PyStr :=
  let lowered := python.lower (partition 0x3B cookie).2.2
  (if occurs (py "secure") lowered then [py "Secure"] else []) ++
    (if occurs (py "httponly") lowered then [py "HttpOnly"] else []) ++ [py "SameSite=" ++ redactedSamesite lowered]

structure FlagsAgree (python : Python) (cookie : PyStr) : Prop where
  secure : py "Secure" ∈ shownFlags python cookie ↔ lacks python (py "secure") cookie = false
  httponly : py "HttpOnly" ∈ shownFlags python cookie ↔ lacks python (py "httponly") cookie = false
  samesite : (∃ value ∈ samesiteValues, py "SameSite=" ++ value ∈ shownFlags python cookie) ↔
    samesiteIssue python cookie = none

section Readings
variable {python : Python} {cookie : PyStr}

theorem redactedFlags : ∃ name, redactCookieValue python cookie =
    name ++ py " [<value-redacted>] (" ++ join (py ", ") (shownFlags python cookie) ++ py ")" := ⟨_, rfl⟩

variable (words : CutCase python)
include words

theorem flagShown {flag : PyStr} (some : flag ≠ []) (whole : (0x3B : CodePoint) ∉ flag)
    (visible : flag.all (fun c => !isSpace c) = true) :
    occurs flag (python.lower (partition 0x3B cookie).2.2) = true ↔
      ∃ attr ∈ attributesOf python cookie, flag <:+: attr := by
  rw [occursInfix, infixSplitOn whole, words.cut, attributesOf]
  simp only [List.mem_map, exists_exists_and_eq_and]
  apply exists_congr
  intro token
  apply and_congr_right
  intro _
  have letters : ∀ c ∈ flag, isSpace c = false := fun c inside =>
    (Bool.not_eq_true' _).mp (List.all_eq_true.mp visible c inside)
  rw [infixStrip some letters, words.strip]

theorem flagListed {flag : PyStr} (some : flag ≠ []) :
    lacks python flag cookie = false ↔ flag ∈ attributesOf python cookie := by
  rw [lacks, Bool.not_eq_false', List.contains_iff_mem, cookieFlags, attributesOf, List.mem_map, List.mem_map]
  apply exists_congr
  intro token
  rw [List.mem_filter, Bool.not_eq_true', and_assoc]
  apply and_congr_right
  intro _
  apply and_iff_right_of_imp
  intro same
  rw [List.isEmpty_eq_false_iff]
  intro blank
  rw [blank, words.empty] at same
  exact some same.symm

theorem samesiteShown : redactedSamesite (python.lower (partition 0x3B cookie).2.2) =
    match (samesitesOf python cookie).getLast? with
    | none => py "unspecified"
    | some last => if samesiteValues.contains (strip last) then strip last else py "invalid" := by
  have tokens : (splitOn 0x3B (python.lower (partition 0x3B cookie).2.2)).map strip = attributesOf python cookie := by
    rw [words.cut, attributesOf, List.map_map]
    exact List.map_congr_left fun token _ => words.strip token
  rw [samesitesOf, ← tokens, redactedSamesite]
  induction splitOn 0x3B (python.lower (partition 0x3B cookie).2.2) using List.reverseRecOn with
  | nil => rfl
  | append_singleton tokens token ih =>
    rw [List.foldl_append, ih, List.foldl_cons, List.foldl_nil, List.map_append, List.filter_append, List.map_append]
    cases named : (py "samesite=").isPrefixOf (strip token) with
    | true =>
      have only : ([token].map strip).filter (py "samesite=").isPrefixOf = [strip token] := List.filter_cons_of_pos named
      rw [only, List.map_singleton, List.getLast?_concat, if_pos rfl]
    | false =>
      have none : ([token].map strip).filter (py "samesite=").isPrefixOf = [] :=
        List.filter_cons_of_neg (by rw [named]; exact Bool.false_ne_true)
      rw [none, List.map_nil, List.append_nil, if_neg Bool.false_ne_true]

theorem samesiteReported : samesiteIssue python cookie = none ↔
    ∃ first ∈ (samesitesOf python cookie).head?, first ∈ samesiteValues := by
  have flags : (cookieFlags python cookie).filter (py "samesite=").isPrefixOf =
      (attributesOf python cookie).filter (py "samesite=").isPrefixOf := by
    rw [cookieFlags, attributesOf, List.filter_map, List.filter_map, List.filter_filter]
    apply congrArg
    apply List.filter_congr
    intro token _
    cases blank : (strip token).isEmpty with
    | false => exact Bool.and_true _
    | true =>
      rw [Function.comp, List.isEmpty_iff.mp blank, words.empty]
      rfl
  rw [samesiteIssue, flags, ← samesitesOf]
  cases samesitesOf python cookie with
  | nil => exact ⟨fun same => absurd same (Option.some_ne_none _), fun found => by simp at found⟩
  | cons first others =>
    simp only [List.head?_cons, Option.mem_def, Option.some.injEq, exists_eq_left']
    rw [← List.contains_iff_mem]
    cases samesiteValues.contains first with
    | true => exact ⟨fun _ => rfl, fun _ => rfl⟩
    | false => exact ⟨fun same => absurd same (Option.some_ne_none _), fun same => absurd same Bool.false_ne_true⟩

end Readings

section Agreement
variable {python : Python} {cookie : PyStr}

theorem flagsMember {secure httponly : Bool} {flag samesite : PyStr} :
    flag ∈ (if secure then [py "Secure"] else []) ++ (if httponly then [py "HttpOnly"] else []) ++ [samesite] ↔
      secure = true ∧ flag = py "Secure" ∨ httponly = true ∧ flag = py "HttpOnly" ∨ flag = samesite := by
  cases secure <;> cases httponly <;> simp

theorem samesiteOther {flag value : PyStr} (letter : flag[1]? ≠ some 0x61) : flag ≠ py "SameSite=" ++ value := by
  intro same
  rw [same] at letter
  exact letter rfl

theorem secureListed : py "Secure" ∈ shownFlags python cookie ↔
    occurs (py "secure") (python.lower (partition 0x3B cookie).2.2) = true := by
  have httponly : py "Secure" ≠ py "HttpOnly" := by decide
  have samesite := fun value => @samesiteOther (py "Secure") value (by decide)
  rw [shownFlags, flagsMember]
  constructor
  · intro listed
    rcases listed with secure | other | other
    · exact secure.1
    · exact absurd other.2 httponly
    · exact absurd other (samesite _)
  · exact fun found => .inl ⟨found, rfl⟩

theorem httponlyListed : py "HttpOnly" ∈ shownFlags python cookie ↔
    occurs (py "httponly") (python.lower (partition 0x3B cookie).2.2) = true := by
  have secure : py "HttpOnly" ≠ py "Secure" := by decide
  have samesite := fun value => @samesiteOther (py "HttpOnly") value (by decide)
  rw [shownFlags, flagsMember]
  constructor
  · intro listed
    rcases listed with other | httponly | other
    · exact absurd other.2 secure
    · exact httponly.1
    · exact absurd other (samesite _)
  · exact fun found => .inr (.inl ⟨found, rfl⟩)

theorem samesiteListed {value : PyStr} : py "SameSite=" ++ value ∈ shownFlags python cookie ↔
    value = redactedSamesite (python.lower (partition 0x3B cookie).2.2) := by
  rw [shownFlags, flagsMember]
  constructor
  · intro listed
    rcases listed with other | other | same
    · exact absurd other.2.symm (samesiteOther (by decide))
    · exact absurd other.2.symm (samesiteOther (by decide))
    · exact List.append_cancel_left same
  · exact fun same => .inr (.inr (congrArg (py "SameSite=" ++ ·) same))

theorem flagAgrees {flag : PyStr} {shown : Prop}
    (shownIff : shown ↔ ∃ attr ∈ attributesOf python cookie, flag <:+: attr) :
    (shown ↔ flag ∈ attributesOf python cookie) ↔ FlagExact python flag cookie := by
  rw [shownIff]
  constructor
  · intro same attr inside found
    exact same.mp ⟨attr, inside, found⟩
  · intro only
    constructor
    · intro found
      obtain ⟨attr, inside, found⟩ := found
      exact only attr inside found
    · intro inside
      exact ⟨flag, inside, List.infix_rfl⟩

variable (words : CutCase python)
include words

theorem samesiteKnown : (∃ value ∈ samesiteValues, py "SameSite=" ++ value ∈ shownFlags python cookie) ↔
    ∃ last ∈ (samesitesOf python cookie).getLast?, strip last ∈ samesiteValues := by
  have shown : (∃ value ∈ samesiteValues, py "SameSite=" ++ value ∈ shownFlags python cookie) ↔
      redactedSamesite (python.lower (partition 0x3B cookie).2.2) ∈ samesiteValues := by
    simp only [samesiteListed, exists_eq_right]
  rw [shown, samesiteShown words]
  cases (samesitesOf python cookie).getLast? with
  | none =>
    simp only [Option.mem_def, reduceCtorEq, false_and, exists_false, iff_false]
    decide
  | some last =>
    simp only [Option.mem_def, Option.some.injEq, exists_eq_left']
    split
    · rfl
    · rename_i unknown
      rw [List.contains_iff_mem] at unknown
      exact ⟨fun known => absurd known (by decide), fun known => absurd known unknown⟩

theorem samesiteAgrees : ((∃ value ∈ samesiteValues, py "SameSite=" ++ value ∈ shownFlags python cookie) ↔
    samesiteIssue python cookie = none) ↔ SamesiteClear python cookie := by
  rw [samesiteKnown words, samesiteReported words, SamesiteClear]
  cases samesitesOf python cookie with
  | nil => simp
  | cons first others =>
    obtain ⟨last, ends⟩ : ∃ last, (first :: others).getLast? = some last := ⟨_, List.getLast?_cons⟩
    rw [ends, List.head?_cons]
    simp only [Option.mem_def, Option.some.injEq, exists_eq_left', forall_eq']
    exact Iff.comm

theorem flagsAgreeUnequivocal : FlagsAgree python cookie ↔ Unequivocal python cookie := by
  have secure :=
    secureListed.trans (@flagShown _ cookie words (py "secure") (by decide) (by decide) (by decide +kernel))
  have httponly :=
    httponlyListed.trans (@flagShown _ cookie words (py "httponly") (by decide) (by decide) (by decide +kernel))
  have secureLacking := @flagListed _ cookie words (py "secure") (by decide)
  have httponlyLacking := @flagListed _ cookie words (py "httponly") (by decide)
  constructor
  · intro agrees
    constructor
    · exact (flagAgrees secure).mp (agrees.secure.trans secureLacking)
    · exact (flagAgrees httponly).mp (agrees.httponly.trans httponlyLacking)
    · exact (samesiteAgrees words).mp agrees.samesite
  · intro clear
    constructor
    · exact ((flagAgrees secure).mpr clear.secure).trans secureLacking.symm
    · exact ((flagAgrees httponly).mpr clear.httponly).trans httponlyLacking.symm
    · exact (samesiteAgrees words).mpr clear.samesite

end Agreement

/- The flags rendered of a header agree with what it is reported to lack exactly where the names of the
flags stand for the flags only and the SameSite values do not contradict each other. -/
theorem renderedAgrees {python : Python} (words : CutCase python) (cookie : PyStr) :
    (∃ name, redactCookieValue python cookie =
      name ++ py " [<value-redacted>] (" ++ join (py ", ") (shownFlags python cookie) ++ py ")") ∧
    (FlagsAgree python cookie ↔ Unequivocal python cookie) :=
  ⟨redactedFlags, flagsAgreeUnequivocal words⟩

instance (python : Python) (cookie : PyStr) : Decidable (FlagsAgree python cookie) :=
  decidable_of_iff ((py "Secure" ∈ shownFlags python cookie ↔ lacks python (py "secure") cookie = false) ∧
    (py "HttpOnly" ∈ shownFlags python cookie ↔ lacks python (py "httponly") cookie = false) ∧
    ((∃ value ∈ samesiteValues, py "SameSite=" ++ value ∈ shownFlags python cookie) ↔
      samesiteIssue python cookie = none))
    ⟨fun all => ⟨all.1, all.2.1, all.2.2⟩, fun agrees => ⟨agrees.secure, agrees.httponly, agrees.samesite⟩⟩

instance (python : Python) (flag cookie : PyStr) : Decidable (FlagExact python flag cookie) :=
  inferInstanceAs (Decidable (∀ attr ∈ attributesOf python cookie, _ → _))

section Ascii
variable {shift : CodePoint → CodePoint}

theorem splitOnMap {c : CodePoint} (kept : ∀ a, shift a = c ↔ a = c) (s : PyStr) :
    splitOn c (s.map shift) = (splitOn c s).map (List.map shift) := by
  induction s with
  | nil => rfl
  | cons a rest ih =>
    rw [List.map_cons, splitOn, splitOn, ih]
    by_cases cut : a = c
    · rw [if_pos cut, if_pos ((kept a).mpr cut), List.map_cons, List.map_nil]
    · rw [if_neg cut, if_neg fun same => cut ((kept a).mp same)]
      cases splitOn c rest with
      | nil => rfl
      | cons part parts => rfl

theorem stripMap (kept : ∀ a, isSpace (shift a) = isSpace a) (s : PyStr) : strip (s.map shift) = (strip s).map shift := by
  have blanks : isSpace ∘ shift = isSpace := funext kept
  rw [strip, strip, List.dropWhile_map, blanks, ← List.map_reverse, List.dropWhile_map, blanks, List.map_reverse]

end Ascii

theorem letterVisible {c : CodePoint} (letter : 0x41 ≤ c.val ∧ c.val ≤ 0x7A) : isSpace c = false ∧ c ≠ 0x3B := by
  constructor
  · simp only [isSpace, Bool.or_eq_false_iff, Bool.and_eq_false_iff, decide_eq_false_iff_not, beq_eq_false_iff_ne]
    omega
  · intro cut
    rw [cut] at letter
    exact absurd letter.1 (by decide)

theorem letterKept (c : CodePoint) : ((if 0x41 ≤ c.val ∧ c.val ≤ 0x5A then c + 0x20 else c) = 0x3B ↔ c = 0x3B) ∧
    isSpace (if 0x41 ≤ c.val ∧ c.val ≤ 0x5A then c + 0x20 else c) = isSpace c := by
  split
  · rename_i capital
    have small : (c + 0x20).val = c.val + 0x20 := by
      rw [Fin.val_add, Nat.mod_eq_of_lt (by omega)]
      rfl
    obtain ⟨visible, other⟩ := @letterVisible c (by omega)
    obtain ⟨visible', other'⟩ := @letterVisible (c + 0x20) (by omega)
    exact ⟨⟨fun same => absurd same other', fun same => absurd same other⟩, visible'.trans visible.symm⟩
  · exact ⟨Iff.rfl, rfl⟩

theorem asciiCut (digests : List (PyStr × String)) : CutCase (Python.onAscii digests) where
  empty := rfl
  cut := splitOnMap fun c => (letterKept c).1
  strip := stripMap fun c => (letterKept c).2

theorem plainHeaderAgrees : FlagsAgree (Python.onAscii []) (py "id=1; Path=/; SECURE ;HttpOnly; SameSite=Lax") := by
  have values : samesitesOf (Python.onAscii []) (py "id=1; Path=/; SECURE ;HttpOnly; SameSite=Lax") = [py "lax"] := by
    decide +kernel
  apply (renderedAgrees (asciiCut []) _).2.mpr
  constructor
  · decide +kernel
  · decide +kernel
  · intro first isFirst last isLast
    rw [values] at isFirst isLast
    cases isFirst
    cases isLast
    decide +kernel

/- A path is rendered as the flag that the header is reported to lack. -/
theorem pathTakenForFlag : ¬ FlagsAgree (Python.onAscii []) (py "id=1; Path=/secure; HttpOnly; SameSite=Lax") := by
  decide +kernel

end SentinelGpt
