import SentinelGpt.IpAddress

/-! The texts of numbers, and what is read back from them. -/
namespace SentinelGpt
open JsonScan

section Joined
variable {c : CodePoint}

theorem splitOnIs (c : CodePoint) (s : PyStr) : splitOn c s = s.splitOn c := by
  induction s with
  | nil => rfl
  | cons a rest ih =>
    rw [List.splitOn_cons_eq_if_modifyHead, ← ih, splitOn]
    by_cases same : a = c
    · rw [if_pos same, if_pos (beq_iff_eq.mpr same)]
    · rw [if_neg same, if_neg fun equal => same (beq_iff_eq.mp equal)]
      cases parts : splitOn c rest with
      | nil => exact absurd (ih.symm.trans parts) (List.splitOn_ne_nil c rest)
      | cons part parts => rfl

theorem splitJoin {parts : List PyStr} (free : ∀ part ∈ parts, c ∉ part) (some : parts ≠ []) :
    splitOn c (join [c] parts) = parts := by
  rw [splitOnIs]
  exact List.splitOn_intercalate c free some

theorem joinSplit (s : PyStr) : join [c] (splitOn c s) = s := by
  rw [splitOnIs]
  exact List.intercalate_splitOn c

theorem joinAppend {front words : List PyStr} (ahead : front ≠ []) (some : words ≠ []) :
    join [c] (front ++ words) = join [c] front ++ c :: join [c] words := by
  induction front with
  | nil => exact absurd rfl ahead
  | cons part parts ih =>
    cases parts with
    | nil =>
      rw [List.singleton_append, join, List.intercalate_cons_of_ne_nil some]
      simp [join]
    | cons next parts =>
      have later := ih (List.cons_ne_nil _ _)
      unfold join at later ⊢
      rw [List.cons_append, List.intercalate_cons_of_ne_nil (List.append_ne_nil_of_right_ne_nil _ some),
        later, List.intercalate_cons_cons]
      simp only [List.append_assoc]

theorem memJoin {d : CodePoint} {parts : List PyStr} (member : d ∈ join [c] parts) : d = c ∨ ∃ part ∈ parts, d ∈ part := by
  induction parts with
  | nil => cases member
  | cons first rest ih =>
    cases rest with
    | nil =>
      rw [join, List.intercalate_singleton] at member
      exact .inr ⟨first, List.mem_cons_self, member⟩
    | cons second rest =>
      rw [join, List.intercalate_cons_cons, List.mem_append, List.mem_append] at member
      rcases member with (inside | sep) | later
      · exact .inr ⟨first, List.mem_cons_self, inside⟩
      · exact .inl (List.mem_singleton.mp sep)
      · rcases ih later with sep | ⟨part, member, inside⟩
        · exact .inl sep
        · exact .inr ⟨part, List.mem_cons_of_mem _ member, inside⟩

theorem suffixParts {words : List PyStr} (free : ∀ word ∈ words, c ∉ word) (some : words ≠ []) (s : PyStr) :
    (c :: join [c] words) <:+ s ↔ words.length < (splitOn c s).length ∧ words <:+ splitOn c s := by
  constructor
  · rintro ⟨front, rfl⟩
    have split := List.splitOnP_append_cons (p := (· == c)) front (join [c] words) (beq_self_eq_true c)
    have parts : splitOn c (front ++ c :: join [c] words) = splitOn c front ++ words := by
      rw [splitOnIs, List.splitOn_eq_splitOnP, split, ← List.splitOn_eq_splitOnP, ← List.splitOn_eq_splitOnP,
        ← splitOnIs, ← splitOnIs, splitJoin free some]
    have ahead : 0 < (splitOn c front).length := by
      rw [splitOnIs]
      exact List.length_pos_of_ne_nil (List.splitOn_ne_nil c front)
    rw [parts, List.length_append]
    exact ⟨by omega, List.suffix_append _ _⟩
  · rintro ⟨longer, front, parts⟩
    have ahead : front ≠ [] := by
      rintro rfl
      rw [← parts, List.nil_append] at longer
      omega
    rw [← joinSplit (c := c) s, ← parts, joinAppend ahead some]
    exact List.suffix_append _ _

theorem partitionFree {s : PyStr} (free : c ∉ s) : partition c s = (s, false, []) := by
  have others : ∀ a ∈ s, (a != c) = true := fun a member => bne_iff_ne.mpr fun same => free (same ▸ member)
  have none : s.contains c = false := Bool.eq_false_iff.mpr fun member => free (List.contains_iff_mem.mp member)
  rw [partition, List.takeWhile_eq_self_iff.mpr others, List.dropWhile_eq_nil_iff.mpr others, none]
  rfl

end Joined

section Decimals

def decimalText (n : Nat) : PyStr := (Nat.toDigits 10 n).map codePoint

theorem pyDecimal (n : Nat) : py (toString n) = decimalText n := by
  rw [py, decimalText, Nat.toString_eq_repr, Nat.toList_repr]

def digitCode (d : Nat) : CodePoint := codePoint (Nat.digitChar d)

theorem decimalLast (n : Nat) :
    decimalText n = (if n < 10 then [] else decimalText (n / 10)) ++ [digitCode (n % 10)] := by
  unfold decimalText
  rw [Nat.toDigits_eq_if (by decide)]
  split
  · rename_i small
    rw [Nat.mod_eq_of_lt small]
    rfl
  · rw [List.map_append]
    rfl

theorem digitCodeVal : ∀ d < 10, (digitCode d).val = 0x30 + d := by decide

theorem decimalDigits (n : Nat) : (decimalText n).all isDigit = true := by
  induction n using Nat.strongRecOn with
  | ind n ih =>
    have value := digitCodeVal (n % 10) (Nat.mod_lt _ (by decide))
    have last : isDigit (digitCode (n % 10)) = true := by
      rw [isDigit, value, Bool.and_eq_true, decide_eq_true_eq, decide_eq_true_eq]
      omega
    rw [decimalLast, List.all_append, List.all_cons, last]
    split
    · rfl
    · rw [ih (n / 10) (by omega)]
      rfl

theorem decimalValue (n : Nat) : digitsValue (decimalText n) = n := by
  induction n using Nat.strongRecOn with
  | ind n ih =>
    have value := digitCodeVal (n % 10) (Nat.mod_lt _ (by decide))
    rw [decimalLast, digitsValue, List.foldl_append, List.foldl_cons, List.foldl_nil, value]
    split
    · rw [List.foldl_nil]
      omega
    · have front := ih (n / 10) (by omega)
      rw [digitsValue] at front
      rw [front]
      omega

theorem decimalSome (n : Nat) : decimalText n ≠ [] := by
  rw [decimalLast]
  exact List.append_ne_nil_of_right_ne_nil _ (List.cons_ne_nil _ _)

theorem decimalLength {n k : Nat} (small : n < 10 ^ k) (some : 0 < k) : (decimalText n).length ≤ k := by
  rw [decimalText, List.length_map]
  exact (Nat.length_toDigits_le_iff (by decide) some).mpr small

theorem memDecimal {n : Nat} {c : CodePoint} (member : c ∈ decimalText n) : ∃ d < 10, c = digitCode d := by
  induction n using Nat.strongRecOn with
  | ind n ih =>
    rw [decimalLast] at member
    rcases List.mem_append.mp member with front | last
    · split at front
      · cases front
      · exact ih (n / 10) (by omega) front
    · exact ⟨n % 10, Nat.mod_lt _ (by decide), List.mem_singleton.mp last⟩

theorem decimalHead {n : Nat} (positive : 0 < n) : (decimalText n).head? ≠ some 0x30 := by
  induction n using Nat.strongRecOn with
  | ind n ih =>
    rw [decimalLast]
    split
    · have value := digitCodeVal (n % 10) (Nat.mod_lt _ (by decide))
      intro zero
      have same : digitCode (n % 10) = 0x30 := Option.some.inj zero
      rw [same] at value
      have none : (0x30 : CodePoint).val = 0x30 := rfl
      omega
    · rw [List.head?_append_of_ne_nil _ (decimalSome _)]
      exact ih (n / 10) (by omega) (by omega)

end Decimals

section Hexadecimals
open IPAddress

theorem hexDigitCode : ∀ d < 16, hexValue (digitCode d) = some d ∧ (digitCode d).val < 0x80 ∧
    ¬ (0x41 ≤ (digitCode d).val ∧ (digitCode d).val ≤ 0x5A) := by decide

theorem hextetLast (n : Nat) :
    hextetText n = (if n < 16 then [] else hextetText (n / 16)) ++ [digitCode (n % 16)] := by
  unfold hextetText
  rw [Nat.toDigits_eq_if (by decide)]
  split
  · rename_i small
    rw [Nat.mod_eq_of_lt small]
    rfl
  · rw [List.map_append]
    rfl

theorem hextetSome (n : Nat) : hextetText n ≠ [] := by
  rw [hextetLast]
  exact List.append_ne_nil_of_right_ne_nil _ (List.cons_ne_nil _ _)

theorem hextetLength {n : Nat} (small : n < 65536) : (hextetText n).length ≤ 4 := by
  rw [hextetText, List.length_map]
  exact (Nat.length_toDigits_le_iff (by decide) (by decide)).mpr small

theorem memHextet {n : Nat} {c : CodePoint} (member : c ∈ hextetText n) : ∃ d < 16, c = digitCode d := by
  induction n using Nat.strongRecOn with
  | ind n ih =>
    rw [hextetLast] at member
    rcases List.mem_append.mp member with front | last
    · split at front
      · cases front
      · exact ih (n / 16) (by omega) front
    · exact ⟨n % 16, Nat.mod_lt _ (by decide), List.mem_singleton.mp last⟩

theorem hextetDigitsRead (n : Nat) :
    ∃ ds, (hextetText n).mapM hexValue = some ds ∧ ds.foldl (fun n d => n * 16 + d) 0 = n := by
  induction n using Nat.strongRecOn with
  | ind n ih =>
    have digit := (hexDigitCode (n % 16) (Nat.mod_lt _ (by decide))).1
    rw [hextetLast]
    split
    · refine ⟨[n % 16], ?_, ?_⟩
      · simp [digit]
      · simp only [List.foldl_cons, List.foldl_nil]
        omega
    · obtain ⟨ds, read, value⟩ := ih (n / 16) (by omega)
      refine ⟨ds ++ [n % 16], ?_, ?_⟩
      · simp [List.mapM_append, read, digit]
      · rw [List.foldl_append, value, List.foldl_cons, List.foldl_nil]
        omega

theorem hextetRead {n : Nat} (small : n < 65536) : parseHextet (hextetText n) = some n := by
  obtain ⟨ds, read, value⟩ := hextetDigitsRead n
  have fits := hextetLength small
  have some : (hextetText n).isEmpty = false := by
    rw [Bool.eq_false_iff]
    exact fun empty => hextetSome n (List.isEmpty_iff.mp empty)
  rw [parseHextet, some, Bool.false_or, if_neg (by simpa using fits), read, ← value]
  rfl

end Hexadecimals
end SentinelGpt
