import SentinelGpt.TargetNormalization
import SentinelGpt.NumberTexts
import SentinelGpt.JsonWriter

/-! Hosts as IDNA resolution reads them: which of those that registration accepts it would refuse in
their mapped spelling. -/
namespace SentinelGpt.TargetNormalization
open JsonScan

/- The separators U+3002 and U+FF61 are dots, and fullwidth forms their ASCII counterparts. -/
def idnaChar (c : CodePoint) : CodePoint :=
  if c = 0x3002 ∨ c = 0xFF61 then 0x2E
  else if 0xFF01 ≤ c.val ∧ c.val ≤ 0xFF5E then ofNat (c.val - 0xFEE0)
  else c

def idnaMapped (host : PyStr) : PyStr := host.map idnaChar

/-! The characters and the labels of a host, whatever their width. -/

def isWide (c : CodePoint) : Bool := c == 0x3002 || c == 0xFF61 || (0xFF01 ≤ c.val && c.val ≤ 0xFF5E)

def isSeparator (c : CodePoint) : Bool := [0x2E, 0x3002, 0xFF0E, 0xFF61].contains c

def nameOf (host : PyStr) : PyStr := (host.reverse.dropWhile isSeparator).reverse

def labelsOf (host : PyStr) : List PyStr := (nameOf host).splitOnP isSeparator

def Spells (label word : PyStr) : Prop := List.Forall₂ (fun c a => c = a ∨ c.val = a.val + 0xFEE0) label word

def EndsIn (words labels : List PyStr) : Prop :=
  List.Forall₂ Spells (labels.drop (labels.length - words.length)) words

instance (label word : PyStr) : Decidable (Spells label word) := inferInstanceAs (Decidable (List.Forall₂ _ _ _))

instance (words labels : List PyStr) : Decidable (EndsIn words labels) :=
  inferInstanceAs (Decidable (List.Forall₂ _ _ _))

def metadataLabels : List (List PyStr) :=
  [[py "metadata", py "google", py "internal"], [py "metadata", py "goog"]]

def privateLabels : List (List PyStr) :=
  [[py "internal"], [py "local"], [py "localhost"], [py "localdomain"], [py "home", py "arpa"], [py "lan"]]

def readsNumber (label : PyStr) : Bool := isNumericLabel (idnaMapped label)

def readsPublicQuad (labels : List PyStr) : Bool :=
  match labels.mapM fun label => IPAddress.parseOctet (idnaMapped label) with
  | some [a, b, c, d] => !isDisallowedIp (.ofOctets a b c d)
  | _ => false

/- What is asked of a host that has wide characters, for those not to matter. -/
structure Undisguised (python : Python) (host : PyStr) : Prop where
  named : host.all isSeparator = false
  loopback : ¬ EndsIn [py "localhost"] (labelsOf host)
  internal : ∀ words ∈ privateLabels, words.length < (labelsOf host).length → ¬ EndsIn words (labelsOf host)
  metadata : ∀ words ∈ metadataLabels, words.length = (labelsOf host).length → ¬ EndsIn words (labelsOf host)
  quad : (labelsOf host).all readsNumber = true → readsPublicQuad (labelsOf host) = true
  literal : (labelsOf host).all readsNumber = false →
    (asIpLiteral python (idnaMapped (nameOf host))).any isDisallowedIp = false

inductive BlockedName (python : Python) (host : PyStr) : Prop where
  | empty (empty : host = [])
  | localhost (loopback : isLocalhost host = true)
  | privateName (internal : isPrivateName host = true)
  | numeric (numeric : looksLikeNumericHost host = true) (lax : isCanonicalDottedQuad host ≠ some true)
  | literal {address : IPAddress} (literal : asIpLiteral python host = some address)
      (disallowed : isDisallowedIp address = true)

section Mapped
variable {python : Python} {host : PyStr}

theorem blockedNameIff : BlockedName python host ↔ host = [] ∨ isLocalhost host = true ∨
    isPrivateName host = true ∨ (looksLikeNumericHost host = true ∧ isCanonicalDottedQuad host ≠ some true) ∨
    (asIpLiteral python host).any isDisallowedIp = true := by
  constructor
  · rintro (empty | loopback | internal | ⟨numeric, lax⟩ | ⟨literal, disallowed⟩)
    · exact .inl empty
    · exact .inr (.inl loopback)
    · exact .inr (.inr (.inl internal))
    · exact .inr (.inr (.inr (.inl ⟨numeric, lax⟩)))
    · exact .inr (.inr (.inr (.inr (by rw [literal]; exact disallowed))))
  · rintro (empty | loopback | internal | ⟨numeric, lax⟩ | denied)
    · exact .empty empty
    · exact .localhost loopback
    · exact .privateName internal
    · exact .numeric numeric lax
    · cases literal : asIpLiteral python host with
      | none => simp [literal] at denied
      | some address =>
        rw [literal] at denied
        exact .literal literal denied

theorem validateHostIsOk : (validateHost python host).isOk = true ↔
    containsNonAsciiNumeric python (stripTrailingDot host) = false ∧
      ¬ BlockedName python (stripTrailingDot host) := by
  rw [blockedNameIff]
  simp only [validateHost]
  generalize stripTrailingDot host = name
  cases looksLikeNumericHost name <;> rcases isCanonicalDottedQuad name with _ | _ | _
  all_goals repeat' split
  all_goals simp_all [Except.isOk, Except.toBool]

theorem idnaCharAscii {c : CodePoint} (high : 127 < (idnaChar c).val) :
    idnaChar c = c ∧ c ≠ 0x2E := by
  unfold idnaChar at high ⊢
  split at high
  · simp at high
  · rename_i separator
    split at high
    · rename_i fullwidth
      simp only [ofNat] at high
      split at high <;> simp at high <;> omega
    · rename_i narrow
      rw [if_neg separator, if_neg narrow]
      exact ⟨rfl, fun same => by rw [same] at high; simp at high⟩

theorem stripKeeps {c : CodePoint} (member : c ∈ host) (other : c ≠ 0x2E) :
    c ∈ stripTrailingDot host := by
  unfold stripTrailingDot rstrip
  have split := List.takeWhile_append_dropWhile (p := (· == 0x2E)) (l := host.reverse)
  rcases List.mem_append.1 (split ▸ List.mem_reverse.2 member) with dots | kept
  · exact absurd (by simpa using List.all_eq_true.1 List.all_takeWhile _ dots) other
  · exact List.mem_reverse.2 kept

theorem numericMapped (none : containsNonAsciiNumeric python (stripTrailingDot host) = false) :
    containsNonAsciiNumeric python (stripTrailingDot (idnaMapped host)) = false := by
  rw [containsNonAsciiNumeric, List.any_eq_false] at none ⊢
  intro c member
  obtain ⟨before, inside, rfl⟩ := List.mem_map.1 (memStripTrailingDot member)
  by_contra numeric
  simp only [Bool.and_eq_true, decide_eq_true_eq] at numeric
  obtain ⟨same, other⟩ := idnaCharAscii numeric.2
  rw [same] at numeric
  exact none before (stripKeeps inside other) (by simp [numeric])

theorem wideOnly {c : CodePoint} (narrow : isWide c = false) : idnaChar c = c := by
  simp only [isWide, Bool.or_eq_false_iff, beq_eq_false_iff_ne, Bool.and_eq_false_iff,
    decide_eq_false_iff_not] at narrow
  obtain ⟨⟨ideographic, halfwidth⟩, fullwidth⟩ := narrow
  rw [idnaChar, if_neg (by simp [ideographic, halfwidth]), if_neg (by omega)]

theorem unmapped (narrow : host.all (fun c => !isWide c) = true) : idnaMapped host = host := by
  have each : ∀ c ∈ host, idnaChar c = c := fun c member =>
    wideOnly (by simpa using List.all_eq_true.mp narrow c member)
  rw [idnaMapped, List.map_congr_left each, List.map_id']

theorem separatorIff (c : CodePoint) : (idnaChar c == 0x2E) = isSeparator c := by
  rw [Bool.eq_iff_iff, beq_iff_eq]
  simp only [isSeparator, List.contains_iff_mem, List.mem_cons, List.not_mem_nil, or_false]
  unfold idnaChar
  split
  · rename_i dot
    rcases dot with rfl | rfl <;> simp
  · rename_i separator
    split
    · rename_i fullwidth
      have value : (ofNat (c.val - 0xFEE0)).val = c.val - 0xFEE0 := ofNatVal (by omega)
      simp only [Fin.ext_iff, value] at separator ⊢
      simp at separator ⊢
      omega
    · rename_i narrow
      simp only [Fin.ext_iff] at separator ⊢
      simp at separator ⊢
      omega

theorem nameMapped (host : PyStr) : stripTrailingDot (idnaMapped host) = idnaMapped (nameOf host) := by
  have same : (· == (0x2E : CodePoint)) ∘ idnaChar = isSeparator := funext separatorIff
  rw [stripTrailingDot, rstrip, idnaMapped, ← List.map_reverse, List.dropWhile_map, same, ← List.map_reverse]
  rfl

theorem splitMapped (s : PyStr) : splitOn 0x2E (idnaMapped s) = (s.splitOnP isSeparator).map idnaMapped := by
  rw [splitOnIs, List.splitOn_eq_splitOnP]
  induction s with
  | nil => rfl
  | cons c rest ih =>
    rw [idnaMapped, List.map_cons, ← idnaMapped, List.splitOnP_cons_eq_if_modifyHead,
      List.splitOnP_cons_eq_if_modifyHead, separatorIff, ih]
    cases isSeparator c with
    | true => rfl
    | false => cases rest.splitOnP isSeparator <;> rfl

theorem labelsMapped (host : PyStr) :
    splitOn 0x2E (stripTrailingDot (idnaMapped host)) = (labelsOf host).map idnaMapped := by
  rw [nameMapped, splitMapped, labelsOf]

theorem spelled {a : CodePoint} (letter : 0x2E < a.val ∧ a.val ≤ 0x7E) (c : CodePoint) :
    idnaChar c = a ↔ c = a ∨ c.val = a.val + 0xFEE0 := by
  unfold idnaChar
  split
  · rename_i dot
    have value : c.val = 0x3002 ∨ c.val = 0xFF61 := dot.imp (congrArg Fin.val) (congrArg Fin.val)
    rw [Fin.ext_iff, Fin.ext_iff]
    refine iff_of_false (fun same => ?_) (by omega)
    have same : 0x2E = a.val := same
    omega
  · rename_i separator
    split
    · rename_i fullwidth
      have value : (ofNat (c.val - 0xFEE0)).val = c.val - 0xFEE0 := ofNatVal (by omega)
      rw [Fin.ext_iff, Fin.ext_iff, value]
      omega
    · rename_i narrow
      rw [Fin.ext_iff]
      omega

def isWord (word : PyStr) : Bool := word.all fun a => decide (0x2E < a.val) && decide (a.val ≤ 0x7E)

theorem spellsIff {label word : PyStr} (letters : isWord word = true) :
    Spells label word ↔ idnaMapped label = word := by
  rw [Spells, idnaMapped, ← List.forall₂_eq_eq_eq, List.forall₂_map_left_iff]
  induction label generalizing word with
  | nil => cases word <;> simp
  | cons c label ih =>
    cases word with
    | nil => simp
    | cons a word =>
      simp only [isWord, List.all_cons, Bool.and_eq_true, decide_eq_true_eq] at letters
      rw [List.forall₂_cons, List.forall₂_cons, spelled letters.1, ih (by simpa [isWord] using letters.2)]

theorem endsInIff {words labels : List PyStr} (letters : words.all isWord = true) :
    EndsIn words labels ↔ words <:+ labels.map idnaMapped := by
  have each : ∀ (labels words : List PyStr), words.all isWord = true →
      (List.Forall₂ Spells labels words ↔ words = labels.map idnaMapped) := by
    intro labels
    induction labels with
    | nil => intro words _; cases words <;> simp
    | cons label labels ih =>
      intro words letters
      cases words with
      | nil => simp
      | cons word words =>
        rw [List.all_cons, Bool.and_eq_true] at letters
        rw [List.forall₂_cons, spellsIff letters.1, ih words letters.2, List.map_cons, List.cons.injEq, eq_comm]
  rw [EndsIn, each _ _ letters, List.suffix_iff_eq_drop, List.length_map, List.map_drop]

theorem wordFree {word : PyStr} (letters : isWord word = true) : (0x2E : CodePoint) ∉ word := by
  intro member
  have bounds := List.all_eq_true.mp letters _ member
  simp at bounds

theorem wordsFree {words : List PyStr} (letters : words.all isWord = true) :
    ∀ word ∈ words, (0x2E : CodePoint) ∉ word := fun word member =>
  wordFree (List.all_eq_true.mp letters word member)

theorem endsBehind {words : List PyStr} (letters : words.all isWord = true) (some : words ≠ []) :
    (0x2E :: join [0x2E] words).isSuffixOf (stripTrailingDot (idnaMapped host)) = true ↔
      words.length < (labelsOf host).length ∧ EndsIn words (labelsOf host) := by
  rw [List.isSuffixOf_iff_suffix, suffixParts (wordsFree letters) some, labelsMapped, endsInIff letters,
    List.length_map]

theorem whollySpelled {words : List PyStr} (letters : words.all isWord = true) (some : words ≠ []) :
    stripTrailingDot (idnaMapped host) = join [0x2E] words ↔
      words.length = (labelsOf host).length ∧ EndsIn words (labelsOf host) := by
  have whole : stripTrailingDot (idnaMapped host) = join [0x2E] words ↔
      splitOn 0x2E (stripTrailingDot (idnaMapped host)) = words := by
    constructor
    · intro same
      rw [same, splitJoin (wordsFree letters) some]
    · intro same
      rw [← joinSplit (c := 0x2E) (stripTrailingDot (idnaMapped host)), same]
  have length : (labelsOf host).length = (splitOn 0x2E (stripTrailingDot (idnaMapped host))).length := by
    rw [labelsMapped, List.length_map]
  rw [whole, endsInIff letters, ← labelsMapped, length]
  constructor
  · rintro rfl
    exact ⟨rfl, List.suffix_refl _⟩
  · rintro ⟨length, ends⟩
    exact (ends.eq_of_length length).symm

theorem loopbackSpelled : isLocalhost (stripTrailingDot (idnaMapped host)) = true ↔
    EndsIn [py "localhost"] (labelsOf host) := by
  have word : [py "localhost"].all isWord = true := by decide
  have length : 1 ≤ (labelsOf host).length :=
    List.length_pos_of_ne_nil (List.splitOnP_ne_nil isSeparator (nameOf host))
  have whole : stripTrailingDot (idnaMapped host) = join [0x2E] [py "localhost"] ↔ _ :=
    whollySpelled word (List.cons_ne_nil _ _)
  have behind : (0x2E :: join [0x2E] [py "localhost"]).isSuffixOf (stripTrailingDot (idnaMapped host)) = true ↔ _ :=
    endsBehind word (List.cons_ne_nil _ _)
  rw [isLocalhost, Bool.or_eq_true, beq_iff_eq]
  rw [show py "localhost" = join [0x2E] [py "localhost"] from rfl, whole]
  rw [show py ".localhost" = 0x2E :: join [0x2E] [py "localhost"] from rfl, behind]
  rw [List.length_singleton]
  constructor
  · rintro (⟨-, ends⟩ | ⟨-, ends⟩) <;> exact ends
  · intro ends
    rcases Nat.eq_or_lt_of_le length with one | more
    · exact .inl ⟨one, ends⟩
    · exact .inr ⟨more, ends⟩

theorem privateSpelled : isPrivateName (stripTrailingDot (idnaMapped host)) = true ↔
    (∃ words ∈ metadataLabels, words.length = (labelsOf host).length ∧ EndsIn words (labelsOf host)) ∨
      ∃ words ∈ privateLabels, words.length < (labelsOf host).length ∧ EndsIn words (labelsOf host) := by
  have blocklist : metadataNameBlocklist = metadataLabels.map (join [0x2E]) := by decide
  have suffixes : privateNameSuffixes = privateLabels.map fun words => 0x2E :: join [0x2E] words := by decide
  have listed : ∀ words ∈ metadataLabels ++ privateLabels, words.all isWord = true ∧ words ≠ [] := by decide
  rw [isPrivateName, Bool.or_eq_true, List.contains_iff_mem, List.any_eq_true, blocklist, suffixes]
  simp only [List.mem_map, exists_exists_and_eq_and]
  constructor
  · rintro (⟨words, known, same⟩ | ⟨words, known, ends⟩)
    · obtain ⟨letters, some⟩ := listed words (List.mem_append_left _ known)
      exact .inl ⟨words, known, (whollySpelled letters some).mp same.symm⟩
    · obtain ⟨letters, some⟩ := listed words (List.mem_append_right _ known)
      exact .inr ⟨words, known, (endsBehind letters some).mp ends⟩
  · rintro (⟨words, known, spelled⟩ | ⟨words, known, spelled⟩)
    · obtain ⟨letters, some⟩ := listed words (List.mem_append_left _ known)
      exact .inl ⟨words, known, ((whollySpelled letters some).mpr spelled).symm⟩
    · obtain ⟨letters, some⟩ := listed words (List.mem_append_right _ known)
      exact .inr ⟨words, known, (endsBehind letters some).mpr spelled⟩

theorem unnamed : stripTrailingDot (idnaMapped host) = [] ↔ host.all isSeparator = true := by
  rw [nameMapped, idnaMapped, List.map_eq_nil_iff, nameOf, List.reverse_eq_nil_iff, List.dropWhile_eq_nil_iff]
  simp

theorem digitsGrow (ds : PyStr) (n : Nat) :
    n * 10 ^ ds.length ≤ ds.foldl (fun n d => n * 10 + (d.val - 0x30)) n := by
  induction ds generalizing n with
  | nil => simp
  | cons d rest ih =>
    rw [List.foldl_cons, List.length_cons, Nat.pow_succ]
    calc n * (10 ^ rest.length * 10) = (n * 10) * 10 ^ rest.length := by rw [Nat.mul_comm _ 10, Nat.mul_assoc]
      _ ≤ (n * 10 + (d.val - 0x30)) * 10 ^ rest.length := Nat.mul_le_mul_right _ (Nat.le_add_right _ _)
      _ ≤ _ := ih _

theorem shortOctet {label : PyStr} (digits : isAsciiDigits label = true) (unpadded : label.head? ≠ some 0x30)
    (small : digitsValue label ≤ 255) : label.length ≤ 3 := by
  cases label with
  | nil => exact Nat.zero_le _
  | cons d rest =>
    simp only [isAsciiDigits, List.all_cons, Bool.and_eq_true, isDigit, decide_eq_true_eq] at digits
    have nonzero : d.val ≠ 0x30 := fun same => unpadded (congrArg some (Fin.ext same))
    have grows := digitsGrow rest (0 * 10 + (d.val - 0x30))
    by_contra long
    rw [List.length_cons] at long
    have power : 10 ^ 3 ≤ 10 ^ rest.length := Nat.pow_le_pow_right (by decide) (by omega)
    have most : digitsValue (d :: rest) = rest.foldl (fun n d => n * 10 + (d.val - 0x30)) (0 * 10 + (d.val - 0x30)) := rfl
    have : 1 * 10 ^ 3 ≤ (0 * 10 + (d.val - 0x30)) * 10 ^ rest.length :=
      Nat.mul_le_mul (by omega) power
    omega

theorem octetIff {label : PyStr} : (IPAddress.parseOctet label).isSome = true ↔
    isAsciiDigits label = true ∧ ¬ (1 < label.length ∧ label.head? = some 0x30) ∧ label.length ≤ maxIntDigits ∧
      digitsValue label ≤ 255 := by
  simp only [IPAddress.parseOctet, isAsciiDigits]
  constructor
  · intro read
    split at read
    · contradiction
    · rename_i digits
      simp only [Bool.or_eq_true, decide_eq_true_eq, not_or, Bool.not_eq_true, Bool.not_eq_false', Nat.not_lt] at digits
      split at read
      · contradiction
      · rename_i plain
        split at read
        · contradiction
        · rename_i small
          refine ⟨by simp [digits.1.1, digits.1.2], fun padded => plain ⟨?_, padded.2⟩, ?_, by omega⟩
          · rintro rfl
            exact absurd padded.1 (by decide)
          · exact digits.2.trans (by decide)
  · rintro ⟨digits, unpadded, -, small⟩
    have alone : label.head? = some 0x30 → label = py "0" := by
      intro zero
      match label, zero with
      | [c], zero => rw [Option.some.inj zero]; rfl
      | c :: d :: rest, zero => exact absurd ⟨by simp, zero⟩ unpadded
    have short : label.length ≤ 3 := by
      by_cases zero : label.head? = some 0x30
      · rw [alone zero]
        decide
      · exact shortOctet digits zero small
    simp only [Bool.and_eq_true, Bool.not_eq_true'] at digits
    rw [if_neg (by simp [digits.1, digits.2, short]), if_neg fun padded => padded.1 (alone padded.2),
      if_neg (by omega)]
    rfl

theorem canonicalIff {labels : List PyStr} :
    canonicalLabels labels = some true ↔ ∀ label ∈ labels, (IPAddress.parseOctet label).isSome = true := by
  induction labels with
  | nil => simp [canonicalLabels]
  | cons label rest ih =>
    rw [List.forall_mem_cons, octetIff, ← ih, canonicalLabels]
    repeat' split
    all_goals simp_all

theorem octetDigits {label : PyStr} (read : (IPAddress.parseOctet label).isSome = true) :
    isAsciiDigits label = true := (octetIff.mp read).1

theorem readAll {labels : List PyStr} (read : ∀ label ∈ labels, (IPAddress.parseOctet label).isSome = true) :
    ∃ values, labels.mapM IPAddress.parseOctet = some values ∧ values.length = labels.length := by
  induction labels with
  | nil => exact ⟨[], rfl, rfl⟩
  | cons label rest ih =>
    obtain ⟨first, others⟩ := List.forall_mem_cons.mp read
    obtain ⟨value, parsed⟩ := Option.isSome_iff_exists.mp first
    obtain ⟨values, later, length⟩ := ih others
    exact ⟨value :: values, by simp [List.mapM_cons, parsed, later], by simp [length]⟩

theorem readEach {labels : List PyStr} {values : List Nat} (read : labels.mapM IPAddress.parseOctet = some values) :
    values.length = labels.length ∧ ∀ label ∈ labels, (IPAddress.parseOctet label).isSome = true := by
  induction labels generalizing values with
  | nil => cases read; exact ⟨rfl, by simp⟩
  | cons label rest ih =>
    rw [List.mapM_cons] at read
    obtain ⟨value, parsed, read⟩ := Option.bind_eq_some_iff.mp read
    obtain ⟨others, later, made⟩ := Option.bind_eq_some_iff.mp read
    cases made
    obtain ⟨length, each⟩ := ih later
    refine ⟨by simp [length], fun l member => ?_⟩
    rcases List.mem_cons.mp member with rfl | inside
    · rw [parsed]; rfl
    · exact each l inside

theorem quadLiteral {name : PyStr} {a b c d : Nat}
    (read : (splitOn 0x2E name).mapM IPAddress.parseOctet = some [a, b, c, d]) :
    asIpLiteral python name = some (.ofOctets a b c d) := by
  obtain ⟨-, each⟩ := readEach read
  have letters : ∀ x ∈ name, x = 0x2E ∨ isDigit x = true := by
    intro x member
    rw [← joinSplit (c := 0x2E) name] at member
    rcases memJoin member with dot | ⟨part, listed, inside⟩
    · exact .inl dot
    · have digits := octetDigits (each part listed)
      simp only [isAsciiDigits, Bool.and_eq_true] at digits
      exact .inr (List.all_eq_true.mp digits.2 x inside)
  have plain : ∀ x ∈ name, stripBrackets.isBracket x = false ∧ x ≠ 0x2F := by
    intro x member
    rcases letters x member with rfl | digit
    · decide
    · simp only [isDigit, Bool.and_eq_true, decide_eq_true_eq] at digit
      refine ⟨?_, fun slash => ?_⟩
      · simp only [stripBrackets.isBracket, Bool.or_eq_false_iff, beq_eq_false_iff_ne]
        refine ⟨fun same => ?_, fun same => ?_⟩ <;> rw [same] at digit <;> simp at digit
      · rw [slash] at digit
        simp at digit
  have bare : stripBrackets name = name := by
    have front : ∀ s : PyStr, (∀ x ∈ s, stripBrackets.isBracket x = false) → s.dropWhile stripBrackets.isBracket = s := by
      intro s none
      cases s with
      | nil => rfl
      | cons x rest => rw [List.dropWhile_cons_of_neg (by simp [none x List.mem_cons_self])]
    have reversed := front name.reverse fun x member => (plain x (List.mem_reverse.mp member)).1
    rw [stripBrackets, front name fun x member => (plain x member).1, reversed, List.reverse_reverse]
  have slashless : name.contains 0x2F = false :=
    Bool.eq_false_iff.mpr fun member => (plain _ (List.contains_iff_mem.mp member)).2 rfl
  have parsed : IPAddress.parse name = some (.ofOctets a b c d) := by
    rw [IPAddress.parse, slashless, if_neg Bool.false_ne_true, IPAddress.parseV4, read]
    rfl
  rw [asIpLiteral, bare, parsed]

theorem quadIff {name : PyStr} : isCanonicalDottedQuad name = some true ↔
    ∃ a b c d, (splitOn 0x2E name).mapM IPAddress.parseOctet = some [a, b, c, d] := by
  rw [isCanonicalDottedQuad]
  constructor
  · intro canonical
    split at canonical
    · rename_i four
      obtain ⟨values, read, length⟩ := readAll (canonicalIff.mp canonical)
      rw [four] at length
      match values, length with
      | [a, b, c, d], _ => exact ⟨a, b, c, d, read⟩
    · contradiction
  · rintro ⟨a, b, c, d, read⟩
    obtain ⟨length, each⟩ := readEach read
    exact (if_pos length.symm).trans (canonicalIff.mpr each)

theorem numbersRefused :
    (looksLikeNumericHost (stripTrailingDot (idnaMapped host)) = true ∧
        isCanonicalDottedQuad (stripTrailingDot (idnaMapped host)) ≠ some true) ∨
      (asIpLiteral python (stripTrailingDot (idnaMapped host))).any isDisallowedIp = true ↔
    ((labelsOf host).all readsNumber = true ∧ readsPublicQuad (labelsOf host) = false) ∨
      ((labelsOf host).all readsNumber = false ∧
        (asIpLiteral python (idnaMapped (nameOf host))).any isDisallowedIp = true) := by
  have numbers : looksLikeNumericHost (stripTrailingDot (idnaMapped host)) = (labelsOf host).all readsNumber := by
    rw [looksLikeNumericHost, labelsMapped, List.all_map]
    rfl
  have octets : ((labelsOf host).mapM fun label => IPAddress.parseOctet (idnaMapped label)) =
      (splitOn 0x2E (stripTrailingDot (idnaMapped host))).mapM IPAddress.parseOctet := by
    rw [labelsMapped, List.mapM_map]
    rfl
  rw [numbers, ← nameMapped]
  cases all : (labelsOf host).all readsNumber with
  | false => simp
  | true =>
    simp only [true_and, Bool.true_eq_false, false_and, or_false, readsPublicQuad, octets]
    by_cases canonical : isCanonicalDottedQuad (stripTrailingDot (idnaMapped host)) = some true
    · obtain ⟨a, b, c, d, read⟩ := quadIff.mp canonical
      rw [quadLiteral read, read]
      simp [canonical]
    · refine iff_of_true (.inl canonical) ?_
      split
      · rename_i a b c d read
        exact absurd (quadIff.mpr ⟨a, b, c, d, read⟩) canonical
      · rfl

theorem unblockedIff : ¬ BlockedName python (stripTrailingDot (idnaMapped host)) ↔ Undisguised python host := by
  rw [blockedNameIff, unnamed, loopbackSpelled, privateSpelled, numbersRefused]
  constructor
  · intro none
    simp only [not_or, not_exists, not_and] at none
    obtain ⟨named, loopback, ⟨metadata, internal⟩, quad, literal⟩ := none
    refine ⟨Bool.eq_false_iff.mpr named, loopback, internal, metadata, ?_, ?_⟩
    · exact fun numbers => by simpa using quad numbers
    · exact fun others => by simpa using literal others
  · rintro ⟨named, loopback, internal, metadata, quad, literal⟩
    rintro (separators | ends | (⟨words, known, length, ends⟩ | ⟨words, known, length, ends⟩) |
      (⟨numbers, lax⟩ | ⟨others, denied⟩))
    · exact absurd separators (Bool.eq_false_iff.mp named)
    · exact loopback ends
    · exact metadata words known length ends
    · exact internal words known length ends
    · rw [quad numbers] at lax
      contradiction
    · rw [literal others] at denied
      contradiction

/- An accepted host is accepted in its mapped spelling too exactly when none of its characters is
wide, or its labels, read without regard to width, are none that registration refuses. -/
theorem mappedAcceptedIff (accepted : (validateHost python host).isOk = true) :
    (validateHost python (idnaMapped host)).isOk = true ↔
      host.all (fun c => !isWide c) = true ∨ Undisguised python host := by
  have plain := numericMapped (validateHostIsOk.1 accepted).1
  rw [validateHostIsOk, and_iff_right plain, unblockedIff]
  constructor
  · exact .inr
  · rintro (narrow | undisguised)
    · rw [← unblockedIff, unmapped narrow]
      exact (validateHostIsOk.1 accepted).2
    · exact undisguised

end Mapped

def wideHost : PyStr := 0xFF45 :: py "xample.com"

theorem wideHostMapped : (validateHost (Python.onAscii []) wideHost).isOk = true ∧
    (validateHost (Python.onAscii []) (idnaMapped wideHost)).isOk = true := by
  have accepted : (validateHost (Python.onAscii []) wideHost).isOk = true := by decide +kernel
  exact ⟨accepted, (mappedAcceptedIff accepted).2 (.inr ⟨by decide +kernel, by decide +kernel,
    by decide +kernel, by decide +kernel, by decide +kernel, by decide +kernel⟩)⟩

def wideLocalhost : PyStr :=
  [0xFF4C, 0xFF4F, 0xFF43, 0xFF41, 0xFF4C, 0xFF48, 0xFF4F, 0xFF53, 0xFF54]

/- It is accepted, in lower case already, and its mapped spelling is not. -/
theorem wideLocalhostAccepted : (Python.onAscii []).lower wideLocalhost = wideLocalhost ∧
    (validateHost (Python.onAscii []) wideLocalhost).isOk = true ∧
    (validateHost (Python.onAscii []) (idnaMapped wideLocalhost)).isOk = false := by
  decide +kernel

end SentinelGpt.TargetNormalization
