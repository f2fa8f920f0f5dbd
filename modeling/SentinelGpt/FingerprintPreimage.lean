import SentinelGpt.FindingIdentity

/-! What a fingerprint is hashed from tells the host, the category and the identifier. -/
namespace SentinelGpt
open Fingerprinting

def isUpperAscii (c : CodePoint) : Bool := 0x41 ≤ c.val && c.val ≤ 0x5A
def isLowerAscii (c : CodePoint) : Bool := 0x61 ≤ c.val && c.val ≤ 0x7A

/- What the Unicode tables behind `str.lower` and `str.upper` keep to: no letter of the other case is left
in ASCII, no bar comes or goes, and a first letter that no other character is lowered to has its capital
as the upper case of what it came from. -/
structure CaseTables (python : Python) : Prop where
  lowered : ∀ s, ∀ c ∈ python.lower s, isUpperAscii c = false
  uppered : ∀ s, ∀ c ∈ python.upper s, isLowerAscii c = false
  lowerBar : ∀ s, (0x7C : CodePoint) ∈ s → (0x7C : CodePoint) ∈ python.lower s
  upperBar : ∀ s, (0x7C : CodePoint) ∈ python.upper s → (0x7C : CodePoint) ∈ s
  firstH : ∀ s, (python.lower s).head? = some 0x68 → (python.upper s).head? = some 0x48

structure Fingerprinted (python : Python) where
  hostname : PyStr
  categoryCode : PyStr
  title : PyStr
  location : PyStr
  identifier : PyStr
  fingerprint : PyStr
  extracted : extractIdentifier python categoryCode title location = .ok identifier
  generated : generateFingerprintFromFinding python hostname categoryCode title location = .ok fingerprint

namespace Fingerprinted
variable {python : Python}

def host (f : Fingerprinted python) : PyStr := normalizeHostname python f.hostname
def category (f : Fingerprinted python) : PyStr := python.upper (strip f.categoryCode)
def ident (f : Fingerprinted python) : PyStr := normalizeGenericIdentifier python f.identifier

def raw (f : Fingerprinted python) : PyStr := preimage python f.hostname f.category f.ident

theorem hashed (f : Fingerprinted python) : f.fingerprint = python.sha256 f.raw := by
  have made := f.generated
  unfold generateFingerprintFromFinding at made
  rw [f.extracted] at made
  have made : generateFingerprint python f.hostname f.categoryCode f.identifier = .ok f.fingerprint := made
  unfold generateFingerprint at made
  dsimp only at made
  split at made
  · cases made
  · unfold hexdigest encode at made
    split at made
    · exact (Except.ok.inj made).symm
    · cases made

end Fingerprinted

section Parts
variable {python : Python}

theorem hostLowered (tables : CaseTables python) (hostname : PyStr) : ∀ c ∈ normalizeHostname python hostname, isUpperAscii c = false := by
  intro c inside
  rw [normalizeHostname, rstrip, List.mem_reverse] at inside
  exact tables.lowered _ c (List.mem_reverse.mp ((List.dropWhile_sublist _).subset inside))

theorem extractorKey {code : PyStr} {extract : PyStr → PyStr → Option PyStr}
    (found : extractorFor python code = some extract) :
    code ∈ [py "MISSING_SECURITY_HEADER", py "KNOWN_CVE", py "EXPOSED_ADMIN_PANEL", py "OUTDATED_TLS", py "WEAK_CIPHER"] ∨
      code ∈ [py "http.security-headers", py "http.cookies", py "http.transport", py "http.server-info"] := by
  unfold extractorFor at found
  obtain ⟨entry, inTable, -⟩ := Option.map_eq_some_iff.mp found
  have named := List.find?_some inTable
  have key : entry.1 = code := beq_iff_eq.mp named
  have member : entry.1 ∈ (identifierExtractors python).map Prod.fst :=
    List.mem_map_of_mem (List.mem_of_find?_eq_some inTable)
  rw [key] at member
  simp only [identifierExtractors, List.map_cons, List.map_nil, List.mem_cons, List.not_mem_nil, or_false] at member ⊢
  rcases member with h | h | h | h | h | h | h | h | h
  · exact .inl (.inl h)
  · exact .inr (.inl h)
  · exact .inr (.inr (.inl h))
  · exact .inr (.inr (.inr (.inl h)))
  · exact .inr (.inr (.inr (.inr h)))
  · exact .inl (.inr (.inl h))
  · exact .inl (.inr (.inr (.inl h)))
  · exact .inl (.inr (.inr (.inr (.inl h))))
  · exact .inl (.inr (.inr (.inr (.inr h))))

def IsCode (text : PyStr) : Prop := (∃ c rest, text = c :: rest ∧ isUpperAscii c = true) ∧ (0x7C : CodePoint) ∉ text

theorem canonicalCode : ∀ code ∈ [py "MISSING_SECURITY_HEADER", py "KNOWN_CVE", py "EXPOSED_ADMIN_PANEL",
    py "OUTDATED_TLS", py "WEAK_CIPHER"], isUpperAscii (code.headD 0) = true ∧ (0x7C : CodePoint) ∉ code ∧
      code.any isUpperAscii = true := by decide

theorem engineCode : ∀ code ∈ [py "http.security-headers", py "http.cookies", py "http.transport", py "http.server-info"],
    code.head? = some 0x68 ∧ (0x7C : CodePoint) ∉ code ∧ code.any isLowerAscii = true := by decide

theorem categoryIsCode (tables : CaseTables python) {categoryCode title location identifier : PyStr}
    (extracted : extractIdentifier python categoryCode title location = .ok identifier) :
    IsCode (python.upper (strip categoryCode)) := by
  have known : (∃ extract, extractorFor python (python.upper (strip categoryCode)) = some extract) ∨
      ∃ extract, extractorFor python (python.lower (strip categoryCode)) = some extract := by
    unfold extractIdentifier at extracted
    cases upper : extractorFor python (python.upper (strip categoryCode)) with
    | some extract => exact .inl ⟨extract, rfl⟩
    | none =>
      cases lower : extractorFor python (python.lower (strip categoryCode)) with
      | some extract => exact .inr ⟨extract, rfl⟩
      | none =>
        rw [upper, lower] at extracted
        cases extracted
  rcases known with ⟨extract, found⟩ | ⟨extract, found⟩
  · rcases extractorKey found with canonical | engine
    · obtain ⟨first, bar, -⟩ := canonicalCode _ canonical
      cases text : python.upper (strip categoryCode) with
      | nil =>
        rw [text] at first
        cases first
      | cons c rest =>
        rw [text] at first bar
        exact ⟨⟨c, rest, rfl, first⟩, bar⟩
    · obtain ⟨-, -, small⟩ := engineCode _ engine
      obtain ⟨c, inside, letter⟩ := List.any_eq_true.mp small
      rw [tables.uppered _ c inside] at letter
      cases letter
  · rcases extractorKey found with canonical | engine
    · obtain ⟨-, -, capital⟩ := canonicalCode _ canonical
      obtain ⟨c, inside, letter⟩ := List.any_eq_true.mp capital
      rw [tables.lowered _ c inside] at letter
      cases letter
    · obtain ⟨first, bar, -⟩ := engineCode _ engine
      have plain : (0x7C : CodePoint) ∉ python.upper (strip categoryCode) := fun inside =>
        bar (tables.lowerBar _ (tables.upperBar _ inside))
      cases text : python.upper (strip categoryCode) with
      | nil =>
        have capital := tables.firstH _ first
        rw [text] at capital
        cases capital
      | cons c rest =>
        have capital := tables.firstH _ first
        rw [text, List.head?_cons] at capital
        rw [text] at plain
        exact ⟨⟨c, rest, rfl, Option.some.inj capital ▸ rfl⟩, plain⟩

end Parts

theorem takeFront {p : CodePoint → Bool} {front : PyStr} {c : CodePoint} (rest : PyStr) (all : ∀ d ∈ front, p d = true)
    (stop : p c = false) : (front ++ c :: rest).takeWhile p = front := by
  rw [List.takeWhile_append_of_pos all, List.takeWhile_cons_of_neg (by rw [stop]; exact Bool.false_ne_true), List.append_nil]

theorem partsTell {host category ident host' category' ident' : PyStr} (lower : ∀ c ∈ host, isUpperAscii c = false)
    (lower' : ∀ c ∈ host', isUpperAscii c = false) (code : IsCode category) (code' : IsCode category')
    (same : host ++ py "|" ++ category ++ py "|" ++ ident = host' ++ py "|" ++ category' ++ py "|" ++ ident') :
    host = host' ∧ category = category' ∧ ident = ident' := by
  have front : ∀ {text code : PyStr} (ident : PyStr), (∀ c ∈ text, isUpperAscii c = false) → IsCode code →
      (text ++ py "|" ++ code ++ py "|" ++ ident).takeWhile (fun c => !isUpperAscii c) = text ++ py "|" := by
    intro text code ident lower isCode
    obtain ⟨⟨c, rest, rfl, capital⟩, -⟩ := isCode
    have all : ∀ d ∈ text ++ py "|", (!isUpperAscii d) = true := by
      intro d inside
      rcases List.mem_append.mp inside with inside | inside
      · rw [lower d inside, Bool.not_false]
      · rw [List.mem_singleton.mp inside]
        rfl
    rw [List.append_assoc (text ++ py "|"), List.append_assoc (text ++ py "|")]
    exact takeFront _ all (by rw [capital, Bool.not_true])
  have fronts := front ident lower code
  rw [same, front ident' lower' code'] at fronts
  have hosts : host = host' := (List.append_cancel_right fronts).symm
  rw [hosts] at same
  have rest : category ++ 0x7C :: ident = category' ++ 0x7C :: ident' := by
    simp only [List.append_assoc] at same
    exact List.append_cancel_left (List.append_cancel_left same)
  have codes : ∀ {text : PyStr}, (0x7C : CodePoint) ∉ text → ∀ c ∈ text, (c != 0x7C) = true := fun plain c inside =>
    bne_iff_ne.mpr fun bar => plain (bar ▸ inside)
  have first := takeFront ident (codes code.2) (by decide : ((0x7C : CodePoint) != 0x7C) = false)
  rw [rest, takeFront ident' (codes code'.2) (by decide)] at first
  rw [first] at rest
  exact ⟨hosts, first.symm, List.tail_eq_of_cons_eq (List.append_cancel_left rest)⟩

/- A fingerprint is the digest of a text that determines the host, the category and the identifier,
whatever bars are in the host and in the identifier. -/
theorem preimageTells {python : Python} (tables : CaseTables python) (f g : Fingerprinted python) :
    (f.fingerprint = python.sha256 f.raw ∧ g.fingerprint = python.sha256 g.raw) ∧
      (f.raw = g.raw → f.host = g.host ∧ f.category = g.category ∧ f.ident = g.ident) := by
  constructor
  · exact ⟨f.hashed, g.hashed⟩
  · exact fun same => partsTell (hostLowered tables f.hostname) (hostLowered tables g.hostname)
      (categoryIsCode tables f.extracted) (categoryIsCode tables g.extracted) same

theorem addVal {c : CodePoint} (letter : c.val < 0x80) : (c + 0x20).val = c.val + 0x20 := by
  rw [Fin.val_add, Nat.mod_eq_of_lt (by omega)]
  rfl

theorem subVal {c : CodePoint} (letter : 0x20 ≤ c.val) : (c - 0x20).val = c.val - 0x20 :=
  Fin.sub_val_of_le (Fin.le_def.mpr letter)

theorem asciiTables (digests : List (PyStr × String)) : CaseTables (Python.onAscii digests) where
  lowered := by
    intro s c inside
    obtain ⟨d, -, rfl⟩ := List.mem_map.mp inside
    simp only [isUpperAscii, Bool.and_eq_false_iff, decide_eq_false_iff_not]
    split
    · rw [addVal (by omega)]
      omega
    · omega
  uppered := by
    intro s c inside
    obtain ⟨d, -, rfl⟩ := List.mem_map.mp inside
    simp only [isLowerAscii, Bool.and_eq_false_iff, decide_eq_false_iff_not]
    split
    · rw [subVal (by omega)]
      omega
    · omega
  lowerBar := fun s inside => List.mem_map.mpr ⟨0x7C, inside, rfl⟩
  upperBar := by
    intro s inside
    obtain ⟨d, member, same⟩ := List.mem_map.mp inside
    have codes := congrArg Fin.val same
    have bar : (0x7C : CodePoint).val = 0x7C := rfl
    split at codes
    · rw [subVal (by omega), bar] at codes
      omega
    · exact (Fin.ext codes : d = 0x7C) ▸ member
  firstH := by
    intro s first
    cases s with
    | nil => cases first
    | cons c s =>
      have code := congrArg Fin.val (Option.some.inj first)
      have small : (0x68 : CodePoint).val = 0x68 := rfl
      have either : c = 0x48 ∨ c = 0x68 := by
        dsimp only at code
        split at code
        · rw [addVal (by omega), small] at code
          exact .inl (Fin.ext (by omega))
        · exact .inr (Fin.ext code)
      rcases either with rfl | rfl <;> rfl

def barredDigest : String := "f794259c8bf2a584f9e85f8b24245a11ce8948903195188d2f80f87c8baa8423"

def barredPython : Python := Python.onAscii [(py "a|weak_cipher|b|KNOWN_CVE|cve-2024-12345", barredDigest)]

def barredHost (hostname : PyStr) (made : generateFingerprintFromFinding barredPython hostname (py "KNOWN_CVE")
    (py "CVE-2024-12345 | WEAK_CIPHER") [] = .ok (py barredDigest)) : Fingerprinted barredPython where
  hostname := hostname
  categoryCode := py "KNOWN_CVE"
  title := py "CVE-2024-12345 | WEAK_CIPHER"
  location := []
  identifier := py "CVE-2024-12345"
  fingerprint := py barredDigest
  extracted := by decide +kernel
  generated := made

theorem barredTold : ∃ f g : Fingerprinted barredPython, f.hostname = py "a|WEAK_CIPHER|b." ∧
    g.hostname = py " A|weak_cipher|B" ∧ barredPython.sha256 f.raw = py barredDigest ∧
      f.host = g.host ∧ f.category = g.category ∧ f.ident = g.ident := by
  let f := barredHost (py "a|WEAK_CIPHER|b.") (by decide +kernel)
  let g := barredHost (py " A|weak_cipher|B") (by decide +kernel)
  have same : f.raw = g.raw := by decide +kernel
  obtain ⟨⟨hashed, -⟩, told⟩ := preimageTells (asciiTables _) f g
  exact ⟨f, g, rfl, rfl, hashed.symm, told same⟩

end SentinelGpt
