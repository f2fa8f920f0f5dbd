import Mathlib.Algebra.GroupWithZero.Nat
import Mathlib.Data.Fin.Basic
import Mathlib.Tactic.Common

/-! Base64 over character codes: the encoding, and the decoding that skips what is not of the
alphabet and asks only for complete padding. -/
namespace Base64

abbrev Byte := Fin 256

instance someByte : NeZero 256 := ⟨by decide⟩

def byte (n : Nat) : Byte := Fin.ofNat 256 n

def letter (v : Nat) : Nat :=
  if v < 26 then 0x41 + v else if v < 52 then 0x61 + (v - 26) else if v < 62 then 0x30 + (v - 52)
  else if v = 62 then 0x2B else 0x2F

def value? (c : Nat) : Option Nat :=
  if 0x41 ≤ c ∧ c ≤ 0x5A then some (c - 0x41)
  else if 0x61 ≤ c ∧ c ≤ 0x7A then some (c - 0x61 + 26)
  else if 0x30 ≤ c ∧ c ≤ 0x39 then some (c - 0x30 + 52)
  else if c = 0x2B then some 62
  else if c = 0x2F then some 63
  else none

def pad : Nat := 0x3D

def encode : List Byte → List Nat
  | [] => []
  | [a] => [letter (a.val / 4), letter (a.val % 4 * 16), pad, pad]
  | [a, b] => [letter (a.val / 4), letter (a.val % 4 * 16 + b.val / 16), letter (b.val % 16 * 4), pad]
  | a :: b :: c :: rest =>
    letter (a.val / 4) :: letter (a.val % 4 * 16 + b.val / 16) :: letter (b.val % 16 * 4 + c.val / 64) ::
      letter (c.val % 64) :: encode rest

/- Inside a group of four: how many of its characters are read, the bits not written yet, and the
pads since. Enough pads end the text, whatever follows; they count in the second half only. -/
def decodeFrom (quad left pads : Nat) : List Nat → Option (List Byte)
  | [] => if quad = 0 then some [] else none
  | c :: rest =>
    if c = pad then
      if 2 ≤ quad then
        if 4 ≤ quad + (pads + 1) then some [] else decodeFrom quad left (pads + 1) rest
      else decodeFrom quad left pads rest
    else match value? c with
      | none => decodeFrom quad left pads rest
      | some v =>
        if quad = 0 then decodeFrom 1 v 0 rest
        else if quad = 1 then (decodeFrom 2 (v % 16) 0 rest).map (byte (left * 4 + v / 16) :: ·)
        else if quad = 2 then (decodeFrom 3 (v % 4) 0 rest).map (byte (left * 16 + v / 4) :: ·)
        else (decodeFrom 0 0 0 rest).map (byte (left * 64 + v) :: ·)

def decode (codes : List Nat) : Option (List Byte) := decodeFrom 0 0 0 codes

theorem letterValue : ∀ v < 64, letter v ≠ pad ∧ value? (letter v) = some v := by decide

theorem decodeLetter {quad left pads v : Nat} (small : v < 64) (rest : List Nat) :
    decodeFrom quad left pads (letter v :: rest) =
      if quad = 0 then decodeFrom 1 v 0 rest
      else if quad = 1 then (decodeFrom 2 (v % 16) 0 rest).map (byte (left * 4 + v / 16) :: ·)
      else if quad = 2 then (decodeFrom 3 (v % 4) 0 rest).map (byte (left * 16 + v / 4) :: ·)
      else (decodeFrom 0 0 0 rest).map (byte (left * 64 + v) :: ·) := by
  obtain ⟨other, value⟩ := letterValue v small
  rw [decodeFrom, if_neg other, value]

theorem byteIs {n : Nat} {b : Byte} (same : n = b.val) : byte n = b := by
  apply Fin.ext
  rw [byte, Fin.val_ofNat, same, Nat.mod_eq_of_lt b.isLt]

theorem decodeEncode (data : List Byte) : decode (encode data) = some data := by
  unfold decode
  induction data using encode.induct with
  | case1 => rfl
  | case2 a =>
    have first := a.isLt
    rw [encode, decodeLetter (by omega), if_pos rfl, decodeLetter (by omega), if_neg (by decide), if_pos rfl,
      byteIs (b := a) (by omega)]
    rfl
  | case3 a b =>
    have first := a.isLt
    have second := b.isLt
    rw [encode, decodeLetter (by omega), if_pos rfl, decodeLetter (by omega), if_neg (by decide), if_pos rfl,
      decodeLetter (by omega), if_neg (by decide), if_neg (by decide), if_pos rfl, byteIs (b := a) (by omega),
      byteIs (b := b) (by omega)]
    rfl
  | case4 a b c rest ih =>
    have first := a.isLt
    have second := b.isLt
    have third := c.isLt
    rw [encode, decodeLetter (by omega), if_pos rfl, decodeLetter (by omega), if_neg (by decide), if_pos rfl,
      decodeLetter (by omega), if_neg (by decide), if_neg (by decide), if_pos rfl, decodeLetter (by omega),
      if_neg (by decide), if_neg (by decide), if_neg (by decide), ih, byteIs (b := a) (by omega),
      byteIs (b := b) (by omega), byteIs (b := c) (by omega)]
    rfl

theorem encodedLetter {data : List Byte} {code : Nat} (inside : code ∈ encode data) :
    code = pad ∨ ∃ v < 64, code = letter v := by
  induction data using encode.induct with
  | case1 => cases inside
  | case2 a =>
    have first := a.isLt
    simp only [encode, List.mem_cons, List.not_mem_nil, or_false] at inside
    rcases inside with rfl | rfl | rfl | rfl
    · exact .inr ⟨_, by omega, rfl⟩
    · exact .inr ⟨_, by omega, rfl⟩
    · exact .inl rfl
    · exact .inl rfl
  | case3 a b =>
    have first := a.isLt
    have second := b.isLt
    simp only [encode, List.mem_cons, List.not_mem_nil, or_false] at inside
    rcases inside with rfl | rfl | rfl | rfl
    · exact .inr ⟨_, by omega, rfl⟩
    · exact .inr ⟨_, by omega, rfl⟩
    · exact .inr ⟨_, by omega, rfl⟩
    · exact .inl rfl
  | case4 a b c rest ih =>
    have first := a.isLt
    have second := b.isLt
    have third := c.isLt
    simp only [encode, List.mem_cons] at inside
    rcases inside with rfl | rfl | rfl | rfl | later
    · exact .inr ⟨_, by omega, rfl⟩
    · exact .inr ⟨_, by omega, rfl⟩
    · exact .inr ⟨_, by omega, rfl⟩
    · exact .inr ⟨_, by omega, rfl⟩
    · exact ih later

def toUrl (code : Nat) : Nat := if code = 0x2B then 0x2D else if code = 0x2F then 0x5F else code
def ofUrl (code : Nat) : Nat := if code = 0x2D then 0x2B else if code = 0x5F then 0x2F else code

def urlEncode (data : List Byte) : List Nat := (encode data).map toUrl
def urlDecode (codes : List Nat) : Option (List Byte) := decode (codes.map ofUrl)

theorem letterPlain : ∀ v < 64, letter v < 0x80 ∧ ofUrl (toUrl (letter v)) = letter v := by decide

theorem encodedSmall {data : List Byte} {code : Nat} (inside : code ∈ encode data) : code < 0x80 := by
  rcases encodedLetter inside with rfl | found
  · decide
  · obtain ⟨v, small, rfl⟩ := found
    exact (letterPlain v small).1

theorem urlEncodedSmall {data : List Byte} {code : Nat} (inside : code ∈ urlEncode data) : code < 0x80 := by
  obtain ⟨plain, member, rfl⟩ := List.mem_map.mp inside
  have small := encodedSmall member
  unfold toUrl
  split
  · decide
  · split
    · decide
    · exact small

theorem urlDecodeEncode (data : List Byte) : urlDecode (urlEncode data) = some data := by
  have back : (encode data).map (ofUrl ∘ toUrl) = encode data := by
    refine (List.map_congr_left fun code inside => ?_).trans (List.map_id _)
    rcases encodedLetter inside with rfl | found
    · rfl
    · obtain ⟨v, small, rfl⟩ := found
      exact (letterPlain v small).2
  rw [urlDecode, urlEncode, List.map_map, back, decodeEncode]

end Base64
