import SentinelGpt.JsonScanner

/-! IP addresses as the standard library's `ipaddress` reads and classifies them. -/
namespace SentinelGpt

inductive IPAddress where
  | v4 (value : Fin (2 ^ 32))
  | v6 (value : Fin (2 ^ 128)) (scopeId : Option PyStr)
  deriving DecidableEq, Repr

namespace IPAddress
open JsonScan

def parseOctet (octet : PyStr) : Option Nat :=
  if octet.isEmpty || !octet.all isDigit || 3 < octet.length then none
  else if octet ≠ py "0" ∧ octet.head? = some 0x30 then none
  else if 255 < digitsValue octet then none
  else some (digitsValue octet)

instance someV4 : NeZero (2 ^ 32) := ⟨by decide⟩

instance someV6 : NeZero (2 ^ 128) := ⟨by decide⟩

def parseV4 (text : PyStr) : Option (Fin (2 ^ 32)) :=
  match (splitOn 0x2E text).mapM parseOctet with
  | some [a, b, c, d] => some (Fin.ofNat _ (((a * 256 + b) * 256 + c) * 256 + d))
  | _ => none

def parseHextet (hextet : PyStr) : Option Nat :=
  if hextet.isEmpty || 4 < hextet.length then none
  else do return (← hextet.mapM hexValue).foldl (fun n d => n * 16 + d) 0

def colonParts (text : PyStr) : Option (List PyStr) :=
  let parts := splitOn 0x3A text
  if parts.length < 3 then none
  else match parts.getLast? with
    | some last =>
      if last.contains 0x2E then do
        let suffix ← parseV4 last
        return parts.dropLast ++ [hexOf (suffix.val / 65536), hexOf (suffix.val % 65536)]
      else some parts
    | none => none
where
  hexOf (n : Nat) : PyStr := [n / 4096, n / 256, n / 16, n].map fun d =>
    if d % 16 < 10 then ofNat (0x30 + d % 16) else ofNat (0x57 + d % 16)

def skips (parts : List PyStr) : List Nat :=
  (List.range parts.length).filter fun i =>
    1 ≤ i && i + 1 < parts.length && (parts[i]?.any List.isEmpty)

def hextets (parts : List PyStr) : Option Nat := do
  return (← parts.mapM parseHextet).foldl (fun n h => n * 65536 + h) 0

def v6Value (parts : List PyStr) : Option Nat :=
  match skips parts with
  | [] => if parts.length = 8 then hextets parts else none
  | [skip] =>
    let leading := parts.head?.any List.isEmpty
    let trailing := parts.getLast?.any List.isEmpty
    let low := parts.length - skip - 1
    if (leading && skip ≠ 1) || (trailing && low ≠ 1) then none
    else
      let high := if leading then [] else parts.take skip
      let rest := if trailing then [] else parts.drop (skip + 1)
      if 8 ≤ high.length + rest.length then none
      else do
        let h ← hextets high
        let l ← hextets rest
        return h * 65536 ^ (8 - high.length) + l
  | _ => none

def parseV6 (text : PyStr) : Option (Fin (2 ^ 128) × Option PyStr) :=
  let (address, hasScope, scopeId) := partition 0x25 text
  if hasScope && (scopeId.isEmpty || scopeId.contains 0x25) then none
  else do
    let parts ← colonParts address
    if 9 < parts.length then none
    let value ← v6Value parts
    return (Fin.ofNat _ value, if hasScope then some scopeId else none)

/- `ipaddress.ip_address(text)`; `none` is its ValueError. -/
def parse (text : PyStr) : Option IPAddress :=
  if text.contains 0x2F then none
  else match parseV4 text with
    | some value => some (.v4 value)
    | none => (parseV6 text).map fun (value, scopeId) => .v6 value scopeId

structure Block where
  first : Nat
  hostBits : Nat
  deriving DecidableEq, Repr

def Block.holds (b : Block) (value : Nat) : Bool := value / 2 ^ b.hostBits == b.first / 2 ^ b.hostBits

def net4 (a b c d length : Nat) : Block := ⟨((a * 256 + b) * 256 + c) * 256 + d, 32 - length⟩

def net6 (a b c last length : Nat) : Block :=
  ⟨((a * 65536 + b) * 65536 + c) * 2 ^ 80 + last, 128 - length⟩

def privateV4 : List Block :=
  [net4 0 0 0 0 8, net4 10 0 0 0 8, net4 127 0 0 0 8, net4 169 254 0 0 16, net4 172 16 0 0 12,
   net4 192 0 0 0 24, net4 192 0 0 170 31, net4 192 0 2 0 24, net4 192 168 0 0 16,
   net4 198 18 0 0 15, net4 198 51 100 0 24, net4 203 0 113 0 24, net4 240 0 0 0 4,
   net4 255 255 255 255 32]

def privateV4Exceptions : List Block := [net4 192 0 0 9 32, net4 192 0 0 10 32]

def privateV6 : List Block :=
  [net6 0 0 0 1 128, net6 0 0 0 0 128, ⟨0xFFFF * 2 ^ 32, 32⟩, net6 0x64 0xFF9B 1 0 48,
   net6 0x100 0 0 0 64, net6 0x2001 0 0 0 23, net6 0x2001 0xDB8 0 0 32, net6 0x2002 0 0 0 16,
   net6 0xFC00 0 0 0 7, net6 0xFE80 0 0 0 10]

def privateV6Exceptions : List Block :=
  [net6 0x2001 1 0 1 128, net6 0x2001 1 0 2 128, net6 0x2001 3 0 0 32, net6 0x2001 4 0x112 0 48,
   net6 0x2001 0x20 0 0 28, net6 0x2001 0x30 0 0 28]

def reservedV6 : List Block :=
  [net6 0 0 0 0 8, net6 0x100 0 0 0 8, net6 0x200 0 0 0 7, net6 0x400 0 0 0 6, net6 0x800 0 0 0 5,
   net6 0x1000 0 0 0 4, net6 0x4000 0 0 0 3, net6 0x6000 0 0 0 3, net6 0x8000 0 0 0 3,
   net6 0xA000 0 0 0 3, net6 0xC000 0 0 0 3, net6 0xE000 0 0 0 4, net6 0xF000 0 0 0 5,
   net6 0xF800 0 0 0 6, net6 0xFE00 0 0 0 9]

def isPrivateV4 (value : Nat) : Bool :=
  privateV4.any (·.holds value) && privateV4Exceptions.all fun b => !b.holds value

def ipv4Mapped (value : Nat) : Option Nat :=
  if value / 2 ^ 32 = 0xFFFF then some (value % 2 ^ 32) else none

def isPrivate : IPAddress → Bool
  | .v4 value => isPrivateV4 value
  | .v6 value _ => match ipv4Mapped value with
    | some mapped => isPrivateV4 mapped
    | none => privateV6.any (·.holds value) && privateV6Exceptions.all fun b => !b.holds value

def isGlobal : IPAddress → Bool
  | .v4 value => !(net4 100 64 0 0 10).holds value && !isPrivateV4 value
  | .v6 value scopeId => !isPrivate (.v6 value scopeId)

def isUnspecified : IPAddress → Bool
  | .v4 value => value.val == 0
  | .v6 value _ => value.val == 0

def isLoopback : IPAddress → Bool
  | .v4 value => (net4 127 0 0 0 8).holds value
  | .v6 value _ => value.val == 1

def isLinkLocal : IPAddress → Bool
  | .v4 value => (net4 169 254 0 0 16).holds value
  | .v6 value _ => (net6 0xFE80 0 0 0 10).holds value

def isMulticast : IPAddress → Bool
  | .v4 value => (net4 224 0 0 0 4).holds value
  | .v6 value _ => (net6 0xFF00 0 0 0 8).holds value

def isReserved : IPAddress → Bool
  | .v4 value => (net4 240 0 0 0 4).holds value
  | .v6 value _ => reservedV6.any (·.holds value)

def version : IPAddress → Nat
  | .v4 _ => 4
  | .v6 _ _ => 6

def octets (value : Nat) : List Nat :=
  [value / 2 ^ 24 % 256, value / 2 ^ 16 % 256, value / 2 ^ 8 % 256, value % 256]

def hextetsOf (value : Nat) : List Nat :=
  (List.range 8).map fun i => value / 65536 ^ (7 - i) % 65536

/- The first of the longest runs of zeros: where it starts, and its length. -/
def longestZeros (parts : List Nat) : Nat × Nat :=
  (List.range parts.length).foldl (fun best i =>
    let length := ((parts.drop i).takeWhile (· == 0)).length
    if best.2 < length then (i, length) else best) (0, 0)

def hextetText (n : Nat) : PyStr := (Nat.toDigits 16 n).map codePoint

/- The hextets, with an empty one in the place of the longest run of zeros; at either end
of the address that takes another empty one. -/
def compressed (parts : List Nat) : List PyStr :=
  let (start, length) := longestZeros parts
  if 1 < length then
    (if start = 0 then [[]] else []) ++ (parts.take start).map hextetText ++ [[]] ++
      (parts.drop (start + length)).map hextetText ++
      (if start + length = parts.length then [[]] else [])
  else parts.map hextetText

def text : IPAddress → PyStr
  | .v4 value => join (py ".") ((octets value).map fun n => py (toString n))
  | .v6 value scopeId =>
    join (py ":") (compressed (hextetsOf value)) ++
      match scopeId with
      | some scope => if scope.isEmpty then [] else 0x25 :: scope
      | none => []

def ofOctets (a b c d : Nat) : IPAddress := .v4 (Fin.ofNat _ (((a * 256 + b) * 256 + c) * 256 + d))

end IPAddress
end SentinelGpt
