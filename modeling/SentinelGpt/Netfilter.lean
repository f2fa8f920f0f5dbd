import SentinelGpt.AddressTexts
import SentinelGpt.SandboxPolicy

/-! The OUTPUT chain of a network namespace: what it decides of a packet, and how it is printed. -/
namespace SentinelGpt

def RuleTool.width : RuleTool → Nat
  | .iptables => 32
  | .ip6tables => 128

def RuleTool.address : (tool : RuleTool) → Fin (2 ^ tool.width) → IPAddress
  | .iptables, value => .v4 value
  | .ip6tables, value => .v6 value none

namespace Netfilter
open JsonScan

inductive Verdict where
  | accept
  | drop
  deriving DecidableEq, Repr

def Verdict.code : Verdict → PyStr
  | .accept => py "ACCEPT"
  | .drop => py "DROP"

inductive ConnectionState where
  | new
  | established
  | related
  | invalid
  | untracked
  deriving DecidableEq, Repr

/- `rest` is whatever else a rule can match: the interfaces, the protocol, the payload. -/
structure Packet (tool : RuleTool) where
  destination : Fin (2 ^ tool.width)
  state : ConnectionState
  rest : List Nat
  deriving DecidableEq, Repr

def Packet.answering {tool : RuleTool} (p : Packet tool) : Bool :=
  p.state == .established || p.state == .related

structure Part where
  text : PyStr
  unbroken : Unbroken text
  deriving DecidableEq

structure Net (tool : RuleTool) where
  base : Fin (2 ^ tool.width)
  mask : Fin (2 ^ tool.width)
  masked : base.val &&& mask.val = base.val
  deriving DecidableEq

def Net.holds {tool : RuleTool} (net : Net tool) (value : Fin (2 ^ tool.width)) : Bool :=
  value.val &&& net.mask.val == net.base.val

/- What a jump names has an effect of its own: a chain, or an extension with its options. -/
inductive Target where
  | accept
  | drop
  | returns
  | continues
  | jump (part : Part)
  | goto (part : Part)
  deriving DecidableEq

/- `! -d` where `negated`; the source is printed before the destination, and every other
match behind it. -/
structure Rule (tool : RuleTool) where
  before : List Part
  destination : Option (Bool × Net tool)
  after : List Part
  target : Target
  deriving DecidableEq

structure Chain (tool : RuleTool) where
  policy : Verdict
  rules : List (Rule tool)
  deriving DecidableEq

/- `inet_ntop` of an IPv6 address, whether a packet meets a match, and what a chain or an
extension that is jumped to decides of it, if anything. -/
structure Kernel where
  ntop : Fin (2 ^ 128) → PyStr
  read : ∀ value, IPAddress.parse (ntop value) = some (.v6 value none)
  written : ∀ value, ∀ c ∈ ntop value, (hexValue c).isSome = true ∨ c = 0x3A ∨ c = 0x2E
  meets : (tool : RuleTool) → PyStr → Packet tool → Bool
  decides : (tool : RuleTool) → PyStr → Packet tool → Option Verdict

variable {tool : RuleTool} (kernel : Kernel)

/-! What is decided. -/

def Rule.holds (rule : Rule tool) (p : Packet tool) : Bool :=
  (rule.before ++ rule.after).all (fun part => kernel.meets tool part.text p) &&
    rule.destination.all fun (negated, net) => net.holds p.destination != negated

def Rule.decision (policy : Verdict) (rule : Rule tool) (p : Packet tool) : Option Verdict :=
  if rule.holds kernel p then
    match rule.target with
    | .accept => some .accept
    | .drop => some .drop
    | .returns => some policy
    | .continues => none
    | .jump part => kernel.decides tool part.text p
    | .goto part => some ((kernel.decides tool part.text p).getD policy)
  else none

/- The first rule that decides. -/
def Chain.verdict (chain : Chain tool) (p : Packet tool) : Verdict :=
  (chain.rules.findSome? fun rule => rule.decision kernel chain.policy p).getD chain.policy

/-! What is printed. -/

def addressText : (tool : RuleTool) → Fin (2 ^ tool.width) → PyStr
  | .iptables, value => IPAddress.text (.v4 value)
  | .ip6tables, value => kernel.ntop value

def Net.prefixLength (net : Net tool) : Option Nat :=
  (List.range (tool.width + 1)).find? fun n => net.mask.val == 2 ^ tool.width - 2 ^ (tool.width - n)

def Net.maskText (net : Net tool) : PyStr :=
  match net.prefixLength with
  | some n => py (toString n)
  | none => addressText kernel tool net.mask

def Net.text (net : Net tool) : PyStr := addressText kernel tool net.base ++ py "/" ++ net.maskText kernel

def partsText (parts : List Part) : PyStr := parts.flatMap fun part => py " " ++ part.text

def Target.text : Target → PyStr
  | .accept => py " -j ACCEPT"
  | .drop => py " -j DROP"
  | .returns => py " -j RETURN"
  | .continues => []
  | .jump part => py " -j " ++ part.text
  | .goto part => py " -g " ++ part.text

def Rule.text (rule : Rule tool) : PyStr :=
  py "-A OUTPUT" ++ partsText rule.before ++
    (match rule.destination with
    | none => []
    | some (negated, net) => (if negated then py " ! -d " else py " -d ") ++ net.text kernel) ++
    partsText rule.after ++ rule.target.text

def Chain.lines (chain : Chain tool) : List PyStr :=
  (py "-P OUTPUT " ++ chain.policy.code) :: chain.rules.map (Rule.text kernel)

def Chain.dump (chain : Chain tool) : PyStr := (chain.lines kernel).flatMap fun line => line ++ [0x0A]

section Lines
variable {kernel : Kernel}

theorem quadWritten {value : Fin (2 ^ 32)} {c : CodePoint} (inside : c ∈ IPAddress.text (.v4 value)) :
    (hexValue c).isSome = true ∨ c = 0x3A ∨ c = 0x2E := by
  rw [IPAddress.textV4] at inside
  rcases memJoin inside with dot | ⟨part, listed, inside⟩
  · exact .inr (.inr dot)
  · obtain ⟨n, -, rfl⟩ := List.mem_map.mp listed
    obtain ⟨d, small, rfl⟩ := memDecimal inside
    rw [(hexDigitCode d (by omega)).1]
    exact .inl rfl

theorem addressWritten {value : Fin (2 ^ tool.width)} {c : CodePoint} (inside : c ∈ addressText kernel tool value) :
    (hexValue c).isSome = true ∨ c = 0x3A ∨ c = 0x2E := by
  cases tool with
  | iptables => exact quadWritten inside
  | ip6tables => exact kernel.written value c inside

theorem addressRead (value : Fin (2 ^ tool.width)) :
    IPAddress.parse (addressText kernel tool value) = some (tool.address value) := by
  cases tool with
  | iptables =>
    have unscoped : ∀ other scope, IPAddress.v4 value ≠ .v6 other (some scope) := fun _ _ other => by cases other
    exact IPAddress.textRead unscoped
  | ip6tables => exact kernel.read value

theorem maskWritten {net : Net tool} {c : CodePoint} (inside : c ∈ net.maskText kernel) :
    (hexValue c).isSome = true ∨ c = 0x3A ∨ c = 0x2E := by
  unfold Net.maskText at inside
  split at inside
  · rw [pyDecimal] at inside
    obtain ⟨d, small, rfl⟩ := memDecimal inside
    rw [(hexDigitCode d (by omega)).1]
    exact .inl rfl
  · exact addressWritten inside

theorem netWritten {net : Net tool} {c : CodePoint} (inside : c ∈ net.text kernel) :
    (hexValue c).isSome = true ∨ c = 0x3A ∨ c = 0x2E ∨ c = 0x2F := by
  simp only [Net.text, List.mem_append] at inside
  rcases inside with (address | slash) | mask
  · exact (addressWritten address).imp_right fun other => other.imp_right .inl
  · exact .inr (.inr (.inr (List.mem_singleton.mp slash)))
  · exact (maskWritten mask).imp_right fun other => other.imp_right .inl

theorem hexPlain {c : CodePoint} (hex : (hexValue c).isSome = true) :
    isSpace c = false ∧ isLineBreak c = false ∧ c ≠ 0x2D := by
  have code : 0x30 ≤ c.val ∧ c.val ≤ 0x66 := by
    unfold hexValue at hex
    split at hex
    · omega
    · split at hex
      · omega
      · split at hex
        · omega
        · cases hex
  refine ⟨?_, ?_, fun same => ?_⟩
  · simp [isSpace]
    omega
  · simp [isLineBreak]
    omega
  · subst same
    omega

theorem netPlain {net : Net tool} {c : CodePoint} (inside : c ∈ net.text kernel) :
    isSpace c = false ∧ isLineBreak c = false ∧ c ≠ 0x2D := by
  rcases netWritten inside with hex | rfl | rfl | rfl
  · exact hexPlain hex
  · decide
  · decide
  · decide

theorem partsUnbroken (parts : List Part) : Unbroken (partsText parts) := by
  intro c inside
  obtain ⟨part, -, inside⟩ := List.mem_flatMap.mp inside
  exact unbrokenAppend (a := py " ") (by decide) part.unbroken c inside

theorem targetUnbroken (target : Target) : Unbroken target.text := by
  cases target with
  | accept | drop | returns | continues => decide
  | jump part | goto part => exact unbrokenAppend (by decide) part.unbroken

theorem ruleUnbroken (rule : Rule tool) : Unbroken (rule.text kernel) := by
  refine unbrokenAppend (unbrokenAppend (unbrokenAppend (unbrokenAppend (by decide) (partsUnbroken _)) ?_)
    (partsUnbroken _)) (targetUnbroken _)
  split
  · exact fun c none => absurd none List.not_mem_nil
  · refine unbrokenAppend ?_ fun c inside => (netPlain inside).2.1
    split <;> decide

theorem lineUnbroken {chain : Chain tool} {line : PyStr} (printed : line ∈ chain.lines kernel) :
    Unbroken line ∧ ∃ rest, line = 0x2D :: rest := by
  rcases List.mem_cons.mp printed with rfl | listed
  · refine ⟨unbrokenAppend (by decide) ?_, _, rfl⟩
    cases chain.policy <;> decide
  · obtain ⟨rule, -, rfl⟩ := List.mem_map.mp listed
    exact ⟨ruleUnbroken rule, _, rfl⟩

theorem linesRead {lines : List PyStr} (unbroken : ∀ line ∈ lines, Unbroken line) :
    splitlines (lines.flatMap fun line => line ++ [0x0A]) = lines := by
  induction lines with
  | nil => rfl
  | cons line lines ih =>
    obtain ⟨first, others⟩ := List.forall_mem_cons.mp unbroken
    rw [List.flatMap_cons, List.append_assoc, List.singleton_append, splitlinesLine first, ih others]

theorem dumpRead (chain : Chain tool) :
    (splitlines (chain.dump kernel)).filter (fun line => !(strip line).isEmpty) = chain.lines kernel := by
  rw [Chain.dump, linesRead fun line printed => (lineUnbroken printed).1, List.filter_eq_self]
  intro line printed
  obtain ⟨-, rest, rfl⟩ := lineUnbroken printed
  have dash : strip (0x2D :: rest) = 0x2D :: (rest.reverse.dropWhile isSpace).reverse :=
    stripAround (n := []) (by decide)
  rw [dash]
  rfl

end Lines

section Decided
variable {kernel : Kernel} {chain : Chain tool} {p : Packet tool}

theorem acceptedBy (drops : chain.policy = .drop) : chain.verdict kernel p = .accept ↔
    ∃ front rule back, chain.rules = front ++ rule :: back ∧
      rule.decision kernel chain.policy p = some .accept ∧
      ∀ earlier ∈ front, earlier.decision kernel chain.policy p = none := by
  have first : chain.verdict kernel p = .accept ↔
      (chain.rules.findSome? fun rule => rule.decision kernel chain.policy p) = some .accept := by
    rw [Chain.verdict, drops]
    cases chain.rules.findSome? fun rule => rule.decision kernel .drop p with
    | none => simp
    | some verdict => simp
  rw [first, List.findSome?_eq_some_iff]

end Decided

end Netfilter
end SentinelGpt
