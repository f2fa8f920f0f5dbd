import Mathlib.Data.List.Infix
import SentinelGpt.Netfilter
import SentinelGpt.SandboxSessions

/-! What a verified sandbox lets out: the rules that are read of a dump, and those that are not. -/
namespace SentinelGpt.Netfilter
open Calling DockerEgressSandbox

variable {tool : RuleTool} {kernel : Kernel}

/- The one form of an accepting rule that the pattern is written for. -/
structure Rule.Destined (rule : Rule tool) (net : Net tool) : Prop where
  plain : rule.destination = some (false, net)
  bare : rule.after = []
  accepting : rule.target = .accept

/-! The pattern on a rule of that form. -/
section Pattern

theorem destinationRead {d : PyStr} (rest : PyStr) (word : ∀ c ∈ d, isSpace c = false) (some : d ≠ []) :
    destinationAt (py "-d " ++ (d ++ (py " -j ACCEPT" ++ rest))) = .some d := by
  have begins : (py "-d ").isPrefixOf (py "-d " ++ (d ++ (py " -j ACCEPT" ++ rest))) = true := rfl
  have behind : (py "-d " ++ (d ++ (py " -j ACCEPT" ++ rest))).drop 3 = d ++ (py " -j ACCEPT" ++ rest) := rfl
  have words : ∀ c ∈ d, (!isSpace c) = true := fun c inside => by rw [word c inside]; rfl
  have taken : (d ++ (py " -j ACCEPT" ++ rest)).takeWhile (fun c => !isSpace c) = d := by
    rw [List.takeWhile_append_of_pos words]
    exact List.append_nil d
  have left : (d ++ (py " -j ACCEPT" ++ rest)).dropWhile (fun c => !isSpace c) = py " -j ACCEPT" ++ rest := by
    rw [List.dropWhile_append_of_pos words]
    rfl
  have filled : d.isEmpty = false := by
    cases d with
    | nil => exact absurd rfl some
    | cons _ _ => rfl
  have ends : (py " -j ACCEPT").isPrefixOf (py " -j ACCEPT" ++ rest) = true :=
    List.isPrefixOf_iff_prefix.mpr (List.prefix_append _ _)
  simp only [destinationAt, begins, if_true, behind, taken, left, filled, ends]
  rfl

theorem destinationBegins {text : PyStr} (other : ∀ rest, text ≠ 0x2D :: 0x64 :: rest) : destinationAt text = none := by
  have different : (py "-d ").isPrefixOf text = false := by
    rw [Bool.eq_false_iff]
    intro begins
    obtain ⟨rest, rfl⟩ := List.isPrefixOf_iff_prefix.mp begins
    exact other _ rfl
  rw [destinationAt, different]
  rfl

theorem destinationBehind {d : PyStr} (plain : ∀ c ∈ d, c ≠ 0x2D) :
    (d ++ py " -j ACCEPT").tails.reverse.findSome? destinationAt = none := by
  induction d with
  | nil => decide
  | cons c d ih =>
    obtain ⟨first, others⟩ := List.forall_mem_cons.mp plain
    rw [List.cons_append, List.tails_cons, List.reverse_cons, List.findSome?_append, ih others]
    have none : destinationAt (c :: (d ++ py " -j ACCEPT")) = none :=
      destinationBegins fun rest same => first (List.cons.inj same).1
    simp only [List.findSome?_cons, List.findSome?_nil, none]
    rfl

theorem destinationLast {d : PyStr} (front : PyStr) (word : ∀ c ∈ d, isSpace c = false ∧ c ≠ 0x2D) (some : d ≠ []) :
    (front ++ (py "-d " ++ (d ++ py " -j ACCEPT"))).tails.reverse.findSome? destinationAt = .some d := by
  induction front with
  | nil =>
    have behind : ((0x64 : CodePoint) :: 0x20 :: (d ++ py " -j ACCEPT")).tails.reverse.findSome? destinationAt = none := by
      have plain : ∀ c ∈ (0x64 : CodePoint) :: 0x20 :: d, c ≠ 0x2D := by
        intro c inside
        rcases List.mem_cons.mp inside with rfl | inside
        · decide
        · rcases List.mem_cons.mp inside with rfl | inside
          · decide
          · exact (word c inside).2
      exact destinationBehind (d := 0x64 :: 0x20 :: d) plain
    have read : destinationAt (0x2D :: 0x64 :: 0x20 :: (d ++ py " -j ACCEPT")) = .some d := by
      have whole := destinationRead [] (fun c inside => (word c inside).1) some
      rwa [List.append_nil] at whole
    rw [List.nil_append]
    show ((0x2D :: 0x64 :: 0x20 :: (d ++ py " -j ACCEPT") : PyStr).tails.reverse.findSome? destinationAt) = _
    rw [List.tails_cons, List.reverse_cons, List.findSome?_append, behind, List.findSome?_cons, read]
    rfl
  | cons c front ih => rw [List.cons_append, List.tails_cons, List.reverse_cons, List.findSome?_append, ih]; rfl

theorem partsBefore (parts : List Part) (rest : PyStr) :
    ∃ front, partsText parts ++ (0x20 :: rest) = 0x20 :: (front ++ rest) := by
  cases parts with
  | nil => exact ⟨[], rfl⟩
  | cons part parts =>
    refine ⟨part.text ++ partsText parts ++ py " ", ?_⟩
    have first : partsText (part :: parts) = 0x20 :: (part.text ++ partsText parts) := by
      rw [partsText, List.flatMap_cons]
      rfl
    rw [first]
    simp only [List.cons_append, List.append_assoc]
    rfl

theorem destinedRead {rule : Rule tool} {net : Net tool} (destined : rule.Destined net) :
    acceptDestination (rule.text kernel) = some (net.text kernel) := by
  obtain ⟨front, parts⟩ := partsBefore rule.before (py "-d " ++ (net.text kernel ++ py " -j ACCEPT"))
  have line : rule.text kernel =
      py "-A OUTPUT " ++ (front ++ (py "-d " ++ (net.text kernel ++ py " -j ACCEPT"))) := by
    have spaced : py " -d " ++ net.text kernel ++ [] ++ py " -j ACCEPT" =
        0x20 :: (py "-d " ++ (net.text kernel ++ py " -j ACCEPT")) := by
      rw [List.append_nil, List.append_assoc]
      rfl
    rw [Rule.text, destined.plain, destined.bare, destined.accepting]
    simp only [partsText, List.flatMap_nil, Target.text, Bool.false_eq_true, if_false, List.append_assoc] at spaced ⊢
    rw [spaced]
    simp only [partsText] at parts
    rw [parts]
    rfl
  have word : ∀ c ∈ net.text kernel, isSpace c = false ∧ c ≠ 0x2D := fun c inside =>
    ⟨(netPlain inside).1, (netPlain inside).2.2⟩
  have filled : net.text kernel ≠ [] := by
    intro none
    rw [Net.text] at none
    exact absurd (List.append_eq_nil_iff.mp (List.append_eq_nil_iff.mp none).1).2 (by decide)
  have read := destinationLast front word filled
  have begins : (py "-A OUTPUT ").isPrefixOf (rule.text kernel) = true := by
    rw [line]
    exact List.isPrefixOf_iff_prefix.mpr (List.prefix_append _ _)
  have behind : (rule.text kernel).drop 10 = front ++ (py "-d " ++ (net.text kernel ++ py " -j ACCEPT")) := by
    rw [line]
    rfl
  have first : (rule.text kernel).tails.findSome? (fun text =>
      if (py "-A OUTPUT ").isPrefixOf text then (text.drop 10).tails.reverse.findSome? destinationAt
      else none) = some (net.text kernel) := by
    have whole : ∃ others, (rule.text kernel).tails = rule.text kernel :: others := by
      cases rule.text kernel with
      | nil => exact ⟨[], rfl⟩
      | cons c text => exact ⟨text.tails, List.tails_cons c text⟩
    obtain ⟨others, tails⟩ := whole
    rw [tails, List.findSome?_cons, begins, if_pos rfl, behind, read]
  exact first

end Pattern

theorem fullSmall (tool : RuleTool) : 2 ^ tool.width - 1 < 2 ^ tool.width := Nat.sub_lt (Nat.two_pow_pos _) Nat.one_pos

theorem fullMasked (value : Fin (2 ^ tool.width)) : value.val &&& (2 ^ tool.width - 1) = value.val := by
  rw [Nat.and_two_pow_sub_one_eq_mod, Nat.mod_eq_of_lt value.isLt]

def hostNet (value : Fin (2 ^ tool.width)) : Net tool := ⟨value, ⟨2 ^ tool.width - 1, fullSmall tool⟩, fullMasked value⟩

def hostRule (value : Fin (2 ^ tool.width)) : Rule tool := ⟨[], some (false, hostNet value), [], .accept⟩

section Single

def hostText (tool : RuleTool) : PyStr := py "/" ++ decimalText tool.width

theorem slashFree {value : Fin (2 ^ tool.width)} : (0x2F : CodePoint) ∉ addressText kernel tool value := by
  intro inside
  rcases addressWritten inside with hex | other | other
  · cases hex
  · cases other
  · cases other

theorem fullMask {net : Net tool} (full : net.mask.val = 2 ^ tool.width - 1) (value : Fin (2 ^ tool.width)) :
    net.holds value = true ↔ value = net.base := by
  have whole : value.val &&& net.mask.val = value.val := by
    rw [full, Nat.and_two_pow_sub_one_eq_mod, Nat.mod_eq_of_lt value.isLt]
  rw [Net.holds, whole, beq_iff_eq, Fin.ext_iff]

theorem widthNoAddress (value : Fin (2 ^ tool.width)) : addressText kernel tool value ≠ decimalText tool.width := by
  intro same
  have read : IPAddress.parse (addressText kernel tool value) = some (tool.address value) := addressRead value
  rw [same] at read
  cases tool with
  | iptables =>
    have none : IPAddress.parse (decimalText 32) = none := by decide +kernel
    exact absurd (none.symm.trans read) (by simp)
  | ip6tables =>
    have none : IPAddress.parse (decimalText 128) = none := by decide +kernel
    exact absurd (none.symm.trans read) (by simp)

theorem maskOfWidth {net : Net tool} (width : net.maskText kernel = decimalText tool.width) :
    net.mask.val = 2 ^ tool.width - 1 := by
  unfold Net.maskText at width
  cases length : net.prefixLength with
  | none =>
    rw [length] at width
    exact absurd width (widthNoAddress _)
  | some n =>
    rw [length] at width
    have same : n = tool.width := by
      have values := congrArg JsonScan.digitsValue width
      simpa only [pyDecimal, decimalValue] using values
    have found := List.find?_some length
    rw [same, Nat.sub_self, Nat.pow_zero, beq_iff_eq] at found
    exact found

theorem singleNet {net : Net tool} {address : IPAddress}
    (read : net.text kernel = address.text ++ hostText tool) (whole : (0x2F : CodePoint) ∉ address.text) :
    addressText kernel tool net.base = address.text ∧ net.mask.val = 2 ^ tool.width - 1 := by
  have split : addressText kernel tool net.base ++ 0x2F :: net.maskText kernel =
      address.text ++ 0x2F :: decimalText tool.width := by
    rw [Net.text, hostText, List.append_assoc] at read
    exact read
  have front := congrArg (List.takeWhile (· != 0x2F)) split
  rw [takeUntil slashFree, takeUntil whole] at front
  rw [front] at split
  exact ⟨front, maskOfWidth (List.cons.inj (List.append_cancel_left split)).2⟩

/- The value a tool filters an address by: a packet carries no zone. -/
def filtered : (tool : RuleTool) → IPAddress → Option (Fin (2 ^ tool.width))
  | .iptables, .v4 value => some value
  | .ip6tables, .v6 value _ => some value
  | _, _ => none

def accepts (policy : SandboxEgressPolicy) : RuleTool → List PyStr
  | .iptables => v4Accepts policy
  | .ip6tables => v6Accepts policy

theorem acceptsText {policy : SandboxEgressPolicy} {text : PyStr} (expected : text ∈ accepts policy tool) :
    ∃ address ∈ policy.addresses, text = address.text ++ hostText tool ∧ (filtered tool address).isSome = true := by
  cases tool with
  | iptables =>
    obtain ⟨address, allowed, rfl⟩ := List.mem_map.mp expected
    obtain ⟨listed, version⟩ := List.mem_filter.mp allowed
    refine ⟨address, listed, rfl, ?_⟩
    cases address with
    | v4 value => rfl
    | v6 value scope => cases version
  | ip6tables =>
    obtain ⟨address, allowed, rfl⟩ := List.mem_map.mp expected
    obtain ⟨listed, version⟩ := List.mem_filter.mp allowed
    refine ⟨address, listed, rfl, ?_⟩
    cases address with
    | v4 value => cases version
    | v6 value scope => rfl

theorem zoneUnread {net : Net tool} {address : IPAddress} (read : net.text kernel = address.text ++ hostText tool)
    (filters : (filtered tool address).isSome = true) :
    ∃ value, filtered tool address = some value ∧ address.text = (tool.address value).text := by
  cases tool with
  | iptables =>
    cases address with
    | v4 value => exact ⟨value, rfl, rfl⟩
    | v6 value scope => cases filters
  | ip6tables =>
    cases address with
    | v4 value => cases filters
    | v6 value scope =>
      refine ⟨value, rfl, ?_⟩
      cases scope with
      | none => rfl
      | some scope =>
        cases scope with
        | nil => rfl
        | cons c scope =>
          have percent : (0x25 : CodePoint) ∈ net.text kernel := by
            rw [read, IPAddress.text]
            simp
          rcases netWritten percent with hex | other | other | other
          · cases hex
          · cases other
          · cases other
          · cases other

theorem addressSlashFree (value : Fin (2 ^ tool.width)) : (0x2F : CodePoint) ∉ (tool.address value).text := by
  cases tool with
  | iptables =>
    intro inside
    rcases quadWritten inside with hex | other | other
    · cases hex
    · cases other
    · cases other
  | ip6tables =>
    have text : (RuleTool.ip6tables.address value).text = IPAddress.groupText value.val := IPAddress.textV6 value
    rw [text]
    exact IPAddress.groupFree (by decide) rfl value.val

theorem addressTextRead (value : Fin (2 ^ tool.width)) :
    IPAddress.parse (tool.address value).text = some (tool.address value) := by
  cases tool with
  | iptables => exact IPAddress.textRead fun _ _ same => by cases same
  | ip6tables => exact IPAddress.textRead fun _ _ same => by cases same

theorem addressInjective {value other : Fin (2 ^ tool.width)} (same : tool.address value = tool.address other) :
    value = other := by
  cases tool with
  | iptables => exact IPAddress.v4.inj same
  | ip6tables => exact (IPAddress.v6.inj same).1

theorem expectedNet {policy : SandboxEgressPolicy} {net : Net tool}
    (expected : net.text kernel ∈ accepts policy tool) :
    ∃ address ∈ policy.addresses, filtered tool address = some net.base ∧ net.mask.val = 2 ^ tool.width - 1 := by
  obtain ⟨address, listed, read, filters⟩ := acceptsText expected
  obtain ⟨value, filteredAs, text⟩ := zoneUnread read filters
  rw [text] at read
  obtain ⟨base, full⟩ := singleNet read (addressSlashFree value)
  have same : some (tool.address net.base) = some (tool.address value) := by
    have read : IPAddress.parse (addressText kernel tool net.base) = some (tool.address net.base) := addressRead net.base
    rw [← read, base, addressTextRead]
  refine ⟨address, listed, ?_, full⟩
  rw [filteredAs, addressInjective (Option.some.inj same)]

end Single

section Verified
variable {chains : (tool : RuleTool) → Chain tool} {policy : SandboxEgressPolicy} {config : DockerSandboxConfig}
  {log : SandboxLog} {s s' : SandboxState}

/- A dump that succeeds is printed from the live rules. -/
def Live (kernel : Kernel) (chains : (tool : RuleTool) → Chain tool)
    (answered : Answered SandboxCall SandboxCall.Answer) : Prop :=
  ∀ container tool stdout stderr,
    answered = ⟨.docker (.dumpRules container tool), .completed 0 stdout stderr⟩ →
    stdout = (chains tool).dump kernel

theorem dumpLive : wp (Live kernel chains) (fun _ _ => True) log s (readRuleDump tool) fun _ s' r =>
    s' = s ∧ ∀ lines, r = .ok lines → lines = (chains tool).lines kernel := by
  unfold readRuleDump theContainer
  simp only [Program.bindEq, Program.bind, wp]
  cases s.container with
  | none => exact ⟨rfl, fun lines other => by cases other⟩
  | some container =>
    refine ⟨trivial, fun (outcome : DockerOutcome) live => ?_⟩
    cases outcome with
    | osError | timeoutExpired | raised e => exact ⟨rfl, fun lines other => by cases other⟩
    | completed returncode stdout stderr =>
      dsimp only [Program.bind]
      split
      · exact ⟨rfl, fun lines other => by cases other⟩
      · rename_i zero
        refine ⟨rfl, fun lines read => ?_⟩
        cases read
        have success : returncode = 0 := by simpa using zero
        subst success
        rw [live container tool stdout stderr rfl, dumpRead]

/- A verification that returns has found nothing wrong with the live rules. -/
theorem verifyLive : wp (Live kernel chains) (fun _ _ => True) log s (verify config policy) fun _ _ r =>
    ∀ verification, r = .ok verification →
      compareAgainstPolicy policy ((chains .iptables).lines kernel) ((chains .ip6tables).lines kernel) = [] := by
  unfold verify wp
  dsimp only
  cases s.container.isNone with
  | true => exact fun verification other => by cases other
  | false =>
    refine wpSeq dumpLive (fun _ _ e _ verification other => by cases other) fun log₁ s₁ ruleDump first => ?_
    refine wpSeq dumpLive (fun _ _ e _ verification other => by cases other) fun log₂ s₂ v6Dump second => ?_
    rw [first.2 ruleDump rfl, second.2 v6Dump rfl]
    cases same : (compareAgainstPolicy policy ((chains .iptables).lines kernel)
        ((chains .ip6tables).lines kernel)).isEmpty with
    | true => exact fun verification _ => List.isEmpty_iff.mp same
    | false =>
      have failed : ∀ (log : SandboxLog) (s : SandboxState) (e : PyError), True → ∀ verification,
          (.error e : Except PyError SandboxVerification) = .ok verification →
          compareAgainstPolicy policy ((chains .iptables).lines kernel)
            ((chains .ip6tables).lines kernel) = [] := fun _ _ _ _ verification other => by cases other
      refine wpSeq (wpAll (fun _ _ => trivial) fun _ _ _ => trivial) failed fun _ _ _ _ => ?_
      refine wpSeq (wpAll (fun _ _ => trivial) fun _ _ _ => trivial) failed fun _ _ _ _ => ?_
      exact failed [] s sandboxVerificationFailedError trivial

theorem verifiedLines {trace : SandboxLog} {verification : SandboxVerification}
    (run : Runs s (verify config policy) trace (.ok verification) s')
    (live : ∀ answered ∈ trace, Live kernel chains answered) (tool : RuleTool) :
    compareDump tool (accepts policy tool) ((chains tool).lines kernel) = [] := by
  have nothing := (wpWhole verifyLive run live).1 verification rfl
  obtain ⟨v4, v6⟩ := List.append_eq_nil_iff.mp nothing
  cases tool with
  | iptables => exact v4
  | ip6tables => exact v6

theorem policyDrops {chain : Chain tool} (drops : ∃ line ∈ chain.lines kernel, (py "-P OUTPUT DROP").isPrefixOf line = true) :
    chain.policy = .drop := by
  obtain ⟨line, printed, begins⟩ := drops
  obtain ⟨rest, rfl⟩ := List.isPrefixOf_iff_prefix.mp begins
  rcases List.mem_cons.mp printed with first | listed
  · cases policy : chain.policy with
    | drop => rfl
    | accept =>
      have tenth : (py "-P OUTPUT DROP" ++ rest).getD 10 0 = 0x44 := rfl
      have other : (py "-P OUTPUT " ++ Verdict.accept.code).getD 10 0 = 0x41 := rfl
      rw [first, policy, other] at tenth
      cases tenth
  · obtain ⟨rule, -, line⟩ := List.mem_map.mp listed
    have append : (rule.text kernel).getD 1 0 = 0x41 := rfl
    have policy : (py "-P OUTPUT DROP" ++ rest).getD 1 0 = 0x50 := rfl
    rw [line, policy] at append
    cases append

def Covered (policy : SandboxEgressPolicy) (p : Packet tool) : Prop :=
  ∃ address ∈ policy.addresses, filtered tool address = some p.destination

structure Chain.LetsOut (kernel : Kernel) (chain : Chain tool) (rule : Rule tool) (p : Packet tool) : Prop where
  accepts : rule.decision kernel chain.policy p = some .accept
  first : ∃ front back, chain.rules = front ++ rule :: back ∧
    ∀ earlier ∈ front, earlier.decision kernel chain.policy p = none

theorem Chain.letOutBy {chain : Chain tool} {p : Packet tool} (drops : chain.policy = .drop) :
    chain.verdict kernel p = .accept ↔ ∃ rule, chain.LetsOut kernel rule p := by
  constructor
  · intro accepted
    obtain ⟨front, rule, back, rules, accepts, undecided⟩ := (acceptedBy drops).mp accepted
    exact ⟨rule, accepts, front, back, rules, undecided⟩
  · rintro ⟨rule, accepts, front, back, rules, undecided⟩
    exact (acceptedBy drops).mpr ⟨front, rule, back, rules, accepts, undecided⟩

theorem Chain.LetsOut.listed {chain : Chain tool} {rule : Rule tool} {p : Packet tool}
    (out : chain.LetsOut kernel rule p) : rule ∈ chain.rules := by
  obtain ⟨front, back, rules, -⟩ := out.first
  rw [rules]
  exact List.mem_append_right _ List.mem_cons_self

theorem Chain.LetsOut.within {chain : Chain tool} {rule : Rule tool} {p : Packet tool} {net : Net tool}
    (out : chain.LetsOut kernel rule p) (destined : rule.Destined net) : net.holds p.destination = true := by
  have accepts := out.accepts
  cases met : rule.holds kernel p with
  | false =>
    rw [Rule.decision, met] at accepts
    cases accepts
  | true =>
    rw [Rule.holds, destined.plain] at met
    simpa using (Bool.and_eq_true_iff.mp met).2

section Compared
variable (compared : compareDump tool (accepts policy tool) ((chains tool).lines kernel) = [])
include compared

theorem comparedDrops : (chains tool).policy = .drop := policyDrops (compareDumpNil.mp compared).1

theorem comparedSingle {rule : Rule tool} (listed : rule ∈ (chains tool).rules) {net : Net tool}
    (destined : rule.Destined net) : ∃ address ∈ policy.addresses, filtered tool address = some net.base ∧
      ∀ value, net.holds value = true ↔ value = net.base := by
  have printed : rule.text kernel ∈ (chains tool).lines kernel :=
    List.mem_cons_of_mem _ (List.mem_map.mpr ⟨rule, listed, rfl⟩)
  have expected := ((compareDumpNil.mp compared).2 _).mp ⟨_, printed, destinedRead destined⟩
  obtain ⟨address, inPolicy, filters, full⟩ := expectedNet expected
  exact ⟨address, inPolicy, filters, fullMask full⟩

theorem comparedRead {d : PyStr} (expected : d ∈ accepts policy tool) :
    ∃ rule ∈ (chains tool).rules, acceptDestination (rule.text kernel) = some d := by
  obtain ⟨line, printed, accepted⟩ := ((compareDumpNil.mp compared).2 d).mpr expected
  rcases List.mem_cons.mp printed with first | listed
  · have none : acceptDestination (py "-P OUTPUT " ++ Verdict.drop.code) = none := by decide
    rw [first, comparedDrops compared, none] at accepted
    cases accepted
  · obtain ⟨rule, inChain, rfl⟩ := List.mem_map.mp listed
    exact ⟨rule, inChain, accepted⟩

theorem comparedCovers {rule : Rule tool} {p : Packet tool} {net : Net tool}
    (out : (chains tool).LetsOut kernel rule p) (destined : rule.Destined net) : Covered policy p := by
  obtain ⟨address, inPolicy, filters, only⟩ := comparedSingle compared out.listed destined
  exact ⟨address, inPolicy, by rw [filters, (only _).mp (out.within destined)]⟩

end Compared

end Verified

theorem stateUnbroken : Unbroken (py "-m state --state RELATED,ESTABLISHED") := by decide

def repliesPart : Part := ⟨py "-m state --state RELATED,ESTABLISHED", stateUnbroken⟩

/-! A kernel that writes addresses as the sandbox does. -/

theorem ntopRead (value : Fin (2 ^ 128)) :
    IPAddress.parse (IPAddress.text (.v6 value none)) = some (.v6 value none) :=
  IPAddress.textRead fun _ _ same => by cases same

theorem ntopWritten (value : Fin (2 ^ 128)) (c : CodePoint) (inside : c ∈ IPAddress.text (.v6 value none)) :
    (JsonScan.hexValue c).isSome = true ∨ c = 0x3A ∨ c = 0x2E := by
  rw [IPAddress.textV6] at inside
  rcases IPAddress.memGroupText inside with colon | ⟨d, small, rfl⟩
  · exact .inr (.inl colon)
  · rw [(hexDigitCode d small).1]
    exact .inl rfl

def siteKernel : Kernel where
  ntop value := IPAddress.text (.v6 value none)
  read := ntopRead
  written := ntopWritten
  meets _ text p := text == repliesPart.text && p.answering
  decides _ _ _ := none

theorem siteSmall : 1572395042 < 2 ^ RuleTool.iptables.width := by decide

def repliesRule : Rule tool := ⟨[repliesPart], none, [], .accept⟩

def siteChains : (tool : RuleTool) → Chain tool
  | .iptables => ⟨.drop, [repliesRule, hostRule ⟨1572395042, siteSmall⟩]⟩
  | .ip6tables => ⟨.drop, [repliesRule]⟩

/- A daemon for which every command succeeds, and whose tools print the rules of the chains. -/
def printing (kernel : Kernel) (chains : (tool : RuleTool) → Chain tool) :
    SandboxLog → (c : SandboxCall) → c.Answer
  | _, .docker (.dumpRules _ tool) => .completed 0 ((chains tool).dump kernel) []
  | log, c => siteDocker true log c

section Printing
variable {α : Type} {chains : (tool : RuleTool) → Chain tool} {s : SandboxState}
  {program : SandboxProg α}

theorem printingLive : ∀ answered ∈ (play (printing kernel chains) [] s program).1, Live kernel chains answered := by
  intro answered made container tool stdout stderr same
  obtain ⟨front, back, trace⟩ := List.append_of_mem made
  rw [same] at trace
  have given := playMade trace
  cases given
  rfl

end Printing

def siteRun (chains : (tool : RuleTool) → Chain tool) :=
  play (printing siteKernel chains) [] siteEstablished (verify siteConfig sitePolicy)

def verifiedAs (chains : (tool : RuleTool) → Chain tool) : SandboxVerification :=
  ⟨(chains .iptables).lines siteKernel ++ (chains .ip6tables).lines siteKernel, true, [siteAddress], none⟩

theorem runVerifies {chains : (tool : RuleTool) → Chain tool} (verifies : (siteRun chains).2.1 = .ok (verifiedAs chains)) :
    Runs siteEstablished (verify siteConfig sitePolicy) (siteRun chains).1 (.ok (verifiedAs chains)) (siteRun chains).2.2 := by
  have run := playRuns (printing siteKernel chains) [] siteEstablished (verify siteConfig sitePolicy)
  rwa [← verifies]

theorem siteVerifies : (siteRun siteChains).2.1 = .ok (verifiedAs siteChains) := by
  decide +kernel

theorem repliesAnswer {p : Packet tool} (met : (repliesRule : Rule tool).decision siteKernel .drop p = some .accept) :
    p.answering = true := by
  unfold Rule.decision at met
  split at met
  · rename_i holds
    simpa [repliesRule, Rule.holds, siteKernel] using holds
  · cases met

def sitePacket : Packet .iptables := ⟨⟨1572395042, siteSmall⟩, .new, []⟩

/- The same rules and one more, which accepts without a destination. -/
def openChains : (tool : RuleTool) → Chain tool
  | .iptables => ⟨.drop, [repliesRule, hostRule ⟨1572395042, siteSmall⟩, ⟨[], none, [], .accept⟩]⟩
  | .ip6tables => ⟨.drop, [repliesRule]⟩

theorem straySmall : 167772168 < 2 ^ RuleTool.iptables.width := by decide

def strayPacket : Packet .iptables := ⟨⟨167772168, straySmall⟩, .new, []⟩

def openDump : PyStr :=
  py "-P OUTPUT DROP\n-A OUTPUT -m state --state RELATED,ESTABLISHED -j ACCEPT\n" ++
    py "-A OUTPUT -d 93.184.216.34/32 -j ACCEPT\n-A OUTPUT -j ACCEPT\n"

theorem openVerifies : (siteRun openChains).2.1 = .ok (verifiedAs openChains) := by
  decide +kernel

end SentinelGpt.Netfilter
