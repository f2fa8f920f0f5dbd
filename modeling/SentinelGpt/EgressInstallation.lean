import SentinelGpt.EgressVerification

/-! The rule scripts of a sandbox, run: what they leave in the chains, and what these let out. -/
namespace SentinelGpt.Netfilter
open Calling DockerEgressSandbox JsonScan

variable {tool : RuleTool} {kernel : Kernel}

/-! What a script does to a chain. -/

def toolName : RuleTool → PyStr
  | .iptables => py "iptables"
  | .ip6tables => py "ip6tables"

def hostRead (text : PyStr) : Option (Fin (2 ^ tool.width)) :=
  let (address, _, length) := partition 0x2F text
  if length = decimalText tool.width && !address.contains 0x25 then (IPAddress.parse address).bind (filtered tool)
  else none

def policyWords : List PyStr := [py "-P", py "OUTPUT", py "DROP"]

def repliesWords : List PyStr :=
  [py "-A", py "OUTPUT", py "-m", py "state", py "--state", py "ESTABLISHED,RELATED", py "-j", py "ACCEPT"]

def hostWords (destination : PyStr) : List PyStr :=
  [py "-A", py "OUTPUT", py "-d", destination, py "-j", py "ACCEPT"]

/- The commands the sandbox issues, of one tool; any other fails. -/
def Chain.command (chain : Chain tool) (words : List PyStr) : Option (Chain tool) :=
  if words = toolName tool :: policyWords then some { chain with policy := .drop }
  else if words = toolName tool :: repliesWords then some { chain with rules := chain.rules ++ [repliesRule] }
  else do
    let destination ← words[4]?
    if words ≠ toolName tool :: hostWords destination then none
    let value ← hostRead destination
    return { chain with rules := chain.rules ++ [hostRule value] }

/- Commands joined by `&&`: each is run if the one before has succeeded. -/
def Chain.runCommands (chain : Chain tool) : List (List PyStr) → Chain tool × Bool
  | [] => (chain, true)
  | words :: rest => match chain.command words with
    | none => (chain, false)
    | some changed => changed.runCommands rest

def scriptCommands (script : PyStr) : List (List PyStr) := (splitOn 0x20 script).splitOn (py "&&")

def Chain.runScript (chain : Chain tool) (script : PyStr) : Chain tool × Bool := chain.runCommands (scriptCommands script)

def Chain.fresh : Chain tool := ⟨.accept, []⟩

/- A script changes the chain of its own tool; the commands of the other fail at once. -/
def changed (chains : (tool : RuleTool) → Chain tool) :
    Answered SandboxCall SandboxCall.Answer → (tool : RuleTool) → Chain tool
  | ⟨.docker (.installRules _ script), _⟩ => fun tool => ((chains tool).runScript script).1
  | _ => chains

def chainsAfter (log : SandboxLog) : (tool : RuleTool) → Chain tool := log.foldl changed fun _ => .fresh

section Words

theorem joinCons {sep first : PyStr} {parts : List PyStr} (more : parts ≠ []) :
    join sep (first :: parts) = first ++ (sep ++ join sep parts) := by
  rw [join, List.intercalate_cons_of_ne_nil more, join, List.append_assoc]

theorem joinAppend {sep : PyStr} {front back : List PyStr} (some : front ≠ []) (more : back ≠ []) :
    join sep (front ++ back) = join sep front ++ (sep ++ join sep back) := by
  induction front with
  | nil => exact absurd rfl some
  | cons first front ih =>
    cases front with
    | nil => rw [List.cons_append, List.nil_append, joinCons more, join, join, List.intercalate_singleton]
    | cons second front =>
      have later := ih (List.cons_ne_nil second front)
      rw [List.cons_append] at later
      rw [List.cons_append, List.cons_append, joinCons (List.cons_ne_nil second _), later,
        joinCons (List.cons_ne_nil second front)]
      simp only [List.append_assoc]

theorem memIntercalate {α : Type} {sep a : α} {parts : List (List α)} (member : a ∈ List.intercalate [sep] parts) :
    a = sep ∨ ∃ part ∈ parts, a ∈ part := by
  induction parts with
  | nil => cases member
  | cons first rest ih =>
    cases rest with
    | nil =>
      rw [List.intercalate_singleton] at member
      exact .inr ⟨first, List.mem_cons_self, member⟩
    | cons second rest =>
      rw [List.intercalate_cons_cons, List.append_assoc, List.mem_append, List.mem_append] at member
      rcases member with inside | between | later
      · exact .inr ⟨first, List.mem_cons_self, inside⟩
      · exact .inl (List.mem_singleton.mp between)
      · rcases ih later with between | ⟨part, listed, inside⟩
        · exact .inl between
        · exact .inr ⟨part, List.mem_cons_of_mem _ listed, inside⟩

theorem spelledSome {commands : List (List PyStr)} {words : List PyStr} (first : words ≠ []) :
    List.intercalate [py "&&"] (words :: commands) ≠ [] := by
  cases words with
  | nil => exact absurd rfl first
  | cons word words =>
    cases commands with
    | nil =>
      rw [List.intercalate_singleton]
      exact List.cons_ne_nil _ _
    | cons next rest =>
      rw [List.intercalate_cons_cons]
      exact List.cons_ne_nil _ _

theorem joinCommands {commands : List (List PyStr)} (filled : ∀ words ∈ commands, words ≠ []) :
    join (py " && ") (commands.map (join (py " "))) = join (py " ") (List.intercalate [py "&&"] commands) := by
  induction commands with
  | nil => rfl
  | cons words rest ih =>
    obtain ⟨first, others⟩ := List.forall_mem_cons.mp filled
    cases rest with
    | nil => simp only [List.map_cons, List.map_nil, join, List.intercalate_singleton]
    | cons next rest =>
      have more : List.intercalate [py "&&"] (next :: rest) ≠ [] := spelledSome (others next List.mem_cons_self)
      have between : py " && " = py " " ++ (py "&&" ++ py " ") := rfl
      have named : (next :: rest).map (join (py " ")) ≠ [] := List.cons_ne_nil _ _
      rw [List.map_cons, joinCons named, ih others, List.intercalate_cons_cons, List.append_assoc,
        joinAppend first (by simp), List.singleton_append, joinCons more, between]
      simp only [List.append_assoc]

theorem commandsRead {commands : List (List PyStr)} (some : commands ≠ [])
    (filled : ∀ words ∈ commands, words ≠ []) (free : ∀ words ∈ commands, ∀ word ∈ words, (0x20 : CodePoint) ∉ word)
    (apart : ∀ words ∈ commands, py "&&" ∉ words) :
    scriptCommands (join (py " && ") (commands.map (join (py " ")))) = commands := by
  have spelled : List.intercalate [py "&&"] commands ≠ [] := by
    cases commands with
    | nil => exact absurd rfl some
    | cons words rest => exact spelledSome (filled words List.mem_cons_self)
  have words : ∀ word ∈ List.intercalate [py "&&"] commands, (0x20 : CodePoint) ∉ word := by
    intro word inside
    rcases memIntercalate inside with rfl | ⟨part, listed, member⟩
    · decide
    · exact free part listed word member
  have split : splitOn 0x20 (join (py " ") (List.intercalate [py "&&"] commands)) =
      List.intercalate [py "&&"] commands := splitJoin words spelled
  rw [scriptCommands, joinCommands filled, split, List.splitOn_intercalate (py "&&") apart some]

end Words

/-! The scripts of the sandbox. -/
section Scripts
variable {policy : SandboxEgressPolicy} {value : Fin (2 ^ tool.width)}

def hosts (policy : SandboxEgressPolicy) (tool : RuleTool) : List (Fin (2 ^ tool.width)) :=
  policy.addresses.filterMap (filtered tool)

def hostDestination (value : Fin (2 ^ tool.width)) : PyStr := (tool.address value).text ++ hostText tool

def Unscoped (policy : SandboxEgressPolicy) : Prop := ∀ value scope, .v6 value (some scope) ∉ policy.addresses

theorem acceptsHosts (unscoped : Unscoped policy) : accepts policy tool = (hosts policy tool).map hostDestination := by
  have each : ∀ addresses : List IPAddress, (∀ value scope, .v6 value (some scope) ∉ addresses) →
      ((addresses.filter fun a => a.version == 4).map fun a => a.text ++ py "/32") =
        (addresses.filterMap (filtered .iptables)).map hostDestination ∧
      ((addresses.filter fun a => a.version == 6).map fun a => a.text ++ py "/128") =
        (addresses.filterMap (filtered .ip6tables)).map hostDestination := by
    intro addresses unscoped
    induction addresses with
    | nil => exact ⟨rfl, rfl⟩
    | cons address rest ih =>
      obtain ⟨v4, v6⟩ := ih fun value scope member => unscoped value scope (List.mem_cons_of_mem _ member)
      cases address with
      | v4 value => exact ⟨congrArg _ v4, v6⟩
      | v6 value scope =>
        cases scope with
        | none => exact ⟨v4, congrArg _ v6⟩
        | some scope => exact absurd List.mem_cons_self (unscoped value scope)
  cases tool with
  | iptables => exact (each policy.addresses unscoped).1
  | ip6tables => exact (each policy.addresses unscoped).2

theorem addressFree {c : CodePoint} (hex : JsonScan.hexValue c = none) (colon : c ≠ 0x3A) (dot : c ≠ 0x2E) :
    c ∉ (tool.address value).text := by
  intro inside
  cases tool with
  | iptables =>
    rcases quadWritten inside with other | other | other
    · rw [hex] at other
      cases other
    · exact colon other
    · exact dot other
  | ip6tables =>
    have text : (RuleTool.ip6tables.address value).text = IPAddress.groupText value.val := IPAddress.textV6 value
    rw [text] at inside
    exact IPAddress.groupFree colon hex value.val inside

theorem filteredAddress : filtered tool (tool.address value) = some value := by
  cases tool <;> rfl

theorem partitionAt {c : CodePoint} {front back : PyStr} (free : c ∉ front) :
    partition c (front ++ c :: back) = (front, true, back) := by
  have others : ∀ a ∈ front, (a != c) = true := fun a member => bne_iff_ne.mpr fun same => free (same ▸ member)
  have holds : (front ++ c :: back).contains c = true := by simp
  have left : (front ++ c :: back).dropWhile (· != c) = c :: back := by
    rw [List.dropWhile_append_of_pos others]
    simp
  rw [partition, takeUntil free, holds, left]
  rfl

theorem hostReadBack : hostRead (hostDestination value) = some value := by
  have slash : (0x2F : CodePoint) ∉ (tool.address value).text := addressFree rfl (by decide) (by decide)
  have percent : (tool.address value).text.contains 0x25 = false :=
    Bool.eq_false_iff.mpr fun inside => addressFree (c := 0x25) rfl (by decide) (by decide) (List.contains_iff_mem.mp inside)
  have parts : partition 0x2F (hostDestination value) =
      ((tool.address value).text, true, decimalText tool.width) := by
    have text : hostDestination value = (tool.address value).text ++ 0x2F :: decimalText tool.width := rfl
    rw [text, partitionAt slash]
  rw [hostRead, parts]
  simp only [percent, Bool.not_false, Bool.and_true, decide_true, if_true, addressTextRead, Option.bind_some,
    filteredAddress]

def scriptWords (tool : RuleTool) (destinations : List PyStr) : List (List PyStr) :=
  (toolName tool :: policyWords) :: (toolName tool :: repliesWords) ::
    destinations.map fun destination => toolName tool :: hostWords destination

theorem scriptText (destinations : List PyStr) : iptablesScript (toolName tool) destinations =
    join (py " && ") ((scriptWords tool destinations).map (join (py " "))) := by
  have host : ∀ destination, toolName tool ++ py " -A OUTPUT -d " ++ destination ++ py " -j ACCEPT" =
      join (py " ") (toolName tool :: hostWords destination) := by
    intro destination
    simp only [hostWords, join, List.intercalate_cons_cons, List.intercalate_singleton, List.append_assoc]
    rfl
  have drops : toolName tool ++ py " -P OUTPUT DROP" = join (py " ") (toolName tool :: policyWords) := by
    cases tool <;> rfl
  have replies : toolName tool ++ py " -A OUTPUT -m state --state ESTABLISHED,RELATED -j ACCEPT" =
      join (py " ") (toolName tool :: repliesWords) := by
    cases tool <;> rfl
  simp only [iptablesScript, scriptWords, List.map_cons, List.map_map, drops, replies, host, Function.comp_def,
    List.cons_append, List.nil_append]

theorem scriptRead {destinations : List PyStr} (free : ∀ destination ∈ destinations, (0x20 : CodePoint) ∉ destination)
    (slash : ∀ destination ∈ destinations, (0x2F : CodePoint) ∈ destination) :
    scriptCommands (iptablesScript (toolName tool) destinations) = scriptWords tool destinations := by
  have members : ∀ {P : List PyStr → Prop}, P (toolName tool :: policyWords) → P (toolName tool :: repliesWords) →
      (∀ destination ∈ destinations, P (toolName tool :: hostWords destination)) →
      ∀ words ∈ scriptWords tool destinations, P words := by
    intro P drops replies host words member
    rcases List.mem_cons.mp member with rfl | member
    · exact drops
    · rcases List.mem_cons.mp member with rfl | member
      · exact replies
      · obtain ⟨destination, listed, rfl⟩ := List.mem_map.mp member
        exact host destination listed
  rw [scriptText]
  refine commandsRead (List.cons_ne_nil _ _) (members ?_ ?_ ?_) (members ?_ ?_ ?_) (members ?_ ?_ ?_)
  · exact List.cons_ne_nil _ _
  · exact List.cons_ne_nil _ _
  · exact fun _ _ => List.cons_ne_nil _ _
  · cases tool <;> decide
  · cases tool <;> decide
  · intro destination listed word member
    have spaceFree : ∀ word ∈ [toolName tool, py "-A", py "OUTPUT", py "-d", py "-j", py "ACCEPT"],
        (0x20 : CodePoint) ∉ word := by cases tool <;> decide
    by_cases same : word = destination
    · rw [same]
      exact free destination listed
    · refine spaceFree word ?_
      simp only [hostWords, List.mem_cons, List.not_mem_nil, or_false] at member ⊢
      tauto
  · cases tool <;> decide
  · cases tool <;> decide
  · intro destination listed member
    have joint : ∀ word ∈ [toolName tool, py "-A", py "OUTPUT", py "-d", py "-j", py "ACCEPT"], py "&&" ≠ word := by
      cases tool <;> decide
    by_cases same : py "&&" = destination
    · have inside := slash destination listed
      rw [← same] at inside
      exact absurd inside (by decide)
    · refine joint (py "&&") ?_ rfl
      simp only [hostWords, List.mem_cons, List.not_mem_nil, or_false] at member ⊢
      tauto

theorem hostCommand (chain : Chain tool) (value : Fin (2 ^ tool.width)) :
    chain.command (toolName tool :: hostWords (hostDestination value)) =
      some { chain with rules := chain.rules ++ [hostRule value] } := by
  have drops : toolName tool :: hostWords (hostDestination value) ≠ toolName tool :: policyWords :=
    fun same => absurd (congrArg List.length same) (by simp [hostWords, policyWords])
  have replies : toolName tool :: hostWords (hostDestination value) ≠ toolName tool :: repliesWords :=
    fun same => absurd (congrArg List.length same) (by simp [hostWords, repliesWords])
  have fourth : (toolName tool :: hostWords (hostDestination value))[4]? = some (hostDestination value) := rfl
  rw [Chain.command, if_neg drops, if_neg replies, fourth]
  simp only [Option.bind_eq_bind, Option.bind_some, ne_eq, not_true, if_false, hostReadBack]
  rfl

theorem commandsHosts (chain : Chain tool) (values : List (Fin (2 ^ tool.width))) :
    chain.runCommands (values.map fun value => toolName tool :: hostWords (hostDestination value)) =
      ({ chain with rules := chain.rules ++ values.map hostRule }, true) := by
  induction values generalizing chain with
  | nil =>
    rw [List.map_nil, List.map_nil, List.append_nil]
    rfl
  | cons value values ih =>
    rw [List.map_cons, Chain.runCommands, hostCommand]
    simp only [ih, List.append_assoc, List.singleton_append, List.map_cons]

def installed (policy : SandboxEgressPolicy) (tool : RuleTool) : Chain tool :=
  ⟨.drop, repliesRule :: (hosts policy tool).map hostRule⟩

theorem destinationWord (unscoped : Unscoped policy) {destination : PyStr}
    (listed : destination ∈ accepts policy tool) :
    (0x20 : CodePoint) ∉ destination ∧ (0x2F : CodePoint) ∈ destination := by
  rw [acceptsHosts unscoped] at listed
  obtain ⟨value, -, rfl⟩ := List.mem_map.mp listed
  have width : (0x20 : CodePoint) ∉ hostText tool := by cases tool <;> decide
  have between : (0x2F : CodePoint) ∈ hostText tool := by cases tool <;> decide
  refine ⟨fun inside => ?_, List.mem_append_right _ between⟩
  rcases List.mem_append.mp inside with front | back
  · exact addressFree rfl (by decide) (by decide) front
  · exact width back

theorem policyScript (unscoped : Unscoped policy) :
    scriptCommands (iptablesScript (toolName tool) (accepts policy tool)) = scriptWords tool (accepts policy tool) :=
  scriptRead (fun _ listed => (destinationWord unscoped listed).1) fun _ listed => (destinationWord unscoped listed).2

theorem policyCommand (chain : Chain tool) :
    chain.command (toolName tool :: policyWords) = some { chain with policy := .drop } := by
  rw [Chain.command, if_pos rfl]

theorem repliesCommand (chain : Chain tool) : chain.command (toolName tool :: repliesWords) =
    some { chain with rules := chain.rules ++ [repliesRule] } := by
  have drops : toolName tool :: repliesWords ≠ toolName tool :: policyWords :=
    fun same => absurd (congrArg List.length same) (by simp [repliesWords, policyWords])
  rw [Chain.command, if_neg drops, if_pos rfl]

theorem scriptInstalls (tool : RuleTool) (unscoped : Unscoped policy) :
    Chain.fresh.runScript (iptablesScript (toolName tool) (accepts policy tool)) = (installed policy tool, true) := by
  have others : (accepts policy tool).map (fun destination => toolName tool :: hostWords destination) =
      (hosts policy tool).map fun value => toolName tool :: hostWords (hostDestination value) := by
    rw [acceptsHosts unscoped, List.map_map]
    rfl
  rw [Chain.runScript, policyScript unscoped, scriptWords, others, Chain.runCommands, policyCommand]
  dsimp only
  rw [Chain.runCommands, repliesCommand]
  dsimp only
  rw [commandsHosts]
  rfl

theorem otherTools : RuleTool.ip6tables ≠ .iptables ∧ RuleTool.iptables ≠ .ip6tables := by decide

theorem scriptOther {tool other : RuleTool} (different : other ≠ tool) (unscoped : Unscoped policy) (chain : Chain other) :
    chain.runScript (iptablesScript (toolName tool) (accepts policy tool)) = (chain, false) := by
  have fails : chain.command (toolName tool :: policyWords) = none := by
    have names : toolName tool ≠ toolName other := by
      cases tool <;> cases other
      · exact absurd rfl different
      · decide
      · decide
      · exact absurd rfl different
    have drops : toolName tool :: policyWords ≠ toolName other :: policyWords :=
      fun same => names (List.cons.inj same).1
    have replies : toolName tool :: policyWords ≠ toolName other :: repliesWords :=
      fun same => names (List.cons.inj same).1
    have fourth : (toolName tool :: policyWords)[4]? = none := rfl
    rw [Chain.command, if_neg drops, if_neg replies, fourth]
    rfl
  rw [Chain.runScript, policyScript unscoped, scriptWords, Chain.runCommands, fails]

end Scripts

section Installed
variable {policy : SandboxEgressPolicy}

/- How the kernel tells a reply, and how it writes the addresses of the policy. -/
structure KernelAgrees (kernel : Kernel) (policy : SandboxEgressPolicy) : Prop where
  replies : ∀ (tool : RuleTool) (p : Packet tool), kernel.meets tool repliesPart.text p = p.answering
  written : ∀ value ∈ hosts policy .ip6tables, kernel.ntop value = IPAddress.text (.v6 value none)

theorem repliesDecision (agrees : KernelAgrees kernel policy) (p : Packet tool) :
    repliesRule.decision kernel .drop p = if p.answering then some .accept else none := by
  have holds : repliesRule.holds kernel p = p.answering := by
    simp only [repliesRule, Rule.holds, List.append_nil, List.all_cons, List.all_nil, Bool.and_true, agrees.replies,
      Option.all_none]
  rw [Rule.decision, holds]
  rfl

theorem hostDecision (value : Fin (2 ^ tool.width)) (p : Packet tool) :
    (hostRule value).decision kernel .drop p = if p.destination = value then some .accept else none := by
  have only : (hostNet value).holds p.destination = true ↔ p.destination = value := fullMask rfl p.destination
  have holds : (hostRule value).holds kernel p = (hostNet value).holds p.destination := by
    simp only [hostRule, Rule.holds, List.append_nil, List.all_nil, Bool.true_and, Option.all_some, Bool.bne_false]
  rw [Rule.decision, holds]
  simp only [only]
  rfl

theorem installedVerdict (agrees : KernelAgrees kernel policy) (p : Packet tool) :
    (installed policy tool).verdict kernel p = .accept ↔ p.answering = true ∨ Covered policy p := by
  have found : ∀ values : List (Fin (2 ^ tool.width)),
      ((values.map hostRule).findSome? fun rule => rule.decision kernel .drop p) =
        if p.destination ∈ values then some .accept else none := by
    intro values
    induction values with
    | nil => rfl
    | cons value values ih =>
      rw [List.map_cons, List.findSome?_cons, hostDecision, ih]
      by_cases same : p.destination = value
      · simp [same]
      · simp [same]
  have covered : p.destination ∈ hosts policy tool ↔ Covered policy p := List.mem_filterMap
  rw [Chain.verdict, installed]
  dsimp only
  rw [List.findSome?_cons, repliesDecision agrees, found, ← covered]
  cases p.answering with
  | true => simp
  | false =>
    by_cases listed : p.destination ∈ hosts policy tool
    · simp [listed]
    · simp [listed]

theorem fullLength (value : Fin (2 ^ tool.width)) : (hostNet value).prefixLength = some tool.width := by
  cases tool with
  | iptables =>
    have found : ((List.range 33).find? fun n => 2 ^ 32 - 1 == 2 ^ 32 - 2 ^ (32 - n)) = some 32 := by decide +kernel
    exact found
  | ip6tables =>
    have found : ((List.range 129).find? fun n => 2 ^ 128 - 1 == 2 ^ 128 - 2 ^ (128 - n)) = some 128 := by decide +kernel
    exact found

theorem hostPrinted (agrees : KernelAgrees kernel policy) {value : Fin (2 ^ tool.width)}
    (listed : value ∈ hosts policy tool) : (hostNet value).text kernel = hostDestination value := by
  have mask : (hostNet value).maskText kernel = decimalText tool.width := by
    rw [Net.maskText, fullLength]
    exact pyDecimal _
  have base : addressText kernel tool value = (tool.address value).text := by
    cases tool with
    | iptables => rfl
    | ip6tables => exact agrees.written value listed
  have written : (hostNet value).text kernel =
      addressText kernel tool value ++ py "/" ++ (hostNet value).maskText kernel := rfl
  rw [written, base, mask, List.append_assoc]
  rfl

theorem installedDump (unscoped : Unscoped policy) (agrees : KernelAgrees kernel policy) (tool : RuleTool) :
    compareDump tool (accepts policy tool) ((installed policy tool).lines kernel) = [] := by
  have policyLine : acceptDestination (py "-P OUTPUT " ++ Verdict.drop.code) = none := by decide
  have repliesLine : acceptDestination ((repliesRule : Rule tool).text kernel) = none := by
    have text : (repliesRule : Rule tool).text kernel =
        py "-A OUTPUT -m state --state RELATED,ESTABLISHED -j ACCEPT" := rfl
    have none : acceptDestination (py "-A OUTPUT -m state --state RELATED,ESTABLISHED -j ACCEPT") = none := by
      decide +kernel
    rw [text, none]
  have hostLine : ∀ value ∈ hosts policy tool,
      acceptDestination ((hostRule value).text kernel) = some (hostDestination value) := by
    intro value listed
    have destined : (hostRule value).Destined (hostNet value) := ⟨rfl, rfl, rfl⟩
    rw [destinedRead destined, hostPrinted agrees listed]
  refine compareDumpNil.mpr ⟨⟨_, List.mem_cons_self, rfl⟩, fun d => ?_⟩
  rw [acceptsHosts unscoped]
  constructor
  · intro ⟨line, printed, read⟩
    rcases List.mem_cons.mp printed with rfl | printed
    · exact absurd (policyLine.symm.trans read) (by simp)
    · obtain ⟨rule, listed, rfl⟩ := List.mem_map.mp printed
      rcases List.mem_cons.mp listed with rfl | listed
      · exact absurd (repliesLine.symm.trans read) (by simp)
      · obtain ⟨value, inHosts, rfl⟩ := List.mem_map.mp listed
        have same := Option.some.inj ((hostLine value inHosts).symm.trans read)
        exact List.mem_map.mpr ⟨value, inHosts, same⟩
  · intro expected
    obtain ⟨value, listed, rfl⟩ := List.mem_map.mp expected
    refine ⟨(hostRule value).text kernel, ?_, hostLine value listed⟩
    exact List.mem_cons_of_mem _ (List.mem_cons_of_mem _ (List.mem_map.mpr ⟨_, List.mem_map.mpr ⟨value, listed, rfl⟩, rfl⟩))

end Installed

section Run
variable {policy : SandboxEgressPolicy} {config : DockerSandboxConfig} {log : SandboxLog} {s s' : SandboxState}

/- The client reports what the tools have done in the container: a script has succeeded if
the tool it names has done every command, and a dump is printed from the chain as it is. -/
structure Faithful (kernel : Kernel) (log : SandboxLog) : Prop where
  installs : ∀ before container script (outcome : DockerOutcome) after,
    log = before ++ ⟨.docker (.installRules container script), outcome⟩ :: after →
    ∃ returncode stdout stderr, outcome = .completed returncode stdout stderr ∧
      (returncode = 0 ↔ ∃ tool, ((chainsAfter before tool).runScript script).2 = true)
  dumps : ∀ before container tool (outcome : DockerOutcome) after,
    log = before ++ ⟨.docker (.dumpRules container tool), outcome⟩ :: after →
    ∃ stderr, outcome = .completed 0 ((chainsAfter before tool).dump kernel) stderr

theorem dockerOrThen {α : Type} {failure : PyError} {command : DockerCommand} {k : CompletedProcess → SandboxProg α}
    {post : SandboxLog → SandboxState → Except PyError α → Prop}
    (completed : ∀ returncode stdout stderr,
      Ends (log ++ [⟨.docker command, .completed returncode stdout stderr⟩]) s (k ⟨returncode, stdout, stderr⟩) post)
    (other : ∀ (outcome : DockerOutcome) e, (∀ returncode stdout stderr, outcome ≠ .completed returncode stdout stderr) →
      post (log ++ [⟨.docker command, outcome⟩]) s (.error e)) :
    Ends log s ((dockerOr failure command).bind k) post := by
  refine ⟨trivial, fun (outcome : DockerOutcome) _ => ?_⟩
  cases outcome with
  | completed returncode stdout stderr => exact completed returncode stdout stderr
  | osError => exact other .osError failure fun _ _ _ same => by cases same
  | timeoutExpired => exact other .timeoutExpired failure fun _ _ _ same => by cases same
  | raised e => exact other (.raised e) e fun _ _ _ same => by cases same

theorem faithfulFront {front back : SandboxLog} (faithful : Faithful kernel (front ++ back)) : Faithful kernel front where
  installs before container script outcome after same :=
    faithful.installs before container script outcome (after ++ back) (by rw [same, List.append_assoc]; rfl)
  dumps before container tool outcome after same :=
    faithful.dumps before container tool outcome (after ++ back) (by rw [same, List.append_assoc]; rfl)

theorem scriptSucceeds (tool : RuleTool) (before : SandboxLog) {container : PyStr} {outcome : DockerOutcome} (unscoped : Unscoped policy)
    (fresh : chainsAfter before tool = .fresh)
    (faithful : Faithful kernel (before ++
      [⟨.docker (.installRules container (iptablesScript (toolName tool) (accepts policy tool))), outcome⟩])) :
    ∃ stdout stderr, outcome = .completed 0 stdout stderr := by
  obtain ⟨returncode, stdout, stderr, rfl, success⟩ := faithful.installs before container _ outcome [] rfl
  have done : ((chainsAfter before tool).runScript (iptablesScript (toolName tool) (accepts policy tool))).2 = true := by
    rw [fresh, scriptInstalls tool unscoped]
  exact ⟨stdout, stderr, by rw [success.mpr ⟨tool, done⟩]⟩

theorem chainsAppend (log : SandboxLog) (answered : Answered SandboxCall SandboxCall.Answer) :
    chainsAfter (log ++ [answered]) = changed (chainsAfter log) answered := by
  rw [chainsAfter, List.foldl_append]
  rfl

def firstInstalled (policy : SandboxEgressPolicy) : (tool : RuleTool) → Chain tool
  | .iptables => installed policy .iptables
  | .ip6tables => .fresh

theorem installRun (kernel : Kernel) {container : PyStr} (unscoped : Unscoped policy) (held : s.container = some container) :
    Ends [] s (installEgressRules policy) fun log s' r => s' = s ∧
      (Faithful kernel log → r = .ok () ∧ chainsAfter log = installed policy) := by
  unfold installEgressRules theContainer Ends
  simp only [Program.bindEq, Program.bind, wp, held]
  refine dockerOrThen (fun returncode stdout stderr => ?_) fun outcome e other => ⟨rfl, fun faithful => ?_⟩
  · split
    · rename_i nonzero
      refine ⟨rfl, fun faithful => ?_⟩
      obtain ⟨stdout', stderr', same⟩ := scriptSucceeds .iptables [] unscoped rfl faithful
      cases same
      exact absurd rfl nonzero
    · have first : chainsAfter ([] ++ [⟨.docker (.installRules container
          (iptablesScript (py "iptables") (v4Accepts policy))), .completed returncode stdout stderr⟩]) =
          firstInstalled policy := by
        funext tool
        cases tool with
        | iptables => exact congrArg Prod.fst (scriptInstalls .iptables unscoped)
        | ip6tables => exact congrArg Prod.fst (scriptOther otherTools.1 unscoped .fresh)
      refine dockerOrThen (fun returncode' stdout' stderr' => ?_) fun outcome e other => ⟨rfl, fun faithful => ?_⟩
      · split
        · rename_i nonzero
          refine ⟨rfl, fun faithful => ?_⟩
          obtain ⟨_, _, same⟩ := scriptSucceeds .ip6tables _ unscoped (congrFun first _) faithful
          cases same
          exact absurd rfl nonzero
        · refine ⟨rfl, fun _ => ⟨rfl, ?_⟩⟩
          rw [chainsAppend, first]
          funext tool
          cases tool with
          | iptables => exact congrArg Prod.fst (scriptOther otherTools.2 unscoped _)
          | ip6tables => exact congrArg Prod.fst (scriptInstalls .ip6tables unscoped)
      · obtain ⟨stdout', stderr', same⟩ := scriptSucceeds .ip6tables _ unscoped (congrFun first _) faithful
        exact absurd same (other _ _ _)
  · obtain ⟨stdout', stderr', same⟩ := scriptSucceeds .iptables [] unscoped rfl faithful
    exact absurd same (other _ _ _)

theorem dumpEnds {container : PyStr} (held : s.container = some container) (chains : chainsAfter log = installed policy) :
    Ends log s (readRuleDump tool) fun log' s' r => Faithful kernel log' →
      s' = s ∧ r = .ok ((installed policy tool).lines kernel) ∧ chainsAfter log' = installed policy := by
  unfold readRuleDump theContainer Ends
  simp only [Program.bindEq, Program.bind, wp, held]
  have printed : ∀ {outcome : DockerOutcome}, Faithful kernel (log ++ [⟨.docker (.dumpRules container tool), outcome⟩]) →
      ∃ stderr, outcome = .completed 0 ((installed policy tool).dump kernel) stderr := by
    intro outcome faithful
    have told := faithful.dumps log container tool outcome [] rfl
    rwa [chains] at told
  refine dockerOrThen (fun returncode stdout stderr => ?_) fun outcome e other faithful => ?_
  · split
    · rename_i nonzero
      intro faithful
      obtain ⟨stderr', same⟩ := printed faithful
      cases same
      exact absurd rfl nonzero
    · intro faithful
      obtain ⟨stderr', same⟩ := printed faithful
      cases same
      refine ⟨rfl, ?_, ?_⟩
      · rw [dumpRead]
      · rw [chainsAppend, chains]
        rfl
  · obtain ⟨stderr', same⟩ := printed faithful
    exact absurd same (other _ _ _)

theorem dumpRuns {container : PyStr} {trace : SandboxLog} {r : Except PyError (List PyStr)}
    (held : s.container = some container) (chains : chainsAfter log = installed policy)
    (run : Runs s (readRuleDump tool) trace r s') (faithful : Faithful kernel (log ++ trace)) :
    s' = s ∧ r = .ok ((installed policy tool).lines kernel) ∧ chainsAfter (log ++ trace) = installed policy :=
  (wpRuns (dumpEnds held chains) run fun _ _ => trivial).1 faithful

theorem verifyRuns {container : PyStr} {trace : SandboxLog} {r : Except PyError SandboxVerification}
    (unscoped : Unscoped policy) (agrees : KernelAgrees kernel policy) (held : s.container = some container)
    (chains : chainsAfter log = installed policy) (run : Runs s (verify config policy) trace r s')
    (faithful : Faithful kernel (log ++ trace)) :
    (∃ verification, r = .ok verification) ∧ chainsAfter (log ++ trace) = installed policy := by
  have nothing : compareAgainstPolicy policy ((installed policy .iptables).lines kernel)
      ((installed policy .ip6tables).lines kernel) = [] :=
    List.append_eq_nil_iff.mpr ⟨installedDump unscoped agrees .iptables, installedDump unscoped agrees .ip6tables⟩
  cases run with
  | get dumps =>
    simp only [held, Option.isNone_some, Bool.false_eq_true, if_false] at dumps
    rcases runsBind dumps with ⟨v4, s₁, before, after, first, rest, rfl⟩ | ⟨e, first, rfl⟩
    · rw [← List.append_assoc] at faithful ⊢
      obtain ⟨rfl, read, chains⟩ := dumpRuns held chains first (faithfulFront faithful)
      cases read
      rcases runsBind rest with ⟨v6, s₂, before', after', second, compares, rfl⟩ | ⟨e, second, rfl⟩
      · rw [← List.append_assoc] at faithful ⊢
        obtain ⟨rfl, read, chains⟩ := dumpRuns held chains second (faithfulFront faithful)
        cases read
        simp only [nothing, List.isEmpty_nil, Bool.not_true, Bool.false_eq_true, if_false] at compares
        cases compares
        exact ⟨⟨_, rfl⟩, by rwa [List.append_nil]⟩
      · cases (dumpRuns held chains second faithful).2.1
    · cases (dumpRuns held chains first faithful).2.1

/- In a new namespace whose client tells the truth, the scripts and the verification after them
succeed, and what the chains then let out is the replies and the addresses of the policy. -/
theorem installedEgress {trace : SandboxLog} {r : Except PyError SandboxVerification} {container : PyStr}
    (unscoped : Unscoped policy) (agrees : KernelAgrees kernel policy) (held : s.container = some container)
    (run : Runs s (installEgressRules policy >>= fun _ => verify config policy) trace r s')
    (faithful : Faithful kernel trace) :
    (∃ verification, r = .ok verification) ∧ ∀ (tool : RuleTool) (p : Packet tool),
      (chainsAfter trace tool).verdict kernel p = .accept ↔ p.answering = true ∨ Covered policy p := by
  have ends : (∃ verification, r = .ok verification) ∧ chainsAfter trace = installed policy := by
    rcases runsBind run with ⟨_, s₁, before, after, scripts, verifies, rfl⟩ | ⟨e, scripts, rfl⟩
    · obtain ⟨⟨rfl, done⟩, -⟩ := wpWhole (installRun kernel unscoped held) scripts fun _ _ => trivial
      have chains := (done (faithfulFront faithful)).2
      exact verifyRuns unscoped agrees held chains verifies faithful
    · obtain ⟨⟨-, done⟩, -⟩ := wpWhole (installRun kernel unscoped held) scripts fun _ _ => trivial
      cases (done faithful).1
  refine ⟨ends.1, fun tool p => ?_⟩
  rw [ends.2]
  exact installedVerdict agrees p

def truthful (kernel : Kernel) (before : SandboxLog) : (call : SandboxCall) → call.Answer
  | .docker (.installRules _ script) =>
    .completed (if ((chainsAfter before .iptables).runScript script).2 ||
      ((chainsAfter before .ip6tables).runScript script).2 then 0 else 1) [] []
  | .docker (.dumpRules _ tool) => .completed 0 ((chainsAfter before tool).dump kernel) []
  | .docker _ => .completed 0 [] []
  | .which | .beforeDeadline => true
  | .uuid4 => []

theorem truthfulPlay {α : Type} (s : SandboxState) (p : SandboxProg α) :
    Faithful kernel (play (truthful kernel) [] s p).1 where
  installs before container script outcome after same := by
    have given := playMade same
    refine ⟨_, _, _, given, ?_⟩
    have either : (((chainsAfter before .iptables).runScript script).2 ||
        ((chainsAfter before .ip6tables).runScript script).2) = true ↔
        ∃ tool, ((chainsAfter before tool).runScript script).2 = true := by
      rw [Bool.or_eq_true]
      constructor
      · intro done
        rcases done with v4 | v6
        · exact ⟨.iptables, v4⟩
        · exact ⟨.ip6tables, v6⟩
      · intro ⟨tool, done⟩
        cases tool with
        | iptables => exact .inl done
        | ip6tables => exact .inr done
    rw [← either, List.nil_append]
    cases ((chainsAfter before .iptables).runScript script).2 || ((chainsAfter before .ip6tables).runScript script).2 with
    | true => simp
    | false => simp
  dumps before container tool outcome after same := ⟨_, playMade same⟩

end Run

theorem siteAgrees : KernelAgrees siteKernel sitePolicy where
  replies tool p := by
    have is : siteKernel.meets tool repliesPart.text p = (repliesPart.text == repliesPart.text && p.answering) := rfl
    rw [is, beq_self_eq_true, Bool.true_and]
  written value listed := rfl

theorem siteUnscoped : Unscoped sitePolicy := by
  intro value scope member
  cases List.mem_singleton.mp member

theorem siteInstalled : (∃ verification, (play (truthful siteKernel) [] siteEstablished (installEgressRules sitePolicy >>=
      fun _ => verify siteConfig sitePolicy)).2.1 = .ok verification) ∧ ∀ (tool : RuleTool) (p : Packet tool),
    (chainsAfter (play (truthful siteKernel) [] siteEstablished (installEgressRules sitePolicy >>=
      fun _ => verify siteConfig sitePolicy)).1 tool).verdict siteKernel p = .accept ↔
      p.answering = true ∨ Covered sitePolicy p :=
  installedEgress siteUnscoped siteAgrees rfl (playRuns (truthful siteKernel) [] siteEstablished _) (truthfulPlay _ _)

end SentinelGpt.Netfilter
