import SentinelGpt.TargetBinding

/-! The allow-list of a sandbox, and how a dump of the live rules is compared with it. -/
namespace SentinelGpt

/- An allow-list is derived from a binding that has addresses. -/
structure SandboxEgressPolicy where
  hostname : PyStr
  addresses : List IPAddress
  nonempty : addresses ≠ []
  deriving DecidableEq

namespace SandboxEgressPolicy

def forBinding (binding : ValidatedTargetBinding) : Except PyError SandboxEgressPolicy :=
  if nonempty : binding.addresses ≠ [] then .ok ⟨binding.hostname, binding.addresses, nonempty⟩
  else .error egressDeniedError

def authorize (policy : SandboxEgressPolicy) (address : IPAddress) : Bool :=
  policy.addresses.contains address

theorem forBindingOk {binding : ValidatedTargetBinding} {policy : SandboxEgressPolicy}
    (listed : forBinding binding = .ok policy) :
    policy.hostname = binding.hostname ∧ policy.addresses = binding.addresses := by
  unfold forBinding at listed
  split at listed <;> cases listed
  exact ⟨rfl, rfl⟩

def allowedV4 (policy : SandboxEgressPolicy) : List IPAddress :=
  policy.addresses.filter fun a => a.version == 4

def allowedV6 (policy : SandboxEgressPolicy) : List IPAddress :=
  policy.addresses.filter fun a => a.version == 6

end SandboxEgressPolicy

def siteAddress : IPAddress := .ofOctets 93 184 216 34

def sitePolicy : SandboxEgressPolicy := ⟨py "a", [siteAddress], by simp⟩

inductive RuleTool where
  | iptables
  | ip6tables
  deriving DecidableEq, Repr

inductive RuleProblem where
  | policyNotDrop (tool : RuleTool)
  | unexpectedAccepts (tool : RuleTool) (destinations : List PyStr)
  | missingAccepts (tool : RuleTool) (destinations : List PyStr)
  deriving DecidableEq, Repr

/- `-d (\S+) -j ACCEPT` at the start of a text: the destination. -/
def destinationAt (text : PyStr) : Option PyStr :=
  if (py "-d ").isPrefixOf text then
    let destination := (text.drop 3).takeWhile fun c => !isSpace c
    let rest := (text.drop 3).dropWhile fun c => !isSpace c
    if !destination.isEmpty && (py " -j ACCEPT").isPrefixOf rest then some destination else none
  else none

/- `_ACCEPT_DEST_RE.search(line)`: from the first `-A OUTPUT ` that a destination follows,
the last of them. A line of a dump has no line break that would stop the dots. -/
def acceptDestination (line : PyStr) : Option PyStr :=
  line.tails.findSome? fun text =>
    if (py "-A OUTPUT ").isPrefixOf text then
      (text.drop 10).tails.reverse.findSome? destinationAt
    else none

def compareDump (tool : RuleTool) (expected dump : List PyStr) : List RuleProblem :=
  let accepted := dump.filterMap acceptDestination
  let unexpected := accepted.filter fun d => !expected.contains d
  let missing := expected.filter fun d => !accepted.contains d
  (if dump.any fun line => (py "-P OUTPUT DROP").isPrefixOf line then [] else [.policyNotDrop tool]) ++
    (if unexpected.isEmpty then [] else [.unexpectedAccepts tool unexpected]) ++
    (if missing.isEmpty then [] else [.missingAccepts tool missing])

def v4Accepts (policy : SandboxEgressPolicy) : List PyStr :=
  policy.allowedV4.map fun address => address.text ++ py "/32"

def v6Accepts (policy : SandboxEgressPolicy) : List PyStr :=
  policy.allowedV6.map fun address => address.text ++ py "/128"

def compareAgainstPolicy (policy : SandboxEgressPolicy) (v4Dump v6Dump : List PyStr) :
    List RuleProblem :=
  compareDump .iptables (v4Accepts policy) v4Dump ++ compareDump .ip6tables (v6Accepts policy) v6Dump

/- Nothing is wrong exactly when both dumps drop by default and accept, as far as the pattern
reads them, the destinations of the policy and no others. -/
theorem compareDumpNil {tool : RuleTool} {expected dump : List PyStr} :
    compareDump tool expected dump = [] ↔
      (∃ line ∈ dump, (py "-P OUTPUT DROP").isPrefixOf line = true) ∧
      ∀ d, (∃ line ∈ dump, acceptDestination line = some d) ↔ d ∈ expected := by
  have read : ∀ d, d ∈ dump.filterMap acceptDestination ↔
      ∃ line ∈ dump, acceptDestination line = some d := fun d => List.mem_filterMap
  have nothing : ∀ (listed wanted : List PyStr),
      (listed.filter fun d => !wanted.contains d).isEmpty = true ↔ ∀ d ∈ listed, d ∈ wanted := by
    intro listed wanted
    simp [List.filter_eq_nil_iff]
  have parts : ∀ (clear : Bool) (problem : RuleProblem),
      (if clear then [] else [problem]) = [] ↔ clear = true := by
    intro clear problem
    cases clear <;> simp
  simp only [compareDump, List.append_eq_nil_iff, parts]
  simp only [nothing, List.any_eq_true, and_assoc]
  refine and_congr_right fun _ => ⟨fun ⟨expectedOnly, allAccepted⟩ d => ?_, fun same => ⟨?_, ?_⟩⟩
  · rw [← read]
    exact ⟨expectedOnly d, allAccepted d⟩
  · exact fun d accepted => (same d).1 ((read d).1 accepted)
  · exact fun d wanted => (read d).2 ((same d).2 wanted)

end SentinelGpt
