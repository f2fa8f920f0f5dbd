import SentinelGpt.UrlSplit

/-! Where a scan may connect: the policy over resolved addresses, the bindings that have
passed it, and the network context an engine receives. -/
namespace SentinelGpt

def targetResolutionBlockedError : PyError := .other (py "TargetResolutionBlockedError")
def egressDeniedError : PyError := .other (py "EgressDeniedError")

inductive IpRejectionReason where
  | unspecified
  | loopback
  | privateRange
  | linkLocal
  | multicast
  | reserved
  | metadata
  | notGlobal
  deriving DecidableEq, Repr

structure PolicyVerdict where
  allowed : Bool
  address : IPAddress
  reason : Option IpRejectionReason
  deriving DecidableEq, Repr

def cloudMetadataV4 : IPAddress := .ofOctets 169 254 169 254

def ipChecks (address : IPAddress) : List (Bool × IpRejectionReason) :=
  [(address.isUnspecified, .unspecified), (address.isLoopback, .loopback),
   (address.isLinkLocal, .linkLocal), (address.isMulticast, .multicast),
   (address.isReserved, .reserved), (address.isPrivate, .privateRange),
   (!address.isGlobal, .notGlobal)]

def evaluateIp (address : IPAddress) : PolicyVerdict :=
  if address = cloudMetadataV4 then ⟨false, address, some .metadata⟩
  else match (ipChecks address).find? Prod.fst with
    | some (_, reason) => ⟨false, address, some reason⟩
    | none => ⟨true, address, none⟩

def evaluateAll (addresses : List IPAddress) : Option PolicyVerdict :=
  (addresses.map evaluateIp).find? fun verdict => !verdict.allowed

theorem evaluateAllNone {addresses : List IPAddress} :
    evaluateAll addresses = none ↔ ∀ a ∈ addresses, (evaluateIp a).allowed = true := by
  simp [evaluateAll]

theorem evaluateIpAllowed {address : IPAddress} :
    (evaluateIp address).allowed = true ↔
      address ≠ cloudMetadataV4 ∧ ∀ check ∈ ipChecks address, check.1 = false := by
  unfold evaluateIp
  split
  · rename_i metadata
    simp [metadata]
  · rename_i other
    split
    · rename_i found
      have refused := List.find?_some found
      have member := List.mem_of_find?_eq_some found
      simp only [Bool.false_eq_true, false_iff, not_and]
      intro _ passed
      rw [passed _ member] at refused
      contradiction
    · rename_i found
      simp only [List.find?_eq_none, Bool.not_eq_true] at found
      exact iff_of_true rfl ⟨other, found⟩

theorem evaluateIpReason (address : IPAddress) :
    (evaluateIp address).reason.isSome = !(evaluateIp address).allowed := by
  unfold evaluateIp
  split
  · rfl
  · split <;> rfl

/- A binding is built from addresses that passed the policy, and pins one of them. -/
structure ValidatedTargetBinding where
  hostname : PyStr
  addresses : List IPAddress
  pinnedAddress : Option IPAddress
  validated : evaluateAll addresses = none
  pinned : ∀ a ∈ pinnedAddress, a ∈ addresses
  deriving DecidableEq

namespace ValidatedTargetBinding

def create (hostname : PyStr) (addresses : List IPAddress) :
    Except PyError ValidatedTargetBinding :=
  if validated : evaluateAll addresses = none then
    .ok ⟨hostname, addresses, none, validated, by simp⟩
  else .error targetResolutionBlockedError

def withPinned (binding : ValidatedTargetBinding) (address : IPAddress) :
    Except PyError ValidatedTargetBinding :=
  if member : address ∈ binding.addresses then
    .ok ⟨binding.hostname, binding.addresses, some address, binding.validated, by
      simpa using member⟩
  else .error egressDeniedError

end ValidatedTargetBinding

structure ScanNetworkContext where
  binding : ValidatedTargetBinding
  deriving DecidableEq

namespace ScanNetworkContext

def egressAuthorize (context : ScanNetworkContext) (address : IPAddress) : Bool :=
  context.binding.addresses.contains address

def authorizeDestination (context : ScanNetworkContext) (address : IPAddress) :
    Except PyError Unit :=
  if context.egressAuthorize address then .ok () else .error egressDeniedError

end ScanNetworkContext
end SentinelGpt
