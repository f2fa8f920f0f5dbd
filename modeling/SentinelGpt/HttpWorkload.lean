import SentinelGpt.GraphSearch
import SentinelGpt.HttpTransport
import SentinelGpt.JsonRoundTrip
import Mathlib.Algebra.Order.BigOperators.Group.Finset
import Mathlib.Algebra.Order.Ring.Nat
import Mathlib.Data.Fintype.Card

/-! The program that the sandbox runs for one exchange: how it classifies what was raised, clamps
the body it receives, and writes its frame. -/
namespace SentinelGpt.HttpWorkload
open GraphSearch HttpAnalysis

/-! What was raised. -/

structure Raised (n : Nat) where
  typeName : PyStr
  classes : List PyStr
  cause : Option (Fin n)
  context : Option (Fin n)
  deriving DecidableEq, Repr

abbrev ExceptionGraph (n : Nat) := Fin n → Raised n

def isinstance {n : Nat} (exc : Raised n) (name : PyStr) : Bool := exc.classes.contains name

def certVerificationError : PyStr := py "ssl.SSLCertVerificationError"

/- The errors whose cause is named in their place. -/
def namedByCause : List PyStr :=
  [py "httpx.ConnectError", py "httpx.RemoteProtocolError", py "httpx.LocalProtocolError",
   py "httpx.InvalidURL", py "httpx.UnsupportedProtocol"]

section Classify
variable {n : Nat} (graph : ExceptionGraph n)

/- What an exception brings on the stack; the context was pushed last. -/
def chained (exc : Fin n) : List (Fin n) := (graph exc).context.toList ++ (graph exc).cause.toList

def isUnverified (exc : Fin n) : Bool := isinstance (graph exc) certVerificationError

/- `none` when the walk has not ended within the rounds. -/
def classify (rounds : Nat) (exc : Fin n) : Option (PyStr × PyStr) :=
  if isinstance (graph exc) (py "httpx.ConnectTimeout") then some (py "connect_timeout", py "connect timed out")
  else if isinstance (graph exc) (py "httpx.ReadTimeout") then some (py "read_timeout", py "read timed out")
  else match search (chained graph) (isUnverified graph) rounds [exc] [] with
    | none => none
    | some true => some (py "tls_error", py "certificate verification failed")
    | some false =>
      let cause := (graph exc).cause.getD exc
      if namedByCause.any (isinstance (graph exc)) then some (py "protocol_error", (graph cause).typeName)
      else some (py "protocol_error", (graph exc).typeName)

abbrev Chains : Fin n → Fin n → Prop := Reaches (chained graph)

theorem walkBound (exc : Fin n) : potential (chained graph) Finset.univ [exc] [] ≤ 3 * n + 1 := by
  have each : ∀ v ∈ (Finset.univ : Finset (Fin n)), (chained graph v).length + 1 ≤ 3 := by
    intro v _
    rw [chained, List.length_append]
    have context : (graph v).context.toList.length ≤ 1 := by cases (graph v).context <;> simp
    have cause : (graph v).cause.toList.length ≤ 1 := by cases (graph v).cause <;> simp
    omega
  have all := Finset.sum_le_card_nsmul _ _ 3 each
  rw [Finset.card_univ, Fintype.card_fin, nsmul_eq_mul, Nat.cast_id] at all
  rw [potential, List.toFinset_nil, Finset.sdiff_empty, List.length_singleton]
  omega

theorem walkEnds {rounds : Nat} (enough : 3 * n + 1 < rounds) (exc : Fin n) :
    ∃ found, search (chained graph) (isUnverified graph) rounds [exc] [] = some found := by
  have inside : ∀ v w, w ∈ chained graph v → w ∈ Finset.univ := fun _ w _ => Finset.mem_univ w
  refine searchEnds (fun v _ => inside v) (fun v _ => Finset.mem_univ v) ?_
  exact (walkBound graph exc).trans_lt enough

theorem classifyTells (exc : Fin n) : ∃ kind detail, (∀ rounds, 3 * n + 1 < rounds →
    classify graph rounds exc = some (kind, detail)) ∧
    (isinstance (graph exc) (py "httpx.ConnectTimeout") = false →
      isinstance (graph exc) (py "httpx.ReadTimeout") = false →
      (kind = py "tls_error" ↔ ∃ error, Chains graph exc error ∧
        isinstance (graph error) certVerificationError = true)) := by
  obtain ⟨found, ended⟩ := walkEnds graph (Nat.lt_succ_self (3 * n + 1)) exc
  have stays : ∀ rounds, 3 * n + 1 < rounds →
      search (chained graph) (isUnverified graph) rounds [exc] [] = some found :=
    fun rounds enough => searchStays ended enough
  have reached := searchFrom ended
  unfold classify
  cases connect : isinstance (graph exc) (py "httpx.ConnectTimeout") with
  | true => exact ⟨_, _, fun _ _ => rfl, fun other => by cases other⟩
  | false =>
    cases read : isinstance (graph exc) (py "httpx.ReadTimeout") with
    | true => exact ⟨_, _, fun _ _ => rfl, fun _ other => by cases other⟩
    | false =>
      cases found with
      | true =>
        refine ⟨_, _, fun rounds enough => by rw [stays rounds enough]; rfl, fun _ _ => ?_⟩
        exact iff_of_true rfl (reached.mp rfl)
      | false =>
        have unreached := mt reached.mpr Bool.false_ne_true
        cases named : namedByCause.any (isinstance (graph exc)) with
        | true =>
          refine ⟨_, _, fun rounds enough => by rw [stays rounds enough]; rfl, fun _ _ => ?_⟩
          exact iff_of_false (by decide) unreached
        | false =>
          refine ⟨_, _, fun rounds enough => by rw [stays rounds enough]; rfl, fun _ _ => ?_⟩
          exact iff_of_false (by decide) unreached

end Classify

/- A failed handshake: its context leads to the verification, and round in a circle. -/
def circularChain : ExceptionGraph 3
  | 0 => ⟨py "ConnectError", [py "httpx.ConnectError", py "httpx.TransportError"], some 1, some 1⟩
  | 1 => ⟨py "ConnectError", [py "httpcore.ConnectError"], some 0, some 2⟩
  | 2 => ⟨py "SSLCertVerificationError", [certVerificationError, py "ssl.SSLError"], none, some 1⟩

theorem circularTold : ∃ detail, ∀ rounds, 10 < rounds →
    classify circularChain rounds 0 = some (py "tls_error", detail) := by
  obtain ⟨kind, detail, ended, told⟩ := classifyTells circularChain 0
  have unverified : kind = py "tls_error" := by
    refine (told (by decide) (by decide)).mpr ⟨2, ?_, by decide⟩
    exact .tail (.single (by decide : (1 : Fin 3) ∈ chained circularChain 0)) (by decide)
  rw [unverified] at ended
  exact ⟨detail, ended⟩

/-! The body. -/

def keepFront (chunk : List Byte) (keep : Int) : List Byte :=
  if 0 ≤ keep then chunk.take keep.toNat else chunk.take (chunk.length + keep).toNat

def clampFrom (maxBytes received : Int) : List (List Byte) → List Byte × Bool
  | [] => ([], false)
  | chunk :: rest =>
    let now := received + chunk.length
    if maxBytes ≤ now then (keepFront chunk (maxBytes - (now - chunk.length)), true)
    else
      let (kept, truncated) := clampFrom maxBytes now rest
      (chunk ++ kept, truncated)

def streamBody (maxBytes : Int) (chunks : List (List Byte)) : List Byte × Bool := clampFrom maxBytes 0 chunks

theorem clampFromIs {maxBytes received : Nat} (room : received < maxBytes) (chunks : List (List Byte)) :
    clampFrom maxBytes received chunks =
      (chunks.flatten.take (maxBytes - received), decide (maxBytes ≤ received + chunks.flatten.length)) := by
  induction chunks generalizing received with
  | nil =>
    simp [clampFrom, room]
  | cons chunk rest ih =>
    rw [clampFrom]
    dsimp only
    split
    · rename_i full
      have keep : (maxBytes : Int) - (received + chunk.length - chunk.length) = ((maxBytes - received : Nat) : Int) := by
        omega
      have fits : maxBytes - received ≤ chunk.length := by omega
      have reached : maxBytes ≤ received + (chunk.length + rest.flatten.length) := by omega
      rw [keep, keepFront, if_pos (by omega), Int.toNat_natCast, List.flatten_cons, List.take_append_of_le_length fits,
        List.length_append, decide_eq_true reached]
    · rename_i short
      have room' : received + chunk.length < maxBytes := by omega
      have later := ih room'
      have parted : (chunk ++ rest.flatten).take (maxBytes - received) =
          chunk.take (maxBytes - received) ++ rest.flatten.take (maxBytes - received - chunk.length) := List.take_append
      rw [Int.natCast_add] at later
      rw [later, List.flatten_cons, List.length_append, Nat.add_assoc, parted, List.take_of_length_le (i := maxBytes - received) (by omega), Nat.sub_add_eq]

/- However it is split into chunks, a body is cut at the cap, and flagged from the cap on. -/
theorem streamBodyIs {maxBytes : Nat} (positive : 0 < maxBytes) (chunks : List (List Byte)) :
    streamBody maxBytes chunks = (chunks.flatten.take maxBytes, decide (maxBytes ≤ chunks.flatten.length)) := by
  have whole := clampFromIs positive chunks
  rw [Nat.sub_zero, Nat.zero_add] at whole
  exact whole

/-! The frames. -/

def emittedKinds : List TransportFailureKind := [.connectTimeout, .readTimeout, .tlsError, .protocolError]

theorem classifyKinds {n : Nat} {graph : ExceptionGraph n} {rounds : Nat} {exc : Fin n} {kind detail : PyStr}
    (told : classify graph rounds exc = some (kind, detail)) : ∃ k ∈ emittedKinds, kind = k.value := by
  unfold classify at told
  split at told
  · cases told
    exact ⟨.connectTimeout, by decide, rfl⟩
  · split at told
    · cases told
      exact ⟨.readTimeout, by decide, rfl⟩
    · split at told
      · cases told
      · cases told
        exact ⟨.tlsError, by decide, rfl⟩
      · dsimp only at told
        split at told <;> cases told <;> exact ⟨.protocolError, by decide, rfl⟩

def errorPayload (kind detail : PyStr) : Json :=
  .dict [(py "kind", .str kind), (py "detail", .str (detail.take 500))]

def emitError (kind detail : PyStr) : PyStr := errorPrefix ++ dumps (errorPayload kind detail) ++ [0x0A]

def latin1 (bytes : List Byte) : PyStr := bytes.map (Fin.castLE bytesAreCodePoints)

abbrev RawHeaders := List (List Byte × List Byte)

/- A time in milliseconds, by the text of its float, which is read back as that float. -/
structure ElapsedMs where
  literal : PyStr
  reads : JsonScan.scanNumber false literal = .ok (.float literal, [])

def responsePayload (status : Int) (headers : RawHeaders) (body : List Byte) (truncated : Bool)
    (elapsedMs : ElapsedMs) : Json :=
  .dict [(py "status", .int status),
    (py "headers", .list (headers.map fun h => .list [.str (latin1 h.1), .str (latin1 h.2)])),
    (py "body_b64", .str (codesText (Base64.encode body))), (py "truncated", .bool truncated),
    (py "elapsed_ms", .float elapsedMs.literal)]

/- What is written of a response; an integer of too many digits has no text. -/
def emitResponse (status : Int) (headers : RawHeaders) (body : List Byte) (truncated : Bool)
    (elapsedMs : ElapsedMs) : Except PyError PyStr :=
  if shortInt status then
    .ok (successPrefix ++ dumps (responsePayload status headers body truncated elapsedMs) ++ [0x0A])
  else .error .valueError

def respond (maxBytes : Int) (status : Int) (headers : RawHeaders) (chunks : List (List Byte))
    (elapsedMs : ElapsedMs) : Except PyError PyStr :=
  let (bodyOut, truncated) := streamBody maxBytes chunks
  emitResponse status headers bodyOut truncated elapsedMs

end SentinelGpt.HttpWorkload
