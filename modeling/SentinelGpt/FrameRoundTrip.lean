import SentinelGpt.HttpWorkload

/-! What the transport reads of what the workload writes. -/
namespace SentinelGpt.HttpWorkload
open HttpAnalysis JsonScan

section Texts

theorem unpairedLatin (bytes : List Byte) : Unpaired (latin1 bytes) := by
  refine unpairedSmall fun c inside => ?_
  obtain ⟨b, -, rfl⟩ := List.mem_map.mp inside
  have bound := b.isLt
  rw [Fin.val_castLE]
  omega

theorem codesUnpaired {codes : List Nat} (small : ∀ code ∈ codes, code < 0x80) : Unpaired (codesText codes) :=
  unpairedSmall fun c inside => (codesSmall small c inside).trans (by decide)

theorem bodyDecoded (body : List Byte) : b64decode (.str (codesText (Base64.encode body))) = .ok body := by
  have small : ∀ code ∈ Base64.encode body, code < 0x80 := fun _ => Base64.encodedSmall
  rw [b64decode, if_pos (codesAscii small), codesVal small, Base64.decodeEncode]
  rfl

end Texts

section Payloads

theorem headersReadable (depth : Nat) (headers : RawHeaders) :
    ReadableItems true (depth + 1) (headers.map fun h => .list [.str (latin1 h.1), .str (latin1 h.2)]) := by
  induction headers with
  | nil => trivial
  | cons h headers ih => exact ⟨⟨unpairedLatin h.1, unpairedLatin h.2, trivial⟩, ih⟩

theorem responseReadable {status : Int} (short : shortInt status = true) (depth : Nat) (headers : RawHeaders)
    (body : List Byte) (truncated : Bool) (elapsedMs : ElapsedMs) :
    Readable true (depth + 3) (responsePayload status headers body truncated elapsedMs) := by
  have key : ∀ name ∈ [py "status", py "headers", py "body_b64", py "truncated", py "elapsed_ms"], Unpaired name := by
    unfold Unpaired
    decide
  have encoded : Unpaired (codesText (Base64.encode body)) := codesUnpaired fun _ => Base64.encodedSmall
  exact ⟨(by decide : [py "status", py "headers", py "body_b64", py "truncated", py "elapsed_ms"].Nodup),
    key _ (by decide), short, key _ (by decide), headersReadable depth headers, key _ (by decide), encoded,
    key _ (by decide), trivial, key _ (by decide), ⟨rfl, elapsedMs.reads⟩, trivial⟩

theorem kindUnpaired (kind : TransportFailureKind) : Unpaired kind.value := by
  unfold Unpaired
  cases kind <;> decide

theorem errorReadable (kind : TransportFailureKind) {detail : PyStr} (unpaired : Unpaired (detail.take 500)) (depth : Nat) :
    Readable true (depth + 1) (errorPayload kind.value detail) := by
  have key : ∀ name ∈ [py "kind", py "detail"], Unpaired name := by
    unfold Unpaired
    decide
  exact ⟨(by decide : [py "kind", py "detail"].Nodup), key _ (by decide), kindUnpaired kind, key _ (by decide), unpaired,
    trivial⟩

theorem headersRead (python : Python) (headers : RawHeaders) :
    (headers.map fun h => Json.list [.str (latin1 h.1), .str (latin1 h.2)]).mapM (headerPair python) =
      .ok (headers.map fun h => (latin1 h.1, latin1 h.2)) := by
  induction headers with
  | nil => rfl
  | cons h headers ih =>
    rw [List.map_cons, List.mapM_cons, ih]
    rfl

theorem responseRead (python : Python) (target : ConnectionTarget) (status : Int) (headers : RawHeaders) (body : List Byte)
    (truncated : Bool) (elapsedMs : ElapsedMs) :
    readResponse python target (responsePayload status headers body truncated elapsedMs) =
      .ok ⟨status, headers.map fun h => (latin1 h.1, latin1 h.2), body, target, [], truncated⟩ := by
  have status' : item (responsePayload status headers body truncated elapsedMs) (py "status") = .ok (.int status) := rfl
  have headers' : item (responsePayload status headers body truncated elapsedMs) (py "headers") =
      .ok (.list (headers.map fun h => .list [.str (latin1 h.1), .str (latin1 h.2)])) := rfl
  have body' : item (responsePayload status headers body truncated elapsedMs) (py "body_b64") =
      .ok (.str (codesText (Base64.encode body))) := rfl
  have elapsed' : item (responsePayload status headers body truncated elapsedMs) (py "elapsed_ms") =
      .ok (.float elapsedMs.literal) := rfl
  have truncated' : getItem (responsePayload status headers body truncated elapsedMs) (py "truncated") (.bool false) =
      .ok (.bool truncated) := rfl
  have pairs := headersRead python headers
  have data := bodyDecoded body
  unfold readResponse
  simp only [status', headers', body', elapsed', truncated', bind, Except.bind, toInt, iterate, pairs, data, toFloat,
    truthy, pure, Except.pure]

theorem kindNamedValue (kind : TransportFailureKind) : kindNamed kind.value = kind := by
  cases kind <;> decide

theorem failureRead (python : Python) (kind : TransportFailureKind) (detail : PyStr) :
    readFailure python (errorPayload kind.value detail) = .ok ⟨kind, detail.take 500⟩ := by
  have read : readFailure python (errorPayload kind.value detail) = .ok ⟨kindNamed kind.value, detail.take 500⟩ := rfl
  rw [read, kindNamedValue]

end Payloads

section Lines

theorem oneLine {line : PyStr} (unbroken : Unbroken line) : splitlines (line ++ [0x0A]) = [line] := by
  rw [splitlinesLine unbroken]
  rfl

theorem successLine (python : Python) (target : ConnectionTarget) (payload : PyStr) :
    lineOutcome python target (successPrefix ++ payload) =
      some (((loads python payload).bind (readResponse python target)).mapError .raised) := by
  have marked : successPrefix.isPrefixOf (successPrefix ++ payload) = true :=
    List.isPrefixOf_iff_prefix.mpr (List.prefix_append _ _)
  rw [lineOutcome, if_pos marked, List.drop_left]

theorem errorLine (python : Python) (target : ConnectionTarget) (payload : PyStr) :
    lineOutcome python target (errorPrefix ++ payload) =
      some (match (loads python payload).bind (readFailure python) with
        | .ok exc => .error (.transport exc)
        | .error exc => .error (.raised exc)) := by
  have other : successPrefix.isPrefixOf (errorPrefix ++ payload) = false := rfl
  have marked : errorPrefix.isPrefixOf (errorPrefix ++ payload) = true :=
    List.isPrefixOf_iff_prefix.mpr (List.prefix_append _ _)
  have dropped : (errorPrefix ++ payload).drop errorPrefix.length = payload := List.drop_left
  unfold lineOutcome
  rw [if_neg (by rw [other]; decide), if_pos marked]
  exact congrArg (fun text => some (match (loads python text).bind (readFailure python) with
    | .ok exc => (.error (.transport exc) : Except HttpFailure HttpResponseData)
    | .error exc => .error (.raised exc))) dropped

theorem parseLine {python : Python} {target : ConnectionTarget} {result : ExecResult} {line : PyStr}
    {outcome : Except HttpFailure HttpResponseData} (lines : splitlines result.stdout = [line])
    (told : lineOutcome python target line = some outcome) : parseExecResult python result target = outcome := by
  rw [parseExecResult, lines, List.findSome?_cons, told]

theorem errorUnbroken (kind : TransportFailureKind) (detail : PyStr) :
    Unbroken (errorPrefix ++ dumps (errorPayload kind.value detail)) := by
  have marker : Unbroken errorPrefix := by decide
  have opening : Unbroken (py "\x7b") := by decide
  have closing : Unbroken (py "\x7d") := by decide
  have colon : Unbroken (py ": ") := by decide
  have comma : Unbroken (py ", ") := by decide
  have first := unbrokenAppend (unbrokenAppend (dumpsStrUnbroken (py "kind")) colon) (dumpsStrUnbroken kind.value)
  have second := unbrokenAppend (unbrokenAppend (dumpsStrUnbroken (py "detail")) colon) (dumpsStrUnbroken (detail.take 500))
  have members := unbrokenAppend (unbrokenAppend first comma) second
  exact unbrokenAppend marker (unbrokenAppend (unbrokenAppend opening members) closing)

end Lines

section RoundTrip
variable {python : Python} (room : 3 ≤ python.loadsDepth) (target : ConnectionTarget)
include room

theorem responseFrame {status : Int} {headers : RawHeaders} {body : List Byte} {truncated : Bool} {elapsedMs : ElapsedMs}
    {out : PyStr} (written : emitResponse status headers body truncated elapsedMs = .ok out) :
    (∃ line, splitlines out = [line]) ∧ ∀ result : ExecResult, result.stdout = out →
      parseExecResult python result target =
        .ok ⟨status, headers.map fun h => (latin1 h.1, latin1 h.2), body, target, [], truncated⟩ := by
  obtain ⟨depth, enough⟩ := Nat.exists_eq_add_of_le' room
  unfold emitResponse at written
  split at written
  · rename_i short
    have readable := responseReadable short depth headers body truncated elapsedMs
    have unbroken : Unbroken (successPrefix ++ dumps (responsePayload status headers body truncated elapsedMs)) :=
      unbrokenAppend (by decide) (dumpsUnbroken readable)
    have lines := oneLine unbroken
    rw [Except.ok.inj written] at lines
    refine ⟨⟨_, lines⟩, fun result printed => ?_⟩
    rw [← printed] at lines
    rw [← enough] at readable
    have told := successLine python target (dumps (responsePayload status headers body truncated elapsedMs))
    rw [loadsDumps python readable] at told
    have read := parseLine lines told
    rw [read, Except.bind, responseRead]
    rfl
  · cases written

theorem errorFrame (kind : TransportFailureKind) (detail : PyStr) :
    (∃ line, splitlines (emitError kind.value detail) = [line]) ∧ (Unpaired (detail.take 500) →
      ∀ result : ExecResult, result.stdout = emitError kind.value detail →
        parseExecResult python result target = .error (.transport ⟨kind, detail.take 500⟩)) := by
  have lines : splitlines (emitError kind.value detail) = [_] := oneLine (errorUnbroken kind detail)
  refine ⟨⟨_, lines⟩, fun unpaired result printed => ?_⟩
  obtain ⟨depth, enough⟩ := Nat.exists_eq_add_of_le' room
  have readable := errorReadable kind unpaired (depth + 2)
  rw [← enough] at readable
  rw [← printed] at lines
  have told := errorLine python target (dumps (errorPayload kind.value detail))
  rw [loadsDumps python readable] at told
  have read := parseLine lines told
  rw [read, Except.bind, failureRead]

/- Whatever its bytes are, a response comes back with its headers as latin-1; an error with its kind
and the first 500 characters of its detail, unless two of these are read as one. Neither holds a second
frame, or breaks its line. -/
theorem framesRoundTrip :
    (∀ {status : Int} {headers : RawHeaders} {body : List Byte} {truncated : Bool} {elapsedMs : ElapsedMs} {out : PyStr},
      emitResponse status headers body truncated elapsedMs = .ok out →
        (∃ line, splitlines out = [line]) ∧ ∀ result : ExecResult, result.stdout = out →
          parseExecResult python result target =
            .ok ⟨status, headers.map fun h => (latin1 h.1, latin1 h.2), body, target, [], truncated⟩) ∧
    ∀ kind ∈ emittedKinds, ∀ detail : PyStr,
      (∃ line, splitlines (emitError kind.value detail) = [line]) ∧ (Unpaired (detail.take 500) →
        ∀ result : ExecResult, result.stdout = emitError kind.value detail →
          parseExecResult python result target = .error (.transport ⟨kind, detail.take 500⟩)) :=
  ⟨fun written => responseFrame room target written, fun kind _ detail => errorFrame room target kind detail⟩

end RoundTrip

def siteTarget : ConnectionTarget := ⟨.v4 (Fin.ofNat _ 0x5DB8D822), 443, py "https", py "example.com"⟩

def elapsedNone : ElapsedMs := ⟨py "0.0", rfl⟩

def markedHeaders : RawHeaders := [([0x58], [0x0A, 0x53, 0x47, 0x50, 0x54, 0x2F, 0x31, 0x20, 0x7B, 0x7D])]
def markedBody : List Byte := [0x0A, 0x53, 0x47, 0x50, 0x54, 0x2F, 0x31, 0x20, 0xFF]

theorem markedRoundTrip : ∃ out, emitResponse 200 markedHeaders markedBody false elapsedNone = .ok out ∧
    parseExecResult (Python.onAscii []) ⟨[], 0, out, []⟩ siteTarget =
      .ok ⟨200, [(py "X", py "\nSGPT/1 \x7b\x7d")], markedBody, siteTarget, [], false⟩ ∧
    parseExecResult (Python.onAscii []) ⟨[], 2, emitError (py "tls_error") (py "a\nSGPT/1 b"), []⟩ siteTarget =
      .error (.transport ⟨.tlsError, py "a\nSGPT/1 b"⟩) := by
  have frames := framesRoundTrip (by decide : 3 ≤ (Python.onAscii []).loadsDepth) siteTarget
  have unpaired : Unpaired ((py "a\nSGPT/1 b").take 500) := by
    unfold Unpaired
    decide
  have short : shortInt 200 = true := by decide +kernel
  have written : emitResponse 200 markedHeaders markedBody false elapsedNone = .ok _ := if_pos short
  exact ⟨_, written, (frames.1 written).2 ⟨[], 0, _, []⟩ rfl,
    (frames.2 .tlsError (by decide) (py "a\nSGPT/1 b")).2 unpaired ⟨[], 2, _, []⟩ rfl⟩

theorem pairJoined :
    parseExecResult (Python.onAscii []) ⟨[], 2, emitError (py "protocol_error") [0xD800, 0xDC00], []⟩ siteTarget ≠
      .error (.transport ⟨.protocolError, [0xD800, 0xDC00]⟩) := by
  decide +kernel

section Clamp
variable {python : Python}

/- A response holds the body up to the cap, and tells whether bytes were lost. -/
def Clamped (maxBytes : Nat) (body : List Byte) (response : HttpResponseData) : Prop :=
  response.body = body.take maxBytes ∧ (response.truncated = true ↔ maxBytes < body.length)

instance (maxBytes : Nat) (body : List Byte) (response : HttpResponseData) :
    Decidable (Clamped maxBytes body response) := by
  unfold Clamped; infer_instance

theorem respondRead (room : 3 ≤ python.loadsDepth) (target : ConnectionTarget) (limits : HttpLimits) {status : Int}
    {headers : RawHeaders} {chunks : List (List Byte)} {elapsedMs : ElapsedMs} {out : PyStr}
    (written : respond limits.maxResponseBytes status headers chunks elapsedMs = .ok out)
    {result : ExecResult} (printed : result.stdout = out) :
    parseExecResult python result target =
      .ok ⟨status, headers.map fun h => (latin1 h.1, latin1 h.2), chunks.flatten.take limits.maxResponseBytes, target, [],
        decide (limits.maxResponseBytes ≤ chunks.flatten.length)⟩ := by
  rw [respond, streamBodyIs limits.positive.1] at written
  exact (responseFrame room target written).2 result printed

/- However a body is split, the response holds what the cap leaves of it. It tells whether bytes were lost
unless the body ends at the cap: that one is told as clamped with nothing lost. -/
theorem clampedIff (room : 3 ≤ python.loadsDepth) (target : ConnectionTarget) (limits : HttpLimits) {status : Int}
    {headers : RawHeaders} {chunks : List (List Byte)} {elapsedMs : ElapsedMs} {out : PyStr}
    (written : respond limits.maxResponseBytes status headers chunks elapsedMs = .ok out)
    {result : ExecResult} (printed : result.stdout = out) :
    ∃ response, parseExecResult python result target = .ok response ∧
      (Clamped limits.maxResponseBytes chunks.flatten response ↔ chunks.flatten.length ≠ limits.maxResponseBytes) := by
  refine ⟨_, respondRead room target limits written printed, ?_⟩
  simp only [Clamped, decide_eq_true_iff, true_and]
  omega

theorem respondShort {status : Int} (short : shortInt status = true) (maxBytes : Int) (headers : RawHeaders)
    (chunks : List (List Byte)) (elapsedMs : ElapsedMs) : ∃ out,
    respond maxBytes status headers chunks elapsedMs = .ok out := by
  unfold respond
  generalize streamBody maxBytes chunks = clamped
  exact ⟨_, if_pos short⟩

def twoBytes : HttpLimits := ⟨2, 1, 1, by decide⟩

theorem shortClamped : ∃ out, respond 2 200 [] [[0x61], []] elapsedNone = .ok out ∧
    ∃ response, parseExecResult (Python.onAscii []) ⟨[], 0, out, []⟩ siteTarget = .ok response ∧
      Clamped 2 [0x61] response := by
  have short : shortInt 200 = true := by decide +kernel
  obtain ⟨out, written⟩ := respondShort short twoBytes.maxResponseBytes [] [[0x61], []] elapsedNone
  obtain ⟨response, read, clamped⟩ :=
    clampedIff (by decide : 3 ≤ (Python.onAscii []).loadsDepth) siteTarget twoBytes written (rfl : (ExecResult.mk [] 0 out []).stdout = out)
  exact ⟨out, written, response, read, clamped.mpr (by decide)⟩

theorem fullTold : ∃ out, respond 2 200 [] [[0x61, 0x62]] elapsedNone = .ok out ∧
    ∃ response, parseExecResult (Python.onAscii []) ⟨[], 0, out, []⟩ siteTarget = .ok response ∧
      ¬ Clamped 2 [0x61, 0x62] response := by
  have short : shortInt 200 = true := by decide +kernel
  obtain ⟨out, written⟩ := respondShort short twoBytes.maxResponseBytes [] [[0x61, 0x62]] elapsedNone
  have read := respondRead (by decide : 3 ≤ (Python.onAscii []).loadsDepth) siteTarget twoBytes written
    (rfl : (ExecResult.mk [] 0 out []).stdout = out)
  exact ⟨out, written, _, read, by decide⟩

end Clamp

end SentinelGpt.HttpWorkload
