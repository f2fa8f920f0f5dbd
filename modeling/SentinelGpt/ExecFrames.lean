import SentinelGpt.Base64
import SentinelGpt.DockerSandbox
import SentinelGpt.HttpContract
import SentinelGpt.PythonNumbers

/-! What a command in the sandbox prints, and the response the transport reads from it. -/
namespace SentinelGpt
open HttpAnalysis

theorem bytesAreCodePoints : 256 ≤ 0x110000 := by decide

def overflowError : PyError := .other (py "OverflowError")
def attributeError : PyError := .other (py "AttributeError")

/-! Values of a JSON document where the program expects a number, text or pairs. -/

/- `int(value)`; a float's literal is an infinity, NaN or has an integer part. -/
def toInt (python : Python) : Json → Except PyError Int
  | .bool value => .ok (if value then 1 else 0)
  | .int n => .ok n
  | .float literal =>
    match python.floatTrunc literal with
    | some n => .ok n
    | none => .error (if literal = py "nan" then .valueError else overflowError)
  | .str text =>
    match intOfText python text with
    | some n => .ok n
    | none => .error .valueError
  | .null | .list _ | .dict _ => .error .typeError

def floatBound : Nat := 2 ^ 1024 - 2 ^ 970

/- `float(value)`, whose value nothing modelled reads. -/
def toFloat (python : Python) : Json → Except PyError Unit
  | .bool _ | .float _ => .ok ()
  | .int n => if n.natAbs < floatBound then .ok () else .error overflowError
  | .str text => if floatReads python text then .ok () else .error .valueError
  | .null | .list _ | .dict _ => .error .typeError

def truthy (python : Python) : Json → Bool
  | .null => false
  | .bool value => value
  | .int n => n != 0
  | .float literal => !([py "0.0", py "-0.0"].contains (python.floatRepr literal))
  | .str text => !text.isEmpty
  | .list items => !items.isEmpty
  | .dict members => !members.isEmpty

def iterate : Json → Except PyError (List Json)
  | .list items => .ok items
  | .str text => .ok (text.map fun c => .str [c])
  | .dict members => .ok (members.map fun m => .str m.1)
  | .null | .bool _ | .int _ | .float _ => .error .typeError

def item (payload : Json) (name : PyStr) : Except PyError Json :=
  match payload with
  | .dict members => (Json.get? members name).elim (.error .keyError) .ok
  | _ => .error .typeError

def getItem (payload : Json) (name : PyStr) (otherwise : Json) : Except PyError Json :=
  match payload with
  | .dict members => .ok ((Json.get? members name).getD otherwise)
  | _ => .error attributeError

def headerPair (python : Python) (pair : Json) : Except PyError (PyStr × PyStr) := do
  match ← iterate pair with
  | [k, v] => return (← strJson python k, ← strJson python v)
  | _ => throw .valueError

def isAscii (text : PyStr) : Bool := text.all fun c => c.val < 0x80

def b64decode : Json → Except PyError (List Byte)
  | .str text =>
    if isAscii text then (Base64.decode (text.map Fin.val)).elim (.error .valueError) .ok
    else .error .valueError
  | _ => .error .typeError

/-! The frames. -/

def successPrefix : PyStr := py "SGPT/1 "
def errorPrefix : PyStr := py "SGPTERR/1 "

def kindMap : List (PyStr × TransportFailureKind) :=
  [(py "connect_timeout", .connectTimeout), (py "read_timeout", .readTimeout), (py "tls_error", .tlsError),
   (py "protocol_error", .protocolError), (py "response_too_large", .responseTooLarge),
   (py "cancelled", .cancelled)]

def kindNamed (name : PyStr) : TransportFailureKind :=
  ((kindMap.find? fun entry => entry.1 == name).map Prod.snd).getD .protocolError

def readResponse (python : Python) (finalTarget : ConnectionTarget) (payload : Json) :
    Except PyError HttpResponseData := do
  let status ← toInt python (← item payload (py "status"))
  let headers ← (← iterate (← item payload (py "headers"))).mapM (headerPair python)
  let body ← b64decode (← item payload (py "body_b64"))
  toFloat python (← item payload (py "elapsed_ms"))
  let truncated ← getItem payload (py "truncated") (.bool false)
  return ⟨status, headers, body, finalTarget, [], truthy python truncated⟩

def readFailure (python : Python) (payload : Json) : Except PyError ControlledTransportError := do
  let kind ← strJson python (← getItem payload (py "kind") .null)
  let detail ← strJson python (← getItem payload (py "detail") (.str []))
  return ⟨kindNamed kind, detail⟩

def lineOutcome (python : Python) (finalTarget : ConnectionTarget) (line : PyStr) :
    Option (Except HttpFailure HttpResponseData) :=
  if successPrefix.isPrefixOf line then
    some (((loads python (line.drop successPrefix.length)).bind (readResponse python finalTarget)).mapError
      .raised)
  else if errorPrefix.isPrefixOf line then
    some (match (loads python (line.drop errorPrefix.length)).bind (readFailure python) with
      | .ok exc => .error (.transport exc)
      | .error exc => .error (.raised exc))
  else none

/- The first marked line decides; without one the output is a protocol error. -/
def parseExecResult (python : Python) (result : ExecResult) (finalTarget : ConnectionTarget) :
    Except HttpFailure HttpResponseData :=
  match (splitlines result.stdout).findSome? (lineOutcome python finalTarget) with
  | some outcome => outcome
  | none =>
    let detail := if result.stderr.isEmpty then py "exit=" ++ intText result.exitCode else result.stderr
    .error (.transport ⟨.protocolError, ((strip detail).take 200).map fun c => if c = 0x0A then 0x20 else c⟩)

theorem itemOk {payload value : Json} {name : PyStr} :
    item payload name = .ok value ↔ ∃ members, payload = .dict members ∧
      Json.get? members name = some value := by
  cases payload with
  | dict members =>
    rw [item]
    cases found : Json.get? members name with
    | none => simp [found]
    | some other => simp [found]
  | _ => simp [item]

theorem getItemOk {payload value otherwise : Json} {name : PyStr} :
    getItem payload name otherwise = .ok value ↔ ∃ members, payload = .dict members ∧
      (Json.get? members name).getD otherwise = value := by
  cases payload with
  | dict members => simp [getItem]
  | _ => simp [getItem]

def PairReads (python : Python) (pair : Json) : Prop :=
  ∃ k v, iterate pair = .ok [k, v] ∧ (strJson python k).isOk = true ∧ (strJson python v).isOk = true

theorem headerPairIsOk {python : Python} {pair : Json} :
    (headerPair python pair).isOk = true ↔ PairReads python pair := by
  unfold headerPair PairReads
  rw [bindIsOk]
  constructor
  · rintro ⟨items, read, ok⟩
    match items, ok with
    | [k, v], ok =>
      obtain ⟨key, first, ok⟩ := bindIsOk.mp ok
      obtain ⟨value, second, -⟩ := bindIsOk.mp ok
      exact ⟨k, v, read, by rw [first]; rfl, by rw [second]; rfl⟩
  · rintro ⟨k, v, read, first, second⟩
    refine ⟨[k, v], read, ?_⟩
    cases key : strJson python k with
    | error e => rw [key] at first; cases first
    | ok key' =>
      cases value : strJson python v with
      | error e => rw [value] at second; cases second
      | ok value' =>
        simp only [key, value]
        rfl

structure SuccessFrame (python : Python) (members : List (PyStr × Json)) : Prop where
  status : ∃ v, Json.get? members (py "status") = some v ∧ (toInt python v).isOk = true
  headers : ∃ v pairs, Json.get? members (py "headers") = some v ∧ iterate v = .ok pairs ∧
    ∀ pair ∈ pairs, PairReads python pair
  body : ∃ v, Json.get? members (py "body_b64") = some v ∧ (b64decode v).isOk = true
  elapsed : ∃ v, Json.get? members (py "elapsed_ms") = some v ∧ (toFloat python v).isOk = true

structure FailureFrame (python : Python) (members : List (PyStr × Json)) : Prop where
  kind : (strJson python ((Json.get? members (py "kind")).getD .null)).isOk = true
  detail : (strJson python ((Json.get? members (py "detail")).getD (.str []))).isOk = true

theorem readResponseIsOk (python : Python) (target : ConnectionTarget) (payload : Json) :
    (readResponse python target payload).isOk = true ↔
      ∃ members, payload = .dict members ∧ SuccessFrame python members := by
  unfold readResponse
  constructor
  · intro ok
    obtain ⟨status, found, ok⟩ := bindIsOk.mp ok
    obtain ⟨n, number, ok⟩ := bindIsOk.mp ok
    obtain ⟨headers, foundHeaders, ok⟩ := bindIsOk.mp ok
    obtain ⟨pairs, read, ok⟩ := bindIsOk.mp ok
    obtain ⟨texts, each, ok⟩ := bindIsOk.mp ok
    obtain ⟨body, foundBody, ok⟩ := bindIsOk.mp ok
    obtain ⟨data, decoded, ok⟩ := bindIsOk.mp ok
    obtain ⟨elapsed, foundElapsed, ok⟩ := bindIsOk.mp ok
    obtain ⟨_, float, -⟩ := bindIsOk.mp ok
    obtain ⟨members, rfl, hasStatus⟩ := itemOk.mp found
    obtain ⟨_, same, hasHeaders⟩ := itemOk.mp foundHeaders
    cases same
    obtain ⟨_, same, hasBody⟩ := itemOk.mp foundBody
    cases same
    obtain ⟨_, same, hasElapsed⟩ := itemOk.mp foundElapsed
    cases same
    have pairsRead : ∀ pair ∈ pairs, PairReads python pair := fun pair member => by
      have all := mapMIsOk (headerPair python) pairs
      rw [each] at all
      exact headerPairIsOk.mp (List.all_eq_true.mp all.symm pair member)
    exact ⟨members, rfl, ⟨status, hasStatus, by rw [number]; rfl⟩,
      ⟨headers, pairs, hasHeaders, read, pairsRead⟩, ⟨body, hasBody, by rw [decoded]; rfl⟩,
      ⟨elapsed, hasElapsed, by rw [float]; rfl⟩⟩
  · rintro ⟨members, rfl, ⟨status, hasStatus, number⟩, ⟨headers, pairs, hasHeaders, read, pairsRead⟩,
      ⟨body, hasBody, decoded⟩, ⟨elapsed, hasElapsed, float⟩⟩
    have all : (pairs.mapM (headerPair python)).isOk = true := by
      rw [mapMIsOk, List.all_eq_true]
      exact fun pair member => headerPairIsOk.mpr (pairsRead pair member)
    obtain ⟨n, number⟩ := okOfIsOk number
    obtain ⟨texts, each⟩ := okOfIsOk all
    obtain ⟨data, decoded⟩ := okOfIsOk decoded
    obtain ⟨_, float⟩ := okOfIsOk float
    refine bindIsOk.mpr ⟨status, itemOk.mpr ⟨members, rfl, hasStatus⟩, bindIsOk.mpr ⟨n, number, ?_⟩⟩
    refine bindIsOk.mpr ⟨headers, itemOk.mpr ⟨members, rfl, hasHeaders⟩, bindIsOk.mpr ⟨pairs, read, ?_⟩⟩
    refine bindIsOk.mpr ⟨texts, each, bindIsOk.mpr ⟨body, itemOk.mpr ⟨members, rfl, hasBody⟩, ?_⟩⟩
    refine bindIsOk.mpr ⟨data, decoded, bindIsOk.mpr ⟨elapsed, itemOk.mpr ⟨members, rfl, hasElapsed⟩, ?_⟩⟩
    exact bindIsOk.mpr ⟨_, float, bindIsOk.mpr ⟨_, getItemOk.mpr ⟨members, rfl, rfl⟩, rfl⟩⟩

theorem readFailureIsOk (python : Python) (payload : Json) :
    (readFailure python payload).isOk = true ↔
      ∃ members, payload = .dict members ∧ FailureFrame python members := by
  unfold readFailure
  constructor
  · intro ok
    obtain ⟨kind, found, ok⟩ := bindIsOk.mp ok
    obtain ⟨kindText, told, ok⟩ := bindIsOk.mp ok
    obtain ⟨detail, foundDetail, ok⟩ := bindIsOk.mp ok
    obtain ⟨detailText, toldDetail, -⟩ := bindIsOk.mp ok
    obtain ⟨members, rfl, rfl⟩ := getItemOk.mp found
    obtain ⟨_, same, rfl⟩ := getItemOk.mp foundDetail
    cases same
    exact ⟨members, rfl, by rw [told]; rfl, by rw [toldDetail]; rfl⟩
  · rintro ⟨members, rfl, told, toldDetail⟩
    obtain ⟨kindText, told⟩ := okOfIsOk told
    obtain ⟨detailText, toldDetail⟩ := okOfIsOk toldDetail
    refine bindIsOk.mpr ⟨_, getItemOk.mpr ⟨members, rfl, rfl⟩, bindIsOk.mpr ⟨kindText, told, ?_⟩⟩
    exact bindIsOk.mpr ⟨_, getItemOk.mpr ⟨members, rfl, rfl⟩, bindIsOk.mpr ⟨detailText, toldDetail, rfl⟩⟩

def FrameOf (python : Python) (text : PyStr) (kind : List (PyStr × Json) → Prop) : Prop :=
  ∃ members, loads python text = .ok (.dict members) ∧ kind members

def LineFramed (python : Python) (line : PyStr) : Prop :=
  if successPrefix.isPrefixOf line then
    FrameOf python (line.drop successPrefix.length) (SuccessFrame python)
  else if errorPrefix.isPrefixOf line then
    FrameOf python (line.drop errorPrefix.length) (FailureFrame python)
  else True

def isMarked (line : PyStr) : Bool := successPrefix.isPrefixOf line || errorPrefix.isPrefixOf line

/- What the first marked line of an output holds is a frame. -/
def WellFramed (python : Python) (result : ExecResult) : Prop :=
  ∀ line, (splitlines result.stdout).find? isMarked = some line → LineFramed python line

theorem bindFrame {α : Type} {python : Python} (text : PyStr) {read : Json → Except PyError α}
    {kind : List (PyStr × Json) → Prop}
    (reads : ∀ payload, (read payload).isOk = true ↔ ∃ members, payload = .dict members ∧ kind members) :
    ((loads python text).bind read).isOk = true ↔ FrameOf python text kind := by
  refine (bindIsOk (x := loads python text) (f := read)).trans ?_
  constructor
  · rintro ⟨payload, loaded, ok⟩
    obtain ⟨members, rfl, frame⟩ := (reads payload).mp ok
    exact ⟨members, loaded, frame⟩
  · rintro ⟨members, loaded, frame⟩
    exact ⟨_, loaded, (reads _).mpr ⟨members, rfl, frame⟩⟩

theorem lineFramed {python : Python} {target : ConnectionTarget} {line : PyStr}
    {outcome : Except HttpFailure HttpResponseData} (told : lineOutcome python target line = some outcome) :
    (∀ exc, outcome ≠ .error (.raised exc)) ↔ LineFramed python line := by
  unfold lineOutcome at told
  unfold LineFramed
  by_cases success : successPrefix.isPrefixOf line = true
  · rw [if_pos success] at told ⊢
    rw [← bindFrame (line.drop successPrefix.length) (readResponseIsOk python target)]
    cases told
    cases (loads python (line.drop successPrefix.length)).bind (readResponse python target) with
    | ok response => exact iff_of_true (fun exc same => by cases same) rfl
    | error exc => exact iff_of_false (fun none => none exc rfl) (by simp [Except.isOk, Except.toBool])
  · rw [if_neg success] at told ⊢
    by_cases failure : errorPrefix.isPrefixOf line = true
    · rw [if_pos failure] at told ⊢
      rw [← bindFrame (line.drop errorPrefix.length) (readFailureIsOk python)]
      cases told
      cases (loads python (line.drop errorPrefix.length)).bind (readFailure python) with
      | ok exc => exact iff_of_true (fun exc' same => by cases same) rfl
      | error exc => exact iff_of_false (fun none => none exc rfl) (by simp [Except.isOk, Except.toBool])
    · rw [if_neg failure] at told
      cases told

theorem lineMarked (python : Python) (target : ConnectionTarget) (line : PyStr) :
    (lineOutcome python target line).isSome = isMarked line := by
  unfold lineOutcome isMarked
  by_cases success : successPrefix.isPrefixOf line = true
  · simp [success]
  · by_cases failure : errorPrefix.isPrefixOf line = true
    · simp [success, failure]
    · simp [success, failure]

theorem findMarked {python : Python} {target : ConnectionTarget} (lines : List PyStr) :
    lines.findSome? (lineOutcome python target) =
      (lines.find? isMarked).bind (lineOutcome python target) := by
  induction lines with
  | nil => rfl
  | cons line lines ih =>
    have marked := lineMarked python target line
    rw [List.findSome?_cons, List.find?_cons]
    cases told : lineOutcome python target line with
    | none =>
      rw [told] at marked
      rw [← marked]
      exact ih
    | some outcome =>
      rw [told] at marked
      rw [← marked]
      exact told.symm

theorem parseFramed {python : Python} {target : ConnectionTarget} {result : ExecResult} :
    (∀ exc, parseExecResult python result target ≠ .error (.raised exc)) ↔ WellFramed python result := by
  unfold parseExecResult WellFramed
  rw [findMarked]
  cases found : (splitlines result.stdout).find? isMarked with
  | none =>
    refine iff_of_true (fun exc same => ?_) (fun line none => by cases none)
    simp only [Option.bind_none] at same
    cases same
  | some line =>
    have marked : (lineOutcome python target line).isSome = true :=
      (lineMarked python target line).trans (List.find?_some found)
    obtain ⟨outcome, told⟩ := Option.isSome_iff_exists.mp marked
    simp only [Option.bind_some, told]
    refine (lineFramed told).trans ⟨fun framed _ same => ?_, fun framed => framed line rfl⟩
    cases same
    exact framed

end SentinelGpt
