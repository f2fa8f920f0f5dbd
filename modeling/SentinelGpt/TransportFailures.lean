import SentinelGpt.TransportSafety

/-! What the HTTP client can raise. -/
namespace SentinelGpt
open Calling HttpAnalysis TargetNormalization SandboxHttpClient

def domainErrorNames : List PyStr :=
  [py "EmailAlreadyRegisteredError", py "InvalidCredentialsError", py "NotAuthenticatedError",
   py "ForbiddenError", py "NotFoundError", py "DuplicateTargetError", py "InvalidTargetError",
   py "InvalidPaginationCursorError", py "RefreshCsrfHeaderMissingError", py "TargetUnresolvedError",
   py "TargetResolutionBlockedError", py "DnsRebindingDetectedError", py "RedirectDestinationBlockedError",
   py "EgressDeniedError", py "ScannerExecutionBlockedError", py "SandboxUnavailableError",
   py "SandboxSetupFailedError", py "SandboxVerificationFailedError", py "SandboxNotEstablishedError",
   py "AttestationNotConfirmedError", py "InvalidScanStateError"]

def isDomainError (exc : PyError) : Bool := domainErrorNames.contains exc.name

def isKnown (exc : PyError) : Bool := exc == scanCancelledError || isDomainError exc

def isControlled : HttpFailure → Bool
  | .transport _ => true
  | .raised exc => isKnown exc

def isClosed : Except HttpFailure α → Bool
  | .ok _ => true
  | .error failure => isControlled failure

/-! The exceptions of reading a frame are none of these. -/

def isReadError (exc : PyError) : Bool :=
  match exc with
  | .valueError | .keyError | .typeError | .recursionError | .assertionError | .jsonDecodeError _ => true
  | exc => exc == overflowError || exc == attributeError

theorem readErrorEscapes {exc : PyError} (read : isReadError exc = true) : isKnown exc = false := by
  cases exc with
  | valueError | keyError | typeError | recursionError | assertionError => decide +kernel
  | jsonDecodeError msg =>
    have named : isDomainError (.jsonDecodeError msg) = isDomainError (.jsonDecodeError []) := rfl
    have other : (PyError.jsonDecodeError msg == scanCancelledError) = false :=
      beq_eq_false_iff_ne.mpr fun same => by cases same
    rw [isKnown, named, other]
    decide +kernel
  | other name =>
    have known : PyError.other name = overflowError ∨ PyError.other name = attributeError := by
      simpa [isReadError] using read
    rcases known with same | same
    · rw [same]; decide +kernel
    · rw [same]; decide +kernel
  | _ => cases read

def Raises (known : PyError → Bool) (x : Except PyError α) : Prop :=
  ∀ exc, x = .error exc → known exc = true

section Raises
variable {α β : Type} {known : PyError → Bool}

theorem raisesOk (a : α) : Raises known (.ok a) := fun _ same => by cases same

theorem raisesBind {x : Except PyError α} {f : α → Except PyError β} (first : Raises known x)
    (second : ∀ a, x = .ok a → Raises known (f a)) : Raises known (x >>= f) := by
  intro exc failed
  cases x with
  | ok a => exact second a rfl exc failed
  | error e =>
    cases failed
    exact first _ rfl

theorem raisesMapM {f : α → Except PyError β} (each : ∀ a, Raises known (f a)) (l : List α) :
    Raises known (l.mapM f) := by
  induction l with
  | nil => exact raisesOk []
  | cons a rest ih =>
    rw [List.mapM_cons]
    exact raisesBind (each a) fun b _ => raisesBind ih fun bs _ => raisesOk (b :: bs)

end Raises

abbrev Reading (x : Except PyError α) : Prop := Raises isReadError x

section Reads
variable {α β : Type} {python : Python}

mutual
theorem reprReading (python : Python) (depth : Nat) (value : Json) : Reading (reprJson python depth value) := by
  match depth, value with
  | 0, _ =>
    rw [reprJson]
    exact fun _ same => by cases same; rfl
  | _ + 1, .null | _ + 1, .bool true | _ + 1, .bool false | _ + 1, .float _ | _ + 1, .str _ =>
    rw [reprJson]
    exact raisesOk _
  | _ + 1, .int n =>
    rw [reprJson]
    split
    · exact raisesOk _
    · exact fun _ same => by cases same; rfl
  | depth + 1, .list items =>
    rw [reprJson]
    exact raisesBind (itemsReading python depth items) fun _ _ => raisesOk _
  | depth + 1, .dict members =>
    rw [reprJson]
    exact raisesBind (membersReading python depth members) fun _ _ => raisesOk _

theorem itemsReading (python : Python) (depth : Nat) (items : List Json) :
    Reading (reprItems python depth items) := by
  match items with
  | [] =>
    rw [reprItems]
    exact raisesOk _
  | value :: rest =>
    rw [reprItems]
    exact raisesBind (reprReading python depth value) fun _ _ =>
      raisesBind (itemsReading python depth rest) fun _ _ => raisesOk _

theorem membersReading (python : Python) (depth : Nat) (members : List (PyStr × Json)) :
    Reading (reprMembers python depth members) := by
  match members with
  | [] =>
    rw [reprMembers]
    exact raisesOk _
  | (key, value) :: rest =>
    rw [reprMembers]
    exact raisesBind (reprReading python depth value) fun _ _ =>
      raisesBind (membersReading python depth rest) fun _ _ => raisesOk _
end

theorem strReading (value : Json) : Reading (strJson python value) := by
  unfold strJson
  split
  · exact raisesOk _
  · exact reprReading python _ _

theorem loadsReading (text : PyStr) : Reading (loads python text) := by
  unfold loads
  split
  · exact raisesOk _
  · exact fun _ same => by cases same; rfl
  · exact fun _ same => by cases same; rfl
  · exact fun _ same => by cases same; rfl
  · exact fun _ same => by cases same; rfl

theorem itemReading (payload : Json) (name : PyStr) : Reading (item payload name) := by
  intro exc failed
  cases payload with
  | dict members =>
    rw [item] at failed
    cases found : Json.get? members name with
    | none => rw [found] at failed; cases failed; rfl
    | some value => rw [found] at failed; cases failed
  | _ => cases failed; rfl

theorem getItemReading (payload : Json) (name : PyStr) (otherwise : Json) :
    Reading (getItem payload name otherwise) := by
  intro exc failed
  cases payload with
  | dict members => cases failed
  | _ => cases failed; decide

theorem toIntReading (value : Json) : Reading (toInt python value) := by
  intro exc failed
  unfold toInt at failed
  split at failed
  · cases failed
  · cases failed
  · split at failed
    · cases failed
    · split at failed <;> cases failed <;> decide
  · split at failed
    · cases failed
    · cases failed; rfl
  all_goals cases failed; rfl

theorem toFloatReading (value : Json) : Reading (toFloat python value) := by
  intro exc failed
  unfold toFloat at failed
  split at failed
  · cases failed
  · cases failed
  · split at failed
    · cases failed
    · cases failed; decide
  · split at failed
    · cases failed
    · cases failed; rfl
  all_goals cases failed; rfl

theorem iterateReading (value : Json) : Reading (iterate value) := by
  intro exc failed
  cases value <;> cases failed <;> rfl

theorem pairReading (pair : Json) : Reading (headerPair python pair) := by
  refine raisesBind (iterateReading pair) fun items _ => ?_
  match items with
  | [k, v] => exact raisesBind (strReading k) fun _ _ => raisesBind (strReading v) fun _ _ => raisesOk _
  | [] | [_] | _ :: _ :: _ :: _ => exact fun _ same => by cases same; rfl

theorem b64Reading (value : Json) : Reading (b64decode value) := by
  intro exc failed
  unfold b64decode at failed
  split at failed
  · split at failed
    · rename_i text ascii
      cases decoded : Base64.decode (text.map Fin.val) with
      | none => rw [decoded] at failed; cases failed; rfl
      | some data => rw [decoded] at failed; cases failed
    · cases failed; rfl
  · cases failed; rfl

theorem responseReading (target : ConnectionTarget) (payload : Json) :
    Reading (readResponse python target payload) :=
  raisesBind (itemReading _ _) fun _ _ => raisesBind (toIntReading _) fun _ _ =>
    raisesBind (itemReading _ _) fun _ _ => raisesBind (iterateReading _) fun pairs _ =>
      raisesBind (raisesMapM pairReading pairs) fun _ _ => raisesBind (itemReading _ _) fun _ _ =>
        raisesBind (b64Reading _) fun _ _ => raisesBind (itemReading _ _) fun _ _ =>
          raisesBind (toFloatReading _) fun _ _ => raisesBind (getItemReading _ _ _) fun _ _ => raisesOk _

theorem failureReading (payload : Json) : Reading (readFailure python payload) :=
  raisesBind (getItemReading _ _ _) fun _ _ => raisesBind (strReading _) fun _ _ =>
    raisesBind (getItemReading _ _ _) fun _ _ => raisesBind (strReading _) fun _ _ => raisesOk _

theorem parseReading {result : ExecResult} {target : ConnectionTarget} {exc : PyError}
    (failed : parseExecResult python result target = .error (.raised exc)) : isReadError exc = true := by
  unfold parseExecResult at failed
  split at failed
  · rename_i outcome found
    obtain ⟨line, -, told⟩ := List.exists_of_findSome?_eq_some found
    subst failed
    unfold lineOutcome at told
    split at told
    · have read : Reading ((loads python (line.drop successPrefix.length)).bind (readResponse python target)) :=
        raisesBind (loadsReading _) fun payload _ => responseReading target payload
      cases outcome : (loads python (line.drop successPrefix.length)).bind (readResponse python target) with
      | ok response => rw [outcome] at told; cases told
      | error e =>
        rw [outcome] at told
        cases told
        exact read _ outcome
    · split at told
      · have read : Reading ((loads python (line.drop errorPrefix.length)).bind (readFailure python)) :=
          raisesBind (loadsReading _) fun payload _ => failureReading payload
        cases outcome : (loads python (line.drop errorPrefix.length)).bind (readFailure python) with
        | ok exc => rw [outcome] at told; cases told
        | error e =>
          rw [outcome] at told
          cases told
          exact read _ outcome
      · cases told
  · cases failed

theorem parseClosed {result : ExecResult} {target : ConnectionTarget} :
    isClosed (parseExecResult python result target) = true ↔ WellFramed python result := by
  rw [← @parseFramed python target result]
  cases parsed : parseExecResult python result target with
  | ok response => exact iff_of_true rfl fun _ same => by cases same
  | error failure =>
    cases failure with
    | transport exc => exact iff_of_true rfl fun _ same => by cases same
    | raised exc =>
      refine iff_of_false ?_ fun none => none exc rfl
      rw [isClosed, isControlled, readErrorEscapes (parseReading parsed)]
      exact Bool.false_ne_true

end Reads

section Follows
variable {python : Python} {current next : HttpScanRequest python} {location : PyStr} {parts : SplitResult}

theorem valueErrorEscapes : isKnown .valueError = false := readErrorEscapes rfl

theorem deniedKnown : isKnown egressDeniedError = true := by decide +kernel

theorem closedOf {α : Type} {x : Except PyError α} (known : Raises isKnown x) :
    isClosed (x.mapError HttpFailure.raised) = true := by
  cases x with
  | ok a => rfl
  | error e => exact known e rfl

theorem splitFails {url : PyStr} {exc : PyError} (failed : urlsplit python url = .error exc) :
    exc = .valueError := by
  unfold urlsplit at failed
  dsimp only at failed
  split at failed
  · cases failed
    rfl
  · split at failed
    · cases failed
    · cases failed
      rfl

theorem joinFails {base url : PyStr} {exc : PyError} (failed : urljoin python base url = .error exc) :
    exc = .valueError := by
  unfold urljoin at failed
  split at failed
  · cases failed
  · split at failed
    · cases failed
    · cases first : urlsplit python base with
      | error e =>
        rw [first] at failed
        cases failed
        exact splitFails first
      | ok b =>
        cases second : urlsplit python url with
        | error e =>
          rw [first, second] at failed
          cases failed
          exact splitFails second
        | ok u =>
          rw [first, second] at failed
          simp only [bind, Except.bind] at failed
          split at failed <;> cases failed

theorem createFails {method path : PyStr} {headers : Headers} {body : Option (List Byte)} {exc : PyError}
    (failed : HttpRequestSpec.create python method path headers body = .error exc) : exc = .valueError := by
  unfold HttpRequestSpec.create at failed
  repeat' split at failed
  all_goals cases failed
  all_goals rfl

theorem nameFails {host : PyStr} {exc : PyError} (failed : isProhibitedName python host = .error exc) :
    exc = .valueError := by
  unfold isProhibitedName at failed
  split at failed <;> cases failed
  rfl

theorem authorizeKnown (context : ScanNetworkContext) (spec : HttpRequestSpec python)
    (target : ConnectionTarget) : Raises isKnown (authorizeOrRefuse context spec target) := by
  intro exc failed
  unfold authorizeOrRefuse at failed
  split at failed
  · cases failed
    exact deniedKnown
  · split at failed
    · cases failed
    · cases failed
      exact deniedKnown

theorem createFrom (spec : HttpRequestSpec python) (path : PyStr) :
    (HttpRequestSpec.create python spec.method path (stripHopHeaders python spec.headers)
      none).isOk = (py "/").isPrefixOf path := by
  have unowned : (stripHopHeaders python spec.headers).all
      (fun h => !transportOwnedHeaders.contains (python.lower h.1)) = true := by
    rw [List.all_eq_true]
    exact fun h member => List.all_eq_true.mp spec.unowned h (List.mem_filter.mp member).1
  unfold HttpRequestSpec.create
  rw [dif_pos spec.permitted]
  by_cases relative : (py "/").isPrefixOf path = true
  · rw [dif_pos relative, dif_pos unowned, relative]
    rfl
  · rw [dif_neg relative, Bool.eq_false_iff.mpr relative]
    rfl

/- What a location must be for its hop to end in a request or a known failure. -/
structure Followable (current : HttpScanRequest python) (location : PyStr) (parts : SplitResult) : Prop where
  split : urlsplit python location = .ok parts
  joined : (parts.scheme.isEmpty && parts.netloc.isEmpty) = true →
    ∃ merged, urljoin python current.spec.path location = .ok merged ∧ (py "/").isPrefixOf merged = true
  named : ∀ port, SandboxHttpClient.Gated current parts port →
    (isProhibitedName python (destinationHost python parts)).isOk = true

theorem relativeClosed : isClosed ((relativeHop current location).mapError HttpFailure.raised) = true ↔
    ∃ merged, urljoin python current.spec.path location = .ok merged ∧ (py "/").isPrefixOf merged = true := by
  unfold relativeHop
  cases joined : urljoin python current.spec.path location with
  | error e =>
    rw [joinFails joined]
    refine iff_of_false (fun closed => Bool.false_ne_true (valueErrorEscapes.symm.trans closed)) ?_
    rintro ⟨merged, none, -⟩
    cases none
  | ok merged =>
    have good := createFrom current.spec merged
    cases created : HttpRequestSpec.create python current.spec.method merged
        (stripHopHeaders python current.spec.headers) none with
    | error e =>
      rw [created] at good
      cases createFails created
      simp only [bind, Except.bind, created]
      refine iff_of_false (fun closed => Bool.false_ne_true (valueErrorEscapes.symm.trans closed)) ?_
      rintro ⟨_, same, absolute⟩
      cases same
      exact Bool.false_ne_true (good.trans absolute)
    | ok spec =>
      rw [created] at good
      simp only [bind, Except.bind, created]
      exact iff_of_true (closedOf (authorizeKnown _ _ _)) ⟨merged, rfl, good.symm⟩

theorem originClosed {port : Option Nat} (context : ScanNetworkContext) (ascii : AsciiCase python)
    (split : urlsplit python location = .ok parts) (gated : SandboxHttpClient.Gated current parts port) :
    isClosed ((originHop current parts port context).mapError HttpFailure.raised) = true := by
  refine closedOf (raisesBind ?_ fun pinned _ => raisesBind ?_ fun target _ => raisesBind ?_ fun spec _ =>
    authorizeKnown pinned spec target)
  · intro exc failed
    unfold pinContext at failed
    split at failed
    · cases failed
      exact deniedKnown
    · unfold ValidatedTargetBinding.withPinned at failed
      split at failed
      · cases failed
      · cases failed
        exact deniedKnown
  · intro exc failed
    have allowed : allowedHttpSchemes.contains (python.lower (python.lower parts.scheme)) = true := by
      rw [schemeKept ascii gated.scheme]
      exact gated.scheme
    unfold ConnectionTarget.forContext at failed
    simp only [allowed, Bool.not_true, Bool.false_eq_true, if_false] at failed
    cases address : pinned.binding.pinnedAddress with
    | none =>
      rw [address] at failed
      cases failed
      exact deniedKnown
    | some address' =>
      simp only [address] at failed
      unfold ScanNetworkContext.authorizeDestination at failed
      split at failed
      · cases failed
      · cases failed
        exact deniedKnown
  · intro exc failed
    have some : parts.netloc ≠ [] := fun none => gated.host (by
      rw [destinationHost, SplitResult.hostname, SplitResult.hostinfo, none]
      rfl)
    have absolute : (py "/").isPrefixOf (if parts.path.isEmpty then py "/" else parts.path) = true := by
      rcases splitPath split some with empty | absolute
      · rw [empty]
        decide
      · cases parts.path.isEmpty with
        | true => rfl
        | false => exact absolute
    have good := createFrom current.spec (if parts.path.isEmpty then py "/" else parts.path)
    rw [failed, absolute] at good
    cases good

theorem hopClosed {calls : TransportLog} {r : Except HttpFailure (HttpScanRequest python)}
    (ascii : AsciiCase python) (found : Hop current location calls r) :
    isClosed r = true ↔ ∃ parts, Followable current location parts := by
  have blockedKnown : isKnown redirectDestinationBlockedError = true := by decide +kernel
  cases found with
  | unsplit split =>
    cases splitFails split
    refine iff_of_false (fun closed => Bool.false_ne_true (valueErrorEscapes.symm.trans closed)) ?_
    rintro ⟨parts, same, -, -⟩
    rw [split] at same
    cases same
  | @relative parts split relative =>
    refine (relativeClosed).trans ⟨fun merged => ⟨parts, split, fun _ => merged, fun port gated => ?_⟩, ?_⟩
    · rw [gated.absolute] at relative
      cases relative
    · rintro ⟨parts', same, joined, -⟩
      rw [split] at same
      cases same
      exact joined relative
  | @blocked parts split absolute prohibited =>
    refine iff_of_true blockedKnown ⟨parts, split, fun relative => ?_, fun port gated => ?_⟩
    · rw [absolute] at relative
      cases relative
    · rw [prohibited port gated]
      rfl
  | @unnamed parts port e split gated name =>
    cases nameFails name
    refine iff_of_false (fun closed => Bool.false_ne_true (valueErrorEscapes.symm.trans closed)) ?_
    rintro ⟨parts', same, -, named⟩
    rw [split] at same
    cases same
    have checked := named port gated
    rw [name] at checked
    cases checked
  | @unresolved parts port outcome split admitted =>
    refine iff_of_true blockedKnown ⟨parts, split, fun relative => ?_, fun _ _ => ?_⟩
    · rw [admitted.absolute] at relative
      cases relative
    · rw [admitted.name]
      rfl
  | @resolved parts port outcome binding split admitted bound =>
    refine iff_of_true (originClosed _ ascii split admitted.toGated) ⟨parts, split, fun relative => ?_, fun _ _ => ?_⟩
    · rw [admitted.absolute] at relative
      cases relative
    · rw [admitted.name]
      rfl

theorem hopUnique {next' : HttpScanRequest python} {calls calls' later later' : TransportLog}
    (first : Hop current location calls (.ok next)) (second : Hop current location calls' (.ok next'))
    (same : calls ++ later = calls' ++ later') : next = next' ∧ later = later' := by
  generalize outcome : (Except.ok next : Except HttpFailure (HttpScanRequest python)) = r at first
  generalize outcome' : (Except.ok next' : Except HttpFailure (HttpScanRequest python)) = r' at second
  cases first with
  | @relative parts split relative =>
    cases second with
    | relative split' relative' =>
      have one := (mapErrorOk outcome.symm).symm.trans (mapErrorOk outcome'.symm)
      cases one
      exact ⟨rfl, same⟩
    | resolved split' admitted =>
      rw [split] at split'
      cases split'
      rw [admitted.absolute] at relative
      cases relative
    | unsplit | blocked | unnamed | unresolved => cases outcome'
  | @resolved parts port answer binding split admitted bound =>
    cases second with
    | relative split' relative =>
      rw [split] at split'
      cases split'
      rw [admitted.absolute] at relative
      cases relative
    | @resolved parts' port' answer' binding' split' admitted' bound' =>
      rw [split] at split'
      cases split'
      cases same
      cases bound.symm.trans bound'
      cases admitted.port.symm.trans admitted'.port
      cases (mapErrorOk outcome.symm).symm.trans (mapErrorOk outcome'.symm)
      exact ⟨rfl, rfl⟩
    | unsplit | blocked | unnamed | unresolved => cases outcome'
  | unsplit | blocked | unnamed | unresolved => cases outcome

end Follows

/- Unless the scan is cancelled, the request in hand is launched: it fits the argument, what its
exchange prints is framed, and what follows is sound too. -/
def StepSound {python : Python} (client : SandboxHttpClient) (limits : TransportLimits)
    (current : HttpScanRequest python) (log : TransportLog) (follows : ExecResult → TransportLog → Prop) : Prop :=
  ∀ later, log = ⟨.cancelled, false⟩ :: later →
    (client.workloadSpec limits current).isOk = true ∧
    ∀ spec result rest, later = ⟨.run spec, .ok result⟩ :: rest → WellFramed python result ∧ follows result rest

def StepsSound {python : Python} (client : SandboxHttpClient) (limits : TransportLimits) :
    Nat → List PyStr → HttpScanRequest python → TransportLog → Prop
  | 0, _, current, log => StepSound client limits current log fun _ _ => True
  | hops + 1, via, current, log => StepSound client limits current log fun result rest =>
    ∀ response location, turn python via current.target (.ok result) = .ok (response, some location) →
      (∃ parts, Followable current location parts) ∧
      ∀ calls next later, rest = calls ++ later → Hop current location calls (.ok next) →
        StepsSound client limits hops (via ++ [location]) next later

section Steps
variable {python : Python} {client : SandboxHttpClient} {limits : TransportLimits} {remaining : Nat}
  {via : List PyStr} {current last : HttpScanRequest python} {log : TransportLog}

theorem soundUnless (stopped : ∀ later, log ≠ ⟨.cancelled, false⟩ :: later) :
    StepsSound client limits remaining via current log := by
  cases remaining with
  | zero => exact fun later same => absurd same (stopped later)
  | succ hops => exact fun later same => absurd same (stopped later)

theorem soundFits {later : TransportLog}
    (sound : StepsSound client limits remaining via current (⟨.cancelled, false⟩ :: later)) :
    (client.workloadSpec limits current).isOk = true := by
  cases remaining with
  | zero => exact (sound later rfl).1
  | succ hops => exact (sound later rfl).1

theorem soundStep {spec : WorkloadSpec} {result : ExecResult} {rest : TransportLog}
    (fits : client.workloadSpec limits current = .ok spec) :
    StepsSound client limits remaining via current (exchanged spec (.ok result) ++ rest) ↔
      WellFramed python result ∧ ∀ hops response location, remaining = hops + 1 →
        turn python via current.target (.ok result) = .ok (response, some location) →
        (∃ parts, Followable current location parts) ∧
        ∀ calls next later, rest = calls ++ later → Hop current location calls (.ok next) →
          StepsSound client limits hops (via ++ [location]) next later := by
  have isFit : (client.workloadSpec limits current).isOk = true := by rw [fits]; rfl
  cases remaining with
  | zero =>
    constructor
    · intro sound
      exact ⟨((sound _ rfl).2 spec result rest rfl).1, fun _ _ _ none => by cases none⟩
    · intro sound later same
      cases same
      exact ⟨isFit, fun _ _ _ same => by cases same; exact ⟨sound.1, trivial⟩⟩
  | succ hops =>
    constructor
    · intro sound
      obtain ⟨framed, follows⟩ := (sound _ rfl).2 spec result rest rfl
      exact ⟨framed, fun _ response location same turned => by cases same; exact follows response location turned⟩
    · intro sound later same
      cases same
      refine ⟨isFit, fun _ _ _ same => ?_⟩
      cases same
      exact ⟨sound.1, fun response location turned => sound.2 hops response location rfl turned⟩

theorem unfitEscapes {e : PyError} (unfit : client.workloadSpec limits current = .error e) : isKnown e = false := by
  apply readErrorEscapes
  rcases bindFails unfit with unpinned | ⟨url, -, unfit⟩
  · rcases bindFails unpinned with unshown | ⟨port, -, made⟩
    · unfold pinnedPort at unshown
      repeat' split at unshown
      all_goals cases unshown
      all_goals rfl
    · cases made
  · dsimp only at unfit
    repeat' split at unfit
    all_goals cases unfit
    all_goals rfl

theorem turnClosed (via : List PyStr) (target : ConnectionTarget) (result : ExecResult) :
    isClosed (turn python via target (.ok result)) = true ↔ WellFramed python result := by
  rw [← @parseClosed python result target]
  have same : turn python via target (.ok result) = (parseExecResult python result target).bind fun response =>
      (redirection python via response).bind fun found => .ok (response, found) := rfl
  rw [same]
  cases parsed : parseExecResult python result target with
  | error failure => rfl
  | ok response =>
    refine iff_of_true ?_ rfl
    cases told : redirection python via response with
    | ok found =>
      simp only [Except.bind, told]
      rfl
    | error failure =>
      have known : isControlled failure = true := by
        unfold redirection at told
        repeat' split at told
        all_goals cases told
        · rfl
        · decide +kernel
      simp only [Except.bind, told]
      exact known

theorem hopResolves {location : PyStr} {calls : TransportLog} {r : Except HttpFailure (HttpScanRequest python)}
    (found : Hop current location calls r) : (⟨.cancelled, false⟩ : Answered TransportCall TransportCall.Answer) ∉ calls := by
  cases found with
  | unsplit | relative | blocked | unnamed => exact List.not_mem_nil
  | unresolved | resolved => exact fun member => by cases List.mem_singleton.mp member

theorem walkClosed {trace : TransportLog} {r : Except HttpFailure HttpResponseData} (ascii : AsciiCase python)
    (walk : Walk client limits remaining via current trace r last)
    (answered : ∀ spec answer, ⟨.run spec, answer⟩ ∈ trace → answer.isOk = true) :
    isClosed r = true ↔ StepsSound client limits remaining via current trace := by
  have given : ∀ {spec : WorkloadSpec} {answer : Except PyError ExecResult} {rest : TransportLog},
      (∀ spec' answer', ⟨.run spec', answer'⟩ ∈ exchanged spec answer ++ rest → answer'.isOk = true) →
      ∃ result, answer = .ok result := fun answered =>
    okOfIsOk (answered _ _ (List.mem_append_left _ (List.mem_cons_of_mem _ List.mem_cons_self)))
  induction walk with
  | cancelled => exact iff_of_true rfl (soundUnless fun later same => by cases same)
  | unfit unfit =>
    refine iff_of_false (fun closed => Bool.false_ne_true ((unfitEscapes unfit).symm.trans closed)) fun sound => ?_
    have fits := soundFits sound
    rw [unfit] at fits
    cases fits
  | @failed remaining via current spec answer e fits failed =>
    rw [← List.append_nil (exchanged spec answer)] at answered ⊢
    obtain ⟨result, rfl⟩ := given answered
    rw [soundStep fits, ← turnClosed via current.target, failed]
    refine (and_iff_left fun hops response location _ none => ?_).symm
    cases none
  | @returned remaining via current spec answer response fits final =>
    rw [← List.append_nil (exchanged spec answer)] at answered ⊢
    obtain ⟨result, rfl⟩ := given answered
    rw [soundStep fits, ← turnClosed via current.target, final]
    refine iff_of_true rfl ⟨rfl, fun hops response location _ none => ?_⟩
    cases none
  | @exhausted via current spec answer response location fits redirected =>
    rw [← List.append_nil (exchanged spec answer)] at answered ⊢
    obtain ⟨result, rfl⟩ := given answered
    rw [soundStep fits, ← turnClosed via current.target, redirected]
    have blockedKnown : isKnown redirectDestinationBlockedError = true := by decide +kernel
    exact iff_of_true blockedKnown ⟨rfl, fun _ _ _ none => by cases none⟩
  | @lost hops via current spec answer response location calls e fits redirected lost =>
    obtain ⟨result, rfl⟩ := given answered
    rw [soundStep fits, ← turnClosed via current.target, redirected]
    have closes := hopClosed ascii lost
    constructor
    · intro closed
      refine ⟨rfl, fun hops' response' location' _ same => ?_⟩
      cases same
      refine ⟨closes.mp closed, fun calls' next later split found => soundUnless fun rest same => ?_⟩
      rw [split, same] at lost
      exact hopResolves lost (List.mem_append_right _ List.mem_cons_self)
    · intro sound
      exact closes.mpr (sound.2 hops response location rfl rfl).1
  | @hop hops via current next last spec answer response location calls later r fits redirected found rest ih =>
    obtain ⟨result, rfl⟩ := given answered
    rw [soundStep fits, ← turnClosed via current.target, redirected]
    have onward := ih fun spec' answer' member =>
      answered spec' answer' (List.mem_append_right _ (List.mem_append_right _ member))
    constructor
    · intro closed
      refine ⟨rfl, fun hops' response' location' left same => ?_⟩
      cases same
      cases left
      refine ⟨(hopClosed ascii found).mp rfl, fun calls' next' later' split found' => ?_⟩
      obtain ⟨rfl, rfl⟩ := hopUnique found found' split
      exact onward.mp closed
    · intro sound
      exact onward.mpr ((sound.2 hops response location rfl rfl).2 calls next later rfl found)

end Steps

/- The client ends in a response or a failure that its callers know just where every step from the
first request on is sound. -/
theorem executeClosed {python : Python} (ascii : AsciiCase python) {client : SandboxHttpClient}
    {limits : TransportLimits} {request s s' : HttpScanRequest python} {trace : TransportLog}
    {r : Except HttpFailure HttpResponseData}
    (run : Runs s (client.execute limits request) trace r s')
    (answered : ∀ spec answer, ⟨.run spec, answer⟩ ∈ trace → answer.isOk = true) :
    isClosed r = true ↔ ∀ later, trace = ⟨.established, true⟩ :: later →
      StepsSound client limits limits.maxRedirects [] request later := by
  rcases executeRuns run with ⟨rfl, rfl⟩ | ⟨rfl, rfl⟩ | ⟨later, rfl, -, walk⟩
  · have known : isKnown sandboxNotEstablishedError = true := by decide +kernel
    exact iff_of_true known fun later same => by cases same
  · refine iff_of_true deniedKnown fun later same => ?_
    cases same
    exact soundUnless fun later same => by cases same
  · rw [walkClosed ascii walk fun spec answer member => answered spec answer (List.mem_cons_of_mem _ member)]
    exact ⟨fun sound later' same => by cases same; exact sound, fun sound => sound later rfl⟩

def workloadAnswered : Answered TransportCall TransportCall.Answer → Bool
  | ⟨.run _, answer⟩ => (answer : Except PyError ExecResult).isOk
  | _ => true

theorem redirectedRunClosed : isClosed (siteRun siteRequest "https://b/x").2.1 = true ↔
    ∀ later, (siteRun siteRequest "https://b/x").1 = ⟨.established, true⟩ :: later →
      StepsSound ⟨none⟩ siteLimits siteLimits.maxRedirects [] siteRequest later := by
  have ascii : AsciiCase (Python.onAscii []) := ⟨fun _ _ => rfl, fun _ _ => rfl⟩
  have answers : (siteRun siteRequest "https://b/x").1.all workloadAnswered = true := by decide +kernel
  exact executeClosed ascii (playRuns (redirecting "https://b/x") [] siteRequest
    (SandboxHttpClient.execute ⟨none⟩ siteLimits siteRequest)) fun spec answer member =>
      List.all_eq_true.mp answers ⟨.run spec, answer⟩ member

def cutFrame : TransportLog → (c : TransportCall) → c.Answer
  | _, .established => true
  | _, .cancelled => false
  | _, .resolveAll _ => Except.error .targetUnresolvedError
  | _, .run _ => printed "SGPT/1 \x7b"

/- A relative location above the root, one that cannot be split, and a frame that is cut. -/
theorem otherFailuresEscape :
    ((SandboxHttpClient.mk none).workloadSpec siteLimits siteRequest).isOk = true ∧
    (siteRun siteRequest "../x").2.1 = .error (.raised .valueError) ∧
    (siteRun siteRequest "http://[b").2.1 = .error (.raised .valueError) ∧
    isClosed (play cutFrame [] siteRequest
      (SandboxHttpClient.execute ⟨none⟩ siteLimits siteRequest)).2.1 = false := by
  exact ⟨by decide +kernel, by decide +kernel, by decide +kernel, by decide +kernel⟩

end SentinelGpt
