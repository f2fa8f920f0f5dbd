import SentinelGpt.TargetNormalization
import SentinelGpt.UrlText

/-! What an accepted target has passed, field by field. -/
namespace SentinelGpt.TargetNormalization

def hostOf (python : Python) (parts : SplitResult) : PyStr := (parts.hostname python).getD []

def givenHost (python : Python) (hostname : PyStr) : PyStr :=
  stripTrailingDot (stripBrackets (python.lower (strip (strip hostname))))

structure Acceptance (python : Python) (hostname url : PyStr) (parts : SplitResult) (port : Option Nat)
    (n : NormalizedTarget) : Prop where
  given : strip hostname ≠ []
  hostnameFits : (strip hostname).length ≤ maxHostnameLength
  nonempty : strip url ≠ []
  split : urlsplit python (strip url) = .ok parts
  scheme : allowedSchemes.contains (python.lower parts.scheme) = true
  anonymous : parts.netloc.contains 0x40 = false
  portRead : parts.port = .ok port
  valid : validateHost python (hostOf python parts) = .ok n.hostname
  hostFits : n.hostname.length ≤ maxHostnameLength
  same : n.hostname = givenHost python hostname
  url : n.normalizedUrl = normalizedUrl (python.lower parts.scheme) n.hostname port parts
  urlFits : n.normalizedUrl.length ≤ maxNormalizedUrlLength

theorem guardIff {α ε : Type} {c : Prop} [Decidable c] {e : ε} {rest : Unit → Except ε α} {r : Except ε α}
    (other : r ≠ .error e) : (if c then (throw e >>= rest) else rest ()) = r ↔ ¬ c ∧ rest () = r := by
  split
  · rename_i refused
    exact iff_of_false (fun same => other same.symm) (fun both => both.1 refused)
  · rename_i passed
    exact ⟨fun same => ⟨passed, same⟩, fun both => both.2⟩

theorem guardOk {α ε : Type} {c : Prop} [Decidable c] {e : ε} {rest : Unit → Except ε α} {a : α} :
    (if c then (throw e >>= rest) else rest ()) = .ok a ↔ ¬ c ∧ rest () = .ok a :=
  guardIff (fun same => nomatch same)

theorem mapErrorIff {α ε ε' : Type} {x : Except ε α} {f : ε → ε'} {a : α} :
    x.mapError f = .ok a ↔ x = .ok a := by
  cases x with
  | error e => exact iff_of_false (fun same => nomatch same) (fun same => nomatch same)
  | ok b => exact ⟨fun same => by cases same; rfl, fun same => by cases same; rfl⟩

theorem bindIff {α β ε : Type} {x : Except ε α} {f : α → Except ε β} {b : β} :
    (x >>= f) = .ok b ↔ ∃ a, x = .ok a ∧ f a = .ok b :=
  ⟨bindOk, fun ⟨a, first, second⟩ => by rw [first]; exact second⟩

theorem mapErrorOther {α ε ε' : Type} {x : Except ε α} {e e' : ε'} (other : e ≠ e') :
    x.mapError (fun _ => e) ≠ .error e' := by
  intro same
  cases x with
  | error _ => exact other (Except.error.inj same)
  | ok a => cases same

section Hosts
variable {python : Python}

theorem validHost {host name : PyStr} (valid : validateHost python host = .ok name) : name = stripTrailingDot host := by
  unfold validateHost at valid
  dsimp only at valid
  repeat' split at valid
  all_goals cases valid
  rfl

theorem validHostSome {host name : PyStr} (valid : validateHost python host = .ok name) : name ≠ [] := by
  have same := validHost valid
  unfold validateHost at valid
  dsimp only at valid
  rw [← same] at valid
  intro empty
  rw [empty] at valid
  cases valid

end Hosts

section Acceptances
variable {python : Python} {hostname url : PyStr} {n : NormalizedTarget}

theorem acceptedParts (accepted : normalizeTarget python hostname url = .ok n) :
    ∃ parts port, Acceptance python hostname url parts port n := by
  unfold normalizeTarget at accepted
  obtain ⟨given, accepted⟩ := guardOk.mp accepted
  obtain ⟨nonempty, accepted⟩ := guardOk.mp accepted
  obtain ⟨parts, split, accepted⟩ := bindOk accepted
  obtain ⟨scheme, accepted⟩ := guardOk.mp accepted
  obtain ⟨anonymous, accepted⟩ := guardOk.mp accepted
  obtain ⟨port, portRead, accepted⟩ := bindOk accepted
  obtain ⟨host, valid, accepted⟩ := bindOk accepted
  obtain ⟨hostFits, accepted⟩ := guardOk.mp accepted
  obtain ⟨same, accepted⟩ := guardOk.mp accepted
  obtain ⟨urlFits, accepted⟩ := guardOk.mp accepted
  cases accepted
  simp only [Bool.or_eq_true, decide_eq_true_eq, not_or, List.isEmpty_iff, Nat.not_lt] at given nonempty hostFits urlFits
  exact ⟨parts, port, given.1, given.2, nonempty, mapErrorIff.mp split, by simpa using scheme, by simpa using anonymous,
    mapErrorIff.mp portRead, valid, hostFits, Decidable.not_not.mp same, rfl, urlFits⟩

theorem acceptsParts {parts : SplitResult} {port : Option Nat}
    (acceptance : Acceptance python hostname url parts port n) : normalizeTarget python hostname url = .ok n := by
  unfold normalizeTarget
  refine guardOk.mpr ⟨by simp [acceptance.given, acceptance.hostnameFits], ?_⟩
  refine guardOk.mpr ⟨by simp [acceptance.nonempty], ?_⟩
  refine bindIff.mpr ⟨parts, mapErrorIff.mpr acceptance.split, ?_⟩
  refine guardOk.mpr ⟨by simp only [acceptance.scheme, Bool.not_true, Bool.false_eq_true, not_false_eq_true], ?_⟩
  refine guardOk.mpr ⟨by simp only [acceptance.anonymous, Bool.false_eq_true, not_false_eq_true], ?_⟩
  refine bindIff.mpr ⟨port, mapErrorIff.mpr acceptance.portRead, ?_⟩
  refine bindIff.mpr ⟨n.hostname, acceptance.valid, ?_⟩
  refine guardOk.mpr ⟨Nat.not_lt.mpr acceptance.hostFits, ?_⟩
  refine guardOk.mpr ⟨not_not_intro acceptance.same, ?_⟩
  refine guardOk.mpr ⟨by rw [← acceptance.url]; exact Nat.not_lt.mpr acceptance.urlFits, ?_⟩
  rw [← acceptance.url]
  rfl

theorem acceptedIff : normalizeTarget python hostname url = .ok n ↔
    ∃ parts port, Acceptance python hostname url parts port n :=
  ⟨acceptedParts, fun ⟨_, _, acceptance⟩ => acceptsParts acceptance⟩

theorem valueErrorOf (raised : normalizeTarget python hostname url = .error .valueError) :
    (strip hostname).length ≤ maxHostnameLength ∧ ∃ parts, urlsplit python (strip url) = .ok parts ∧
      validateHost python (hostOf python parts) = .error .valueError := by
  unfold normalizeTarget at raised
  obtain ⟨given, raised⟩ := (guardIff (by simp)).mp raised
  obtain ⟨-, raised⟩ := (guardIff (by simp)).mp raised
  simp only [Bool.or_eq_true, decide_eq_true_eq, not_or, Nat.not_lt] at given
  rcases bindFails raised with unread | ⟨parts, split, raised⟩
  · exact absurd unread (mapErrorOther (by simp))
  obtain ⟨-, raised⟩ := (guardIff (by simp)).mp raised
  obtain ⟨-, raised⟩ := (guardIff (by simp)).mp raised
  rcases bindFails raised with unread | ⟨port, portRead, raised⟩
  · exact absurd unread (mapErrorOther (by simp))
  rcases bindFails raised with invalid | ⟨host, valid, raised⟩
  · exact ⟨given.2, parts, mapErrorIff.mp split, invalid⟩
  obtain ⟨-, raised⟩ := (guardIff (by simp)).mp raised
  obtain ⟨-, raised⟩ := (guardIff (by simp)).mp raised
  obtain ⟨-, raised⟩ := (guardIff (by simp)).mp raised
  cases raised

end Acceptances
def displayHost (host : PyStr) : PyStr := if host.contains 0x3A then py "[" ++ host ++ py "]" else host

def displayNetloc (host : PyStr) : Option Nat → PyStr
  | some n => displayHost host ++ py ":" ++ py (toString n)
  | none => displayHost host

def displayPath (parts : SplitResult) : PyStr := if parts.path.isEmpty then py "/" else parts.path

def displayQuery (parts : SplitResult) : PyStr := if parts.query.isEmpty then [] else 0x3F :: parts.query

theorem displayHostSome {host : PyStr} (some : host ≠ []) : displayHost host ≠ [] := by
  unfold displayHost
  split
  · exact List.append_ne_nil_of_right_ne_nil _ (List.cons_ne_nil _ _)
  · exact some

theorem displayHostLength (host : PyStr) : (displayHost host).length ≤ host.length + 2 := by
  unfold displayHost
  split
  · rw [List.length_append, List.length_append]
    exact Nat.le_of_eq (by simp [py]; omega)
  · omega

theorem displayNetlocSome {host : PyStr} (given : host ≠ []) (port : Option Nat) : displayNetloc host port ≠ [] := by
  cases port with
  | none => exact displayHostSome given
  | some n => exact List.append_ne_nil_of_left_ne_nil (List.append_ne_nil_of_left_ne_nil (displayHostSome given) _) _

theorem normalizedUrlText {scheme host : PyStr} {port : Option Nat} {parts : SplitResult} (schemed : scheme ≠ [])
    (named : host ≠ []) (rooted : ∀ c ∈ parts.path.head?, c = 0x2F) : normalizedUrl scheme host port parts =
      webUrl scheme (displayNetloc host port ++ (displayPath parts ++ displayQuery parts)) := by
  have netloc : (displayNetloc host port).isEmpty = false := by
    rw [Bool.eq_false_iff]
    exact fun empty => displayNetlocSome named port (List.isEmpty_iff.mp empty)
  have front : scheme.isEmpty = false := by
    rw [Bool.eq_false_iff]
    exact fun empty => schemed (List.isEmpty_iff.mp empty)
  have path : (!(displayPath parts).isEmpty && (displayPath parts).head? != some 0x2F) = false := by
    unfold displayPath
    cases given : parts.path with
    | nil => rfl
    | cons c rest =>
      have slash : c = 0x2F := rooted c (by rw [given]; rfl)
      rw [slash]
      rfl
  have whole : normalizedUrl scheme host port parts =
      urlunsplit ⟨scheme, displayNetloc host port, displayPath parts, parts.query, []⟩ := by
    unfold normalizedUrl displayNetloc displayPath displayHost
    cases port <;> rfl
  rw [whole]
  unfold urlunsplit
  dsimp only
  rw [netloc, front, path]
  simp only [Bool.not_false, Bool.true_or, Bool.false_eq_true, if_true, if_false, List.isEmpty_nil, List.append_nil]
  simp only [webUrl, displayQuery, List.append_assoc]
  rfl

end SentinelGpt.TargetNormalization
