import SentinelGpt.AiAnalysisService

/-! When the analysis service returns an outcome: the steps of the validator that can
raise, and the provider responses and evidence sets that reach none of them. -/
namespace SentinelGpt.AiAnalysisService
open ResponseValidator

def groupReadable (python : Python) (e : EvidenceSet) : Json → Bool
  | .dict group =>
    match textMember group (py "title"), allIds group with
    | some title, some ids =>
      (knownIds e ids).isEmpty ||
        (encodable title && (knownIds e ids).all encodable &&
          strable python ((Json.get? group (py "rationale")).getD (.str [])))
    | _, _ => true
  | _ => true

def remediationReadable (python : Python) : Json → Bool
  | .dict item => (textMember item (py "title")).isNone ||
      strable python ((Json.get? item (py "detail")).getD (.str []))
  | _ => true

def titled (name : String) : Json → Bool
  | .dict members => (textMember members (py name)).isSome
  | _ => false

def groupShaped : Json → Bool
  | .dict group => (textMember group (py "title")).isSome && (allIds group).isSome
  | _ => false

def sectionShaped (payload : List (PyStr × Json)) (name : PyStr) (shaped : Json → Bool) : Bool :=
  match (Json.get? payload name).getD (.list []) with
  | .list items => items.all shaped
  | _ => false

def meetsSchema (payload : List (PyStr × Json)) : Bool :=
  (checkSummary payload).isOk && (checkPriority payload).isOk && (checkLimitations payload).isOk &&
    sectionShaped payload (py "correlated_groups") groupShaped &&
    sectionShaped payload (py "remediation") (titled "title") &&
    sectionShaped payload (py "claims") (titled "text")

def payloadReadable (python : Python) (e : EvidenceSet) (provider model : PyStr)
    (payload : List (PyStr × Json)) : Bool :=
  (listSection payload (py "correlated_groups")).1.all (groupReadable python e) &&
    (listSection payload (py "remediation")).1.all (remediationReadable python) &&
    (!meetsSchema payload || (encodable provider && encodable model))

/- `json.loads` ends in an object, in another value or in JSONDecodeError. -/
def textReadable (python : Python) (e : EvidenceSet) (provider model text : PyStr) : Bool :=
  encodable text && (maxOutputJsonBytes < utf8Length text ||
    match loads python text with
    | .ok (.dict payload) => payloadReadable python e provider model payload
    | .ok _ => true
    | .error (.jsonDecodeError _) => true
    | .error _ => false)

def rawReadable (python : Python) (e : EvidenceSet) (provider model : PyStr) : Raw → Bool
  | .str text => textReadable python e provider model text
  | .bytes data => maxOutputJsonBytes < data.length ||
      textReadable python e provider model (decodeReplace data)
  | .dict payload => payloadReadable python e provider model payload

def groupable (e : EvidenceSet) : Bool :=
  e.findings.all fun f => encodable f.category && encodable f.id

theorem isOkMap {α β ε : Type} (x : Except ε α) (f : α → β) : (x.map f).isOk = x.isOk := by
  cases x <;> rfl

theorem isOkBind {α β ε : Type} (x : Except ε α) (f : α → Except ε β)
    (always : ∀ a, (f a).isOk = true) : (x >>= f).isOk = x.isOk := by
  cases x with
  | error e => rfl
  | ok a => exact always a

theorem sha16IsOk (python : Python) (identity : PyStr) :
    (sha16 python identity).isOk = encodable identity := by
  rw [sha16, isOkBind _ _ (fun _ => rfl), hexdigest, isOkBind _ _ (fun _ => rfl), encode]
  cases encodable identity <;> rfl

theorem safeStrIsOk (python : Python) (value : Json) :
    (safeStr python value).isOk = strable python value := by
  rw [safeStr, isOkBind _ _ (fun _ => rfl), strIsOk]

theorem joinedEncodable (ids : List PyStr) :
    encodable (join (py "|") (sortedStr ids)) = ids.all encodable := by
  rw [Bool.eq_iff_iff, encodableIntercalate _ _ (pyEncodable "|"), List.all_eq_true]
  simp

theorem sortedSetIsEmpty (texts : List PyStr) : (sortedSet texts).isEmpty = texts.isEmpty := by
  rw [Bool.eq_iff_iff, List.isEmpty_iff, List.isEmpty_iff, List.eq_nil_iff_forall_not_mem,
    List.eq_nil_iff_forall_not_mem]
  simp

theorem allSortedSet (texts : List PyStr) (p : PyStr → Bool) :
    (sortedSet texts).all p = texts.all p := by
  rw [Bool.eq_iff_iff, List.all_eq_true, List.all_eq_true]
  simp

theorem deriveGroupIdIsOk (python : Python) (title : PyStr) (ids : List PyStr) :
    (CorrelatedGroup.deriveGroupId python title ids).isOk =
      (encodable title && ids.all encodable) := by
  rw [CorrelatedGroup.deriveGroupId, sha16IsOk, encodableAppend, encodableAppend,
    encodableAppend, pyEncodable, pyEncodable, joinedEncodable]
  simp

theorem checkGroupIsOk (python : Python) (e : EvidenceSet) (index : Nat) (group : Json) :
    (checkGroup python e index group).isOk = groupReadable python e group := by
  cases group with
  | dict members =>
    simp only [checkGroup, groupReadable]
    cases textMember members (py "title") with
    | none => rfl
    | some title =>
      cases allIds members with
      | none => rfl
      | some ids =>
        simp only [sortedSetIsEmpty]
        cases (knownIds e ids).isEmpty with
        | true => rfl
        | false =>
          have derived := deriveGroupIdIsOk python title (sortedSet (knownIds e ids))
          rw [allSortedSet] at derived
          have written := safeStrIsOk python
            ((Json.get? members (py "rationale")).getD (.str []))
          rw [Bool.false_or, ← derived, ← written]
          cases CorrelatedGroup.deriveGroupId python title (sortedSet (knownIds e ids)) with
          | error _ => rfl
          | ok _ =>
            cases safeStr python ((Json.get? members (py "rationale")).getD (.str [])) <;> rfl
  | _ => rfl

theorem checkGroupErrors {python : Python} {e : EvidenceSet} {index : Nat} {group : Json}
    {c : Checked CorrelatedGroup} (ok : checkGroup python e index group = .ok c) :
    c.errors = [] ↔ groupShaped group = true := by
  cases group with
  | dict members =>
    simp only [checkGroup] at ok
    simp only [groupShaped]
    cases title : textMember members (py "title") with
    | none => rw [title] at ok; cases ok; simp [failed]
    | some title' =>
      cases ids : allIds members with
      | none => rw [title, ids] at ok; cases ok; simp [failed]
      | some ids' =>
        rw [title, ids] at ok
        simp only at ok
        split at ok
        · cases ok; simp
        · cases derived : CorrelatedGroup.deriveGroupId python title' (sortedSet (knownIds e ids')) with
          | error _ => rw [derived] at ok; contradiction
          | ok _ =>
            cases written : safeStr python ((Json.get? members (py "rationale")).getD (.str [])) with
            | error _ => rw [derived, written] at ok; contradiction
            | ok _ => rw [derived, written] at ok; cases ok; simp
  | _ => cases ok; simp [failed, groupShaped]

theorem checkRemediationIsOk (python : Python) (e : EvidenceSet) (index : Nat) (item : Json) :
    (checkRemediation python e index item).isOk = remediationReadable python item := by
  cases item with
  | dict members =>
    simp only [checkRemediation, remediationReadable]
    cases textMember members (py "title") with
    | none => rfl
    | some title =>
      rw [← safeStrIsOk]
      exact isOkBind _ _ (fun _ => rfl)
  | _ => rfl

theorem checkRemediationErrors {python : Python} {e : EvidenceSet} {index : Nat} {item : Json}
    {c : Checked RemediationItem} (ok : checkRemediation python e index item = .ok c) :
    c.errors = [] ↔ titled "title" item = true := by
  cases item with
  | dict members =>
    simp only [checkRemediation] at ok
    simp only [titled]
    cases title : textMember members (py "title") with
    | none => rw [title] at ok; cases ok; simp [failed]
    | some title' =>
      cases written : safeStr python ((Json.get? members (py "detail")).getD (.str [])) with
      | error _ => rw [title, written] at ok; contradiction
      | ok _ => rw [title, written] at ok; cases ok; simp
  | _ => cases ok; simp [failed, titled]

theorem checkClaimIsOk (python : Python) (e : EvidenceSet) (index : Nat) (claim : Json) :
    (checkClaim python e index claim).isOk = (fun _ => true) claim := by
  cases claim with
  | dict members =>
    simp only [checkClaim]
    cases textMember members (py "text") <;> rfl
  | _ => rfl

theorem checkClaimErrors {python : Python} {e : EvidenceSet} {index : Nat} {claim : Json}
    {c : Checked Claim} (ok : checkClaim python e index claim = .ok c) :
    c.errors = [] ↔ titled "text" claim = true := by
  cases claim with
  | dict members =>
    simp only [checkClaim] at ok
    simp only [titled]
    cases text : textMember members (py "text") with
    | none => rw [text] at ok; cases ok; simp [failed]
    | some _ => rw [text] at ok; cases ok; simp
  | _ => cases ok; simp [failed, titled]

theorem checkMembersIsOk {α : Type} {check : Nat → Json → Except PyError (Checked α)}
    {readable : Json → Bool} (each : ∀ index value, (check index value).isOk = readable value)
    (index : Nat) (items : List Json) :
    (checkMembers check index items).isOk = items.all readable := by
  induction items generalizing index with
  | nil => rfl
  | cons value rest ih =>
    rw [List.all_cons, ← each index value, ← ih (index + 1), checkMembers]
    cases check index value with
    | error _ => rfl
    | ok head => cases checkMembers check (index + 1) rest <;> rfl

theorem checkMembersErrors {α : Type} {check : Nat → Json → Except PyError (Checked α)}
    {shaped : Json → Bool}
    (each : ∀ index value c, check index value = .ok c → (c.errors = [] ↔ shaped value = true))
    {index : Nat} {items : List Json} {s : Section α}
    (ok : checkMembers check index items = .ok s) : s.errors = [] ↔ items.all shaped = true := by
  induction items generalizing index s with
  | nil => cases ok; simp
  | cons value rest ih =>
    rw [checkMembers] at ok
    cases head : check index value with
    | error _ => rw [head] at ok; contradiction
    | ok c =>
      cases tail : checkMembers check (index + 1) rest with
      | error _ => rw [head, tail] at ok; contradiction
      | ok t =>
        rw [head, tail] at ok
        cases ok
        rw [Section.push, List.append_eq_nil_iff, each index value c head, ih tail,
          List.all_cons, Bool.and_eq_true]

theorem checkSectionIsOk {α : Type} {check : Nat → Json → Except PyError (Checked α)}
    {readable : Json → Bool} (each : ∀ index value, (check index value).isOk = readable value)
    (payload : List (PyStr × Json)) (name : PyStr) :
    (checkSection check payload name).isOk = (listSection payload name).1.all readable := by
  rw [← checkMembersIsOk each 0]
  exact isOkBind _ _ (fun _ => rfl)

theorem checkSectionErrors {α : Type} {check : Nat → Json → Except PyError (Checked α)}
    {shaped : Json → Bool}
    (each : ∀ index value c, check index value = .ok c → (c.errors = [] ↔ shaped value = true))
    {payload : List (PyStr × Json)} {name : PyStr} {s : Section α}
    (ok : checkSection check payload name = .ok s) :
    s.errors = [] ↔ sectionShaped payload name shaped = true := by
  unfold checkSection listSection at ok
  unfold sectionShaped
  cases found : (Json.get? payload name).getD (.list []) with
  | list items =>
    rw [found] at ok
    cases checked : checkMembers check 0 items with
    | error _ => simp only [checked] at ok; contradiction
    | ok t =>
      simp only [checked] at ok
      cases ok
      exact checkMembersErrors each checked
  | _ =>
    rw [found] at ok
    cases ok
    simp

theorem assessmentIdIsOk (python : Python) (e : EvidenceSet) (base : MetadataBase) (now : Time)
    (body : Json) (versions : encodable (metadata base now).promptSchemaVersion = true ∧
      encodable (metadata base now).outputSchemaVersion = true) :
    (Assessment.deriveAssessmentId python e.evidenceSetId (metadata base now).provider
      (metadata base now).model (metadata base now).promptSchemaVersion
      (metadata base now).outputSchemaVersion (dumpsStable body)).isOk =
    (encodable (metadata base now).provider && encodable (metadata base now).model) := by
  rw [Assessment.deriveAssessmentId, sha16IsOk, Bool.eq_iff_iff,
    encodableIntercalate _ _ (pyEncodable "|")]
  simp [pyEncodable, e.idEncodable, versions.1, versions.2, dumpsEncodable]

def VersionsEncodable (base : MetadataBase) (now : Time) : Prop :=
  encodable (metadata base now).promptSchemaVersion = true ∧
    encodable (metadata base now).outputSchemaVersion = true

theorem concludeIsOk {python : Python} {e : EvidenceSet} {base : MetadataBase} {now : Time}
    (versions : VersionsEncodable base now) (summary : Except PyStr PyStr)
    (priority : Except PyStr Severity) (limitations : Except PyStr (List PyStr))
    (groups : Section CorrelatedGroup) (remediation : Section RemediationItem)
    (claims : Section Claim) {shaped : Bool}
    (noErrors : shaped = true ↔ summary.isOk = true ∧ priority.isOk = true ∧
      limitations.isOk = true ∧ groups.errors = [] ∧ remediation.errors = [] ∧
      claims.errors = []) :
    (conclude python e base now summary priority limitations groups remediation claims).isOk =
      (!shaped || (encodable (metadata base now).provider &&
        encodable (metadata base now).model)) := by
  cases shaped with
  | false =>
    unfold conclude
    simp only
    split
    · rename_i errors
      simp only [List.append_eq_nil_iff] at errors
      exact absurd (noErrors.mpr ⟨rfl, rfl, rfl, errors.1.1.2, errors.1.2, errors.2⟩) (by simp)
    · rfl
  | true =>
    obtain ⟨s, p, l, gs, rs, cs⟩ := noErrors.mp rfl
    obtain ⟨_, rfl⟩ := okOfIsOk s
    obtain ⟨_, rfl⟩ := okOfIsOk p
    obtain ⟨_, rfl⟩ := okOfIsOk l
    simp only [conclude, errorOf, gs, rs, cs, List.append_nil]
    rw [bodyCanonical, isOkBind _ _ (fun _ => rfl), assessmentIdIsOk _ _ _ _ _ versions]
    rfl

theorem validateStructureIsOk (python : Python) (payload : List (PyStr × Json)) (e : EvidenceSet)
    (base : MetadataBase) (now : Time) (versions : VersionsEncodable base now) :
    (validateStructure python payload e base now).isOk =
      payloadReadable python e (metadata base now).provider (metadata base now).model payload := by
  have groupsOk := checkSectionIsOk (checkGroupIsOk python e) payload (py "correlated_groups")
  have remediationOk := checkSectionIsOk (checkRemediationIsOk python e) payload (py "remediation")
  have claimsOk : (checkSection (checkClaim python e) payload (py "claims")).isOk = _ :=
    checkSectionIsOk (checkClaimIsOk python e) payload (py "claims")
  rw [payloadReadable, ← groupsOk, ← remediationOk, validateStructure]
  cases groups : checkSection (checkGroup python e) payload (py "correlated_groups") with
  | error _ => rfl
  | ok gs =>
    cases remediation : checkSection (checkRemediation python e) payload (py "remediation") with
    | error _ => rfl
    | ok rs =>
      cases claims : checkSection (checkClaim python e) payload (py "claims") with
      | error _ => simp [claims, Except.isOk, Except.toBool] at claimsOk
      | ok cs =>
        refine concludeIsOk versions _ _ _ gs rs cs ?_
        have groupsShaped := checkSectionErrors (fun _ _ _ ok => checkGroupErrors ok) groups
        have remediationShaped :=
          checkSectionErrors (fun _ _ _ ok => checkRemediationErrors ok) remediation
        have claimsShaped := checkSectionErrors (fun _ _ _ ok => checkClaimErrors ok) claims
        rw [groupsShaped, remediationShaped, claimsShaped, isOkMap, meetsSchema]
        simp only [Bool.and_eq_true, and_assoc]

theorem parseTextReadable (python : Python) (e : EvidenceSet) (base : MetadataBase) (now : Time)
    (versions : VersionsEncodable base now) (text : PyStr) :
    ((parse python text).bind fun r => match r with
      | .error rejected => .ok rejected
      | .ok payload => validateStructure python payload e base now).isOk =
    textReadable python e (metadata base now).provider (metadata base now).model text := by
  unfold parse textReadable encode
  cases encodable text with
  | false => rfl
  | true =>
    by_cases long : maxOutputJsonBytes < utf8Length text
    · simp [long, bind, Except.bind, Except.isOk, Except.toBool, pure, Except.pure]
    · simp only [long, bind, Except.bind, if_true, if_false, decide_false, Bool.true_and, Bool.false_or]
      cases loads python text with
      | ok value =>
        cases value with
        | dict payload => exact validateStructureIsOk python payload e base now versions
        | _ => rfl
      | error e => cases e <;> rfl

theorem validateIsOk (python : Python) (e : EvidenceSet) (base : MetadataBase) (now : Time)
    (versions : VersionsEncodable base now) (raw : Raw) :
    (validateAnalysisResponse python raw e base now).isOk =
      rawReadable python e (metadata base now).provider (metadata base now).model raw := by
  cases raw with
  | str text => exact parseTextReadable python e base now versions text
  | bytes data =>
    have decoded := parseTextReadable python e base now versions (decodeReplace data)
    by_cases long : maxOutputJsonBytes < data.length
    · simp [validateAnalysisResponse, readRaw, rawReadable, long, bind, Except.bind, Except.isOk,
        Except.toBool, pure, Except.pure]
    · rw [validateAnalysisResponse, readRaw, if_neg long, rawReadable]
      simp only [long, decide_false, Bool.false_or]
      exact decoded
  | dict payload => exact validateStructureIsOk python payload e base now versions

theorem candidateGroupIsOk (python : Python) (e : EvidenceSet) (category title : PyStr) :
    (candidateGroup python e category title).isOk =
      (encodable category && (categoryIds e category).all encodable) := by
  rw [candidateGroup, isOkBind _ _ (fun _ => rfl), sha16IsOk, encodableAppend, encodableAppend,
    encodableAppend, pyEncodable, pyEncodable, Bool.true_and, Bool.and_true, Bool.eq_iff_iff,
    Bool.and_eq_true, Bool.and_eq_true, encodableIntercalate _ _ (pyEncodable "|"),
    List.all_eq_true]

theorem memCategoryIds {e : EvidenceSet} {category id : PyStr} :
    id ∈ categoryIds e category ↔ ∃ f ∈ e.findings, f.category = category ∧ f.id = id := by
  simp [categoryIds, and_assoc]

theorem categoriesEncodable : ∀ c ∈ categories, encodable c.1 = true := by
  decide

theorem groupsAreOk (python : Python) (e : EvidenceSet) :
    (buildCandidateGroups python e).isOk = groupable e := by
  have knownOk := mapMIsOk (fun c => candidateGroup python e c.1 c.2) (knownCategories e)
  have extrasOk := mapMIsOk (fun c => candidateGroup python e c (c ++ py " cluster"))
    (extraCategories e)
  have both : (buildCandidateGroups python e).isOk =
      (((knownCategories e).mapM fun c => candidateGroup python e c.1 c.2).isOk &&
        ((extraCategories e).mapM fun c => candidateGroup python e c (c ++ py " cluster")).isOk) := by
    rw [buildCandidateGroups]
    cases (knownCategories e).mapM fun c => candidateGroup python e c.1 c.2 with
    | error _ => rfl
    | ok _ =>
      cases (extraCategories e).mapM fun c => candidateGroup python e c (c ++ py " cluster") <;> rfl
  rw [both, knownOk, extrasOk, groupable, Bool.eq_iff_iff]
  simp only [candidateGroupIsOk, Bool.and_eq_true, List.all_eq_true, knownCategories,
    extraCategories]
  constructor
  · rintro ⟨seeded, others⟩ f member
    have idIn : f.id ∈ categoryIds e f.category := memCategoryIds.mpr ⟨f, member, rfl, rfl⟩
    by_cases known : f.category ∈ categories.map Prod.fst
    · obtain ⟨c, inTable, same⟩ := List.mem_map.mp known
      have ok := seeded c (List.mem_filter.mpr ⟨inTable, by
        rw [List.contains_iff_mem, same]
        exact List.mem_map_of_mem member⟩)
      rw [same] at ok
      exact ⟨ok.1, ok.2 f.id idIn⟩
    · have ok := others f.category (memSortedSet.mpr (List.mem_filter.mpr
        ⟨List.mem_map_of_mem member, by simpa using known⟩))
      exact ⟨ok.1, ok.2 f.id idIn⟩
  · intro all
    have idsOk : ∀ c, ∀ id ∈ categoryIds e c, encodable id = true := by
      intro c id inside
      obtain ⟨f, member, -, rfl⟩ := memCategoryIds.mp inside
      exact (all f member).2
    refine ⟨fun c inside => ⟨categoriesEncodable c (List.mem_filter.mp inside).1, idsOk c.1⟩,
      fun c inside => ⟨?_, idsOk c⟩⟩
    obtain ⟨f, member, rfl⟩ :=
      List.mem_map.mp (List.mem_filter.mp (memSortedSet.mp inside)).1
    exact (all f member).1

def offeredGroups (python : Python) (e : EvidenceSet)
    (candidateGroups : Option (List CandidateGroup)) : List CandidateGroup :=
  match candidateGroups, buildCandidateGroups python e with
  | some groups, _ => groups
  | none, .ok groups => groups
  | none, .error _ => []

def readable (python : Python) (analyzer : EvidenceAnalyzer) (e : EvidenceSet)
    (candidateGroups : Option (List CandidateGroup)) : Bool :=
  (candidateGroups.isSome || groupable e) &&
    match analyzer.analyze e (offeredGroups python e candidateGroups) systemInstructionsV1
      (buildUserPrompt e (offeredGroups python e candidateGroups)) with
    | .error _ => true
    | .ok raw => rawReadable python e analyzer.provider analyzer.model raw

theorem groupsOffered (python : Python) (e : EvidenceSet)
    (candidateGroups : Option (List CandidateGroup)) :
    candidates python e candidateGroups =
      if (candidateGroups.isSome || groupable e) then
        .ok (offeredGroups python e candidateGroups)
      else buildCandidateGroups python e := by
  have built := groupsAreOk python e
  cases candidateGroups with
  | some groups => rfl
  | none =>
    unfold candidates offeredGroups
    cases made : buildCandidateGroups python e with
    | error _ =>
      rw [made] at built
      rw [← built]
      rfl
    | ok groups =>
      rw [made] at built
      rw [← built]
      rfl

theorem analyzeReturnsIffReadable (python : Python) (analyzer : EvidenceAnalyzer)
    (clock : Nat → Time) (e : EvidenceSet) (candidateGroups : Option (List CandidateGroup)) :
    (∃ outcome, analyze python analyzer clock e candidateGroups = .ok (e, outcome)) ↔
      readable python analyzer e candidateGroups = true := by
  have built := groupsAreOk python e
  unfold analyze readable
  rw [groupsOffered]
  cases offered : candidateGroups.isSome || groupable e with
  | false =>
    rw [Bool.or_eq_false_iff] at offered
    rw [offered.2] at built
    cases made : buildCandidateGroups python e with
    | ok _ => rw [made] at built; contradiction
    | error _ => simp [bind, Except.bind]
  | true =>
    simp only [if_true, bind, Except.bind, Bool.true_and]
    cases analyzer.analyze e (offeredGroups python e candidateGroups) systemInstructionsV1
      (buildUserPrompt e (offeredGroups python e candidateGroups)) with
    | error failure => cases failure <;> simp [pure, Except.pure]
    | ok raw =>
      have validated := validateIsOk python e (metadataBase analyzer) (clock 0)
        ⟨by exact pyEncodable "v1", by exact pyEncodable "v1"⟩ raw
      have provider : (metadata (metadataBase analyzer) (clock 0)).provider = analyzer.provider := rfl
      have model : (metadata (metadataBase analyzer) (clock 0)).model = analyzer.model := rfl
      rw [provider, model] at validated
      simp only [← validated]
      cases result : validateAnalysisResponse python raw e (metadataBase analyzer) (clock 0) with
      | error _ => simp [Except.isOk, Except.toBool]
      | ok v =>
        simp only
        cases acceptedCase : v.accepted with
        | false => simp [Except.isOk, Except.toBool, pure, Except.pure]
        | true =>
          obtain ⟨_, _, _, _, _, _, _, made⟩ := acceptedOf result acceptedCase
          simp [Except.isOk, Except.toBool, pure, Except.pure, made]

/-! A provider response whose group title holds the JSON escape of a lone surrogate: the
title passes every check, and hashing the group raises. -/

def timeoutPython : Python := Python.onAscii
  [(py "candidate|http.transport|71987160c52803ae",
    "113a19dbe54f6b2492d75245166b12d203f2201c9d8b838ea5f19763e6a64228")]

def surrogateResponse : PyStr := (py "\x7b\"overall_summary\": \"No response.\", " ++
      py "\"priority\": \"info\", \"correlated_groups\": [\x7b\"title\": \"\\ud800\", " ++
      py "\"finding_ids\": [\"71987160c52803ae\"]\x7d]\x7d")

def surrogateAnalyzer : EvidenceAnalyzer :=
  ⟨py "gemini", py "gemini-2.0-flash", py "1", fun _ _ _ _ => .ok (.str surrogateResponse)⟩

theorem analyzeRaisesOnSurrogate :
    ¬ ∃ outcome, analyze timeoutPython surrogateAnalyzer id timeoutEvidence none =
      .ok (timeoutEvidence, outcome) := by
  have raised : (analyze timeoutPython surrogateAnalyzer id timeoutEvidence none).isOk = false := by
    decide +kernel
  rintro ⟨outcome, returned⟩
  rw [returned] at raised
  contradiction

end SentinelGpt.AiAnalysisService
