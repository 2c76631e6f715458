import AgentBrowser.PrivateRecipe

namespace AgentBrowser.Private
open JsonText
set_option autoImplicit true

section Sequence
variable (E : PrivateEnv)

def journeyInvalid : String := "private_journey_invalid"

/-- One stage of a sequence against the handle of the first. -/
def checkStage (first operation : PrivateOperation) : Except String Unit := do
  let handle := first.serviceTabHandle
  refuseIf (operation.consentSha256 ≠ first.consentSha256 ||
    operation.accountScope ≠ first.accountScope) journeyInvalid
  let expectedHandle := handle.set "url" (.string operation.expectedUrl)
  let profileId ← orRefuse ((handle.get "profileId").bind (·.asStr)) journeyInvalid
  let browserId ← orRefuse ((handle.get "browserId").bind (·.asStr)) journeyInvalid
  let sessionName ← orRefuse ((handle.get "sessionName").bind (·.asStr)) journeyInvalid
  let targetId ← orRefuse ((handle.get "targetId").bind (·.asStr)) journeyInvalid
  let prospective : LivePrivateIdentity := {
    profileId, browserId, sessionName, targetId, url := operation.expectedUrl, ready := true }
  match validatePrivateTarget E operation.serviceTabHandle expectedHandle prospective
      operation.expectedOrigin operation.expectedUrl with
  | .ok _ => .ok ()
  | .error _ => .error journeyInvalid

/-- A login, a backup code, a renewal and the reading of a key, for one consent and account. -/
def validateSequence (operations : List PrivateOperation) : Except String Unit :=
  match operations with
  | [first, second, third, fourth] =>
    match first.operation, second.operation, third.operation, fourth.operation with
    | .login .., .backupCode .., .renew .., .readKey .. => operations.forM (checkStage E first)
    | _, _, _, _ => .error journeyInvalid
  | _ => .error journeyInvalid

end Sequence

section Facts
variable {E : PrivateEnv} {staged authoritative : JsonValue} {live : LivePrivateIdentity}
  {origin url : String} {target : ValidatedPrivateTarget}

theorem forM_eq_ok {xs : List α} {check : α → Except String Unit} :
    xs.forM check = .ok u ↔ ∀ x ∈ xs, check x = .ok () := by
  induction xs with
  | nil => simp [List.forM, pure, Except.pure]
  | cons x xs ih =>
    rw [List.forM, Except.bind_eq_ok]
    simp only [List.mem_cons, forall_eq_or_imp, ih]
    exact ⟨fun ⟨_, hx, hxs⟩ => ⟨hx, hxs⟩, fun ⟨hx, hxs⟩ => ⟨(), hx, hxs⟩⟩

/-- The bytes whose digest binds a target. -/
def ValidatedPrivateTarget.canonical (target : ValidatedPrivateTarget) : Bytes :=
  bytesOf (String.ofList (compact (.array [
    .string "agent-browser.private-target.v1", .string target.profileId,
    .string target.browserId, .string target.sessionName, .string target.targetId,
    .string target.tabId, .string target.leaseId, .string target.leaseState,
    .ofStr target.ownerSessionId, .string target.origin, .string target.url, .bool true])))

/-- What a validated target establishes of the two handles and the live tab. -/
structure Matches (E : PrivateEnv) (staged authoritative : JsonValue) (live : LivePrivateIdentity)
    (origin url canonical : String) : Prop where
  staged_usable : usable staged = .ok ()
  usable : usable authoritative = .ok ()
  ready : live.ready = true
  shared : ∀ field ∈ boundFields, ∃ value, required staged field = .ok value ∧
    required authoritative field = .ok value
  owner : staged.get "ownerSessionId" = authoritative.get "ownerSessionId"
  observed : ∀ seen ∈ live.observed, required authoritative seen.1 = .ok seen.2
  destination : checkedDestination E origin url = .ok canonical
  staged_url : ∃ asked, required staged "url" = .ok asked ∧
    canonicalPrivateUrl E asked = .ok canonical
  current_url : ∃ current, required authoritative "url" = .ok current ∧
    canonicalPrivateUrl E current = .ok canonical
  live_url : canonicalPrivateUrl E live.url = .ok canonical

theorem checkShared_eq_ok :
    checkShared staged authoritative field = .ok u ↔
      ∃ value, required staged field = .ok value ∧ required authoritative field = .ok value := by
  simp only [checkShared, Except.bind_eq_ok, refuseIf_eq_ok, decide_eq_false_iff_not, ne_eq,
    not_not]
  constructor
  · rintro ⟨value, hasked, _, hcurrent, rfl⟩
    exact ⟨value, hasked, hcurrent⟩
  · rintro ⟨value, hasked, hcurrent⟩
    exact ⟨value, hasked, value, hcurrent, rfl⟩

theorem checkObserved_eq_ok :
    checkObserved authoritative seen = .ok u ↔ required authoritative seen.1 = .ok seen.2 := by
  simp only [checkObserved, Except.bind_eq_ok, refuseIf_eq_ok, decide_eq_false_iff_not, ne_eq,
    not_not]
  constructor
  · rintro ⟨current, hcurrent, rfl⟩
    exact hcurrent
  · exact fun hcurrent => ⟨_, hcurrent, rfl⟩

theorem checkUrl_eq_ok :
    checkUrl E expected observed = .ok u ↔ canonicalPrivateUrl E observed = .ok expected := by
  simp only [checkUrl, Except.bind_eq_ok, refuseIf_eq_ok, decide_eq_false_iff_not, ne_eq, not_not]
  constructor
  · rintro ⟨url, hurl, rfl⟩
    exact hurl
  · exact fun hurl => ⟨_, hurl, rfl⟩

theorem validatePrivateIdentity_eq_ok :
    validatePrivateIdentity E staged authoritative live origin url = .ok u ↔
      ∃ canonical, Matches E staged authoritative live origin url canonical := by
  simp only [validatePrivateIdentity, Except.bind_eq_ok, refuseIf_eq_ok, forM_eq_ok,
    checkShared_eq_ok, checkObserved_eq_ok, checkUrl_eq_ok, Bool.not_eq_eq_eq_not, Bool.not_false,
    decide_eq_false_iff_not, ne_eq, not_not, List.forall_mem_cons]
  constructor
  · rintro ⟨_, hs, _, hc, _, hready, _, hshared, _, howner, _, hobserved, canonical, hdest, asked,
      hasked, current, hcurrent, haskedUrl, hcurrentUrl, hlive, -⟩
    exact ⟨canonical, hs, hc, hready, hshared, howner, hobserved, hdest, ⟨asked, hasked, haskedUrl⟩,
      ⟨current, hcurrent, hcurrentUrl⟩, hlive⟩
  · rintro ⟨canonical, h⟩
    obtain ⟨asked, hasked, haskedUrl⟩ := h.staged_url
    obtain ⟨current, hcurrent, hcurrentUrl⟩ := h.current_url
    exact ⟨(), h.staged_usable, (), h.usable, (), h.ready, (), h.shared, (), h.owner, (),
      h.observed, canonical, h.destination, asked, hasked, current, hcurrent, haskedUrl,
      hcurrentUrl, h.live_url, fun _ hx => absurd hx List.not_mem_nil⟩

/-- A validated target carries the fields of the broker's handle. -/
structure Carries (E : PrivateEnv) (handle : JsonValue) (target : ValidatedPrivateTarget) :
    Prop where
  profileId : required handle "profileId" = .ok target.profileId
  browserId : required handle "browserId" = .ok target.browserId
  sessionName : required handle "sessionName" = .ok target.sessionName
  targetId : required handle "targetId" = .ok target.targetId
  tabId : required handle "tabId" = .ok target.tabId
  leaseId : required handle "leaseId" = .ok target.leaseId
  leaseState : required handle "leaseState" = .ok target.leaseState
  owner : ownerSessionOf handle = .ok target.ownerSessionId
  digest : target.scopeDigest = E.sha256 target.canonical

theorem validatePrivateTarget_eq_ok :
    validatePrivateTarget E staged authoritative live origin url = .ok target ↔
      Matches E staged authoritative live origin url target.url ∧ target.origin = origin ∧
        Carries E authoritative target := by
  simp only [validatePrivateTarget, Except.bind_eq_ok, validatePrivateIdentity_eq_ok]
  constructor
  · rintro ⟨_, ⟨canonical, hmatches⟩, owner, howner, profile, hprofile, browser, hbrowser, session,
      hsession, id, hid, tab, htab, lease, hlease, state, hstate, checked, hchecked, ⟨⟩⟩
    have hsame : canonical = checked :=
      Except.ok.inj (hmatches.destination.symm.trans hchecked)
    exact ⟨hsame ▸ hmatches, rfl, hprofile, hbrowser, hsession, hid, htab, hlease, hstate, howner,
      rfl⟩
  · rintro ⟨hmatches, rfl, h⟩
    refine ⟨(), ⟨_, hmatches⟩, _, h.owner, _, h.profileId, _, h.browserId, _, h.sessionName, _,
      h.targetId, _, h.tabId, _, h.leaseId, _, h.leaseState, _, hmatches.destination, ?_⟩
    have hdigest := h.digest
    obtain ⟨_, _, _, _, _, _, _, _, _, _, digest⟩ := target
    simp only [ValidatedPrivateTarget.canonical] at hdigest
    rw [hdigest]

end Facts

section Agreement
variable {E : PrivateEnv}

/-- Two handles that name the same target. -/
structure SameHandle (a b : JsonValue) : Prop where
  fields : ∀ field ∈ boundFields, required a field = required b field
  owner : a.get "ownerSessionId" = b.get "ownerSessionId"

theorem Matches.same (h : Matches E staged authoritative live origin url canonical) :
    SameHandle staged authoritative where
  fields field hfield := by
    obtain ⟨value, hstaged, hcurrent⟩ := h.shared field hfield
    rw [hstaged, hcurrent]
  owner := h.owner

theorem SameHandle.symm (h : SameHandle a b) : SameHandle b a :=
  ⟨fun field hfield => (h.fields field hfield).symm, h.owner.symm⟩

theorem SameHandle.trans (h : SameHandle a b) (h' : SameHandle b c) : SameHandle a c :=
  ⟨fun field hfield => (h.fields field hfield).trans (h'.fields field hfield),
    h.owner.trans h'.owner⟩

/-- The target at another destination. -/
def ValidatedPrivateTarget.movedTo (E : PrivateEnv) (target : ValidatedPrivateTarget)
    (origin url : String) : ValidatedPrivateTarget where
  __ := target
  origin := origin
  url := url
  scopeDigest := E.sha256 (ValidatedPrivateTarget.canonical { target with origin, url })

/-- A handle that names the same target carries it to any destination. -/
theorem Carries.moved (h : SameHandle a b) (ha : Carries E a target) (origin url : String) :
    Carries E b (target.movedTo E origin url) := by
  have hf {field : String} (hm : field ∈ boundFields) : required b field = required a field :=
    (h.fields field hm).symm
  have howner : ownerSessionOf b = ownerSessionOf a := by
    rw [ownerSessionOf, ownerSessionOf, h.owner]
  exact {
    profileId := (hf (by decide)).trans ha.profileId
    browserId := (hf (by decide)).trans ha.browserId
    sessionName := (hf (by decide)).trans ha.sessionName
    targetId := (hf (by decide)).trans ha.targetId
    tabId := (hf (by decide)).trans ha.tabId
    leaseId := (hf (by decide)).trans ha.leaseId
    leaseState := (hf (by decide)).trans ha.leaseState
    owner := howner.trans ha.owner
    digest := rfl }

/-- One handle carries one target to a destination. -/
theorem Carries.unique (ha : Carries E a target) (hb : Carries E a target')
    (horigin : target.origin = target'.origin) (hurl : target.url = target'.url) :
    target = target' := by
  have hf {field x y : String} (hx : required a field = .ok x) (hy : required a field = .ok y) :
      x = y := Except.ok.inj (hx.symm.trans hy)
  have hprofile := hf ha.profileId hb.profileId
  have hbrowser := hf ha.browserId hb.browserId
  have hsession := hf ha.sessionName hb.sessionName
  have htarget := hf ha.targetId hb.targetId
  have htab := hf ha.tabId hb.tabId
  have hlease := hf ha.leaseId hb.leaseId
  have hstate := hf ha.leaseState hb.leaseState
  have howner : target.ownerSessionId = target'.ownerSessionId :=
    Except.ok.inj (ha.owner.symm.trans hb.owner)
  have hdigest : target.scopeDigest = target'.scopeDigest := by
    rw [ha.digest, hb.digest]
    simp only [ValidatedPrivateTarget.canonical, *]
  cases target
  cases target'
  simp only [ValidatedPrivateTarget.mk.injEq]
  exact ⟨hprofile, hbrowser, hsession, htarget, htab, hlease, hstate, howner, horigin, hurl,
    hdigest⟩

theorem Carries.eq_moved (h : SameHandle a b) (ha : Carries E a target)
    (hb : Carries E b target') : target' = target.movedTo E target'.origin target'.url :=
  hb.unique (ha.moved h _ _) rfl rfl

theorem required_eq_ok (h : required handle field = .ok value) :
    handle.get field = some (.string value) := by
  rw [required, orRefuse_eq_ok, Option.filter_eq_some_iff, Option.bind_eq_some_iff] at h
  obtain ⟨⟨found, hget, hstr⟩, -⟩ := h
  cases found with
  | string text => cases hstr; exact hget
  | _ => cases hstr

theorem usable_isObject (h : usable handle = .ok u) : handle.isObject = true := by
  simp only [usable, Except.bind_eq_ok] at h
  obtain ⟨_, -, _, -, _, -, lease, hlease, -⟩ := h
  have hget := required_eq_ok hlease
  cases handle with
  | object _ => rfl
  | _ => cases hget

theorem required_set (h : field ≠ "url") :
    required (handle.set "url" value) field = required handle field := by
  rw [required, JsonValue.get_set_ne h, ← required]

theorem required_set_url {a b : JsonValue} (ha : a.isObject = true) (hb : b.isObject = true) :
    required (a.set "url" value) "url" = required (b.set "url" value) "url" := by
  rw [required, required, JsonValue.get_set_self ha, JsonValue.get_set_self hb]

theorem usable_set : usable (handle.set "url" value) = usable handle := by
  simp only [usable, required, JsonValue.get_set_ne (show "valid" ≠ "url" by decide),
    JsonValue.get_set_ne (show "staleReason" ≠ "url" by decide),
    JsonValue.get_set_ne (show "leaseState" ≠ "url" by decide),
    JsonValue.get_set_ne (show "leaseHeartbeatExpected" ≠ "url" by decide),
    JsonValue.get_set_ne (show "leaseId" ≠ "url" by decide),
    JsonValue.get_set_ne (show "sessionName" ≠ "url" by decide)]

theorem SameHandle.of_set : SameHandle (handle.set "url" value) handle where
  fields field hfield := required_set (by rintro rfl; exact absurd hfield (by decide))
  owner := JsonValue.get_set_ne (by decide)

/-- A staged handle that matches the first one at its destination matches the broker's there. -/
theorem Matches.arrive (h : Matches E first authoritative live origin url canonical)
    (harrive : Matches E staged (first.set "url" (.string url')) live' origin' url' canonical') :
    Matches E staged (authoritative.set "url" (.string url')) { live with url := url' } origin' url'
      canonical' := by
  have hsame : SameHandle staged (authoritative.set "url" (.string url')) :=
    (harrive.same.trans .of_set).trans (h.same.trans SameHandle.of_set.symm)
  obtain ⟨current, hcurrent, hcanonical⟩ := harrive.current_url
  have hobject := usable_isObject h.staged_usable
  have hget := required_eq_ok hcurrent
  rw [JsonValue.get_set_self hobject] at hget
  cases hget
  exact {
    staged_usable := harrive.staged_usable
    usable := usable_set.trans h.usable
    ready := h.ready
    shared := by
      intro field hfield
      obtain ⟨value, hstaged, -⟩ := harrive.shared field hfield
      exact ⟨value, hstaged, (hsame.fields field hfield).symm.trans hstaged⟩
    owner := hsame.owner
    observed := by
      intro seen hseen
      have hne : seen.1 ≠ "url" := by
        simp only [LivePrivateIdentity.observed, List.mem_cons, List.not_mem_nil, or_false] at hseen
        rcases hseen with rfl | rfl | rfl | rfl <;> simp
      exact (required_set hne).trans (h.observed seen hseen)
    destination := harrive.destination
    staged_url := harrive.staged_url
    current_url :=
      ⟨url', (required_set_url (usable_isObject h.usable) hobject).trans hcurrent, hcanonical⟩
    live_url := hcanonical }

end Agreement

section Sequences
variable {E : PrivateEnv}

/-- What a sequence says of each of its stages. -/
theorem checkStage_eq_ok (h : checkStage E first operation = .ok u) :
    operation.consentSha256 = first.consentSha256 ∧
      operation.accountScope = first.accountScope ∧
      ∃ live canonical, Matches E operation.serviceTabHandle
        (first.serviceTabHandle.set "url" (.string operation.expectedUrl)) live
        operation.expectedOrigin operation.expectedUrl canonical := by
  simp only [checkStage, Except.bind_eq_ok, refuseIf_eq_ok, Bool.or_eq_false_iff,
    decide_eq_false_iff_not, ne_eq, not_not] at h
  obtain ⟨_, ⟨hconsent, haccount⟩, _, -, _, -, _, -, _, -, hvalid⟩ := h
  refine ⟨hconsent, haccount, ?_⟩
  split at hvalid
  · rename_i target htarget
    exact ⟨_, _, (validatePrivateTarget_eq_ok.mp htarget).1⟩
  · cases hvalid

theorem validateSequence_eq_ok (h : validateSequence E operations = .ok u) :
    ∃ first second third fourth, operations = [first, second, third, fourth] ∧
      ∀ operation ∈ operations, checkStage E first operation = .ok () := by
  unfold validateSequence at h
  split at h
  · split at h
    · exact ⟨_, _, _, _, rfl, forM_eq_ok.mp h⟩
    · cases h
  · cases h

theorem mapM_map_eq_ok {dest : α → γ} {f : γ → Except ε β} {g : α → β} {xs : List α}
    (h : ∀ x ∈ xs, f (dest x) = .ok (g x)) : (xs.map dest).mapM f = .ok (xs.map g) := by
  induction xs with
  | nil => rfl
  | cons x xs ih =>
    obtain ⟨hx, hxs⟩ := List.forall_mem_cons.mp h
    rw [List.map_cons, List.mapM_cons, hx, ih hxs]
    rfl

theorem destinationDigest_eq_ok (h : checkedDestination E origin url = .ok canonical) :
    destinationDigest E initial (origin, url) =
      .ok (initial.movedTo E origin canonical).scopeDigest := by
  simp only [destinationDigest, h]
  rfl

/-- A journey from a validated target commits to the target at each of its destinations. -/
theorem ValidatedPrivateJourney.new_eq_ok {operations : List PrivateOperation}
    {canonical : PrivateOperation → String} (hlength : operations.length = 4)
    (hdest : ∀ operation ∈ operations, checkedDestination E operation.expectedOrigin
      operation.expectedUrl = .ok (canonical operation))
    (hfirst : (operations.map fun operation => (initial.movedTo E operation.expectedOrigin
      (canonical operation)).scopeDigest).head? = some initial.scopeDigest) :
    ValidatedPrivateJourney.new E initial (operations.map fun operation =>
      (operation.expectedOrigin, operation.expectedUrl)) = .ok {
        targetId := initial.targetId
        digests := operations.map fun operation =>
          (initial.movedTo E operation.expectedOrigin (canonical operation)).scopeDigest } := by
  have hdigest (operation : PrivateOperation) (hoperation : operation ∈ operations) :
      destinationDigest E initial (operation.expectedOrigin, operation.expectedUrl) =
        .ok (initial.movedTo E operation.expectedOrigin (canonical operation)).scopeDigest :=
    destinationDigest_eq_ok (hdest operation hoperation)
  have hdigests := mapM_map_eq_ok hdigest
  have hempty : operations ≠ [] := by
    rintro rfl
    cases hlength
  simp only [new, Except.bind_eq_ok, refuseIf_eq_ok]
  refine ⟨(), ?_, _, hdigests, (), ?_, rfl⟩
  · simp [hempty, hlength]
  · simp only [hfirst, ne_eq, not_true_eq_false, decide_false]

end Sequences

section Digests
variable {E : PrivateEnv}

theorem ofStr_injective {a b : Option String} (h : JsonValue.ofStr a = JsonValue.ofStr b) :
    a = b := by
  cases a with
  | none =>
    cases b with
    | none => rfl
    | some b => cases h
  | some a =>
    cases b with
    | none => cases h
    | some b => cases h; rfl

/-- The bytes of a target name each of its fields. -/
theorem ValidatedPrivateTarget.canonical_injective {a b : ValidatedPrivateTarget}
    (h : a.canonical = b.canonical) :
    { a with scopeDigest := "" } = { b with scopeDigest := "" } := by
  have htext := String.ofList_injective (bytesOf_injective h)
  have hvalue := compact_injective htext
  simp only [JsonValue.array.injEq, List.cons.injEq, JsonValue.string.injEq, true_and,
    and_true] at hvalue
  obtain ⟨hprofile, hbrowser, hsession, htarget, htab, hlease, hstate, howner, horigin, hurl⟩ :=
    hvalue
  simp only [hprofile, hbrowser, hsession, htarget, htab, hlease, hstate, ofStr_injective howner,
    horigin, hurl]

/-- Without collisions of the digest, the targets that were validated differ as their digests
do. -/
theorem Carries.digest_inj (hinj : Function.Injective E.sha256) (ha : Carries E handle target)
    (hb : Carries E handle' target') :
    target.scopeDigest = target'.scopeDigest ↔ target = target' := by
  constructor
  · intro h
    have hcanonical := hinj (ha.digest.symm.trans (h.trans hb.digest))
    have hfields := ValidatedPrivateTarget.canonical_injective hcanonical
    cases target
    cases target'
    simp only [ValidatedPrivateTarget.mk.injEq] at hfields h ⊢
    simp only [hfields, h, and_self]
  · exact congrArg _

/-- The targets that a broker can validate, for any staged handle, live tab and destination. -/
def Validates (E : PrivateEnv) (target : ValidatedPrivateTarget) : Prop :=
  ∃ staged authoritative live origin url,
    validatePrivateTarget E staged authoritative live origin url = .ok target

/-- For a sequence that is accepted and any target validated for its first stage, the journey is
made, and its digest of each stage is that of the one target that can be validated there: the
broker's handle at that destination validates to it, every handle and tab that validates does so
to it, and without collisions of the digest no other target, whatever field differs, has it. -/
theorem journey_digests_agree (E : PrivateEnv) {operations : List PrivateOperation}
    {first : PrivateOperation} {authoritative : JsonValue} {live : LivePrivateIdentity}
    {initial : ValidatedPrivateTarget} (hsequence : validateSequence E operations = .ok ())
    (hfirst : operations.head? = some first)
    (hinitial : validatePrivateTarget E first.serviceTabHandle authoritative live
      first.expectedOrigin first.expectedUrl = .ok initial) :
    ∃ journey, ValidatedPrivateJourney.new E initial (operations.map fun operation =>
        (operation.expectedOrigin, operation.expectedUrl)) = .ok journey ∧
      journey.targetId = initial.targetId ∧
      ∀ (i : Nat) (operation : PrivateOperation), operations[i]? = some operation →
        ∃ target : ValidatedPrivateTarget, journey.digests[i]? = some target.scopeDigest ∧
          target.targetId = journey.targetId ∧
          validatePrivateTarget E operation.serviceTabHandle
            (authoritative.set "url" (.string operation.expectedUrl))
            { live with url := operation.expectedUrl } operation.expectedOrigin
            operation.expectedUrl = .ok target ∧
          (∀ authoritative' live' target', validatePrivateTarget E operation.serviceTabHandle
            authoritative' live' operation.expectedOrigin operation.expectedUrl = .ok target' →
              target' = target) ∧
          (Function.Injective E.sha256 → ∀ other, Validates E other →
            (journey.digests[i]? = some other.scopeDigest ↔ other = target)) := by
  obtain ⟨hstart, horigin, hcarries⟩ := validatePrivateTarget_eq_ok.mp hinitial
  obtain ⟨f, second, third, fourth, rfl, hstages⟩ := validateSequence_eq_ok hsequence
  cases hfirst
  have harrive : ∀ operation ∈ [first, second, third, fourth], ∃ canonical,
      Matches E operation.serviceTabHandle
        (authoritative.set "url" (.string operation.expectedUrl))
        { live with url := operation.expectedUrl } operation.expectedOrigin
        operation.expectedUrl canonical := by
    intro operation hoperation
    obtain ⟨-, -, live', canonical, hstage⟩ := checkStage_eq_ok (hstages operation hoperation)
    exact ⟨canonical, hstart.arrive hstage⟩
  choose! canonical hcanonical using harrive
  have hhead : canonical first = initial.url :=
    Except.ok.inj ((hcanonical first List.mem_cons_self).destination.symm.trans hstart.destination)
  have hself : initial.movedTo E first.expectedOrigin (canonical first) = initial := by
    rw [hhead, ← horigin]
    exact (hcarries.eq_moved ⟨fun _ _ => rfl, rfl⟩ hcarries).symm
  refine ⟨_, ValidatedPrivateJourney.new_eq_ok rfl
    (fun operation hoperation => (hcanonical operation hoperation).destination) ?_, rfl, ?_⟩
  · rw [List.map_cons, List.head?_cons, hself]
  intro i operation hget
  have hmem := List.mem_of_getElem? hget
  have hmatches := hcanonical operation hmem
  have hthere : Carries E (authoritative.set "url" (.string operation.expectedUrl))
      (initial.movedTo E operation.expectedOrigin (canonical operation)) :=
    hcarries.moved SameHandle.of_set.symm _ _
  have hdigest : ([first, second, third, fourth].map fun operation =>
      (initial.movedTo E operation.expectedOrigin (canonical operation)).scopeDigest)[i]? =
        some (initial.movedTo E operation.expectedOrigin (canonical operation)).scopeDigest := by
    rw [List.getElem?_map, hget]
    rfl
  refine ⟨_, hdigest, rfl, validatePrivateTarget_eq_ok.mpr ⟨hmatches, rfl, hthere⟩, ?_, ?_⟩
  · intro authoritative' live' target' htarget
    obtain ⟨hmatches', horigin', hcarries'⟩ := validatePrivateTarget_eq_ok.mp htarget
    have hurl := Except.ok.inj (hmatches'.destination.symm.trans hmatches.destination)
    have hsame : SameHandle authoritative authoritative' :=
      (SameHandle.of_set.symm.trans hmatches.same.symm).trans hmatches'.same
    rw [hcarries.eq_moved hsame hcarries', horigin', hurl]
  · rintro hinj other ⟨staged, handle, live', origin, url, hother⟩
    obtain ⟨-, -, hcarries'⟩ := validatePrivateTarget_eq_ok.mp hother
    rw [hdigest, Option.some.injEq, ← hcarries'.digest_inj hinj hthere]
    exact eq_comm

/-- The handle of a tab at a URL. -/
def sampleHandle (url : String) : JsonValue :=
  .object [("browserId", .string "session:default"), ("leaseHeartbeatExpected", .bool true),
    ("leaseId", .string "default"), ("leaseState", .string "exclusive"),
    ("ownerSessionId", .string "default"), ("profileId", .string "sam"),
    ("sessionName", .string "default"), ("staleReason", .null), ("tabId", .string "tab"),
    ("targetId", .string "retained"), ("url", .string url), ("valid", .bool true)]

def sampleUrl (host : String) : PrivateUrl where
  scheme := "https"
  host := some host
  username := ""
  password := none
  port := none
  query := none
  fragment := none
  origin := "https://" ++ host
  text := "https://" ++ host ++ "/"

/-- The target of the tab at a host, with the digest that SHA-256 gives it. -/
def sampleTarget (host digest : String) : ValidatedPrivateTarget where
  profileId := "sam"
  browserId := "session:default"
  sessionName := "default"
  targetId := "retained"
  tabId := "tab"
  leaseId := "default"
  leaseState := "exclusive"
  ownerSessionId := some "default"
  origin := "https://" ++ host
  url := "https://" ++ host ++ "/"
  scopeDigest := digest

def sampleLogin : ValidatedPrivateTarget :=
  sampleTarget "secure.login.gov" "556738e4f85968caaf20656e2acf307600d8824a9a3fc47bf4e0c9518010144d"

def sampleRenewal : ValidatedPrivateTarget :=
  sampleTarget "sam.gov" "44168ea044c58c48fb5e712833161f28fd0102fc7d4b2e0bff0be05237a8f0e4"

/-- The packages as they answer for these two hosts. -/
def samplePrivateEnv : PrivateEnv where
  parseUrl value := ["secure.login.gov", "sam.gov"].findSome? fun host =>
    if value = "https://" ++ host ++ "/" then some (sampleUrl host) else none
  sha256 bytes :=
    (([sampleLogin, sampleRenewal].find? (·.canonical = bytes)).map (·.scopeDigest)).getD ""
  parseTime text := if text = "2030-01-01T00:00:00Z" then some 1893456000000000000 else none

def sampleOperation (host : String) (operation : Operation) : PrivateOperation where
  schema := "agent-browser.private-operation.v1"
  serviceTabHandle := sampleHandle ("https://" ++ host ++ "/")
  expectedOrigin := "https://" ++ host
  expectedUrl := "https://" ++ host ++ "/"
  consentSha256 := String.ofList (List.replicate 64 'a')
  accountScope := "login.gov:user@example.test"
  operation := operation

/-- A sequence with the given password and code. -/
def sampleSequence (password code : String) : List PrivateOperation :=
  [sampleOperation "secure.login.gov"
      (.login "#email" "#password" "#submit" "user@example.test" password),
    sampleOperation "secure.login.gov"
      (.backupCode "#code" "#submit" "#account" "user@example.test" code "synthetic:1"),
    sampleOperation "sam.gov" (.renew "#renew" "#account" "user@example.test"),
    sampleOperation "sam.gov" (.readKey "#key" "#account" "user@example.test")]

def sampleLive (url : String) : LivePrivateIdentity where
  profileId := "sam"
  browserId := "session:default"
  sessionName := "default"
  targetId := "retained"
  url := url
  ready := true

theorem journey_digests_agree_at_renewal :
    ∃ journey, ValidatedPrivateJourney.new samplePrivateEnv sampleLogin
        ((sampleSequence "secret" "CODE").map fun operation =>
          (operation.expectedOrigin, operation.expectedUrl)) = .ok journey ∧
      journey.digests[2]? = some sampleRenewal.scopeDigest := by
  have hvalid : validatePrivateTarget samplePrivateEnv (sampleHandle "https://sam.gov/")
      (sampleHandle "https://sam.gov/") (sampleLive "https://sam.gov/") "https://sam.gov"
      "https://sam.gov/" = .ok sampleRenewal := by decide +kernel
  obtain ⟨journey, hnew, -, hstages⟩ := @journey_digests_agree samplePrivateEnv
    (sampleSequence "secret" "CODE") _ (sampleHandle "https://secure.login.gov/")
    (sampleLive "https://secure.login.gov/") sampleLogin (by decide +kernel) rfl
    (by decide +kernel)
  obtain ⟨target, hdigest, -, -, honly, -⟩ := hstages 2 _ rfl
  rw [← honly _ _ _ hvalid] at hdigest
  exact ⟨journey, hnew, hdigest⟩

end Digests

end AgentBrowser.Private
