import AgentBrowser.ServiceStore
import AgentBrowser.Transition

namespace AgentBrowser
set_option autoImplicit true

inductive ProfileSeedingHandoffState where
  | notRequired | needsManualSeeding | seedingLaunchedDetached | seedingWaitingForClose
  | completionDeclaredWaitingForClose | seedingClosedUnverified | verificationPending | fresh
  | failed | abandoned
  deriving DecidableEq, Repr

/-- The course of a profile's login without remote control. -/
structure ProfileSeedingHandoffRecord where
  id : String := ""
  profileId : String := ""
  targetServiceId : String := ""
  state : ProfileSeedingHandoffState := .needsManualSeeding
  pid : Option Nat := none
  startedAt : Option String := none
  expiresAt : Option String := none
  lastPromptedAt : Option String := none
  declaredCompleteAt : Option String := none
  closedAt : Option String := none
  updatedAt : Option String := none
  actor : Option String := none
  note : Option String := none
  deriving DecidableEq, Repr

/-- A service state with what only its configuration treats. -/
structure ConfigState where
  state : ServiceState := {}
  profileSeedingHandoffs : BTreeMap ProfileSeedingHandoffRecord := ∅
  profileSources : BTreeMap ServiceEntitySource := ∅

/-- How request bodies are read. -/
structure ConfigSerde where
  profile : JsonValue → Except String BrowserProfile
  session : JsonValue → Except String BrowserSession

/-- A profile has the id of its body. -/
def ConfigSerde.Lawful (serde : ConfigSerde) : Prop :=
  ∀ body profile id, serde.profile body = .ok profile → body.get "id" = some (.string id) →
    profile.id = id

/-- The trimmed value, if it is not blank. -/
def nonBlank (value : Option String) : Option String :=
  (value.map trim).filter (· ≠ "")

def validateEntityId (id label : String) : Except String Unit := do
  refuseIf (isBlank id) (label ++ " id must not be empty")
  refuseIf (id.toList.contains '/') (label ++ " id must not contain '/'")

def objectBodyWithPathId (body : JsonValue) (id label : String) : Except String JsonValue := do
  validateEntityId id label
  refuseIf (!body.isObject) (label ++ " body must be a JSON object")
  checkSome (((body.get "id").bind (·.asStr)).filter (· ≠ "")) fun bodyId =>
    refuseIf (bodyId ≠ id)
      (label ++ " body id '" ++ bodyId ++ "' does not match path id '" ++ id ++ "'")
  .ok (body.set "id" (.string id))

def validateProfilePolicy (profile : BrowserProfile) : Except String Unit := do
  refuseIf (profile.allocation = .callerSupplied ∧ nonBlank profile.userDataDir = none)
    "caller_supplied profile allocation requires userDataDir"
  refuseIf (profile.allocation = .perService ∧ profile.sharedServiceIds.length > 1)
    "per_service profile allocation may list at most one sharedServiceIds entry"

def ProfileAllocationPolicy.name : ProfileAllocationPolicy → String
  | .sharedService => "shared_service"
  | .perService => "per_service"
  | .perSite => "per_site"
  | .perIdentity => "per_identity"
  | .callerSupplied => "caller_supplied"

/-- The profile's own rule for those who use it. -/
def BrowserProfile.validateUse (profile : BrowserProfile) (profileId : String)
    (session : BrowserSession) : Except String Unit :=
  match profile.allocation with
  | .sharedService | .perService => do
    let serviceName ← orRefuse (nonBlank session.serviceName)
      ("session serviceName is required when using profile '" ++ profileId ++ "' with " ++
        profile.allocation.name ++ " allocation")
    refuseIf (!profile.sharedServiceIds.isEmpty && !profile.sharedServiceIds.contains serviceName)
      ("session serviceName '" ++ serviceName ++ "' is not allowed to use profile '" ++ profileId ++
        "'")
  | .perSite | .perIdentity | .callerSupplied => .ok ()

def validateSessionProfilePolicy (state : ServiceState) (session : BrowserSession) :
    Except String Unit :=
  checkSome (nonBlank session.profileId) fun profileId => do
    let profile ← orRefuse state.profiles[profileId]?
      ("session profileId '" ++ profileId ++ "' does not match a persisted profile")
    validateProfilePolicy profile
    profile.validateUse profileId session

def ServiceActor.fromCallerContext (serviceName agentName : Option String) : ServiceActor :=
  match nonBlank agentName, nonBlank serviceName with
  | some agentName, _ => .agent agentName
  | none, some serviceName => .apiClient serviceName
  | none, none => .system

def normalizeSessionOwner (session : BrowserSession) : BrowserSession :=
  if session.owner = .system then
    { session with owner := .fromCallerContext session.serviceName session.agentName }
  else session

structure ProfileFreshnessUpdate where
  loginId : Option String := none
  siteId : Option String := none
  targetServiceId : Option String := none
  targetServiceIds : List String := []
  accountId : Option String := none
  accountIds : List String := []
  readinessState : ProfileReadinessState := .fresh
  readinessEvidence : Option String := none
  readinessRecommendedAction : Option String := none
  lastVerifiedAt : Option String := none
  freshnessExpiresAt : Option String := none
  updateAuthenticatedServiceIds : Option Bool := none
  deriving DecidableEq, Repr

structure ProfileSeedingHandoffUpdate where
  targetServiceId : Option String := none
  state : Option ProfileSeedingHandoffState := none
  pid : Option Nat := none
  startedAt : Option String := none
  expiresAt : Option String := none
  lastPromptedAt : Option String := none
  declaredCompleteAt : Option String := none
  closedAt : Option String := none
  actor : Option String := none
  note : Option String := none
  deriving DecidableEq, Repr

/-- The list with one more value, if it is not there. -/
def pushMissing (values : List String) (value : String) : List String :=
  if values.contains value then values else values ++ [value]

def uniqueNonEmptyStrings (values : List String) : List String :=
  (values.map trim).foldl (fun out value => if value = "" then out else pushMissing out value) []

def ProfileReadinessState.reportedEvidence : ProfileReadinessState → String
  | .fresh => "client_reported_authenticated"
  | .stale => "client_reported_stale"
  | .blockedByAttachedDevtools => "client_reported_attached_devtools"
  | .needsManualSeeding => "client_reported_manual_seeding_needed"
  | .seededUnknownFreshness => "client_reported_seeded_unknown_freshness"
  | .unknown => "client_reported_unknown"

namespace ProfileFreshnessUpdate
variable (update : ProfileFreshnessUpdate)

def loginIdForRow : Option String :=
  (update.loginId.or update.siteId).or update.targetServiceId

def targetIds : List String :=
  uniqueNonEmptyStrings (update.targetServiceIds ++ update.loginIdForRow.toList)

def row (lastVerifiedAt target : String) : ProfileTargetReadiness :=
  let manualSeedingRequired := update.readinessState = .needsManualSeeding
  { targetServiceId := target
    loginId := update.loginIdForRow
    state := update.readinessState
    manualSeedingRequired := manualSeedingRequired
    evidence := update.readinessEvidence.getD update.readinessState.reportedEvidence
    recommendedAction :=
      update.readinessRecommendedAction.getD update.readinessState.recommendedAction
    seedingMode := if manualSeedingRequired then .detachedHeadedNoCdp else .notRequired
    cdpAttachmentAllowedDuringSeeding := false
    preferredKeyring := if manualSeedingRequired then some .basicPasswordStore else none
    setupScopes := if manualSeedingRequired then profileSeedingSetupScopes target else []
    lastVerifiedAt := some lastVerifiedAt
    freshnessExpiresAt := update.freshnessExpiresAt }

/-- The login is believed to work. -/
def verifies : Bool :=
  update.readinessState = .fresh || update.readinessState = .seededUnknownFreshness

end ProfileFreshnessUpdate

/-- The row takes the place of the first one for its target, or comes last. -/
def upsertReadiness (row : ProfileTargetReadiness) :
    List ProfileTargetReadiness → List ProfileTargetReadiness
  | [] => [row]
  | existing :: rows =>
    if existing.targetServiceId = row.targetServiceId then row :: rows
    else existing :: upsertReadiness row rows

/-- The profile with the evidence of an update. -/
def BrowserProfile.freshened (profile : BrowserProfile) (update : ProfileFreshnessUpdate)
    (lastVerifiedAt : String) : BrowserProfile :=
  let targets := update.targetIds
  let accountIds := uniqueNonEmptyStrings (update.accountIds ++ update.accountId.toList)
  { profile with
    targetServiceIds := targets.foldl pushMissing profile.targetServiceIds
    targetReadiness := targets.foldl
      (fun rows target => upsertReadiness (update.row lastVerifiedAt target) rows)
      profile.targetReadiness
    accountIds := accountIds.foldl pushMissing profile.accountIds
    authenticatedServiceIds :=
      if update.updateAuthenticatedServiceIds.getD true then
        if update.verifies then targets.foldl pushMissing profile.authenticatedServiceIds
        else targets.foldl (fun ids target => ids.filter (· ≠ target))
          profile.authenticatedServiceIds
      else profile.authenticatedServiceIds }

def profileSeedingHandoffId (profileId targetServiceId : String) : String :=
  profileId ++ ":" ++ targetServiceId

def ProfileSeedingHandoffRecord.advanced (record : ProfileSeedingHandoffRecord)
    (nextState : ProfileSeedingHandoffState) (updatedAt : String) : ProfileSeedingHandoffRecord :=
  if (record.state = .seedingClosedUnverified ∨ record.state = .verificationPending) ∧
      record.state ≠ nextState then
    { record with state := nextState, updatedAt := some updatedAt }
  else record

/-- The record with the fields of an update that are there. -/
def ProfileSeedingHandoffRecord.updated (record : ProfileSeedingHandoffRecord)
    (update : ProfileSeedingHandoffUpdate) (profileId targetServiceId updatedAt : String) :
    ProfileSeedingHandoffRecord where
  id := record.id
  profileId := profileId
  targetServiceId := targetServiceId
  state := update.state.getD record.state
  pid := update.pid.or record.pid
  startedAt := update.startedAt.or record.startedAt
  expiresAt := update.expiresAt.or record.expiresAt
  lastPromptedAt := update.lastPromptedAt.or record.lastPromptedAt
  declaredCompleteAt := update.declaredCompleteAt.or record.declaredCompleteAt
  closedAt := update.closedAt.or record.closedAt
  updatedAt := some updatedAt
  actor := update.actor.or record.actor
  note := update.note.or record.note

namespace ConfigState
variable (serde : ConfigSerde) (config : ConfigState)

def setProfile (id : String) (profile : BrowserProfile) : ConfigState :=
  { config with
    state := { config.state with profiles := config.state.profiles.insert id profile } }

def markProfilePersisted (id : String) : ConfigState :=
  { config with profileSources := config.profileSources.insert id .persistedState }

/-- The profile of a request that is accepted. -/
def acceptedProfile (id : String) (body : JsonValue) : Except String BrowserProfile := do
  let body ← objectBodyWithPathId body id "profile"
  let profile ← (serde.profile body).mapError ("Invalid profile: " ++ ·)
  validateProfilePolicy profile
  .ok profile

def upsertProfile (id : String) (body : JsonValue) : Except String BrowserProfile × ConfigState :=
  match acceptedProfile serde id body with
  | .error message => (.error message, config)
  | .ok profile => (.ok profile, (config.setProfile id profile).markProfilePersisted id)

def advanceProfileSeedingHandoffsAfterFreshness (profileId : String)
    (update : ProfileFreshnessUpdate) (updatedAt : String) : ConfigState :=
  let nextState : ProfileSeedingHandoffState :=
    if update.verifies then .fresh else .verificationPending
  { config with
    profileSeedingHandoffs := update.targetIds.foldl
      (fun handoffs target => handoffs.modify (profileSeedingHandoffId profileId target)
        (·.advanced nextState updatedAt)) config.profileSeedingHandoffs }

/-- The two times are those of the evidence and of the advance of the handoffs. -/
def updateProfileFreshness (id : String) (update : ProfileFreshnessUpdate)
    (now updatedAt : String) : Except String BrowserProfile × ConfigState :=
  match validateEntityId id "profile" with
  | .error message => (.error message, config)
  | .ok () =>
    if update.targetIds.isEmpty then
      (.error ("profile freshness update requires loginId, siteId, targetServiceId, or " ++
        "targetServiceIds"), config)
    else
      match config.state.profiles[id]? with
      | none => (.error ("profile '" ++ id ++ "' does not exist"), config)
      | some profile =>
        let profile := profile.freshened update (update.lastVerifiedAt.getD now)
        -- the profile is changed in its place before it is validated
        let config := config.setProfile id profile
        match validateProfilePolicy profile with
        | .error message => (.error message, config)
        | .ok () => (.ok profile,
          (config.advanceProfileSeedingHandoffsAfterFreshness id update updatedAt
            ).markProfilePersisted id)

def updateProfileSeedingHandoff (profileId : String) (update : ProfileSeedingHandoffUpdate)
    (updatedAt : String) : Except String ProfileSeedingHandoffRecord × ConfigState :=
  let target : Except String String := do
    validateEntityId profileId "profile"
    refuseIf (!config.state.profiles.contains profileId)
      ("profile '" ++ profileId ++ "' does not exist")
    orRefuse (nonBlank update.targetServiceId)
      "profile seeding handoff update requires targetServiceId"
  match target with
  | .error message => (.error message, config)
  | .ok targetServiceId =>
    let id := profileSeedingHandoffId profileId targetServiceId
    let record := (config.profileSeedingHandoffs[id]?.getD { id }).updated update profileId
      targetServiceId updatedAt
    (.ok record, { config with
      profileSeedingHandoffs := config.profileSeedingHandoffs.insert id record })

def deleteProfile (id : String) : Except String (Option BrowserProfile) × ConfigState :=
  match validateEntityId id "profile" with
  | .error message => (.error message, config)
  | .ok () =>
    (.ok config.state.profiles[id]?, { config with
      state := { config.state with profiles := config.state.profiles.erase id }
      profileSources := config.profileSources.erase id })

/-- The session of a request that is accepted. -/
def acceptedSession (id : String) (body : JsonValue) : Except String BrowserSession := do
  let body ← objectBodyWithPathId body id "session"
  let session ← (serde.session body).mapError ("Invalid session: " ++ ·)
  validateSessionProfilePolicy config.state (normalizeSessionOwner session)
  .ok (normalizeSessionOwner session)

def upsertSession (id : String) (body : JsonValue) : Except String BrowserSession × ConfigState :=
  match config.acceptedSession serde id body with
  | .error message => (.error message, config)
  | .ok session =>
    (.ok session, { config with
      state := { config.state with sessions := config.state.sessions.insert id session } })

def deleteSession (id : String) : Except String (Option BrowserSession) × ConfigState :=
  match validateEntityId id "session" with
  | .error message => (.error message, config)
  | .ok () =>
    (.ok config.state.sessions[id]?, { config with
      state := { config.state with sessions := config.state.sessions.erase id } })

end ConfigState

inductive ConfigOp where
  | upsertProfile (id : String) (body : JsonValue)
  | deleteProfile (id : String)
  | upsertSession (id : String) (body : JsonValue)
  | deleteSession (id : String)
  | updateProfileFreshness (id : String) (update : ProfileFreshnessUpdate) (now updatedAt : String)
  | updateProfileSeedingHandoff (profileId : String) (update : ProfileSeedingHandoffUpdate)
      (updatedAt : String)

/-- The configuration after an operation, whether or not it was refused. -/
def ConfigState.after (serde : ConfigSerde) (config : ConfigState) : ConfigOp → ConfigState
  | .upsertProfile id body => (config.upsertProfile serde id body).2
  | .deleteProfile id => (config.deleteProfile id).2
  | .upsertSession id body => (config.upsertSession serde id body).2
  | .deleteSession id => (config.deleteSession id).2
  | .updateProfileFreshness id update now updatedAt =>
    (config.updateProfileFreshness id update now updatedAt).2
  | .updateProfileSeedingHandoff profileId update updatedAt =>
    (config.updateProfileSeedingHandoff profileId update updatedAt).2

def ConfigState.next (serde : ConfigSerde) (config : ConfigState) (op : ConfigOp) :
    Option ConfigState :=
  some (config.after serde op)

/-- The profile's allow list has the session's service. -/
def BrowserProfile.Admits (profile : BrowserProfile) (session : BrowserSession) : Prop :=
  profile.allocation = .sharedService ∨ profile.allocation = .perService →
    ∃ serviceName ∈ nonBlank session.serviceName,
      profile.sharedServiceIds = [] ∨ serviceName ∈ profile.sharedServiceIds

instance (profile : BrowserProfile) (session : BrowserSession) :
    Decidable (profile.Admits session) :=
  inferInstanceAs (Decidable (_ → _))

/-- The session's profile id, as it is written or trimmed. -/
def BrowserSession.Uses (session : BrowserSession) (id : String) : Prop :=
  ∃ profileId ∈ session.profileId, trim profileId ≠ "" ∧ (profileId = id ∨ trim profileId = id)

instance (session : BrowserSession) (id : String) : Decidable (session.Uses id) :=
  inferInstanceAs (Decidable (∃ _ ∈ _, _))

/-- Every session has its profile and keeps to the profile's rule. -/
structure ProfilesRespected (state : ServiceState) : Prop where
  named : ∀ (id : String) session profileId, state.sessions[id]? = some session →
    session.profileId = some profileId → trim profileId ≠ "" →
      ∃ profile, state.profiles[profileId]? = some profile ∧ profile.Admits session
  ruled : ∀ (id : String) session, state.sessions[id]? = some session →
    validateSessionProfilePolicy state session = .ok ()
  valid : ∀ (id : String) profile, state.profiles[id]? = some profile →
    validateProfilePolicy profile = .ok ()
  owned : ∀ (id : String) profile, state.profiles[id]? = some profile → profile.id = id

/-- The operation takes no session's profile away: a profile that sessions use is not deleted and
not replaced by one that does not admit them, and the profile id of a new session has no blanks
around it, or there is a profile of that spelling too. -/
def ConfigState.Keeps (serde : ConfigSerde) (config : ConfigState) : ConfigOp → Prop
  | .upsertProfile id body =>
    ∀ profile ∈ (ConfigState.acceptedProfile serde id body).toOption,
      ∀ entry ∈ config.state.sessions.toList, entry.2.Uses id → profile.Admits entry.2
  | .deleteProfile id =>
    validateEntityId id "profile" = .ok () →
      ∀ entry ∈ config.state.sessions.toList, ¬entry.2.Uses id
  | .upsertSession id body =>
    ∀ session ∈ (config.acceptedSession serde id body).toOption, ∀ profileId ∈ session.profileId,
      trim profileId ≠ "" → trim profileId ≠ profileId →
        ∃ profile ∈ config.state.profiles[profileId]?, profile.Admits session
  | _ => True

instance (serde : ConfigSerde) (config : ConfigState) :
    (op : ConfigOp) → Decidable (config.Keeps serde op)
  | .upsertProfile _ _ => inferInstanceAs (Decidable (∀ _ ∈ _, ∀ _ ∈ _, _ → _))
  | .deleteProfile _ => inferInstanceAs (Decidable (_ → ∀ _ ∈ _, _))
  | .upsertSession _ _ => inferInstanceAs (Decidable (∀ _ ∈ _, ∀ _ ∈ _, _ → _ → _))
  | .deleteSession _ | .updateProfileFreshness _ _ _ _ | .updateProfileSeedingHandoff _ _ _ =>
    isTrue trivial

section Respect
variable {serde : ConfigSerde} {config : ConfigState} {state : ServiceState}

theorem nonBlank_eq_some {value : Option String} :
    nonBlank value = some text ↔
      ∃ spelled, value = some spelled ∧ trim spelled = text ∧ text ≠ "" := by
  simp only [nonBlank, Option.filter_eq_some_iff, Option.map_eq_some_iff, decide_eq_true_eq]
  constructor
  · rintro ⟨⟨spelled, hvalue, htrim⟩, hne⟩
    exact ⟨spelled, hvalue, htrim, hne⟩
  · rintro ⟨spelled, hvalue, htrim, hne⟩
    exact ⟨⟨spelled, hvalue, htrim⟩, hne⟩

theorem BrowserProfile.validateUse_eq_ok {profile : BrowserProfile} :
    profile.validateUse profileId session = .ok () ↔ profile.Admits session := by
  unfold BrowserProfile.validateUse BrowserProfile.Admits
  cases profile.allocation with
  | sharedService | perService =>
    simp [Except.bind_eq_ok, or_iff_not_imp_left]
  | perSite | perIdentity | callerSupplied => simp

theorem validateSessionProfilePolicy_eq_ok :
    validateSessionProfilePolicy state session = .ok () ↔
      ∀ profileId, session.profileId = some profileId → trim profileId ≠ "" →
        ∃ profile, state.profiles[trim profileId]? = some profile ∧
          validateProfilePolicy profile = .ok () ∧ profile.Admits session := by
  simp only [validateSessionProfilePolicy, checkSome_eq_ok, nonBlank_eq_some, Except.bind_eq_ok,
    orRefuse_eq_ok, BrowserProfile.validateUse_eq_ok]
  constructor
  · intro h profileId hprofile hblank
    obtain ⟨profile, hstored, _, hvalid, hadmits⟩ := h _ ⟨profileId, hprofile, rfl, hblank⟩
    exact ⟨profile, hstored, hvalid, hadmits⟩
  · rintro h _ ⟨profileId, hprofile, rfl, hblank⟩
    obtain ⟨profile, hstored, hvalid, hadmits⟩ := h profileId hprofile hblank
    exact ⟨profile, hstored, (), hvalid, hadmits⟩

/-- Every profile that a session uses is there and admits it. -/
def Linked (profiles : BTreeMap BrowserProfile) (sessions : BTreeMap BrowserSession) : Prop :=
  ∀ (sessionId : String) session id, sessions[sessionId]? = some session → session.Uses id →
    ∃ profile, profiles[id]? = some profile ∧ profile.Admits session

/-- A profile as it is stored. -/
def Stored (id : String) (profile : BrowserProfile) : Prop :=
  validateProfilePolicy profile = .ok () ∧ profile.id = id

theorem profilesRespected_iff : ProfilesRespected state ↔
    Linked state.profiles state.sessions ∧
      ∀ (id : String) profile, state.profiles[id]? = some profile → Stored id profile := by
  constructor
  · intro h
    refine ⟨?_, fun id profile hid => ⟨h.valid id profile hid, h.owned id profile hid⟩⟩
    rintro sessionId session id hsession ⟨profileId, hprofile, hblank, rfl | rfl⟩
    · exact h.named sessionId session profileId hsession hprofile hblank
    · have hruled := validateSessionProfilePolicy_eq_ok.mp (h.ruled sessionId session hsession)
      obtain ⟨profile, hstored, _, hadmits⟩ := hruled profileId hprofile hblank
      exact ⟨profile, hstored, hadmits⟩
  · intro ⟨hlinked, hstored⟩
    refine ⟨?_, ?_, fun id profile hid => (hstored id profile hid).1,
      fun id profile hid => (hstored id profile hid).2⟩
    · intro sessionId session profileId hsession hprofile hblank
      exact hlinked sessionId session profileId hsession ⟨profileId, hprofile, hblank, .inl rfl⟩
    · intro sessionId session hsession
      refine validateSessionProfilePolicy_eq_ok.mpr fun profileId hprofile hblank => ?_
      obtain ⟨profile, hid, hadmits⟩ := hlinked sessionId session (trim profileId) hsession
        ⟨profileId, hprofile, hblank, .inr rfl⟩
      exact ⟨profile, hid, (hstored _ _ hid).1, hadmits⟩

section Records
variable {profiles : BTreeMap BrowserProfile} {sessions : BTreeMap BrowserSession} {id : String}

theorem linked_insertProfile (h : Linked profiles sessions) :
    Linked (profiles.insert id profile) sessions ↔
      ∀ entry ∈ sessions.toList, entry.2.Uses id → profile.Admits entry.2 := by
  constructor
  · rintro hnew ⟨sessionId, session⟩ hentry huses
    have hsession := Std.ExtTreeMap.mem_toList_iff_getElem?_eq_some.mp hentry
    obtain ⟨stored, hstored, hadmits⟩ := hnew sessionId session id hsession huses
    rw [Std.ExtTreeMap.getElem?_insert_self] at hstored
    exact Option.some.inj hstored ▸ hadmits
  · intro hadmits sessionId session other hsession huses
    by_cases hid : id = other
    · subst hid
      have hentry := Std.ExtTreeMap.mem_toList_iff_getElem?_eq_some.mpr hsession
      exact ⟨profile, Std.ExtTreeMap.getElem?_insert_self, hadmits _ hentry huses⟩
    · obtain ⟨stored, hstored, hkept⟩ := h sessionId session other hsession huses
      refine ⟨stored, ?_, hkept⟩
      rw [Std.ExtTreeMap.getElem?_insert, if_neg (by simpa using hid)]
      exact hstored

theorem linked_eraseProfile (h : Linked profiles sessions) :
    Linked (profiles.erase id) sessions ↔ ∀ entry ∈ sessions.toList, ¬entry.2.Uses id := by
  constructor
  · rintro hnew ⟨sessionId, session⟩ hentry huses
    have hsession := Std.ExtTreeMap.mem_toList_iff_getElem?_eq_some.mp hentry
    obtain ⟨stored, hstored, _⟩ := hnew sessionId session id hsession huses
    rw [Std.ExtTreeMap.getElem?_erase_self] at hstored
    cases hstored
  · intro hunused sessionId session other hsession huses
    have hentry := Std.ExtTreeMap.mem_toList_iff_getElem?_eq_some.mpr hsession
    obtain ⟨stored, hstored, hkept⟩ := h sessionId session other hsession huses
    have hid : id ≠ other := fun hid => hunused _ hentry (hid ▸ huses)
    refine ⟨stored, ?_, hkept⟩
    rw [Std.ExtTreeMap.getElem?_erase, if_neg (by simpa using hid)]
    exact hstored

theorem linked_insertSession (h : Linked profiles sessions) :
    Linked profiles (sessions.insert sessionId session) ↔
      ∀ id, session.Uses id → ∃ profile, profiles[id]? = some profile ∧ profile.Admits session := by
  constructor
  · intro hnew id huses
    exact hnew sessionId session id Std.ExtTreeMap.getElem?_insert_self huses
  · intro hnew other stored id hstored huses
    rw [Std.ExtTreeMap.getElem?_insert] at hstored
    split at hstored
    · cases hstored
      exact hnew id huses
    · exact h other stored id hstored huses

theorem Linked.eraseSession (h : Linked profiles sessions) :
    Linked profiles (sessions.erase sessionId) := by
  intro other stored id hstored huses
  rw [Std.ExtTreeMap.getElem?_erase] at hstored
  split at hstored
  · cases hstored
  · exact h other stored id hstored huses

end Records

theorem stored_of_accepted (hserde : serde.Lawful) {id : String}
    (h : ConfigState.acceptedProfile serde id body = .ok profile) : Stored id profile := by
  obtain ⟨read, hread, h⟩ := Except.bind_eq_ok.mp h
  obtain ⟨decoded, hdecoded, h⟩ := Except.bind_eq_ok.mp h
  obtain ⟨_, hvalid, h⟩ := Except.bind_eq_ok.mp h
  obtain rfl := Except.ok.inj h
  obtain ⟨_, _, hread⟩ := Except.bind_eq_ok.mp hread
  obtain ⟨_, hobject, hread⟩ := Except.bind_eq_ok.mp hread
  obtain ⟨_, _, hread⟩ := Except.bind_eq_ok.mp hread
  obtain rfl := Except.ok.inj hread
  have hbody : body.isObject = true := by simpa using hobject
  refine ⟨hvalid, hserde _ _ _ ?_ (JsonValue.get_set_self hbody)⟩
  cases hread : serde.profile (body.set "id" (.string id)) with
  | error message =>
    rw [hread] at hdecoded
    cases hdecoded
  | ok profile =>
    rw [hread] at hdecoded
    exact hdecoded

/-- The evidence of a login is not what the policy of the profile or its id depends on. -/
theorem freshened_policy (profile : BrowserProfile) (update : ProfileFreshnessUpdate)
    (lastVerifiedAt : String) :
    validateProfilePolicy (profile.freshened update lastVerifiedAt) =
        validateProfilePolicy profile ∧
      (profile.freshened update lastVerifiedAt).id = profile.id ∧
      ∀ session, (profile.freshened update lastVerifiedAt).Admits session ↔
        profile.Admits session :=
  ⟨rfl, rfl, fun _ => Iff.rfl⟩

section Operations
variable (hserde : serde.Lawful) (h : ProfilesRespected config.state)
include h

theorem insertProfile_respected_iff {id : String} (hstored : Stored id profile) :
    ProfilesRespected (config.setProfile id profile).state ↔
      ∀ entry ∈ config.state.sessions.toList, entry.2.Uses id → profile.Admits entry.2 := by
  obtain ⟨hlinked, hprofiles⟩ := profilesRespected_iff.mp h
  rw [profilesRespected_iff]
  change Linked (config.state.profiles.insert id profile) config.state.sessions ∧ _ ↔ _
  rw [linked_insertProfile hlinked]
  refine and_iff_left fun other stored hother => ?_
  change (config.state.profiles.insert id profile)[other]? = some stored at hother
  rw [Std.ExtTreeMap.getElem?_insert] at hother
  split at hother
  · rename_i hid
    cases hother
    exact Std.LawfulEqCmp.eq_of_compare hid ▸ hstored
  · exact hprofiles other stored hother

include hserde in
theorem upsertProfile_respected_iff {id : String} :
    ProfilesRespected (config.upsertProfile serde id body).2.state ↔
      config.Keeps serde (.upsertProfile id body) := by
  simp only [ConfigState.upsertProfile, ConfigState.Keeps]
  cases haccepted : ConfigState.acceptedProfile serde id body with
  | error message => simpa [Except.toOption] using h
  | ok profile =>
    have hiff := insertProfile_respected_iff h (stored_of_accepted hserde haccepted)
    simp only [Except.toOption, Option.mem_some_iff, forall_eq']
    exact hiff

theorem deleteProfile_respected_iff {id : String} :
    ProfilesRespected (config.deleteProfile id).2.state ↔
      config.Keeps serde (.deleteProfile id) := by
  simp only [ConfigState.deleteProfile, ConfigState.Keeps]
  cases hid : validateEntityId id "profile" with
  | error message => simpa using h
  | ok _ =>
    obtain ⟨hlinked, hprofiles⟩ := profilesRespected_iff.mp h
    rw [profilesRespected_iff, imp_iff_right rfl, ← linked_eraseProfile hlinked]
    refine and_iff_left fun other stored hother => ?_
    change (config.state.profiles.erase id)[other]? = some stored at hother
    rw [Std.ExtTreeMap.getElem?_erase] at hother
    split at hother
    · cases hother
    · exact hprofiles other stored hother

theorem insertSession_respected_iff {sessionId : String} {session : BrowserSession}
    (hruled : validateSessionProfilePolicy config.state session = .ok ()) :
    ProfilesRespected
        { config.state with sessions := config.state.sessions.insert sessionId session } ↔
      ∀ profileId ∈ session.profileId, trim profileId ≠ "" → trim profileId ≠ profileId →
        ∃ profile ∈ config.state.profiles[profileId]?, profile.Admits session := by
  obtain ⟨hlinked, hprofiles⟩ := profilesRespected_iff.mp h
  rw [profilesRespected_iff, and_iff_left hprofiles]
  change Linked config.state.profiles (config.state.sessions.insert sessionId session) ↔ _
  rw [linked_insertSession hlinked]
  have htrimmed := validateSessionProfilePolicy_eq_ok.mp hruled
  constructor
  · intro hnew profileId hprofile hblank _
    exact hnew profileId ⟨profileId, hprofile, hblank, .inl rfl⟩
  · rintro hnew id ⟨profileId, hprofile, hblank, hid⟩
    obtain ⟨profile, hstored, _, hadmits⟩ := htrimmed profileId hprofile hblank
    rcases hid with rfl | rfl
    · by_cases hspelled : trim profileId = profileId
      · exact ⟨profile, hspelled ▸ hstored, hadmits⟩
      · exact hnew profileId hprofile hblank hspelled
    · exact ⟨profile, hstored, hadmits⟩

theorem upsertSession_respected_iff {id : String} :
    ProfilesRespected (config.upsertSession serde id body).2.state ↔
      config.Keeps serde (.upsertSession id body) := by
  simp only [ConfigState.upsertSession, ConfigState.Keeps]
  cases haccepted : config.acceptedSession serde id body with
  | error message => simpa [Except.toOption] using h
  | ok session =>
    obtain ⟨_, _, hread⟩ := Except.bind_eq_ok.mp haccepted
    obtain ⟨decoded, _, hread⟩ := Except.bind_eq_ok.mp hread
    obtain ⟨_, hruled, hsession⟩ := Except.bind_eq_ok.mp hread
    obtain rfl := Except.ok.inj hsession
    simp only [Except.toOption, Option.mem_some_iff, forall_eq']
    exact insertSession_respected_iff h hruled

theorem deleteSession_respected (id : String) :
    ProfilesRespected (config.deleteSession id).2.state := by
  unfold ConfigState.deleteSession
  cases validateEntityId id "session" with
  | error message => exact h
  | ok _ =>
    obtain ⟨hlinked, hprofiles⟩ := profilesRespected_iff.mp h
    exact profilesRespected_iff.mpr ⟨hlinked.eraseSession, hprofiles⟩

theorem updateProfileFreshness_respected (id : String) (update : ProfileFreshnessUpdate)
    (now updatedAt : String) :
    ProfilesRespected (config.updateProfileFreshness id update now updatedAt).2.state := by
  unfold ConfigState.updateProfileFreshness
  cases validateEntityId id "profile" with
  | error message => exact h
  | ok _ =>
    by_cases htargets : update.targetIds.isEmpty = true
    · simpa only [htargets, ↓reduceIte] using h
    · simp only [htargets, Bool.false_eq_true, ↓reduceIte]
      cases hprofile : config.state.profiles[id]? with
      | none => exact h
      | some profile =>
        have hfreshened : ProfilesRespected (config.setProfile id
            (profile.freshened update (update.lastVerifiedAt.getD now))).state := by
          obtain ⟨hpolicy, hid, hadmits⟩ :=
            freshened_policy profile update (update.lastVerifiedAt.getD now)
          have hstored : Stored id profile :=
            ⟨h.valid id profile hprofile, h.owned id profile hprofile⟩
          refine (insertProfile_respected_iff h ⟨hpolicy.trans hstored.1,
            hid.trans hstored.2⟩).mpr fun entry hentry huses => (hadmits entry.2).mpr ?_
          have hsession := Std.ExtTreeMap.mem_toList_iff_getElem?_eq_some.mp hentry
          obtain ⟨stored, hsame, hadmitted⟩ :=
            (profilesRespected_iff.mp h).1 entry.1 entry.2 id hsession huses
          obtain rfl := Option.some.inj (hprofile.symm.trans hsame)
          exact hadmitted
        simp only
        cases validateProfilePolicy (profile.freshened update (update.lastVerifiedAt.getD now)) with
        | error message => exact hfreshened
        | ok _ => exact hfreshened

theorem updateProfileSeedingHandoff_respected (profileId : String)
    (update : ProfileSeedingHandoffUpdate) (updatedAt : String) :
    ProfilesRespected
      (config.updateProfileSeedingHandoff profileId update updatedAt).2.state := by
  unfold ConfigState.updateProfileSeedingHandoff
  simp only
  split
  · exact h
  · exact h

include hserde in
/-- One operation respects the profiles exactly when it keeps them for their sessions. -/
theorem after_respected_iff (op : ConfigOp) :
    ProfilesRespected (config.after serde op).state ↔ config.Keeps serde op := by
  cases op with
  | upsertProfile id body => exact upsertProfile_respected_iff hserde h
  | deleteProfile id => exact deleteProfile_respected_iff h
  | upsertSession id body => exact upsertSession_respected_iff h
  | deleteSession id => exact iff_of_true (deleteSession_respected h id) trivial
  | updateProfileFreshness id update now updatedAt =>
    exact iff_of_true (updateProfileFreshness_respected h id update now updatedAt) trivial
  | updateProfileSeedingHandoff profileId update updatedAt =>
    exact iff_of_true (updateProfileSeedingHandoff_respected h profileId update updatedAt) trivial

end Operations

/-- Operations that keep the profiles of the sessions respect them in every state, and the first
one that does not keep them breaks that. -/
theorem sessions_respect_profiles (serde : ConfigSerde) (hserde : serde.Lawful)
    (ops : List ConfigOp) (config : ConfigState)
    (hrun : Transition.Runs (ConfigState.next serde) (ConfigState.Keeps serde) ops {} config) :
    ProfilesRespected config.state ∧
      ∀ op, ProfilesRespected (config.after serde op).state ↔ config.Keeps serde op := by
  have hrespected : ProfilesRespected config.state := by
    refine hrun.keeps (p := fun config => ProfilesRespected config.state) ?_ ?_
    · rintro config op _ h hkeeps ⟨⟩
      exact (after_respected_iff hserde h op).mpr hkeeps
    · refine ⟨?_, ?_, ?_, ?_⟩ <;> simp
  exact ⟨hrespected, after_respected_iff hserde hrespected⟩

end Respect

/-- A reading of the fields that the two requests have. -/
def plainSerde : ConfigSerde where
  profile body := .ok
    { id := ((body.get "id").bind (·.asStr)).getD ""
      sharedServiceIds :=
        (((body.get "sharedServiceIds").bind (·.asArray)).getD []).filterMap (·.asStr) }
  session body := .ok
    { id := ((body.get "id").bind (·.asStr)).getD ""
      serviceName := (body.get "serviceName").bind (·.asStr)
      profileId := (body.get "profileId").bind (·.asStr) }

theorem plainSerde_lawful : plainSerde.Lawful := by
  rintro body profile id ⟨⟩ hid
  simp [hid, JsonValue.asStr]

/-- The billing service's own profile and a session of the service in it. -/
def billingOps : List ConfigOp :=
  [.upsertProfile "work" (.object [("sharedServiceIds", .array [.string "Billing"])]),
    .upsertSession "s1" (.object
      [("profileId", .string "work"), ("serviceName", .string "Billing")])]

/-- The session goes before its profile does. -/
def closingOps : List ConfigOp := billingOps ++ [ConfigOp.deleteSession "s1", .deleteProfile "work"]

theorem sessions_respect_profiles_closed : ∃ config : ConfigState,
    Transition.Runs (ConfigState.next plainSerde) (ConfigState.Keeps plainSerde) closingOps {}
      config ∧ ProfilesRespected config.state := by
  have hrun : Transition.Runs (ConfigState.next plainSerde) (ConfigState.Keeps plainSerde)
      closingOps {} (closingOps.foldl (ConfigState.after plainSerde) {}) := by
    refine ⟨?_, _, rfl, ?_, _, rfl, ?_, _, rfl, ?_, _, rfl, rfl⟩ <;> decide
  exact ⟨_, hrun, (sessions_respect_profiles plainSerde plainSerde_lawful _ _ hrun).1⟩

/-- The profile of a session is deleted. -/
theorem session_without_profile : ¬∀ (serde : ConfigSerde), serde.Lawful →
    ∀ ops : List ConfigOp, ProfilesRespected (ops.foldl (ConfigState.after serde) {}).state := by
  intro h
  have hrespected := h plainSerde plainSerde_lawful (billingOps ++ [.deleteProfile "work"])
  have hruled := hrespected.ruled "s1"
    { id := "s1", serviceName := some "Billing", profileId := some "work",
      owner := .apiClient "Billing" } (by decide)
  revert hruled
  decide

end AgentBrowser
