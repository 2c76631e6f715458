import AgentBrowser.OwnershipReferences
import AgentBrowser.ServiceIncidents

namespace AgentBrowser
set_option autoImplicit true

structure ProfileLeaseTelemetry where
  disposition : ProfileLeaseDisposition
  conflictSessionIds : List String
  deriving DecidableEq, Repr

structure BrowserSummary where
  browserId : String := ""
  host : BrowserHost := .localHeaded
  health : BrowserHealth := .notStarted
  pid : Option Nat := none
  hasCdpEndpoint : Bool := false
  activeSessionIds : List String := []
  deriving DecidableEq, Repr

/-- What an operator sees of a profile's use. -/
structure ServiceProfileAllocation where
  profileId : String
  profileName : String
  profileOrigin : ProfileOrigin
  profileClass : ProfileClass
  allocation : ProfileAllocationPolicy
  keyring : ProfileKeyringPolicy
  browserBuild : Option BrowserBuild
  targetServiceIds : List String
  authenticatedServiceIds : List String
  accountIds : List String
  targetReadiness : List ProfileTargetReadiness
  sharedServiceIds : List String
  holderSessionIds : List String
  holderCount : Nat
  exclusiveHolderSessionIds : List String
  waitingJobIds : List String
  waitingJobCount : Nat
  conflictSessionIds : List String
  leaseState : String
  recommendedAction : String
  serviceNames : List String
  agentNames : List String
  taskNames : List String
  browserIds : List String
  browserSummaries : List BrowserSummary
  tabIds : List String
  deriving DecidableEq, Repr

def profileAllocationLeaseState (hasHolders hasExclusiveHolders hasWaitingJobs : Bool) : String :=
  match hasHolders, hasExclusiveHolders, hasWaitingJobs with
  | _, true, true => "conflicted"
  | _, _, true => "waiting"
  | _, true, false => "exclusive"
  | true, false, false => "shared"
  | false, false, false => "available"

def profileAllocationRecommendedAction (leaseState : String) : String :=
  if leaseState = "conflicted" then "release_holder_or_redirect_waiting_jobs"
  else if leaseState = "waiting" then "inspect_waiting_jobs"
  else if leaseState = "exclusive" then "reuse_holder_or_release_profile"
  else if leaseState = "shared" then "shared_profile_in_use"
  else "available"

def waitingProfileLeaseProfileId (job : ServiceJob) : Option String :=
  ((job.result.bind (·.get "profileId")).bind (·.asStr)).filter (· ≠ "")

def waitingProfileLeaseConflictSessionIds (job : ServiceJob) : List String :=
  match job.result.bind (·.get "conflictSessionIds") with
  | some (.array conflicts) => (conflicts.filterMap (·.asStr)).filter (· ≠ "")
  | _ => []

/-- The trimmed values that are not blank. -/
def nonEmptyValues (values : List (Option String)) : List String :=
  (values.filterMap fun value => value.map trim).filter (· ≠ "")

def BrowserProcess.summary (browser : BrowserProcess) : BrowserSummary where
  browserId := browser.id
  host := browser.host
  health := browser.health
  pid := browser.pid
  hasCdpEndpoint := browser.cdpEndpoint.any (· ≠ "")
  activeSessionIds := sortedSet browser.activeSessionIds

section Views
variable (state : ServiceState) (sessionId profileId : String)

def currentOwnedBrowserIds : List String :=
  (state.browsers.toList.filter fun entry =>
    entry.2.profileId = some profileId && entry.2.activeSessionIds.contains sessionId).map (·.1)

/-- The session uses a browser of the profile that the requesting session owns. -/
def BrowserSession.sharesOwned (session : BrowserSession) : Bool :=
  session.browserIds.any fun browserId =>
    (currentOwnedBrowserIds state sessionId profileId).contains browserId

def BrowserSession.leaseConflict (session : BrowserSession) : Bool :=
  session.profileId = some profileId && session.lease = .exclusive &&
    !session.sharesOwned state sessionId profileId

def profileLeaseTelemetry : ProfileLeaseTelemetry :=
  let conflicts := state.sessions.toList.filter fun entry =>
    entry.1 ≠ sessionId && entry.2.leaseConflict state sessionId profileId
  let conflictSessionIds := sortedSet (conflicts.map (·.1))
  { conflictSessionIds
    disposition :=
      if !conflictSessionIds.isEmpty then .activeLeaseConflict
      else if !(currentOwnedBrowserIds state sessionId profileId).isEmpty then .reusedBrowser
      else .newBrowser }

end Views

section Allocation
variable (state : ServiceState) (profileId : String)

def holdingSessions : List BrowserSession :=
  (state.sessions.toList.map (·.2)).filter fun session =>
    session.profileId = some profileId && !session.lease.inactive

def BrowserSession.holdsExclusively (session : BrowserSession) : Bool :=
  session.lease = .exclusive || session.lease = .humanTakeover

def hostingBrowsers : List BrowserProcess :=
  (state.browsers.toList.map (·.2)).filter fun browser => browser.profileId = some profileId

def waitingJobs : List ServiceJob :=
  (state.jobs.toList.map (·.2)).filter fun job =>
    job.state = .waitingProfileLease && waitingProfileLeaseProfileId job = some profileId

def BrowserTab.referencesProfile (tab : BrowserTab) : Bool :=
  let names (sessionId : Option String) :=
    (sessionId.bind (state.sessions[·]?)).bind (·.profileId) = some profileId
  names tab.sessionId || names tab.ownerSessionId

def serviceProfileAllocation : ServiceProfileAllocation :=
  let profile := state.profiles[profileId]?
  let sessions := holdingSessions state profileId
  let browsers := hostingBrowsers state profileId
  let tabs := (state.tabs.toList.map (·.2)).filter (·.referencesProfile state profileId)
  let jobs := waitingJobs state profileId
  let holderSessionIds := sortedSet <| sessions.map (·.id) ++
    nonEmptyValues (browsers.flatMap fun browser => browser.activeSessionIds.map some)
  let exclusiveHolderSessionIds := sortedSet ((sessions.filter (·.holdsExclusively)).map (·.id))
  let waitingJobIds := sortedSet (nonEmptyValues (jobs.map fun job => some job.id))
  let leaseState := profileAllocationLeaseState (!holderSessionIds.isEmpty)
    (!exclusiveHolderSessionIds.isEmpty) (!waitingJobIds.isEmpty)
  { profileId
    profileName := ((profile.map (·.name)).filter (· ≠ "")).getD profileId
    profileOrigin := (profile.map (·.profileOrigin)).getD .agentBrowserOwned
    profileClass := (profile.map (·.profileClass)).getD .durableNamed
    allocation := (profile.map (·.allocation)).getD .sharedService
    keyring := (profile.map (·.keyring)).getD .basicPasswordStore
    browserBuild := profile.bind (·.browserBuild)
    targetServiceIds := (profile.map fun profile => sortedSet profile.targetServiceIds).getD []
    authenticatedServiceIds :=
      (profile.map fun profile => sortedSet profile.authenticatedServiceIds).getD []
    accountIds := (profile.map fun profile => sortedSet profile.accountIds).getD []
    targetReadiness := (profile.map (·.targetReadiness)).getD []
    sharedServiceIds := (profile.map fun profile => sortedSet profile.sharedServiceIds).getD []
    holderSessionIds
    holderCount := holderSessionIds.length
    exclusiveHolderSessionIds
    waitingJobIds
    waitingJobCount := waitingJobIds.length
    conflictSessionIds := sortedSet <| nonEmptyValues <|
      (sessions.flatMap fun session => session.profileLeaseConflictSessionIds.map some) ++
        jobs.flatMap fun job => (waitingProfileLeaseConflictSessionIds job).map some
    leaseState
    recommendedAction := profileAllocationRecommendedAction leaseState
    serviceNames := sortedSet <| nonEmptyValues <|
      sessions.map (·.serviceName) ++ jobs.map (·.serviceName)
    agentNames := sortedSet <| nonEmptyValues <| sessions.map (·.agentName) ++ jobs.map (·.agentName)
    taskNames := sortedSet <| nonEmptyValues <| sessions.map (·.taskName) ++ jobs.map (·.taskName)
    browserIds := sortedSet <| nonEmptyValues <|
      (sessions.flatMap fun session => session.browserIds.map some) ++
        browsers.map fun browser => some browser.id
    browserSummaries := (browsers.foldl (fun summaries browser =>
      summaries.insert browser.id browser.summary) (∅ : BTreeMap BrowserSummary)).toList.map (·.2)
    tabIds := sortedSet <| nonEmptyValues <|
      (sessions.flatMap fun session => session.tabIds.map some) ++
        tabs.map fun tab => some tab.id }

end Allocation

/-- The profiles that a record names. -/
def allocatedProfileIds (state : ServiceState) : List String :=
  let named := (state.sessions.toList.filterMap fun entry => entry.2.profileId) ++
    state.browsers.toList.filterMap fun entry => entry.2.profileId
  let waiting := state.jobs.toList.filterMap fun entry =>
    if entry.2.state = .waitingProfileLease then waitingProfileLeaseProfileId entry.2 else none
  sortedSet (state.profiles.keys ++ named.filter (· ≠ "") ++ waiting)

def serviceProfileAllocations (state : ServiceState) : List ServiceProfileAllocation :=
  (allocatedProfileIds state).map (serviceProfileAllocation state)

section Agreement
variable {state : ServiceState} {sessionId profileId key : String} {session : BrowserSession}

/-- The operators' view lists the session as an exclusive holder of the profile. -/
def ExclusiveHolder (state : ServiceState) (profileId holder : String) : Prop :=
  ∃ view ∈ serviceProfileAllocations state, view.profileId = profileId ∧
    holder ∈ view.exclusiveHolderSessionIds

/-- The launch gate and the operators' view agree on who holds the profile. -/
def OwnershipViewsAgree (state : ServiceState) (sessionId profileId : String) : Prop :=
  let conflicts := (profileLeaseTelemetry state sessionId profileId).conflictSessionIds
  (conflicts = [] → ∀ holder, ExclusiveHolder state profileId holder → holder ≠ sessionId →
    ∃ session, state.sessions[holder]? = some session ∧
      session.sharesOwned state sessionId profileId = true) ∧
  ∀ conflict ∈ conflicts, ExclusiveHolder state profileId conflict

/-- Profiles without a record are listed by name, so the empty name needs a record. -/
def ProfileListed (state : ServiceState) (profileId : String) : Prop :=
  profileId ≠ "" ∨ profileId ∈ state.profiles

/-- The session is stored under the key, and holds the profile for itself. -/
def HoldsProfile (state : ServiceState) (profileId key : String) (session : BrowserSession) :
    Prop :=
  state.sessions[key]? = some session ∧ session.profileId = some profileId ∧
    session.holdsExclusively = true

/-- An exclusive session of another key that shares no browser with the requesting one. -/
def BlocksLaunch (state : ServiceState) (sessionId profileId key : String)
    (session : BrowserSession) : Prop :=
  key ≠ sessionId ∧ HoldsProfile state profileId key session ∧ session.lease = .exclusive ∧
    session.sharesOwned state sessionId profileId = false

/-- What the records must be like for the views to agree. -/
structure OwnershipRecordsFit (state : ServiceState) (sessionId profileId : String) : Prop where
  /-- A session that blocks the launch is stored under an id that a holder has. -/
  blocking : ∀ key session, BlocksLaunch state sessionId profileId key session →
    ProfileListed state profileId ∧
      ∃ otherKey other, HoldsProfile state profileId otherKey other ∧ other.id = key
  /-- With no such session, a human takeover shares a browser with the requesting session, and
  so does what is stored under the id of a session with another key. -/
  takeover : (∀ key session, ¬ BlocksLaunch state sessionId profileId key session) →
    ProfileListed state profileId → ∀ key session, HoldsProfile state profileId key session →
      session.lease = .humanTakeover ∨ session.id ≠ key → session.id ≠ sessionId →
        ∃ other, state.sessions[session.id]? = some other ∧
          other.sharesOwned state sessionId profileId = true

theorem mem_conflictSessionIds :
    key ∈ (profileLeaseTelemetry state sessionId profileId).conflictSessionIds ↔
      ∃ session, BlocksLaunch state sessionId profileId key session := by
  simp only [profileLeaseTelemetry, mem_sortedSet, List.mem_map, List.mem_filter, Prod.exists,
    Std.ExtTreeMap.mem_toList_iff_getElem?_eq_some, BrowserSession.leaseConflict, BlocksLaunch,
    HoldsProfile, BrowserSession.holdsExclusively]
  constructor
  · rintro ⟨key, session, ⟨hstored, hfilter⟩, rfl⟩
    simp only [Bool.and_eq_true, decide_eq_true_eq, Bool.not_eq_true'] at hfilter
    obtain ⟨hother, ⟨hprofile, hlease⟩, hshares⟩ := hfilter
    exact ⟨session, hother, ⟨hstored, hprofile, by simp [hlease]⟩, hlease, hshares⟩
  · rintro ⟨session, hother, ⟨hstored, hprofile, _⟩, hlease, hshares⟩
    exact ⟨key, session, ⟨hstored, by simp [hother, hprofile, hlease, hshares]⟩, rfl⟩

theorem mem_allocatedProfileIds_of_session (hstored : state.sessions[key]? = some session)
    (hprofile : session.profileId = some profileId) :
    profileId ∈ allocatedProfileIds state ↔ ProfileListed state profileId := by
  have hwaiting (job : ServiceJob) : waitingProfileLeaseProfileId job = some profileId →
      profileId ≠ "" := by
    intro hjob
    simpa using (Option.mem_filter_iff.mp hjob).2
  simp only [allocatedProfileIds, mem_sortedSet, List.mem_append, ProfileListed]
  constructor
  · rintro ((hrecord | hnamed) | hjob)
    · exact .inr (Std.ExtTreeMap.mem_keys.mp hrecord)
    · exact .inl (by simpa using (List.mem_filter.mp hnamed).2)
    · obtain ⟨entry, _, hjob⟩ := List.mem_filterMap.mp hjob
      split at hjob
      · exact .inl (hwaiting entry.2 hjob)
      · cases hjob
  · rintro (hname | hrecord)
    · refine .inl (.inr (List.mem_filter.mpr ⟨List.mem_append_left _ ?_, by simpa using hname⟩))
      exact List.mem_filterMap.mpr ⟨(key, session),
        Std.ExtTreeMap.mem_toList_iff_getElem?_eq_some.mpr hstored, hprofile⟩
    · exact .inl (.inl (Std.ExtTreeMap.mem_keys.mpr hrecord))

theorem exclusiveHolder_iff : ExclusiveHolder state profileId holder ↔
    ProfileListed state profileId ∧
      ∃ key session, HoldsProfile state profileId key session ∧ session.id = holder := by
  have hholders : holder ∈ (serviceProfileAllocation state profileId).exclusiveHolderSessionIds ↔
      ∃ key session, HoldsProfile state profileId key session ∧ session.id = holder := by
    simp only [serviceProfileAllocation, mem_sortedSet, List.mem_map, List.mem_filter,
      holdingSessions, Prod.exists, Std.ExtTreeMap.mem_toList_iff_getElem?_eq_some, HoldsProfile,
      Bool.and_eq_true, decide_eq_true_eq, Bool.not_eq_true']
    constructor
    · rintro ⟨session, ⟨⟨⟨key, _, hstored, rfl⟩, hprofile, _⟩, hholds⟩, rfl⟩
      exact ⟨key, _, ⟨hstored, hprofile, hholds⟩, rfl⟩
    · rintro ⟨key, session, ⟨hstored, hprofile, hholds⟩, rfl⟩
      refine ⟨session, ⟨⟨⟨key, session, hstored, rfl⟩, hprofile, ?_⟩, hholds⟩, rfl⟩
      revert hholds
      cases hlease : session.lease <;>
        simp [BrowserSession.holdsExclusively, LeaseState.inactive, hlease]
  simp only [ExclusiveHolder, serviceProfileAllocations, List.mem_map]
  constructor
  · rintro ⟨_, ⟨id, hlisted, rfl⟩, rfl, hholder⟩
    obtain ⟨key, session, hholds, hid⟩ := hholders.mp hholder
    exact ⟨(mem_allocatedProfileIds_of_session hholds.1 hholds.2.1).mp hlisted,
      key, session, hholds, hid⟩
  · rintro ⟨hlisted, key, session, hholds, hid⟩
    exact ⟨_, ⟨profileId, (mem_allocatedProfileIds_of_session hholds.1 hholds.2.1).mpr hlisted,
      rfl⟩, rfl, hholders.mpr ⟨key, session, hholds, hid⟩⟩

/-- An exclusive session of another key shares a browser, or else it blocks the launch. -/
theorem HoldsProfile.shares (h : HoldsProfile state profileId key session)
    (hfree : ∀ key session, ¬ BlocksLaunch state sessionId profileId key session)
    (hother : key ≠ sessionId) (hlease : session.lease ≠ .humanTakeover) :
    session.sharesOwned state sessionId profileId = true := by
  have hexclusive : session.lease = .exclusive := by
    have hholds := h.2.2
    simp only [BrowserSession.holdsExclusively, Bool.or_eq_true, decide_eq_true_eq] at hholds
    exact hholds.resolve_right hlease
  by_contra hshares
  exact hfree key session ⟨hother, h, hexclusive, Bool.eq_false_iff.mpr hshares⟩

/-- The views agree exactly if the records fit. -/
theorem ownershipViewsAgree_iff (state : ServiceState) (sessionId profileId : String) :
    OwnershipViewsAgree state sessionId profileId ↔
      OwnershipRecordsFit state sessionId profileId := by
  have hfree : (profileLeaseTelemetry state sessionId profileId).conflictSessionIds = [] ↔
      ∀ key session, ¬ BlocksLaunch state sessionId profileId key session := by
    simp only [List.eq_nil_iff_forall_not_mem, mem_conflictSessionIds, not_exists]
  unfold OwnershipViewsAgree
  dsimp only
  rw [hfree]
  constructor
  · rintro ⟨hshared, hconflicts⟩
    constructor
    · intro key session hblocks
      exact exclusiveHolder_iff.mp (hconflicts key (mem_conflictSessionIds.mpr ⟨session, hblocks⟩))
    · intro hnone hlisted key session hholds _ hother
      exact hshared hnone session.id (exclusiveHolder_iff.mpr ⟨hlisted, key, session, hholds, rfl⟩)
        hother
  · rintro ⟨hblocking, htakeover⟩
    constructor
    · intro hnone holder hholder hother
      obtain ⟨hlisted, key, session, hholds, rfl⟩ := exclusiveHolder_iff.mp hholder
      by_cases hplain : session.lease = .humanTakeover ∨ session.id ≠ key
      · exact htakeover hnone hlisted key session hholds hplain hother
      · rw [not_or, not_not] at hplain
        have hkey : state.sessions[session.id]? = some session := hplain.2 ▸ hholds.1
        exact ⟨session, hkey, hholds.shares hnone (hplain.2 ▸ hother) hplain.1⟩
    · intro key hconflict
      obtain ⟨session, hblocks⟩ := mem_conflictSessionIds.mp hconflict
      exact exclusiveHolder_iff.mpr (hblocking key session hblocks)

/-- A person took over the only browser of the profile. -/
def takenOver : ServiceState where
  sessions := (∅ : BTreeMap BrowserSession).insert "person"
    { id := "person", lease := .humanTakeover, profileId := some "work" }

/-- The launch gate does not see a person who took over. -/
theorem ownershipViews_disagree :
    ¬ ∀ (state : ServiceState) (sessionId profileId : String),
      OwnershipViewsAgree state sessionId profileId := by
  intro h
  have hviews := h takenOver "agent" "work"
  have hconflicts : (profileLeaseTelemetry takenOver "agent" "work").conflictSessionIds = [] := by
    decide
  have hholder : ExclusiveHolder takenOver "work" "person" := by
    exact ⟨serviceProfileAllocation takenOver "work", by decide, rfl, by decide⟩
  obtain ⟨session, hstored, hshares⟩ := hviews.1 hconflicts "person" hholder (by decide)
  have hsession : takenOver.sessions["person"]? = some
      { id := "person", lease := .humanTakeover, profileId := some "work" } := by decide
  rw [hsession] at hstored
  cases hstored
  exact absurd hshares (by decide)

end Agreement

end AgentBrowser
