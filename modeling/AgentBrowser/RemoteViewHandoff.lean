import AgentBrowser.Panics
import AgentBrowser.RecoveryIdentity
import AgentBrowser.RouteAcquisition
import AgentBrowser.ServiceStore

namespace AgentBrowser
open Panics
set_option autoImplicit true

structure RemoteViewHandoff where
  id : String
  state : String
  intent : JsonValue
  handoffUrl : Option String
  desiredUrl : Option String
  profileId : Option String
  browserId : Option String
  sessionName : Option String
  tabId : Option String
  targetId : Option String
  recoveryIdentity : Option RemoteViewRecoveryIdentity
  viewStreamProvider : Option ViewStreamProvider
  controlInput : Option ControlInputProvider
  lastRouteId : Option String
  lastRoutePoolEntryId : Option String
  lastDisplayAllocationId : Option String
  createdAt : Option String
  updatedAt : Option String
  lastResolvedAt : Option String
  lastResolution : Option JsonValue
  deriving DecidableEq, Repr

abbrev HandoffState : Type := StoredState RemoteViewHandoff

section Capture

/-- What a capture has to find before it looks at the tabs. -/
structure RecoveryEvidence where
  profileId : String
  targetId : String
  browser : BrowserProcess
  session : BrowserSession
  profile : BrowserProfile
  proof : JsonValue
  browserPid : Nat
  cdpEndpoint : String
  browserBuild : BrowserBuild
  executablePath : String
  executableSha256 : String
  processStartTicks : Nat

def recoveryEvidence (state : ServiceState) (browserId sessionName : String)
    (profileId targetId : Option String) : Option RecoveryEvidence := do
  let profileId ← profileId
  let targetId ← targetId
  let browser ← state.browsers[browserId]?
  let session ← state.sessions[sessionName]?
  let profile ← state.profiles[profileId]?
  let proof ← browser.browserBuildProof
  let browserPid ← browser.pid
  let cdpEndpoint ← browser.cdpEndpoint
  let browserBuild ← browser.browserBuild
  let executablePath ← browser.executablePath
  let executableSha256 ← proofText proof "executableSha256"
  let processStartTicks ← (proof.get "processStartTicks").bind (·.asNat)
  some
    { profileId, targetId, browser, session, profile, proof, browserPid, cdpEndpoint, browserBuild,
      executablePath, executableSha256, processStartTicks }

def matchingTabs (state : ServiceState) (targetId : String) : List BrowserTab :=
  (state.tabs.toList.map (·.2)).filter fun tab => tab.targetId = some targetId

/-- The first of these, which has to be there. -/
def indexFirst (items : List α) : Result ε α :=
  match items with
  | first :: _ => .ok first
  | [] => .panic

/-- The rows and the proof agree on the browser, the session and the tab. -/
def RecoveryEvidence.agrees (e : RecoveryEvidence) (browserId sessionName : String)
    (tab : BrowserTab) : Bool :=
  e.browser.health = .ready && e.browser.profileId = some e.profileId &&
    !e.profile.browserBuild.any (· ≠ e.browserBuild) && e.session.profileId = some e.profileId &&
    e.session.browserIds = [browserId] && e.session.lease ≠ .released &&
    e.session.lease ≠ .expired && e.browser.activeSessionIds.contains sessionName &&
    proofApplied e.proof && acceptedReason e.proof &&
    (e.proof.get "browserBuild").bind BrowserBuild.fromValue = some e.browserBuild &&
    proofText e.proof "profileId" = some e.profileId &&
    (e.proof.get "browserPid").bind (·.asNat) = some e.browserPid &&
    proofText e.proof "cdpEndpoint" = some e.cdpEndpoint &&
    proofText e.proof "executablePath" = some e.executablePath && tab.browserId = browserId &&
    tab.ownerSessionId = some sessionName && tab.lifecycle = .ready

def RecoveryEvidence.identity (e : RecoveryEvidence) (browserId sessionName : String)
    (tab : BrowserTab) : RemoteViewRecoveryIdentity :=
  { browserId, sessionName, profileId := e.profileId, browserPid := e.browserPid
    cdpEndpoint := e.cdpEndpoint, browserBuild := e.browserBuild
    executablePath := e.executablePath, executableSha256 := some e.executableSha256
    processStartTicks := e.processStartTicks, targetId := e.targetId, targetUrl := tab.url
    browserBuildProof := e.proof }

/-- The capture as it runs: the first tab is read before it is asked how many there are. -/
def captureRunning (state : ServiceState) (browserId sessionName : String)
    (profileId targetId : Option String) : Result Unit RemoteViewRecoveryIdentity := do
  let e ← .okOr (recoveryEvidence state browserId sessionName profileId targetId) ()
  let tabs := matchingTabs state e.targetId
  let first ← indexFirst tabs
  let tab ← .okOr (if tabs.length = 1 then some first else none) ()
  .ensure (e.agrees browserId sessionName tab) ()
  .ok (e.identity browserId sessionName tab)

end Capture

section Persist

structure PersistRemoteViewHandoffInput where
  handoffId : String
  handoffUrl : Option String
  intent : RemoteViewOpenIntent
  routeBinding : RemoteViewRouteBinding
  browserId : String
  sessionName : String
  tab : JsonValue
  observedAt : String

namespace PersistRemoteViewHandoffInput
variable (input : PersistRemoteViewHandoffInput)

def tabId : Option String :=
  (((input.tab.get "tabId").or (input.tab.get "id")).or
    ((input.tab.get "serviceTabHandle").bind (·.get "tabId"))).bind (·.asStr)

def targetId : Option String := (input.tab.get "targetId").bind (·.asStr)

def profileId : Option String :=
  ((((input.tab.get "profileId").or (input.tab.get "runtimeProfile")).bind (·.asStr)).or
    input.intent.runtimeProfile).or input.intent.profile

end PersistRemoteViewHandoffInput

def defaultControlInputProvider : ViewStreamProvider → Option ControlInputProvider
  | .cdpScreencast => some .cdpInput
  | .chromeTabWebrtc | .virtualDisplayWebrtc => some .webrtcInput
  | .novnc => some .vncInput
  | .rdpGateway | .externalUrl => some .manualAttachedDesktop

variable (toValue : RemoteViewOpenIntent → JsonValue)

/-- The record of a finished open. -/
def readyHandoff (input : PersistRemoteViewHandoffInput) (createdAt : Option String)
    (recoveryIdentity : Option RemoteViewRecoveryIdentity) : RemoteViewHandoff where
  id := input.handoffId
  state := "ready"
  intent := toValue input.intent
  handoffUrl := input.handoffUrl
  desiredUrl := input.intent.url
  profileId := input.profileId
  browserId := some input.browserId
  sessionName := some input.sessionName
  tabId := input.tabId
  targetId := input.targetId
  recoveryIdentity := recoveryIdentity
  viewStreamProvider := some input.intent.viewStreamProvider
  controlInput := defaultControlInputProvider input.intent.viewStreamProvider
  lastRouteId := some input.routeBinding.routeId
  lastRoutePoolEntryId := input.routeBinding.routePoolEntryId
  lastDisplayAllocationId := some input.routeBinding.displayAllocationId
  createdAt := createdAt
  updatedAt := some input.observedAt
  lastResolvedAt := some input.observedAt
  lastResolution := some (.ofFields
    [("status", .string "ready"), ("browserId", .string input.browserId),
      ("sessionName", .string input.sessionName),
      ("tabId", ((input.tab.get "tabId").or (input.tab.get "id")).getD .null),
      ("targetId", (input.tab.get "targetId").getD .null),
      ("routeId", .string input.routeBinding.routeId)])

/-- The open is recorded; a handoff keeps the time it was made at. -/
def persistRemoteViewHandoff (input : PersistRemoteViewHandoffInput) (stored : HandoffState) :
    Result String HandoffState :=
  let createdAt := (stored.remoteViewHandoffs[input.handoffId]?.bind (·.createdAt)).or
    (some input.observedAt)
  let record (recoveryIdentity : Option RemoteViewRecoveryIdentity) : HandoffState :=
    { stored with
      remoteViewHandoffs := stored.remoteViewHandoffs.insert input.handoffId
        (readyHandoff toValue input createdAt recoveryIdentity) }
  match captureRunning stored.state input.browserId input.sessionName input.profileId
    input.targetId with
  | .ok identity => .ok (record (some identity))
  | .err () => .ok (record none)
  | .panic => .panic

end Persist

/-- What a captured identity says of the rows. -/
structure CapturedFrom (state : ServiceState) (browserId sessionName : String)
    (profileId targetId : Option String) (identity : RemoteViewRecoveryIdentity) : Prop where
  names : identity.browserId = browserId ∧ identity.sessionName = sessionName ∧
    profileId = some identity.profileId ∧ targetId = some identity.targetId
  browser : ∃ browser, state.browsers[browserId]? = some browser ∧ browser.health = .ready ∧
    browser.profileId = some identity.profileId ∧ browser.pid = some identity.browserPid ∧
    browser.cdpEndpoint = some identity.cdpEndpoint ∧
    browser.browserBuild = some identity.browserBuild ∧
    browser.executablePath = some identity.executablePath ∧
    browser.browserBuildProof = some identity.browserBuildProof ∧
    sessionName ∈ browser.activeSessionIds
  session : ∃ session, state.sessions[sessionName]? = some session ∧
    session.profileId = some identity.profileId ∧ session.browserIds = [browserId] ∧
    session.lease ≠ .released ∧ session.lease ≠ .expired
  profile : ∃ profile, state.profiles[identity.profileId]? = some profile ∧
    ∀ build, profile.browserBuild = some build → build = identity.browserBuild
  digest : ∃ digest, identity.executableSha256 = some digest ∧
    proofText identity.browserBuildProof "executableSha256" = some digest
  ticks : (identity.browserBuildProof.get "processStartTicks").bind (·.asNat) =
    some identity.processStartTicks
  accepted : proofApplied identity.browserBuildProof = true ∧
    acceptedReason identity.browserBuildProof = true
  proof : (identity.browserBuildProof.get "browserBuild").bind BrowserBuild.fromValue =
      some identity.browserBuild ∧
    proofText identity.browserBuildProof "profileId" = some identity.profileId ∧
    (identity.browserBuildProof.get "browserPid").bind (·.asNat) = some identity.browserPid ∧
    proofText identity.browserBuildProof "cdpEndpoint" = some identity.cdpEndpoint ∧
    proofText identity.browserBuildProof "executablePath" = some identity.executablePath
  tab : ∃ tab, matchingTabs state identity.targetId = [tab] ∧ tab.browserId = browserId ∧
    tab.ownerSessionId = some sessionName ∧ tab.lifecycle = .ready ∧ identity.targetUrl = tab.url

section Captured
variable {state : ServiceState} {browserId sessionName : String}
  {profileId targetId : Option String}

theorem recoveryEvidence_eq_some {e : RecoveryEvidence} :
    recoveryEvidence state browserId sessionName profileId targetId = some e ↔
      profileId = some e.profileId ∧ targetId = some e.targetId ∧
      state.browsers[browserId]? = some e.browser ∧ state.sessions[sessionName]? = some e.session ∧
      state.profiles[e.profileId]? = some e.profile ∧
      e.browser.browserBuildProof = some e.proof ∧ e.browser.pid = some e.browserPid ∧
      e.browser.cdpEndpoint = some e.cdpEndpoint ∧
      e.browser.browserBuild = some e.browserBuild ∧
      e.browser.executablePath = some e.executablePath ∧
      proofText e.proof "executableSha256" = some e.executableSha256 ∧
      (e.proof.get "processStartTicks").bind (·.asNat) = some e.processStartTicks := by
  unfold recoveryEvidence
  constructor
  · intro h
    obtain ⟨_, hprofileId, h⟩ := Option.bind_eq_some_iff.mp h
    obtain ⟨_, htargetId, h⟩ := Option.bind_eq_some_iff.mp h
    obtain ⟨_, hbrowser, h⟩ := Option.bind_eq_some_iff.mp h
    obtain ⟨_, hsession, h⟩ := Option.bind_eq_some_iff.mp h
    obtain ⟨_, hprofile, h⟩ := Option.bind_eq_some_iff.mp h
    obtain ⟨_, hproof, h⟩ := Option.bind_eq_some_iff.mp h
    obtain ⟨_, hpid, h⟩ := Option.bind_eq_some_iff.mp h
    obtain ⟨_, hendpoint, h⟩ := Option.bind_eq_some_iff.mp h
    obtain ⟨_, hbuild, h⟩ := Option.bind_eq_some_iff.mp h
    obtain ⟨_, hpath, h⟩ := Option.bind_eq_some_iff.mp h
    obtain ⟨_, hdigest, h⟩ := Option.bind_eq_some_iff.mp h
    obtain ⟨_, hticks, h⟩ := Option.bind_eq_some_iff.mp h
    obtain rfl := Option.some.inj h
    exact ⟨hprofileId, htargetId, hbrowser, hsession, hprofile, hproof, hpid, hendpoint, hbuild,
      hpath, hdigest, hticks⟩
  · rintro ⟨rfl, rfl, hbrowser, hsession, hprofile, hproof, hpid, hendpoint, hbuild, hpath,
      hdigest, hticks⟩
    simp only [Option.bind_eq_bind, Option.bind_some, hbrowser, hsession, hprofile, hproof, hpid,
      hendpoint, hbuild, hpath, hdigest]
    rw [hticks]
    rfl

theorem indexFirst_one {tabs : List α} {a : α} :
    (if tabs.length = 1 then some a else none) = some tab ∧ tabs.head? = some a ↔
      tabs = [tab] ∧ a = tab := by
  cases tabs with
  | nil => simp
  | cons first rest =>
    cases rest with
    | nil =>
      simp only [List.length_singleton, if_true, Option.some.injEq, List.head?_cons,
        List.cons.injEq, and_true]
      constructor
      · rintro ⟨rfl, rfl⟩
        exact ⟨rfl, rfl⟩
      · rintro ⟨rfl, rfl⟩
        exact ⟨rfl, rfl⟩
    | cons second rest => simp

theorem allowsBuild {build : Option BrowserBuild} {expected : BrowserBuild} :
    (!build.any (· ≠ expected)) = true ↔ ∀ found, build = some found → found = expected := by
  cases build with
  | none => simp
  | some found => simp

theorem RecoveryEvidence.agrees_iff {e : RecoveryEvidence} {tab : BrowserTab} :
    e.agrees browserId sessionName tab = true ↔
      e.browser.health = .ready ∧ e.browser.profileId = some e.profileId ∧
      (∀ build, e.profile.browserBuild = some build → build = e.browserBuild) ∧
      (e.session.profileId = some e.profileId ∧ e.session.browserIds = [browserId] ∧
        e.session.lease ≠ .released ∧ e.session.lease ≠ .expired) ∧
      sessionName ∈ e.browser.activeSessionIds ∧
      (proofApplied e.proof = true ∧ acceptedReason e.proof = true) ∧
      ((e.proof.get "browserBuild").bind BrowserBuild.fromValue = some e.browserBuild ∧
        proofText e.proof "profileId" = some e.profileId ∧
        (e.proof.get "browserPid").bind (·.asNat) = some e.browserPid ∧
        proofText e.proof "cdpEndpoint" = some e.cdpEndpoint ∧
        proofText e.proof "executablePath" = some e.executablePath) ∧
      tab.browserId = browserId ∧ tab.ownerSessionId = some sessionName ∧
        tab.lifecycle = .ready := by
  simp only [agrees, Bool.and_eq_true, allowsBuild, decide_eq_true_eq, List.contains_iff_mem,
    and_assoc]

/-- A capture succeeds exactly on one tab of the target with all rows in agreement. -/
theorem captureRunning_eq_ok {identity : RemoteViewRecoveryIdentity} :
    captureRunning state browserId sessionName profileId targetId = .ok identity ↔
      CapturedFrom state browserId sessionName profileId targetId identity := by
  constructor
  · intro h
    obtain ⟨e, he, h⟩ := Result.bind_eq_ok.mp h
    obtain ⟨first, hfirst, h⟩ := Result.bind_eq_ok.mp h
    obtain ⟨tab, htab, h⟩ := Result.bind_eq_ok.mp h
    obtain ⟨_, hagrees, h⟩ := Result.bind_eq_ok.mp h
    obtain ⟨hprofileId, htargetId, hbrowser, hsession, hprofile, hproof, hpid, hendpoint, hbuild,
      hpath, hdigest, hticks⟩ := recoveryEvidence_eq_some.mp (Result.okOr_eq_ok.mp he)
    have hone : matchingTabs state e.targetId = [tab] := by
      have hhead : (matchingTabs state e.targetId).head? = some first := by
        cases htabs : matchingTabs state e.targetId with
        | nil =>
          rw [htabs] at hfirst
          cases hfirst
        | cons a rest =>
          rw [htabs] at hfirst
          cases hfirst
          rfl
      exact (indexFirst_one.mp ⟨Result.okOr_eq_ok.mp htab, hhead⟩).1
    obtain ⟨hhealth, hown, hbuilds, hsessionRow, hactive, haccepted, hproofs, htabBrowser,
      htabSession, htabReady⟩ := RecoveryEvidence.agrees_iff.mp (Result.ensure_eq_ok.mp hagrees)
    cases h
    exact ⟨⟨rfl, rfl, hprofileId, htargetId⟩,
      ⟨_, hbrowser, hhealth, hown, hpid, hendpoint, hbuild, hpath, hproof, hactive⟩,
      ⟨_, hsession, hsessionRow⟩, ⟨_, hprofile, hbuilds⟩, ⟨_, rfl, hdigest⟩, hticks, haccepted,
      hproofs, ⟨tab, hone, htabBrowser, htabSession, htabReady, rfl⟩⟩
  · rintro ⟨⟨rfl, rfl, hprofileId, htargetId⟩,
      ⟨browser, hbrowser, hhealth, hown, hpid, hendpoint, hbuild, hpath, hproof, hactive⟩,
      ⟨session, hsession, hsessionRow⟩, ⟨profile, hprofile, hbuilds⟩,
      ⟨digest, hidentity, hdigest⟩, hticks, haccepted, hproofs,
      ⟨tab, hone, htabBrowser, htabSession, htabReady, hurl⟩⟩
    let e : RecoveryEvidence :=
      { profileId := identity.profileId, targetId := identity.targetId, browser, session, profile
        proof := identity.browserBuildProof, browserPid := identity.browserPid
        cdpEndpoint := identity.cdpEndpoint, browserBuild := identity.browserBuild
        executablePath := identity.executablePath, executableSha256 := digest
        processStartTicks := identity.processStartTicks }
    have he : recoveryEvidence state identity.browserId identity.sessionName profileId targetId =
        some e :=
      recoveryEvidence_eq_some.mpr ⟨hprofileId, htargetId, hbrowser, hsession, hprofile, hproof,
        hpid, hendpoint, hbuild, hpath, hdigest, hticks⟩
    have hagrees : e.agrees identity.browserId identity.sessionName tab = true :=
      RecoveryEvidence.agrees_iff.mpr ⟨hhealth, hown, hbuilds, hsessionRow, hactive, haccepted,
        hproofs, htabBrowser, htabSession, htabReady⟩
    have hsame : e.identity identity.browserId identity.sessionName tab = identity := by
      simp only [RecoveryEvidence.identity, e, ← hurl, ← hidentity]
    refine Result.bind_eq_ok.mpr ⟨e, Result.okOr_eq_ok.mpr he, Result.bind_eq_ok.mpr ⟨tab, ?_,
      Result.bind_eq_ok.mpr ⟨tab, ?_, Result.bind_eq_ok.mpr ⟨(), ?_, congrArg _ hsame⟩⟩⟩⟩
    · rw [hone]
      rfl
    · rw [hone]
      rfl
    · exact Result.ensure_eq_ok.mpr hagrees

/-- A capture stops the program exactly if all evidence is there but for a tab of the target. -/
theorem captureRunning_eq_panic :
    captureRunning state browserId sessionName profileId targetId = .panic ↔
      ∃ e, recoveryEvidence state browserId sessionName profileId targetId = some e ∧
        matchingTabs state e.targetId = [] := by
  unfold captureRunning
  cases he : recoveryEvidence state browserId sessionName profileId targetId with
  | none => simp [Result.okOr]
  | some e =>
    simp only [Result.okOr, Result.ok_bind, Option.some.injEq, exists_eq_left']
    cases htabs : matchingTabs state e.targetId with
    | nil => simp [indexFirst]
    | cons first rest =>
      simp only [indexFirst, Result.ok_bind, reduceCtorEq, iff_false]
      cases hone : decide ((first :: rest).length = 1) with
      | true =>
        rw [if_pos (of_decide_eq_true hone), Result.ok_bind, Result.ensure]
        split <;> simp
      | false =>
        rw [if_neg (of_decide_eq_false hone)]
        simp

/-- Where the capture returns, it returns what it does without the early read. -/
theorem captureRemoteViewRecoveryIdentity_eq_some {identity : RemoteViewRecoveryIdentity} :
    captureRemoteViewRecoveryIdentity state browserId sessionName profileId targetId =
      some identity ↔
        captureRunning state browserId sessionName profileId targetId = .ok identity := by
  have hparts : captureRemoteViewRecoveryIdentity state browserId sessionName profileId targetId =
      (recoveryEvidence state browserId sessionName profileId targetId).bind fun e =>
        (if (matchingTabs state e.targetId).length = 1 then (matchingTabs state e.targetId).head?
          else none).bind fun tab =>
          (guard (e.agrees browserId sessionName tab = true) : Option Unit).bind fun _ =>
            some (e.identity browserId sessionName tab) := by
    unfold captureRemoteViewRecoveryIdentity recoveryEvidence
    -- the first half of the function is bound once for each piece of evidence
    iterate 12
      refine Eq.trans (congrArg (Option.bind _) (funext fun _ => ?_)) (Option.bind_assoc _ _ _).symm
    dsimp only [Option.bind_some]
    split
    · rename_i hone
      rw [if_pos (show (matchingTabs _ _).length = 1 from hone)]
      rfl
    · rename_i hmany
      rw [if_neg (show ¬(matchingTabs _ _).length = 1 from hmany)]
      rfl
  rw [hparts, captureRunning]
  cases recoveryEvidence state browserId sessionName profileId targetId with
  | none => simp [Result.okOr]
  | some e =>
    simp only [Option.bind_some, Result.okOr, Result.ok_bind]
    cases matchingTabs state e.targetId with
    | nil => simp [indexFirst]
    | cons first rest =>
      simp only [indexFirst, Result.ok_bind, List.head?_cons]
      split
      · simp only [Option.bind_some, Result.ok_bind, Result.ensure, guard]
        split <;> simp
      · simp

end Captured

section Recorded

/-- Everything is on record that the capture reads before the tabs. -/
structure EvidenceOnRecord (state : ServiceState) (browserId sessionName profileId : String) :
    Prop where
  browser : ∃ browser proof, state.browsers[browserId]? = some browser ∧
    browser.browserBuildProof = some proof ∧ browser.pid.isSome ∧ browser.cdpEndpoint.isSome ∧
    browser.browserBuild.isSome ∧ browser.executablePath.isSome ∧
    (proofText proof "executableSha256").isSome ∧
    ((proof.get "processStartTicks").bind (·.asNat)).isSome
  session : state.sessions[sessionName]?.isSome
  profile : state.profiles[profileId]?.isSome

def TargetHasTab (state : ServiceState) (targetId : String) : Prop :=
  ∃ id : String, ∃ tab : BrowserTab, state.tabs[id]? = some tab ∧ tab.targetId = some targetId

/-- The open is on record as ready, with an identity exactly where all rows bear it out. -/
def RecordedReady (toValue : RemoteViewOpenIntent → JsonValue) (stored : HandoffState)
    (input : PersistRemoteViewHandoffInput) : Prop :=
  ∃ after handoff, persistRemoteViewHandoff toValue input stored = .ok after ∧
    after.remoteViewHandoffs[input.handoffId]? = some handoff ∧ handoff.id = input.handoffId ∧
    handoff.state = "ready" ∧
    ∀ identity, handoff.recoveryIdentity = some identity ↔
      CapturedFrom stored.state input.browserId input.sessionName input.profileId input.targetId
        identity

variable {state : ServiceState} {browserId sessionName : String}

theorem evidenceOnRecord_iff {profileId : String} (targetId : String) :
    EvidenceOnRecord state browserId sessionName profileId ↔
      ∃ e, recoveryEvidence state browserId sessionName (some profileId) (some targetId) =
        some e := by
  constructor
  · rintro ⟨⟨browser, proof, hbrowser, hproof, hpid, hendpoint, hbuild, hpath, hdigest, hticks⟩,
      hsession, hprofile⟩
    obtain ⟨browserPid, hpid⟩ := Option.isSome_iff_exists.mp hpid
    obtain ⟨cdpEndpoint, hendpoint⟩ := Option.isSome_iff_exists.mp hendpoint
    obtain ⟨browserBuild, hbuild⟩ := Option.isSome_iff_exists.mp hbuild
    obtain ⟨executablePath, hpath⟩ := Option.isSome_iff_exists.mp hpath
    obtain ⟨executableSha256, hdigest⟩ := Option.isSome_iff_exists.mp hdigest
    obtain ⟨processStartTicks, hticks⟩ := Option.isSome_iff_exists.mp hticks
    obtain ⟨session, hsession⟩ := Option.isSome_iff_exists.mp hsession
    obtain ⟨profile, hprofile⟩ := Option.isSome_iff_exists.mp hprofile
    let e : RecoveryEvidence :=
      { profileId, targetId, browser, session, profile, proof, browserPid, cdpEndpoint
        browserBuild, executablePath, executableSha256, processStartTicks }
    exact ⟨e, recoveryEvidence_eq_some.mpr ⟨rfl, rfl, hbrowser, hsession, hprofile, hproof, hpid,
      hendpoint, hbuild, hpath, hdigest, hticks⟩⟩
  · rintro ⟨e, he⟩
    obtain ⟨hprofileId, _, hbrowser, hsession, hprofile, hproof, hpid, hendpoint, hbuild, hpath,
      hdigest, hticks⟩ := recoveryEvidence_eq_some.mp he
    obtain rfl := Option.some.inj hprofileId
    exact ⟨⟨_, _, hbrowser, hproof, Option.isSome_of_eq_some hpid,
        Option.isSome_of_eq_some hendpoint, Option.isSome_of_eq_some hbuild,
        Option.isSome_of_eq_some hpath, Option.isSome_of_eq_some hdigest,
        Option.isSome_of_eq_some hticks⟩,
      Option.isSome_of_eq_some hsession, Option.isSome_of_eq_some hprofile⟩

theorem matchingTabs_ne_nil {targetId : String} :
    matchingTabs state targetId ≠ [] ↔ TargetHasTab state targetId := by
  constructor
  · intro h
    obtain ⟨tab, hmem⟩ := List.exists_mem_of_ne_nil _ h
    obtain ⟨htab, htarget⟩ := List.mem_filter.mp hmem
    obtain ⟨⟨id, _⟩, hentry, rfl⟩ := List.mem_map.mp htab
    exact ⟨id, _, Std.ExtTreeMap.mem_toList_iff_getElem?_eq_some.mp hentry,
      of_decide_eq_true htarget⟩
  · rintro ⟨id, tab, htab, htarget⟩
    have hmem : tab ∈ matchingTabs state targetId :=
      List.mem_filter.mpr ⟨List.mem_map.mpr
        ⟨(id, tab), Std.ExtTreeMap.mem_toList_iff_getElem?_eq_some.mpr htab, rfl⟩,
        decide_eq_true htarget⟩
    exact List.ne_nil_of_mem hmem

/-- A capture returns exactly if the target has a tab, or some evidence is missing anyway. -/
theorem captureRunning_returns {profileId targetId : Option String} :
    (captureRunning state browserId sessionName profileId targetId).Returns ↔
      ∀ p t, profileId = some p → targetId = some t →
        EvidenceOnRecord state browserId sessionName p → TargetHasTab state t := by
  rw [Result.Returns, Ne, captureRunning_eq_panic]
  constructor
  · rintro h p t rfl rfl hevidence
    obtain ⟨e, he⟩ := (evidenceOnRecord_iff t).mp hevidence
    refine matchingTabs_ne_nil.mp fun hnone => h ⟨e, he, ?_⟩
    rw [← Option.some.inj (recoveryEvidence_eq_some.mp he).2.1]
    exact hnone
  · rintro h ⟨e, he, hnone⟩
    obtain ⟨hprofile, htarget, _⟩ := recoveryEvidence_eq_some.mp he
    have hevidence : EvidenceOnRecord state browserId sessionName e.profileId :=
      (evidenceOnRecord_iff e.targetId).mpr ⟨e, by rw [← hprofile, ← htarget]; exact he⟩
    exact matchingTabs_ne_nil.mpr (h _ _ hprofile htarget hevidence) hnone

end Recorded

section Law
variable {toValue : RemoteViewOpenIntent → JsonValue} {stored after : HandoffState}
  {input : PersistRemoteViewHandoffInput}

/-- What an open that returns has put on record. -/
theorem persistRemoteViewHandoff_ok
    (h : persistRemoteViewHandoff toValue input stored = .ok after) :
    ∃ createdAt recoveryIdentity,
      after = { stored with
        remoteViewHandoffs := stored.remoteViewHandoffs.insert input.handoffId
          (readyHandoff toValue input createdAt recoveryIdentity) } ∧
      ∀ identity, recoveryIdentity = some identity ↔
        CapturedFrom stored.state input.browserId input.sessionName input.profileId
          input.targetId identity := by
  unfold persistRemoteViewHandoff at h
  split at h
  · rename_i identity hcaptured
    refine ⟨_, some identity, (Result.ok.inj h).symm, fun other => ?_⟩
    rw [← captureRunning_eq_ok, hcaptured, Option.some.injEq, Result.ok.injEq]
  · rename_i hfailed
    refine ⟨_, none, (Result.ok.inj h).symm, fun other => ?_⟩
    rw [← captureRunning_eq_ok, hfailed]
    simp
  · cases h

theorem persistRemoteViewHandoff_panic :
    persistRemoteViewHandoff toValue input stored = .panic ↔
      captureRunning stored.state input.browserId input.sessionName input.profileId
        input.targetId = .panic := by
  unfold persistRemoteViewHandoff
  cases captureRunning stored.state input.browserId input.sessionName input.profileId
    input.targetId with
  | ok identity => simp
  | err e => simp
  | panic => simp

/-- A finished open is on record unless its target has no tab while all else is there. -/
theorem finished_open_recorded :
    RecordedReady toValue stored input ↔
      ∀ profileId targetId, input.profileId = some profileId → input.targetId = some targetId →
        EvidenceOnRecord stored.state input.browserId input.sessionName profileId →
          TargetHasTab stored.state targetId := by
  rw [← captureRunning_returns, Result.Returns, Ne, ← persistRemoteViewHandoff_panic]
  constructor
  · rintro ⟨after, _, hafter, _⟩ hpanic
    rw [hafter] at hpanic
    cases hpanic
  · intro hreturns
    cases hpersist : persistRemoteViewHandoff toValue input stored with
    | panic => exact absurd hpersist hreturns
    | err e =>
      unfold persistRemoteViewHandoff at hpersist
      split at hpersist <;> cases hpersist
    | ok after =>
      obtain ⟨createdAt, recoveryIdentity, rfl, hidentity⟩ := persistRemoteViewHandoff_ok hpersist
      exact ⟨_, _, hpersist, Std.ExtTreeMap.getElem?_insert_self, rfl, rfl, hidentity⟩

end Law

section Sample

def provenEndpoint : String := "ws://127.0.0.1:9222/devtools/browser/u"

def provenBrowser (pid : Nat) : BrowserProcess :=
  { id := "b", profileId := some "p", host := .localHeaded, health := .ready, pid := some pid
    cdpEndpoint := some provenEndpoint, browserBuild := some .stockChrome
    executablePath := some "/chrome", activeSessionIds := ["s"]
    browserBuildProof := some (.object
      [("applied", .bool true), ("browserBuild", .string "stock_chrome"),
        ("browserPid", .number pid), ("cdpEndpoint", .string provenEndpoint),
        ("executablePath", .string "/chrome"), ("executableSha256", .string "d1"),
        ("processStartTicks", .number 7), ("profileId", .string "p"),
        ("reason", .string "verified_external_byop_process")]) }

def provenRows (pid : Nat) : ServiceState :=
  { browsers := (∅ : BTreeMap BrowserProcess).insert "b" (provenBrowser pid)
    sessions := (∅ : BTreeMap BrowserSession).insert "s"
      { id := "s", lease := .exclusive, profileId := some "p", browserIds := ["b"] }
    profiles := (∅ : BTreeMap BrowserProfile).insert "p" { id := "p" } }

/-- The browser and its session are on record, and its tab is not yet. -/
def beforeTab : HandoffState where
  state := provenRows 10

def plainBinding : RemoteViewRouteBinding where
  routeId := "r"
  routePoolEntryId := none
  displayAllocationId := "d"
  routePoolEntryState := none
  currentRouteAllocationId := none
  displayName := none
  launchDisplayName := none
  displayIsolation := "private_virtual_display"
  routeUser := none
  displayAccess := none
  provider := .rdpGateway
  providerMode := "direct"
  connectionId := none
  connectionName := none
  frameUrl := none
  externalUrl := none
  routeDescriptor := none
  readiness := none

def sampleInput : PersistRemoteViewHandoffInput where
  handoffId := "h"
  handoffUrl := none
  intent := { runtimeProfile := some "p" }
  routeBinding := plainBinding
  browserId := "b"
  sessionName := "s"
  tab := .object [("targetId", .string "t")]
  observedAt := "2026-01-01T00:00:00Z"

theorem tab_not_recorded_yet :
    ¬ ∀ toValue stored input, RecordedReady toValue stored input := by
  intro h
  obtain ⟨after, _, hafter, _⟩ := h (fun _ => .null) beforeTab sampleInput
  have hpanic : persistRemoteViewHandoff (fun _ => .null) sampleInput beforeTab = .panic := by
    rw [persistRemoteViewHandoff_panic]
    decide
  rw [hpanic] at hafter
  cases hafter

end Sample

end AgentBrowser
