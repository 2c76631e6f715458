import AgentBrowser.RuntimeAttachProof

namespace AgentBrowser
set_option autoImplicit true

structure ServiceLaunchMetadata where
  profileId : Option String := none
  userDataDir : Option String := none
  browserCapabilityLaunch : Option JsonValue := none

/-- A build as it is deserialized. -/
def BrowserBuild.fromValue (value : JsonValue) : Option BrowserBuild :=
  let name :=
    match value with
    | .string name => some name
    | .object [(name, .null)] => some name
    | _ => none
  match name with
  | some "stock_chrome" => some .stockChrome
  | some "stealthcdp_chromium" => some .stealthcdpChromium
  | some "cdp_free_headed" => some .cdpFreeHeaded
  | _ => none

def proofText (proof : JsonValue) (field : String) : Option String :=
  (proof.get field).bind (·.asStr)

def proofApplied (proof : JsonValue) : Bool := proof.get "applied" = some (.bool true)

/-- The proof of a process that was verified. -/
def verifiedProof (runtimeProfile : String) (pid : Nat) (endpoint : String)
    (verified : VerifiedProcess) : JsonValue :=
  .object
    [("applied", .bool true), ("browserBuild", .string "stock_chrome"),
      ("browserPid", .number pid), ("cdpEndpoint", .string endpoint),
      ("executablePath", .string verified.executable),
      ("processStartTicks", .number verified.startTicks), ("profileId", .string runtimeProfile),
      ("reason", .string "verified_installed_chrome_runtime_attach"),
      ("userDataDir", .string verified.profile)]

section Minting
variable (ev : ProcessEvidence) (procRoot : String)

/-- The attached process with its pid and its endpoint, observed anew. -/
def observeAttached (metadata : ServiceLaunchMetadata) (runtimeProfile : String) (pid : Option Nat)
    (endpoint selectedPath : Option String) : Except String (Nat × String × VerifiedProcess) := do
  refuseIf (metadata.profileId ≠ some runtimeProfile) "profile_mismatch"
  let read ← orRefuse (ev.runtimeState runtimeProfile) "runtime_state_unreadable"
  let runtime ← orRefuse read "runtime_state_missing"
  let processPid ← orRefuse pid "pid_missing"
  let installed ← installedChromeForProcess ev processPid procRoot
  let endpoint ← orRefuse endpoint "endpoint_missing"
  let userDataDir ← orRefuse metadata.userDataDir "profile_path_missing"
  let verified ← verify ev runtime runtimeProfile processPid endpoint userDataDir installed procRoot
  checkSome selectedPath fun selected =>
    refuseIf (ev.canonicalize selected ≠ some verified.executable) "selected_executable_mismatch"
  refuseIf ((ev.runtimeState runtimeProfile).join ≠ some runtime) "runtime_state_changed"
  .ok (processPid, endpoint, verified)

/-- The proof of an externally owned browser, which has its own verification. -/
def externallyProven (proof : JsonValue) : Bool :=
  proofText proof "reason" = some "verified_external_byop_process" ||
    proofText proof "reason" = some "verified_registered_runtime_attach_process"

def attachEligible (proof : JsonValue) : Bool :=
  proof.get "browserBuild" = some (.string "stock_chrome") &&
    (proofApplied proof ||
      (proofText proof "reason").any
        ["no_matching_preference_binding", "explicit_executable_path",
          "managed_runtime_attach_unverified"].contains)

def applyWithProcRoot (metadata : ServiceLaunchMetadata) (runtimeProfile : String)
    (pid : Option Nat) (endpoint : Option String) : ServiceLaunchMetadata :=
  match metadata.browserCapabilityLaunch with
  | none => metadata
  | some proof =>
    if externallyProven proof || !attachEligible proof then metadata
    else
      let unproven :=
        if proofApplied proof then
          (proof.set "applied" (.bool false)).set "reason"
            (.string "managed_runtime_attach_unverified")
        else proof
      let observed := observeAttached ev procRoot metadata runtimeProfile pid endpoint
        (proofText proof "executablePath")
      let proof :=
        match observed with
        | .ok (pid, endpoint, verified) => verifiedProof runtimeProfile pid endpoint verified
        | .error reason =>
          ((unproven.set "applied" (.bool false)).set "reason"
            (.string "managed_runtime_attach_unverified")).set "verificationReason"
              (.string reason)
      { metadata with browserCapabilityLaunch := some proof }

/-- The browser whose proof is refreshed and the proof that is stored for it. -/
def refreshedProof (state : ServiceState) (sessionId runtimeProfile : String) (pid : Option Nat)
    (endpoint : Option String) : Option (String × JsonValue) := do
  let session ← state.sessions[sessionId]?
  guard (session.profileId = some runtimeProfile && session.browserIds.length = 1)
  let browserId ← session.browserIds.head?
  let browser ← state.browsers[browserId]?
  guard (pid.isSome && endpoint.isSome && browser.pid = pid && browser.cdpEndpoint = endpoint &&
    browser.profileId = some runtimeProfile && browser.activeSessionIds.contains sessionId)
  let metadata : ServiceLaunchMetadata :=
    { profileId := session.profileId
      userDataDir := state.profiles[runtimeProfile]?.bind (·.userDataDir)
      browserCapabilityLaunch := session.browserCapabilityLaunch }
  let proof ← (applyWithProcRoot ev procRoot metadata runtimeProfile pid endpoint
    ).browserCapabilityLaunch
  guard (proof.get "browserBuild" = some (.string "stock_chrome") &&
    (proofText proof "reason").any
      ["verified_installed_chrome_runtime_attach", "managed_runtime_attach_unverified"].contains)
  some (browserId, proof)

def BrowserProcess.withProof (browser : BrowserProcess) (proof : JsonValue) : BrowserProcess :=
  { browser with
    browserBuild :=
      if proofApplied proof then (proof.get "browserBuild").bind BrowserBuild.fromValue else none
    executablePath := if proofApplied proof then proofText proof "executablePath" else none
    browserBuildProof := some proof }

def refreshRetainedWithProcRoot (state : ServiceState) (sessionId runtimeProfile : String)
    (pid : Option Nat) (endpoint : Option String) : ServiceState :=
  match refreshedProof ev procRoot state sessionId runtimeProfile pid endpoint with
  | none => state
  | some (browserId, proof) =>
    { state with
      browsers := state.browsers.modify browserId (·.withProof proof)
      sessions := state.sessions.modify sessionId fun session =>
        { session with browserCapabilityLaunch := some proof } }

end Minting

/-- The reasons that a reader of a proof accepts. -/
def acceptedReason (proof : JsonValue) : Bool :=
  (proofText proof "reason").any
    ["verified_external_byop_process", "verified_registered_runtime_attach_process",
      "verified_installed_chrome_runtime_attach"].contains

/-- A proof that was persisted, against the process as it is. -/
def verifyPersistedRetainedProcess (ev : ProcessEvidence) (browser : BrowserProcess)
    (profile : BrowserProfile) (expectedPid : Nat) (expectedEndpoint : String) :
    Except String Nat := do
  let proof ← orRefuse browser.browserBuildProof "build_proof_missing"
  let profilePath ← orRefuse profile.userDataDir "profile_path_missing"
  let executable ← orRefuse browser.executablePath "executable_path_missing"
  let expectedStartTicks ← orRefuse ((proof.get "processStartTicks").bind (·.asNat))
    "process_start_missing"
  let browserBuild ← orRefuse browser.browserBuild "browser_build_missing"
  let expectedSha256 := (proofText proof "executableSha256").filter (·.utf8ByteSize = 64)
  refuseIf (browserBuild ≠ .stockChrome && expectedSha256 = none) "executable_digest_missing"
  refuseIf (!proofApplied proof || !acceptedReason proof ||
      (proof.get "browserBuild").bind BrowserBuild.fromValue ≠ some browserBuild ||
      profile.browserBuild.any (· ≠ browserBuild) ||
      !([BrowserHost.localHeaded, .remoteHeaded, .attachedExisting].contains browser.host) ||
      browser.pid ≠ some expectedPid || browser.cdpEndpoint ≠ some expectedEndpoint ||
      browser.profileId ≠ some profile.id || proofText proof "profileId" ≠ some profile.id ||
      (proof.get "browserPid").bind (·.asNat) ≠ some expectedPid ||
      proofText proof "cdpEndpoint" ≠ some expectedEndpoint ||
      proofText proof "userDataDir" ≠ some profilePath ||
      proofText proof "executablePath" ≠ some executable)
    "persisted_proof_mismatch"
  checkSome expectedSha256 fun expected => do
    let digest ← orRefuse (ev.fileSha256 executable) "executable_unreadable"
    refuseIf (digest ≠ expected) "executable_digest_mismatch"
  let observed ← verifyExternalByopProcess ev expectedPid expectedEndpoint profilePath executable
    "/proc"
  refuseIf (observed ≠ expectedStartTicks) "process_start_mismatch"
  .ok observed

structure RemoteViewRecoveryIdentity where
  browserId : String
  sessionName : String
  profileId : String
  browserPid : Nat
  cdpEndpoint : String
  browserBuild : BrowserBuild
  executablePath : String
  executableSha256 : Option String
  processStartTicks : Nat
  targetId : String
  targetUrl : Option String
  browserBuildProof : JsonValue
  deriving DecidableEq, Repr

/-- The identity that is captured, as long as reading the first tab does not stop the program. -/
def captureRemoteViewRecoveryIdentity (state : ServiceState) (browserId sessionName : String)
    (profileId targetId : Option String) : Option RemoteViewRecoveryIdentity := do
  let profileId ← profileId
  let targetId ← targetId
  let browser ← state.browsers[browserId]?
  let session ← state.sessions[sessionName]?
  let profile ← state.profiles[profileId]?
  let proof ← browser.browserBuildProof
  let browserPid ← browser.pid
  let cdpEndpoint ← browser.cdpEndpoint
  let browserBuild ← browser.browserBuild
  let executablePath ← browser.executablePath
  let executableSha256 ← proofText proof "executableSha256"
  let processStartTicks ← (proof.get "processStartTicks").bind (·.asNat)
  let matchingTabs := (state.tabs.toList.map (·.2)).filter fun tab => tab.targetId = some targetId
  let tab ← if matchingTabs.length = 1 then matchingTabs.head? else none
  guard (browser.health = .ready && browser.profileId = some profileId &&
    !profile.browserBuild.any (· ≠ browserBuild) && session.profileId = some profileId &&
    session.browserIds = [browserId] && session.lease ≠ .released && session.lease ≠ .expired &&
    browser.activeSessionIds.contains sessionName && proofApplied proof && acceptedReason proof &&
    (proof.get "browserBuild").bind BrowserBuild.fromValue = some browserBuild &&
    proofText proof "profileId" = some profileId &&
    (proof.get "browserPid").bind (·.asNat) = some browserPid &&
    proofText proof "cdpEndpoint" = some cdpEndpoint &&
    proofText proof "executablePath" = some executablePath && tab.browserId = browserId &&
    tab.ownerSessionId = some sessionName && tab.lifecycle = .ready)
  some
    { browserId, sessionName, profileId, browserPid, cdpEndpoint, browserBuild, executablePath,
      executableSha256 := some executableSha256, processStartTicks, targetId
      targetUrl := tab.url, browserBuildProof := proof }

/-- An applied proof of an installed browser, as the verifier stores it. -/
def Minted (proof : JsonValue) : Prop :=
  proofApplied proof = true ∧ proof.get "browserBuild" = some (.string "stock_chrome") ∧
    proofText proof "reason" = some "verified_installed_chrome_runtime_attach"

/-- What a handoff asks of the rows besides the proof. -/
structure HandoffReady (state : ServiceState) (browserId sessionName profileId targetId : String) :
    Prop where
  browser : ∃ browser, state.browsers[browserId]? = some browser ∧ browser.health = .ready ∧
    browser.host ∈ [BrowserHost.localHeaded, .remoteHeaded, .attachedExisting] ∧
    browser.profileId = some profileId ∧ sessionName ∈ browser.activeSessionIds
  session : ∃ session, state.sessions[sessionName]? = some session ∧
    session.profileId = some profileId ∧ session.browserIds = [browserId] ∧
    session.lease ≠ .released ∧ session.lease ≠ .expired
  profile : ∃ profile, state.profiles[profileId]? = some profile ∧ profile.id = profileId ∧
    ∀ build, profile.browserBuild = some build → build = .stockChrome
  tab : ∃ tab, ((state.tabs.toList.map (·.2)).filter fun tab => tab.targetId = some targetId) =
    [tab] ∧ tab.browserId = browserId ∧ tab.ownerSessionId = some sessionName ∧
    tab.lifecycle = .ready

/-- The process of a row carries an argument for its debug port. -/
def PortArgument (ev : ProcessEvidence) (state : ServiceState) (browserId profileId : String)
    (pid : Nat) (endpoint : String) : Prop :=
  ∃ browser profile path executable, state.browsers[browserId]? = some browser ∧
    state.profiles[profileId]? = some profile ∧
    profile.userDataDir.bind ev.canonicalize = some path ∧
    browser.executablePath = some executable ∧ CarriesDebugPort ev pid endpoint path executable

/-- The persisted rows are accepted for the process. -/
def PersistedAccepted (ev : ProcessEvidence) (state : ServiceState) (browserId profileId : String)
    (pid : Nat) (endpoint : String) : Prop :=
  ∃ browser profile ticks, state.browsers[browserId]? = some browser ∧
    state.profiles[profileId]? = some profile ∧
    verifyPersistedRetainedProcess ev browser profile pid endpoint = .ok ticks

/-- The directory of the profile is written the way it resolves. -/
def ResolvedSpelling (ev : ProcessEvidence) (state : ServiceState) (profileId : String) : Prop :=
  ∃ profile path, state.profiles[profileId]? = some profile ∧ profile.userDataDir = some path ∧
    ev.canonicalize path = some path

/-- A proof that a refresh has just stored lets the browser be taken over and be verified again. -/
def Recovers (ev : ProcessEvidence) (state : ServiceState)
    (sessionId runtimeProfile targetId : String) (pid : Nat) (endpoint : String) : Prop :=
  ∀ browserId proof,
    refreshedProof ev "/proc" state sessionId runtimeProfile (some pid) (some endpoint) =
      some (browserId, proof) → Minted proof →
    let after := refreshRetainedWithProcRoot ev "/proc" state sessionId runtimeProfile (some pid)
      (some endpoint)
    HandoffReady after browserId sessionId runtimeProfile targetId →
    PortArgument ev after browserId runtimeProfile pid endpoint →
    (captureRemoteViewRecoveryIdentity after browserId sessionId (some runtimeProfile)
      (some targetId)).isSome ∧
      PersistedAccepted ev after browserId runtimeProfile pid endpoint

section Minting
variable {ev : ProcessEvidence} {procRoot : String}

/-- Each field that a reader looks at, as the verifier writes it: there is no digest. -/
theorem verifiedProof_fields (runtimeProfile : String) (pid : Nat) (endpoint : String)
    (verified : VerifiedProcess) :
    let proof := verifiedProof runtimeProfile pid endpoint verified
    proofApplied proof = true ∧ acceptedReason proof = true ∧
      (proof.get "browserBuild").bind BrowserBuild.fromValue = some .stockChrome ∧
      (proof.get "processStartTicks").bind (·.asNat) = some verified.startTicks ∧
      (proof.get "browserPid").bind (·.asNat) = some pid ∧
      proofText proof "profileId" = some runtimeProfile ∧
      proofText proof "cdpEndpoint" = some endpoint ∧
      proofText proof "userDataDir" = some verified.profile ∧
      proofText proof "executablePath" = some verified.executable ∧
      proofText proof "executableSha256" = none := by
  refine ⟨rfl, rfl, rfl, ?_, ?_, rfl, rfl, rfl, rfl, rfl⟩
  · have hget : (verifiedProof runtimeProfile pid endpoint verified).get "processStartTicks" =
        some (.number verified.startTicks) := rfl
    simp [hget, JsonValue.asNat]
  · have hget : (verifiedProof runtimeProfile pid endpoint verified).get "browserPid" =
        some (.number pid) := rfl
    simp [hget, JsonValue.asNat]

theorem observeAttached_eq_ok
    (h : observeAttached ev procRoot metadata runtimeProfile pid endpoint selected =
      .ok (processPid, wsUrl, verified)) :
    pid = some processPid ∧ endpoint = some wsUrl ∧
      ∃ profile installed port, metadata.userDataDir = some profile ∧
        endpointPort wsUrl = some port ∧
        verifyProcess ev processPid wsUrl profile installed procRoot port true = .ok verified := by
  simp only [observeAttached, Except.bind_eq_ok, orRefuse_eq_ok] at h
  obtain ⟨_, _, _, _, runtime, _, pid', hpid, installed, _, url, hurl, profile, hprofile,
    verified', hverified, _, _, _, _, heq⟩ := h
  obtain ⟨rfl, rfl, rfl⟩ : pid' = processPid ∧ url = wsUrl ∧ verified' = verified := by
    simpa using heq
  obtain ⟨port, hport, hprocess⟩ := verify_verifyProcess hverified
  exact ⟨hpid, hurl, profile, installed, port, hprofile, hport, hprocess⟩

theorem isObject_of_attachEligible (h : attachEligible proof = true) : proof.isObject = true := by
  cases proof with
  | object fields => rfl
  | null | bool _ | number _ | string _ | array _ => cases h

/-- A proof that is stored as applied was observed just now. -/
theorem applyWithProcRoot_minted
    (h : (applyWithProcRoot ev procRoot metadata runtimeProfile pid endpoint
      ).browserCapabilityLaunch = some proof) (hminted : Minted proof) :
    ∃ selected processPid wsUrl verified,
      observeAttached ev procRoot metadata runtimeProfile pid endpoint selected =
        .ok (processPid, wsUrl, verified) ∧
      proof = verifiedProof runtimeProfile processPid wsUrl verified := by
  obtain ⟨happlied, hbuild, hreason⟩ := hminted
  unfold applyWithProcRoot at h
  split at h
  · rename_i hnone
    rw [hnone] at h
    cases h
  · rename_i old hold
    split at h
    · rename_i hkept
      obtain rfl := Option.some.inj (hold.symm.trans h)
      simp [externallyProven, attachEligible, happlied, hbuild, hreason] at hkept
    · rename_i hobserved
      obtain ⟨_, heligible⟩ : externallyProven old = false ∧ attachEligible old = true := by
        simpa using hobserved
      generalize hunproven : (if proofApplied old = true then _ else _) = unproven at h
      have hobject : unproven.isObject = true := by
        have hobject := isObject_of_attachEligible heligible
        subst hunproven
        split
        · cases old <;> first | rfl | cases hobject
        · exact hobject
      cases hseen : observeAttached ev procRoot metadata runtimeProfile pid endpoint
          (proofText old "executablePath") with
      | ok seen =>
        simp only [hseen, Option.some.injEq] at h
        exact ⟨_, seen.1, seen.2.1, seen.2.2, hseen, h.symm⟩
      | error reason =>
        simp only [hseen, Option.some.injEq] at h
        rw [← h, proofApplied, JsonValue.get_set_ne (by decide), JsonValue.get_set_ne (by decide),
          JsonValue.get_set_self hobject] at happlied
        cases happlied

/-- No proof that lacks the digest is captured. -/
theorem capture_eq_none (hbrowser : state.browsers[browserId]? = some browser)
    (hproof : browser.browserBuildProof = some proof)
    (hdigest : proofText proof "executableSha256" = none) :
    captureRemoteViewRecoveryIdentity state browserId sessionName profileId targetId = none := by
  rw [Option.eq_none_iff_forall_ne_some]
  intro identity h
  unfold captureRemoteViewRecoveryIdentity at h
  obtain ⟨_, _, h⟩ := Option.bind_eq_some_iff.mp h
  obtain ⟨_, _, h⟩ := Option.bind_eq_some_iff.mp h
  obtain ⟨browser', hbrowser', h⟩ := Option.bind_eq_some_iff.mp h
  obtain ⟨_, _, h⟩ := Option.bind_eq_some_iff.mp h
  obtain ⟨_, _, h⟩ := Option.bind_eq_some_iff.mp h
  obtain ⟨proof', hproof', h⟩ := Option.bind_eq_some_iff.mp h
  obtain ⟨_, _, h⟩ := Option.bind_eq_some_iff.mp h
  obtain ⟨_, _, h⟩ := Option.bind_eq_some_iff.mp h
  obtain ⟨_, _, h⟩ := Option.bind_eq_some_iff.mp h
  obtain ⟨_, _, h⟩ := Option.bind_eq_some_iff.mp h
  obtain ⟨digest, hdigest', _⟩ := Option.bind_eq_some_iff.mp h
  obtain rfl := Option.some.inj (hbrowser.symm.trans hbrowser')
  obtain rfl := Option.some.inj (hproof.symm.trans hproof')
  rw [hdigest] at hdigest'
  cases hdigest'

theorem refreshedProof_eq_some
    (h : refreshedProof ev procRoot state sessionId runtimeProfile pid endpoint =
      some (browserId, proof)) :
    ∃ browser metadata, state.browsers[browserId]? = some browser ∧ browser.pid = pid ∧
      browser.cdpEndpoint = endpoint ∧ browser.profileId = some runtimeProfile ∧
      metadata.userDataDir = state.profiles[runtimeProfile]?.bind (·.userDataDir) ∧
      (applyWithProcRoot ev procRoot metadata runtimeProfile pid endpoint
        ).browserCapabilityLaunch = some proof := by
  unfold refreshedProof at h
  obtain ⟨session, _, h⟩ := Option.bind_eq_some_iff.mp h
  obtain ⟨_, _, h⟩ := Option.bind_eq_some_iff.mp h
  obtain ⟨browserId', _, h⟩ := Option.bind_eq_some_iff.mp h
  obtain ⟨browser, hbrowser, h⟩ := Option.bind_eq_some_iff.mp h
  obtain ⟨_, hrow, h⟩ := Option.bind_eq_some_iff.mp h
  obtain ⟨proof', hproof, h⟩ := Option.bind_eq_some_iff.mp h
  obtain ⟨_, _, h⟩ := Option.bind_eq_some_iff.mp h
  obtain ⟨rfl, rfl⟩ : browserId' = browserId ∧ proof' = proof := by simpa using h
  have hrow := (Option.guard_eq_some' _).mp hrow
  simp only [Bool.and_eq_true, decide_eq_true_eq] at hrow
  obtain ⟨⟨⟨⟨_, hpid⟩, hendpoint⟩, hprofile⟩, _⟩ := hrow
  exact ⟨browser, _, hbrowser, hpid, hendpoint, hprofile, rfl, hproof⟩

theorem refreshRetained_browsers
    (h : refreshedProof ev procRoot state sessionId runtimeProfile pid endpoint =
      some (browserId, proof)) (hbrowser : state.browsers[browserId]? = some browser) :
    (refreshRetainedWithProcRoot ev procRoot state sessionId runtimeProfile pid endpoint
      ).browsers[browserId]? = some (browser.withProof proof) := by
  simp [refreshRetainedWithProcRoot, h, hbrowser]

theorem refreshRetained_profiles :
    (refreshRetainedWithProcRoot ev procRoot state sessionId runtimeProfile pid endpoint
      ).profiles = state.profiles := by
  unfold refreshRetainedWithProcRoot
  split <;> rfl

/-- The row with a stored proof is accepted exactly for the resolved spelling of its directory. -/
theorem verifyPersisted_verifiedProof {browser : BrowserProcess} (hev : ev.Lawful)
    (hprocess : verifyProcess ev pid endpoint path installed "/proc" port true = .ok verified)
    (hport : endpointPort endpoint = some port)
    (hdebug : CarriesDebugPort ev pid endpoint verified.profile verified.executable)
    (hpid : browser.pid = some pid) (hendpoint : browser.cdpEndpoint = some endpoint)
    (hprofile : browser.profileId = some profile.id)
    (hhost : browser.host ∈ [BrowserHost.localHeaded, .remoteHeaded, .attachedExisting])
    (hbuild : ∀ build, profile.browserBuild = some build → build = .stockChrome)
    (hpath : profile.userDataDir = some path) :
    (∃ ticks, verifyPersistedRetainedProcess ev
      (browser.withProof (verifiedProof profile.id pid endpoint verified)) profile pid endpoint =
        .ok ticks) ↔ ev.canonicalize path = some path := by
  obtain ⟨hcanonical, _, _, _⟩ := verifyProcess_eq_ok.mp hprocess
  obtain ⟨happlied, hreason, hproofBuild, hticks, hproofPid, hproofProfile, hproofEndpoint,
    hproofPath, hproofExecutable, hdigest⟩ :=
      verifiedProof_fields profile.id pid endpoint verified
  have hbuilds : profile.browserBuild.any (· ≠ .stockChrome) = false := by
    cases hsome : profile.browserBuild with
    | none => rfl
    | some build => simpa using hbuild build hsome
  have hexternal := verifyExternalByopProcess_observed hev hport hprocess hdebug
  have hhosts : [BrowserHost.localHeaded, .remoteHeaded, .attachedExisting].contains
      browser.host = true := by simpa using hhost
  simp only [verifyPersistedRetainedProcess, Except.bind_eq_ok, orRefuse_eq_ok, refuseIf_eq_ok,
    BrowserProcess.withProof, happlied, if_true, hproofBuild, hproofExecutable, hpath, hticks,
    Option.some.injEq, exists_eq_left', hdigest, hreason, hbuilds, hpid, hendpoint, hprofile,
    hproofPid, hproofProfile, hproofEndpoint, hproofPath, hhosts, hcanonical]
  constructor
  · rintro ⟨_, _, _, _, hsame, _⟩
    simpa using hsame
  · rintro rfl
    exact ⟨verified.startTicks, (), by simp, (), by simp, (), rfl, verified.startTicks, hexternal,
      (), by simp, rfl⟩

/-- A proof that has just been minted never lets its browser be taken over, for it has no digest of
the executable. Its rows are accepted only if the profile is written the way it resolves. -/
theorem minted_proofs_never_recover :
    (∀ metadata runtimeProfile pid endpoint proof state browserId browser sessionName profileId
        targetId,
      (applyWithProcRoot ev procRoot metadata runtimeProfile pid endpoint
        ).browserCapabilityLaunch = some proof → Minted proof →
      state.browsers[browserId]? = some browser → browser.browserBuildProof = some proof →
      captureRemoteViewRecoveryIdentity state browserId sessionName profileId targetId = none) ∧
    (∀ state sessionId runtimeProfile pid endpoint browserId proof sessionName profileId targetId,
      refreshedProof ev procRoot state sessionId runtimeProfile pid endpoint =
        some (browserId, proof) → Minted proof →
      captureRemoteViewRecoveryIdentity
        (refreshRetainedWithProcRoot ev procRoot state sessionId runtimeProfile pid endpoint)
        browserId sessionName profileId targetId = none) ∧
    (ev.Lawful → ∀ state sessionId runtimeProfile pid endpoint browserId proof targetId,
      refreshedProof ev "/proc" state sessionId runtimeProfile (some pid) (some endpoint) =
        some (browserId, proof) → Minted proof →
      let after := refreshRetainedWithProcRoot ev "/proc" state sessionId runtimeProfile (some pid)
        (some endpoint)
      HandoffReady after browserId sessionId runtimeProfile targetId →
      PortArgument ev after browserId runtimeProfile pid endpoint →
      (PersistedAccepted ev after browserId runtimeProfile pid endpoint ↔
        ResolvedSpelling ev state runtimeProfile)) := by
  refine ⟨?_, ?_, ?_⟩
  · intro metadata runtimeProfile pid endpoint proof state browserId browser sessionName profileId
      targetId happly hminted hbrowser hproof
    obtain ⟨_, _, _, _, _, rfl⟩ := applyWithProcRoot_minted happly hminted
    exact capture_eq_none hbrowser hproof (verifiedProof_fields _ _ _ _).2.2.2.2.2.2.2.2.2
  · intro state sessionId runtimeProfile pid endpoint browserId proof sessionName profileId targetId
      hrefresh hminted
    obtain ⟨browser, metadata, hbrowser, _, _, _, _, happly⟩ := refreshedProof_eq_some hrefresh
    obtain ⟨_, _, _, _, _, rfl⟩ := applyWithProcRoot_minted happly hminted
    exact capture_eq_none (refreshRetained_browsers hrefresh hbrowser) rfl
      (verifiedProof_fields _ _ _ _).2.2.2.2.2.2.2.2.2
  · intro hev state sessionId runtimeProfile pid endpoint browserId proof targetId hrefresh hminted
      after hready hargument
    obtain ⟨browser, metadata, hbrowser, hpid, hendpoint, hprofileId, hdirectory, happly⟩ :=
      refreshedProof_eq_some hrefresh
    obtain ⟨selected, _, _, verified, hobserved, rfl⟩ := applyWithProcRoot_minted happly hminted
    obtain ⟨hpid', hendpoint', path, installed, port, hpath, hport, hprocess⟩ :=
      observeAttached_eq_ok hobserved
    obtain rfl := Option.some.inj hpid'
    obtain rfl := Option.some.inj hendpoint'
    obtain ⟨hcanonical, _, _, _⟩ := verifyProcess_eq_ok.mp hprocess
    have hrow := refreshRetained_browsers hrefresh hbrowser
    have hprofiles : after.profiles = state.profiles := refreshRetained_profiles
    rw [hdirectory] at hpath
    obtain ⟨profile, hprofile, huserDataDir⟩ := Option.bind_eq_some_iff.mp hpath
    -- the rows that the conditions speak of are the refreshed ones
    obtain ⟨browser', hbrowser', _, hhost, _⟩ := hready.browser
    obtain rfl := Option.some.inj (hrow.symm.trans hbrowser')
    obtain ⟨profile', hprofile', hid, hbuild⟩ := hready.profile
    rw [hprofiles] at hprofile'
    obtain rfl := Option.some.inj (hprofile.symm.trans hprofile')
    obtain ⟨browser', profile', resolved, executable, hbrowser', hprofile', hresolved, hexecutable,
      hcarries⟩ := hargument
    obtain rfl := Option.some.inj (hrow.symm.trans hbrowser')
    rw [hprofiles] at hprofile'
    obtain rfl := Option.some.inj (hprofile.symm.trans hprofile')
    rw [huserDataDir, Option.bind_some, hcanonical] at hresolved
    obtain rfl := Option.some.inj hresolved
    obtain rfl : verified.executable = executable := Option.some.inj hexecutable
    subst hid
    have hiff := verifyPersisted_verifiedProof hev hprocess hport hcarries hpid hendpoint hprofileId
      hhost hbuild huserDataDir
    constructor
    · rintro ⟨browser', profile', ticks, hbrowser', hprofile', hticks⟩
      obtain rfl := Option.some.inj (hrow.symm.trans hbrowser')
      rw [hprofiles] at hprofile'
      obtain rfl := Option.some.inj (hprofile.symm.trans hprofile')
      exact ⟨profile, path, hprofile, huserDataDir, hiff.mp ⟨ticks, hticks⟩⟩
    · rintro ⟨profile', path', hprofile', hpath', hspelling⟩
      obtain rfl := Option.some.inj (hprofile.symm.trans hprofile')
      obtain rfl := Option.some.inj (huserDataDir.symm.trans hpath')
      obtain ⟨ticks, hticks⟩ := hiff.mpr hspelling
      exact ⟨_, profile, ticks, hrow, hprofiles ▸ hprofile, hticks⟩

end Minting

section Example

def qaEndpoint : String := "ws://127.0.0.1:9222/devtools/browser/abc-123"

/-- A machine with one installed browser, which runs in the directory of a profile. -/
def qaEvidence : ProcessEvidence where
  canonicalize path :=
    if ["/qa/profile", "/browsers/chrome-131/chrome"].contains path then some path else none
  readLink path :=
    if path = "/proc/123/exe" then some "/browsers/chrome-131/chrome"
    else if path = "/proc/123/fd/10" then some "socket:[456]"
    else none
  isFile path := path = "/browsers/chrome-131/chrome"
  inode _ := some (1, 7)
  readToString path :=
    if path = "/proc/123/stat" then
      some "123 (chrome) S 0 0 0 0 0 0 0 0 0 0 0 0 0 0 0 0 0 0 42"
    else if path = "/proc/123/net/tcp" then
      some "0: 0100007F:2406 00000000:0000 0A 0 0 0 1000 0 456\n"
    else if path = "/qa/profile/DevToolsActivePort" then
      some "9222\n/devtools/browser/abc-123\n"
    else none
  readBytes path :=
    if path = "/proc/123/cmdline" then
      some (bytesOf "chrome" ++ 0 :: bytesOf "--user-data-dir=/qa/profile" ++
        0 :: bytesOf "--remote-debugging-port=9222" ++ [0])
    else none
  readDir path :=
    if path = "/browsers" then some ["chrome-131"]
    else if path = "/proc/123/fd" then some ["10"]
    else none
  fileSha256 _ := none
  browsersDir := "/browsers"
  runtimeState _ := some (some
    { runtimeProfile := "qa", userDataDir := "/qa/profile", browserPid := 123
      devtoolsPort := some 9222, wsUrl := some qaEndpoint })
  parseUrl _ := none

def qaBrowser : BrowserProcess :=
  { id := "b1", profileId := some "qa", host := .localHeaded, health := .ready, pid := some 123
    cdpEndpoint := some qaEndpoint, activeSessionIds := ["s1"] }

def qaProfile : BrowserProfile := { id := "qa", userDataDir := some "/qa/profile" }

def qaSession : BrowserSession :=
  { id := "s1", lease := .exclusive, profileId := some "qa", browserIds := ["b1"]
    browserCapabilityLaunch := some (.object
      [("applied", .bool false), ("browserBuild", .string "stock_chrome"),
        ("reason", .string "managed_runtime_attach_unverified")]) }

def qaTab : BrowserTab :=
  { id := "t1", browserId := "b1", targetId := some "T1", ownerSessionId := some "s1"
    lifecycle := .ready }

def qaState : ServiceState :=
  { browsers := (∅ : BTreeMap BrowserProcess).insert "b1" qaBrowser
    profiles := (∅ : BTreeMap BrowserProfile).insert "qa" qaProfile
    sessions := (∅ : BTreeMap BrowserSession).insert "s1" qaSession
    tabs := (∅ : BTreeMap BrowserTab).insert "t1" qaTab }

def qaProof : JsonValue :=
  verifiedProof "qa" 123 qaEndpoint
    { executable := "/browsers/chrome-131/chrome", profile := "/qa/profile", startTicks := 42 }

theorem qaEvidence_lawful : qaEvidence.Lawful := by
  intro path resolved h
  simp only [qaEvidence] at h ⊢
  split at h
  · rename_i hknown
    obtain rfl := Option.some.inj h
    exact if_pos hknown
  · cases h

theorem qa_refreshed : refreshedProof qaEvidence "/proc" qaState "s1" "qa" (some 123)
    (some qaEndpoint) = some ("b1", qaProof) := by
  decide +kernel

theorem qa_minted : Minted qaProof := ⟨rfl, rfl, rfl⟩

def qaAfter : ServiceState :=
  refreshRetainedWithProcRoot qaEvidence "/proc" qaState "s1" "qa" (some 123) (some qaEndpoint)

theorem qa_after : qaAfter =
    { qaState with
      browsers := qaState.browsers.modify "b1" (·.withProof qaProof)
      sessions := qaState.sessions.modify "s1" fun session =>
        { session with browserCapabilityLaunch := some qaProof } } := by
  simp only [qaAfter, refreshRetainedWithProcRoot, qa_refreshed]

theorem qa_browser : qaAfter.browsers["b1"]? = some (qaBrowser.withProof qaProof) :=
  refreshRetained_browsers qa_refreshed (by decide)

theorem qa_profile : qaAfter.profiles["qa"]? = some qaProfile := by
  have hprofiles : qaAfter.profiles = qaState.profiles := refreshRetained_profiles
  rw [hprofiles]
  decide

theorem qa_ready : HandoffReady qaAfter "b1" "s1" "qa" "T1" where
  browser := ⟨_, qa_browser, rfl, by decide, rfl, by decide⟩
  session := by
    have hsession : qaAfter.sessions["s1"]? =
        some { qaSession with browserCapabilityLaunch := some qaProof } := by
      rw [qa_after]
      decide
    exact ⟨_, hsession, rfl, rfl, by decide, by decide⟩
  profile := ⟨_, qa_profile, rfl, nofun⟩
  tab := by
    have htab : ((qaAfter.tabs.toList.map (·.2)).filter fun tab => tab.targetId = some "T1") =
        [qaTab] := by
      rw [qa_after]
      decide
    exact ⟨_, htab, rfl, rfl, rfl⟩

theorem qa_portArgument : PortArgument qaEvidence qaAfter "b1" "qa" 123 qaEndpoint := by
  have hcarries : CarriesDebugPort qaEvidence 123 qaEndpoint "/qa/profile"
      "/browsers/chrome-131/chrome" :=
    ⟨9222, _, ["chrome", "--user-data-dir=/qa/profile", "--remote-debugging-port=9222"],
      by decide, rfl, by decide, by decide⟩
  exact ⟨_, _, _, _, qa_browser, qa_profile, by decide, by decide, hcarries⟩

theorem minted_proofs_never_recover_qa :
    captureRemoteViewRecoveryIdentity qaAfter "b1" "s1" (some "qa") (some "T1") = none ∧
      PersistedAccepted qaEvidence qaAfter "b1" "qa" 123 qaEndpoint :=
  have law := @minted_proofs_never_recover qaEvidence "/proc"
  ⟨law.2.1 _ _ _ _ _ _ _ _ _ _ qa_refreshed qa_minted,
    (law.2.2 qaEvidence_lawful _ _ _ _ _ _ _ _ qa_refreshed qa_minted qa_ready
      qa_portArgument).mpr ⟨qaProfile, "/qa/profile", by decide, rfl, by decide +kernel⟩⟩

theorem minted_proof_without_digest :
    ¬ ∀ ev state sessionId runtimeProfile targetId pid endpoint,
      ev.Lawful → Recovers ev state sessionId runtimeProfile targetId pid endpoint := by
  intro h
  obtain ⟨hcaptured, _⟩ := h qaEvidence qaState "s1" "qa" "T1" 123 qaEndpoint qaEvidence_lawful _ _
    qa_refreshed qa_minted qa_ready qa_portArgument
  have hafter : refreshRetainedWithProcRoot qaEvidence "/proc" qaState "s1" "qa" (some 123)
      (some qaEndpoint) = _ := qa_after
  rw [hafter] at hcaptured
  revert hcaptured
  decide

end Example

end AgentBrowser
