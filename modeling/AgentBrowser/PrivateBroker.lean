import AgentBrowser.GateRuns
import AgentBrowser.RecordedPackages
import AgentBrowser.DerivedViews
import AgentBrowser.PrivateJourney

namespace AgentBrowser
set_option autoImplicit true

section Handles

def ProfileOrigin.name : ProfileOrigin → String
  | .agentBrowserOwned => "agent_browser_owned"
  | .externalByop => "external_byop"
  | .externalObserved => "external_observed"

def LeaseState.name : LeaseState → String
  | .shared => "shared"
  | .exclusive => "exclusive"
  | .humanTakeover => "human_takeover"
  | .released => "released"
  | .expired => "expired"

def SessionCleanupPolicy.name : SessionCleanupPolicy → String
  | .detach => "detach"
  | .closeTabs => "close_tabs"
  | .closeBrowser => "close_browser"
  | .releaseOnly => "release_only"

def ServiceTabHandleTraceFilter.toJson (filter : ServiceTabHandleTraceFilter) : JsonValue :=
  .object [("agentName", .ofStr filter.agentName), ("browserId", .ofStr filter.browserId),
    ("profileId", .ofStr filter.profileId), ("serviceName", .ofStr filter.serviceName),
    ("sessionId", .ofStr filter.sessionId), ("taskName", .ofStr filter.taskName)]

def ServiceTabHandle.toJson (handle : ServiceTabHandle) : JsonValue :=
  .object [("browserId", .string handle.browserId),
    ("cleanupPolicy", .ofStr (handle.cleanupPolicy.map (·.name))),
    ("jobId", .ofStr handle.jobId),
    ("leaseHeartbeatExpected", .bool handle.leaseHeartbeatExpected),
    ("leaseId", .ofStr handle.leaseId),
    ("leaseState", .ofStr (handle.leaseState.map (·.name))),
    ("ownerSessionId", .ofStr handle.ownerSessionId),
    ("profileId", .ofStr handle.profileId),
    ("profileOrigin", .string handle.profileOrigin.name),
    ("sessionName", .ofStr handle.sessionName), ("staleReason", .ofStr handle.staleReason),
    ("tabId", .string handle.tabId), ("targetId", .ofStr handle.targetId),
    ("title", .ofStr handle.title), ("traceFilter", handle.traceFilter.toJson),
    ("url", .ofStr handle.url), ("valid", .bool handle.valid)]

end Handles

def PrivatePermit.targetId (permit : PrivatePermit) : Option String :=
  permit.scope.map (·.targetId)

namespace Private
open Durable

section Broker
variable (P : PrivateEnv)

/-- A session without an expiry does not expire. -/
def checkLeaseExpiry (now : Int) (session : BrowserSession) : Except String Unit :=
  checkSome session.expiresAt fun expiry => do
    let expiry ← orRefuse (P.parseTime expiry) "private_lease_expiry_invalid"
    refuseIf (expiry ≤ now) "private_lease_expired"

/-- The broker's records against the live tab. Only the exact endpoint counts. -/
def brokerMatches (persisted : ServiceState) (browser : BrowserProcess) (session : BrowserSession)
    (tab : BrowserTab) (tabId : String) (live : LivePrivateIdentity) (endpoint : String) : Bool :=
  browser.health = .ready && browser.profileId = some live.profileId &&
    browser.cdpEndpoint = some endpoint && browser.activeSessionIds.contains live.sessionName &&
    session.profileId = some live.profileId && session.browserIds.contains live.browserId &&
    session.tabIds.contains tabId && tab.browserId = live.browserId &&
    tab.ownerSessionId = some live.sessionName && persisted.profiles.contains live.profileId

def validateBrokerSnapshot (now : Int) (persisted : ServiceState) (staged : JsonValue)
    (live : LivePrivateIdentity) (endpoint expectedOrigin expectedUrl : String) :
    Except String ValidatedPrivateTarget := do
  let tabId ← orRefuse ((staged.get "tabId").bind (·.asStr)) "private_identity_incomplete"
  let browser ← orRefuse persisted.browsers[live.browserId]? "private_authority_unavailable"
  let session ← orRefuse persisted.sessions[live.sessionName]? "private_authority_unavailable"
  checkLeaseExpiry P now session
  let tab ← orRefuse persisted.tabs[tabId]? "private_authority_unavailable"
  refuseIf (!brokerMatches persisted browser session tab tabId live endpoint)
    "private_broker_identity_mismatch"
  refuseIf ((persisted.tabs.toList.filter fun candidate =>
    candidate.2.browserId = live.browserId ∧ candidate.2.targetId = some live.targetId).length ≠ 1)
    "private_target_ambiguous"
  validatePrivateTarget P staged (serviceTabHandle persisted tabId tab).toJson live expectedOrigin
    expectedUrl

def validatePermitScope (permit : PrivatePermit) (target : ValidatedPrivateTarget) :
    Except String Unit :=
  refuseIf (permit.targetId ≠ some target.targetId ||
    permit.identityDigest ≠ some target.scopeDigest) "private_revalidation_scope_mismatch"

/-- A tab moved to a URL. -/
def moveTab (persisted : ServiceState) (tabId : String) (tab : BrowserTab) (url : String) :
    ServiceState :=
  { persisted with tabs := persisted.tabs.insert tabId { tab with url := some url } }

/-- The checks before the gate is advanced: the broker's binding at the previous URL, which is
already committed, and the live tab at the next. -/
def advanceCandidate (now : Nat → Int) (persisted : ServiceState) (live : LivePrivateIdentity)
    (endpoint : String) (previous next : PrivateOperation) (permit : PrivatePermit) :
    Except String (ServiceState × ValidatedPrivateTarget) := do
  let priorLive := { live with url := previous.expectedUrl }
  let prior ← validateBrokerSnapshot P (now 0) persisted previous.serviceTabHandle priorLive
    endpoint previous.expectedOrigin previous.expectedUrl
  validatePermitScope permit prior
  refuseIf (previous.consentSha256 ≠ next.consentSha256 ||
    previous.accountScope ≠ next.accountScope) "private_transition_scope_mismatch"
  let tabId ← orRefuse ((previous.serviceTabHandle.get "tabId").bind (·.asStr))
    "private_identity_incomplete"
  let tab ← orRefuse persisted.tabs[tabId]? "private_authority_unavailable"
  let candidate := moveTab persisted tabId tab next.expectedUrl
  let fresh ← validateBrokerSnapshot P (now 1) candidate next.serviceTabHandle live endpoint
    next.expectedOrigin next.expectedUrl
  .ok (candidate, fresh)

/-- What an advance leaves of the two states that it was given. -/
structure BrokerAdvance where
  persisted : ServiceState
  permit : PrivatePermit
  result : Except String Unit

variable (E : GateEnv)

def advanceBrokerSnapshot (now : Nat → Int) (persisted : ServiceState)
    (live : LivePrivateIdentity) (endpoint : String) (previous next : PrivateOperation)
    (expectedStage : Nat) (permit : PrivatePermit) : Prog Op Op.Ret Empty BrokerAdvance :=
  match advanceCandidate P now persisted live endpoint previous next permit with
  | .error e => pure { persisted, permit, result := .error e }
  | .ok (candidate, fresh) => do
    let (permit, advanced) ← advanceTarget E permit expectedStage fresh.targetId fresh.scopeDigest
    match advanced with
    | .error e => pure { persisted, permit, result := .error e.text }
    | .ok () => pure { persisted := candidate, permit, result := .ok () }

end Broker

section Framing
variable {P : PrivateEnv} {E : GateEnv} {key : Bytes} {t : Tid} {persisted : ServiceState}
  {live : LivePrivateIdentity} {endpoint : String} {previous next : PrivateOperation}
  {permit : PrivatePermit}

/-- The permit is bound to the target of the previous operation. -/
def BoundTo (P : PrivateEnv) (now : Int) (persisted : ServiceState) (live : LivePrivateIdentity)
    (endpoint : String) (previous : PrivateOperation) (permit : PrivatePermit) : Prop :=
  ∃ prior, validateBrokerSnapshot P now persisted previous.serviceTabHandle
      { live with url := previous.expectedUrl } endpoint previous.expectedOrigin
      previous.expectedUrl = .ok prior ∧
    permit.targetId = some prior.targetId ∧
    permit.identityDigest = some prior.scopeDigest

/-- The next state differs in the URL of the tab that the previous operation is bound to. -/
def MovesBoundTab (persisted : ServiceState) (previous next : PrivateOperation)
    (moved : ServiceState) : Prop :=
  ∃ tabId tab, (previous.serviceTabHandle.get "tabId").bind (·.asStr) = some tabId ∧
    persisted.tabs[tabId]? = some tab ∧ moved = moveTab persisted tabId tab next.expectedUrl

theorem advanceCandidate_eq_ok
    (h : advanceCandidate P now persisted live endpoint previous next permit =
      .ok (candidate, fresh)) :
    BoundTo P (now 0) persisted live endpoint previous permit ∧
      previous.consentSha256 = next.consentSha256 ∧ previous.accountScope = next.accountScope ∧
      MovesBoundTab persisted previous next candidate := by
  simp only [advanceCandidate, validatePermitScope, Except.bind_eq_ok, refuseIf_eq_ok,
    orRefuse_eq_ok, Bool.or_eq_false_iff, decide_eq_false_iff_not, ne_eq, not_not] at h
  obtain ⟨prior, hprior, _, ⟨htarget, hdigest⟩, _, ⟨hconsent, haccount⟩, tabId, htabId, tab, htab,
    fresh, -, he⟩ := h
  cases he
  exact ⟨⟨prior, hprior, htarget, hdigest⟩, hconsent, haccount, tabId, tab, htabId, htab, rfl⟩

/-- What an advance has done since the world it started in. -/
def AdvanceFramed (P : PrivateEnv) (E : GateEnv) (key : Bytes) (t : Tid) (now : Nat → Int)
    (persisted : ServiceState) (live : LivePrivateIdentity) (endpoint : String)
    (previous next : PrivateOperation) (permit : PrivatePermit) (since : World) (x : BrokerAdvance)
    (w : World) : Prop :=
  match x.result with
  | .error e => x.persisted = persisted ∧
      (w.ownInstalls E key t = since.ownInstalls E key t ∨
        e = StoreError.gateCommitUnknown.text ∧ x.permit.file = none ∧
        ∃ new, Advanced (since.installs E key) new ∧
          w.ownInstalls E key t = new :: since.ownInstalls E key t)
  | .ok _ => MovesBoundTab persisted previous next x.persisted ∧
      BoundTo P (now 0) persisted live endpoint previous permit ∧
      previous.consentSha256 = next.consentSha256 ∧ previous.accountScope = next.accountScope ∧
      ∃ new, Advanced (since.installs E key) new ∧
        w.installs E key = new :: since.installs E key

theorem advanceBrokerSnapshot_wp (hE : E.Lawful) (hb : c.begins = false)
    (hi : GateInv E key s) (ho : s.owned t = (GateLoc.permit permit).locks t) :
    (advanceBrokerSnapshot P E now persisted live endpoint previous next expectedStage
        permit).Wp
      (storeExec t) (GateInv E key) (GateRely E key t) (GateGuar E key t c)
      (Outcome (AdvanceFramed P E key t now persisted live endpoint previous next permit s)
        fun e _ => nomatch e) s := by
  have hkept (w : World) (hr : GateRely E key t s w) :
      w.ownInstalls E key t = s.ownInstalls E key t := by
    rw [World.ownInstalls, GateRely.mine hr]
    rfl
  rw [advanceBrokerSnapshot]
  cases hcandidate : advanceCandidate P now persisted live endpoint previous next permit with
  | error e => exact fun w hr _ => ⟨rfl, .inl (hkept w hr)⟩
  | ok checked =>
    obtain ⟨candidate, fresh⟩ := checked
    obtain ⟨hbound, hconsent, haccount, hmoves⟩ := advanceCandidate_eq_ok hcandidate
    obtain ⟨prior, hprior, htarget, hdigest⟩ := hbound
    cases hl : permit.file with
    | none =>
      simp only [advanceTarget, hl]
      exact fun w hr _ => ⟨rfl, .inl (hkept w hr)⟩
    | some l =>
      have hown : s.owned t = [⟨l, t, true, none⟩] := ho.trans (permit_locks hl)
      have hrun := @advanceTarget_triple E key t c _ _ (s.installs E key) _ expectedStage
        fresh.targetId
        fresh.scopeDigest hE hb permit hl hdigest s hi ⟨hown, rfl, rfl, rfl⟩
      apply hrun.bind (GateRely.refl t) hi
      · rintro ⟨permit', result⟩ w _ hends
        have hlater (v : World) (hr : GateRely E key t w v) (hv : GateInv E key v) :=
          AdvanceEnds.stable (c := c) w v hends hr hv
        cases result with
        | ok _ =>
          intro v hr hv
          obtain ⟨-, new, hadvanced, hholds⟩ := hlater v hr hv
          exact ⟨hmoves, ⟨prior, hprior, htarget, hdigest⟩, hconsent, haccount, new, hadvanced,
            hholds.2.2.1⟩
        | error e =>
          intro v hr hv
          obtain ⟨hfile, -, hkept | ⟨rfl, new, hadvanced, hnew⟩⟩ := hlater v hr hv
          · exact ⟨rfl, .inl hkept⟩
          · exact ⟨rfl, .inr ⟨rfl, hfile, new, hadvanced, hnew⟩⟩
      · exact fun e => e.elim

/-- Whatever happens at the gate meanwhile: an advance that fails leaves the broker's records as
they are, and no stage is moved unless the gate cannot tell whether its commit is durable; then the
permit is spent. One that succeeds changes the URL of the bound tab only, and moves the stage by
one. -/
theorem broker_advance_framed (hE : E.Lawful) {device inode : Nat} {s : (gateMachine E).Pool}
    (h : Machine.Reachable (gateMachine E) (freshWorld key device inode) s)
    (hidle : s.agent t = .idle (.permit permit)) (now : Nat → Int) (persisted : ServiceState)
    (live : LivePrivateIdentity) (endpoint : String) (previous next : PrivateOperation)
    (expectedStage : Nat) (target digest : String) :
    (advanceBrokerSnapshot P E now persisted live endpoint previous next expectedStage permit).Wp
      (storeExec t) (GateInv E key) (GateRely E key t)
      (GateGuar E key t (.advanceTarget expectedStage target digest))
      (Outcome (AdvanceFramed P E key t now persisted live endpoint previous next permit s.world)
        fun e _ => nomatch e) s.world := by
  have hk := gate_holds hE h
  have hheld : GateHeld E key t (.permit permit) s.world := by
    have hagrees := hk.agrees t
    rwa [hidle] at hagrees
  exact advanceBrokerSnapshot_wp hE rfl hk.inv hheld.1

end Framing

section Samples

/-- The records of a journey from the login to the renewal, with the digests of their targets. -/
def brokerRecord (stage : Nat) : GateState where
  __ := sampleRecord stage false
  scope := some {
    targetId := "retained"
    identityDigest := (if stage = 0 then sampleLogin else sampleRenewal).scopeDigest
    journey := [sampleLogin.scopeDigest, sampleRenewal.scopeDigest]
    stage := stage }

def brokerBegunSeal : Seal where
  key := sampleKey
  nonce := List.replicate 12 1
  aad := associatedData stateRef .gateState
  message := bytesOf (sampleText (brokerRecord 0))
  ciphertext := bigEndian 43 [
    0x0dc3ecc7ffdc842cebf6b91015061500cdca71c57da65e223d0026530385538aa7836d81f922e0b13b432d,
    0x3aa44f8ba8eb2a8c33388f9a6ec773c239b313e0a4ccd63b016bfd531c06693b4c89476dfd32e1410d65ab,
    0x775e491d3b95ddeeb66d68fe25a681e575a35b6b178b5a886fcc7b1ba05bbc1852e0c8c2b111af4ba3ba69,
    0x6fcf7ce675b2a007f0e03654743ac268e755322caf3bc511e51042c21c767ebc2b06098d162626e8aadf07,
    0x5aa308dc4a6b225331bc812eadd7f1fe668753962ed5724bafb42b70fd07851bf2fd8ff4a9e74321676e5b,
    0x155ceb800b70e453242092594b45f7cf8da34a31d137e5c3e184121d76881d31e35f0779dc1dacc4ec203d,
    0x58b3ef49462037569903e5ad39be2a430d8bc213c2464641d36cd4a54ff7c2d47409b1aa87f69b86aa567d,
    0x514db89eceeb2f507b2f870dad452690a31a2b78060590cc72af4741ddfa175c05b062ee1ec70f86d41b34,
    0xc21f0a62272152c43f6f1054557d0cdfe38616cf86601e143ed2db78ffa179fe6c5759030a84a3a57558cc,
    0x984a5d0c174145c751d99ea5b86e3eaee93e070442080c17159966ed2af8ce23411aaf46d173b12ff38519,
    0xc5170c4bd37173426922f2c291085651f40d4a2b7d5403087e969a163e1a620bb6c853fafef202fb0553a3] ++
    bigEndian 11 [0x578bbb257acb56e7df6742]

def brokerAdvancedSeal : Seal where
  key := sampleKey
  nonce := List.replicate 12 2
  aad := associatedData stateRef .gateState
  message := bytesOf (sampleText (brokerRecord 1))
  ciphertext := bigEndian 43 [
    0x61968c773488dd052072e38687b3a94baf220dcb15874f85a33b96787fa0de42e7e7f3b056c959a2a68794,
    0xd7f1dee518d7436c36edc60c876ef159eefd5be17856dcf3cfe57d63ac9f2c2bd588dfe042169760a2372a,
    0x13add5ac16d866450cae0d9e548701fd66abf7484db62d271ad607598eb63749165257b0ab55aa06a5f6d6,
    0xa80a5c180b7ce627050c071c2b2e9f44e4debed2adc7b76910e6676997e1a2dce52a7609ff42fc8f6cc369,
    0x71aef7950a9802b73c256809ac0943b040763003e453a41b82c18f97976302eb1f221989c76cfcd6413ddb,
    0x440dc1db860cfc1a243f346747ea7b09fac8a1b515a51287196e19fa056a8c9d917e2a9eb9b0597974bd9a,
    0xbef76a142781b52b76429cfef17f523a3f1f705b839381003a723a6a5d6c5f9f9c441f00491cd0fbbd3dab,
    0x8226572d32bee4f37b9b4a6ddaa4228c57148b5bcb5a741c3a1eec4bfa3f508b472ec0b1c6f45c5dddf805,
    0x63b5f978f2fc0baec98a763f9545ea89ffa266fedad4f8cb80559718e8cf505c09e16ebcbc81baacc3fab2,
    0xd8cce343ee2d475573fee161192843be4eff0ae3f694e9302240ae531cdd8251bf005ecd8b21e2c683fccb,
    0x0f1d0e1a7db09d3cf989cd58bed7b9aa24640eca1d3cc0d4037225f59eecf9b9561b1a465fced8c5d3e943] ++
    bigEndian 11 [0x01d4cf25e214742954eb91]

def brokerRecords : List (GateState × Bytes) :=
  [0, 1].map fun stage => (brokerRecord stage, bytesOf (sampleText (brokerRecord stage)))

/-- The packages as they answer in a run of that journey. -/
noncomputable def brokerGate : GateEnv where
  crypto := .recorded [brokerBegunSeal, brokerAdvancedSeal]
    [(bytesOf "private-v1", (sampleRecord 0 false).anchorSha256)] []
  codec := .recorded brokerRecords

theorem brokerGate_lawful : brokerGate.Lawful where
  crypto := Crypto.recorded_lawful ⟨by decide +kernel, by decide +kernel, by decide +kernel⟩
  codec := GateCodec.recorded_lawful (by decide) (by decide +kernel)

/-- The journey is begun, up to its permit. -/
noncomputable def brokerBegin : List (gateMachine brokerGate).Event :=
  .start (0, 0) (.beginPrivateJourney sampleKey "retained"
      [sampleLogin.scopeDigest, sampleRenewal.scopeDigest]) ::
    (oks 12 ++ [Choice.drawn sampleEpoch] ++ oks 2 ++ sampleWrite 1 'a' ++ oks 6).map
      (Machine.Event.step (M := gateMachine brokerGate) (0, 0)) ++ [.finish (0, 0)]

/-- What an advance is answered, with the answers to its last sync. -/
def brokerAnswers (last : List Choice) : List Choice := oks 13 ++ sampleWrite 2 'b' ++ last

def brokerBrowser : BrowserProcess where
  id := "session:default"
  profileId := some "sam"
  health := .ready
  cdpEndpoint := some "ws://127.0.0.1:9222/devtools/browser/original"
  activeSessionIds := ["default"]

def brokerSession : BrowserSession where
  id := "default"
  profileId := some "sam"
  lease := .exclusive
  browserIds := ["session:default"]
  tabIds := ["tab"]

def brokerTab : BrowserTab where
  id := "tab"
  browserId := "session:default"
  targetId := some "retained"
  lifecycle := .ready
  url := some "https://secure.login.gov/"
  ownerSessionId := some "default"

/-- The broker's records of the tab at its login. -/
def brokerState : ServiceState where
  profiles := .ofList [("sam", ({ id := "sam" } : BrowserProfile))]
  browsers := .ofList [("session:default", brokerBrowser)]
  sessions := .ofList [("default", brokerSession)]
  tabs := .ofList [("tab", brokerTab)]

/-- The advance from the backup code to the renewal. -/
noncomputable def brokerAdvance (permit : PrivatePermit) : Prog Op Op.Ret Empty BrokerAdvance :=
  advanceBrokerSnapshot samplePrivateEnv brokerGate (fun _ => 0) brokerState
    (sampleLive "https://sam.gov/") "ws://127.0.0.1:9222/devtools/browser/original"
    (sampleOperation "secure.login.gov" (.backupCode "#code" "#submit" "#account"
      "user@example.test" "CODE" "synthetic:1"))
    (sampleOperation "sam.gov" (.renew "#renew" "#account" "user@example.test")) 0 permit

def heldPermit (s : (gateMachine brokerGate).Pool) : Option PrivatePermit :=
  match s.agent (0, 0) with
  | .idle (.permit permit) => some permit
  | _ => none

theorem heldPermit_eq_some {s : (gateMachine brokerGate).Pool} (h : heldPermit s = some permit) :
    s.agent (0, 0) = .idle (.permit permit) := by
  unfold heldPermit at h
  split at h
  · rename_i held hidle
    rw [hidle, Option.some.inj h]
  · cases h

/-- An advance returned, and this holds of what it returned and of what it left. -/
def returned (f : BrokerAdvance → World → Bool) :
    Option (Except Empty BrokerAdvance) × World → Bool
  | (some (.ok x), w) => f x w
  | _ => false

theorem returned_eq_true {f : BrokerAdvance → World → Bool} (h : returned f r = true) :
    ∃ x w, r = (some (.ok x), w) ∧ f x w = true := by
  unfold returned at h
  split at h
  · exact ⟨_, _, rfl, h⟩
  · cases h

/-- The permit of the begun journey, an advance with it, and one whose directory cannot be synced
after the rename. -/
theorem brokerAdvance_runs :
    ∃ s permit, Machine.Reachable (gateMachine brokerGate) (freshWorld sampleKey 1 2) s ∧
      s.agent (0, 0) = .idle (.permit permit) ∧
      (∃ x w, (brokerAdvance permit).run (storeExec (0, 0)) (brokerAnswers (oks 1)) s.world =
        (some (.ok x), w) ∧ x.result = .ok ()) ∧
      ∃ x w, (brokerAdvance permit).run (storeExec (0, 0)) (brokerAnswers [.refuse false, .ok])
          s.world = (some (.ok x), w) ∧
        x.result = .error StoreError.gateCommitUnknown.text ∧
        (w.ownInstalls brokerGate sampleKey (0, 0)).length = 2 ∧
        (s.world.ownInstalls brokerGate sampleKey (0, 0)).length = 1 := by
  have hrun : ((Machine.Pool.initial (gateMachine brokerGate) (freshWorld sampleKey 1 2)).runs
      brokerBegin).any (fun s => (heldPermit s).any fun permit =>
        returned (fun x _ => x.result = .ok ())
          ((brokerAdvance permit).run (storeExec (0, 0)) (brokerAnswers (oks 1)) s.world) &&
        returned (fun x w => x.result = .error StoreError.gateCommitUnknown.text ∧
            (w.ownInstalls brokerGate sampleKey (0, 0)).length = 2 ∧
            (s.world.ownInstalls brokerGate sampleKey (0, 0)).length = 1)
          ((brokerAdvance permit).run (storeExec (0, 0)) (brokerAnswers [.refuse false, .ok])
            s.world)) = true := by decide +kernel
  obtain ⟨s, hs, hf⟩ := Machine.Reachable.of_runs hrun
  obtain ⟨permit, hpermit, hboth⟩ := (Option.any_eq_true ..).mp hf
  obtain ⟨hok, hfailed⟩ := Bool.and_eq_true_iff.mp hboth
  obtain ⟨x, w, hx, hresult⟩ := returned_eq_true hok
  obtain ⟨y, v, hy, hleft⟩ := returned_eq_true hfailed
  exact ⟨s, permit, hs, heldPermit_eq_some hpermit, ⟨x, w, hx, of_decide_eq_true hresult⟩,
    y, v, hy, of_decide_eq_true hleft⟩

theorem broker_advance_framed_moved :
    ∃ s permit x w, Machine.Reachable (gateMachine brokerGate) (freshWorld sampleKey 1 2) s ∧
      (brokerAdvance permit).run (storeExec (0, 0)) (brokerAnswers (oks 1)) s.world =
        (some (.ok x), w) ∧
      MovesBoundTab brokerState (sampleOperation "secure.login.gov" (.backupCode "#code" "#submit"
        "#account" "user@example.test" "CODE" "synthetic:1")) (sampleOperation "sam.gov"
        (.renew "#renew" "#account" "user@example.test")) x.persisted := by
  obtain ⟨s, permit, hs, hidle, ⟨x, w, hrun, hok⟩, -⟩ := brokerAdvance_runs
  have hframed := broker_advance_framed (P := samplePrivateEnv) brokerGate_lawful hs hidle
    (fun _ => 0) brokerState (sampleLive "https://sam.gov/")
    "ws://127.0.0.1:9222/devtools/browser/original" (sampleOperation "secure.login.gov"
      (.backupCode "#code" "#submit" "#account" "user@example.test" "CODE" "synthetic:1"))
    (sampleOperation "sam.gov" (.renew "#renew" "#account" "user@example.test")) 0 "" ""
  obtain ⟨-, -, hends⟩ := hframed.run (GateRely.refl _) (gate_holds brokerGate_lawful hs).inv
    (brokerAnswers (oks 1))
  refine ⟨s, permit, x, w, hs, hrun, ?_⟩
  have hx := hends (.ok x) (congrArg Prod.fst hrun)
  simp only [Outcome, AdvanceFramed, hok] at hx
  exact hx.1

/-- The directory cannot be synced after the rename: the advance fails with its stage on disk. -/
theorem failed_broker_advance_can_move_stage :
    ¬ ∀ s, Machine.Reachable (gateMachine brokerGate) (freshWorld sampleKey 1 2) s →
      ∀ t permit, s.agent t = .idle (.permit permit) → ∀ answers x w error,
        (brokerAdvance permit).run (storeExec t) answers s.world = (some (.ok x), w) →
        x.result = .error error →
        w.ownInstalls brokerGate sampleKey t = s.world.ownInstalls brokerGate sampleKey t := by
  intro hclaim
  obtain ⟨s, permit, hs, hidle, -, x, w, hrun, hfailed, hafter, hbefore⟩ := brokerAdvance_runs
  have hsame := hclaim s hs _ permit hidle _ x w _ hrun hfailed
  rw [hsame, hbefore] at hafter
  cases hafter

end Samples

end Private
end AgentBrowser
