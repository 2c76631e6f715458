import AgentBrowser.Checks
import AgentBrowser.RemoteViewHandoff
import AgentBrowser.StandardText
import Mathlib.Logic.Relation

namespace AgentBrowser
set_option autoImplicit true

section Recovery

/-- A browser that the process of the identity may belong to. -/
def claimsProcess (identity : RemoteViewRecoveryIdentity) (candidate : BrowserProcess) : Bool :=
  candidate.pid = some identity.browserPid ||
    candidate.cdpEndpoint = some identity.cdpEndpoint ||
    (candidate.profileId = some identity.profileId && candidate.health = .ready &&
      candidate.pid.isSome)

def claimsBrowser (identity : RemoteViewRecoveryIdentity) (candidate : BrowserSession) : Bool :=
  candidate.browserIds.contains identity.browserId && candidate.lease ≠ .released &&
    candidate.lease ≠ .expired

def claimsTarget (identity : RemoteViewRecoveryIdentity) (candidate : BrowserTab) : Bool :=
  candidate.targetId = some identity.targetId

def claimants (rows : BTreeMap α) (claims : α → Bool) : List α :=
  (rows.toList.map (·.2)).filter claims

/-- The identity that a handoff was given, if the rows still bear it out and nothing else claims a
part of it. -/
def durableHandoffRecoveryIdentity (stored : HandoffState) (handoffId : String) :
    Except String RemoteViewRecoveryIdentity := do
  let handoff ← orRefuse stored.remoteViewHandoffs[handoffId]? "durable_handoff_not_found"
  let identity ← orRefuse handoff.recoveryIdentity "durable_handoff_recovery_identity_missing"
  refuseIf (handoff.browserId ≠ some identity.browserId ||
    handoff.sessionName ≠ some identity.sessionName ||
    handoff.profileId ≠ some identity.profileId || handoff.targetId ≠ some identity.targetId)
    "durable_handoff_recovery_identity_changed"
  let browser ← orRefuse stored.state.browsers[identity.browserId]?
    "durable_handoff_browser_missing"
  let session ← orRefuse stored.state.sessions[identity.sessionName]?
    "durable_handoff_session_missing"
  let profile ← orRefuse stored.state.profiles[identity.profileId]?
    "durable_handoff_profile_missing"
  refuseIf (browser.health ≠ .ready || browser.profileId ≠ some identity.profileId ||
    browser.browserBuild ≠ some identity.browserBuild ||
    browser.executablePath ≠ some identity.executablePath ||
    browser.pid ≠ some identity.browserPid || browser.cdpEndpoint ≠ some identity.cdpEndpoint ||
    browser.browserBuildProof ≠ some identity.browserBuildProof ||
    profile.browserBuild.any (· ≠ identity.browserBuild) ||
    session.profileId ≠ some identity.profileId || session.browserIds ≠ [identity.browserId] ||
    session.lease = .released || session.lease = .expired ||
    !browser.activeSessionIds.contains identity.sessionName)
    "durable_handoff_current_identity_mismatch"
  let targetClaims := claimants stored.state.tabs (claimsTarget identity)
  refuseIf ((claimants stored.state.browsers (claimsProcess identity)).length ≠ 1 ||
    (claimants stored.state.sessions (claimsBrowser identity)).length ≠ 1 ||
    targetClaims.length ≠ 1) "durable_handoff_recovery_identity_ambiguous"
  -- there is a first one, for there is exactly one
  let tab ← orRefuse targetClaims.head? "durable_handoff_recovery_identity_ambiguous"
  refuseIf (tab.browserId ≠ identity.browserId ||
    tab.ownerSessionId ≠ some identity.sessionName || tab.lifecycle ≠ .ready)
    "durable_handoff_target_identity_mismatch"
  .ok identity

/-- The port of an endpoint on this host. -/
def localPort (endpoint : String) : Option Nat := do
  let rest ← stripPrefix "ws://127.0.0.1:".toList endpoint.toList
  let (port, browserUuid) ← splitOnce "/devtools/browser/".toList rest
  guard (browserUuid ≠ [])
  parseUnsigned 16 port

def ownerPrepareCommand (handoffId : String) (source : JsonValue)
    (identity : RemoteViewRecoveryIdentity) (port : Nat) : JsonValue :=
  .ofFields
    [("id", .string ("retained-owner-prepare:" ++ handoffId)),
      ("action", .string "retained_owner_prepare"), ("handoffId", .string handoffId),
      ("browserId", .string identity.browserId), ("sessionName", .string identity.sessionName),
      ("runtimeProfile", .string identity.profileId), ("cdpPort", .number port),
      ("expectedBrowserPid", .number identity.browserPid),
      ("expectedCdpEndpoint", .string identity.cdpEndpoint),
      ("expectedTargetId", .string identity.targetId),
      ("expectedTargetUrl", .ofStr identity.targetUrl),
      ("serviceName", (source.get "serviceName").getD .null),
      ("agentName", (source.get "agentName").getD .null),
      ("taskName", (source.get "taskName").getD .null)]

def durableHandoffOwnerPrepareCommand (stored : HandoffState) (handoffId : String)
    (source : JsonValue) : Except String JsonValue := do
  let identity ← durableHandoffRecoveryIdentity stored handoffId
  let port ← orRefuse (localPort identity.cdpEndpoint) "durable_handoff_cdp_endpoint_invalid"
  .ok (ownerPrepareCommand handoffId source identity port)

end Recovery

section Claimants

/-- A row with this property stands under exactly one key. -/
def OneRow (rows : BTreeMap α) (claims : α → Bool) : Prop :=
  ∃! id : String, ∃ row, rows[id]? = some row ∧ claims row = true

theorem mem_entries {rows : BTreeMap α} {claims : α → Bool} {entry : String × α} :
    entry ∈ rows.toList.filter (fun entry => claims entry.2) ↔
      rows[entry.1]? = some entry.2 ∧ claims entry.2 = true := by
  rw [List.mem_filter, Std.ExtTreeMap.mem_toList_iff_getElem?_eq_some]

theorem claimants_length (rows : BTreeMap α) (claims : α → Bool) :
    (claimants rows claims).length = (rows.toList.filter fun entry => claims entry.2).length := by
  rw [claimants, List.filter_map, List.length_map]
  rfl

theorem claimants_one {rows : BTreeMap α} {claims : α → Bool} :
    (claimants rows claims).length = 1 ↔ OneRow rows claims := by
  rw [claimants_length, List.length_eq_one_iff]
  constructor
  · rintro ⟨entry, hentry⟩
    have hmem {other : String × α} : other = entry ↔
        rows[other.1]? = some other.2 ∧ claims other.2 = true := by
      rw [← mem_entries, hentry, List.mem_singleton]
    obtain ⟨hrow, hclaims⟩ := hmem.mp rfl
    refine ⟨entry.1, ⟨entry.2, hrow, hclaims⟩, ?_⟩
    rintro id ⟨row, hother, hotherClaims⟩
    exact congrArg Prod.fst (hmem.mpr ⟨hother, hotherClaims⟩ : (id, row) = entry)
  · rintro ⟨id, ⟨row, hrow, hclaims⟩, hunique⟩
    have hsame {entry : String × α}
        (hentry : entry ∈ rows.toList.filter fun entry => claims entry.2) : entry.1 = id :=
      hunique entry.1 ⟨entry.2, mem_entries.mp hentry⟩
    have hdistinct := (Std.ExtTreeMap.distinct_keys_toList (t := rows)).sublist
      (List.filter_sublist (p := fun entry => claims entry.2))
    have hmem : (id, row) ∈ rows.toList.filter fun entry => claims entry.2 :=
      mem_entries.mpr ⟨hrow, hclaims⟩
    cases hentries : rows.toList.filter fun entry => claims entry.2 with
    | nil =>
      rw [hentries] at hmem
      cases hmem
    | cons first rest =>
      cases rest with
      | nil => exact ⟨first, rfl⟩
      | cons second rest =>
        rw [hentries] at hdistinct hsame
        have hfirst := hsame (List.mem_cons_self)
        have hsecond := hsame (List.mem_cons_of_mem first List.mem_cons_self)
        refine absurd ?_ (List.rel_of_pairwise_cons hdistinct List.mem_cons_self)
        rw [hfirst, hsecond]
        exact Std.ReflCmp.compare_self

end Claimants

/-- The rows name the process, the session and the profile of the identity. -/
structure BornOut (state : ServiceState) (identity : RemoteViewRecoveryIdentity) : Prop where
  browser : ∃ browser, state.browsers[identity.browserId]? = some browser ∧
    browser.health = .ready ∧ browser.profileId = some identity.profileId ∧
    browser.browserBuild = some identity.browserBuild ∧
    browser.executablePath = some identity.executablePath ∧
    browser.pid = some identity.browserPid ∧ browser.cdpEndpoint = some identity.cdpEndpoint ∧
    browser.browserBuildProof = some identity.browserBuildProof ∧
    identity.sessionName ∈ browser.activeSessionIds
  profile : ∃ profile, state.profiles[identity.profileId]? = some profile ∧
    ∀ build, profile.browserBuild = some build → build = identity.browserBuild
  session : ∃ session, state.sessions[identity.sessionName]? = some session ∧
    session.profileId = some identity.profileId ∧ session.browserIds = [identity.browserId] ∧
    session.lease ≠ .released ∧ session.lease ≠ .expired

/-- One browser, one session and one tab claim what the identity names. -/
structure ClaimedOnce (state : ServiceState) (identity : RemoteViewRecoveryIdentity) : Prop where
  browser : OneRow state.browsers (claimsProcess identity)
  session : OneRow state.sessions (claimsBrowser identity)
  target : OneRow state.tabs (claimsTarget identity)

def TargetOwned (state : ServiceState) (identity : RemoteViewRecoveryIdentity) : Prop :=
  ∃ id : String, ∃ tab, state.tabs[id]? = some tab ∧ tab.targetId = some identity.targetId ∧
    tab.browserId = identity.browserId ∧ tab.ownerSessionId = some identity.sessionName ∧
    tab.lifecycle = .ready

def HandoffNames (stored : HandoffState) (handoffId : String)
    (identity : RemoteViewRecoveryIdentity) : Prop :=
  ∃ handoff, stored.remoteViewHandoffs[handoffId]? = some handoff ∧
    handoff.recoveryIdentity = some identity ∧ handoff.browserId = some identity.browserId ∧
    handoff.sessionName = some identity.sessionName ∧
    handoff.profileId = some identity.profileId ∧ handoff.targetId = some identity.targetId

section Recovered
variable {stored : HandoffState} {handoffId : String} {identity : RemoteViewRecoveryIdentity}

theorem forbidsBuild {build : Option BrowserBuild} {expected : BrowserBuild} :
    build.any (· ≠ expected) = false ↔ ∀ found, build = some found → found = expected := by
  rw [← allowsBuild, Bool.not_eq_true']

theorem targetOwned_of_head {state : ServiceState} {tab : BrowserTab}
    (h : (claimants state.tabs (claimsTarget identity)).head? = some tab)
    (hbrowser : tab.browserId = identity.browserId)
    (hsession : tab.ownerSessionId = some identity.sessionName) (hready : tab.lifecycle = .ready) :
    TargetOwned state identity := by
  obtain ⟨hmem, htarget⟩ := List.mem_filter.mp (List.mem_of_head? h)
  obtain ⟨⟨id, _⟩, hentry, rfl⟩ := List.mem_map.mp hmem
  exact ⟨id, _, Std.ExtTreeMap.mem_toList_iff_getElem?_eq_some.mp hentry,
    of_decide_eq_true htarget, hbrowser, hsession, hready⟩

theorem head_of_targetOwned {state : ServiceState}
    (hone : OneRow state.tabs (claimsTarget identity)) (howned : TargetOwned state identity) :
    ∃ tab, (claimants state.tabs (claimsTarget identity)).head? = some tab ∧
      tab.browserId = identity.browserId ∧ tab.ownerSessionId = some identity.sessionName ∧
      tab.lifecycle = .ready := by
  obtain ⟨tab, htabs⟩ := List.length_eq_one_iff.mp (claimants_one.mpr hone)
  obtain ⟨id, own, hrow, htarget, howned⟩ := howned
  have hmem : own ∈ claimants state.tabs (claimsTarget identity) :=
    List.mem_filter.mpr ⟨List.mem_map.mpr
      ⟨(id, own), Std.ExtTreeMap.mem_toList_iff_getElem?_eq_some.mpr hrow, rfl⟩,
      decide_eq_true htarget⟩
  rw [htabs, List.mem_singleton] at hmem
  rw [htabs]
  exact ⟨tab, rfl, hmem ▸ howned⟩

/-- A recovery succeeds exactly on an identity that the rows bear out and that is claimed once. -/
theorem durableHandoffRecoveryIdentity_eq_ok :
    durableHandoffRecoveryIdentity stored handoffId = .ok identity ↔
      HandoffNames stored handoffId identity ∧ BornOut stored.state identity ∧
        ClaimedOnce stored.state identity ∧ TargetOwned stored.state identity := by
  simp only [durableHandoffRecoveryIdentity, Except.bind_eq_ok, orRefuse_eq_ok, refuseIf_eq_ok,
    Bool.or_eq_false_iff, decide_eq_false_iff_not, not_not, forbidsBuild, ne_eq,
    Bool.not_eq_false', List.contains_iff_mem, claimants_one, and_assoc]
  constructor
  · rintro ⟨handoff, hhandoff, found, hfound, _, hnameBrowser, hnameSession, hnameProfile,
      hnameTarget, browser, hbrowser, session, hsession, profile, hprofile, _, hhealth, hown,
      hbuild, hpath, hpid, hendpoint, hproof, hbuilds, hsessionProfile, hsessionBrowsers,
      hreleased, hexpired, hactive, _, honeBrowser, honeSession, honeTarget, tab, htab, _,
      htabBrowser, htabSession, htabReady, hok⟩
    cases hok
    exact ⟨⟨handoff, hhandoff, hfound, hnameBrowser, hnameSession, hnameProfile, hnameTarget⟩,
      ⟨⟨browser, hbrowser, hhealth, hown, hbuild, hpath, hpid, hendpoint, hproof, hactive⟩,
        ⟨profile, hprofile, hbuilds⟩,
        ⟨session, hsession, hsessionProfile, hsessionBrowsers, hreleased, hexpired⟩⟩,
      ⟨honeBrowser, honeSession, honeTarget⟩,
      targetOwned_of_head htab htabBrowser htabSession htabReady⟩
  · rintro ⟨⟨handoff, hhandoff, hfound, hnameBrowser, hnameSession, hnameProfile, hnameTarget⟩,
      ⟨⟨browser, hbrowser, hhealth, hown, hbuild, hpath, hpid, hendpoint, hproof, hactive⟩,
        ⟨profile, hprofile, hbuilds⟩,
        ⟨session, hsession, hsessionProfile, hsessionBrowsers, hreleased, hexpired⟩⟩,
      ⟨honeBrowser, honeSession, honeTarget⟩, howned⟩
    obtain ⟨tab, htab, htabBrowser, htabSession, htabReady⟩ :=
      head_of_targetOwned honeTarget howned
    exact ⟨handoff, hhandoff, identity, hfound, (), hnameBrowser, hnameSession, hnameProfile,
      hnameTarget, browser, hbrowser, session, hsession, profile, hprofile, (), hhealth, hown,
      hbuild, hpath, hpid, hendpoint, hproof, hbuilds, hsessionProfile, hsessionBrowsers,
      hreleased, hexpired, hactive, (), honeBrowser, honeSession, honeTarget, tab, htab, (),
      htabBrowser, htabSession, htabReady, rfl⟩

end Recovered

section Prepare

/-- An endpoint of a browser on this host, and its port. -/
def LocalEndpoint (endpoint : String) (port : Nat) : Prop :=
  ∃ digits browserUuid, endpoint.toList =
    "ws://127.0.0.1:".toList ++ (digits ++ ("/devtools/browser/".toList ++ browserUuid)) ∧
    browserUuid ≠ [] ∧ parseUnsigned 16 digits = some port

/-- The command names the process, its endpoint and port, and the target. -/
structure NamesOwner (command : JsonValue) (identity : RemoteViewRecoveryIdentity) (port : Nat) :
    Prop where
  browser : command.get "browserId" = some (.string identity.browserId)
  session : command.get "sessionName" = some (.string identity.sessionName)
  profile : command.get "runtimeProfile" = some (.string identity.profileId)
  port : command.get "cdpPort" = some (.number port)
  process : command.get "expectedBrowserPid" = some (.number identity.browserPid)
  endpoint : command.get "expectedCdpEndpoint" = some (.string identity.cdpEndpoint)
  target : command.get "expectedTargetId" = some (.string identity.targetId)
  targetUrl : command.get "expectedTargetUrl" = some (.ofStr identity.targetUrl)

theorem slash_not_mem_of_parseUnsigned (h : parseUnsigned width digits = some n) :
    '/' ∉ digits := by
  rw [parseUnsigned, Option.ite_none_right_eq_some] at h
  obtain ⟨⟨_, hdigits, _⟩, _⟩ := h
  intro hslash
  have hmem : '/' ∈ if digits.head? = some '+' then digits.tail else digits := by
    split
    · rename_i hplus
      cases digits with
      | nil => cases hslash
      | cons c digits =>
        obtain rfl : c = '+' := Option.some.inj hplus
        exact (List.mem_cons.mp hslash).resolve_left (by decide)
    · exact hslash
  have hdigit := List.all_eq_true.mp hdigits _ hmem
  revert hdigit
  decide

theorem localPort_eq_some {endpoint : String} {port : Nat} :
    localPort endpoint = some port ↔ LocalEndpoint endpoint port := by
  unfold localPort
  constructor
  · intro h
    obtain ⟨rest, hrest, h⟩ := Option.bind_eq_some_iff.mp h
    obtain ⟨⟨digits, browserUuid⟩, hsplit, h⟩ := Option.bind_eq_some_iff.mp h
    obtain ⟨_, huuid, hport⟩ := Option.bind_eq_some_iff.mp h
    refine ⟨digits, browserUuid, ?_, (Option.guard_eq_some' _).mp huuid, hport⟩
    rw [stripPrefix_eq_some.mp hrest, splitOnce_eq_some hsplit]
  · rintro ⟨digits, browserUuid, hendpoint, huuid, hport⟩
    have hsplit : splitOnce "/devtools/browser/".toList
        (digits ++ ("/devtools/browser/".toList ++ browserUuid)) = some (digits, browserUuid) :=
      splitOnce_append (slash_not_mem_of_parseUnsigned hport)
    rw [stripPrefix_eq_some.mpr hendpoint]
    simp only [Option.bind_eq_bind, Option.bind_some, hsplit, guard, huuid, ne_eq, not_false_eq_true,
      if_true]
    exact hport

theorem ownerPrepareCommand_names (handoffId : String) (source : JsonValue)
    (identity : RemoteViewRecoveryIdentity) (port : Nat) :
    NamesOwner (ownerPrepareCommand handoffId source identity port) identity port := by
  constructor <;>
  · rw [ownerPrepareCommand, JsonValue.get_ofFields]
    rfl

variable {stored : HandoffState} {handoffId : String} {identity : RemoteViewRecoveryIdentity}

/-- Where a recovery succeeds, the command for the owner names what it found, or is refused for an
endpoint that is not on this host. -/
theorem durableHandoffOwnerPrepareCommand_of_recovered
    (h : durableHandoffRecoveryIdentity stored handoffId = .ok identity) (source : JsonValue) :
    (∀ port, LocalEndpoint identity.cdpEndpoint port →
      ∃ command, durableHandoffOwnerPrepareCommand stored handoffId source = .ok command ∧
        NamesOwner command identity port) ∧
    ((∀ port, ¬ LocalEndpoint identity.cdpEndpoint port) →
      durableHandoffOwnerPrepareCommand stored handoffId source =
        .error "durable_handoff_cdp_endpoint_invalid") := by
  constructor
  · intro port hport
    refine ⟨_, ?_, ownerPrepareCommand_names handoffId source identity port⟩
    exact Except.bind_eq_ok.mpr ⟨_, h, Except.bind_eq_ok.mpr
      ⟨_, orRefuse_eq_ok.mpr (localPort_eq_some.mpr hport), rfl⟩⟩
  · intro hnone
    have hport : localPort identity.cdpEndpoint = none :=
      Option.eq_none_iff_forall_ne_some.mpr fun port hport =>
        hnone port (localPort_eq_some.mp hport)
    rw [durableHandoffOwnerPrepareCommand, h]
    change (orRefuse (localPort identity.cdpEndpoint) _ >>= _) = _
    rw [hport]
    rfl

theorem durableHandoffOwnerPrepareCommand_ok {source command : JsonValue}
    (h : durableHandoffOwnerPrepareCommand stored handoffId source = .ok command) :
    ∃ identity port, durableHandoffRecoveryIdentity stored handoffId = .ok identity ∧
      LocalEndpoint identity.cdpEndpoint port ∧ NamesOwner command identity port := by
  obtain ⟨identity, hidentity, h⟩ := Except.bind_eq_ok.mp h
  obtain ⟨port, hport, h⟩ := Except.bind_eq_ok.mp h
  obtain rfl := Except.ok.inj h
  exact ⟨identity, port, hidentity, localPort_eq_some.mp (orRefuse_eq_ok.mp hport),
    ownerPrepareCommand_names handoffId source identity port⟩

end Prepare

section Later
variable (toValue : RemoteViewOpenIntent → JsonValue)

/-- What happens to a service: rows change and handoffs drop out, or an open is recorded. -/
inductive HandoffEvent where
  | rows (after : HandoffState)
  | opened (input : PersistRemoteViewHandoffInput)

inductive HandoffStep : HandoffState → HandoffEvent → HandoffState → Prop where
  | rows {before after : HandoffState}
    (h : ∀ id : String, ∀ handoff, after.remoteViewHandoffs[id]? = some handoff →
      before.remoteViewHandoffs[id]? = some handoff) :
    HandoffStep before (.rows after) after
  | opened {before after : HandoffState} {input : PersistRemoteViewHandoffInput}
    (h : persistRemoteViewHandoff toValue input before = .ok after) :
    HandoffStep before (.opened input) after

/-- Any open that is recorded under this handoff finds the rows as the identity has them, or finds
no identity in them. -/
def SameProcess (handoffId : String) (identity : RemoteViewRecoveryIdentity)
    (before : HandoffState) : HandoffEvent → Prop
  | .rows _ => True
  | .opened input => input.handoffId = handoffId → ∀ other, CapturedFrom before.state
      input.browserId input.sessionName input.profileId input.targetId other → other = identity

/-- A state that comes later, where each step on the way is of a kind. -/
def LaterState (kind : HandoffState → HandoffEvent → Prop) : HandoffState → HandoffState → Prop :=
  Relation.ReflTransGen fun before after =>
    ∃ event, HandoffStep toValue before event after ∧ kind before event

/-- No handoff under this id has another identity. -/
def OnlyIdentity (handoffId : String) (identity : RemoteViewRecoveryIdentity)
    (stored : HandoffState) : Prop :=
  ∀ handoff, stored.remoteViewHandoffs[handoffId]? = some handoff →
    ∀ found, handoff.recoveryIdentity = some found → found = identity

variable {toValue} {handoffId : String} {identity : RemoteViewRecoveryIdentity}

theorem OnlyIdentity.step (h : OnlyIdentity handoffId identity before)
    (hstep : HandoffStep toValue before event after)
    (hsame : SameProcess handoffId identity before event) :
    OnlyIdentity handoffId identity after := by
  cases hstep with
  | rows hkept => exact fun handoff hhandoff => h handoff (hkept _ _ hhandoff)
  | opened hpersist =>
    rename_i input
    obtain ⟨createdAt, recoveryIdentity, rfl, hidentity⟩ := persistRemoteViewHandoff_ok hpersist
    intro handoff hhandoff found hfound
    by_cases hid : input.handoffId = handoffId
    · rw [← hid, Std.ExtTreeMap.getElem?_insert_self] at hhandoff
      cases hhandoff
      exact hsame hid found ((hidentity found).mp hfound)
    · rw [Std.ExtTreeMap.getElem?_insert, if_neg (by simpa using hid)] at hhandoff
      exact h handoff hhandoff found hfound

theorem OnlyIdentity.later (h : OnlyIdentity handoffId identity before)
    (hlater : LaterState toValue (SameProcess handoffId identity) before after) :
    OnlyIdentity handoffId identity after := by
  induction hlater with
  | refl => exact h
  | tail _ hstep ih =>
    obtain ⟨event, hstep, hsame⟩ := hstep
    exact ih.step hstep hsame

end Later

section Law
variable {toValue : RemoteViewOpenIntent → JsonValue} {stored captured later : HandoffState}
  {input : PersistRemoteViewHandoffInput} {identity : RemoteViewRecoveryIdentity}

/-- The open put this identity on record. -/
def Captures (toValue : RemoteViewOpenIntent → JsonValue) (input : PersistRemoteViewHandoffInput)
    (stored captured : HandoffState) (identity : RemoteViewRecoveryIdentity) : Prop :=
  persistRemoteViewHandoff toValue input stored = .ok captured ∧
    ∃ handoff, captured.remoteViewHandoffs[input.handoffId]? = some handoff ∧
      handoff.recoveryIdentity = some identity

/-- What is recovered later is what was captured, and nothing else claims it. -/
structure RecoversOnly (handoffId : String) (identity : RemoteViewRecoveryIdentity)
    (later : HandoffState) : Prop where
  same : ∀ found, durableHandoffRecoveryIdentity later handoffId = .ok found → found = identity
  once : ∀ found, durableHandoffRecoveryIdentity later handoffId = .ok found →
    ClaimedOnce later.state identity ∧ TargetOwned later.state identity
  prepared : ∀ source command,
    durableHandoffOwnerPrepareCommand later handoffId source = .ok command →
      ∃ port, LocalEndpoint identity.cdpEndpoint port ∧ NamesOwner command identity port

theorem CapturedFrom.bornOut {state : ServiceState}
    (h : CapturedFrom state browserId sessionName profileId targetId identity) :
    BornOut state identity := by
  obtain ⟨⟨rfl, rfl, _⟩, ⟨browser, hbrowser, hhealth, hown, hpid, hendpoint, hbuild, hpath, hproof,
    hactive⟩, hsession, hprofile, _⟩ := h
  exact ⟨⟨browser, hbrowser, hhealth, hown, hbuild, hpath, hpid, hendpoint, hproof, hactive⟩,
    hprofile, hsession⟩

theorem CapturedFrom.targetOwned {state : ServiceState}
    (h : CapturedFrom state browserId sessionName profileId targetId identity) :
    TargetOwned state identity := by
  obtain ⟨tab, htabs, htabBrowser, htabSession, htabReady, _⟩ := h.tab
  obtain ⟨rfl, rfl, _⟩ := h.names
  have hhead : (claimants state.tabs (claimsTarget identity)).head? = some tab :=
    congrArg List.head? htabs
  exact targetOwned_of_head hhead htabBrowser htabSession htabReady

theorem Captures.capturedFrom (h : Captures toValue input stored captured identity) :
    captured.state = stored.state ∧ HandoffNames captured input.handoffId identity ∧
      CapturedFrom stored.state input.browserId input.sessionName input.profileId input.targetId
        identity := by
  obtain ⟨hpersist, handoff, hhandoff, hfound⟩ := h
  obtain ⟨createdAt, recoveryIdentity, rfl, hidentity⟩ := persistRemoteViewHandoff_ok hpersist
  rw [Std.ExtTreeMap.getElem?_insert_self] at hhandoff
  cases hhandoff
  have hcaptured := (hidentity identity).mp hfound
  obtain ⟨hbrowser, hsession, hprofile, htarget⟩ := hcaptured.names
  exact ⟨rfl, ⟨_, Std.ExtTreeMap.getElem?_insert_self, hfound, congrArg some hbrowser.symm,
    congrArg some hsession.symm, hprofile, htarget⟩, hcaptured⟩

/-- Right after the capture the handoff is recovered exactly if the identity is claimed once. -/
theorem Captures.recovered (h : Captures toValue input stored captured identity) :
    durableHandoffRecoveryIdentity captured input.handoffId = .ok identity ↔
      ClaimedOnce captured.state identity := by
  obtain ⟨hstate, hnames, hcaptured⟩ := h.capturedFrom
  rw [durableHandoffRecoveryIdentity_eq_ok, hstate]
  constructor
  · rintro ⟨_, _, honce, _⟩
    exact honce
  · intro honce
    exact ⟨hnames, hcaptured.bornOut, honce, hcaptured.targetOwned⟩

theorem OnlyIdentity.recoversOnly {handoffId : String}
    (h : OnlyIdentity handoffId identity later) : RecoversOnly handoffId identity later := by
  have hsame (found) (hfound : durableHandoffRecoveryIdentity later handoffId = .ok found) :
      found = identity := by
    obtain ⟨⟨handoff, hhandoff, hown, _⟩, _⟩ := durableHandoffRecoveryIdentity_eq_ok.mp hfound
    exact h handoff hhandoff found hown
  refine ⟨hsame, fun found hfound => ?_, fun source command hcommand => ?_⟩
  · rw [← hsame found hfound]
    exact (durableHandoffRecoveryIdentity_eq_ok.mp hfound).2.2
  · obtain ⟨found, port, hfound, hport, hnames⟩ := durableHandoffOwnerPrepareCommand_ok hcommand
    obtain rfl := hsame found hfound
    exact ⟨port, hport, hnames⟩

theorem Captures.onlyIdentity (h : Captures toValue input stored captured identity) :
    OnlyIdentity input.handoffId identity captured := by
  obtain ⟨handoff, hhandoff, hown⟩ := h.2
  intro other hother found hfound
  obtain rfl := Option.some.inj (hhandoff.symm.trans hother)
  exact Option.some.inj (hfound.symm.trans hown)

/-- A captured identity is the only one that is recovered, as long as no open under its handoff
captures another. -/
theorem captured_identity_recovered (h : Captures toValue input stored captured identity) :
    (∀ later, LaterState toValue (SameProcess input.handoffId identity) captured later →
      RecoversOnly input.handoffId identity later) ∧
    (ClaimedOnce captured.state identity →
      durableHandoffRecoveryIdentity captured input.handoffId = .ok identity) ∧
    ∀ later, durableHandoffRecoveryIdentity later input.handoffId = .ok identity → ∀ source,
      (∀ port, LocalEndpoint identity.cdpEndpoint port →
        ∃ command, durableHandoffOwnerPrepareCommand later input.handoffId source = .ok command ∧
          NamesOwner command identity port) ∧
      ((∀ port, ¬ LocalEndpoint identity.cdpEndpoint port) →
        durableHandoffOwnerPrepareCommand later input.handoffId source =
          .error "durable_handoff_cdp_endpoint_invalid") := by
  refine ⟨fun later hlater => (h.onlyIdentity.later hlater).recoversOnly, h.recovered.mpr,
    fun later hlater source => ?_⟩
  exact durableHandoffOwnerPrepareCommand_of_recovered hlater source

end Law

section Reopened

/-- The rows of a running browser and its tab. -/
def provenState (pid : Nat) : HandoffState where
  state :=
    { provenRows pid with
      tabs := (∅ : BTreeMap BrowserTab).insert "t1"
        { id := "t1", browserId := "b", targetId := some "t", ownerSessionId := some "s"
          lifecycle := .ready } }

def provenIdentity (pid : Nat) : RemoteViewRecoveryIdentity where
  browserId := "b"
  sessionName := "s"
  profileId := "p"
  browserPid := pid
  cdpEndpoint := provenEndpoint
  browserBuild := .stockChrome
  executablePath := "/chrome"
  executableSha256 := some "d1"
  processStartTicks := 7
  targetId := "t"
  targetUrl := none
  browserBuildProof := (provenBrowser pid).browserBuildProof.getD .null

def reopened (pid : Nat) (before : HandoffState) : HandoffState :=
  { provenState pid with
    remoteViewHandoffs := before.remoteViewHandoffs.insert "h"
      (readyHandoff (fun _ => .null) sampleInput
        ((before.remoteViewHandoffs["h"]?.bind (·.createdAt)).or (some sampleInput.observedAt))
        (some (provenIdentity pid))) }

theorem captureRunning_proven (pid : Nat) (hpid : pid = 10 ∨ pid = 11) :
    captureRunning (provenState pid).state "b" "s" (some "p") (some "t") =
      .ok (provenIdentity pid) := by
  rcases hpid with rfl | rfl <;> decide

theorem persist_proven (pid : Nat) (hpid : pid = 10 ∨ pid = 11) (before : HandoffState) :
    persistRemoteViewHandoff (fun _ => .null) sampleInput
      { provenState pid with remoteViewHandoffs := before.remoteViewHandoffs } =
        .ok (reopened pid before) := by
  have hprofile : sampleInput.profileId = some "p" := by decide
  have htarget : sampleInput.targetId = some "t" := by decide
  have hbrowser : sampleInput.browserId = "b" := rfl
  have hsession : sampleInput.sessionName = "s" := rfl
  unfold persistRemoteViewHandoff
  simp only [hprofile, htarget, hbrowser, hsession, captureRunning_proven pid hpid]
  rfl

theorem captures_proven :
    Captures (fun _ => .null) sampleInput (provenState 10) (reopened 10 (provenState 10))
      (provenIdentity 10) :=
  ⟨persist_proven 10 (.inl rfl) (provenState 10), _, Std.ExtTreeMap.getElem?_insert_self, rfl⟩

theorem claimedOnce_proven (pid : Nat) (hpid : pid = 10 ∨ pid = 11) :
    ClaimedOnce (provenState pid).state (provenIdentity pid) := by
  rcases hpid with rfl | rfl <;>
    exact ⟨claimants_one.mp (by decide), claimants_one.mp (by decide),
      claimants_one.mp (by decide)⟩

theorem captured_identity_recovered_proven :
    durableHandoffRecoveryIdentity (reopened 10 (provenState 10)) "h" = .ok (provenIdentity 10) :=
  (captured_identity_recovered captures_proven).2.1 (claimedOnce_proven 10 (.inl rfl))

/-- A browser that was started again is captured under the handoff of the one before. -/
theorem restarted_process_recovered :
    ¬ ∀ toValue input stored captured identity later,
      Captures toValue input stored captured identity →
        LaterState toValue (fun _ _ => True) captured later →
          RecoversOnly input.handoffId identity later := by
  intro h
  let first := reopened 10 (provenState 10)
  let restarted : HandoffState :=
    { provenState 11 with remoteViewHandoffs := first.remoteViewHandoffs }
  have hlater : LaterState (fun _ => .null) (fun _ _ => True) first (reopened 11 first) :=
    .tail (.single ⟨.rows restarted, .rows fun _ _ hkept => hkept, trivial⟩)
      ⟨.opened sampleInput, .opened (persist_proven 11 (.inr rfl) first), trivial⟩
  have hcaptures : Captures (fun _ => .null) sampleInput restarted (reopened 11 first)
      (provenIdentity 11) :=
    ⟨persist_proven 11 (.inr rfl) first, _, Std.ExtTreeMap.getElem?_insert_self, rfl⟩
  have hpid := (h _ _ _ _ _ _ captures_proven hlater).same _
    (hcaptures.recovered.mpr (claimedOnce_proven 11 (.inr rfl)))
  revert hpid
  decide

end Reopened

end AgentBrowser
