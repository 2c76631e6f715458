import AgentBrowser.DerivedViews

namespace AgentBrowser
set_option autoImplicit true

/-- A page or the like that a browser reports over its endpoint. -/
structure CdpHttpTargetInfo where
  id : String
  targetType : String
  title : String := ""
  url : String := ""
  deriving DecidableEq, Repr

def mergeUnique (values : List String) (value : String) : List String :=
  if values.contains value then values else values ++ [value]

def emptyToNone (value : String) : Option String := if value = "" then none else some value

def shouldTrackServiceTarget (target : CdpHttpTargetInfo) : Bool :=
  (target.targetType = "page" || target.targetType = "webview") &&
    !target.url.startsWith "chrome://" && !target.url.startsWith "chrome-extension://" &&
    !target.url.startsWith "devtools://"

/-- Sessions on one browser do not conflict about its profile. -/
def clearSameBrowserProfileLeaseConflicts (state : ServiceState) (browserId : String) :
    ServiceState :=
  let sessionIds := (state.sessions.toList.filter fun entry =>
    entry.2.browserIds.contains browserId).map (·.1)
  if sessionIds.length ≤ 1 then state
  else
    { state with
      sessions := state.sessions.map fun sessionId session =>
        if sessionIds.contains sessionId then
          { session with
            profileLeaseConflictSessionIds :=
              session.profileLeaseConflictSessionIds.filter (!sessionIds.contains ·) }
        else session }

section Merge
variable (now : String) (canonicalBrowserId duplicateBrowserId : String)

/-- The canonical browser takes over what the duplicate has. -/
def BrowserProcess.absorb (canonical duplicate : BrowserProcess) : BrowserProcess :=
  { canonical with
    activeSessionIds := duplicate.activeSessionIds.foldl mergeUnique canonical.activeSessionIds
    viewStreams := duplicate.viewStreams.foldl
      (fun streams stream =>
        if streams.any (·.id = stream.id) then streams else streams ++ [stream])
      canonical.viewStreams
    displayAllocationId := canonical.displayAllocationId.or duplicate.displayAllocationId }

def BrowserSession.rebrowse (session : BrowserSession) : BrowserSession :=
  if session.browserIds.contains duplicateBrowserId then
    { session with
      browserIds := mergeUnique (session.browserIds.filter (· ≠ duplicateBrowserId))
        canonicalBrowserId }
  else session

def BrowserTab.rebrowse (tab : BrowserTab) : BrowserTab :=
  if tab.browserId = duplicateBrowserId then { tab with browserId := canonicalBrowserId } else tab

/-- The duplicate's display goes to the canonical browser, or is released. -/
def DisplayAllocation.reown (allocation : DisplayAllocation)
    (canonical duplicate : BrowserProcess) : DisplayAllocation :=
  if allocation.ownerBrowserId = some duplicateBrowserId then
    let allocation := { allocation with ownerBrowserId := some canonicalBrowserId }
    if duplicate.displayAllocationId = some allocation.id &&
        canonical.displayAllocationId ≠ some allocation.id then
      { allocation with
        state := "released"
        updatedAt := some now
        readiness := some (.ofFields
          [("state", .string "released"), ("reason", .string "duplicate_browser_record_merged"),
            ("canonicalBrowserId", .string canonicalBrowserId),
            ("duplicateBrowserId", .string duplicateBrowserId), ("updatedAt", .string now)]) }
    else allocation
  else allocation

def duplicateBrowserRecordMergedEvent (stamp : EventStamp) (duplicate : BrowserProcess) :
    ServiceEvent :=
  { id := stamp.id
    timestamp := stamp.timestamp
    kind := .reconciliation
    message := "Merged duplicate browser record " ++ duplicateBrowserId ++ " into " ++
      canonicalBrowserId
    browserId := some canonicalBrowserId
    details := some (.ofFields
      [("action", .string "duplicate_browser_record_merged"),
        ("canonicalBrowserId", .string canonicalBrowserId),
        ("duplicateBrowserId", .string duplicateBrowserId),
        ("cdpEndpoint", .ofStr duplicate.cdpEndpoint),
        ("activeSessionIds", .ofStrs duplicate.activeSessionIds)]) }

/-- One browser record is folded into another, unless one of them is missing. -/
def mergeDuplicateBrowserRecord (stamp : EventStamp) (state : ServiceState) :
    Bool × ServiceState :=
  match state.browsers[duplicateBrowserId]?,
    (state.browsers.erase duplicateBrowserId)[canonicalBrowserId]? with
  | some duplicate, some canonical =>
    let canonical := canonical.absorb duplicate
    let state :=
      { state with
        browsers := (state.browsers.erase duplicateBrowserId).insert canonicalBrowserId canonical
        sessions := state.sessions.map fun _ session =>
          session.rebrowse canonicalBrowserId duplicateBrowserId }
    let state := clearSameBrowserProfileLeaseConflicts state canonicalBrowserId
    let state :=
      { state with
        tabs := state.tabs.map fun _ tab => tab.rebrowse canonicalBrowserId duplicateBrowserId
        displayAllocations := state.displayAllocations.map fun _ allocation =>
          allocation.reown now canonicalBrowserId duplicateBrowserId canonical duplicate
        remoteViewRoutes := state.remoteViewRoutes.map fun _ route =>
          if route.browserId = some duplicateBrowserId then
            { route with browserId := some canonicalBrowserId }
          else route
        viewerLeases := state.viewerLeases.map fun _ lease =>
          if lease.browserId = some duplicateBrowserId then
            { lease with browserId := some canonicalBrowserId }
          else lease }
    (true, pushServiceEvent state
      (duplicateBrowserRecordMergedEvent canonicalBrowserId duplicateBrowserId stamp duplicate))
  | _, _ => (false, state)

end Merge

section Removal
variable (state : ServiceState) (browserId : String)

/-- The sessions that a browser had something to do with. -/
def relatedSessionIds (explicitSessionId : Option String) : List String :=
  explicitSessionId.toList ++
    (state.browsers[browserId]?.elim [] (·.activeSessionIds)) ++
    (state.sessions.toList.filter fun entry => entry.2.browserIds.contains browserId).map (·.1)

/-- The state without a browser and its tabs. -/
def withoutBrowser : ServiceState :=
  { state with
    browsers := state.browsers.erase browserId
    tabs := state.tabs.filter fun _ tab => tab.browserId ≠ browserId
    sessions := state.sessions.map fun _ session =>
      { session with
        tabIds := session.tabIds.filter fun tabId =>
          !state.tabs[tabId]?.any (·.browserId = browserId)
        browserIds := session.browserIds.filter (· ≠ browserId) } }

def withoutSessions (sessionIds : List String) : ServiceState :=
  { state with
    sessions := state.sessions.filter fun sessionId _ => !sessionIds.contains sessionId
    browsers := state.browsers.map fun _ browser =>
      { browser with
        activeSessionIds := browser.activeSessionIds.filter (!sessionIds.contains ·) } }

def BrowserSession.bare (session : BrowserSession) : Bool :=
  session.browserIds = [] && session.tabIds = []

/-- A browser goes, with its tabs and with the sessions that have nothing else. -/
def removeBrowserOperationalRecord (explicitSessionId : Option String) : Nat × ServiceState :=
  let related := sortedSet (relatedSessionIds state browserId explicitSessionId)
  let removed := if state.browsers.contains browserId then 1 else 0
  let state := withoutBrowser state browserId
  let removable := related.filter fun sessionId => state.sessions[sessionId]?.any (·.bare)
  (removed, refreshDerivedViews (withoutSessions state removable))

end Removal

def BrowserTab.closeIf (tab : BrowserTab) (done : Bool) : BrowserTab :=
  if done then { tab with lifecycle := .closed } else tab

section Targets
variable (browserId : String)

def CdpHttpTargetInfo.tabId (target : CdpHttpTargetInfo) : String := "target:" ++ target.id

def liveTabIds (targets : List CdpHttpTargetInfo) : List String :=
  (targets.filter shouldTrackServiceTarget).map (·.tabId)

/-- A live target is a ready tab of the browser. -/
def recordTarget (ownerSessionId : Option String) (tabs : BTreeMap BrowserTab)
    (target : CdpHttpTargetInfo) : BTreeMap BrowserTab :=
  tabs.insert target.tabId
    { tabs[target.tabId]?.getD {} with
      id := target.tabId
      browserId
      targetId := some target.id
      lifecycle := .ready
      url := emptyToNone target.url
      title := emptyToNone target.title
      ownerSessionId }

structure SessionTabOwnershipRepair where
  ownerSessionId : Option String
  liveTabIds : List String
  /-- The sessions that listed a tab that was not theirs. -/
  removedRelations : List (String × String)
  deriving DecidableEq, Repr

/-- The tabs of the browser go from the sessions' lists. -/
def unlistTabs (tabs : BTreeMap BrowserTab) (sessions : BTreeMap BrowserSession) :
    BTreeMap BrowserSession :=
  sessions.map fun _ session =>
    { session with
      tabIds := session.tabIds.filter fun tabId =>
        !tabs[tabId]?.any (·.browserId = browserId) }

/-- The live tabs go to the owner's list. -/
def listTabs (liveTabIds : List String) (sessions : BTreeMap BrowserSession) (owner : String) :
    BTreeMap BrowserSession :=
  let session := sessions[owner]?.getD { id := owner }
  sessions.insert owner
    { session with
      browserIds := mergeUnique session.browserIds browserId
      tabIds := liveTabIds.foldl mergeUnique session.tabIds }

/-- The browser's tabs go to the lists of no session but the owner's. -/
def refreshSessionTabRelationshipsForBrowser (state : ServiceState)
    (ownerSessionId : Option String) (liveTabIds : List String) :
    Option SessionTabOwnershipRepair × ServiceState :=
  let removedRelations := state.sessions.toList.flatMap fun entry =>
    (entry.2.tabIds.filter fun tabId =>
      state.tabs[tabId]?.any (·.browserId = browserId) &&
        !(ownerSessionId = some entry.1 && liveTabIds.contains tabId)).map fun tabId =>
          (entry.1, tabId)
  let sessions := unlistTabs browserId state.tabs state.sessions
  (if removedRelations = [] then none
    else some { ownerSessionId, liveTabIds, removedRelations },
    { state with
      sessions := ownerSessionId.elim sessions (listTabs browserId liveTabIds sessions) })

def sessionTabOwnershipRepairedEvent (stamp : EventStamp) (state : ServiceState)
    (browser : BrowserProcess) (repair : SessionTabOwnershipRepair) : ServiceEvent :=
  let event : ServiceEvent :=
    { id := stamp.id
      timestamp := stamp.timestamp
      kind := .reconciliation
      message := "Repaired " ++ toString repair.removedRelations.length ++
        " stale session tab ownership relationships for browser " ++ browserId
      browserId := some browserId
      details := some (.ofFields
        [("action", .string "session_tab_ownership_repaired"), ("browserId", .string browserId),
          ("ownerSessionId", .ofStr repair.ownerSessionId),
          ("liveTabIds", .ofStrs repair.liveTabIds),
          ("removedRelationshipCount", .number repair.removedRelations.length),
          ("removedRelations", .array (repair.removedRelations.map fun relation =>
            .ofFields [("sessionId", .string relation.1), ("tabId", .string relation.2)]))]) }
  enrichServiceEventWithBrowserContext event state browserId browser

/-- The tabs of a browser after it reported its targets. -/
def reconciledTabs (state : ServiceState) (browser : BrowserProcess)
    (targets : List CdpHttpTargetInfo) : BTreeMap BrowserTab :=
  ((targets.filter shouldTrackServiceTarget).foldl
    (recordTarget browserId browser.activeSessionIds.head?) state.tabs).map fun _ tab =>
      tab.closeIf (tab.browserId = browserId && !(liveTabIds targets).contains tab.id)

def reconcileBrowserTargets (stamp : EventStamp) (state : ServiceState)
    (browser : BrowserProcess) (targets : List CdpHttpTargetInfo) : ServiceState :=
  let (repair, state) := refreshSessionTabRelationshipsForBrowser browserId
    { state with tabs := reconciledTabs browserId state browser targets }
    browser.activeSessionIds.head? (sortedSet (liveTabIds targets))
  repair.elim state fun repair =>
    pushServiceEvent state (sessionTabOwnershipRepairedEvent browserId stamp state browser repair)

end Targets

def BrowserTab.isOpenOn (tab : BrowserTab) (browserId : String) : Bool :=
  tab.browserId = browserId && tab.lifecycle ≠ .closed

def openTabIds (state : ServiceState) (browserId : String) : List String :=
  ((state.tabs.toList.map (·.2)).filter (·.isOpenOn browserId)).map (·.id)

/-- The tabs of a browser are closed, and no session lists them any more. -/
def closeBrowserTabs (state : ServiceState) (browserId : String) : ServiceState :=
  let closedTabIds := openTabIds state browserId
  { state with
    tabs := state.tabs.map fun _ tab => tab.closeIf (tab.isOpenOn browserId)
    sessions := state.sessions.map fun _ session =>
      { session with tabIds := session.tabIds.filter (!closedTabIds.contains ·) } }

end AgentBrowser
