import AgentBrowser.RouteLeases

namespace AgentBrowser
set_option autoImplicit true

/-- How stored records are read from JSON. -/
structure RouteDecoder where
  remoteViewRoute : JsonValue → Option RemoteViewRoute
  routePoolEntry : JsonValue → Option RoutePoolEntry

structure FinalizedRouteFacts where
  routeId : String
  displayAllocationId : String
  routePoolEntryId : Option String
  browserId : String
  sessionId : String

/-- What a checkout names, and else what the lease names. -/
def finalizedRouteFacts (lease : RemoteViewAcquisitionLease) (checkout : JsonValue) :
    FinalizedRouteFacts where
  routeId := (((checkout.get "remoteViewRouteId").or (checkout.get "routeId")).bind
    (·.asStr)).getD lease.routeId
  displayAllocationId := ((checkout.get "displayAllocationId").bind (·.asStr)).getD
    lease.displayAllocationId
  routePoolEntryId := ((checkout.get "routePoolEntryId").bind (·.asStr)).or lease.routePoolEntryId
  browserId := ((checkout.get "browserId").bind (·.asStr)).getD lease.browserId
  sessionId := ((checkout.get "sessionName").bind (·.asStr)).getD lease.sessionId

def finalizedReadiness (checkout : JsonValue) (observedAt : String) : JsonValue :=
  (((checkout.get "remoteViewRoute").bind (·.get "readiness")).or (checkout.get "readiness")).getD
    (.ofFields [("state", .string "ready"), ("component", .string "route_bound_finalization"),
      ("updatedAt", .string observedAt)])

section Finalization
variable (decoder : RouteDecoder) (state : ServiceState) (checkout : JsonValue)
  (facts : FinalizedRouteFacts) (readiness : JsonValue) (observedAt : String)

def finalizedRoute : RemoteViewRoute :=
  let route := (((checkout.get "remoteViewRoute").bind decoder.remoteViewRoute).or
    state.remoteViewRoutes[facts.routeId]?).getD { id := facts.routeId }
  { route with
    id := facts.routeId
    displayAllocationId := some facts.displayAllocationId
    browserId := some facts.browserId
    sessionId := some facts.sessionId
    state := "ready"
    lastProviderEvent := some "route_bound_finalized"
    readiness := some readiness }

def finalizedDisplayAllocation : DisplayAllocation :=
  let binding := checkout.get "routeBinding"
  let allocation := state.displayAllocations[facts.displayAllocationId]?.getD
    { id := facts.displayAllocationId, createdAt := some observedAt }
  { allocation with
    displayName := (binding.bind fun binding =>
      (binding.get "launchDisplayName").or (binding.get "displayName")).bind (·.asStr)
    displayIsolation := ((binding.bind (·.get "displayIsolation")).bind (·.asStr)).getD
      "shared_display"
    ownerBrowserId := some facts.browserId
    ownerSessionId := some facts.sessionId
    state := "ready"
    updatedAt := some observedAt
    readiness := some readiness
    routeIds :=
      if allocation.routeIds.contains facts.routeId then allocation.routeIds
      else allocation.routeIds ++ [facts.routeId] }

/-- An entry that the checkout brings along stands before the stored one. -/
def finalizeRoutePoolEntry (entryId : String) : BTreeMap RoutePoolEntry :=
  match (checkout.get "routePoolEntry").bind decoder.routePoolEntry with
  | some entry =>
    state.routePool.insert entryId { entry with
      state := "checked_out"
      currentRouteAllocationId := some facts.routeId
      readiness := entry.readiness.or (some readiness) }
  | none =>
    state.routePool.modify entryId fun entry => { entry with
      state := "checked_out"
      currentRouteAllocationId := some facts.routeId
      readiness := some (.ofFields [("state", .string "ready"),
        ("component", .string "route_bound_finalization"), ("routeId", .string facts.routeId),
        ("updatedAt", .string observedAt), ("proof", readiness)]) }

def finalizeBrowser (browser : BrowserProcess) : BrowserProcess :=
  { browser with
    displayAllocationId := some facts.displayAllocationId
    activeSessionIds :=
      if browser.activeSessionIds.contains facts.sessionId then browser.activeSessionIds
      else (browser.activeSessionIds ++ [facts.sessionId]).mergeSort }

/-- The state with the checkout's ownership in all its records. -/
def finalized : ServiceState :=
  { state with
    remoteViewRoutes := state.remoteViewRoutes.insert facts.routeId
      (finalizedRoute decoder state checkout facts readiness)
    displayAllocations := state.displayAllocations.insert facts.displayAllocationId
      (finalizedDisplayAllocation state checkout facts readiness observedAt)
    routePool := facts.routePoolEntryId.elim state.routePool
      (finalizeRoutePoolEntry decoder state checkout facts readiness observedAt)
    browsers := state.browsers.modify facts.browserId (finalizeBrowser facts) }

end Finalization

def RemoteViewAcquisitionLease.completed (lease : RemoteViewAcquisitionLease)
    (facts : FinalizedRouteFacts) (statePhase : String × String) (observedAt : String) :
    RemoteViewAcquisitionLease :=
  { lease with
    routeId := facts.routeId
    displayAllocationId := facts.displayAllocationId
    routePoolEntryId := facts.routePoolEntryId
    browserId := facts.browserId
    sessionId := facts.sessionId
    state := statePhase.1
    phase := statePhase.2
    updatedAt := some observedAt
    completedAt := some observedAt }

def invalidLeaseState (lease : RemoteViewAcquisitionLease) : String :=
  "invalid_route_bound_lease_state: lease '" ++ lease.id ++ "' has state='" ++ lease.state ++
    "' phase='" ++ lease.phase ++ "'"

/-- Completion of an acquisition, one state of its lifecycle after the other. -/
def finalizeRouteBoundAcquisition (decoder : RouteDecoder) (leaseId : String)
    (checkout : JsonValue) (observedAt : String) (state : ServiceState) :
    Except String (RemoteViewAcquisitionLease × ServiceState) := do
  let lease ← orRefuse state.remoteViewAcquisitionLeases[leaseId]? (missingLease leaseId)
  let lifecycle ← orRefuse (RouteBoundLeaseState.fromStatePhase lease.state lease.phase)
    (invalidLeaseState lease)
  let lifecycle ← lifecycle.transitionTo .displayReady
  let lifecycle ← lifecycle.transitionTo .browserAttached
  let lifecycle ← lifecycle.transitionTo .tabAcquired
  let lifecycle ← lifecycle.transitionTo .proofReady
  let lifecycle ← lifecycle.transitionTo .finalized
  let facts := finalizedRouteFacts lease checkout
  let readiness := finalizedReadiness checkout observedAt
  let state := finalized decoder state checkout facts readiness observedAt
  let completed := lease.completed facts lifecycle.asStatePhase observedAt
  return (completed, { state with
    remoteViewAcquisitionLeases := state.remoteViewAcquisitionLeases.insert leaseId completed })

/-- A lease is completed from the reserved state. -/
theorem finalize_ok {state : ServiceState}
    (h : finalizeRouteBoundAcquisition decoder leaseId checkout observedAt state =
      .ok (completed, after)) :
    ∃ lease, state.remoteViewAcquisitionLeases[leaseId]? = some lease ∧ lease.state = "pending" ∧
      completed = lease.completed (finalizedRouteFacts lease checkout)
        ("completed", "checked_out") observedAt ∧
      after = { finalized decoder state checkout (finalizedRouteFacts lease checkout)
          (finalizedReadiness checkout observedAt) observedAt with
        remoteViewAcquisitionLeases :=
          state.remoteViewAcquisitionLeases.insert leaseId completed } := by
  simp only [finalizeRouteBoundAcquisition, Except.bind_eq_ok, orRefuse_eq_ok,
    RouteBoundLeaseState.transitionTo_eq_ok] at h
  obtain ⟨lease, hlease, lifecycle, hlifecycle, _, ⟨hready, rfl⟩, _, ⟨_, rfl⟩, _, ⟨_, rfl⟩, _,
    ⟨_, rfl⟩, _, ⟨_, rfl⟩, hend⟩ := h
  have hreserved : lifecycle = .reserved := by cases lifecycle <;> first | rfl | cases hready
  have hphase := RouteBoundLeaseState.asStatePhase_fromStatePhase (hreserved ▸ hlifecycle)
  obtain ⟨hcompleted, hafter⟩ := Prod.mk.inj (Except.ok.inj hend)
  exact ⟨lease, hlease, (Prod.mk.inj hphase).1.symm, hcompleted.symm, hcompleted ▸ hafter.symm⟩

end AgentBrowser
