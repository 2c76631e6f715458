import AgentBrowser.ReconcileMerge

namespace AgentBrowser
set_option autoImplicit true

/-- The record without what every refresh derives anew. -/
def BrowserProcess.stored (browser : BrowserProcess) : BrowserProcess :=
  { browser with tabHandles := [] }

def BrowserTab.stored (tab : BrowserTab) : BrowserTab := { tab with serviceTabHandle := none }

section Refresh
variable {state : ServiceState} {id : String}

@[simp]
theorem refreshDerivedViews_browsers :
    (refreshDerivedViews state).browsers[id]?.map (·.stored) =
      state.browsers[id]?.map (·.stored) := by
  simp only [refreshDerivedViews, refreshServiceTabHandles, refreshProfileReadiness,
    Std.ExtTreeMap.getElem?_map, Option.map_map]
  rfl

@[simp]
theorem refreshDerivedViews_tabs :
    (refreshDerivedViews state).tabs[id]?.map (·.stored) = state.tabs[id]?.map (·.stored) := by
  simp only [refreshDerivedViews, refreshServiceTabHandles, refreshProfileReadiness,
    Std.ExtTreeMap.getElem?_map, Option.map_map]
  rfl

end Refresh

/-- What a merge leaves as it is: all that the reconciliation did not change. -/
structure Untouched (before target reconciled merged : ServiceState) : Prop where
  browsers : ∀ id : String, before.browsers[id]? = reconciled.browsers[id]? →
    merged.browsers[id]?.map (·.stored) = target.browsers[id]?.map (·.stored)
  tabs : ∀ id : String, before.tabs[id]? = reconciled.tabs[id]? →
    merged.tabs[id]?.map (·.stored) = target.tabs[id]?.map (·.stored)
  sessions : ∀ id : String, before.sessions[id]? = reconciled.sessions[id]? →
    merged.sessions[id]? = target.sessions[id]?
  displayAllocations : ∀ id : String,
    before.displayAllocations[id]? = reconciled.displayAllocations[id]? →
    merged.displayAllocations[id]? = target.displayAllocations[id]?
  remoteViewRoutes : ∀ id : String,
    before.remoteViewRoutes[id]? = reconciled.remoteViewRoutes[id]? →
    merged.remoteViewRoutes[id]? = target.remoteViewRoutes[id]?
  viewerLeases : ∀ id : String, before.viewerLeases[id]? = reconciled.viewerLeases[id]? →
    merged.viewerLeases[id]? = target.viewerLeases[id]?
  routePool : ∀ id : String, before.routePool[id]? = reconciled.routePool[id]? →
    merged.routePool[id]? = target.routePool[id]?

section Condition
variable (before target reconciled : ServiceState)

def replacedBrowser (id : String) : Bool := browserReplaced before.browsers target.browsers id

def replacedSession (id : String) : Bool :=
  sessionReplaced before.sessions target.sessions (replacedBrowser before target) id

/-- The lease of a session when the merge looks for the sessions that are over. -/
def leaseAfter (id : String) : Option LeaseState :=
  match reconciled.sessions[id]? with
  | none => target.sessions[id]?.map (·.lease)
  | some session =>
    if replacedSession before target id || leaseChanged before.sessions[id]? target.sessions[id]?
    then target.sessions[id]?.map (·.lease)
    else some session.lease

def endedAfter (id : String) : Bool := (leaseAfter before target reconciled id).any (·.inactive)

/-- The changes since the reconciliation began are of the kinds that the merge respects. Each field
is about the records that the reconciliation did not change. -/
structure Respected : Prop where
  browsers : ∀ (id : String) (r : BrowserProcess), before.browsers[id]? = some r →
    reconciled.browsers[id]? = some r → replacedBrowser before target id = true ∨
      ∃ browser, target.browsers[id]? = some browser ∧ browser.health = r.health ∧
        browser.lastError = r.lastError ∧ browser.lastHealthObservation = r.lastHealthObservation
  activeSessions : ∀ (id : String) (browser : BrowserProcess),
    before.browsers[id]? = reconciled.browsers[id]? → target.browsers[id]? = some browser →
    ∀ sessionId ∈ browser.activeSessionIds, endedAfter before target reconciled sessionId = false
  tabs : ∀ (id : String) (r : BrowserTab), before.tabs[id]? = some r →
    reconciled.tabs[id]? = some r → replacedBrowser before target r.browserId = true ∨
      ∃ tab, target.tabs[id]? = some tab ∧
        (replacedBrowser before target tab.browserId = true ∨ tab.stored = r.stored)
  sessions : ∀ (id : String) (r : BrowserSession), before.sessions[id]? = some r →
    reconciled.sessions[id]? = some r → replacedSession before target id = true ∨
      ∃ session, target.sessions[id]? = some session ∧ session.browserIds = r.browserIds ∧
        session.tabIds = r.tabIds
  displayAllocations : ∀ (id : String) (r : DisplayAllocation),
    before.displayAllocations[id]? = some r → reconciled.displayAllocations[id]? = some r →
    ∃ allocation, target.displayAllocations[id]? = some allocation ∧
      (allocation.state = "released" ∨ allocation = r)
  remoteViewRoutes : ∀ (id : String) (r : RemoteViewRoute),
    before.remoteViewRoutes[id]? = some r → reconciled.remoteViewRoutes[id]? = some r →
    ∃ route, target.remoteViewRoutes[id]? = some route ∧ (route.state = "released" ∨ route = r)
  viewerLeases : ∀ (id : String) (r : ViewerLease), before.viewerLeases[id]? = some r →
    reconciled.viewerLeases[id]? = some r → target.viewerLeases[id]? = some r
  routePool : ∀ (id : String) (r : RoutePoolEntry), before.routePool[id]? = some r →
    reconciled.routePool[id]? = some r → ∃ entry, target.routePool[id]? = some entry ∧
      (entry.state ≠ r.state ∨ entry.currentRouteAllocationId ≠ r.currentRouteAllocationId ∨
        entry = r)

end Condition

/-- An entry that the reconciliation did not change goes by the rule if it is there. -/
theorem merge_kept_iff {before target reconciled : BTreeMap α}
    {merge : String → α → Option α → Option α} {id : String} {kept : α → Prop}
    (view : Option α → β)
    (hrule : ∀ r, before[id]? = some r →
      (view (merge id r target[id]?) = view target[id]? ↔ kept r)) :
    (before[id]? = reconciled[id]? →
      view (mergeEntries merge target reconciled)[id]? = view target[id]?) ↔
    ∀ r, before[id]? = some r → reconciled[id]? = some r → kept r := by
  constructor
  · intro h r hbefore hreconciled
    have hkept := h (hbefore.trans hreconciled.symm)
    rw [getElem?_mergeEntries, hreconciled] at hkept
    exact (hrule r hbefore).mp hkept
  · intro h hsame
    rw [getElem?_mergeEntries]
    cases hreconciled : reconciled[id]? with
    | none => rfl
    | some r =>
      have hbefore := hsame.trans hreconciled
      exact (hrule r hbefore).mpr (h r hbefore hreconciled)

theorem dropRemoved_kept_iff [DecidableEq α] {before target reconciled : BTreeMap α}
    {merge : String → α → Option α → Option α} {id : String} {kept : α → Prop}
    {keep : String → α → Bool} (view : Option α → β)
    (hrule : ∀ r, before[id]? = some r →
      (view (merge id r target[id]?) = view target[id]? ↔ kept r)) :
    (before[id]? = reconciled[id]? →
      view (dropRemoved keep before reconciled (mergeEntries merge target reconciled))[id]? =
        view target[id]?) ↔
    ∀ r, before[id]? = some r → reconciled[id]? = some r → kept r := by
  rw [← merge_kept_iff view hrule]
  exact forall_congr' fun hsame => by rw [getElem?_dropRemoved hsame]

theorem mergeUnlessReleased_kept [DecidableEq α] {state : α → String} {before : BTreeMap α}
    {target : Option α} {id : String} (hbefore : before[id]? = some r) :
    mergeUnlessReleased state before id r target = target ↔
      ∃ entry, target = some entry ∧ (state entry = "released" ∨ entry = r) := by
  cases target with
  | none => simp [mergeUnlessReleased]
  | some entry =>
    simp only [mergeUnlessReleased, hbefore, Option.any_some]
    by_cases hsame : entry = r
    · subst hsame
      simp
    · by_cases hreleased : state entry = "released"
      · simp [hreleased, Ne.symm hsame]
      · simp [hreleased, hsame, Ne.symm hsame]

theorem mergeRoutePoolEntry_kept {before : BTreeMap RoutePoolEntry}
    {target : Option RoutePoolEntry} {id : String} (hbefore : before[id]? = some r) :
    mergeRoutePoolEntry before id r target = target ↔ ∃ entry, target = some entry ∧
      (entry.state ≠ r.state ∨ entry.currentRouteAllocationId ≠ r.currentRouteAllocationId ∨
        entry = r) := by
  cases target with
  | none => simp [mergeRoutePoolEntry, hbefore]
  | some entry =>
    simp only [mergeRoutePoolEntry, hbefore]
    split
    · rename_i hchanged
      simp only [ne_eq, Bool.or_eq_true, decide_eq_true_eq] at hchanged
      simpa using hchanged.elim .inl fun h => .inr (.inl h)
    · rename_i hchanged
      simp only [ne_eq, Bool.or_eq_true, decide_eq_true_eq, not_or, not_not] at hchanged
      simp [hchanged.1, hchanged.2, eq_comm]

theorem BrowserSession.relist_eq {session r : BrowserSession} :
    { session with browserIds := r.browserIds, tabIds := r.tabIds } = session ↔
      session.browserIds = r.browserIds ∧ session.tabIds = r.tabIds := by
  cases session
  simp [eq_comm]

theorem mergeSession_kept {before : BTreeMap BrowserSession} {replaced : String → Bool}
    {target : Option BrowserSession} {id : String} (hbefore : before[id]? = some r) :
    mergeSession before replaced id r target = target ↔ replaced id = true ∨
      ∃ session, target = some session ∧ session.browserIds = r.browserIds ∧
        session.tabIds = r.tabIds := by
  cases hreplaced : replaced id with
  | true => simp [mergeSession, hreplaced]
  | false =>
    cases target with
    | none =>
      simp only [mergeSession, hreplaced, hbefore, leaseChanged]
      simp
    | some session =>
      have hrelist : mergeSession before replaced id r (some session) =
          some { session with browserIds := r.browserIds, tabIds := r.tabIds } := by
        simp only [mergeSession, hreplaced, hbefore, leaseChanged]
        split
        · rename_i hfalse
          cases hfalse
        · split
          · rfl
          · rename_i hchanged
            -- With the lease as it was, the reconciled lease is the one that is there.
            simp only [ne_eq, Bool.or_eq_true, decide_eq_true_eq, not_or, not_not] at hchanged
            rw [← hchanged.1.1.1, ← hchanged.2]
            rfl
      rw [hrelist, Option.some.injEq, BrowserSession.relist_eq]
      simp

theorem mergeTab_kept {replaced : String → Bool} {target : Option BrowserTab} {id : String} :
    (mergeTab replaced id r target).map (·.stored) = target.map (·.stored) ↔
      replaced r.browserId = true ∨ ∃ tab, target = some tab ∧
        (replaced tab.browserId = true ∨ tab.stored = r.stored) := by
  cases hreplaced : replaced r.browserId with
  | true => simp [mergeTab, hreplaced]
  | false =>
    cases target with
    | none => simp [mergeTab, hreplaced]
    | some tab =>
      cases htab : replaced tab.browserId with
      | true => simp [mergeTab, htab]
      | false =>
        simp only [mergeTab, hreplaced, htab, Option.any_some, Bool.or_self, Bool.false_eq_true,
          if_false, Option.map_some, Option.some.injEq, exists_eq_left', false_or]
        exact eq_comm

def BrowserProcess.retain (browser : BrowserProcess) (inactive : String → Bool) :
    BrowserProcess :=
  { browser with
    activeSessionIds := browser.activeSessionIds.filter fun sessionId => !inactive sessionId }

theorem BrowserProcess.retain_stored {browser : BrowserProcess} {inactive : String → Bool} :
    (browser.retain inactive).stored = browser.stored ↔
      ∀ sessionId ∈ browser.activeSessionIds, inactive sessionId = false := by
  obtain ⟨⟩ := browser
  simp [retain, stored]

theorem BrowserProcess.observe_eq {browser r : BrowserProcess} {inactive : String → Bool} :
    (retain { browser with
        health := r.health
        lastError := r.lastError
        lastHealthObservation := r.lastHealthObservation } inactive).stored = browser.stored ↔
      (browser.health = r.health ∧ browser.lastError = r.lastError ∧
        browser.lastHealthObservation = r.lastHealthObservation) ∧
      ∀ sessionId ∈ browser.activeSessionIds, inactive sessionId = false := by
  obtain ⟨⟩ := browser
  simp only [retain, stored, mk.injEq, true_and, List.filter_eq_self, Bool.not_eq_true']
  constructor
  · rintro ⟨rfl, hactive, rfl, rfl⟩
    exact ⟨⟨rfl, rfl, rfl⟩, hactive⟩
  · rintro ⟨⟨rfl, rfl, rfl⟩, hactive⟩
    exact ⟨rfl, hactive, rfl, rfl⟩

theorem mergeBrowser_kept {replaced inactive : String → Bool} {target : Option BrowserProcess}
    {id : String} :
    ((mergeBrowser replaced id r target).map (·.retain inactive)).map (·.stored) =
        target.map (·.stored) ↔
      (replaced id = true ∨ ∃ browser, target = some browser ∧ browser.health = r.health ∧
        browser.lastError = r.lastError ∧
        browser.lastHealthObservation = r.lastHealthObservation) ∧
      ∀ browser, target = some browser →
        ∀ sessionId ∈ browser.activeSessionIds, inactive sessionId = false := by
  cases hreplaced : replaced id with
  | true =>
    cases target with
    | none => simp [mergeBrowser, hreplaced]
    | some browser =>
      simpa [mergeBrowser, hreplaced] using BrowserProcess.retain_stored
  | false =>
    cases target with
    | none => simp [mergeBrowser, hreplaced]
    | some browser =>
      simp only [mergeBrowser, hreplaced, Bool.false_eq_true, if_false, Option.map_some,
        Option.some.injEq, exists_eq_left', false_or, forall_eq', BrowserProcess.observe_eq]

section Assembly
variable {before target reconciled : ServiceState}

theorem mergedSessions_lease {id : String} :
    (mergedSessions target before reconciled)[id]?.map (·.lease) =
      leaseAfter before target reconciled id := by
  rw [mergedSessions, getElem?_mergeEntries, leaseAfter]
  cases reconciled.sessions[id]? with
  | none => rfl
  | some session =>
    simp only [mergeSession]
    change (if replacedSession before target id = true then _ else _ :
      Option BrowserSession).map _ = _
    cases hreplaced : replacedSession before target id with
    | true => rfl
    | false =>
      simp only [Bool.false_eq_true, if_false, Bool.false_or]
      cases hchanged : leaseChanged before.sessions[id]? target.sessions[id]? with
      | true =>
        cases htarget : target.sessions[id]? with
        | none => simp [leaseChanged, htarget] at hchanged
        | some session => simp
      | false => simp

theorem getElem?_mergedBrowsers {id : String}
    (hsame : before.browsers[id]? = reconciled.browsers[id]?) :
    (mergedBrowsers target before reconciled)[id]? =
      (mergeEntries (mergeBrowser (replacedBrowser before target)) target.browsers
        reconciled.browsers)[id]?.map (·.retain (endedAfter before target reconciled)) := by
  have hended (sessionId : String) :
      (mergedSessions target before reconciled)[sessionId]?.any (·.lease.inactive) =
        endedAfter before target reconciled sessionId := by
    rw [endedAfter, ← mergedSessions_lease, Option.any_map]
  rw [mergedBrowsers, Std.ExtTreeMap.getElem?_map, getElem?_dropRemoved hsame]
  simp only [hended]
  rfl

theorem mergedBrowsers_kept_iff {id : String} :
    (before.browsers[id]? = reconciled.browsers[id]? →
      (mergeReconciledServiceState target before reconciled).browsers[id]?.map (·.stored) =
        target.browsers[id]?.map (·.stored)) ↔
    (∀ r, before.browsers[id]? = some r → reconciled.browsers[id]? = some r →
      replacedBrowser before target id = true ∨
        ∃ browser, target.browsers[id]? = some browser ∧ browser.health = r.health ∧
          browser.lastError = r.lastError ∧
          browser.lastHealthObservation = r.lastHealthObservation) ∧
    (∀ browser, before.browsers[id]? = reconciled.browsers[id]? →
      target.browsers[id]? = some browser → ∀ sessionId ∈ browser.activeSessionIds,
        endedAfter before target reconciled sessionId = false) := by
  rw [mergeReconciledServiceState, refreshDerivedViews_browsers]
  by_cases hsame : before.browsers[id]? = reconciled.browsers[id]?
  · simp only [hsame, forall_const, getElem?_mergedBrowsers hsame, getElem?_mergeEntries]
    cases hreconciled : reconciled.browsers[id]? with
    | none =>
      cases htarget : target.browsers[id]? with
      | none => simp
      | some browser => simpa using BrowserProcess.retain_stored
    | some r =>
      simp only [Option.some.injEq, forall_eq', forall_const]
      exact mergeBrowser_kept
  · constructor
    · exact fun _ => ⟨fun r hbefore hreconciled => absurd (hbefore.trans hreconciled.symm) hsame,
        fun _ heq => absurd heq hsame⟩
    · exact fun _ heq => absurd heq hsame

theorem mergedTabs_kept_iff {id : String} :
    (before.tabs[id]? = reconciled.tabs[id]? →
      (mergeReconciledServiceState target before reconciled).tabs[id]?.map (·.stored) =
        target.tabs[id]?.map (·.stored)) ↔
    ∀ r, before.tabs[id]? = some r → reconciled.tabs[id]? = some r →
      replacedBrowser before target r.browserId = true ∨ ∃ tab, target.tabs[id]? = some tab ∧
        (replacedBrowser before target tab.browserId = true ∨ tab.stored = r.stored) := by
  rw [mergeReconciledServiceState, refreshDerivedViews_tabs]
  exact dropRemoved_kept_iff (fun tab : Option BrowserTab => tab.map (·.stored))
    fun r _ => mergeTab_kept

theorem mergedSessions_kept_iff {id : String} :
    (before.sessions[id]? = reconciled.sessions[id]? →
      (mergeReconciledServiceState target before reconciled).sessions[id]? =
        target.sessions[id]?) ↔
    ∀ r, before.sessions[id]? = some r → reconciled.sessions[id]? = some r →
      replacedSession before target id = true ∨ ∃ session, target.sessions[id]? = some session ∧
        session.browserIds = r.browserIds ∧ session.tabIds = r.tabIds :=
  dropRemoved_kept_iff (fun session => session) fun _ hbefore => mergeSession_kept hbefore

/-- The merge leaves what the reconciliation did not change as it is exactly if the changes since
are of the kinds that it respects. -/
theorem merge_untouched_iff : Untouched before target reconciled
    (mergeReconciledServiceState target before reconciled) ↔
      Respected before target reconciled := by
  constructor
  · intro h
    refine ⟨?_, ?_, ?_, ?_, ?_, ?_, ?_, ?_⟩
    · exact fun id => (mergedBrowsers_kept_iff.mp (h.browsers id)).1
    · exact fun id => (mergedBrowsers_kept_iff.mp (h.browsers id)).2
    · exact fun id => mergedTabs_kept_iff.mp (h.tabs id)
    · exact fun id => mergedSessions_kept_iff.mp (h.sessions id)
    · exact fun id => (merge_kept_iff (fun allocation => allocation) fun _ hbefore =>
        mergeUnlessReleased_kept hbefore).mp (h.displayAllocations id)
    · exact fun id => (merge_kept_iff (fun route => route) fun _ hbefore =>
        mergeUnlessReleased_kept hbefore).mp (h.remoteViewRoutes id)
    · exact fun id => (merge_kept_iff (fun lease => lease) fun _ _ => eq_comm).mp
        (h.viewerLeases id)
    · exact fun id => (merge_kept_iff (fun entry => entry) fun _ hbefore =>
        mergeRoutePoolEntry_kept hbefore).mp (h.routePool id)
  · intro h
    refine ⟨?_, ?_, ?_, ?_, ?_, ?_, ?_⟩
    · exact fun id => mergedBrowsers_kept_iff.mpr ⟨h.browsers id, h.activeSessions id⟩
    · exact fun id => mergedTabs_kept_iff.mpr (h.tabs id)
    · exact fun id => mergedSessions_kept_iff.mpr (h.sessions id)
    · exact fun id => (merge_kept_iff (fun allocation => allocation) fun _ hbefore =>
        mergeUnlessReleased_kept hbefore).mpr (h.displayAllocations id)
    · exact fun id => (merge_kept_iff (fun route => route) fun _ hbefore =>
        mergeUnlessReleased_kept hbefore).mpr (h.remoteViewRoutes id)
    · exact fun id => (merge_kept_iff (fun lease => lease) fun _ _ => eq_comm).mpr
        (h.viewerLeases id)
    · exact fun id => (merge_kept_iff (fun entry => entry) fun _ hbefore =>
        mergeRoutePoolEntry_kept hbefore).mpr (h.routePool id)

end Assembly

/-- A state with one browser that was not started. -/
def oneBrowserState : ServiceState :=
  { browsers := Std.ExtTreeMap.insert ∅ "b1" { id := "b1" } }

/-- A browser that is removed while a reconciliation is under way comes back. -/
theorem merge_restores_browser : ¬∀ before target reconciled : ServiceState,
    Untouched before target reconciled (mergeReconciledServiceState target before reconciled) := by
  intro h
  have hbrowser := (h oneBrowserState {} oneBrowserState).browsers "b1" rfl
  rw [mergeReconciledServiceState, refreshDerivedViews_browsers] at hbrowser
  revert hbrowser
  decide +kernel

end AgentBrowser
