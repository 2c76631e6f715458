import AgentBrowser.DerivedViews

namespace AgentBrowser
set_option autoImplicit true

/-- Every entry of one map is merged into another. -/
def mergeEntries (merge : String → α → Option α → Option α) (target reconciled : BTreeMap α) :
    BTreeMap α :=
  reconciled.foldl (fun target id entry => target.alter id (merge id entry)) target

theorem getElem?_foldl_alter {entries : List (String × α)}
    {merge : String → α → Option α → Option α}
    (hdistinct : entries.Pairwise fun a b => ¬compare a.1 b.1 = .eq) (target : BTreeMap α)
    (id : String) :
    (entries.foldl (fun target entry => target.alter entry.1 (merge entry.1 entry.2)) target)[id]? =
      match entries.find? (·.1 = id) with
      | some entry => merge id entry.2 target[id]?
      | none => target[id]? := by
  induction entries generalizing target with
  | nil => rfl
  | cons first rest ih =>
    obtain ⟨hfirst, hrest⟩ := List.pairwise_cons.mp hdistinct
    rw [List.foldl_cons, ih hrest, Std.ExtTreeMap.getElem?_alter]
    by_cases heq : first.1 = id
    · subst heq
      have hnone : rest.find? (·.1 = first.1) = none := by
        rw [List.find?_eq_none]
        intro entry hmem hsame
        rw [decide_eq_true_eq] at hsame
        exact hfirst entry hmem (Std.LawfulEqCmp.compare_eq_iff_eq.mpr hsame.symm)
      simp [hnone]
    · simp [heq]

theorem find?_toList {m : BTreeMap α} {id : String} :
    m.toList.find? (·.1 = id) = m[id]?.map fun entry => (id, entry) := by
  cases hentry : m[id]? with
  | none =>
    rw [Option.map_none, List.find?_eq_none]
    intro entry hmem hsame
    have hfound := Std.ExtTreeMap.mem_toList_iff_getElem?_eq_some.mp hmem
    simp only [decide_eq_true_eq] at hsame
    rw [hsame, hentry] at hfound
    cases hfound
  | some entry =>
    have hmem : (id, entry) ∈ m.toList := Std.ExtTreeMap.mem_toList_iff_getElem?_eq_some.mpr hentry
    have hsome : (m.toList.find? (·.1 = id)).isSome = true :=
      List.find?_isSome.mpr ⟨(id, entry), hmem, decide_eq_true rfl⟩
    obtain ⟨found, hfound⟩ := Option.isSome_iff_exists.mp hsome
    have hsame : found.1 = id := by simpa using List.find?_some hfound
    have hvalue : m[found.1]? = some found.2 :=
      Std.ExtTreeMap.mem_toList_iff_getElem?_eq_some.mp (List.mem_of_find?_eq_some hfound)
    rw [hsame, hentry] at hvalue
    rw [hfound, Option.map_some, Option.some.inj hvalue, ← hsame]

theorem getElem?_mergeEntries {merge : String → α → Option α → Option α}
    {target reconciled : BTreeMap α} {id : String} :
    (mergeEntries merge target reconciled)[id]? =
      match reconciled[id]? with
      | some entry => merge id entry target[id]?
      | none => target[id]? := by
  rw [mergeEntries, Std.ExtTreeMap.foldl_eq_foldl_toList,
    getElem?_foldl_alter Std.ExtTreeMap.distinct_keys_toList, find?_toList]
  cases reconciled[id]? <;> rfl

/-- The entries that are gone after the reconciliation are removed, unless they were changed or are
kept. -/
def dropRemoved [DecidableEq α] (kept : String → α → Bool) (before reconciled target : BTreeMap α) :
    BTreeMap α :=
  target.filter fun id entry =>
    !(before[id]? = some entry && !reconciled.contains id && !kept id entry)

/-- An entry that the reconciliation did not remove stays. -/
theorem getElem?_dropRemoved [DecidableEq α] {kept : String → α → Bool}
    {before reconciled target : BTreeMap α} {id : String} (h : before[id]? = reconciled[id]?) :
    (dropRemoved kept before reconciled target)[id]? = target[id]? := by
  rw [dropRemoved, Std.ExtTreeMap.getElem?_filter']
  cases hentry : target[id]? with
  | none => rfl
  | some entry =>
    rw [Option.filter_some, if_pos]
    by_cases hbefore : before[id]? = some entry
    · have hcontains : reconciled.contains id = true := by
        rw [Std.ExtTreeMap.contains_eq_isSome_getElem?, ← h, hbefore]
        rfl
      simp [hcontains]
    · simp [hbefore]

section Rules

/-- The process under this id is another one than the one that was probed. -/
def browserReplaced (before target : BTreeMap BrowserProcess) (id : String) : Bool :=
  match before[id]?, target[id]? with
  | some observed, some current =>
    current.pid ≠ observed.pid || current.cdpEndpoint ≠ observed.cdpEndpoint
  | _, _ => false

def sessionReplaced (before target : BTreeMap BrowserSession) (replaced : String → Bool)
    (id : String) : Bool :=
  before[id]?.any (·.browserIds.any replaced) || target[id]?.any (·.browserIds.any replaced)

def mergeBrowser (replaced : String → Bool) (id : String) (reconciled : BrowserProcess)
    (target : Option BrowserProcess) : Option BrowserProcess :=
  if replaced id then target
  else
    match target with
    | some browser =>
      some { browser with
        health := reconciled.health
        lastError := reconciled.lastError
        lastHealthObservation := reconciled.lastHealthObservation }
    | none => some reconciled

def mergeTab (replaced : String → Bool) (_ : String) (reconciled : BrowserTab)
    (target : Option BrowserTab) : Option BrowserTab :=
  if replaced reconciled.browserId || target.any fun tab => replaced tab.browserId then target
  else some reconciled

/-- The lease was touched while the reconciliation was under way. -/
def leaseChanged (before target : Option BrowserSession) : Bool :=
  match before, target with
  | some before, some target =>
    target.lease ≠ before.lease || target.browserIds ≠ before.browserIds ||
      target.expiresAt ≠ before.expiresAt ||
      target.lastLeaseObservedAt ≠ before.lastLeaseObservedAt
  | _, _ => false

def mergeSession (before : BTreeMap BrowserSession) (replaced : String → Bool) (id : String)
    (reconciled : BrowserSession) (target : Option BrowserSession) : Option BrowserSession :=
  if replaced id then target
  else
    let session :=
      { target.getD reconciled with
        browserIds := reconciled.browserIds, tabIds := reconciled.tabIds }
    if leaseChanged before[id]? target then some session
    else
      some { session with
        lease := reconciled.lease, lastLeaseObservedAt := reconciled.lastLeaseObservedAt }

/-- The rule for what has a state: a release is not taken back. -/
def mergeUnlessReleased [DecidableEq α] (state : α → String) (before : BTreeMap α) (id : String)
    (reconciled : α) (target : Option α) : Option α :=
  if target.any fun entry => state entry = "released" && before[id]?.any (· ≠ entry) then target
  else some reconciled

def mergeViewerLease (_ : String) (reconciled : ViewerLease) (_ : Option ViewerLease) :
    Option ViewerLease :=
  some reconciled

def mergeRoutePoolEntry (before : BTreeMap RoutePoolEntry) (id : String)
    (reconciled : RoutePoolEntry) (target : Option RoutePoolEntry) : Option RoutePoolEntry :=
  match before[id]?, target with
  | some before, some entry =>
    if entry.state ≠ before.state ||
        entry.currentRouteAllocationId ≠ before.currentRouteAllocationId then target
    else some reconciled
  | _, _ => some reconciled

/-- The new events of the reconciliation go to the log, but for those about what was replaced. -/
def mergeEvents (before target reconciled : List ServiceEvent)
    (replaced replacedSession : String → Bool) : List ServiceEvent :=
  (reconciled.foldl
    (fun (log : List String × List ServiceEvent) event =>
      if (before.map (·.id)).contains event.id || log.1.contains event.id then log
      else if event.browserId.any replaced || event.sessionId.any replacedSession then log
      else (event.id :: log.1, pushEvent log.2 event))
    (target.map (·.id), target)).2

end Rules

section Merge
variable (target before reconciled : ServiceState)

def mergedSessions : BTreeMap BrowserSession :=
  mergeEntries (mergeSession before.sessions (sessionReplaced before.sessions target.sessions
    (browserReplaced before.browsers target.browsers))) target.sessions reconciled.sessions

/-- The browsers, without the sessions that are over. -/
def mergedBrowsers : BTreeMap BrowserProcess :=
  (dropRemoved (fun _ _ => false) before.browsers reconciled.browsers
    (mergeEntries (mergeBrowser (browserReplaced before.browsers target.browsers))
      target.browsers reconciled.browsers)).map fun _ browser =>
    { browser with
      activeSessionIds := browser.activeSessionIds.filter fun sessionId =>
        !(mergedSessions target before reconciled)[sessionId]?.any (·.lease.inactive) }

/-- The merge of what a reconciliation found into the state as it is by now. -/
def mergeReconciledServiceState : ServiceState :=
  let replaced := browserReplaced before.browsers target.browsers
  let replacedSession := sessionReplaced before.sessions target.sessions replaced
  refreshDerivedViews
    { target with
      reconciliation := reconciled.reconciliation.or target.reconciliation
      browsers := mergedBrowsers target before reconciled
      tabs := dropRemoved (fun _ tab => replaced tab.browserId) before.tabs reconciled.tabs
        (mergeEntries (mergeTab replaced) target.tabs reconciled.tabs)
      sessions := dropRemoved (fun id _ => replacedSession id) before.sessions
        reconciled.sessions (mergedSessions target before reconciled)
      displayAllocations := mergeEntries
        (mergeUnlessReleased (·.state) before.displayAllocations) target.displayAllocations
        reconciled.displayAllocations
      remoteViewRoutes := mergeEntries
        (mergeUnlessReleased (·.state) before.remoteViewRoutes) target.remoteViewRoutes
        reconciled.remoteViewRoutes
      viewerLeases := mergeEntries mergeViewerLease target.viewerLeases reconciled.viewerLeases
      routePool := mergeEntries (mergeRoutePoolEntry before.routePool) target.routePool
        reconciled.routePool
      events := mergeEvents before.events target.events reconciled.events replaced
        replacedSession }

end Merge

end AgentBrowser
