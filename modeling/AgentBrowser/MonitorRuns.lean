import AgentBrowser.BrowserRecovery
import Mathlib.Data.List.Dedup

namespace AgentBrowser
set_option autoImplicit true

/-- The configured fields of a monitor over its recorded ones. -/
def SiteMonitor.overlay (existing monitor : SiteMonitor) : SiteMonitor :=
  { monitor with
    lastCheckedAt := monitor.lastCheckedAt.or existing.lastCheckedAt
    lastSucceededAt := monitor.lastSucceededAt.or existing.lastSucceededAt
    lastFailedAt := monitor.lastFailedAt.or existing.lastFailedAt
    lastResult := monitor.lastResult.or existing.lastResult
    consecutiveFailures :=
      if monitor.consecutiveFailures = 0 && 0 < existing.consecutiveFailures then
        existing.consecutiveFailures
      else monitor.consecutiveFailures
    state :=
      if monitor.state = .active && existing.state = .faulted then .faulted else monitor.state }

def overlayConfiguredEntities (state configured : ServiceState) : ServiceState :=
  { state with
    displayAllocations := state.displayAllocations ∪ configured.displayAllocations
    remoteViewRoutes := state.remoteViewRoutes ∪ configured.remoteViewRoutes
    routePool := state.routePool ∪ configured.routePool
    viewerLeases := state.viewerLeases ∪ configured.viewerLeases
    profiles := state.profiles ∪ configured.profiles
    sessions := state.sessions ∪ configured.sessions
    monitors := state.monitors ∪ configured.monitors.map fun id monitor =>
      (state.monitors[id]?).elim monitor (·.overlay monitor)
    sitePolicies := state.sitePolicies ∪ configured.sitePolicies }

/-- What a probe run meets outside the state. -/
structure ProbeObservation where
  checkedAt : String
  eventId : String
  /-- The answer of the monitored site, where the monitor asks one. -/
  probeUrl : String → Bool × String

structure MonitorProbeOutcome where
  success : Bool := false
  result : String := ""
  staleProfileIds : List String := []
  deriving DecidableEq, Repr

structure MonitorProbeResult where
  monitor : SiteMonitor
  monitorId : String
  checkedAt : String
  eventId : String
  success : Bool
  result : String
  eventKind : ServiceEventKind
  message : String
  target : MonitorTarget
  staleProfileIds : List String
  deriving DecidableEq, Repr

def TabLifecycle.debugLower : TabLifecycle → String
  | .unknown => "unknown"
  | .opening => "opening"
  | .loading => "loading"
  | .ready => "ready"
  | .closing => "closing"
  | .closed => "closed"
  | .crashed => "crashed"

def probeTab (state : ServiceState) (tabId : String) : Bool × String :=
  match state.tabs[tabId]? with
  | none => (false, "tab_missing")
  | some tab =>
    match tab.lifecycle with
    | .closed | .crashed => (false, "tab_" ++ tab.lifecycle.debugLower)
    | lifecycle => (true, "tab_" ++ lifecycle.debugLower)

def probeSitePolicy (state : ServiceState) (sitePolicyId : String) : Bool × String :=
  if sitePolicyId ∈ state.sitePolicies then (true, "site_policy_available")
  else (false, "site_policy_missing")

section Probes
-- The instant that a stored time names, in nanoseconds.
variable (parseRfc3339 : String → Option Int)

def freshnessExpired (freshnessExpiresAt : Option String) (checkedAt : Int) : Bool :=
  match freshnessExpiresAt with
  | none => false
  | some freshnessExpiresAt => (parseRfc3339 freshnessExpiresAt).elim true (· ≤ checkedAt)

/-- A row that counts as fresh but has run out. -/
def ProfileTargetReadiness.expired (row : ProfileTargetReadiness) (checkedAt : Int) : Bool :=
  row.state = .fresh && freshnessExpired parseRfc3339 row.freshnessExpiresAt checkedAt

/-- The rows of all profiles for one target. -/
def observedRows (state : ServiceState) (targetServiceId : String) :
    List (BrowserProfile × ProfileTargetReadiness) :=
  state.profiles.toList.flatMap fun entry =>
    (entry.2.targetReadiness.filter (·.targetServiceId = targetServiceId)).map (entry.2, ·)

def expiredProfileIds (state : ServiceState) (targetServiceId : String) (checkedAt : Int) :
    List String :=
  let expired := (observedRows state targetServiceId).filter (·.2.expired parseRfc3339 checkedAt)
  ((expired.map (·.1.id)).mergeSort (· ≤ ·)).dedup

def probeProfileReadiness (state : ServiceState) (targetServiceId checkedAt : String) :
    MonitorProbeOutcome :=
  match parseRfc3339 checkedAt with
  | none => { success := false, result := "profile_readiness_clock_error" }
  | some checkedAt =>
    let rows := observedRows state targetServiceId
    let freshRows := rows.filter fun entry =>
      entry.2.state = .fresh && !entry.2.expired parseRfc3339 checkedAt
    let expiredProfileIds := expiredProfileIds parseRfc3339 state targetServiceId checkedAt
    if expiredProfileIds ≠ [] then
      { success := false, result := "profile_readiness_expired"
        staleProfileIds := expiredProfileIds }
    else if 0 < freshRows.length then { success := true, result := "profile_readiness_fresh" }
    else if 0 < rows.length then { success := false, result := "profile_readiness_not_fresh" }
    else { success := false, result := "profile_readiness_missing" }

def MonitorProbeOutcome.new (probe : Bool × String) : MonitorProbeOutcome :=
  { success := probe.1, result := probe.2 }

def probeMonitor (observation : ProbeObservation) (monitor : SiteMonitor) (state : ServiceState) :
    MonitorProbeOutcome :=
  match monitor.target with
  | .url url => .new (observation.probeUrl url)
  | .tab tabId => .new (probeTab state tabId)
  | .sitePolicy sitePolicyId => .new (probeSitePolicy state sitePolicyId)
  | .profileReadiness targetServiceId =>
    probeProfileReadiness parseRfc3339 state targetServiceId observation.checkedAt

def runMonitorProbe (observation : ProbeObservation) (monitor : SiteMonitor)
    (state : ServiceState) : MonitorProbeResult :=
  let probe := probeMonitor parseRfc3339 observation monitor state
  { monitor
    monitorId := monitor.id
    checkedAt := observation.checkedAt
    eventId := observation.eventId
    success := probe.success
    result := probe.result
    eventKind := if probe.success then .reconciliation else .reconciliationError
    message := "Service monitor " ++ monitor.id ++
      (if probe.success then " succeeded: " else " failed: ") ++ probe.result
    target := monitor.target
    staleProfileIds := probe.staleProfileIds }

def monitorDue (monitor : SiteMonitor) (now : Int) : Bool :=
  if monitor.state ≠ .active then false
  else
    match monitor.lastCheckedAt.bind parseRfc3339 with
    | none => true
    | some lastCheckedAt =>
      let elapsedMs := (now - lastCheckedAt).tdiv 1000000
      0 ≤ elapsedMs && monitor.intervalMs ≤ elapsedMs

def dueMonitors (state : ServiceState) (now : Int) : List SiteMonitor :=
  (state.monitors.toList.map (·.2)).filter (monitorDue parseRfc3339 · now)

end Probes

/-- A row whose freshness ran out. -/
def ProfileTargetReadiness.markStale (row : ProfileTargetReadiness) (monitorId : String) :
    ProfileTargetReadiness :=
  { row with
    state := .stale
    manualSeedingRequired := false
    evidence := "freshness_expired_by_monitor:" ++ monitorId
    recommendedAction := "probe_target_auth_or_reseed_if_needed" }

/-- The row once a monitor found the target stale. -/
def ProfileTargetReadiness.after (row : ProfileTargetReadiness)
    (targetServiceId monitorId : String) : ProfileTargetReadiness :=
  if row.targetServiceId = targetServiceId ∧ row.state = .fresh then row.markStale monitorId
  else row

def BrowserProfile.markStale (profile : BrowserProfile) (targetServiceId monitorId : String) :
    BrowserProfile :=
  { profile with
    targetReadiness := profile.targetReadiness.map (·.after targetServiceId monitorId)
    authenticatedServiceIds := profile.authenticatedServiceIds.filter (· ≠ targetServiceId) }

def markExpiredProfileReadinessStale (state : ServiceState) (result : MonitorProbeResult) :
    ServiceState :=
  match result.target with
  | .profileReadiness targetServiceId =>
    { state with
      profiles := result.staleProfileIds.foldl (fun profiles profileId =>
        profiles.modify profileId (·.markStale targetServiceId result.monitorId)) state.profiles }
  | _ => state

def MonitorTarget.json : MonitorTarget → JsonValue
  | .url address => .ofFields [("url", .string address)]
  | .tab id => .ofFields [("tab", .string id)]
  | .sitePolicy id => .ofFields [("site_policy", .string id)]
  | .profileReadiness id => .ofFields [("profile_readiness", .string id)]

/-- The monitor with the result of its last probe. -/
def SiteMonitor.checked (monitor : SiteMonitor) (result : MonitorProbeResult) : SiteMonitor :=
  let monitor :=
    { monitor with lastCheckedAt := some result.checkedAt, lastResult := some result.result }
  if result.success then
    { monitor with
      lastSucceededAt := some result.checkedAt, consecutiveFailures := 0, state := .active }
  else
    { monitor with
      lastFailedAt := some result.checkedAt
      consecutiveFailures := min (monitor.consecutiveFailures + 1) u64Max
      state := .faulted }

def monitorEvent (result : MonitorProbeResult) : ServiceEvent :=
  { id := result.eventId
    timestamp := result.checkedAt
    kind := result.eventKind
    message := result.message
    details := some (.ofFields
      [("incidentId", .string ("monitor:" ++ result.monitorId)),
        ("monitorId", .string result.monitorId), ("target", result.target.json),
        ("success", .bool result.success), ("result", .string result.result),
        ("staleProfileIds", .ofStrs result.staleProfileIds)]) }

def applyMonitorResult (state : ServiceState) (result : MonitorProbeResult) : ServiceState :=
  let state := markExpiredProfileReadinessStale state result
  let monitor := (state.monitors[result.monitorId]?).getD result.monitor
  let state :=
    { state with monitors := state.monitors.insert result.monitorId (monitor.checked result) }
  pushServiceEvent state (monitorEvent result)

/-- A run of the due monitors: what it reads, and what its probes meet. -/
structure MonitorRun where
  parseRfc3339 : String → Option Int
  /-- The stored state at the snapshot. -/
  persisted : ServiceState
  /-- The configured entities, where the run adds them to its snapshot. -/
  configured : Option ServiceState
  now : Int
  observation : Nat → ProbeObservation

namespace MonitorRun

def snapshot (run : MonitorRun) : ServiceState :=
  run.configured.elim run.persisted (overlayConfiguredEntities run.persisted)

def due (run : MonitorRun) : List SiteMonitor :=
  dueMonitors run.parseRfc3339 run.snapshot run.now

def results (run : MonitorRun) : List MonitorProbeResult :=
  run.due.mapIdx fun i monitor =>
    runMonitorProbe run.parseRfc3339 (run.observation i) monitor run.snapshot

/-- The later transaction, on the state that is stored by then. -/
def apply (run : MonitorRun) (state : ServiceState) : ServiceState :=
  run.results.foldl applyMonitorResult state

/-- The monitor was paused after the snapshot. -/
def PausedSince (run : MonitorRun) (state : ServiceState) (id : String) : Prop :=
  run.persisted.monitors[id]?.map (·.state) ≠ some .paused ∧
    state.monitors[id]?.map (·.state) = some .paused

/-- The monitor was deleted after the snapshot. -/
def DeletedSince (run : MonitorRun) (state : ServiceState) (id : String) : Prop :=
  id ∈ run.persisted.monitors ∧ id ∉ state.monitors

/-- The freshness of the second row ends later. -/
def ExpiresLater (run : MonitorRun) (old row : ProfileTargetReadiness) : Prop :=
  ∃ before after, old.freshnessExpiresAt.bind run.parseRfc3339 = some before ∧
    row.freshnessExpiresAt.bind run.parseRfc3339 = some after ∧ before < after

/-- The row of the profile was verified again after the snapshot. -/
def ReverifiedSince (run : MonitorRun) (state : ServiceState) (profileId : String)
    (profile : BrowserProfile) (i : Nat) (row : ProfileTargetReadiness) : Prop :=
  state.profiles[profileId]? = some profile ∧ profile.targetReadiness[i]? = some row ∧
    row.state = .fresh ∧
    ∃ snapshot, run.persisted.profiles[profileId]? = some snapshot ∧
      ∃ old ∈ snapshot.targetReadiness, old.targetServiceId = row.targetServiceId ∧
        run.ExpiresLater old row

/-- The run keeps what was changed after its snapshot. -/
structure RespectsEdits (run : MonitorRun) (state : ServiceState) : Prop where
  paused : ∀ id, run.PausedSince state id →
    (run.apply state).monitors[id]?.map (·.state) = some .paused
  deleted : ∀ id, run.DeletedSince state id → id ∉ (run.apply state).monitors
  reverified : ∀ profileId profile i row, run.ReverifiedSince state profileId profile i row →
    ∃ after, (run.apply state).profiles[profileId]? = some after ∧
      after.targetReadiness[i]? = some row ∧
      (row.targetServiceId ∈ profile.authenticatedServiceIds →
        row.targetServiceId ∈ after.authenticatedServiceIds)

/-- In the snapshot, a row of the profile for the target had expired when it was checked. -/
def FoundExpired (run : MonitorRun) (i : Nat) (targetServiceId profileId : String) : Prop :=
  ∃ checkedAt, run.parseRfc3339 (run.observation i).checkedAt = some checkedAt ∧
    ∃ (key : String) (profile : BrowserProfile), run.snapshot.profiles[key]? = some profile ∧
      profile.id = profileId ∧
      ∃ row ∈ profile.targetReadiness, row.targetServiceId = targetServiceId ∧
        row.expired run.parseRfc3339 checkedAt = true

/-- Nothing that the run writes was changed after its snapshot. -/
structure Unraced (run : MonitorRun) (state : ServiceState) : Prop where
  paused : ∀ monitor ∈ run.due, ¬ run.PausedSince state monitor.id
  deleted : ∀ monitor ∈ run.due, ¬ run.DeletedSince state monitor.id
  reverified : ∀ i monitor target profileId, run.due[i]? = some monitor →
    monitor.target = .profileReadiness target → run.FoundExpired i target profileId →
    ∀ profile j row, run.ReverifiedSince state profileId profile j row →
      row.targetServiceId ≠ target

end MonitorRun

theorem markExpired_monitors (state : ServiceState) (result : MonitorProbeResult) :
    (markExpiredProfileReadinessStale state result).monitors = state.monitors := by
  unfold markExpiredProfileReadinessStale
  split <;> rfl

theorem SiteMonitor.checked_not_paused (monitor : SiteMonitor) (result : MonitorProbeResult) :
    (monitor.checked result).state ≠ .paused := by
  unfold SiteMonitor.checked
  dsimp only
  split <;> exact nofun

theorem applyMonitorResult_monitors (state : ServiceState) (result : MonitorProbeResult) :
    (applyMonitorResult state result).monitors[monitorId]? =
      if result.monitorId = monitorId then
        some (((state.monitors[result.monitorId]?).getD result.monitor).checked result)
      else state.monitors[monitorId]? := by
  simp [applyMonitorResult, pushServiceEvent, markExpired_monitors,
    Std.ExtTreeMap.getElem?_insert]

theorem applied_monitor_untouched (results : List MonitorProbeResult) (state : ServiceState)
    (h : ∀ result ∈ results, result.monitorId ≠ monitorId) :
    (results.foldl applyMonitorResult state).monitors[monitorId]? = state.monitors[monitorId]? := by
  induction results generalizing state with
  | nil => rfl
  | cons result results ih =>
    obtain ⟨hresult, hresults⟩ := List.forall_mem_cons.mp h
    rw [List.foldl_cons, ih _ hresults, applyMonitorResult_monitors, if_neg hresult]

theorem applied_monitor_checked (results : List MonitorProbeResult) (state : ServiceState)
    (h : ∃ result ∈ results, result.monitorId = monitorId) :
    ∃ monitor, (results.foldl applyMonitorResult state).monitors[monitorId]? = some monitor ∧
      monitor.state ≠ .paused := by
  induction results generalizing state with
  | nil => simp at h
  | cons result results ih =>
    by_cases hlater : ∃ result ∈ results, result.monitorId = monitorId
    · exact ih _ hlater
    · have hresult : result.monitorId = monitorId := by
        obtain ⟨r, hr, hid⟩ := h
        obtain rfl | hr := List.mem_cons.mp hr
        · exact hid
        · exact absurd ⟨r, hr, hid⟩ hlater
      have huntouched : ∀ result ∈ results, result.monitorId ≠ monitorId :=
        fun r hr hid => hlater ⟨r, hr, hid⟩
      rw [List.foldl_cons, applied_monitor_untouched _ _ huntouched,
        applyMonitorResult_monitors, if_pos hresult]
      exact ⟨_, rfl, SiteMonitor.checked_not_paused _ _⟩

/-- The profile has a row at this place that is as stated. -/
def ProfileRow (profiles : BTreeMap BrowserProfile) (profileId : String) (i : Nat)
    (p : BrowserProfile → ProfileTargetReadiness → Prop) : Prop :=
  ∃ profile, profiles[profileId]? = some profile ∧
    ∃ row, profile.targetReadiness[i]? = some row ∧ p profile row

theorem ProfileRow.modify (h : ProfileRow profiles profileId i p)
    (hstep : ∀ profile row, p profile row →
      q (profile.markStale target monitorId) (row.after target monitorId)) :
    ProfileRow (profiles.modify profileId (·.markStale target monitorId)) profileId i q := by
  obtain ⟨profile, hprofile, row, hrow, hp⟩ := h
  refine ⟨profile.markStale target monitorId, ?_, row.after target monitorId, ?_,
    hstep profile row hp⟩
  · simp [hprofile]
  · simp [BrowserProfile.markStale, hrow]

theorem ProfileRow.modify_other (h : ProfileRow profiles profileId i p)
    (hne : other ≠ profileId) : ProfileRow (profiles.modify other f) profileId i p := by
  obtain ⟨profile, hprofile, hrow⟩ := h
  refine ⟨profile, ?_, hrow⟩
  simpa [Std.ExtTreeMap.getElem?_modify, hne] using hprofile

/-- Marking some profiles keeps what marking the one profile keeps. -/
theorem ProfileRow.mark (ids : List String) (h : ProfileRow profiles profileId i p)
    (hstep : profileId ∈ ids → ∀ profile row, p profile row →
      p (profile.markStale target monitorId) (row.after target monitorId)) :
    ProfileRow (ids.foldl (fun profiles id =>
      profiles.modify id (·.markStale target monitorId)) profiles) profileId i p := by
  induction ids generalizing profiles with
  | nil => exact h
  | cons id ids ih =>
    rw [List.foldl_cons]
    apply ih
    · by_cases hid : id = profileId
      · subst hid
        exact h.modify (hstep (List.mem_cons_self ..))
      · exact h.modify_other hid
    · exact fun hmem => hstep (List.mem_cons_of_mem _ hmem)

theorem ProfileRow.marked (ids : List String) (h : ProfileRow profiles profileId i p)
    (hmem : profileId ∈ ids)
    (hstep : ∀ profile row, p profile row →
      q (profile.markStale target monitorId) (row.after target monitorId))
    (hq : ∀ profile row, q profile row →
      q (profile.markStale target monitorId) (row.after target monitorId)) :
    ProfileRow (ids.foldl (fun profiles id =>
      profiles.modify id (·.markStale target monitorId)) profiles) profileId i q := by
  induction ids generalizing profiles with
  | nil => simp at hmem
  | cons id ids ih =>
    rw [List.foldl_cons]
    by_cases hid : id = profileId
    · subst hid
      exact (h.modify hstep).mark ids fun _ => hq
    · apply ih (h.modify_other hid)
      exact (List.mem_cons.mp hmem).resolve_left (Ne.symm hid)

/-- The result calls the profile's row for the target stale. -/
def MonitorProbeResult.Marks (result : MonitorProbeResult) (profileId target : String) : Prop :=
  result.target = .profileReadiness target ∧ profileId ∈ result.staleProfileIds

theorem applyMonitorResult_profiles (state : ServiceState) (result : MonitorProbeResult) :
    (applyMonitorResult state result).profiles =
      (markExpiredProfileReadinessStale state result).profiles := rfl

theorem ProfileRow.apply {state : ServiceState} (h : ProfileRow state.profiles profileId i p)
    (hstep : ∀ target, result.Marks profileId target → ∀ profile row, p profile row →
      p (profile.markStale target result.monitorId) (row.after target result.monitorId)) :
    ProfileRow (applyMonitorResult state result).profiles profileId i p := by
  rw [applyMonitorResult_profiles, markExpiredProfileReadinessStale]
  split
  · rename_i target htarget
    exact h.mark _ fun hmem => hstep target ⟨htarget, hmem⟩
  · exact h

theorem ProfileRow.applied (results : List MonitorProbeResult) {state : ServiceState}
    (h : ProfileRow state.profiles profileId i p)
    (hstep : ∀ result ∈ results, ∀ target, result.Marks profileId target →
      ∀ profile row, p profile row →
      p (profile.markStale target result.monitorId) (row.after target result.monitorId)) :
    ProfileRow (results.foldl applyMonitorResult state).profiles profileId i p := by
  induction results generalizing state with
  | nil => exact h
  | cons result results ih =>
    obtain ⟨hresult, hresults⟩ := List.forall_mem_cons.mp hstep
    exact ih (h.apply hresult) hresults

theorem probeProfileReadiness_stale {state : ServiceState} (h : parse checkedAt = some instant) :
    (probeProfileReadiness parse state target checkedAt).staleProfileIds =
      expiredProfileIds parse state target instant := by
  unfold probeProfileReadiness
  simp only [h]
  split
  · rfl
  · rename_i hempty
    rw [ne_eq, not_not] at hempty
    rw [hempty]
    split
    · rfl
    · split <;> rfl

theorem mem_expiredProfileIds {state : ServiceState} :
    profileId ∈ expiredProfileIds parse state target instant ↔
      ∃ (key : String) (profile : BrowserProfile), state.profiles[key]? = some profile ∧
        profile.id = profileId ∧ ∃ row ∈ profile.targetReadiness,
          row.targetServiceId = target ∧ row.expired parse instant = true := by
  simp only [expiredProfileIds, observedRows, List.mem_dedup, List.mem_mergeSort, List.mem_map,
    List.mem_filter, List.mem_flatMap, Prod.exists, Std.ExtTreeMap.mem_toList_iff_getElem?_eq_some,
    decide_eq_true_eq]
  constructor
  · rintro ⟨profile, row, ⟨⟨key, stored, hstored, row', ⟨hrow, htarget⟩, heq⟩, hexpired⟩, hid⟩
    cases heq
    exact ⟨key, profile, hstored, hid, row, hrow, htarget, hexpired⟩
  · rintro ⟨key, profile, hstored, hid, row, hrow, htarget, hexpired⟩
    exact ⟨profile, row, ⟨⟨key, profile, hstored, row, ⟨hrow, htarget⟩, rfl⟩, hexpired⟩, hid⟩

theorem MonitorRun.mem_results (run : MonitorRun) :
    result ∈ run.results ↔ ∃ i monitor, run.due[i]? = some monitor ∧
      runMonitorProbe run.parseRfc3339 (run.observation i) monitor run.snapshot = result := by
  simp only [MonitorRun.results, List.mem_mapIdx, List.getElem?_eq_some_iff]
  constructor
  · rintro ⟨i, hi, rfl⟩
    exact ⟨i, _, ⟨hi, rfl⟩, rfl⟩
  · rintro ⟨i, monitor, ⟨hi, rfl⟩, rfl⟩
    exact ⟨i, hi, rfl⟩

theorem MonitorRun.marks_iff (run : MonitorRun) (i : Nat) (monitor : SiteMonitor)
    (profileId target : String) :
    (runMonitorProbe run.parseRfc3339 (run.observation i) monitor run.snapshot).Marks
        profileId target ↔
      monitor.target = .profileReadiness target ∧ run.FoundExpired i target profileId := by
  unfold MonitorProbeResult.Marks MonitorRun.FoundExpired
  apply and_congr_right
  intro htarget
  simp only [runMonitorProbe] at htarget
  simp only [runMonitorProbe, probeMonitor, htarget]
  cases hparse : run.parseRfc3339 (run.observation i).checkedAt with
  | none => simp [probeProfileReadiness, hparse]
  | some instant =>
    rw [probeProfileReadiness_stale hparse, mem_expiredProfileIds]
    simp

theorem ProfileTargetReadiness.after_target (row : ProfileTargetReadiness) :
    (row.after target monitorId).targetServiceId = row.targetServiceId := by
  unfold ProfileTargetReadiness.after
  split <;> rfl

theorem ProfileTargetReadiness.after_other {row : ProfileTargetReadiness}
    (h : row.targetServiceId ≠ target) : row.after target monitorId = row :=
  if_neg fun hmark => h hmark.1

theorem ProfileTargetReadiness.after_not_fresh {row : ProfileTargetReadiness}
    (h : row.targetServiceId = target) : (row.after target monitorId).state ≠ .fresh := by
  unfold ProfileTargetReadiness.after
  split
  · exact nofun
  · rename_i hnot
    exact fun hfresh => hnot ⟨h, hfresh⟩

theorem ProfileTargetReadiness.after_stays {row : ProfileTargetReadiness}
    (h : row.state ≠ .fresh) : row.after target monitorId = row :=
  if_neg fun hmark => h hmark.2

/-- No probe marked the target of the row, so the row stays. -/
theorem applied_row_kept (results : List MonitorProbeResult) {state : ServiceState}
    {profile : BrowserProfile} {i : Nat} {row : ProfileTargetReadiness}
    (hprofile : state.profiles[profileId]? = some profile)
    (hrow : profile.targetReadiness[i]? = some row)
    (h : ∀ result ∈ results, ¬ result.Marks profileId row.targetServiceId) :
    ∃ after, (results.foldl applyMonitorResult state).profiles[profileId]? = some after ∧
      after.targetReadiness[i]? = some row ∧
      (row.targetServiceId ∈ profile.authenticatedServiceIds →
        row.targetServiceId ∈ after.authenticatedServiceIds) := by
  have hkept := ProfileRow.applied results (i := i)
    (p := fun current stored => stored = row ∧
      (row.targetServiceId ∈ profile.authenticatedServiceIds →
        row.targetServiceId ∈ current.authenticatedServiceIds))
    ⟨profile, hprofile, row, hrow, rfl, fun hmem => hmem⟩ ?_
  · obtain ⟨after, hafter, stored, hstored, rfl, hauthenticated⟩ := hkept
    exact ⟨after, hafter, hstored, hauthenticated⟩
  · rintro result hresult target hmarks current stored ⟨rfl, hauthenticated⟩
    have hother : stored.targetServiceId ≠ target := by
      rintro rfl
      exact h result hresult hmarks
    refine ⟨ProfileTargetReadiness.after_other hother, fun hmem => ?_⟩
    exact List.mem_filter.mpr ⟨hauthenticated hmem, by simpa using hother⟩

/-- A probe marked the target of the row, so the row is not fresh any more. -/
theorem applied_row_marked (results : List MonitorProbeResult) {state : ServiceState}
    {profile : BrowserProfile} {row : ProfileTargetReadiness}
    (hprofile : state.profiles[profileId]? = some profile)
    (hrow : profile.targetReadiness[i]? = some row)
    (h : ∃ result ∈ results, result.Marks profileId row.targetServiceId) :
    ProfileRow (results.foldl applyMonitorResult state).profiles profileId i
      fun _ stored => stored.state ≠ .fresh := by
  obtain ⟨result, hresult, htarget, hstale⟩ := h
  obtain ⟨earlier, later, rfl⟩ := List.append_of_mem hresult
  rw [List.foldl_append, List.foldl_cons]
  have hthere : ProfileRow (earlier.foldl applyMonitorResult state).profiles profileId i
      fun _ stored => stored.targetServiceId = row.targetServiceId := by
    apply ProfileRow.applied earlier ⟨profile, hprofile, row, hrow, rfl⟩
    intro _ _ _ _ _ stored hstored
    rw [ProfileTargetReadiness.after_target, hstored]
  apply ProfileRow.applied later
  · rw [applyMonitorResult_profiles, markExpiredProfileReadinessStale, htarget]
    apply hthere.marked _ hstale
    · exact fun _ _ hstored => ProfileTargetReadiness.after_not_fresh hstored
    · intro _ stored hstored
      rwa [ProfileTargetReadiness.after_stays hstored]
  · intro _ _ _ _ _ stored hstored
    rwa [ProfileTargetReadiness.after_stays hstored]

/-- A run keeps all edits made since its snapshot exactly where they are not about the monitors
that it probed or the rows that it found expired. -/
theorem respectsEdits_iff (run : MonitorRun) (state : ServiceState) :
    run.RespectsEdits state ↔ run.Unraced state := by
  have hids : ∀ monitor ∈ run.due, ∃ result ∈ run.results, result.monitorId = monitor.id := by
    intro monitor hmonitor
    obtain ⟨i, hi, rfl⟩ := List.mem_iff_getElem.mp hmonitor
    exact ⟨_, run.mem_results.mpr ⟨i, _, List.getElem?_eq_getElem hi, rfl⟩, rfl⟩
  have hdue : ∀ result ∈ run.results, ∃ monitor ∈ run.due, monitor.id = result.monitorId := by
    intro result hresult
    obtain ⟨i, monitor, hi, rfl⟩ := run.mem_results.mp hresult
    exact ⟨monitor, List.mem_of_getElem? hi, rfl⟩
  constructor
  · intro h
    refine ⟨?_, ?_, ?_⟩
    · intro monitor hmonitor hpaused
      obtain ⟨after, hafter, hstate⟩ := applied_monitor_checked _ state (hids monitor hmonitor)
      have hkept := h.paused monitor.id hpaused
      rw [MonitorRun.apply, hafter] at hkept
      exact hstate (Option.some.inj hkept)
    · intro monitor hmonitor hdeleted
      obtain ⟨after, hafter, _⟩ := applied_monitor_checked _ state (hids monitor hmonitor)
      apply h.deleted monitor.id hdeleted
      rw [MonitorRun.apply, Std.ExtTreeMap.mem_iff_isSome_getElem?, hafter]
      rfl
    · rintro i monitor target profileId hi htarget hexpired profile j row hreverified rfl
      obtain ⟨after, hafter, hrow, _⟩ := h.reverified profileId profile j row hreverified
      have hmarks := (run.marks_iff i monitor profileId _).mpr ⟨htarget, hexpired⟩
      obtain ⟨after', hafter', row', hrow', hstate⟩ := applied_row_marked run.results
        hreverified.1 hreverified.2.1 ⟨_, run.mem_results.mpr ⟨i, monitor, hi, rfl⟩, hmarks⟩
      rw [MonitorRun.apply, hafter'] at hafter
      cases hafter
      rw [hrow'] at hrow
      cases hrow
      exact hstate hreverified.2.2.1
  · intro h
    refine ⟨?_, ?_, ?_⟩
    · intro monitorId hpaused
      have huntouched : ∀ result ∈ run.results, result.monitorId ≠ monitorId := by
        rintro result hresult rfl
        obtain ⟨monitor, hmonitor, hid⟩ := hdue result hresult
        exact h.paused monitor hmonitor (hid ▸ hpaused)
      rw [MonitorRun.apply, applied_monitor_untouched _ _ huntouched]
      exact hpaused.2
    · intro monitorId hdeleted
      have huntouched : ∀ result ∈ run.results, result.monitorId ≠ monitorId := by
        rintro result hresult rfl
        obtain ⟨monitor, hmonitor, hid⟩ := hdue result hresult
        exact h.deleted monitor hmonitor (hid ▸ hdeleted)
      rw [MonitorRun.apply, Std.ExtTreeMap.mem_iff_isSome_getElem?,
        applied_monitor_untouched _ _ huntouched, ← Std.ExtTreeMap.mem_iff_isSome_getElem?]
      exact hdeleted.2
    · intro profileId profile j row hreverified
      apply applied_row_kept run.results hreverified.1 hreverified.2.1
      intro result hresult hmarks
      obtain ⟨i, monitor, hi, rfl⟩ := run.mem_results.mp hresult
      obtain ⟨htarget, hexpired⟩ := (run.marks_iff i monitor profileId _).mp hmarks
      exact h.reverified i monitor _ profileId hi htarget hexpired profile j row hreverified rfl

/-- The instants of the times below. -/
def monitorTime : String → Option Int
  | "2026-05-01T09:00:00.000Z" => some 1777626000000000000
  | "2026-05-01T10:00:00.000Z" => some 1777629600000000000
  | "2026-05-02T10:00:00.000Z" => some 1777716000000000000
  | _ => none

def searchMonitor (monitorId : String) (target : MonitorTarget) : SiteMonitor :=
  { id := monitorId, name := monitorId, target, state := .active }

def verifiedProfile (freshnessExpiresAt : String) : BrowserProfile :=
  { id := "work"
    authenticatedServiceIds := ["mail"]
    targetReadiness :=
      [{ targetServiceId := "mail", state := .fresh, evidence := "auth_probe"
         freshnessExpiresAt := some freshnessExpiresAt }] }

/-- Three due monitors: two of a page, and one of a login that has run out. -/
def racedRun : MonitorRun where
  parseRfc3339 := monitorTime
  persisted :=
    { monitors := .ofList
        [("deleted", searchMonitor "deleted" (.url "https://example.com")),
          ("login", searchMonitor "login" (.profileReadiness "mail")),
          ("noisy", searchMonitor "noisy" (.url "https://example.com"))]
      profiles := .ofList [("work", verifiedProfile "2026-05-01T09:00:00.000Z")] }
  configured := none
  now := 1777629600000000000
  observation _ :=
    { checkedAt := "2026-05-01T10:00:00.000Z", eventId := "event-1"
      probeUrl := fun _ => (true, "http_200") }

/-- Meanwhile an operator paused, deleted and verified what the run looked at. -/
def racedState : ServiceState :=
  { monitors := .ofList
      [("login", searchMonitor "login" (.profileReadiness "mail")),
        ("noisy", { searchMonitor "noisy" (.url "https://example.com") with state := .paused })]
    profiles := .ofList [("work", verifiedProfile "2026-05-02T10:00:00.000Z")] }

/-- The run resumes the paused monitor, brings the deleted one back, and makes the verified login
stale. -/
theorem raced_run_overwrites :
    ¬ racedRun.RespectsEdits racedState ∧
    (racedRun.apply racedState).monitors["noisy"]?.map (·.state) = some .active ∧
    "deleted" ∈ (racedRun.apply racedState).monitors ∧
    (racedRun.apply racedState).profiles["work"]?.map
      (fun profile => (profile.authenticatedServiceIds, profile.targetReadiness.map (·.state))) =
        some ([], [.stale]) := by
  have hnoisy :
      (racedRun.apply racedState).monitors["noisy"]?.map (·.state) = some .active := by
    decide
  refine ⟨fun h => ?_, hnoisy, by decide, by decide +kernel⟩
  have hpaused := h.paused "noisy" ⟨by decide, by decide⟩
  rw [hnoisy] at hpaused
  cases hpaused

end AgentBrowser
