import AgentBrowser.IncidentResolution
import AgentBrowser.ServiceStore

namespace AgentBrowser
set_option autoImplicit true

section Rows
variable {rows : List ProfileTargetReadiness} {row derived : ProfileTargetReadiness}
  {profile : BrowserProfile} {sitePolicies : BTreeMap SitePolicy} {target : String}

def explicitSeedingMode (row : ProfileTargetReadiness) : ProfileSeedingMode :=
  if row.manualSeedingRequired || row.state = .needsManualSeeding then .detachedHeadedNoCdp
  else row.seedingMode

/-- A fresh row drops its request for manual seeding, and keeps the mode it asked for. -/
theorem explicitSeedingMode_normalize :
    explicitSeedingMode (normalizeExplicitTargetReadiness row derived) =
      explicitSeedingMode row := by
  obtain ⟨_, _, state, manual, _⟩ := row
  cases manual <;> cases state <;> rfl

theorem fill_fill [DecidableEq α] (value empty filler : α) :
    (if (if value = empty then filler else value) = empty then filler
      else if value = empty then filler else value) =
        if value = empty then filler else value := by
  by_cases hempty : value = empty
  · simp [hempty]
  · simp [hempty]

theorem or_or_self (first second : Option α) : (first.or second).or second = first.or second := by
  cases first <;> cases second <;> rfl

theorem normalize_normalize :
    normalizeExplicitTargetReadiness (normalizeExplicitTargetReadiness row derived) derived =
      normalizeExplicitTargetReadiness row derived := by
  have hmode := @explicitSeedingMode_normalize row derived
  unfold explicitSeedingMode at hmode
  unfold normalizeExplicitTargetReadiness at *
  simp only [hmode, or_or_self, fill_fill, ProfileTargetReadiness.mk.injEq, true_and, and_true]
  clear hmode
  constructor
  · cases row.manualSeedingRequired <;> cases row.state <;> rfl
  · cases row.preferredKeyring <;> cases derived.preferredKeyring <;> simp

theorem normalize_explicit (h : rowHasExplicitFreshnessEvidence row = true) :
    rowHasExplicitFreshnessEvidence (normalizeExplicitTargetReadiness row derived) = true := by
  simp only [rowHasExplicitFreshnessEvidence, Bool.or_eq_true, Option.isSome_iff_ne_none] at h ⊢
  rcases h with (hstate | hverified) | hexpires
  · exact .inl (.inl hstate)
  · exact .inl (.inr fun hnone => hverified (Option.or_eq_none_iff.mp hnone).1)
  · exact .inr fun hnone => hexpires (Option.or_eq_none_iff.mp hnone).1

theorem derived_not_explicit :
    rowHasExplicitFreshnessEvidence
      (deriveTargetReadinessForProfile profile sitePolicies target) = false := by
  unfold deriveTargetReadinessForProfile
  split
  · rfl
  · split <;> rfl

theorem derived_target :
    (deriveTargetReadinessForProfile profile sitePolicies target).targetServiceId = target := by
  unfold deriveTargetReadinessForProfile
  split
  · rfl
  · split <;> rfl

/-- The last row with evidence of its own about a target. -/
def explicitRow (rows : List ProfileTargetReadiness) (target : String) :
    Option ProfileTargetReadiness :=
  (rows.filter fun row =>
    row.targetServiceId = target && rowHasExplicitFreshnessEvidence row).getLast?

/-- What a profile has of its own about a target: a state, and the times it is known from and
to. -/
def freshnessEvidence (rows : List ProfileTargetReadiness) (target : String) :
    Option (ProfileReadinessState × Option String × Option String) :=
  (explicitRow rows target).map fun row => (row.state, row.lastVerifiedAt, row.freshnessExpiresAt)

def explicitRows (rows : List ProfileTargetReadiness) : BTreeMap ProfileTargetReadiness :=
  (rows.filter fun row => row.targetServiceId ≠ "" && rowHasExplicitFreshnessEvidence row).foldl
    (fun rows row => rows.insert row.targetServiceId row) ∅

/-- The last item of a key is the one that is stored under it. -/
theorem getElem?_foldl_insertKey {key : α → String} {items : List α} {m : BTreeMap α}
    {id : String} :
    (items.foldl (fun m item => m.insert (key item) item) m)[id]? =
      (items.filter fun item => key item = id).getLast?.or m[id]? := by
  induction items generalizing m with
  | nil => rfl
  | cons item items ih =>
    rw [List.foldl_cons, ih, Std.ExtTreeMap.getElem?_insert]
    by_cases hid : key item = id
    · rw [if_pos (Std.LawfulEqCmp.compare_eq_iff_eq.mpr hid), List.filter_cons,
        if_pos (decide_eq_true hid), List.getLast?_cons]
      cases (items.filter fun item => key item = id).getLast? <;> rfl
    · rw [if_neg (mt Std.LawfulEqCmp.compare_eq_iff_eq.mp hid), List.filter_cons,
        if_neg (by simpa using hid)]

theorem getElem?_explicitRows :
    (explicitRows rows)[target]? = if target = "" then none else explicitRow rows target := by
  refine (getElem?_foldl_insertKey (α := ProfileTargetReadiness)).trans ?_
  rw [List.filter_filter, Std.ExtTreeMap.getElem?_empty, Option.or_none]
  split
  · rename_i hblank
    subst hblank
    rw [List.filter_eq_nil_iff.mpr, List.getLast?_nil]
    intro row _
    simp only [decide_eq_true_eq, ne_eq, Bool.and_eq_true, decide_not, Bool.not_eq_true', not_and]
    exact fun hblank hnamed => absurd hblank (of_decide_eq_false hnamed)
  · rename_i hnamed
    rw [explicitRow]
    congr 1
    refine List.filter_congr fun row _ => ?_
    by_cases htarget : row.targetServiceId = target
    · simp [htarget, hnamed]
    · simp [htarget]

/-- The row of a target after a refresh. -/
def readinessRow (profile : BrowserProfile) (sitePolicies : BTreeMap SitePolicy)
    (target : String) : ProfileTargetReadiness :=
  (explicitRows profile.targetReadiness)[target]?.elim
    (deriveTargetReadinessForProfile profile sitePolicies target) fun row =>
      normalizeExplicitTargetReadiness row
        (deriveTargetReadinessForProfile profile sitePolicies target)

def readinessTargets (profile : BrowserProfile) (sitePolicies : BTreeMap SitePolicy) :
    List String :=
  profile.targetServiceIds ++ profile.authenticatedServiceIds ++
    (explicitRows profile.targetReadiness).keys ++
    profile.sitePolicyIds.filterMap fun id => sitePolicies[id]?.map (·.id)

theorem deriveProfileTargetReadiness_eq :
    deriveProfileTargetReadiness profile sitePolicies =
      (sortedSet ((readinessTargets profile sitePolicies).filter (· ≠ ""))).map
        (readinessRow profile sitePolicies) := by
  rw [readinessTargets, ← Std.ExtTreeMap.map_fst_toList_eq_keys]
  rfl

theorem explicitRow_target (h : explicitRow rows target = some row) :
    row.targetServiceId = target := by
  have hmem := (List.mem_filter.mp (List.mem_of_getLast? h)).2
  rw [Bool.and_eq_true, decide_eq_true_eq] at hmem
  exact hmem.1

theorem explicitRow_explicit (h : explicitRow rows target = some row) :
    rowHasExplicitFreshnessEvidence row = true := by
  have hmem := (List.mem_filter.mp (List.mem_of_getLast? h)).2
  rw [Bool.and_eq_true] at hmem
  exact hmem.2

theorem readinessRow_target :
    (readinessRow profile sitePolicies target).targetServiceId = target := by
  rw [readinessRow, getElem?_explicitRows]
  split
  · exact derived_target
  · cases hrow : explicitRow profile.targetReadiness target with
    | none => exact derived_target
    | some row =>
      have htarget : row.targetServiceId = target := explicitRow_target hrow
      exact htarget

/-- The rows of a refresh have the evidence that was there, filled up. -/
theorem explicitRow_derive (hnamed : target ≠ "") :
    explicitRow (deriveProfileTargetReadiness profile sitePolicies) target =
      (explicitRow profile.targetReadiness target).map fun row =>
        normalizeExplicitTargetReadiness row
          (deriveTargetReadinessForProfile profile sitePolicies target) := by
  have hrow : readinessRow profile sitePolicies target =
      (explicitRow profile.targetReadiness target).elim
        (deriveTargetReadinessForProfile profile sitePolicies target) fun row =>
          normalizeExplicitTargetReadiness row
            (deriveTargetReadinessForProfile profile sitePolicies target) := by
    rw [readinessRow, getElem?_explicitRows, if_neg hnamed]
  cases hfound : explicitRow (deriveProfileTargetReadiness profile sitePolicies) target with
  | some found =>
    have hmem := List.mem_of_mem_filter (List.mem_of_getLast? hfound)
    rw [deriveProfileTargetReadiness_eq] at hmem
    obtain ⟨target', _, rfl⟩ := List.mem_map.mp hmem
    obtain rfl := readinessRow_target.symm.trans (explicitRow_target hfound)
    have hexplicit := explicitRow_explicit hfound
    rw [hrow] at hexplicit ⊢
    cases hold : explicitRow profile.targetReadiness target' with
    | none =>
      rw [hold, Option.elim_none, derived_not_explicit] at hexplicit
      cases hexplicit
    | some row => rfl
  | none =>
    cases hold : explicitRow profile.targetReadiness target with
    | none => rfl
    | some row =>
      rw [hold, Option.elim_some] at hrow
      have hlisted : target ∈ readinessTargets profile sitePolicies := by
        refine List.mem_append_left _ (List.mem_append_right _ (Std.ExtTreeMap.mem_keys.mpr ?_))
        rw [Std.ExtTreeMap.mem_iff_isSome_getElem?, getElem?_explicitRows, if_neg hnamed, hold]
        rfl
      have hmem : readinessRow profile sitePolicies target ∈
          deriveProfileTargetReadiness profile sitePolicies := by
        rw [deriveProfileTargetReadiness_eq]
        exact List.mem_map_of_mem (mem_sortedSet.mpr
          (List.mem_filter.mpr ⟨hlisted, decide_eq_true hnamed⟩))
      have hnone := List.filter_eq_nil_iff.mp (List.getLast?_eq_none_iff.mp hfound) _ hmem
      rw [readinessRow_target, hrow, normalize_explicit (explicitRow_explicit hold)] at hnone
      simp at hnone

theorem freshnessEvidence_derive (hnamed : target ≠ "") :
    freshnessEvidence (deriveProfileTargetReadiness profile sitePolicies) target =
      freshnessEvidence profile.targetReadiness target := by
  have hnone : (deriveTargetReadinessForProfile profile sitePolicies target).lastVerifiedAt =
      none ∧ (deriveTargetReadinessForProfile profile sitePolicies target).freshnessExpiresAt =
        none := by
    unfold deriveTargetReadinessForProfile
    split
    · exact ⟨rfl, rfl⟩
    · split <;> exact ⟨rfl, rfl⟩
  rw [freshnessEvidence, freshnessEvidence, explicitRow_derive hnamed, Option.map_map]
  congr 1
  funext row
  simp only [Function.comp_apply, normalizeExplicitTargetReadiness, hnone.1, hnone.2,
    Option.or_none]

/-- The rows that a refresh made are refreshed to themselves. -/
theorem deriveProfileTargetReadiness_again :
    deriveProfileTargetReadiness
      { profile with targetReadiness := deriveProfileTargetReadiness profile sitePolicies }
      sitePolicies = deriveProfileTargetReadiness profile sitePolicies := by
  let again : BrowserProfile :=
    { profile with targetReadiness := deriveProfileTargetReadiness profile sitePolicies }
  have hexplicit : explicitRows again.targetReadiness =
      (explicitRows profile.targetReadiness).map fun target row =>
        normalizeExplicitTargetReadiness row
          (deriveTargetReadinessForProfile profile sitePolicies target) := by
    ext target : 1
    rw [Std.ExtTreeMap.getElem?_map, getElem?_explicitRows, getElem?_explicitRows]
    split
    · rfl
    · rename_i hnamed
      exact explicitRow_derive hnamed
  have htargets : readinessTargets again sitePolicies = readinessTargets profile sitePolicies := by
    rw [readinessTargets, hexplicit, Std.ExtTreeMap.keys_map]
    rfl
  have hrow : readinessRow again sitePolicies = readinessRow profile sitePolicies := by
    funext target
    rw [readinessRow, hexplicit, Std.ExtTreeMap.getElem?_map, readinessRow]
    cases (explicitRows profile.targetReadiness)[target]? with
    | none => rfl
    | some row => exact normalize_normalize
  change deriveProfileTargetReadiness again sitePolicies = _
  rw [deriveProfileTargetReadiness_eq, deriveProfileTargetReadiness_eq, htargets, hrow]

end Rows

section Views
variable (state : ServiceState) (incidents : List ServiceIncident)

theorem mem_insertPolicies {policies : List SitePolicy} {stored : BTreeMap SitePolicy} {id : String}
    (h : id ∈ stored ∨ ∃ policy ∈ policies, policy.id = id) :
    id ∈ policies.foldl (fun stored policy => stored.insertIfNew policy.id policy) stored := by
  induction policies generalizing stored with
  | nil =>
    rcases h with hstored | ⟨policy, hmem, _⟩
    · exact hstored
    · cases hmem
  | cons policy policies ih =>
    rw [List.foldl_cons]
    apply ih
    rw [Std.ExtTreeMap.mem_insertIfNew]
    rcases h with hstored | ⟨other, hmem, hid⟩
    · exact .inl (.inr hstored)
    · rcases List.mem_cons.mp hmem with rfl | hlater
      · exact .inl (.inl (Std.LawfulEqCmp.compare_eq_iff_eq.mpr hid))
      · exact .inr ⟨other, hlater, hid⟩

theorem insertPolicies_stored {policies : List SitePolicy} {stored : BTreeMap SitePolicy}
    (h : ∀ policy ∈ policies, policy.id ∈ stored) :
    policies.foldl (fun stored policy => stored.insertIfNew policy.id policy) stored = stored := by
  induction policies with
  | nil => rfl
  | cons policy policies ih =>
    have hstored : stored.insertIfNew policy.id policy = stored := by
      ext id : 1
      rw [Std.ExtTreeMap.getElem?_insertIfNew, if_neg]
      rintro ⟨_, hnot⟩
      exact hnot (h policy List.mem_cons_self)
    rw [List.foldl_cons, hstored]
    exact ih fun other hmem => h other (List.mem_cons_of_mem _ hmem)

theorem applyBuiltinSitePolicies_again (sitePolicies : BTreeMap SitePolicy) :
    applyBuiltinSitePolicies (applyBuiltinSitePolicies sitePolicies) =
      applyBuiltinSitePolicies sitePolicies :=
  insertPolicies_stored fun policy hpolicy => mem_insertPolicies (.inr ⟨policy, hpolicy, rfl⟩)

/-- A state with its views as a refresh makes them, whatever its incidents are. -/
def viewed : ServiceState := { withViews state with incidents }

theorem refreshProfileReadiness_viewed :
    refreshProfileReadiness (viewed state incidents) = viewed state incidents := by
  have hpolicies : applyBuiltinSitePolicies (viewed state incidents).sitePolicies =
      (viewed state incidents).sitePolicies := applyBuiltinSitePolicies_again _
  have hprofiles : (viewed state incidents).profiles.map (fun _ profile =>
      { profile with
        targetReadiness :=
          deriveProfileTargetReadiness profile (viewed state incidents).sitePolicies }) =
        (viewed state incidents).profiles := by
    change (state.profiles.map _).map _ = state.profiles.map _
    rw [Std.ExtTreeMap.map_map]
    congr 1
    funext _ profile
    have hagain := @deriveProfileTargetReadiness_again profile
      (applyBuiltinSitePolicies state.sitePolicies)
    exact congrArg (fun rows => { profile with targetReadiness := rows }) hagain
  rw [refreshProfileReadiness]
  simp only [hpolicies, hprofiles]

theorem serviceTabHandle_viewed (tabId : String) (tab : BrowserTab)
    (handle : Option ServiceTabHandle) :
    serviceTabHandle (viewed state incidents) tabId { tab with serviceTabHandle := handle } =
      serviceTabHandle (refreshProfileReadiness state) tabId tab := by
  have hbrowser : (viewed state incidents).browsers[tab.browserId]? =
      state.browsers[tab.browserId]?.map fun browser =>
        { browser with
          tabHandles := browserTabHandles (viewed state incidents).tabs state.browsers
            tab.browserId browser } :=
    Std.ExtTreeMap.getElem?_map
  have hsame : (refreshProfileReadiness state).browsers[tab.browserId]? =
      state.browsers[tab.browserId]? := rfl
  have hstale (browser : Option BrowserProcess) (f : BrowserProcess → List ServiceTabHandle) :
      serviceTabHandleStaleReason { tab with serviceTabHandle := handle }
          (browser.map fun browser => { browser with tabHandles := f browser }) =
        serviceTabHandleStaleReason tab browser := by
    unfold serviceTabHandleStaleReason
    cases tab.lifecycle <;> cases browser <;> rfl
  unfold serviceTabHandle
  simp only [hbrowser, hsame, hstale]
  cases state.browsers[tab.browserId]? <;> rfl

theorem refreshServiceTabHandles_viewed :
    refreshServiceTabHandles (viewed state incidents) = viewed state incidents := by
  have htabs : (viewed state incidents).tabs.map (fun tabId tab =>
      { tab with
        serviceTabHandle := some (serviceTabHandle (viewed state incidents) tabId tab) }) =
        (viewed state incidents).tabs := by
    change (state.tabs.map _).map _ = state.tabs.map _
    rw [Std.ExtTreeMap.map_map]
    congr 1
    funext tabId tab
    dsimp only
    rw [serviceTabHandle_viewed]
  have hbrowsers : (viewed state incidents).browsers.map (fun key browser =>
      { browser with
        tabHandles := browserTabHandles (viewed state incidents).tabs
          (viewed state incidents).browsers key browser }) =
        (viewed state incidents).browsers := by
    change (state.browsers.map _).map _ = state.browsers.map _
    rw [Std.ExtTreeMap.map_map]
    congr 1
    funext key browser
    have hfirst : (viewed state incidents).browsers.toList.any (fun entry =>
        entry.1 < key && entry.2.id = browser.id) =
          state.browsers.toList.any fun entry => entry.1 < key && entry.2.id = browser.id := by
      change (state.browsers.map _).toList.any _ = _
      rw [Std.ExtTreeMap.toList_map, List.any_map]
      rfl
    simp only [browserTabHandles, hfirst]
    rfl
  rw [refreshServiceTabHandles]
  simp only [htabs, hbrowsers]

theorem withViews_viewed : withViews (viewed state incidents) = viewed state incidents := by
  rw [withViews, refreshProfileReadiness_viewed, refreshServiceTabHandles_viewed]

end Views

section Incidents
variable {state : ServiceState} {incident : ServiceIncident}

/-- Nobody has acknowledged or resolved the incident. -/
def ServiceIncident.Unhandled (incident : ServiceIncident) : Prop :=
  incident.acknowledgement = (none, none, none) ∧ incident.resolution = (none, none, none)

def AllUnhandled (grouped : BTreeMap ServiceIncident) : Prop :=
  ∀ (id : String) (incident : ServiceIncident), grouped[id]? = some incident → incident.Unhandled

theorem withEvent_unhandled (h : incident.Unhandled) (event : ServiceEvent) :
    (incident.withEvent event).Unhandled := by
  unfold ServiceIncident.withEvent
  split <;> exact h

theorem withJob_unhandled (h : incident.Unhandled) (state : ServiceState) (job : ServiceJob) :
    (incident.withJob state job).Unhandled := by
  unfold ServiceIncident.withJob
  split <;> exact h

theorem AllUnhandled.insert {grouped : BTreeMap ServiceIncident} (h : AllUnhandled grouped)
    (key : String) (hincident : incident.Unhandled) :
    AllUnhandled (grouped.insert key incident) := by
  intro id found hfound
  rw [Std.ExtTreeMap.getElem?_insert] at hfound
  split at hfound
  · obtain rfl := Option.some.inj hfound
    exact hincident
  · exact h id found hfound

theorem AllUnhandled.getD {grouped : BTreeMap ServiceIncident} (h : AllUnhandled grouped)
    (key : String) (hincident : incident.Unhandled) : (grouped[key]?.getD incident).Unhandled := by
  cases hfound : grouped[key]? with
  | none => exact hincident
  | some found => exact h key found hfound

theorem groupedIncidents_unhandled (state : ServiceState) :
    AllUnhandled (groupedIncidents state) := by
  refine List.foldlRecOn _ _ (List.foldlRecOn _ _ (fun id incident h => ?_) ?_) ?_
  · rw [Std.ExtTreeMap.getElem?_empty] at h
    cases h
  · intro grouped hgrouped event _
    exact hgrouped.insert _ (withEvent_unhandled (hgrouped.getD _ ⟨rfl, rfl⟩) event)
  · intro grouped hgrouped job _
    have hnew : (incidentOfJob state (jobIncidentKey state job) job).Unhandled := ⟨rfl, rfl⟩
    have hjob := withJob_unhandled (hgrouped.getD (jobIncidentKey state job) hnew) state job
    exact hgrouped.insert _ hjob

theorem recordIncidents_unhandled (h : incident ∈ recordIncidents state) : incident.Unhandled := by
  rcases List.mem_append.mp h with hremote | hshared
  · rcases List.mem_append.mp hremote with hpooled | hexhausted
    · rcases List.mem_append.mp hpooled with hroute | hentry
      · obtain ⟨route, _, hroute⟩ := List.mem_filterMap.mp hroute
        obtain ⟨found, _, rfl⟩ := Option.map_eq_some_iff.mp hroute
        exact ⟨rfl, rfl⟩
      · obtain ⟨entry, _, hentry⟩ := List.mem_filterMap.mp hentry
        obtain ⟨found, _, rfl⟩ := Option.map_eq_some_iff.mp hentry
        exact ⟨rfl, rfl⟩
    · obtain ⟨allocation, _, rfl⟩ := List.mem_map.mp hexhausted
      exact ⟨rfl, rfl⟩
  · obtain ⟨session, _, hsession⟩ := List.mem_flatMap.mp hshared
    split at hsession
    · cases hsession
    · rcases List.mem_append.mp hsession with hconflict | habandoned
      · split at hconflict
        · cases hconflict
        · obtain rfl := List.mem_singleton.mp hconflict
          exact ⟨rfl, rfl⟩
      · obtain ⟨tabId, _, htab⟩ := List.mem_filterMap.mp habandoned
        obtain ⟨found, _, rfl⟩ := Option.map_eq_some_iff.mp htab
        exact ⟨rfl, rfl⟩

/-- Handling is not derived, it is only kept. -/
theorem deriveServiceIncidents_unhandled (h : incident ∈ deriveServiceIncidents state) :
    incident.Unhandled := by
  have hgrouped : AllUnhandled
      ((recordIncidents state).foldl insertIncident (groupedIncidents state)) :=
    List.foldlRecOn _ _ (groupedIncidents_unhandled state) fun _ hgrouped record hmem =>
      hgrouped.insert _ (recordIncidents_unhandled hmem)
  rw [deriveServiceIncidents, List.mem_mergeSort, List.mem_map] at h
  obtain ⟨⟨key, found⟩, hmem, rfl⟩ := h
  exact hgrouped key found (Std.ExtTreeMap.mem_toList_iff_getElem?_eq_some.mp hmem)

/-- Of the stored incident only its handling matters. -/
theorem preserve_congr {old other : ServiceIncident}
    (hacknowledgement : old.acknowledgement = other.acknowledgement)
    (hresolution : old.resolution = other.resolution) :
    incident.preserve old = incident.preserve other := by
  simp only [ServiceIncident.acknowledgement, ServiceIncident.resolution, Prod.mk.injEq]
    at hacknowledgement hresolution
  unfold ServiceIncident.preserve
  simp only [hacknowledgement, hresolution]

theorem preserve_unhandled {old : ServiceIncident} (h : incident.Unhandled) (hold : old.Unhandled) :
    incident.preserve old = incident := by
  rw [preserve_congr (hold.1.trans h.1.symm) (hold.2.trans h.2.symm)]
  have hnone : incident.resolvedAt = none := congrArg (·.1) h.2
  unfold ServiceIncident.preserve
  dsimp only
  rw [if_neg]
  rw [hnone]
  exact Bool.false_ne_true

theorem withMetadata_again (h : incident ∈ deriveServiceIncidents (withViews state)) :
    withMetadata (refreshDerivedViews state) incident = withMetadata state incident := by
  have hmem : withMetadata state incident ∈ (refreshDerivedViews state).incidents := by
    rw [refreshDerivedViews_incidents]
    exact List.mem_map_of_mem h
  obtain ⟨stored, hstored, hid, hfound⟩ :=
    preservedMetadata_some ⟨withMetadata state incident, hmem, withMetadata_id⟩
  have hsame : stored = withMetadata state incident :=
    List.inj_on_of_nodup_map refreshDerivedViews_nodup hstored hmem (hid.trans withMetadata_id.symm)
  rw [withMetadata, hfound, hsame, Option.elim_some, withMetadata]
  cases (preservedMetadata state.incidents)[incident.id]? with
  | none =>
    have hnew := deriveServiceIncidents_unhandled h
    exact preserve_unhandled hnew hnew
  | some old => exact preserve_congr preserve_acknowledgement preserve_resolution

theorem refreshDerivedViews_again (state : ServiceState) :
    refreshDerivedViews (refreshDerivedViews state) = refreshDerivedViews state := by
  have hviews : withViews (refreshDerivedViews state) = refreshDerivedViews state :=
    withViews_viewed state (refreshDerivedViews state).incidents
  have hderived : deriveServiceIncidents (refreshDerivedViews state) =
      deriveServiceIncidents (withViews state) := rfl
  have hincidents : (refreshDerivedViews (refreshDerivedViews state)).incidents =
      (refreshDerivedViews state).incidents := by
    rw [refreshDerivedViews_incidents, refreshDerivedViews_incidents, hviews, hderived]
    exact List.map_congr_left fun incident hmem => withMetadata_again hmem
  have hrest : refreshDerivedViews (refreshDerivedViews state) =
      { withViews (refreshDerivedViews state) with
        incidents := (refreshDerivedViews (refreshDerivedViews state)).incidents } := rfl
  rw [hrest, hincidents, hviews]

/-- The shipped policies are there, so they have their sources already. -/
theorem StoredState.refresh_again {Handoff : Type} (stored : StoredState Handoff) :
    stored.refresh.refresh = stored.refresh := by
  have hsources (sources : BTreeMap ServiceEntitySource) :
      builtinSitePolicies.foldl (fun sources policy =>
        if stored.refresh.state.sitePolicies.contains policy.id then sources
        else sources.insert policy.id .builtin) sources = sources := by
    refine List.foldlRecOn (motive := fun kept => kept = sources) _ _ rfl
      fun _ hsame policy hpolicy => ?_
    have hmem : policy.id ∈ applyBuiltinSitePolicies stored.state.sitePolicies :=
      mem_insertPolicies (.inr ⟨policy, hpolicy, rfl⟩)
    have hstored : stored.refresh.state.sitePolicies.contains policy.id = true :=
      Std.ExtTreeMap.contains_iff_mem.mpr hmem
    rw [hstored, hsame]
    rfl
  have hstate : refreshDerivedViews stored.refresh.state = stored.refresh.state :=
    refreshDerivedViews_again stored.state
  have hunfold : stored.refresh.refresh =
      { stored.refresh with
        state := refreshDerivedViews stored.refresh.state
        sitePolicySources := builtinSitePolicies.foldl (fun sources policy =>
          if stored.refresh.state.sitePolicies.contains policy.id then sources
          else sources.insert policy.id .builtin) stored.refresh.sitePolicySources } := rfl
  rw [hunfold, hsources, hstate]

/-- A second refresh changes nothing. The first one leaves events, jobs, sessions and routes, the
last evidence of its own that a profile has about a target, and what an operator last did about
an incident that is still derived. -/
theorem refresh_keeps_evidence {Handoff : Type} (stored : StoredState Handoff) :
    stored.refresh.refresh = stored.refresh ∧
    (stored.refresh.state.events = stored.state.events ∧
      stored.refresh.state.jobs = stored.state.jobs ∧
      stored.refresh.state.sessions = stored.state.sessions ∧
      stored.refresh.state.remoteViewRoutes = stored.state.remoteViewRoutes) ∧
    (∀ (key : String) (profile : BrowserProfile), stored.state.profiles[key]? = some profile →
      ∃ refreshed, stored.refresh.state.profiles[key]? = some refreshed ∧
        ∀ target, target ≠ "" →
          freshnessEvidence refreshed.targetReadiness target =
            freshnessEvidence profile.targetReadiness target ∧
          ∀ row, explicitRow profile.targetReadiness target = some row → row.evidence ≠ "" →
            (explicitRow refreshed.targetReadiness target).map (·.evidence) =
              some row.evidence) ∧
    ∀ incident ∈ stored.refresh.state.incidents, ∀ old,
      (stored.state.incidents.filter (·.id = incident.id)).getLast? = some old →
        incident.acknowledgement = old.acknowledgement ∧ incident.resolution = old.resolution := by
  refine ⟨stored.refresh_again, ⟨rfl, rfl, rfl, rfl⟩, ?_, ?_⟩
  · intro key profile hprofile
    have hrefreshed : stored.refresh.state.profiles[key]? =
        (stored.state.profiles[key]?).map fun profile =>
          { profile with
            targetReadiness := deriveProfileTargetReadiness profile
              (applyBuiltinSitePolicies stored.state.sitePolicies) } :=
      Std.ExtTreeMap.getElem?_map
    rw [hprofile] at hrefreshed
    refine ⟨_, hrefreshed, fun target hnamed => ⟨freshnessEvidence_derive hnamed, ?_⟩⟩
    intro row hrow htext
    rw [explicitRow_derive hnamed, hrow, Option.map_some, Option.map_some]
    exact congrArg some (if_neg htext)
  · intro incident hmem old hold
    change incident ∈ (refreshDerivedViews stored.state).incidents at hmem
    rw [refreshDerivedViews_incidents] at hmem
    obtain ⟨derived, _, rfl⟩ := List.mem_map.mp hmem
    rw [withMetadata_id, ← getElem?_preservedMetadata] at hold
    rw [withMetadata, hold, Option.elim_some]
    exact ⟨preserve_acknowledgement, preserve_resolution⟩

end Incidents

/-- An incident about the service that an operator acknowledged, among its like. -/
def handledTwice (incidents : List ServiceIncident) : StoredState Unit where
  state :=
    { events := [{ id := "e", timestamp := "1", kind := .reconciliationError }]
      incidents }

def acknowledgedIncident : ServiceIncident :=
  { id := "service", acknowledgedAt := some "2", acknowledgedBy := some "operator" }

def derivedOnce : ServiceIncident :=
  (((handledTwice [acknowledgedIncident]).refresh.state.incidents).head?).getD {}

theorem refresh_keeps_acknowledgement : derivedOnce.acknowledgedBy = some "operator" :=
  congrArg (·.2.1) ((refresh_keeps_evidence (handledTwice [acknowledgedIncident])).2.2.2
    derivedOnce (by decide +kernel) acknowledgedIncident (by decide +kernel)).1

def profileWith (rows : List ProfileTargetReadiness) : StoredState Unit where
  state :=
    { profiles := .ofList [("p", ({ id := "p", targetReadiness := rows } : BrowserProfile))] }

/-- The row of no target and the first of two rows go, and of two incidents of one name the first
loses its acknowledgement. -/
theorem refresh_drops_evidence :
    (¬ ∀ (stored : StoredState Unit) (key : String) (profile : BrowserProfile),
      stored.state.profiles[key]? = some profile →
      (profile.targetReadiness.map (·.targetServiceId)).Nodup →
      ∀ row ∈ profile.targetReadiness, row.state = .fresh →
        ∃ refreshed, stored.refresh.state.profiles[key]? = some refreshed ∧
          ∃ row' ∈ refreshed.targetReadiness, row'.state = .fresh) ∧
    (¬ ∀ (stored : StoredState Unit) (key : String) (profile : BrowserProfile),
      stored.state.profiles[key]? = some profile →
      ∀ row ∈ profile.targetReadiness, row.targetServiceId ≠ "" → row.state = .fresh →
        ∃ refreshed, stored.refresh.state.profiles[key]? = some refreshed ∧
          ∃ row' ∈ refreshed.targetReadiness, row'.state = .fresh) ∧
    ¬ ∀ (stored : StoredState Unit), ∀ old ∈ stored.state.incidents,
      ∀ incident ∈ stored.refresh.state.incidents, incident.id = old.id →
        old.acknowledgedAt.isSome → incident.acknowledgedAt.isSome := by
  have hgone (rows : List ProfileTargetReadiness)
      (hrefreshed : ((profileWith rows).refresh.state.profiles["p"]?.all fun profile =>
        profile.targetReadiness.all (·.state ≠ .fresh)) = true) :
      ¬ ∃ refreshed, (profileWith rows).refresh.state.profiles["p"]? = some refreshed ∧
          ∃ row' ∈ refreshed.targetReadiness, row'.state = .fresh := by
    rintro ⟨refreshed, hfound, row', hmem, hfresh⟩
    rw [hfound, Option.all_some, List.all_eq_true] at hrefreshed
    exact of_decide_eq_true (hrefreshed row' hmem) hfresh
  refine ⟨fun h => ?_, fun h => ?_, fun h => ?_⟩
  · refine hgone [{ state := .fresh }] (by decide)
      (h (profileWith [{ state := .fresh }]) "p" _ rfl ?_ _ List.mem_cons_self rfl)
    decide
  · refine hgone [{ targetServiceId := "a", state := .fresh },
        { targetServiceId := "a", state := .stale }] (by decide)
      (h (profileWith [{ targetServiceId := "a", state := .fresh },
        { targetServiceId := "a", state := .stale }]) "p" _ rfl _ List.mem_cons_self ?_ rfl)
    decide
  · let twice := handledTwice [acknowledgedIncident, { id := "service" }]
    have hlost := h twice acknowledgedIncident List.mem_cons_self
      (twice.refresh.state.incidents.head?.getD {}) (by decide +kernel) (by decide +kernel) rfl
    revert hlost
    decide +kernel

end AgentBrowser
