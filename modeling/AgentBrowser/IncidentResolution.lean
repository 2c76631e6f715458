import AgentBrowser.DerivedViews
import AgentBrowser.Transition
import Mathlib.Data.List.Nodup

namespace AgentBrowser
set_option autoImplicit true

section Handling

/-- What an operator did about an incident. -/
structure IncidentHandling where
  eventId : String
  timestamp : String
  actor : String
  note : Option String

def serviceIncidentHandlingEvent (incident : ServiceIncident) (kind : ServiceEventKind)
    (handling : IncidentHandling) : ServiceEvent :=
  let action := if kind = .incidentResolved then "resolved" else "acknowledged"
  { id := handling.eventId
    timestamp := handling.timestamp
    kind
    message := "Incident " ++ incident.label ++ " " ++ action
    browserId := incident.browserId
    details := some (.object ([("incidentId", .string incident.id),
      ("actor", .string handling.actor), ("action", .string action)] ++
      (handling.note.map fun note => ("note", .string note)).toList)) }

def ServiceIncident.acknowledge (incident : ServiceIncident) (handling : IncidentHandling) :
    ServiceIncident :=
  { incident with
    acknowledgedAt := incident.acknowledgedAt.or (some handling.timestamp)
    acknowledgedBy := some handling.actor
    acknowledgementNote := handling.note }

def ServiceIncident.resolve (incident : ServiceIncident) (handling : IncidentHandling) :
    ServiceIncident :=
  { incident with
    acknowledgedAt := incident.acknowledgedAt.or (some handling.timestamp)
    acknowledgedBy := incident.acknowledgedBy.or (some handling.actor)
    resolvedAt := some handling.timestamp
    resolvedBy := some handling.actor
    resolutionNote := handling.note
    state := .recovered
    currentHealth := none }

/-- The incident at the index is marked, and the log tells so. -/
def handleIncident (mark : ServiceIncident → IncidentHandling → ServiceIncident)
    (kind : ServiceEventKind) (handling : IncidentHandling) (state : ServiceState)
    (index : Nat) : ServiceState :=
  match state.incidents[index]? with
  | none => state
  | some incident =>
    let incident := mark incident handling
    pushServiceEvent { state with incidents := state.incidents.set index incident }
      (serviceIncidentHandlingEvent incident kind handling)

def acknowledgeIncident : IncidentHandling → ServiceState → Nat → ServiceState :=
  handleIncident .acknowledge .incidentAcknowledged

def resolveIncident : IncidentHandling → ServiceState → Nat → ServiceState :=
  handleIncident .resolve .incidentResolved

def mutatePersistedServiceIncident (incidentId : String)
    (mutator : ServiceState → Nat → ServiceState) (state : ServiceState) :
    Except String (ServiceIncident × ServiceState) :=
  let state := refreshDerivedViews state
  match state.incidents.findIdx? fun incident => incident.id = incidentId with
  | none => .error ("Service incident not found: " ++ incidentId)
  | some index =>
    let state := refreshDerivedViews (mutator state index)
    match state.incidents.find? fun incident => incident.id = incidentId with
    | none => .error ("Service incident not found: " ++ incidentId)
    | some incident => .ok (incident, state)

def acknowledgeServiceIncident (incidentId : String) (handling : IncidentHandling) :
    ServiceState → Except String (ServiceIncident × ServiceState) :=
  mutatePersistedServiceIncident incidentId (acknowledgeIncident handling)

def resolveServiceIncident (incidentId : String) (handling : IncidentHandling) :
    ServiceState → Except String (ServiceIncident × ServiceState) :=
  mutatePersistedServiceIncident incidentId (resolveIncident handling)

end Handling

/-- What happens to the records that incidents are derived from, and to the incidents. -/
inductive IncidentStep where
  | push (event : ServiceEvent)
  | setJobs (jobs : BTreeMap ServiceJob)
  | acknowledge (incidentId : String) (handling : IncidentHandling)
  | refresh

def incidentNext (state : ServiceState) : IncidentStep → Option ServiceState
  | .push event => some (pushServiceEvent state event)
  | .setJobs jobs => some { state with jobs }
  | .acknowledge incidentId handling =>
    (state.incidents.findIdx? fun incident => incident.id = incidentId).map
      (acknowledgeIncident handling state)
  | .refresh => some (refreshDerivedViews state)

/-- The state as the incident has just been marked as resolved, with its views still to refresh. -/
def markResolved (incidentId : String) (handling : IncidentHandling) (state : ServiceState) :
    ServiceState :=
  let state := refreshDerivedViews state
  ((state.incidents.findIdx? fun incident => incident.id = incidentId).map
    (resolveIncident handling state)).getD state

section Sources
variable (state : ServiceState) (id : String)

def incidentEvents : List ServiceEvent :=
  (state.events.filter serviceEventIsIncident).filter fun event => eventIncidentKey event = id

def incidentJobs : List ServiceJob :=
  ((state.jobs.toList.map (·.2)).filter serviceJobIsIncident).filter fun job =>
    jobIncidentKey state job = id

/-- The record that tells the incident, whatever events and jobs say. -/
def incidentRecord : Option ServiceIncident :=
  ((recordIncidents state).filter (·.id = id)).getLast?

/-- Some event, job or other record tells the incident. -/
def Derives : Prop :=
  incidentEvents state id ≠ [] ∨ incidentJobs state id ≠ [] ∨ (incidentRecord state id).isSome

/-- As texts, what dates the incident is not later than the time: the record that tells it, or
else its first event, the events that do not handle it, and its jobs. -/
def NotAfter (timestamp : String) : Prop :=
  match incidentRecord state id with
  | some record => record.latestTimestamp ≤ timestamp
  | none =>
    (∀ event ∈ (incidentEvents state id).head?, event.timestamp ≤ timestamp) ∧
    (∀ event ∈ incidentEvents state id, event.kind.handling = false →
      event.timestamp ≤ timestamp) ∧
    ∀ job ∈ incidentJobs state id, serviceJobIncidentTimestamp job ≤ timestamp

instance : Decidable (Derives state id) := inferInstanceAs (Decidable (_ ∨ _))

instance : Decidable (NotAfter state id timestamp) := by
  unfold NotAfter
  split <;> infer_instance

end Sources

/-- A refresh that derives the incident finds it stored, and finds nothing that dates it later
than its resolution. -/
def StaysResolved (id timestamp : String) (state : ServiceState) : IncidentStep → Prop
  | .refresh => Derives state id →
    (∃ incident ∈ state.incidents, incident.id = id) ∧ NotAfter state id timestamp
  | _ => True

/-- The state whose incidents a refresh derives. -/
def withViews (state : ServiceState) : ServiceState :=
  refreshServiceTabHandles (refreshProfileReadiness state)

section Views
variable {state : ServiceState} {id tabId : String}

theorem tabs_withViews (state : ServiceState) (tabId : String) (f : BrowserTab → α) (h : ∀ tab handle,
    f { tab with serviceTabHandle := handle } = f tab) :
    (withViews state).tabs[tabId]?.map f = state.tabs[tabId]?.map f := by
  simp only [withViews, refreshServiceTabHandles, refreshProfileReadiness,
    Std.ExtTreeMap.getElem?_map, Option.map_map]
  congr 1
  funext tab
  exact h tab _

theorem browserHealth_withViews : (withViews state).browserHealth = state.browserHealth := by
  funext browserId
  simp only [ServiceState.browserHealth, withViews, refreshServiceTabHandles,
    refreshProfileReadiness, Std.ExtTreeMap.getElem?_map, Option.map_map]
  rfl

theorem jobIncidentKey_withViews : jobIncidentKey (withViews state) = jobIncidentKey state := by
  funext job
  have htab (tabId : String) := tabs_withViews state tabId (·.browserId) fun _ _ => rfl
  simp only [jobIncidentKey, serviceJobBrowserId, htab]

theorem abandonedSharedTabReason_withViews :
    abandonedSharedTabReason (withViews state) = abandonedSharedTabReason state := by
  funext session tabId
  have htab := tabs_withViews state tabId (fun tab => (tab.lifecycle, tab.browserId))
    fun _ _ => rfl
  simp only [abandonedSharedTabReason]
  cases hviews : (withViews state).tabs[tabId]? <;> cases htabs : state.tabs[tabId]? <;>
    grind

theorem recordIncidents_withViews :
    recordIncidents (withViews state) = recordIncidents state := by
  have hremote : deriveRemoteViewIncidents (withViews state) =
      deriveRemoteViewIncidents state := by
    simp only [deriveRemoteViewIncidents, browserHealth_withViews]
    rfl
  have hshared : deriveSharedProfileCoordinationIncidents (withViews state) =
      deriveSharedProfileCoordinationIncidents state := by
    simp only [deriveSharedProfileCoordinationIncidents, abandonedSharedTabReason_withViews]
    rfl
  rw [recordIncidents, recordIncidents, hremote, hshared]

end Views

section Derivation
variable {state : ServiceState} {id : String} {p : String → Prop}
  {grouped : BTreeMap ServiceIncident} {incident : ServiceIncident} {event : ServiceEvent}
  {job : ServiceJob}

/-- The map has the incident under its name, with a date as wanted. -/
def DatedAt (grouped : BTreeMap ServiceIncident) (id : String) (p : String → Prop) : Prop :=
  ∀ incident, grouped[id]? = some incident →
    incident.id = id ∧ p incident.latestTimestamp

theorem withEvent_id : (incident.withEvent event).id = incident.id := by
  unfold ServiceIncident.withEvent
  split <;> rfl

theorem withJob_id : (incident.withJob state job).id = incident.id := by
  unfold ServiceIncident.withJob
  split <;> rfl

theorem withEvent_dated (h : p incident.latestTimestamp)
    (hevent : event.kind.handling = false → p event.timestamp) :
    p (incident.withEvent event).latestTimestamp := by
  unfold ServiceIncident.withEvent
  split
  next hnewer => exact hevent (by grind)
  next => exact h

theorem withJob_dated (h : p incident.latestTimestamp)
    (hjob : p (serviceJobIncidentTimestamp job)) :
    p (incident.withJob state job).latestTimestamp := by
  unfold ServiceIncident.withJob
  split
  · exact hjob
  · exact h

theorem getElem?_groupEvent : (groupEvent state grouped event)[id]? =
    if eventIncidentKey event = id then
      some { (grouped[id]?.getD (incidentOfEvent state id event)).withEvent event with
        eventIds := ((grouped[id]?.getD (incidentOfEvent state id event)).withEvent
          event).eventIds ++ [event.id] }
    else grouped[id]? := by
  rw [groupEvent, Std.ExtTreeMap.getElem?_insert]
  simp only [Std.LawfulEqCmp.compare_eq_iff_eq]
  split
  next heq => rw [heq]
  next => rfl

theorem getElem?_groupJob : (groupJob state grouped job)[id]? =
    if jobIncidentKey state job = id then
      some { (grouped[id]?.getD (incidentOfJob state id job)).withJob state job with
        jobIds := ((grouped[id]?.getD (incidentOfJob state id job)).withJob state job).jobIds ++
          [job.id] }
    else grouped[id]? := by
  rw [groupJob, Std.ExtTreeMap.getElem?_insert]
  simp only [Std.LawfulEqCmp.compare_eq_iff_eq]
  split
  next heq => rw [heq]
  next => rfl

/-- What an event or a job is added to is the incident so far, or one that it opens. -/
theorem getD_dated (opened : ServiceIncident) (h : DatedAt grouped id p)
    (hid : opened.id = id)
    (hopened : grouped[id]? = none → p opened.latestTimestamp) :
    (grouped[id]?.getD opened).id = id ∧
      p (grouped[id]?.getD opened).latestTimestamp := by
  cases hgrouped : grouped[id]? with
  | none => exact ⟨hid, hopened hgrouped⟩
  | some incident => exact h incident hgrouped

theorem groupEvent_dated (h : DatedAt grouped id p)
    (hfirst : grouped[id]? = none → eventIncidentKey event = id → p event.timestamp)
    (hlater : eventIncidentKey event = id → event.kind.handling = false →
      p event.timestamp) : DatedAt (groupEvent state grouped event) id p := by
  intro incident hincident
  rw [getElem?_groupEvent] at hincident
  split at hincident
  next hkey =>
    cases hincident
    obtain ⟨hid, hdated⟩ := getD_dated (incidentOfEvent state id event) h rfl
      fun hnone => hfirst hnone hkey
    exact ⟨withEvent_id.trans hid, withEvent_dated hdated (hlater hkey)⟩
  next => exact h incident hincident

theorem groupJob_dated (h : DatedAt grouped id p)
    (hjob : jobIncidentKey state job = id → p (serviceJobIncidentTimestamp job)) :
    DatedAt (groupJob state grouped job) id p := by
  intro incident hincident
  rw [getElem?_groupJob] at hincident
  split at hincident
  next hkey =>
    cases hincident
    obtain ⟨hid, hdated⟩ := getD_dated (incidentOfJob state id job) h rfl
      fun _ => hjob hkey
    exact ⟨withJob_id.trans hid, withJob_dated hdated (hjob hkey)⟩
  next => exact h incident hincident

theorem foldl_groupEvent_dated {events : List ServiceEvent} (h : DatedAt grouped id p)
    (hfirst : grouped[id]? = none →
      ∀ event ∈ (events.filter fun event => eventIncidentKey event = id).head?,
        p event.timestamp)
    (hlater : ∀ event ∈ events, eventIncidentKey event = id → event.kind.handling = false →
      p event.timestamp) :
    DatedAt (events.foldl (groupEvent state) grouped) id p := by
  induction events generalizing grouped with
  | nil => exact h
  | cons event events ih =>
    rw [List.foldl_cons]
    refine ih (groupEvent_dated h ?_ (hlater event List.mem_cons_self)) ?_
      fun later hmem => hlater later (List.mem_cons_of_mem _ hmem)
    · intro hnone hkey
      refine hfirst hnone event ?_
      rw [List.filter_cons, if_pos (decide_eq_true hkey)]
      rfl
    · intro hnone
      rw [getElem?_groupEvent] at hnone
      split at hnone
      next => cases hnone
      next hkey =>
        have hrest := hfirst hnone
        rwa [List.filter_cons, if_neg (by simpa using hkey)] at hrest

theorem foldl_groupJob_dated {jobs : List ServiceJob} (h : DatedAt grouped id p)
    (hjobs : ∀ job ∈ jobs, jobIncidentKey state job = id →
      p (serviceJobIncidentTimestamp job)) :
    DatedAt (jobs.foldl (groupJob state) grouped) id p := by
  induction jobs generalizing grouped with
  | nil => exact h
  | cons job jobs ih =>
    exact ih (groupJob_dated h (hjobs job List.mem_cons_self))
      fun later hmem => hjobs later (List.mem_cons_of_mem _ hmem)

theorem foldl_groupEvent_none {events : List ServiceEvent}
    (h : ∀ event ∈ events, eventIncidentKey event ≠ id) :
    (events.foldl (groupEvent state) grouped)[id]? = grouped[id]? := by
  induction events generalizing grouped with
  | nil => rfl
  | cons event events ih =>
    rw [List.foldl_cons, ih fun later hmem => h later (List.mem_cons_of_mem _ hmem),
      getElem?_groupEvent, if_neg (h event List.mem_cons_self)]

theorem foldl_groupJob_none {jobs : List ServiceJob}
    (h : ∀ job ∈ jobs, jobIncidentKey state job ≠ id) :
    (jobs.foldl (groupJob state) grouped)[id]? = grouped[id]? := by
  induction jobs generalizing grouped with
  | nil => rfl
  | cons job jobs ih =>
    rw [List.foldl_cons, ih fun later hmem => h later (List.mem_cons_of_mem _ hmem),
      getElem?_groupJob, if_neg (h job List.mem_cons_self)]

/-- The last record of a name replaces what was there. -/
theorem getElem?_foldl_insertIncident {records : List ServiceIncident} :
    (records.foldl insertIncident grouped)[id]? =
      (records.filter (·.id = id)).getLast?.or grouped[id]? := by
  induction records generalizing grouped with
  | nil => rfl
  | cons record records ih =>
    rw [List.foldl_cons, ih, insertIncident, Std.ExtTreeMap.getElem?_insert]
    by_cases hid : record.id = id
    · rw [if_pos (Std.LawfulEqCmp.compare_eq_iff_eq.mpr hid),
        List.filter_cons, if_pos (decide_eq_true hid), List.getLast?_cons]
      cases (records.filter (·.id = id)).getLast? <;> rfl
    · rw [if_neg (mt Std.LawfulEqCmp.compare_eq_iff_eq.mp hid),
        List.filter_cons, if_neg (by simpa using hid)]

end Derivation

section Derived
variable {state : ServiceState} {id : String}

/-- The incidents as a refresh groups them. -/
def groupedViews (state : ServiceState) : BTreeMap ServiceIncident :=
  (recordIncidents (withViews state)).foldl insertIncident (groupedIncidents (withViews state))

theorem getElem?_groupedViews : (groupedViews state)[id]? =
    (incidentRecord state id).or (groupedIncidents (withViews state))[id]? := by
  rw [groupedViews, getElem?_foldl_insertIncident, recordIncidents_withViews, incidentRecord]

theorem groupedIncidents_dated {p : String → Prop}
    (hfirst : ∀ event ∈ (incidentEvents state id).head?, p event.timestamp)
    (hlater : ∀ event ∈ incidentEvents state id, event.kind.handling = false →
      p event.timestamp)
    (hjobs : ∀ job ∈ incidentJobs state id, p (serviceJobIncidentTimestamp job)) :
    DatedAt (groupedIncidents (withViews state)) id p := by
  refine foldl_groupJob_dated (foldl_groupEvent_dated (fun _ h => ?_) (fun _ => ?_) ?_) ?_
  · rw [Std.ExtTreeMap.getElem?_empty] at h
    cases h
  · exact hfirst
  · exact fun event hmem hkey =>
      hlater event (List.mem_filter.mpr ⟨hmem, decide_eq_true hkey⟩)
  · rw [jobIncidentKey_withViews]
    exact fun job hmem hkey => hjobs job (List.mem_filter.mpr ⟨hmem, decide_eq_true hkey⟩)

theorem groupedIncidents_none (h : ¬ Derives state id) :
    (groupedIncidents (withViews state))[id]? = none := by
  obtain ⟨hevents, hrest⟩ := not_or.mp h
  obtain ⟨hjobs, -⟩ := not_or.mp hrest
  rw [groupedIncidents, foldl_groupJob_none, foldl_groupEvent_none,
    Std.ExtTreeMap.getElem?_empty]
  · intro event hmem hkey
    exact hevents (List.ne_nil_of_mem (List.mem_filter.mpr ⟨hmem, decide_eq_true hkey⟩))
  · rw [jobIncidentKey_withViews]
    intro job hmem hkey
    exact hjobs (List.ne_nil_of_mem (List.mem_filter.mpr ⟨hmem, decide_eq_true hkey⟩))

theorem completeIncident_id : (completeIncident state incident).id = incident.id := rfl

theorem completeIncident_latestTimestamp :
    (completeIncident state incident).latestTimestamp = incident.latestTimestamp := rfl

theorem incidentRecord_id (h : incidentRecord state id = some record) : record.id = id :=
  of_decide_eq_true (List.mem_filter.mp (List.mem_of_getLast? h)).2

theorem groupedViews_id (h : (groupedViews state)[id]? = some incident) : incident.id = id := by
  rw [getElem?_groupedViews] at h
  rcases Option.or_eq_some_iff.mp h with hrecord | ⟨-, hgrouped⟩
  · exact incidentRecord_id hrecord
  · exact (groupedIncidents_dated (p := fun _ => True) (fun _ _ => trivial)
      (fun _ _ _ => trivial) (fun _ _ => trivial) incident hgrouped).1

theorem mem_deriveServiceIncidents :
    incident ∈ deriveServiceIncidents (withViews state) ↔
      ∃ grouped, (groupedViews state)[grouped.id]? = some grouped ∧
        incident = completeIncident (withViews state) grouped := by
  rw [deriveServiceIncidents, List.mem_mergeSort, List.mem_map]
  constructor
  · rintro ⟨⟨key, grouped⟩, hmem, rfl⟩
    have hgrouped : (groupedViews state)[key]? = some grouped :=
      Std.ExtTreeMap.mem_toList_iff_getElem?_eq_some.mp hmem
    exact ⟨grouped, (groupedViews_id hgrouped).symm ▸ hgrouped, rfl⟩
  · rintro ⟨grouped, hgrouped, rfl⟩
    exact ⟨(grouped.id, grouped),
      Std.ExtTreeMap.mem_toList_iff_getElem?_eq_some.mpr hgrouped, rfl⟩

theorem derives_of_mem (h : incident ∈ deriveServiceIncidents (withViews state)) :
    Derives state incident.id := by
  obtain ⟨grouped, hgrouped, rfl⟩ := mem_deriveServiceIncidents.mp h
  by_contra hnot
  rw [completeIncident_id] at hnot
  have hrecord : incidentRecord state grouped.id = none := by
    simpa [Derives] using (not_or.mp (not_or.mp hnot).2).2
  rw [getElem?_groupedViews, hrecord, groupedIncidents_none hnot] at hgrouped
  cases hgrouped

theorem derived_latestTimestamp (h : incident ∈ deriveServiceIncidents (withViews state))
    (hdated : NotAfter state incident.id timestamp) : incident.latestTimestamp ≤ timestamp := by
  obtain ⟨grouped, hgrouped, rfl⟩ := mem_deriveServiceIncidents.mp h
  rw [completeIncident_id] at hdated
  rw [completeIncident_latestTimestamp]
  rw [getElem?_groupedViews] at hgrouped
  unfold NotAfter at hdated
  split at hdated
  next record hrecord =>
    rw [hrecord] at hgrouped
    cases hgrouped
    exact hdated
  next hrecord =>
    rw [hrecord] at hgrouped
    exact (groupedIncidents_dated (p := (· ≤ timestamp)) hdated.1 hdated.2.1 hdated.2.2
      grouped hgrouped).2

/-- A refresh derives one incident of a name. -/
theorem deriveServiceIncidents_nodup :
    ((deriveServiceIncidents (withViews state)).map (·.id)).Nodup := by
  have hperm := (List.mergeSort_perm ((groupedViews state).toList.map fun entry =>
    completeIncident (withViews state) entry.2) fun left right =>
      right.latestTimestamp < left.latestTimestamp ||
        left.latestTimestamp = right.latestTimestamp && left.id ≤ right.id).map (·.id)
  have hkeys : ((groupedViews state).toList.map fun entry =>
      completeIncident (withViews state) entry.2).map (·.id) =
      (groupedViews state).toList.map (·.1) := by
    rw [List.map_map]
    refine List.map_congr_left fun entry hmem => ?_
    have hgrouped : (groupedViews state)[entry.1]? = some entry.2 :=
      Std.ExtTreeMap.mem_toList_iff_getElem?_eq_some.mp hmem
    have hid : entry.2.id = entry.1 := groupedViews_id hgrouped
    exact hid
  rw [hkeys] at hperm
  refine hperm.nodup_iff.mpr (List.pairwise_map.mpr ?_)
  exact Std.ExtTreeMap.distinct_keys_toList.imp fun hne heq =>
    hne (Std.LawfulEqCmp.compare_eq_iff_eq.mpr heq)

end Derived

section Resolved
variable {state : ServiceState} {id : String} {incidents : List ServiceIncident}

abbrev Handled : Type := Option String × Option String × Option String

def ServiceIncident.resolution (incident : ServiceIncident) : Handled :=
  (incident.resolvedAt, incident.resolvedBy, incident.resolutionNote)

def ServiceIncident.acknowledgement (incident : ServiceIncident) : Handled :=
  (incident.acknowledgedAt, incident.acknowledgedBy, incident.acknowledgementNote)

/-- The acknowledgement that is on record after a step. -/
def recordAcknowledgement (id : String) (recorded : Handled) : IncidentStep → Handled
  | .acknowledge incidentId handling =>
    if incidentId = id then
      (recorded.1.or (some handling.timestamp), some handling.actor, handling.note)
    else recorded
  | _ => recorded

/-- The incident, where it is stored, is recovered and handled as on record. -/
structure Resolved (id : String) (resolution acknowledgement : Handled)
    (incidents : List ServiceIncident) : Prop where
  nodup : (incidents.map (·.id)).Nodup
  recovered : ∀ incident ∈ incidents, incident.id = id → incident.state = .recovered
  resolution : ∀ incident ∈ incidents, incident.id = id → incident.resolution = resolution
  acknowledgement : ∀ incident ∈ incidents, incident.id = id →
    incident.acknowledgement = acknowledgement

theorem preserve_id {incident old : ServiceIncident} : (incident.preserve old).id = incident.id := by
  unfold ServiceIncident.preserve
  simp only
  split <;> rfl

theorem preserve_resolution {incident old : ServiceIncident} :
    (incident.preserve old).resolution = old.resolution := by
  unfold ServiceIncident.preserve
  simp only
  split <;> rfl

theorem preserve_acknowledgement {incident old : ServiceIncident} :
    (incident.preserve old).acknowledgement = old.acknowledgement := by
  unfold ServiceIncident.preserve
  simp only
  split <;> rfl

theorem preserve_recovered {incident old : ServiceIncident} (h : old.resolvedAt = some timestamp)
    (hdated : incident.latestTimestamp ≤ timestamp) :
    (incident.preserve old).state = .recovered := by
  unfold ServiceIncident.preserve
  simp only
  rw [if_pos (by rw [h]; exact decide_eq_true hdated)]
  rfl

theorem getElem?_preservedMetadata : (preservedMetadata incidents)[id]? =
    (incidents.filter (·.id = id)).getLast? := by
  rw [preservedMetadata, getElem?_foldl_insertIncident, Std.ExtTreeMap.getElem?_empty,
    Option.or_none]

/-- A stored incident gives its handling to the one that is derived under its name. -/
theorem preservedMetadata_some (h : ∃ incident ∈ incidents, incident.id = id) :
    ∃ old ∈ incidents, old.id = id ∧ (preservedMetadata incidents)[id]? = some old := by
  obtain ⟨incident, hmem, hid⟩ := h
  have hne : incidents.filter (·.id = id) ≠ [] :=
    List.ne_nil_of_mem (List.mem_filter.mpr ⟨hmem, decide_eq_true hid⟩)
  obtain ⟨old, hold⟩ := Option.isSome_iff_exists.mp (List.getLast?_isSome.mpr hne)
  obtain ⟨hmem', hid'⟩ := List.mem_filter.mp (List.mem_of_getLast? hold)
  exact ⟨old, hmem', of_decide_eq_true hid', getElem?_preservedMetadata.trans hold⟩

/-- What a refresh makes of a derived incident. -/
def withMetadata (state : ServiceState) (incident : ServiceIncident) : ServiceIncident :=
  (preservedMetadata state.incidents)[incident.id]?.elim incident incident.preserve

theorem withMetadata_id : (withMetadata state incident).id = incident.id := by
  unfold withMetadata
  cases (preservedMetadata state.incidents)[incident.id]? with
  | none => rfl
  | some old => exact preserve_id

theorem refreshDerivedViews_incidents : (refreshDerivedViews state).incidents =
    (deriveServiceIncidents (withViews state)).map (withMetadata state) := rfl

theorem refreshDerivedViews_nodup : ((refreshDerivedViews state).incidents.map (·.id)).Nodup := by
  have hid : ((·.id) ∘ withMetadata state : ServiceIncident → String) = (·.id) :=
    funext fun _ => withMetadata_id
  rw [refreshDerivedViews_incidents, List.map_map, hid]
  exact deriveServiceIncidents_nodup

theorem Resolved.refresh {resolution acknowledgement : Handled}
    (h : Resolved id resolution acknowledgement state.incidents)
    (hresolution : resolution.1 = some timestamp)
    (hstays : StaysResolved id timestamp state .refresh) :
    Resolved id resolution acknowledgement (refreshDerivedViews state).incidents := by
  have hold : ∀ incident ∈ (refreshDerivedViews state).incidents, incident.id = id →
      ∃ derived old : ServiceIncident, incident = derived.preserve old ∧
        derived.latestTimestamp ≤ timestamp ∧
        old ∈ state.incidents ∧ old.id = id := by
    intro incident hmem hid
    rw [refreshDerivedViews_incidents] at hmem
    obtain ⟨derived, hderived, rfl⟩ := List.mem_map.mp hmem
    rw [withMetadata_id] at hid
    subst hid
    obtain ⟨hstored, hdated⟩ := hstays (derives_of_mem hderived)
    obtain ⟨old, hold, hid, hpreserved⟩ := preservedMetadata_some hstored
    refine ⟨derived, old, ?_, derived_latestTimestamp hderived hdated, hold, hid⟩
    rw [withMetadata, hpreserved, Option.elim_some]
  refine ⟨refreshDerivedViews_nodup, ?_, ?_, ?_⟩
  all_goals
    intro incident hmem hid
    obtain ⟨derived, old, rfl, hdated, hmem, hid⟩ := hold incident hmem hid
  · have hat : old.resolvedAt = some timestamp :=
      (congrArg (·.1) (h.resolution old hmem hid)).trans hresolution
    exact preserve_recovered hat hdated
  · rw [preserve_resolution, h.resolution old hmem hid]
  · rw [preserve_acknowledgement, h.acknowledgement old hmem hid]

theorem handleIncident_set {mark : ServiceIncident → IncidentHandling → ServiceIncident}
    (hat : state.incidents[index]? = some incident) :
    (handleIncident mark kind handling state index).incidents =
      state.incidents.set index (mark incident handling) := by
  rw [handleIncident, hat]
  rfl

/-- Handling an incident changes the one of its name, and leaves its name. -/
theorem handleIncident_incidents
    (mark : ServiceIncident → IncidentHandling → ServiceIncident) (kind : ServiceEventKind)
    (handling : IncidentHandling) (hmark : ∀ incident, (mark incident handling).id = incident.id)
    (hnodup : (state.incidents.map (·.id)).Nodup)
    (hindex : state.incidents.findIdx? (fun incident => incident.id = incidentId) = some index) :
    ((handleIncident mark kind handling state index).incidents.map (·.id)).Nodup ∧
    ∀ incident ∈ (handleIncident mark kind handling state index).incidents,
      (incident ∈ state.incidents ∧ incident.id ≠ incidentId) ∨
      ∃ old ∈ state.incidents, old.id = incidentId ∧ incident = mark old handling := by
  obtain ⟨hlt, hid, -⟩ := List.findIdx?_eq_some_iff_getElem.mp hindex
  have hat : state.incidents[index]? = some state.incidents[index] := List.getElem?_eq_getElem hlt
  rw [handleIncident_set hat]
  constructor
  · have hlt' : index < (state.incidents.map (·.id)).length := by rwa [List.length_map]
    have hsame : state.incidents[index].id = (state.incidents.map (·.id))[index] := by
      rw [List.getElem_map]
    rw [List.map_set, hmark, hsame, List.set_getElem_self]
    exact hnodup
  · intro incident hmem
    obtain ⟨other, hother⟩ := List.mem_iff_getElem?.mp hmem
    rw [List.getElem?_set] at hother
    split at hother
    next heq =>
      cases hother
      exact .inr ⟨_, List.getElem_mem hlt, of_decide_eq_true hid, rfl⟩
    next hne =>
      refine .inl ⟨List.mem_of_getElem? hother, fun hsame => hne ?_⟩
      have hids : (state.incidents.map (·.id))[index]? = (state.incidents.map (·.id))[other]? := by
        rw [List.getElem?_map, List.getElem?_map, hother, hat]
        simp only [Option.map_some, of_decide_eq_true hid, hsame]
      exact (List.getElem?_inj (by rwa [List.length_map]) hnodup).mp hids

theorem Resolved.acknowledge {resolution acknowledgement : Handled}
    (h : Resolved id resolution acknowledgement state.incidents)
    (hnext : incidentNext state (.acknowledge incidentId handling) = some after) :
    Resolved id resolution
      (recordAcknowledgement id acknowledgement (.acknowledge incidentId handling))
      after.incidents := by
  obtain ⟨index, hindex, rfl⟩ := Option.map_eq_some_iff.mp hnext
  obtain ⟨hnodup, hincidents⟩ := handleIncident_incidents .acknowledge
    .incidentAcknowledged handling (fun _ => rfl) h.nodup hindex
  refine ⟨hnodup, ?_, ?_, ?_⟩
  all_goals
    intro incident hmem hid
    rcases hincidents incident hmem with ⟨hkept, hne⟩ | ⟨old, hold, holdId, rfl⟩
  · exact h.recovered incident hkept hid
  · exact h.recovered old hold hid
  · exact h.resolution incident hkept hid
  · exact h.resolution old hold hid
  · rw [recordAcknowledgement, if_neg fun heq => hne (hid.trans heq.symm)]
    exact h.acknowledgement incident hkept hid
  · rw [recordAcknowledgement, if_pos (holdId.symm.trans hid), ← h.acknowledgement old hold hid]
    rfl

theorem Resolved.next {resolution acknowledgement : Handled}
    (h : Resolved id resolution acknowledgement state.incidents)
    (hresolution : resolution.1 = some timestamp)
    (hstays : StaysResolved id timestamp state step)
    (hnext : incidentNext state step = some after) :
    Resolved id resolution (recordAcknowledgement id acknowledgement step) after.incidents := by
  cases step with
  | push event =>
    cases hnext
    exact h
  | setJobs jobs =>
    cases hnext
    exact h
  | acknowledge incidentId handling => exact h.acknowledge hnext
  | refresh =>
    cases hnext
    exact h.refresh hresolution hstays

theorem Resolved.runs {resolution acknowledgement : Handled}
    (h : Resolved id resolution acknowledgement state.incidents)
    (hresolution : resolution.1 = some timestamp)
    (hrun : Transition.Runs incidentNext (StaysResolved id timestamp) steps state final) :
    Resolved id resolution (steps.foldl (recordAcknowledgement id) acknowledgement)
      final.incidents := by
  induction steps generalizing state acknowledgement with
  | nil => exact hrun ▸ h
  | cons step steps ih =>
    obtain ⟨hstays, after, hnext, hrest⟩ := hrun
    exact ih (h.next hresolution hstays hnext) hrest

theorem resolveServiceIncident_ok
    (h : resolveServiceIncident id handling state = .ok (resolved, saved)) :
    (∃ index, (refreshDerivedViews state).incidents.findIdx?
      (fun incident => incident.id = id) = some index ∧
      markResolved id handling state =
        resolveIncident handling (refreshDerivedViews state) index) ∧
    saved = refreshDerivedViews (markResolved id handling state) ∧
    resolved ∈ saved.incidents ∧ resolved.id = id := by
  simp only [resolveServiceIncident, mutatePersistedServiceIncident] at h
  split at h
  next => cases h
  next index hindex =>
    have hmark : markResolved id handling state =
        resolveIncident handling (refreshDerivedViews state) index := by
      rw [markResolved, hindex]
      rfl
    split at h
    next => cases h
    next incident hfound =>
      cases h
      rw [hmark]
      exact ⟨⟨index, hindex, rfl⟩, rfl, List.mem_of_find?_eq_some hfound,
        by simpa using List.find?_some hfound⟩

theorem resolveIncident_resolved (handling : IncidentHandling)
    (hnodup : (state.incidents.map (·.id)).Nodup)
    (hindex : state.incidents.findIdx? (fun incident => incident.id = id) = some index) :
    ∃ acknowledgement,
      (∃ incident ∈ (resolveIncident handling state index).incidents, incident.id = id) ∧
      Resolved id (some handling.timestamp, some handling.actor, handling.note) acknowledgement
        (resolveIncident handling state index).incidents := by
  obtain ⟨hlt, hid, -⟩ := List.findIdx?_eq_some_iff_getElem.mp hindex
  have hat : state.incidents[index]? = some state.incidents[index] := List.getElem?_eq_getElem hlt
  obtain ⟨hnodup', hincidents⟩ := handleIncident_incidents .resolve .incidentResolved
    handling (fun _ => rfl) hnodup hindex
  have hresolved : ∀ incident ∈ (resolveIncident handling state index).incidents,
      incident.id = id → incident = state.incidents[index].resolve handling := by
    intro incident hmem hincident
    rcases hincidents incident hmem with ⟨-, hne⟩ | ⟨old, hold, holdId, rfl⟩
    · exact absurd hincident hne
    · rw [List.inj_on_of_nodup_map hnodup hold (List.getElem_mem hlt)
        (holdId.trans (of_decide_eq_true hid).symm)]
  refine ⟨(state.incidents[index].resolve handling).acknowledgement,
    ⟨state.incidents[index].resolve handling, ?_, of_decide_eq_true hid⟩, hnodup', ?_, ?_, ?_⟩
  · rw [resolveIncident, handleIncident_set hat]
    exact List.mem_set hlt _
  all_goals
    intro incident hmem hincident
    rw [hresolved incident hmem hincident]
  all_goals rfl

/-- An incident that was resolved is recovered wherever it is stored afterwards, with its
resolution and its acknowledgement as they were recorded. -/
theorem resolved_incident_stays_recovered
    (hresolve : resolveServiceIncident id handling state = .ok (resolved, saved))
    (hdated : NotAfter (markResolved id handling state) id handling.timestamp)
    (hrun : Transition.Runs incidentNext (StaysResolved id handling.timestamp) steps saved final)
    (hmem : incident ∈ final.incidents) (hid : incident.id = id) :
    incident.state = .recovered ∧
      incident.resolution = (some handling.timestamp, some handling.actor, handling.note) ∧
      incident.acknowledgement =
        steps.foldl (recordAcknowledgement id) resolved.acknowledgement := by
  obtain ⟨⟨index, hindex, hmark⟩, rfl, hresolved, hresolvedId⟩ := resolveServiceIncident_ok hresolve
  obtain ⟨acknowledgement, hstored, hmarked⟩ :=
    resolveIncident_resolved handling refreshDerivedViews_nodup hindex
  rw [← hmark] at hstored hmarked
  have hsaved := hmarked.refresh rfl fun _ => ⟨hstored, hdated⟩
  have hfinal := hsaved.runs rfl hrun
  rw [hsaved.acknowledgement resolved hresolved hresolvedId]
  exact ⟨hfinal.recovered incident hmem hid, hfinal.resolution incident hmem hid,
    hfinal.acknowledgement incident hmem hid⟩

end Resolved

section Returning

/-- One failed reconciliation, resolved on the next day. -/
def failedReconciliation : ServiceState :=
  { events :=
      [{ id := "event-1"
         timestamp := "2026-01-01T00:00:00+00:00"
         kind := .reconciliationError
         message := "Reconciliation failed" }] }

def nextDay : IncidentHandling := ⟨"event-2", "2026-01-02T00:00:00+00:00", "operator", none⟩

/-- An acknowledgement on the day after, and as many events as push all older ones out. -/
def acknowledgedLate : List IncidentStep :=
  IncidentStep.acknowledge "service"
      ⟨"event-3", "2026-01-03T00:00:00+00:00", "operator", none⟩ ::
    List.replicate 99
      (IncidentStep.push { id := "event-4", timestamp := "2026-01-04T00:00:00+00:00" }) ++
    [IncidentStep.refresh]

theorem ok_of_toOption {result : Except ε α} (h : result.toOption = some value) :
    result = .ok value := by
  cases result with
  | error error => cases h
  | ok found =>
    cases h
    rfl

theorem resolved_incident_returns : ∃ resolved saved final incident,
    resolveServiceIncident "service" nextDay failedReconciliation = .ok (resolved, saved) ∧
    resolved.state = .recovered ∧
    Transition.Free incidentNext acknowledgedLate saved final ∧
    incident ∈ final.incidents ∧ incident.id = "service" ∧ incident.state = .service := by
  have hrun : (do
      let (resolved, saved) ←
        (resolveServiceIncident "service" nextDay failedReconciliation).toOption
      let final ← acknowledgedLate.foldlM incidentNext saved
      let incident ← final.incidents.find? fun incident => incident.id = "service"
      pure (decide (resolved.state = .recovered ∧ incident.state = .service))) = some true := by
    decide +kernel
  obtain ⟨⟨resolved, saved⟩, hresolve, hrun⟩ := Option.bind_eq_some_iff.mp hrun
  obtain ⟨final, hfinal, hrun⟩ := Option.bind_eq_some_iff.mp hrun
  obtain ⟨incident, hfound, hrun⟩ := Option.bind_eq_some_iff.mp hrun
  obtain ⟨hrecovered, hservice⟩ := of_decide_eq_true (Option.some.inj hrun)
  exact ⟨resolved, saved, final, incident, ok_of_toOption hresolve, hrecovered,
    .of_foldlM hfinal, List.mem_of_find?_eq_some hfound, by simpa using List.find?_some hfound,
    hservice⟩

theorem failed_reconciliation_stays_recovered : ∃ resolved saved final incident,
    resolveServiceIncident "service" nextDay failedReconciliation = .ok (resolved, saved) ∧
    incidentNext saved .refresh = some final ∧ incident ∈ final.incidents ∧
    incident.state = .recovered := by
  have hdated : NotAfter (markResolved "service" nextDay failedReconciliation) "service"
      nextDay.timestamp := by decide +kernel
  have hrun : (do
      let (_, saved) ← (resolveServiceIncident "service" nextDay failedReconciliation).toOption
      let final ← incidentNext saved .refresh
      let _ ← final.incidents.find? fun incident => incident.id = "service"
      pure (decide ((∃ incident ∈ saved.incidents, incident.id = "service") ∧
        NotAfter saved "service" nextDay.timestamp))) = some true := by
    decide +kernel
  obtain ⟨⟨resolved, saved⟩, hresolve, hrun⟩ := Option.bind_eq_some_iff.mp hrun
  obtain ⟨final, hfinal, hrun⟩ := Option.bind_eq_some_iff.mp hrun
  obtain ⟨incident, hfound, hrun⟩ := Option.bind_eq_some_iff.mp hrun
  have hstays := of_decide_eq_true (Option.some.inj hrun)
  have hmem := List.mem_of_find?_eq_some hfound
  have hrefresh : Transition.Runs incidentNext (StaysResolved "service" nextDay.timestamp)
      [.refresh] saved final := ⟨fun _ => hstays, final, hfinal, rfl⟩
  have hrecovered := resolved_incident_stays_recovered (ok_of_toOption hresolve) hdated hrefresh
    hmem (by simpa using List.find?_some hfound)
  exact ⟨resolved, saved, final, incident, ok_of_toOption hresolve, hfinal, hmem, hrecovered.1⟩

end Returning

end AgentBrowser
