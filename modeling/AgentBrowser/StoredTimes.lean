import AgentBrowser.IncidentResolution
import AgentBrowser.RemoteViewReconcile
import AgentBrowser.StandardText
import AgentBrowser.UtcTime

namespace AgentBrowser
open Durable
set_option autoImplicit true

section Texts
variable {a b : UtcTime}

theorem mem_padded (h : c ∈ padded width n) : ∃ d, c = digit d := by
  induction width generalizing n with
  | zero => cases h
  | succ width ih =>
    rcases List.mem_append.mp h with hfront | hlast
    · exact ih hfront
    · exact ⟨_, List.mem_singleton.mp hlast⟩

theorem isWhiteSpace_digit (d : Fin 10) : isWhiteSpace (digit d) = false := by
  revert d
  decide

theorem isWhiteSpace_padded (h : c ∈ padded width n) : isWhiteSpace c = false := by
  obtain ⟨d, rfl⟩ := mem_padded h
  exact isWhiteSpace_digit d

theorem isWhiteSpace_text (h : c ∈ a.text.toList) : isWhiteSpace c = false := by
  rw [UtcTime.text, String.toList_ofList, List.mem_append] at h
  rcases h with hseconds | htail
  · simp only [UtcTime.secondsText, UtcTime.dateText, List.mem_append, List.mem_cons] at hseconds
    rcases hseconds with ((((hyear | rfl | hmonth) | rfl | hday) | rfl | hhour) | rfl | hminute) |
      rfl | hsecond
    all_goals first | rfl | exact isWhiteSpace_padded (by assumption)
  · rcases List.mem_append.mp htail with hfraction | hzone
    · cases hdigits : a.fraction with
      | nil =>
        rw [hdigits] at hfraction
        cases hfraction
      | cons d ds =>
        rw [hdigits, fractionText, ← List.map_cons] at hfraction
        rcases List.mem_cons.mp hfraction with rfl | hmem
        · rfl
        · obtain ⟨e, -, rfl⟩ := List.mem_map.mp hmem
          exact isWhiteSpace_digit e
    · have hall (z : UtcZone) : (z.text.all fun c => !isWhiteSpace c) = true := by
        cases z <;> decide
      simpa using List.all_eq_true.mp (hall a.zone) c hzone

theorem trim_text : trim a.text = a.text := trim_eq_self fun _ hc => isWhiteSpace_text hc

theorem text_ne_empty : a.text ≠ "" := by
  intro h
  have hlength := congrArg (fun text => text.toList.length) h
  simp [UtcTime.text, UtcTime.secondsText, UtcTime.dateText] at hlength

end Texts

/-- A lease and an incident are compared by time: the lease has expired exactly when its deadline is
not after now, and an entry is the latest one exactly when the latest so far is not after it. -/
def ComparedInTime (a b : UtcTime) : Prop :=
  (∀ lease : ViewerLease, lease.expiresAt = some a.text →
    (viewerLeaseIsExpired b.text lease = true ↔ a.instant ≤ b.instant)) ∧
  (incidentIsNewer a.text b.text = true ↔ b.instant ≤ a.instant)

theorem viewerLeaseIsExpired_text {a b : UtcTime} (h : lease.expiresAt = some a.text) :
    viewerLeaseIsExpired b.text lease = true ↔ a.text ≤ b.text := by
  rw [viewerLeaseIsExpired, h, Option.map_some, trim_text, Option.filter_some,
    if_pos (decide_eq_true text_ne_empty), Option.any_some, decide_eq_true_eq]

theorem comparedInTime_iff {a b : UtcTime} :
    ComparedInTime a b ↔ SameOrder a.text b.text a.instant b.instant := by
  have hincident : incidentIsNewer a.text b.text = true ↔ b.text ≤ a.text := by
    rw [incidentIsNewer, decide_eq_true_eq]
  rw [ComparedInTime, hincident, sameOrder_iff_le]
  refine and_congr_left' ⟨fun hall => ?_, fun hle lease hexpires => ?_⟩
  · have hexpires : ({ expiresAt := some a.text } : ViewerLease).expiresAt = some a.text := rfl
    exact (viewerLeaseIsExpired_text hexpires).symm.trans (hall _ hexpires)
  · exact (viewerLeaseIsExpired_text hexpires).trans hle

section Incidents
variable {state : ServiceState} {id : String} {grouped : BTreeMap ServiceIncident}
  {timestamp : String}

/-- The times of the entries that an incident is dated by. -/
def entryTimestamps (state : ServiceState) (id : String) : List String :=
  (incidentEvents state id).head?.toList.map (·.timestamp) ++
    (((incidentEvents state id).filter fun event => !event.kind.handling).map (·.timestamp) ++
      (incidentJobs state id).map serviceJobIncidentTimestamp)

/-- The incident is there and dated at that time or later. -/
def DatedFrom (grouped : BTreeMap ServiceIncident) (id timestamp : String) : Prop :=
  ∃ incident, grouped[id]? = some incident ∧ timestamp ≤ incident.latestTimestamp

theorem le_withEvent (incident : ServiceIncident) (event : ServiceEvent) :
    incident.latestTimestamp ≤ (incident.withEvent event).latestTimestamp := by
  unfold ServiceIncident.withEvent
  split
  · rename_i h
    simp only [Bool.and_eq_true, incidentIsNewer, decide_eq_true_eq] at h
    exact h.2
  · exact le_refl _

theorem timestamp_le_withEvent {incident : ServiceIncident} {event : ServiceEvent}
    (h : event.kind.handling = false) :
    event.timestamp ≤ (incident.withEvent event).latestTimestamp := by
  unfold ServiceIncident.withEvent
  split
  · exact le_refl _
  · rename_i hold
    simp only [h, Bool.not_false, Bool.true_and, incidentIsNewer, decide_eq_true_eq] at hold
    exact (not_le.mp hold).le

theorem le_withJob (incident : ServiceIncident) (job : ServiceJob) :
    incident.latestTimestamp ≤ (incident.withJob state job).latestTimestamp ∧
      serviceJobIncidentTimestamp job ≤ (incident.withJob state job).latestTimestamp := by
  unfold ServiceIncident.withJob
  split
  · rename_i h
    simp only [incidentIsNewer, decide_eq_true_eq] at h
    exact ⟨h, le_refl _⟩
  · rename_i h
    simp only [incidentIsNewer, decide_eq_true_eq] at h
    exact ⟨le_refl _, (not_le.mp h).le⟩

theorem DatedFrom.event (h : DatedFrom grouped id timestamp) (event : ServiceEvent) :
    DatedFrom (groupEvent state grouped event) id timestamp := by
  obtain ⟨incident, hincident, hle⟩ := h
  unfold DatedFrom
  rw [getElem?_groupEvent, hincident]
  split
  · exact ⟨_, rfl, hle.trans (le_withEvent incident event)⟩
  · exact ⟨incident, rfl, hle⟩

theorem DatedFrom.job (h : DatedFrom grouped id timestamp) (job : ServiceJob) :
    DatedFrom (groupJob state grouped job) id timestamp := by
  obtain ⟨incident, hincident, hle⟩ := h
  unfold DatedFrom
  rw [getElem?_groupJob, hincident]
  split
  · exact ⟨_, rfl, hle.trans (le_withJob incident job).1⟩
  · exact ⟨incident, rfl, hle⟩

theorem DatedFrom.events {events : List ServiceEvent}
    (h : DatedFrom grouped id timestamp) :
    DatedFrom (events.foldl (groupEvent state) grouped) id timestamp := by
  induction events generalizing grouped with
  | nil => exact h
  | cons event events ih => exact ih (h.event event)

theorem DatedFrom.jobs {jobs : List ServiceJob} (h : DatedFrom grouped id timestamp) :
    DatedFrom (jobs.foldl (groupJob state) grouped) id timestamp := by
  induction jobs generalizing grouped with
  | nil => exact h
  | cons job jobs ih => exact ih (h.job job)

theorem foldl_groupEvent_datedFrom {events : List ServiceEvent} (hm : event ∈ events)
    (hkey : eventIncidentKey event = id) (hplain : event.kind.handling = false) :
    DatedFrom (events.foldl (groupEvent state) grouped) id event.timestamp := by
  induction events generalizing grouped with
  | nil => cases hm
  | cons head events ih =>
    rw [List.foldl_cons]
    rcases List.mem_cons.mp hm with rfl | htail
    · apply DatedFrom.events
      unfold DatedFrom
      rw [getElem?_groupEvent, if_pos hkey]
      exact ⟨_, rfl, timestamp_le_withEvent hplain⟩
    · exact ih htail

theorem foldl_groupEvent_first {events : List ServiceEvent} (hnone : grouped[id]? = none)
    (hfirst : (events.filter fun event => eventIncidentKey event = id).head? = some event) :
    DatedFrom (events.foldl (groupEvent state) grouped) id event.timestamp := by
  induction events generalizing grouped with
  | nil => cases hfirst
  | cons head events ih =>
    rw [List.foldl_cons]
    by_cases hkey : eventIncidentKey head = id
    · rw [List.filter_cons, if_pos (decide_eq_true hkey), List.head?_cons] at hfirst
      obtain rfl := Option.some.inj hfirst
      apply DatedFrom.events
      unfold DatedFrom
      rw [getElem?_groupEvent, if_pos hkey, hnone]
      exact ⟨_, rfl, le_withEvent (incidentOfEvent state id head) head⟩
    · rw [List.filter_cons, if_neg (by simpa using hkey)] at hfirst
      refine ih ?_ hfirst
      rw [getElem?_groupEvent, if_neg hkey, hnone]

theorem foldl_groupJob_datedFrom {jobs : List ServiceJob} (hm : job ∈ jobs)
    (hkey : jobIncidentKey state job = id) :
    DatedFrom (jobs.foldl (groupJob state) grouped) id (serviceJobIncidentTimestamp job) := by
  induction jobs generalizing grouped with
  | nil => cases hm
  | cons head jobs ih =>
    rw [List.foldl_cons]
    rcases List.mem_cons.mp hm with rfl | htail
    · apply DatedFrom.jobs
      unfold DatedFrom
      rw [getElem?_groupJob, if_pos hkey]
      exact ⟨_, rfl, (le_withJob _ job).2⟩
    · exact ih htail

/-- An incident is dated by one of its entries, and by none with a smaller text. -/
theorem groupedIncidents_latest
    (h : (groupedIncidents (withViews state))[id]? = some incident) :
    incident.latestTimestamp ∈ entryTimestamps state id ∧
      ∀ timestamp ∈ entryTimestamps state id, timestamp ≤ incident.latestTimestamp := by
  constructor
  · refine (groupedIncidents_dated (p := (· ∈ entryTimestamps state id)) ?_ ?_ ?_ incident h).2
    · intro event hm
      refine List.mem_append_left _ (List.mem_map.mpr ⟨event, ?_, rfl⟩)
      exact Option.mem_toList.mpr hm
    · intro event hm hplain
      refine List.mem_append_right _ (List.mem_append_left _ (List.mem_map.mpr ⟨event, ?_, rfl⟩))
      exact List.mem_filter.mpr ⟨hm, by simp [hplain]⟩
    · intro job hm
      exact List.mem_append_right _ (List.mem_append_right _ (List.mem_map_of_mem hm))
  · intro timestamp hm
    suffices hdated : DatedFrom (groupedIncidents (withViews state)) id timestamp by
      obtain ⟨found, hfound, hle⟩ := hdated
      rw [h, Option.some.injEq] at hfound
      exact hfound ▸ hle
    unfold groupedIncidents
    rcases List.mem_append.mp hm with hfirst | hrest
    · obtain ⟨event, hevent, rfl⟩ := List.mem_map.mp hfirst
      apply DatedFrom.jobs
      exact foldl_groupEvent_first Std.ExtTreeMap.getElem?_empty (Option.mem_toList.mp hevent)
    · rcases List.mem_append.mp hrest with hevent | hjob
      · obtain ⟨event, hmem, rfl⟩ := List.mem_map.mp hevent
        obtain ⟨hsource, hplain⟩ := List.mem_filter.mp hmem
        obtain ⟨hlisted, hkey⟩ := List.mem_filter.mp hsource
        apply DatedFrom.jobs
        exact foldl_groupEvent_datedFrom hlisted (of_decide_eq_true hkey) (by simpa using hplain)
      · obtain ⟨job, hmem, rfl⟩ := List.mem_map.mp hjob
        obtain ⟨hlisted, hkey⟩ := List.mem_filter.mp hmem
        refine foldl_groupJob_datedFrom hlisted ?_
        rw [jobIncidentKey_withViews]
        exact of_decide_eq_true hkey

end Incidents

/-- Stored times are compared in time exactly when their texts tell which is later; and where the
texts of an incident's entries all do, the latest entry is the latest in time. -/
theorem stored_times_compared (a b : UtcTime) :
    (ComparedInTime a b ↔ a.Tells b) ∧
    ∀ state id incident, (groupedIncidents (withViews state))[id]? = some incident →
      (∀ timestamp ∈ entryTimestamps state id, ∃ t : UtcTime, t.text = timestamp) →
      (∀ a b : UtcTime, a.text ∈ entryTimestamps state id →
        b.text ∈ entryTimestamps state id → a.Tells b) →
      ∃ latest : UtcTime, latest.text = incident.latestTimestamp ∧
        ∀ t : UtcTime, t.text ∈ entryTimestamps state id → t.instant ≤ latest.instant := by
  refine ⟨comparedInTime_iff.trans UtcTime.sameOrder_text_iff, ?_⟩
  intro state id incident h htimes htells
  obtain ⟨hlatest, hle⟩ := groupedIncidents_latest h
  obtain ⟨latest, htext⟩ := htimes _ hlatest
  refine ⟨latest, htext, fun t ht => ?_⟩
  have hsame := UtcTime.sameOrder_text_iff.mpr (htells t latest ht (htext ▸ hlatest))
  rw [← not_lt, ← hsame.gt, htext, not_lt]
  exact hle _ ht

/-- The first second of the year 2026. -/
def newYear (fraction : List (Fin 10)) : UtcTime where
  year := 2026
  month := 1
  day := 1
  hour := 0
  minute := 0
  second := 0
  fraction
  zone := .zulu
  year_lt := by decide
  month_range := by decide
  day_range := by decide
  hour_lt := by decide
  minute_lt := by decide
  second_lt := by decide

/-- Half a second after its deadline a lease has not expired. -/
theorem lease_outlives_deadline : ¬ ∀ a b : UtcTime, ComparedInTime a b := by
  intro h
  have hcompared := h (newYear []) (newYear [5])
  rw [comparedInTime_iff, UtcTime.sameOrder_text_iff] at hcompared
  rcases hcompared with hseconds | ⟨hzone, _⟩
  · exact hseconds rfl
  · cases hzone

end AgentBrowser
