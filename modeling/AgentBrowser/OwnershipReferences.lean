import AgentBrowser.BrowserRecords
import AgentBrowser.OwnershipGraph

namespace AgentBrowser
set_option autoImplicit true

/-- The browsers host the tabs, and the sessions own them. -/
def ownershipGraph (browsers : BTreeMap BrowserProcess) (sessions : BTreeMap BrowserSession)
    (tabs : BTreeMap BrowserTab) : OwnershipGraph String String String where
  hosts := {browserId | browserId ∈ browsers}
  groups := {sessionId | sessionId ∈ sessions}
  items := {tabId | tabId ∈ tabs}
  uses sessionId browserId :=
    ∃ session, sessions[sessionId]? = some session ∧ browserId ∈ session.browserIds
  lists sessionId tabId :=
    ∃ session, sessions[sessionId]? = some session ∧ tabId ∈ session.tabIds
  active browserId sessionId :=
    ∃ browser, browsers[browserId]? = some browser ∧ sessionId ∈ browser.activeSessionIds
  on tabId browserId :=
    ∃ tab, tabs[tabId]? = some tab ∧ tab.lifecycle ≠ .closed ∧ tab.browserId = browserId
  owned tabId sessionId :=
    ∃ tab, tabs[tabId]? = some tab ∧ tab.lifecycle ≠ .closed ∧
      tab.ownerSessionId = some sessionId

namespace ServiceState

def graph (state : ServiceState) : OwnershipGraph String String String :=
  ownershipGraph state.browsers state.sessions state.tabs

/-- The references between browsers, sessions and tabs are closed. -/
def Closed (state : ServiceState) : Prop := state.graph.Closed

/-- Every tab is stored under its own id. -/
def TabsNamed (state : ServiceState) : Prop :=
  ∀ (tabId : String) (tab : BrowserTab), state.tabs[tabId]? = some tab → tab.id = tabId

end ServiceState

theorem mem_iff_getElem? {m : BTreeMap α} {key : String} :
    key ∈ m ↔ ∃ value, m[key]? = some value := by
  rw [Std.ExtTreeMap.mem_iff_isSome_getElem?, Option.isSome_iff_exists]

theorem mem_mergeUnique {values : List String} :
    value ∈ mergeUnique values other ↔ value ∈ values ∨ value = other := by
  unfold mergeUnique
  split
  · rename_i hcontains
    rw [List.contains_iff_mem] at hcontains
    exact ⟨.inl, fun h => h.elim id fun heq => heq ▸ hcontains⟩
  · simp

theorem mem_foldl_mergeUnique {values others : List String} :
    value ∈ others.foldl mergeUnique values ↔ value ∈ values ∨ value ∈ others := by
  induction others generalizing values with
  | nil => simp
  | cons other others ih =>
    rw [List.foldl_cons, ih, mem_mergeUnique, List.mem_cons, or_assoc]

theorem graph_refreshDerivedViews (state : ServiceState) :
    (refreshDerivedViews state).graph = state.graph := by
  ext <;> simp [refreshDerivedViews, refreshServiceTabHandles, refreshProfileReadiness,
    ServiceState.graph, ownershipGraph]

def BrowserSession.links (session : BrowserSession) : List String × List String :=
  (session.browserIds, session.tabIds)

/-- Clearing conflicts changes nothing else of the sessions. -/
theorem clearSameBrowserProfileLeaseConflicts_session (state : ServiceState)
    (browserId sessionId : String) :
    (clearSameBrowserProfileLeaseConflicts state browserId).sessions[sessionId]?.map (·.links) =
      state.sessions[sessionId]?.map (·.links) := by
  unfold clearSameBrowserProfileLeaseConflicts
  dsimp only
  split
  · rfl
  · rw [Std.ExtTreeMap.getElem?_map, Option.map_map]
    congr 1
    funext session
    dsimp only [Function.comp]
    split <;> rfl

theorem clearSameBrowserProfileLeaseConflicts_rest (state : ServiceState) (browserId : String) :
    (clearSameBrowserProfileLeaseConflicts state browserId).browsers = state.browsers ∧
      (clearSameBrowserProfileLeaseConflicts state browserId).tabs = state.tabs := by
  unfold clearSameBrowserProfileLeaseConflicts
  dsimp only
  split <;> exact ⟨rfl, rfl⟩

/-- The graph takes from the sessions only what they list. -/
theorem ownershipGraph_congr {left right : BTreeMap BrowserSession}
    (h : ∀ sessionId : String, left[sessionId]?.map (·.links) = right[sessionId]?.map (·.links)) :
    ownershipGraph browsers left tabs = ownershipGraph browsers right tabs := by
  have hmem (sessionId : String) : sessionId ∈ left ↔ sessionId ∈ right := by
    have hsame := congrArg Option.isSome (h sessionId)
    rw [Option.isSome_map, Option.isSome_map] at hsame
    rw [Std.ExtTreeMap.mem_iff_isSome_getElem?, Std.ExtTreeMap.mem_iff_isSome_getElem?, hsame]
  have hfield (p : List String × List String → Prop) (sessionId : String) :
      (∃ session, left[sessionId]? = some session ∧ p session.links) ↔
        ∃ session, right[sessionId]? = some session ∧ p session.links := by
    have hlinks (found : Option BrowserSession) : (∃ session, found = some session ∧
        p session.links) ↔ ∃ links, found.map (·.links) = some links ∧ p links := by
      cases found <;> simp
    rw [hlinks, hlinks, h]
  ext a b
  · rfl
  · exact hmem a
  · rfl
  · exact hfield (b ∈ ·.1) a
  · exact hfield (b ∈ ·.2) a
  · rfl
  · rfl
  · rfl

theorem mem_rebrowse {session : BrowserSession} :
    browserId ∈ (session.rebrowse canonicalBrowserId duplicateBrowserId).browserIds ↔
      ∃ used ∈ session.browserIds,
        (if used = duplicateBrowserId then canonicalBrowserId else used) = browserId := by
  unfold BrowserSession.rebrowse
  split
  · rename_i hcontains
    rw [List.contains_iff_mem] at hcontains
    simp only [mem_mergeUnique, List.mem_filter, decide_eq_true_eq]
    constructor
    · rintro (⟨hmem, hne⟩ | rfl)
      · exact ⟨browserId, hmem, if_neg hne⟩
      · exact ⟨duplicateBrowserId, hcontains, if_pos rfl⟩
    · rintro ⟨used, hmem, rfl⟩
      split
      · exact .inr rfl
      · rename_i hne
        exact .inl ⟨hmem, hne⟩
  · rename_i hcontains
    have hne : ∀ used ∈ session.browserIds, used ≠ duplicateBrowserId := by
      rintro used hmem rfl
      exact hcontains (List.contains_iff_mem.mpr hmem)
    constructor
    · intro hmem
      exact ⟨browserId, hmem, if_neg (hne browserId hmem)⟩
    · rintro ⟨used, hmem, rfl⟩
      rw [if_neg (hne used hmem)]
      exact hmem

theorem rebrowse_tabIds (session : BrowserSession) :
    (session.rebrowse canonicalBrowserId duplicateBrowserId).tabIds = session.tabIds := by
  unfold BrowserSession.rebrowse
  split <;> rfl

theorem rebrowse_tab (tab : BrowserTab) :
    (tab.rebrowse canonicalBrowserId duplicateBrowserId).lifecycle = tab.lifecycle ∧
      (tab.rebrowse canonicalBrowserId duplicateBrowserId).ownerSessionId = tab.ownerSessionId ∧
        (tab.rebrowse canonicalBrowserId duplicateBrowserId).browserId =
          if tab.browserId = duplicateBrowserId then canonicalBrowserId else tab.browserId := by
  unfold BrowserTab.rebrowse
  split <;> exact ⟨rfl, rfl, rfl⟩

/-- A merge renames the duplicate to the canonical browser. -/
theorem graph_mergeDuplicateBrowserRecord {state : ServiceState}
    (hduplicate : state.browsers[duplicateBrowserId]? = some duplicate)
    (hcanonical : (state.browsers.erase duplicateBrowserId)[canonicalBrowserId]? =
      some canonical) :
    (mergeDuplicateBrowserRecord now canonicalBrowserId duplicateBrowserId stamp state).2.graph =
      state.graph.mapHosts fun browserId =>
        if browserId = duplicateBrowserId then canonicalBrowserId else browserId := by
  have hne : duplicateBrowserId ≠ canonicalBrowserId := by
    rintro rfl
    simp at hcanonical
  have hstored : state.browsers[canonicalBrowserId]? = some canonical := by
    simpa [Std.ExtTreeMap.getElem?_erase, hne] using hcanonical
  have hgraph : (mergeDuplicateBrowserRecord now canonicalBrowserId duplicateBrowserId stamp
      state).2.graph = ownershipGraph
        ((state.browsers.erase duplicateBrowserId).insert canonicalBrowserId
          (canonical.absorb duplicate))
        (state.sessions.map fun _ session =>
          session.rebrowse canonicalBrowserId duplicateBrowserId)
        (state.tabs.map fun _ tab => tab.rebrowse canonicalBrowserId duplicateBrowserId) := by
    simp only [mergeDuplicateBrowserRecord, hduplicate, hcanonical, ServiceState.graph,
      pushServiceEvent, clearSameBrowserProfileLeaseConflicts_rest]
    apply ownershipGraph_congr
    intro sessionId
    rw [clearSameBrowserProfileLeaseConflicts_session]
  rw [hgraph]
  have hkeep : canonicalBrowserId ∈ state.browsers := by
    rw [Std.ExtTreeMap.mem_iff_isSome_getElem?, hstored]
    rfl
  have hdrop : duplicateBrowserId ∈ state.browsers := by
    rw [Std.ExtTreeMap.mem_iff_isSome_getElem?, hduplicate]
    rfl
  ext a b
  all_goals simp only [ownershipGraph, ServiceState.graph, OwnershipGraph.mapHosts,
    Std.ExtTreeMap.getElem?_map, Option.map_eq_some_iff]
  · simp only [Set.mem_ofPred_eq, Set.mem_image, Std.ExtTreeMap.mem_insert,
      Std.ExtTreeMap.mem_erase, Std.LawfulEqCmp.compare_eq_iff_eq]
    constructor
    · rintro (rfl | ⟨hother, hmem⟩)
      · exact ⟨canonicalBrowserId, hkeep, if_neg hne.symm⟩
      · exact ⟨a, hmem, if_neg fun heq => by simp [heq] at hother⟩
    · rintro ⟨browserId, hmem, rfl⟩
      split
      · exact .inl rfl
      · rename_i hother
        exact .inr ⟨by simpa using Ne.symm hother, hmem⟩
  · simp
  · simp
  · constructor
    · rintro ⟨_, ⟨session, hsession, rfl⟩, hmem⟩
      obtain ⟨used, hused, hname⟩ := mem_rebrowse.mp hmem
      exact ⟨used, ⟨session, hsession, hused⟩, hname⟩
    · rintro ⟨used, ⟨session, hsession, hused⟩, hname⟩
      exact ⟨_, ⟨session, hsession, rfl⟩, mem_rebrowse.mpr ⟨used, hused, hname⟩⟩
  · simp [rebrowse_tabIds]
  · constructor
    · rintro ⟨browser, hbrowser, hmem⟩
      rw [Std.ExtTreeMap.getElem?_insert, Std.ExtTreeMap.getElem?_erase] at hbrowser
      simp only [Std.LawfulEqCmp.compare_eq_iff_eq] at hbrowser
      split at hbrowser
      · rename_i heq
        cases hbrowser
        rcases mem_foldl_mergeUnique.mp hmem with hmem | hmem
        · exact ⟨canonicalBrowserId, ⟨canonical, hstored, hmem⟩, (if_neg hne.symm).trans heq⟩
        · exact ⟨duplicateBrowserId, ⟨duplicate, hduplicate, hmem⟩, (if_pos rfl).trans heq⟩
      · split at hbrowser
        · cases hbrowser
        · rename_i hother
          exact ⟨a, ⟨browser, hbrowser, hmem⟩, if_neg (Ne.symm hother)⟩
    · rintro ⟨browserId, ⟨browser, hbrowser, hmem⟩, hname⟩
      rw [Std.ExtTreeMap.getElem?_insert, Std.ExtTreeMap.getElem?_erase]
      simp only [Std.LawfulEqCmp.compare_eq_iff_eq]
      split at hname
      · rename_i heq
        subst heq
        rw [if_pos hname]
        rw [hduplicate] at hbrowser
        cases hbrowser
        exact ⟨_, rfl, mem_foldl_mergeUnique.mpr (.inr hmem)⟩
      · rename_i hother
        subst hname
        split
        · rename_i heq
          subst heq
          rw [hstored] at hbrowser
          cases hbrowser
          exact ⟨_, rfl, mem_foldl_mergeUnique.mpr (.inl hmem)⟩
        · exact ⟨browser, (if_neg (Ne.symm hother)).trans hbrowser, hmem⟩
  · constructor
    · rintro ⟨_, ⟨tab, htab, rfl⟩, hopen, hname⟩
      exact ⟨tab.browserId, ⟨tab, htab, (rebrowse_tab tab).1 ▸ hopen, rfl⟩,
        (rebrowse_tab tab).2.2 ▸ hname⟩
    · rintro ⟨_, ⟨tab, htab, hopen, rfl⟩, hname⟩
      exact ⟨_, ⟨tab, htab, rfl⟩, (rebrowse_tab tab).1 ▸ hopen,
        (rebrowse_tab tab).2.2.trans hname⟩
  · simp [rebrowse_tab]



/-- Without a browser the sessions use and list nothing of it. -/
theorem graph_withoutBrowser (state : ServiceState) (browserId : String) :
    (withoutBrowser state browserId).graph = state.graph.restrict {other | other ≠ browserId}
      Set.univ {tabId | ¬ state.tabs[tabId]?.any (·.browserId = browserId) = true} := by
  ext a b
  all_goals simp only [withoutBrowser, ownershipGraph, ServiceState.graph,
    OwnershipGraph.restrict, Std.ExtTreeMap.getElem?_map, Option.map_eq_some_iff]
  all_goals simp [mem_iff_getElem?, Std.ExtTreeMap.getElem?_erase]
  all_goals grind

theorem graph_withoutSessions (state : ServiceState) (sessionIds : List String) :
    (withoutSessions state sessionIds).graph = state.graph.restrict Set.univ
      {sessionId | sessionId ∉ sessionIds} Set.univ := by
  ext a b
  all_goals simp only [withoutSessions, ownershipGraph, ServiceState.graph,
    OwnershipGraph.restrict, Std.ExtTreeMap.getElem?_map, Option.map_eq_some_iff]
  all_goals simp [mem_iff_getElem?]
  all_goals grind

/-- The merge of two browser records keeps the references closed. -/
theorem closed_mergeDuplicateBrowserRecord (h : state.Closed) :
    (mergeDuplicateBrowserRecord now canonicalBrowserId duplicateBrowserId stamp
      state).2.Closed := by
  cases hduplicate : state.browsers[duplicateBrowserId]? with
  | none => simpa [mergeDuplicateBrowserRecord, hduplicate] using h
  | some duplicate =>
    cases hcanonical : (state.browsers.erase duplicateBrowserId)[canonicalBrowserId]? with
    | none => simpa only [mergeDuplicateBrowserRecord, hduplicate, hcanonical] using h
    | some canonical =>
      rw [ServiceState.Closed, graph_mergeDuplicateBrowserRecord hduplicate hcanonical]
      exact OwnershipGraph.Closed.mapHosts h _

/-- Only sessions that use and list nothing go together with a browser. -/
theorem closed_removeBrowserOperationalRecord {state : ServiceState} (h : state.Closed) :
    (removeBrowserOperationalRecord state browserId explicitSessionId).2.Closed := by
  have hwithout : (withoutBrowser state browserId).Closed := by
    rw [ServiceState.Closed, graph_withoutBrowser]
    apply OwnershipGraph.Closed.restrict h
    · rintro tabId hleft other ⟨tab, htab, _, rfl⟩ rfl
      exact hleft (by simp [htab])
    · exact fun _ _ _ _ => Set.mem_univ _
  rw [ServiceState.Closed, removeBrowserOperationalRecord, graph_refreshDerivedViews,
    graph_withoutSessions]
  apply OwnershipGraph.Closed.restrict hwithout
  · exact fun _ _ _ _ => Set.mem_univ _
  · intro tabId _ sessionId howned hremovable
    obtain ⟨session, hsession, hlisted⟩ := hwithout.owned_lists tabId sessionId howned
    obtain ⟨_, hbare⟩ := List.mem_filter.mp hremovable
    simp only [hsession, Option.any_some, BrowserSession.bare, Bool.and_eq_true,
      decide_eq_true_eq] at hbare
    rw [hbare.2] at hlisted
    cases hlisted

theorem closeIf_fields (tab : BrowserTab) (done : Bool) :
    (tab.closeIf done).browserId = tab.browserId ∧
      (tab.closeIf done).ownerSessionId = tab.ownerSessionId ∧
        ((tab.closeIf done).lifecycle ≠ .closed ↔ tab.lifecycle ≠ .closed ∧ done = false) := by
  cases done <;> simp [BrowserTab.closeIf]

theorem mem_openTabIds {state : ServiceState} (h : state.TabsNamed) :
    tabId ∈ openTabIds state browserId ↔
      state.tabs[tabId]?.any (·.isOpenOn browserId) = true := by
  simp only [openTabIds, List.mem_map, List.mem_filter, Option.any_eq_true]
  constructor
  · rintro ⟨tab, ⟨⟨entry, hentry, rfl⟩, hopen⟩, rfl⟩
    have hstored := Std.ExtTreeMap.mem_toList_iff_getElem?_eq_some.mp hentry
    exact ⟨entry.2, by rw [h entry.1 entry.2 hstored, hstored], hopen⟩
  · rintro ⟨tab, hstored, hopen⟩
    exact ⟨tab, ⟨⟨(tabId, tab), Std.ExtTreeMap.mem_toList_iff_getElem?_eq_some.mpr hstored, rfl⟩,
      hopen⟩, h tabId tab hstored⟩

theorem graph_closeBrowserTabs {state : ServiceState} (h : state.TabsNamed) :
    (closeBrowserTabs state browserId).graph =
      state.graph.retire {tabId | state.tabs[tabId]?.any (·.isOpenOn browserId) = true} := by
  ext a b
  all_goals simp only [closeBrowserTabs, ownershipGraph, ServiceState.graph,
    OwnershipGraph.retire, Std.ExtTreeMap.getElem?_map, Option.map_eq_some_iff]
  case groups => simp
  case items => simp
  case uses => simp
  case lists =>
    have hlisted := @mem_openTabIds browserId b state h
    simp
    grind
  all_goals
    cases htab : state.tabs[a]? with
    | none => simp
    | some tab =>
      obtain ⟨hbrowser, howner, hlifecycle⟩ := closeIf_fields tab (tab.isOpenOn browserId)
      simp [htab]
      grind

theorem closed_closeBrowserTabs {state : ServiceState} (h : state.Closed)
    (hnamed : state.TabsNamed) : (closeBrowserTabs state browserId).Closed := by
  rw [ServiceState.Closed, graph_closeBrowserTabs hnamed]
  exact OwnershipGraph.Closed.retire h _

section Targets
variable {browserId : String} {owner : Option String}

/-- The live targets are recorded, and the other tabs stay. -/
theorem recordTargets_getElem? (targets : List CdpHttpTargetInfo) (tabs : BTreeMap BrowserTab)
    (tabId : String) :
    if tabId ∈ targets.map (·.tabId) then
      ∃ tab, (targets.foldl (recordTarget browserId owner) tabs)[tabId]? = some tab ∧
        tab.id = tabId ∧ tab.browserId = browserId ∧ tab.lifecycle = .ready ∧
          tab.ownerSessionId = owner
    else (targets.foldl (recordTarget browserId owner) tabs)[tabId]? = tabs[tabId]? := by
  induction targets generalizing tabs with
  | nil => simp
  | cons target targets ih =>
    have hrest := ih (recordTarget browserId owner tabs target)
    rw [List.foldl_cons]
    by_cases hlater : tabId ∈ targets.map (·.tabId)
    · rw [if_pos hlater] at hrest
      rwa [List.map_cons, if_pos (List.mem_cons_of_mem _ hlater)]
    · rw [if_neg hlater] at hrest
      rw [hrest, recordTarget, Std.ExtTreeMap.getElem?_insert]
      by_cases hfirst : target.tabId = tabId
      · simp [hfirst]
      · simp only [List.map_cons, List.mem_cons, hlater, or_false, Ne.symm hfirst,
          Std.LawfulEqCmp.compare_eq_iff_eq, hfirst, if_false]

/-- The tabs of the browser, before and after it reported its targets. -/
def touchedTabs (state : ServiceState) (browserId : String)
    (targets : List CdpHttpTargetInfo) : Set String :=
  {tabId | tabId ∈ liveTabIds targets ∨
    state.tabs[tabId]?.any (·.browserId = browserId) = true}

theorem reconciledTabs_live {state : ServiceState} (h : tabId ∈ liveTabIds targets) :
    ∃ tab, (reconciledTabs browserId state browser targets)[tabId]? = some tab ∧
      tab.browserId = browserId ∧ tab.lifecycle ≠ .closed ∧
        tab.ownerSessionId = browser.activeSessionIds.head? := by
  have hrecorded := @recordTargets_getElem? browserId browser.activeSessionIds.head?
    (targets.filter shouldTrackServiceTarget) state.tabs tabId
  rw [← liveTabIds, if_pos h] at hrecorded
  obtain ⟨tab, htab, hid, hbrowser, hready, howner⟩ := hrecorded
  have hlive : (liveTabIds targets).contains tab.id = true := List.contains_iff_mem.mpr (hid ▸ h)
  refine ⟨tab, ?_, hbrowser, by simp [hready], howner⟩
  simp only [reconciledTabs, Std.ExtTreeMap.getElem?_map, htab, hlive, Bool.not_true,
    Bool.and_false, Option.map_some]
  rfl

theorem reconciledTabs_rest {state : ServiceState} (hnamed : state.TabsNamed)
    (h : tabId ∉ liveTabIds targets) :
    (reconciledTabs browserId state browser targets)[tabId]? =
      state.tabs[tabId]?.map fun tab => tab.closeIf (tab.browserId = browserId) := by
  have hrecorded := @recordTargets_getElem? browserId browser.activeSessionIds.head?
    (targets.filter shouldTrackServiceTarget) state.tabs tabId
  rw [← liveTabIds, if_neg h] at hrecorded
  rw [reconciledTabs]
  simp only [Std.ExtTreeMap.getElem?_map, hrecorded]
  cases htab : state.tabs[tabId]? with
  | none => rfl
  | some tab =>
    have hlive : (liveTabIds targets).contains tab.id = false := by
      rw [hnamed tabId tab htab]
      exact Bool.eq_false_iff.mpr fun hmem => h (List.contains_iff_mem.mp hmem)
    simp only [Option.map_some, hlive, Bool.not_false, Bool.and_true]

theorem reconciledTabs_touched {state : ServiceState} (hnamed : state.TabsNamed)
    (tabId : String) :
    ((reconciledTabs browserId state browser targets)[tabId]?.any
      (·.browserId = browserId)) = true ↔ tabId ∈ touchedTabs state browserId targets := by
  by_cases hlive : tabId ∈ liveTabIds targets
  · obtain ⟨tab, htab, hbrowser, _⟩ := @reconciledTabs_live browserId _ _ browser state hlive
    simp [touchedTabs, hlive, htab, hbrowser]
  · rw [reconciledTabs_rest hnamed hlive]
    cases htab : state.tabs[tabId]? with
    | none => simp [touchedTabs, hlive, htab]
    | some tab =>
      simp [touchedTabs, hlive, htab, closeIf_fields tab]

theorem listTabs_getElem? (sessions : BTreeMap BrowserSession) (live : List String)
    (name sessionId : String) : (listTabs browserId live sessions name)[sessionId]? =
      if name = sessionId then
        let session := sessions[name]?.getD { id := name }
        some { session with
          browserIds := mergeUnique session.browserIds browserId
          tabIds := live.foldl mergeUnique session.tabIds }
      else sessions[sessionId]? := by
  simp [listTabs, Std.ExtTreeMap.getElem?_insert]

/-- What the sessions list once the owner lists the live tabs, too. -/
theorem listTabs_lists (sessions : BTreeMap BrowserSession) (live : List String)
    (name sessionId tabId : String) :
    (∃ session, (listTabs browserId live sessions name)[sessionId]? = some session ∧
      tabId ∈ session.tabIds) ↔
        (∃ session, sessions[sessionId]? = some session ∧ tabId ∈ session.tabIds) ∨
          name = sessionId ∧ tabId ∈ live := by
  rw [listTabs_getElem?]
  by_cases hname : name = sessionId
  · subst hname
    cases sessions[name]? <;> simp [mem_foldl_mergeUnique]
  · simp [hname]

theorem listTabs_uses (sessions : BTreeMap BrowserSession) (live : List String)
    (name sessionId used : String) :
    (∃ session, (listTabs browserId live sessions name)[sessionId]? = some session ∧
      used ∈ session.browserIds) ↔
        (∃ session, sessions[sessionId]? = some session ∧ used ∈ session.browserIds) ∨
          name = sessionId ∧ used = browserId := by
  rw [listTabs_getElem?]
  by_cases hname : name = sessionId
  · subst hname
    cases sessions[name]? <;> simp [mem_mergeUnique]
  · simp [hname]

theorem unlistTabs_lists {tabs : BTreeMap BrowserTab} (sessions : BTreeMap BrowserSession)
    (sessionId tabId : String) :
    (∃ session, (unlistTabs browserId tabs sessions)[sessionId]? = some session ∧
      tabId ∈ session.tabIds) ↔
        (∃ session, sessions[sessionId]? = some session ∧ tabId ∈ session.tabIds) ∧
          ¬ tabs[tabId]?.any (·.browserId = browserId) = true := by
  cases hsession : sessions[sessionId]? <;> simp [unlistTabs, hsession]

theorem unlistTabs_uses {tabs : BTreeMap BrowserTab} (sessions : BTreeMap BrowserSession)
    (sessionId used : String) :
    (∃ session, (unlistTabs browserId tabs sessions)[sessionId]? = some session ∧
      used ∈ session.browserIds) ↔
        ∃ session, sessions[sessionId]? = some session ∧ used ∈ session.browserIds := by
  cases hsession : sessions[sessionId]? <;> simp [unlistTabs, hsession]

/-- A browser's report retires its tabs, and adopts the live ones. -/
theorem graph_reconcileBrowserTargets {state : ServiceState} (hnamed : state.TabsNamed) :
    (reconcileBrowserTargets browserId stamp state browser targets).graph =
      (state.graph.retire (touchedTabs state browserId targets)).adopt
        {tabId | tabId ∈ liveTabIds targets} browserId browser.activeSessionIds.head? := by
  have hgraph : (reconcileBrowserTargets browserId stamp state browser targets).graph =
      ownershipGraph state.browsers
        (browser.activeSessionIds.head?.elim
          (unlistTabs browserId (reconciledTabs browserId state browser targets) state.sessions)
          (listTabs browserId (sortedSet (liveTabIds targets))
            (unlistTabs browserId (reconciledTabs browserId state browser targets)
              state.sessions)))
        (reconciledTabs browserId state browser targets) := by
    unfold reconcileBrowserTargets
    dsimp only
    cases (refreshSessionTabRelationshipsForBrowser browserId
      { state with tabs := reconciledTabs browserId state browser targets }
      browser.activeSessionIds.head? (sortedSet (liveTabIds targets))).1 <;> rfl
  rw [hgraph]
  ext a b
  all_goals simp only [ownershipGraph, OwnershipGraph.adopt, OwnershipGraph.retire,
    ServiceState.graph]
  case groups =>
    cases browser.activeSessionIds.head? with
    | none => simp [unlistTabs]
    | some owner =>
      simp only [Option.elim_some, listTabs, unlistTabs, Std.ExtTreeMap.mem_insert,
        Std.ExtTreeMap.mem_map, Std.LawfulEqCmp.compare_eq_iff_eq, Set.mem_union,
        Set.mem_ofPred_eq, Option.some.injEq]
      exact or_comm
  case items =>
    simp only [Set.mem_union, Set.mem_ofPred_eq]
    by_cases hlive : a ∈ liveTabIds targets
    · obtain ⟨tab, htab, _⟩ := @reconciledTabs_live browserId _ _ browser state hlive
      simp [mem_iff_getElem?, htab, hlive]
    · simp [mem_iff_getElem?, reconciledTabs_rest hnamed hlive, hlive]
  case uses =>
    cases browser.activeSessionIds.head? with
    | none => simp [unlistTabs_uses]
    | some owner =>
      simp only [Option.elim_some, listTabs_uses, unlistTabs_uses, Option.some.injEq]
  case lists =>
    cases browser.activeSessionIds.head? with
    | none => simp [unlistTabs_lists, reconciledTabs_touched hnamed]
    | some owner =>
      simp only [Option.elim_some, listTabs_lists, unlistTabs_lists, mem_sortedSet,
        reconciledTabs_touched hnamed, Option.some.injEq]
      rfl
  case on =>
    by_cases hlive : a ∈ liveTabIds targets
    · obtain ⟨tab, htab, hbrowser, hready, _⟩ := @reconciledTabs_live browserId _ _ browser state hlive
      simp [htab, hbrowser, hready, hlive, touchedTabs]
      exact eq_comm
    · cases htab : state.tabs[a]? with
      | none => simp [reconciledTabs_rest hnamed hlive, htab, hlive]
      | some tab =>
        obtain ⟨hbrowser, _, hlifecycle⟩ := closeIf_fields tab (tab.browserId = browserId)
        simp [reconciledTabs_rest hnamed hlive, htab, hlive, touchedTabs]
        grind
  case owned =>
    by_cases hlive : a ∈ liveTabIds targets
    · obtain ⟨tab, htab, _, hready, howner⟩ := @reconciledTabs_live browserId _ _ browser state hlive
      simp [htab, hready, howner, hlive, touchedTabs]
    · cases htab : state.tabs[a]? with
      | none => simp [reconciledTabs_rest hnamed hlive, htab, hlive]
      | some tab =>
        obtain ⟨_, howner, hlifecycle⟩ := closeIf_fields tab (tab.browserId = browserId)
        simp [reconciledTabs_rest hnamed hlive, htab, hlive, touchedTabs]
        grind

theorem closed_reconcileBrowserTargets {state : ServiceState} (h : state.Closed)
    (hnamed : state.TabsNamed)
    (hbrowser : liveTabIds targets ≠ [] ∨ browser.activeSessionIds ≠ [] →
      browserId ∈ state.browsers) :
    (reconcileBrowserTargets browserId stamp state browser targets).Closed := by
  rw [ServiceState.Closed, graph_reconcileBrowserTargets hnamed]
  apply OwnershipGraph.Closed.adopt (OwnershipGraph.Closed.retire h _)
  · rintro (⟨tabId, hlive⟩ | howner)
    · exact hbrowser (.inl (List.ne_nil_of_mem hlive))
    · exact hbrowser (.inr fun hnone => howner (by rw [hnone]; rfl))
  · rintro tabId hlive sessionId ⟨_, hrest⟩
    exact hrest (.inl hlive)

end Targets

/-- Whatever browser, targets or session they are applied to, the merge and the removal of
records keep closed references closed, and so do the report and the closing of a browser's tabs
where tabs are stored under their ids and a browser that reports something is stored. -/
theorem references_stay_closed {state : ServiceState} (h : state.Closed) :
    (∀ now canonicalBrowserId duplicateBrowserId stamp,
      (mergeDuplicateBrowserRecord now canonicalBrowserId duplicateBrowserId stamp
        state).2.Closed) ∧
    (∀ browserId explicitSessionId,
      (removeBrowserOperationalRecord state browserId explicitSessionId).2.Closed) ∧
    (state.TabsNamed →
      (∀ browserId stamp browser targets,
        (liveTabIds targets ≠ [] ∨ browser.activeSessionIds ≠ [] → browserId ∈ state.browsers) →
          (reconcileBrowserTargets browserId stamp state browser targets).Closed) ∧
      ∀ browserId, (closeBrowserTabs state browserId).Closed) :=
  ⟨fun _ _ _ _ => closed_mergeDuplicateBrowserRecord h,
    fun _ _ => closed_removeBrowserOperationalRecord h,
    fun hnamed => ⟨fun _ _ _ _ hbrowser => closed_reconcileBrowserTargets h hnamed hbrowser,
      fun _ => closed_closeBrowserTabs h hnamed⟩⟩

/-- One tab of a browser, listed by the session that owns it. -/
def oneTabState : ServiceState :=
  { browsers := (∅ : BTreeMap BrowserProcess).insert "b" { id := "b", activeSessionIds := ["s"] }
    sessions := (∅ : BTreeMap BrowserSession).insert "s"
      { id := "s", browserIds := ["b"], tabIds := ["t"] }
    tabs := (∅ : BTreeMap BrowserTab).insert "t"
      { id := "t", browserId := "b", lifecycle := .ready, ownerSessionId := some "s" } }

theorem closed_oneTabState : oneTabState.Closed := by
  refine ⟨?_, ?_, ?_, ?_, ?_, ?_⟩ <;>
    simp [ServiceState.graph, ownershipGraph, oneTabState, Std.ExtTreeMap.getElem?_insert]

theorem references_stay_closed_oneTab : (closeBrowserTabs oneTabState "b").Closed :=
  ((references_stay_closed closed_oneTabState).2.2
    (by simp [ServiceState.TabsNamed, oneTabState, Std.ExtTreeMap.getElem?_insert])).2 "b"

/-- The tab of one browser is stored under another name than its id, and its id is the name of
a tab of another browser. -/
def misnamedState : ServiceState :=
  { browsers := ((∅ : BTreeMap BrowserProcess).insert "b" { id := "b" }).insert "c" { id := "c" }
    sessions := (∅ : BTreeMap BrowserSession).insert "s"
      { id := "s", browserIds := ["b", "c"], tabIds := ["k", "target:p"] }
    tabs := ((∅ : BTreeMap BrowserTab).insert "k"
      { id := "target:p", browserId := "b", lifecycle := .ready,
        ownerSessionId := some "s" }).insert "target:p"
      { id := "target:p", browserId := "c", lifecycle := .ready, ownerSessionId := some "s" } }

theorem closed_misnamedState : misnamedState.Closed := by
  refine ⟨?_, ?_, ?_, ?_, ?_, ?_⟩ <;>
    simp [ServiceState.graph, ownershipGraph, misnamedState, Std.ExtTreeMap.getElem?_insert] <;>
    grind

/-- An open tab that its owner does not list. -/
def unlistedTab (state : ServiceState) (tabId owner : String) : Bool :=
  state.tabs[tabId]?.any (fun tab => tab.lifecycle ≠ .closed && tab.ownerSessionId = some owner) &&
    !state.sessions[owner]?.any (·.tabIds.contains tabId)

theorem not_closed_of_unlistedTab {state : ServiceState}
    (h : unlistedTab state tabId owner = true) : ¬ state.Closed := by
  intro hclosed
  simp only [unlistedTab, Bool.and_eq_true, Bool.not_eq_true', Option.any_eq_true] at h
  obtain ⟨⟨tab, htab, hopen⟩, hunlisted⟩ := h
  obtain ⟨session, hsession, hlisted⟩ := hclosed.owned_lists tabId owner
    ⟨tab, htab, by simpa using hopen⟩
  simp [hsession, hlisted] at hunlisted

/-- A browser that is not stored reports a page; and tabs that are stored under other names. -/
theorem references_left_open :
    (¬ ∀ state : ServiceState, state.Closed → state.TabsNamed →
      ∀ browserId stamp browser targets,
        (reconcileBrowserTargets browserId stamp state browser targets).Closed) ∧
    (¬ ∀ state : ServiceState, state.Closed → ∀ browserId ∈ state.browsers,
      ∀ stamp browser targets,
        (reconcileBrowserTargets browserId stamp state browser targets).Closed) ∧
    ¬ ∀ state : ServiceState, state.Closed → ∀ browserId,
      (closeBrowserTabs state browserId).Closed := by
  refine ⟨?_, ?_, ?_⟩
  · intro h
    have hempty : ({} : ServiceState).Closed := by
      refine ⟨?_, ?_, ?_, ?_, ?_, ?_⟩ <;> simp [ServiceState.graph, ownershipGraph]
    have hclosed := h {} hempty (by simp [ServiceState.TabsNamed]) "b" ⟨"e", "now"⟩ {}
      [{ id := "p", targetType := "page" }]
    have htab : (reconcileBrowserTargets "b" ⟨"e", "now"⟩ {} {}
        [{ id := "p", targetType := "page" }]).tabs["target:p"]?.any
          (fun tab => tab.lifecycle ≠ .closed && tab.browserId = "b") = true := by
      decide
    obtain ⟨tab, htab, hopen⟩ := (Option.any_eq_true _ _).mp htab
    have hmem := hclosed.on_mem "target:p" "b" ⟨tab, htab, by simpa using hopen⟩
    have hmissing : ¬ "b" ∈ (reconcileBrowserTargets "b" ⟨"e", "now"⟩ {} {}
        [{ id := "p", targetType := "page" }]).browsers := by
      decide
    exact hmissing hmem
  · intro h
    have hunlisted : unlistedTab (reconcileBrowserTargets "b" ⟨"e", "now"⟩ misnamedState {}
        [{ id := "p", targetType := "page" }]) "k" "s" = true := by
      decide
    exact not_closed_of_unlistedTab hunlisted
      (h misnamedState closed_misnamedState "b" (by decide) _ _ _)
  · intro h
    have hunlisted : unlistedTab (closeBrowserTabs misnamedState "b") "target:p" "s" = true := by
      decide
    exact not_closed_of_unlistedTab hunlisted (h misnamedState closed_misnamedState "b")

end AgentBrowser
