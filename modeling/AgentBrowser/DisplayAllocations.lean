import Mathlib.Data.List.DropRight
import AgentBrowser.Attachability
import AgentBrowser.BrowserRecovery

namespace AgentBrowser
set_option autoImplicit true

def isValidSessionName (isAlphanumeric : Char → Bool) (name : String) : Bool :=
  name ≠ "" && name.toList.all fun c => isAlphanumeric c || c = '-' || c = '_'

/-- Without the hyphens at both ends. -/
def trimHyphens (letters : List Char) : List Char :=
  (letters.dropWhile (· = '-')).rdropWhile (· = '-')

def asciiOrHyphen (c : Char) : Char := if c.isAlphanum then c else '-'

def displayAllocationIdForBrowser (sessionId displayIsolation : String)
    (displayName : Option String) : String :=
  let scope :=
    match displayIsolation with
    | "private_virtual_display" => "session:" ++ sessionId
    | "shared_display" | "ambient_display" => displayName.getD sessionId
    | _ => sessionId
  "display:" ++ displayIsolation ++ ":" ++
    String.ofList (trimHyphens (scope.toList.map asciiOrHyphen))

/-- What a launch says of the display and of how it is seen. -/
structure LaunchDisplay where
  viewStreams : List ViewStream := []
  displayIsolation : Option String := none
  displayName : Option String := none

/-- A browser as it is reported for a session, with what its process has proven and with the other
records as the report leaves them. -/
structure BrowserReport where
  sessionId : String
  host : BrowserHost
  health : BrowserHealth
  pid : Option Nat := none
  cdpEndpoint : Option String := none
  lastError : Option String := none
  metadata : Option LaunchDisplay := none
  profileId : Option String := none
  browserBuild : Option BrowserBuild := none
  executablePath : Option String := none
  browserBuildProof : Option JsonValue := none
  tabHandles : List ServiceTabHandle := []
  now : String := ""
  profiles : BTreeMap BrowserProfile := ∅
  sessions : BTreeMap BrowserSession := ∅
  tabs : BTreeMap BrowserTab := ∅
  events : List ServiceEvent := []

def displayBuildName : BrowserBuild → String
  | .stockChrome => "stock_chrome"
  | .stealthcdpChromium => "stealthcdp_chromium"
  | .cdpFreeHeaded => "cdp_free_headed"

def displayStateFor : BrowserHealth → String
  | .ready => "ready"
  | .processExited => "orphaned"
  | _ => "allocating"

section Upsert
variable (now sessionId : String) (browser : BrowserProcess)

/-- The record of a display for a browser, written over the one that is there. -/
def claimedAllocation (displayIsolation : String) (previous : DisplayAllocation) :
    DisplayAllocation :=
  { previous with
    displayName := browser.displayName
    displayIsolation
    ownerBrowserId := some browser.id
    ownerSessionId := some sessionId
    profileId := browser.profileId
    browserBuild := browser.browserBuild.map displayBuildName
    host := some browser.host
    state := displayStateFor browser.health
    pidHints := browser.pid.map fun pid => .ofFields [("browserPid", .number pid)]
    updatedAt := some now }

def withAllocation (allocationId : String) : BrowserProcess :=
  { browser with
    displayAllocationId := some allocationId
    viewStreams := browser.viewStreams.map fun stream =>
      if stream.displayAllocationId.isNone then
        { stream with displayAllocationId := some allocationId }
      else stream }

def upsertBrowserDisplayAllocation (allocations : BTreeMap DisplayAllocation) :
    BrowserProcess × BTreeMap DisplayAllocation :=
  if browser.host ≠ .remoteHeaded then ({ browser with displayAllocationId := none }, allocations)
  else
    match browser.displayIsolation with
    | none => (browser, allocations)
    | some displayIsolation =>
      let allocationId := browser.displayAllocationId.getD
        (displayAllocationIdForBrowser sessionId displayIsolation browser.displayName)
      let previous := allocations[allocationId]?.getD
        { id := allocationId, displayIsolation, createdAt := some now }
      (withAllocation browser allocationId,
        allocations.insert allocationId
          (claimedAllocation now sessionId browser displayIsolation previous))

end Upsert

/-- The record of a reported browser, before it gets its display. -/
def reportedBrowser (report : BrowserReport) (previous : Option BrowserProcess) :
    BrowserProcess :=
  { id := serviceBrowserIdForSession report.sessionId
    profileId := report.profileId
    browserBuild := report.browserBuild
    executablePath := report.executablePath
    browserBuildProof := report.browserBuildProof
    host := report.host
    health := report.health
    displayIsolation :=
      match report.metadata with
      | some metadata => metadata.displayIsolation
      | none => previous.bind (·.displayIsolation)
    displayName :=
      match report.metadata with
      | some metadata => metadata.displayName
      | none => previous.bind (·.displayName)
    displayAllocationId := previous.bind (·.displayAllocationId)
    pid := report.pid
    cdpEndpoint := report.cdpEndpoint
    viewStreams :=
      match report.metadata with
      | some metadata => metadata.viewStreams
      | none => previous.elim [] (·.viewStreams)
    activeSessionIds := [report.sessionId]
    tabHandles := report.tabHandles
    lastError := report.lastError
    lastHealthObservation := none
    attachability := none }

/-- The record with its display, and all displays. -/
def placedBrowser (report : BrowserReport) (state : ServiceState) :
    BrowserProcess × BTreeMap DisplayAllocation :=
  upsertBrowserDisplayAllocation report.now report.sessionId
    (reportedBrowser report state.browsers[serviceBrowserIdForSession report.sessionId]?)
    state.displayAllocations

def persistServiceBrowserRecord (state : ServiceState) (report : BrowserReport) : ServiceState :=
  let (browser, displayAllocations) := placedBrowser report state
  let browser := applyBrowserHealthObservation report.now browser
    (some (browserHealthObservationDetails browser none))
  refreshRemoteViewAttachability
    { state with
      profiles := report.profiles
      sessions := report.sessions
      tabs := report.tabs
      events := report.events
      displayAllocations
      browsers := state.browsers.insert (serviceBrowserIdForSession report.sessionId) browser }

/-- The id of a display that is private to a session. -/
def privateDisplayId (sessionId : String) : String :=
  displayAllocationIdForBrowser sessionId "private_virtual_display" none

/-- Neither is a letter or a digit of ASCII, or they are the same. -/
def SameOrForeign (c d : Char) : Prop := c = d ∨ c.isAlphanum = false ∧ d.isAlphanum = false

/-- A name without what stands behind its last ASCII letter or digit. -/
def toLastAlphanumeric (name : String) : List Char := name.toList.rdropWhile (!·.isAlphanum)

/-- Names that differ in nothing but which other characters stand between their ASCII letters and
digits, and in what follows the last of these. -/
def Alike (a b : String) : Prop :=
  List.Forall₂ SameOrForeign (toLastAlphanumeric a) (toLastAlphanumeric b)

/-- Any display that the report asks for is a private one. -/
def BrowserReport.Private (report : BrowserReport) : Prop :=
  ∀ metadata, report.metadata = some metadata →
    metadata.displayIsolation = some "private_virtual_display"

def displayIdOf (state : ServiceState) (sessionId : String) : Option String :=
  state.browsers[serviceBrowserIdForSession sessionId]?.bind (·.displayAllocationId)

/-- The browser of a session has no display yet, nor is it to have any but a private one. -/
def Undisplayed (state : ServiceState) (sessionId : String) : Prop :=
  ∀ browser, state.browsers[serviceBrowserIdForSession sessionId]? = some browser →
    browser.displayAllocationId = none ∧
      (browser.displayIsolation = none ∨
        browser.displayIsolation = some "private_virtual_display")

def OwnsDisplay (state : ServiceState) (displayId sessionId : String) : Prop :=
  ∃ allocation, state.displayAllocations[displayId]? = some allocation ∧
    allocation.ownerSessionId = some sessionId ∧
    allocation.ownerBrowserId = some (serviceBrowserIdForSession sessionId)

def persistAll (reports : List BrowserReport) (state : ServiceState) : ServiceState :=
  reports.foldl persistServiceBrowserRecord state

/-- However the browsers of two sessions are reported, a display that one of them has got is never
given to the other, and it stays with its session. -/
def NeverShared (a b : String) : Prop :=
  ∀ (state : ServiceState) (earlier later : List BrowserReport),
    Undisplayed state a → Undisplayed state b →
    (∀ report ∈ earlier ++ later,
      (report.sessionId = a ∨ report.sessionId = b) ∧ report.Private) →
    ∀ (s t displayId : String), s = a ∧ t = b ∨ s = b ∧ t = a →
      displayIdOf (persistAll earlier state) s = some displayId →
      displayIdOf (persistAll later (persistAll earlier state)) t ≠ some displayId ∧
        OwnsDisplay (persistAll later (persistAll earlier state)) displayId s

section Names

theorem ne_hyphen {c : Char} (h : c.isAlphanum = true) : c ≠ '-' := by
  rintro rfl
  exact absurd h (by decide)

theorem sameOrForeign_iff {c d : Char} :
    SameOrForeign c d ↔ asciiOrHyphen c = asciiOrHyphen d := by
  unfold SameOrForeign asciiOrHyphen
  cases hc : c.isAlphanum <;> cases hd : d.isAlphanum
  · simp
  · simp only [Bool.false_eq_true, if_false, if_true, and_false, or_false, reduceCtorEq]
    exact ⟨fun h => absurd (hc.symm.trans (h ▸ hd)) (by decide),
      fun h => absurd h.symm (ne_hyphen hd)⟩
  · simp only [Bool.false_eq_true, if_false, if_true, false_and, or_false, reduceCtorEq]
    exact ⟨fun h => absurd (hc.symm.trans (h ▸ hd)) (by decide),
      fun h => absurd h (ne_hyphen hc)⟩
  · simp

theorem asciiOrHyphen_eq_hyphen (c : Char) : decide (asciiOrHyphen c = '-') = !c.isAlphanum := by
  unfold asciiOrHyphen
  cases hc : c.isAlphanum
  · rfl
  · simpa using ne_hyphen hc

theorem rdropWhile_map (f : α → β) (p : β → Bool) (l : List α) :
    (l.map f).rdropWhile p = (l.rdropWhile (p ∘ f)).map f := by
  rw [List.rdropWhile, List.rdropWhile, ← List.map_reverse, List.dropWhile_map, List.map_reverse]

theorem rdropWhile_append (p : α → Bool) (l m : List α) :
    (l ++ m).rdropWhile p =
      if m.rdropWhile p = [] then l.rdropWhile p else l ++ m.rdropWhile p := by
  simp only [List.rdropWhile, List.reverse_append, List.dropWhile_append, List.isEmpty_iff,
    List.reverse_eq_nil_iff]
  split
  · rfl
  · simp

/-- The name as it stands in the id of the display. -/
theorem trimHyphens_scope (name : String) :
    trimHyphens (("session:" ++ name).toList.map asciiOrHyphen) =
      if toLastAlphanumeric name = [] then "session".toList
      else "session-".toList ++ (toLastAlphanumeric name).map asciiOrHyphen := by
  have hfront : ("session:" ++ name).toList.map asciiOrHyphen =
      "session-".toList ++ name.toList.map asciiOrHyphen := by
    rw [String.toList_append, List.map_append]
    rfl
  have hdrop : ("session-".toList ++ name.toList.map asciiOrHyphen).dropWhile (· = '-') =
      "session-".toList ++ name.toList.map asciiOrHyphen := rfl
  have hback : (name.toList.map asciiOrHyphen).rdropWhile (· = '-') =
      (toLastAlphanumeric name).map asciiOrHyphen := by
    rw [rdropWhile_map, toLastAlphanumeric]
    congr 2
    funext c
    exact asciiOrHyphen_eq_hyphen c
  rw [trimHyphens, hfront, hdrop, rdropWhile_append, hback]
  simp only [List.map_eq_nil_iff]
  rfl

theorem alike_iff (a b : String) : Alike a b ↔
    (toLastAlphanumeric a).map asciiOrHyphen = (toLastAlphanumeric b).map asciiOrHyphen := by
  rw [Alike, ← List.forall₂_eq_eq_eq, List.forall₂_map_left_iff, List.forall₂_map_right_iff]
  have hrel : SameOrForeign = fun c d => asciiOrHyphen c = asciiOrHyphen d := by
    funext c d
    exact propext sameOrForeign_iff
  rw [hrel]

theorem privateDisplayId_eq_iff (a b : String) :
    privateDisplayId a = privateDisplayId b ↔ Alike a b := by
  have hid : ∀ name, privateDisplayId name = "display:private_virtual_display:" ++
      String.ofList (trimHyphens (("session:" ++ name).toList.map asciiOrHyphen)) := fun _ => rfl
  rw [hid, hid, String.append_right_inj, String.ofList_inj, trimHyphens_scope, trimHyphens_scope,
    alike_iff]
  by_cases ha : toLastAlphanumeric a = [] <;> by_cases hb : toLastAlphanumeric b = []
  · simp [ha, hb]
  · simp [ha, hb]
  · simp [ha, hb]
  · simp [ha, hb]

end Names

/-- What a record says of its display. -/
def displayFacts (browser : BrowserProcess) : Option String × Option String :=
  (browser.displayIsolation, browser.displayAllocationId)

/-- A record without a display, or with the private one of its session. -/
inductive PrivateFacts (sessionId : String) : Option String × Option String → Prop
  | undisplayed : PrivateFacts sessionId (none, none)
  | waiting : PrivateFacts sessionId (some "private_virtual_display", none)
  | placed : PrivateFacts sessionId
      (some "private_virtual_display", some (privateDisplayId sessionId))

def KeepsPrivate (state : ServiceState) (sessionId : String) : Prop :=
  ∀ facts, state.browsers[serviceBrowserIdForSession sessionId]?.map displayFacts = some facts →
    PrivateFacts sessionId facts

section Step
variable {state : ServiceState} {report : BrowserReport} {sessionId : String}

theorem displayFacts_observation (browser : BrowserProcess) :
    displayFacts (applyBrowserHealthObservation now browser details) = displayFacts browser := by
  unfold applyBrowserHealthObservation
  split <;> rfl

theorem serviceBrowserIdForSession_inj {a b : String}
    (h : serviceBrowserIdForSession a = serviceBrowserIdForSession b) : a = b :=
  (String.append_right_inj _).mp h

/-- A report changes what is said of one browser only. -/
theorem displayFacts_persist (sessionId : String) :
    (persistServiceBrowserRecord state report).browsers[serviceBrowserIdForSession
        sessionId]?.map displayFacts =
      if report.sessionId = sessionId then some (displayFacts (placedBrowser report state).1)
      else state.browsers[serviceBrowserIdForSession sessionId]?.map displayFacts := by
  unfold persistServiceBrowserRecord refreshRemoteViewAttachability
  simp only [Std.ExtTreeMap.getElem?_map, Std.ExtTreeMap.getElem?_insert, Option.map_map,
    Std.LawfulEqCmp.compare_eq_iff_eq]
  have hfacts : ∀ after,
      displayFacts ∘ (fun browser => refreshBrowserAttachability browser after) = displayFacts :=
    fun _ => rfl
  rw [hfacts]
  by_cases hid : report.sessionId = sessionId
  · subst hid
    simp [displayFacts_observation]
  · rw [if_neg fun h => hid (serviceBrowserIdForSession_inj h), if_neg hid]

theorem displayAllocations_persist : (persistServiceBrowserRecord state report).displayAllocations =
    (placedBrowser report state).2 := rfl

theorem displayIdOf_eq (state : ServiceState) (sessionId : String) : displayIdOf state sessionId =
    (state.browsers[serviceBrowserIdForSession sessionId]?.map displayFacts).bind (·.2) := by
  rw [displayIdOf, Option.bind_map]
  rfl

theorem KeepsPrivate.eq (h : KeepsPrivate state sessionId)
    (hid : displayIdOf state sessionId = some displayId) :
    displayId = privateDisplayId sessionId := by
  rw [displayIdOf_eq, Option.bind_eq_some_iff] at hid
  obtain ⟨facts, hfacts, hdisplay⟩ := hid
  cases h facts hfacts with
  | undisplayed => cases hdisplay
  | waiting => cases hdisplay
  | placed => exact (Option.some.inj hdisplay).symm

theorem keepsPrivate_of_undisplayed (h : Undisplayed state sessionId) :
    KeepsPrivate state sessionId := by
  intro facts hfacts
  obtain ⟨browser, hbrowser, rfl⟩ := Option.map_eq_some_iff.mp hfacts
  obtain ⟨hnone, hisolation⟩ := h browser hbrowser
  rw [displayFacts, hnone]
  rcases hisolation with hisolation | hisolation
  · rw [hisolation]
    exact .undisplayed
  · rw [hisolation]
    exact .waiting

/-- The display that a report asks for comes from the launch or from the record. -/
theorem reported_facts (hprivate : report.Private)
    (hkeeps : KeepsPrivate state report.sessionId) :
    PrivateFacts report.sessionId (displayFacts (reportedBrowser report
      state.browsers[serviceBrowserIdForSession report.sessionId]?)) := by
  unfold KeepsPrivate at hkeeps
  generalize state.browsers[serviceBrowserIdForSession report.sessionId]? = previous at hkeeps
  have hprevious : previous = none ∨ ∃ browser, previous = some browser ∧
      PrivateFacts report.sessionId (displayFacts browser) := by
    cases previous with
    | none => exact .inl rfl
    | some browser => exact .inr ⟨browser, rfl, hkeeps _ rfl⟩
  unfold displayFacts at hprevious ⊢
  unfold reportedBrowser
  cases hmetadata : report.metadata with
  | none =>
    rcases hprevious with rfl | ⟨browser, rfl, hfacts⟩
    · exact .undisplayed
    · exact hfacts
  | some metadata =>
    simp only [hprivate metadata hmetadata]
    rcases hprevious with rfl | ⟨browser, rfl, hfacts⟩
    · exact .waiting
    · simp only [Option.bind_some]
      generalize browser.displayIsolation = isolation, browser.displayAllocationId = displayId
        at hfacts
      cases hfacts with
      | undisplayed => exact .waiting
      | waiting => exact .waiting
      | placed => exact .placed

/-- A browser stays without a display, or it is written down as the owner of the private one. -/
theorem placed_cases (hprivate : report.Private) (hkeeps : KeepsPrivate state report.sessionId) :
    PrivateFacts report.sessionId (displayFacts (placedBrowser report state).1) ∧
      ((placedBrowser report state).1.displayAllocationId = none ∧
          (placedBrowser report state).2 = state.displayAllocations ∨
        ∃ allocation : DisplayAllocation, allocation.ownerSessionId = some report.sessionId ∧
          allocation.ownerBrowserId = some (serviceBrowserIdForSession report.sessionId) ∧
          (placedBrowser report state).2 =
            state.displayAllocations.insert (privateDisplayId report.sessionId) allocation) := by
  have hfacts := reported_facts hprivate hkeeps
  have hid : (reportedBrowser report
      state.browsers[serviceBrowserIdForSession report.sessionId]?).id =
      serviceBrowserIdForSession report.sessionId := rfl
  unfold placedBrowser upsertBrowserDisplayAllocation
  generalize reportedBrowser report
    state.browsers[serviceBrowserIdForSession report.sessionId]? = browser at hfacts hid
  have hcomputed : displayAllocationIdForBrowser report.sessionId "private_virtual_display"
      browser.displayName = privateDisplayId report.sessionId := rfl
  unfold displayFacts at hfacts
  split
  · refine ⟨?_, .inl ⟨rfl, rfl⟩⟩
    unfold displayFacts
    generalize browser.displayIsolation = isolation, browser.displayAllocationId = displayId
      at hfacts
    cases hfacts with
    | undisplayed => exact .undisplayed
    | waiting => exact .waiting
    | placed => exact .waiting
  · generalize hisolation : browser.displayIsolation = isolation,
      hdisplay : browser.displayAllocationId = displayId at hfacts
    have hplaced : ∀ displayId, displayFacts (withAllocation browser displayId) =
        (browser.displayIsolation, some displayId) := fun _ => rfl
    cases hfacts with
    | undisplayed =>
      refine ⟨?_, .inl ⟨hdisplay, rfl⟩⟩
      rw [displayFacts, hisolation, hdisplay]
      exact .undisplayed
    | waiting =>
      simp only [Option.getD_none, hcomputed, hplaced, hisolation]
      exact ⟨.placed, .inr ⟨_, rfl, congrArg some hid, rfl⟩⟩
    | placed =>
      simp only [Option.getD_some, hplaced, hisolation]
      exact ⟨.placed, .inr ⟨_, rfl, congrArg some hid, rfl⟩⟩

theorem keepsPrivate_persist (hprivate : report.Private)
    (hreported : KeepsPrivate state report.sessionId) (hkeeps : KeepsPrivate state sessionId) :
    KeepsPrivate (persistServiceBrowserRecord state report) sessionId := by
  intro facts hfacts
  rw [displayFacts_persist] at hfacts
  split at hfacts
  · rename_i hsession
    rw [← Option.some.inj hfacts, ← hsession]
    exact (placed_cases hprivate hreported).1
  · exact hkeeps facts hfacts

/-- A report takes the display of no other session, if the ids of the two differ. -/
theorem ownsDisplay_persist (hprivate : report.Private)
    (hreported : KeepsPrivate state report.sessionId)
    (hapart : privateDisplayId report.sessionId = privateDisplayId sessionId →
      report.sessionId = sessionId)
    (howns : OwnsDisplay state (privateDisplayId sessionId) sessionId) :
    OwnsDisplay (persistServiceBrowserRecord state report) (privateDisplayId sessionId)
      sessionId := by
  rw [OwnsDisplay, displayAllocations_persist]
  rcases (placed_cases hprivate hreported).2 with
    ⟨_, hsame⟩ | ⟨allocation, hsession, hbrowser, hnew⟩
  · rw [hsame]
    exact howns
  · rw [hnew, Std.ExtTreeMap.getElem?_insert]
    split
    · rename_i heq
      have hsame := hapart (by simpa using heq)
      exact ⟨allocation, rfl, hsame ▸ hsession, hsame ▸ hbrowser⟩
    · exact howns

theorem displayIdOf_persist (hprivate : report.Private)
    (hreported : KeepsPrivate state report.sessionId)
    (hid : displayIdOf (persistServiceBrowserRecord state report) sessionId = some displayId) :
    displayIdOf state sessionId = some displayId ∨
      report.sessionId = sessionId ∧
        OwnsDisplay (persistServiceBrowserRecord state report) (privateDisplayId sessionId)
          sessionId := by
  rw [displayIdOf_eq, displayFacts_persist] at hid
  split at hid
  · rename_i hsession
    rcases (placed_cases hprivate hreported).2 with
      ⟨hnone, _⟩ | ⟨allocation, howner, hbrowser, hnew⟩
    · rw [Option.bind_some, displayFacts, hnone] at hid
      cases hid
    · refine .inr ⟨hsession, allocation, ?_, hsession ▸ howner, hsession ▸ hbrowser⟩
      rw [displayAllocations_persist, hnew, hsession, Std.ExtTreeMap.getElem?_insert_self]
  · exact .inl (by rw [displayIdOf_eq]; exact hid)

end Step

/-- What holds of a session at any time: it has at most its private display, and owns it. -/
structure DisplayKept (state : ServiceState) (sessionId : String) : Prop where
  keeps : KeepsPrivate state sessionId
  owns : ∀ displayId, displayIdOf state sessionId = some displayId →
    OwnsDisplay state displayId sessionId

section Run
variable {a b : String} {state : ServiceState}

theorem displayKept_of_undisplayed (h : Undisplayed state a) : DisplayKept state a := by
  refine ⟨keepsPrivate_of_undisplayed h, fun displayId hid => ?_⟩
  obtain ⟨browser, hbrowser, hdisplay⟩ := Option.bind_eq_some_iff.mp hid
  exact nomatch hdisplay.symm.trans (h browser hbrowser).1

theorem displayKept_persist {report : BrowserReport} {sessionId : String}
    (hprivate : report.Private) (hreported : KeepsPrivate state report.sessionId)
    (hapart : privateDisplayId report.sessionId = privateDisplayId sessionId →
      report.sessionId = sessionId) (hkept : DisplayKept state sessionId) :
    DisplayKept (persistServiceBrowserRecord state report) sessionId := by
  have hkeeps := keepsPrivate_persist hprivate hreported hkept.keeps
  refine ⟨hkeeps, fun displayId hid => ?_⟩
  rw [hkeeps.eq hid]
  rcases displayIdOf_persist hprivate hreported hid with hbefore | ⟨_, howns⟩
  · have howns := hkept.owns displayId hbefore
    rw [hkept.keeps.eq hbefore] at howns
    exact ownsDisplay_persist hprivate hreported hapart howns
  · exact howns

theorem displayKept_persistAll (hapart : privateDisplayId a ≠ privateDisplayId b)
    {reports : List BrowserReport}
    (hreports : ∀ report ∈ reports,
      (report.sessionId = a ∨ report.sessionId = b) ∧ report.Private)
    (ha : DisplayKept state a) (hb : DisplayKept state b) :
    (DisplayKept (persistAll reports state) a ∧ DisplayKept (persistAll reports state) b) ∧
      ∀ sessionId, sessionId = a ∨ sessionId = b →
        OwnsDisplay state (privateDisplayId sessionId) sessionId →
        OwnsDisplay (persistAll reports state) (privateDisplayId sessionId) sessionId := by
  induction reports generalizing state with
  | nil => exact ⟨⟨ha, hb⟩, fun _ _ howns => howns⟩
  | cons report reports ih =>
    obtain ⟨hsession, hprivate⟩ := hreports report List.mem_cons_self
    have hreported : KeepsPrivate state report.sessionId := by
      rcases hsession with heq | heq
      · exact heq ▸ ha.keeps
      · exact heq ▸ hb.keeps
    have hdistinct : ∀ sessionId, sessionId = a ∨ sessionId = b →
        privateDisplayId report.sessionId = privateDisplayId sessionId →
        report.sessionId = sessionId := by
      intro sessionId hother heq
      rcases hsession with hs | hs <;> rcases hother with ho | ho
      · rw [hs, ho]
      · exact absurd (hs ▸ ho ▸ heq) hapart
      · exact absurd (hs ▸ ho ▸ heq).symm hapart
      · rw [hs, ho]
    obtain ⟨hkept, howned⟩ := ih (fun other hm => hreports other (List.mem_cons_of_mem _ hm))
      (displayKept_persist hprivate hreported (hdistinct a (.inl rfl)) ha)
      (displayKept_persist hprivate hreported (hdistinct b (.inr rfl)) hb)
    exact ⟨hkept, fun sessionId hother howns => howned sessionId hother
      (ownsDisplay_persist hprivate hreported (hdistinct sessionId hother) howns)⟩

def privateLaunch (sessionId : String) : BrowserReport :=
  { sessionId
    host := .remoteHeaded
    health := .ready
    metadata := some { displayIsolation := some "private_virtual_display" } }

theorem privateLaunch_private (sessionId : String) : (privateLaunch sessionId).Private := by
  rintro metadata heq
  cases heq
  rfl

theorem displayIdOf_privateLaunch {sessionId : String} (hkeeps : KeepsPrivate state sessionId) :
    displayIdOf (persistServiceBrowserRecord state (privateLaunch sessionId)) sessionId =
      some (privateDisplayId sessionId) := by
  have hplaced : (placedBrowser (privateLaunch sessionId) state).1.displayAllocationId =
      some ((displayIdOf state sessionId).getD (privateDisplayId sessionId)) := rfl
  have hsession : (privateLaunch sessionId).sessionId = sessionId := rfl
  rw [displayIdOf_eq, displayFacts_persist, if_pos hsession, Option.bind_some, displayFacts,
    hplaced]
  cases hid : displayIdOf state sessionId with
  | none => rfl
  | some displayId => rw [hkeeps.eq hid, Option.getD_some]

/-- Two sessions whose displays have one id both get it. -/
theorem shared_of_eq (heq : privateDisplayId a = privateDisplayId b) : ¬ NeverShared a b := by
  intro hnever
  have hfresh : ∀ sessionId, Undisplayed {} sessionId := fun sessionId browser hbrowser => by
    rw [Std.ExtTreeMap.getElem?_empty] at hbrowser
    cases hbrowser
  have hfirst := displayIdOf_privateLaunch (keepsPrivate_of_undisplayed (hfresh a))
  have hkeeps := keepsPrivate_persist (privateLaunch_private a)
    (keepsPrivate_of_undisplayed (hfresh a)) (keepsPrivate_of_undisplayed (hfresh b))
  have hsecond := displayIdOf_privateLaunch hkeeps
  have hreports : ∀ report ∈ [privateLaunch a] ++ [privateLaunch b],
      (report.sessionId = a ∨ report.sessionId = b) ∧ report.Private := by
    intro report hm
    rcases List.mem_append.mp hm with hm | hm
    · rw [List.mem_singleton.mp hm]
      exact ⟨.inl rfl, privateLaunch_private a⟩
    · rw [List.mem_singleton.mp hm]
      exact ⟨.inr rfl, privateLaunch_private b⟩
  have hapart := hnever {} [privateLaunch a] [privateLaunch b] (hfresh a) (hfresh b) hreports a b
    (privateDisplayId a) (.inl ⟨rfl, rfl⟩) hfirst
  rw [heq] at hapart
  exact hapart.1 hsecond

end Run

/-- Private displays are kept apart exactly for sessions whose names are not alike. -/
theorem neverShared_iff (a b : String) : NeverShared a b ↔ ¬ Alike a b := by
  rw [← privateDisplayId_eq_iff]
  constructor
  · exact fun hnever heq => shared_of_eq heq hnever
  · intro hapart state earlier later ha hb hreports s t displayId hst hid
    have hearlier := fun report hm => hreports report (List.mem_append_left later hm)
    have hlater := fun report hm => hreports report (List.mem_append_right earlier hm)
    obtain ⟨⟨ha, hb⟩, _⟩ := displayKept_persistAll hapart hearlier
      (displayKept_of_undisplayed ha) (displayKept_of_undisplayed hb)
    obtain ⟨⟨ha', hb'⟩, howned⟩ := displayKept_persistAll hapart hlater ha hb
    rcases hst with ⟨rfl, rfl⟩ | ⟨rfl, rfl⟩
    · have heq := ha.keeps.eq hid
      refine ⟨fun hother => hapart (heq.symm.trans (hb'.keeps.eq hother)), ?_⟩
      exact heq ▸ howned _ (.inl rfl) (heq ▸ ha.owns _ hid)
    · have heq := hb.keeps.eq hid
      refine ⟨fun hother => hapart ((heq.symm.trans (ha'.keeps.eq hother)).symm), ?_⟩
      exact heq ▸ howned _ (.inr rfl) (heq ▸ hb.owns _ hid)

/-- Two names of sessions that are valid and whose private displays are one. -/
theorem hyphen_underscore_shared : isValidSessionName Char.isAlphanum "a_b" = true ∧
    isValidSessionName Char.isAlphanum "a-b" = true ∧ "a_b" ≠ "a-b" ∧
    ¬ NeverShared "a_b" "a-b" :=
  ⟨by decide, by decide, by decide, shared_of_eq (by decide)⟩

end AgentBrowser
