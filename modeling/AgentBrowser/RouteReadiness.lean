import AgentBrowser.RouteAcquisition

namespace AgentBrowser
set_option autoImplicit true

def partFields : List String := ["components", "checks", "results"]

/-- A report and the components of it, at any depth. -/
inductive Component : JsonValue → JsonValue → Prop
  | self (readiness : JsonValue) : Component readiness readiness
  | item : item ∈ items → Component item component → Component (.array items) component
  | part : key ∈ partFields → (JsonValue.object fields).get key = some (.array items) →
      item ∈ items → Component item component → Component (.object fields) component

/-- The state that a component gives of itself. -/
inductive Reports : JsonValue → String → Prop
  | text : trim value ≠ "" → Reports (.string value) (trim value)
  | scalar : scalarReadiness fields = some state → Reports (.object fields) state

/-- A pending state that does not keep an entry from being checked out. -/
def pendingAccepted (entry : RoutePoolEntry) (readiness : JsonValue) (state : String) : Bool :=
  state = "pending" && (entry.state = "pending" ||
    entry.state = "available" && entry.currentRouteAllocationId.isNone &&
      acquisitionPending readiness)

def notReady (entry : RoutePoolEntry) (state : String) : String :=
  "route_pool_not_ready: route pool entry '" ++ entry.id ++ "' readiness is '" ++ state ++ "'"

section Parts

theorem readinessStates_eq (items : List JsonValue) :
    readinessStates items = items.filterMap readinessState := by
  induction items with
  | nil => rw [readinessStates, List.filterMap_nil]
  | cons item items ih =>
    rw [readinessStates, List.filterMap_cons, ih]
    cases readinessState item <;> rfl

theorem nestedReadiness_eq (key : String) (fields : List (String × JsonValue)) :
    nestedReadiness key fields =
      (((JsonValue.object fields).get key).bind (·.asArray)).bind fun items =>
        (readinessStates items).find? (· ≠ "ready") := by
  induction fields with
  | nil => rfl
  | cons field fields ih =>
    obtain ⟨name, value⟩ := field
    have hget : (JsonValue.object ((name, value) :: fields)).get key =
        if name = key then some value else (JsonValue.object fields).get key := by
      by_cases hname : name = key <;> simp [JsonValue.get, hname]
    rw [hget]
    cases value with
    | array items =>
      rw [nestedReadiness, ih]
      split <;> rfl
    | null | bool _ | number _ | string _ | object _ =>
      rw [nestedReadiness, ih]
      · split <;> rfl
      · exact fun _ heq => JsonValue.noConfusion heq

theorem nested_ne_ready (h : nestedReadiness key fields = some found) : found ≠ "ready" := by
  rw [nestedReadiness_eq, Option.bind_eq_some_iff] at h
  obtain ⟨items, _, hfind⟩ := h
  simpa using List.find?_some hfind

/-- What an object says of itself comes first, then what its parts say. -/
theorem readinessState_part (hkey : key ∈ partFields)
    (hnested : (nestedReadiness key fields).isSome) :
    ∃ state, readinessState (.object fields) = some state ∧ state ≠ "ready" := by
  rw [readinessState]
  split
  · rename_i hscalar
    obtain ⟨state, hstate, hunready⟩ := (Option.any_eq_true _ _).mp hscalar
    exact ⟨state, hstate, by simpa using hunready⟩
  · cases hcomponents : nestedReadiness "components" fields with
    | some state => exact ⟨state, rfl, nested_ne_ready hcomponents⟩
    | none =>
      cases hchecks : nestedReadiness "checks" fields with
      | some state => exact ⟨state, rfl, nested_ne_ready hchecks⟩
      | none =>
        cases hresults : nestedReadiness "results" fields with
        | some state => exact ⟨state, rfl, nested_ne_ready hresults⟩
        | none =>
          simp only [partFields, List.mem_cons, List.not_mem_nil, or_false] at hkey
          rcases hkey with rfl | rfl | rfl
          · exact absurd hcomponents (Option.isSome_iff_ne_none.mp hnested)
          · exact absurd hchecks (Option.isSome_iff_ne_none.mp hnested)
          · exact absurd hresults (Option.isSome_iff_ne_none.mp hnested)

theorem unready_item {items : List JsonValue} (hitem : item ∈ items)
    (h : ∃ state, readinessState item = some state ∧ state ≠ "ready") :
    ((readinessStates items).find? (· ≠ "ready")).isSome := by
  obtain ⟨state, hstate, hne⟩ := h
  rw [List.find?_isSome, readinessStates_eq]
  exact ⟨state, List.mem_filterMap.mpr ⟨item, hitem, hstate⟩, by simpa using hne⟩

end Parts

theorem readinessState_of_reports (h : Reports component state) :
    readinessState component = some state ∨ state = "ready" := by
  cases h with
  | text hvalue => exact .inl (by rw [readinessState, if_neg hvalue])
  | scalar hscalar =>
    by_cases hready : state = "ready"
    · exact .inr hready
    · left
      have hany : (some state).any (· ≠ "ready") = true := by simpa using hready
      rw [readinessState, hscalar, if_pos hany]

/-- A component that is not ready is not hidden by what it is part of. -/
theorem readinessState_of_component (hcomponent : Component readiness component)
    (hreports : Reports component state) (hne : state ≠ "ready") :
    ∃ found, readinessState readiness = some found ∧ found ≠ "ready" := by
  induction hcomponent with
  | self readiness => exact ⟨state, (readinessState_of_reports hreports).resolve_right hne, hne⟩
  | item hitem _ ih =>
    obtain ⟨found, hfound⟩ := Option.isSome_iff_exists.mp (unready_item hitem (ih hreports))
    refine ⟨found, ?_, by simpa using List.find?_some hfound⟩
    rw [readinessState]
    exact hfound
  | part hkey hget hitem _ ih =>
    refine readinessState_part hkey ?_
    rw [nestedReadiness_eq, hget]
    exact unready_item hitem (ih hreports)

theorem ensureRoutePoolEntryReadyForCheckout_eq {entry : RoutePoolEntry}
    (hentry : entry.readiness = some readiness) (hstate : readinessState readiness = some found)
    (hne : found ≠ "ready") : ensureRoutePoolEntryReadyForCheckout entry =
      if statedReady readiness || pendingAccepted entry readiness found then .ok ()
      else .error (notReady entry found) := by
  have hpending : (found = "ready" || (entry.state = "pending" && found = "pending") ||
      (entry.state = "available" && entry.currentRouteAllocationId.isNone &&
        found = "pending" && acquisitionPending readiness)) =
      pendingAccepted entry readiness found := by
    rw [pendingAccepted, decide_eq_false hne, Bool.false_or]
    by_cases hfound : found = "pending"
    · simp only [hfound, decide_true, Bool.and_true, Bool.true_and]
    · simp [hfound]
  unfold ensureRoutePoolEntryReadyForCheckout
  simp only [hentry, hstate, hpending, refuseIf]
  cases statedReady readiness <;> cases pendingAccepted entry readiness found <;> rfl

/-- With a component that is not ready the report is not ready, and the entry is refused unless the
report itself says that it is ready or the state that it comes down to is an accepted pending. -/
theorem unready_component_refused {entry : RoutePoolEntry}
    (hentry : entry.readiness = some readiness) (hcomponent : Component readiness component)
    (hreports : Reports component state) (hne : state ≠ "ready") :
    ∃ found, found ≠ "ready" ∧ readinessState readiness = some found ∧
      ensureRoutePoolEntryReadyForCheckout entry =
        if statedReady readiness || pendingAccepted entry readiness found then .ok ()
        else .error (notReady entry found) := by
  obtain ⟨found, hfound, hunready⟩ := readinessState_of_component hcomponent hreports hne
  exact ⟨found, hunready, hfound,
    ensureRoutePoolEntryReadyForCheckout_eq hentry hfound hunready⟩

/-- A route that shows nothing but a terminal. -/
def terminalRoute : JsonValue :=
  .object [("component", .string "route_display"), ("status", .string "terminal_only_route")]

def readyAboveTerminal : JsonValue :=
  .object [("components", .array [terminalRoute]), ("state", .string "ready")]

def terminalEntry (readiness : JsonValue) : RoutePoolEntry :=
  { id := "pool-a", routeId := "route-a", state := "available", readiness := some readiness }

theorem component_terminalRoute : Component readyAboveTerminal terminalRoute :=
  .part (by decide : "components" ∈ partFields) rfl List.mem_cons_self (.self terminalRoute)

theorem reports_terminalRoute : Reports terminalRoute "terminal_only_route" :=
  .scalar (by decide)

def checkedTerminal : JsonValue :=
  .object [("checks", .array [readyAboveTerminal])]

theorem unready_component_refused_sample :
    ∃ found, found ≠ "ready" ∧ readinessState checkedTerminal = some found ∧
      ensureRoutePoolEntryReadyForCheckout (terminalEntry checkedTerminal) =
        if statedReady checkedTerminal ||
          pendingAccepted (terminalEntry checkedTerminal) checkedTerminal found then .ok ()
        else .error (notReady (terminalEntry checkedTerminal) found) :=
  unready_component_refused rfl
    (.part (by decide : "checks" ∈ partFields) rfl List.mem_cons_self component_terminalRoute)
    reports_terminalRoute (by decide)

/-- A report that is ready itself is accepted, with what its parts say. -/
theorem ready_above_terminal_accepted :
    Component readyAboveTerminal terminalRoute ∧ Reports terminalRoute "terminal_only_route" ∧
      readinessState readyAboveTerminal = some "terminal_only_route" ∧
      ensureRoutePoolEntryReadyForCheckout (terminalEntry readyAboveTerminal) = .ok () :=
  ⟨component_terminalRoute, reports_terminalRoute, by decide, by decide⟩

end AgentBrowser
