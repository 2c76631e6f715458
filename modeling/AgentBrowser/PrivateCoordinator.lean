import AgentBrowser.PrivateHandoff
import AgentBrowser.PrivateStaging

namespace AgentBrowser.Private
open Durable JsonText
set_option autoImplicit true

def coordinatorFailed : String := "private_coordinator_failed_closed"

def passwordSlot : String := "PRIVATE_PASSWORD_SLOT"

def codeSlot : String := "PRIVATE-CODE-SLOT"

/-- The recipe that was reviewed, with slots for the secrets. It is never taken from a peer. -/
structure Authority where
  schema : String
  planId : String
  manifestSha256 : String
  recipeSha256 : String
  endpoint : String
  sessionName : String
  expiresAt : String
  operations : List JsonValue

section Recipe
variable (E : PrivateEnv)

/-- `value[key]`, which is null where there is no such field. -/
def index (value : JsonValue) (key : String) : JsonValue := (value.get key).getD .null

/-- A change of `value[key]`. A field that is missing is added, and null becomes an object; where
the source panics, on a value that can have no fields, there is no result. -/
def indexMut (key : String) (change : JsonValue → Option JsonValue) :
    JsonValue → Option JsonValue
  | .null => (change .null).map fun field => .object [(key, field)]
  | .object fields => (change (index (.object fields) key)).map ((.object fields : JsonValue).set key)
  | _ => none

/-- `value["operation"][field] = slot`. -/
def setSlot (field slot : String) : JsonValue → Option JsonValue :=
  indexMut "operation" (indexMut field fun _ => some (.string slot))

def recipeFields : List (String × Bool) :=
  [("schema", false), ("planId", false), ("manifestSha256", false), ("recipeSha256", false),
    ("endpoint", false), ("sessionName", false), ("expiresAt", false), ("operations", false)]

/-- The operations as typed records, whatever else the record has. -/
def readNested (bytes : Bytes) : Option (List PrivateOperation) := do
  let raw ← readRaw bytes
  let operations ← match raw with
    | .object fields =>
      match fields.filter (·.1 = "operations") with
      | [(_, operations)] => some operations
      | _ => none
    | .array [operations] => some operations
    | _ => none
  (← operations.asArray).mapM decodeOperation

def readAuthority (bytes : Bytes) : Option Authority := do
  let _ ← (readRaw bytes).bind (structValues recipeFields)
  match (readValue bytes).bind (structValues recipeFields) with
  | some [some (.string schema), some (.string planId), some (.string manifestSha256),
      some (.string recipeSha256), some (.string endpoint), some (.string sessionName),
      some (.string expiresAt), some (.array operations)] =>
    some {
      schema, planId, manifestSha256, recipeSha256, endpoint, sessionName, expiresAt, operations }
  | _ => none

def Authority.parsedOperations (authority : Authority) : Except String (List PrivateOperation) :=
  authority.operations.mapM fun operation =>
    (PrivateOperation.parse E (bytesOf (String.ofList (compact operation)))).mapError
      fun _ => coordinatorFailed

def Authority.expiry (now : Int) (authority : Authority) : Except String Int := do
  let expires ← orRefuse (E.parseTime authority.expiresAt) coordinatorFailed
  refuseIf (expires ≤ now) coordinatorFailed
  .ok expires

/-- One operation of the recipe against the plan, its account and the session. -/
def Authority.checkOperation (authority : Authority) (session : String)
    (first operation : PrivateOperation) : Except String Unit :=
  refuseIf (operation.consentSha256 ≠ authority.manifestSha256 ||
    operation.accountScope ≠ first.accountScope ||
    (index operation.serviceTabHandle "sessionName").asStr ≠ some session ||
    (index operation.serviceTabHandle "browserId").asStr ≠ some ("session:" ++ session))
    coordinatorFailed

def Authority.parse (now : Int) (bytes : Bytes) (session : String) : Except String Authority := do
  let nested ← orRefuse (readNested bytes) coordinatorFailed
  let authority ← orRefuse (readAuthority bytes) coordinatorFailed
  refuseIf (authority.schema ≠ "agent-browser.private-coordinator.v1" ||
    !isLowerHexText authority.planId 32 || !isLowerHexText authority.manifestSha256 64 ||
    !isLowerHexText authority.recipeSha256 64 || authority.sessionName ≠ session ||
    authority.operations.length ≠ 4 || nested.length ≠ 4 ||
    (authority.operations[0]?.map fun value => index (index value "operation") "password") ≠
      some (.string passwordSlot) ||
    (authority.operations[1]?.map fun value => index (index value "operation") "code") ≠
      some (.string codeSlot)) coordinatorFailed
  refuseIf (E.sha256 (bytesOf (String.ofList (compact (.array authority.operations)))) ≠
    authority.recipeSha256) coordinatorFailed
  let parsed ← authority.parsedOperations E
  (validateSequence E parsed).mapError fun _ => coordinatorFailed
  let first ← orRefuse parsed.head? coordinatorFailed
  parsed.forM (authority.checkOperation session first)
  let url ← orRefuse (E.parseUrl authority.endpoint) coordinatorFailed
  refuseIf ((url.scheme ≠ "ws" && url.scheme ≠ "wss") || url.host.isNone || url.username ≠ "" ||
    url.password.isSome || url.query.isSome || url.fragment.isSome ||
    authority.endpoint.toList.any (fun c => isWhiteSpace c || isControl c)) coordinatorFailed
  let _ ← authority.expiry E now
  .ok authority

/-- The approval of a handoff, from the recipe. -/
def Authority.handoff (now : Int) (key : Bytes) (authority : Authority) :
    Except String PrivateHandoffAuthority := do
  let parsed ← authority.parsedOperations E
  let first ← orRefuse parsed.head? coordinatorFailed
  let expiresAt ← authority.expiry E now
  (PrivateHandoffAuthority.new E now {
    consentSha256 := authority.manifestSha256
    accountScope := first.accountScope
    initialHandle := first.serviceTabHandle
    destinations := parsed.map fun operation => (operation.expectedOrigin, operation.expectedUrl)
    authenticationKey := key
    expiresAt }).mapError fun _ => coordinatorFailed

/-- The values that were received against the recipe, with slots in place of the secrets. -/
def Authority.compareReceived (now : Int) (authority : Authority) (received : List JsonValue) :
    Except String Unit := do
  refuseIf (received.length ≠ 4) coordinatorFailed
  let login ← orRefuse (received[0]?.bind (setSlot "password" passwordSlot)) coordinatorFailed
  let received := received.set 0 login
  let backupCode ← orRefuse (received[1]?.bind (setSlot "code" codeSlot)) coordinatorFailed
  let received := received.set 1 backupCode
  refuseIf (received ≠ authority.operations) coordinatorFailed
  let _ ← authority.expiry E now

end Recipe

section Receiving
variable (C : Crypto) (E : PrivateEnv) (h : Handle)

/-- The values under the references. -/
def loadReceived : List String → Prog Op Op.Ret String (List JsonValue)
  | [] => pure []
  | reference :: references => do
    let payload ← .ofExcept ((← (load C h reference).attempt).mapError fun _ => coordinatorFailed)
    let value ← .okOr (readValue payload) coordinatorFailed
    let received ← loadReceived references
    pure (value :: received)

def Authority.validateReceived (now : Int) (authority : Authority) (references : List String) :
    Prog Op Op.Ret String Unit := do
  let received ← loadReceived C h references
  .ofExcept (authority.compareReceived E now received)

/-- The part of an execution up to the claim of its binding: the approval is taken from the recipe,
the handoff is received for it, and what was received is compared with the recipe. -/
def Authority.receive (clock : Nat → Int) (key : Bytes) (requireEof : Bool) (ingress : Ingress)
    (authority : Authority) : Prog Op Op.Ret String PrivateStagedHandoff := do
  let approval ← .ofExcept (authority.handoff E (clock 0) key)
  let staged ← .ofExcept ((← (receiveFrame C E h approval requireEof ingress).attempt).mapError
    fun _ => coordinatorFailed)
  authority.validateReceived C E h (clock 1) staged.references
  pure staged

end Receiving

section Comparison
variable {E : PrivateEnv} {authority : Authority}

/-- Two values with the same fields, but for this field of their operations. -/
structure SameButSlot (slot : String) (received recipe : JsonValue) : Prop where
  fields : ∀ name, name ≠ "operation" → received.get name = recipe.get name
  operation : ∀ name, name ≠ slot →
    (index received "operation").get name = (index recipe "operation").get name

/-- Four operations that are those of the recipe, but for the password and the code. -/
inductive Reviewed : List JsonValue → List JsonValue → Prop
  | intro (hlogin : SameButSlot "password" login login')
      (hcode : SameButSlot "code" backupCode backupCode') :
    Reviewed [login, backupCode, renew, readKey] [login', backupCode', renew, readKey]

theorem indexMut_eq_some (h : indexMut key change value = some changed) :
    (∀ name, name ≠ key → changed.get name = value.get name) ∧
      change (index value key) = some (index changed key) := by
  cases value with
  | null =>
    obtain ⟨field, hfield, rfl⟩ := Option.map_eq_some_iff.mp h
    refine ⟨fun name hname => ?_, ?_⟩
    · simp [JsonValue.get, Ne.symm hname]
    · simpa [index, JsonValue.get] using hfield
  | object fields =>
    obtain ⟨field, hfield, rfl⟩ := Option.map_eq_some_iff.mp h
    refine ⟨fun name hname => JsonValue.get_set_ne hname, ?_⟩
    rw [hfield, index, JsonValue.get_set_self rfl]
    rfl
  | bool _ | number _ | string _ | array _ => cases h

theorem setSlot_eq_some (h : setSlot field slot value = some changed) :
    SameButSlot field value changed := by
  obtain ⟨hfields, hoperation⟩ := indexMut_eq_some h
  obtain ⟨hslots, -⟩ := indexMut_eq_some hoperation
  exact ⟨fun name hname => (hfields name hname).symm, fun name hname => (hslots name hname).symm⟩

theorem compareReceived_eq_ok (h : authority.compareReceived E now received = .ok u) :
    Reviewed received authority.operations := by
  simp only [Authority.compareReceived, Except.bind_eq_ok, refuseIf_eq_ok, orRefuse_eq_ok,
    decide_eq_false_iff_not, ne_eq, not_not] at h
  obtain ⟨_, hlength, login, hlogin, backupCode, hcode, _, hsame, -⟩ := h
  obtain ⟨_, _, _, _, rfl⟩ := List.length_eq_four.mp hlength
  rw [← hsame]
  exact .intro (setSlot_eq_some hlogin) (setSlot_eq_some hcode)

end Comparison

section Runs
variable {C : Crypto} {E : PrivateEnv} {t : Tid} {h : Handle} {authority : PrivateHandoffAuthority}
  {pairs : List (String × Bytes)}

/-- The payloads are staged in order, each under its own reference. -/
theorem stageAll_returns {reading : Nat} (hC : C.Lawful) (payloads : List Bytes) :
    (taskSetting t).Returns (fun w => w.owned t = [] ∧ Staged C h.key t pairs w)
      (stageAll C h authority now reading payloads)
      fun references w => w.owned t = [] ∧ references.length = payloads.length ∧
        Staged C h.key t (references.zip payloads ++ pairs) w := by
  induction payloads generalizing pairs reading with
  | nil => exact .pure (owned_stable.and Staged.stable) fun _ _ hw => ⟨hw.1, rfl, hw.2⟩
  | cons payload payloads ih =>
    apply Setting.Returns.ensure (owned_stable.and Staged.stable)
    intro _
    apply Setting.Returns.renamed (stage_returns hC)
    intro reference
    apply Setting.Returns.seq ih
    intro references
    apply Setting.Returns.pure (owned_stable.and (Stable.and (.const _) Staged.stable))
    rintro w _ ⟨howned, hlength, hstaged⟩
    refine ⟨howned, congrArg (· + 1) hlength, fun pair hpair => hstaged pair ?_⟩
    simp only [List.zip_cons_cons, List.cons_append, List.mem_cons, List.mem_append] at hpair ⊢
    tauto

theorem loadReceived_returns (asked : List (String × Bytes)) (hasked : asked ⊆ pairs) :
    (taskSetting t).Returns (fun w => w.owned t = [] ∧ Staged C h.key t pairs w)
      (loadReceived C h (asked.map (·.1)))
      fun received w => w.owned t = [] ∧ Staged C h.key t pairs w ∧
        List.Forall₂ (fun pair value => readValue pair.2 = some value) asked received := by
  induction asked with
  | nil => exact .pure (owned_stable.and Staged.stable) fun _ _ hw => ⟨hw.1, hw.2, .nil⟩
  | cons pair asked ih =>
    obtain ⟨hpair, hasked⟩ := List.cons_subset.mp hasked
    apply Setting.Returns.renamed (load_returns hpair)
    intro payload
    apply Setting.Triple.conseq _ (fun w _ hw => (⟨hw.2.2, hw.1, hw.2.1⟩ :
      payload = pair.2 ∧ w.owned t = [] ∧ Staged C h.key t pairs w)) (fun _ _ _ hr => hr)
    apply Setting.Triple.and_left
    rintro rfl
    apply Setting.Returns.okOr (owned_stable.and Staged.stable)
    intro value hvalue
    apply Setting.Returns.seq (ih hasked)
    intro received
    apply Setting.Returns.pure (owned_stable.and (Staged.stable.and (.const _)))
    rintro w _ ⟨howned, hstaged, hreceived⟩
    exact ⟨howned, hstaged, .cons hvalue hreceived⟩

/-- What is received under the references is the recipe, but for the secrets. -/
theorem validateReceived_returns {reviewed : Authority} :
    (taskSetting t).Returns (fun w => w.owned t = [] ∧ Staged C h.key t pairs w)
      (reviewed.validateReceived C E h now (pairs.map (·.1)))
      fun _ w => w.owned t = [] ∧ Staged C h.key t pairs w ∧
        ∃ received, List.Forall₂ (fun pair value => readValue pair.2 = some value) pairs received ∧
          Reviewed received reviewed.operations := by
  apply Setting.Returns.seq (loadReceived_returns pairs (List.Subset.refl _))
  intro received
  apply Setting.Triple.ofExcept
  · exact owned_stable.and (Staged.stable.and (.const _))
  · rintro w _ ⟨howned, hstaged, hreceived⟩
    cases hcompare : reviewed.compareReceived E now received with
    | error e => trivial
    | ok _ => exact ⟨howned, hstaged, received, hreceived, compareReceived_eq_ok hcompare⟩

/-- A frame that is accepted was approved, and its payloads are staged. -/
theorem receiveFrame_returns (hC : C.Lawful) (hauthority : authority.destinations.length = 4) :
    (taskSetting t).Returns (fun w => w.owned t = []) (receiveFrame C E h authority eof ingress)
      fun staged w => w.owned t = [] ∧ ∃ payloads operations,
        staged.references.length = payloads.length ∧
        Staged C h.key t (staged.references.zip payloads) w ∧
        Approved E authority payloads operations := by
  apply Setting.Returns.ensure owned_stable
  intro _
  apply Setting.Returns.ofExcept owned_stable
  intro body _
  apply Setting.Returns.ofExcept owned_stable
  intro payloads hpayloads
  obtain ⟨_, operations, -, -, happroved⟩ := acceptBody_eq_ok hauthority hpayloads
  have hstart (w : World) (ho : w.owned t = []) : w.owned t = [] ∧ Staged C h.key t [] w :=
    ⟨ho, fun _ hpair => absurd hpair List.not_mem_nil⟩
  apply Setting.Returns.seq ((stageAll_returns hC payloads).weaken (fun w _ => hstart w)
    fun _ _ _ hw => hw)
  intro references
  have hp : (taskSetting t).Stable fun w => w.owned t = [] ∧ references.length = payloads.length ∧
      Staged C h.key t (references.zip payloads ++ []) w :=
    owned_stable.and (Stable.and (.const _) Staged.stable)
  apply Setting.Returns.ensure hp
  intro _
  apply Setting.Returns.pure hp
  rintro w _ ⟨howned, hlength, hstaged⟩
  rw [List.append_nil] at hstaged
  exact ⟨howned, payloads, operations, hlength, hstaged, happroved⟩

theorem Authority.handoff_eq_ok {reviewed : Authority}
    (h : reviewed.handoff E now key = .ok authority) : authority.destinations.length = 4 := by
  simp only [Authority.handoff, Except.bind_eq_ok] at h
  obtain ⟨_, -, _, -, _, -, hnew⟩ := h
  cases hgiven : PrivateHandoffAuthority.new E now _ with
  | error e => rw [hgiven] at hnew; cases hnew
  | ok given =>
    rw [hgiven] at hnew
    cases hnew
    obtain ⟨rfl, hlength⟩ := PrivateHandoffAuthority.new_eq_ok hgiven
    exact hlength

/-- What an execution goes on with was approved by its recipe, and is that recipe but for the
password and the code. -/
theorem receive_returns (hC : C.Lawful) {reviewed : Authority} :
    (taskSetting t).Returns (fun w => w.owned t = [])
      (reviewed.receive C E h clock key eof ingress)
      fun staged w => w.owned t = [] ∧ ∃ authority payloads operations received,
        reviewed.handoff E (clock 0) key = .ok authority ∧
        Staged C h.key t (staged.references.zip payloads) w ∧
        Approved E authority payloads operations ∧
        List.Forall₂ (fun payload value => readValue payload = some value) payloads received ∧
        Reviewed received reviewed.operations := by
  apply Setting.Returns.ofExcept owned_stable
  intro authority hauthority
  apply Setting.Returns.renamed (receiveFrame_returns hC (Authority.handoff_eq_ok hauthority))
  rintro staged s hi ⟨howned, payloads, operations, hlength, hstaged, happroved⟩
  have hreferences : (staged.references.zip payloads).map (·.1) = staged.references :=
    List.map_fst_zip hlength.le
  have hvalidate := @validateReceived_returns C E t h (staged.references.zip payloads) (clock 1)
    reviewed
  rw [hreferences] at hvalidate
  apply Setting.Returns.seq hvalidate _ s hi ⟨howned, hstaged⟩
  intro _
  apply Setting.Returns.pure (owned_stable.and (Staged.stable.and (.const _)))
  rintro w _ ⟨howned, hstaged, received, hreceived, hreviewed⟩
  refine ⟨howned, authority, payloads, operations, received, hauthority, hstaged, happroved, ?_,
    hreviewed⟩
  rw [← List.map_snd_zip hlength.ge, List.forall₂_map_left_iff]
  exact hreceived

/-- A frame whose operations are not all valid and approved is refused before any file is used. -/
theorem receiveFrame_refused (hauthority : authority.destinations.length = 4)
    (hrefused : ¬∃ body values operations,
      receiveBody authority C eof ingress.stream = .ok body ∧
      (readValue body).bind (·.asArray) = some values ∧
      Approved E authority (values.map fun value => bytesOf (String.ofList (compact value)))
        operations) :
    ∃ error, receiveFrame C E h authority eof ingress = .fail error := by
  rw [receiveFrame]
  by_cases hentry : (ingress.sameUser && decide (ingress.now 0 < authority.expiresAt)) = true
  · rw [hentry]
    cases hbody : receiveBody authority C eof ingress.stream with
    | error e => exact ⟨e, rfl⟩
    | ok body =>
      cases hpayloads : acceptBody E authority body with
      | error e =>
        refine ⟨e, ?_⟩
        change (Prog.ofExcept (acceptBody E authority body)).bind _ = _
        rw [hpayloads]
        rfl
      | ok payloads =>
        obtain ⟨values, operations, hvalues, rfl, happroved⟩ := acceptBody_eq_ok hauthority hpayloads
        exact absurd ⟨body, values, operations, hbody, hvalues, happroved⟩ hrefused
  · rw [Bool.not_eq_true _ |>.mp hentry]
    exact ⟨handoffFailed, rfl⟩

end Runs

section Samples

def sampleApproval : PrivateHandoffAuthority where
  consentSha256 := String.ofList (List.replicate 64 'a')
  accountScope := "login.gov:user@example.test"
  initialHandle := Private.sampleHandle "https://secure.login.gov/"
  destinations := (sampleSequence "secret" "CODE").map fun operation =>
    (operation.expectedOrigin, operation.expectedUrl)
  authenticationKey := List.replicate 32 7
  expiresAt := 10

/-- A frame without operations, and its MAC. -/
def emptyFrame : Bytes := bytesOf "ABPH1\x00\x00\x00\x00\x02[]"

def emptyTag : Bytes :=
  [130, 193, 117, 29, 189, 235, 98, 165, 243, 112, 220, 200, 11, 213, 49, 144, 119, 71, 76, 236, 46,
    83, 121, 87, 235, 52, 135, 138, 225, 97, 131, 60]

def handoffCrypto : Crypto :=
  .recorded [] [] [((sampleApproval.authenticationKey, emptyFrame), emptyTag)]

end Samples

end AgentBrowser.Private
