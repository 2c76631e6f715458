import AgentBrowser.PrivateBroker

namespace AgentBrowser
set_option autoImplicit true

/-- A command as it is put on the wire. -/
structure PrivateMessage where
  method : String
  params : Option JsonValue
  sessionId : Option String
  deriving DecidableEq

/-- What comes of a command: nothing is sent, or it is sent and no result comes back in time, or the
browser answers. -/
inductive CommandReply where
  | unsent | failed
  | answered (result : JsonValue)

/-- A message that was sent, with the answer to it. -/
structure Exchange where
  message : PrivateMessage
  answer : Option JsonValue
  deriving DecidableEq

abbrev PrivateRun : Type := List Exchange × Except String JsonValue

def privateMessage (method : String) (params : Option JsonValue) (sessionId : Option String) :
    PrivateMessage :=
  { method, params, sessionId := sessionId.filter (· ≠ "") }

def probeMessage (session : String) : PrivateMessage :=
  privateMessage "Target.getTargetInfo" none (some session)

def sendCommandInner (message : PrivateMessage) : CommandReply → PrivateRun
  | .unsent => ([], .error "private_cdp_operation_failed")
  | .failed => ([⟨message, none⟩], .error "private_cdp_operation_failed")
  | .answered result => ([⟨message, some result⟩], .ok result)

def privateMethods : List String :=
  ["Target.getTargetInfo", "Target.attachToTarget", "Target.detachFromTarget",
    "Page.getFrameTree", "Page.createIsolatedWorld", "Page.navigate", "Page.stopLoading",
    "Runtime.evaluate"]

/-- Thirty seconds in nanoseconds. -/
def maxPrivateTimeout : Nat := 30 * 10 ^ 9

section Scope
variable (targetId method : String) (params : Option JsonValue) (sessionId : Option String)

def paramText (key : String) : Option String :=
  (params.bind (·.get key)).bind (·.asStr)

/-- The session that has to be probed first, where the method needs one. -/
def probeSession : Except String (Option String) :=
  match method with
  | "Target.attachToTarget" => do
    refuseIf (sessionId.isSome || paramText params "targetId" ≠ some targetId ||
      (params.bind (·.get "flatten")).bind (·.asBool) ≠ some true) "private_scope_mismatch"
    .ok none
  | "Target.getTargetInfo" => do
    refuseIf (((params.bind (·.get "targetId")).any fun value => value.asStr ≠ some targetId) ||
      (sessionId.isNone && paramText params "targetId" ≠ some targetId)) "private_scope_mismatch"
    .ok none
  | "Target.detachFromTarget" => do
    refuseIf (sessionId.isSome || (params.bind (·.get "targetId")).isSome)
      "private_scope_mismatch"
    let session ← orRefuse ((paramText params "sessionId").filter (· ≠ ""))
      "private_scope_mismatch"
    .ok (some session)
  | _ => do
    let session ← orRefuse (sessionId.filter (· ≠ "")) "private_scope_mismatch"
    .ok (some session)

/-- The answer to a probe names the target, as a page. -/
def namesPage (info : JsonValue) : Bool :=
  ((info.get "targetInfo").bind (·.get "targetId")).bind (·.asStr) = some targetId &&
    ((info.get "targetInfo").bind (·.get "type")).bind (·.asStr) = some "page"

def sendScoped (reply : CommandReply) : PrivateRun :=
  let (wire, result) := sendCommandInner (privateMessage method params sessionId) reply
  (wire, do
    let result ← result
    refuseIf (method = "Target.getTargetInfo" && !namesPage targetId result)
      "private_scope_mismatch"
    .ok result)

/-- A probe and, if it names the target, the command. -/
def sendProbed (session : String) (first second : CommandReply) : PrivateRun :=
  let (wire, info) := sendCommandInner (probeMessage session) first
  match info with
  | .error reason => (wire, .error reason)
  | .ok info =>
    if namesPage targetId info then
      let (rest, result) := sendScoped targetId method params sessionId second
      (wire ++ rest, result)
    else (wire, .error "private_scope_mismatch")

end Scope

/-- The target of a permit that this client is to obey. The first argument says whether the permit
is one for the gate of the client, if the client has one. -/
def privateScope (authorized : Option Bool) (permit : PrivatePermit) (method : String)
    (timeout : Nat) : Except String String := do
  let authorized ← orRefuse authorized "private_gate_unavailable"
  refuseIf (!authorized) "private_permit_mismatch"
  let targetId ← orRefuse permit.targetId "private_scope_missing"
  refuseIf permit.identityDigest.isNone "private_scope_missing"
  refuseIf (!privateMethods.contains method || timeout = 0 || timeout > maxPrivateTimeout)
    "private_cdp_operation_invalid"
  .ok targetId

def sendPrivateCommand (authorized : Option Bool) (permit : PrivatePermit) (method : String)
    (params : Option JsonValue) (sessionId : Option String) (timeout : Nat)
    (first second : CommandReply) : PrivateRun :=
  match privateScope authorized permit method timeout with
  | .error reason => ([], .error reason)
  | .ok targetId =>
    match probeSession targetId method params sessionId with
    | .error reason => ([], .error reason)
    | .ok none => sendScoped targetId method params sessionId first
    | .ok (some session) => sendProbed targetId method params sessionId session first second

def IsProbe (message : PrivateMessage) : Prop := message.method = "Target.getTargetInfo"

def AttachesTo (targetId : String) (message : PrivateMessage) : Prop :=
  message.method = "Target.attachToTarget" ∧ message.sessionId = none ∧
    paramText message.params "targetId" = some targetId

/-- A detach is sent to the browser itself and names the session. -/
def DetachesFrom (session : String) (message : PrivateMessage) : Prop :=
  message.method = "Target.detachFromTarget" ∧ message.sessionId = none ∧
    paramText message.params "sessionId" = some session

/-- A probe of the session was answered with the target, as a page. -/
def Confirmed (targetId : String) (before : List Exchange) (session : String) : Prop :=
  ∃ info, ⟨probeMessage session, some info⟩ ∈ before ∧ namesPage targetId info = true

/-- What may be sent after these exchanges. -/
def OnTarget (targetId : String) (before : List Exchange) (message : PrivateMessage) : Prop :=
  IsProbe message ∨ AttachesTo targetId message ∨
    ∃ session, session ≠ "" ∧ (message.sessionId = some session ∨ DetachesFrom session message) ∧
      Confirmed targetId before session

/-- Each message of a run may be sent after those before it. -/
def StaysOnTarget (targetId : String) (wire : List Exchange) : Prop :=
  ∀ before exchange after, wire = before ++ exchange :: after →
    OnTarget targetId before exchange.message

section Proofs
variable {targetId method : String} {params : Option JsonValue} {sessionId : Option String}

/-- The wire of the command itself: nothing, with an error, or this one message. -/
theorem sendScoped_wire (targetId method : String) (params : Option JsonValue)
    (sessionId : Option String) (reply : CommandReply) :
    (∃ reason, sendScoped targetId method params sessionId reply = ([], .error reason)) ∨
      ∃ answer, (sendScoped targetId method params sessionId reply).1 =
        [⟨privateMessage method params sessionId, answer⟩] := by
  cases reply with
  | unsent => exact .inl ⟨_, rfl⟩
  | failed => exact .inr ⟨none, rfl⟩
  | answered result => exact .inr ⟨some result, rfl⟩

theorem sessionId_privateMessage (method : String) (params : Option JsonValue)
    (h : sessionId.filter (· ≠ "") = some session) :
    (privateMessage method params sessionId).sessionId = some session ∧ session ≠ "" :=
  ⟨h, by simpa using (Option.filter_eq_some_iff.mp h).2⟩

/-- Where no probe is needed the command is one itself, or it attaches to the target. -/
theorem onTarget_of_unprobed (h : probeSession targetId method params sessionId = .ok none) :
    OnTarget targetId [] (privateMessage method params sessionId) := by
  unfold probeSession at h
  split at h
  · obtain ⟨_, hallowed, _⟩ := Except.bind_eq_ok.mp h
    rw [refuseIf_eq_ok, Bool.or_eq_false_iff, Bool.or_eq_false_iff] at hallowed
    obtain ⟨⟨hsession, htarget⟩, _⟩ := hallowed
    refine .inr (.inl ⟨rfl, ?_, by simpa [privateMessage] using htarget⟩)
    rw [privateMessage, Option.isSome_eq_false_iff.mp hsession |> Option.isNone_iff_eq_none.mp]
    rfl
  · exact .inl rfl
  · obtain ⟨_, _, h⟩ := Except.bind_eq_ok.mp h
    obtain ⟨session, _, h⟩ := Except.bind_eq_ok.mp h
    cases h
  · obtain ⟨session, _, h⟩ := Except.bind_eq_ok.mp h
    cases h

/-- A command for which a session is probed goes to this session, or detaches from it. -/
theorem onTarget_of_probed
    (h : probeSession targetId method params sessionId = .ok (some session))
    (hconfirmed : Confirmed targetId before session) :
    OnTarget targetId before (privateMessage method params sessionId) := by
  unfold probeSession at h
  split at h
  · obtain ⟨_, _, h⟩ := Except.bind_eq_ok.mp h
    cases h
  · obtain ⟨_, _, h⟩ := Except.bind_eq_ok.mp h
    cases h
  · obtain ⟨_, hallowed, h⟩ := Except.bind_eq_ok.mp h
    obtain ⟨found, hfound, h⟩ := Except.bind_eq_ok.mp h
    cases h
    rw [refuseIf_eq_ok, Bool.or_eq_false_iff] at hallowed
    obtain ⟨hparam, hnonempty⟩ := Option.filter_eq_some_iff.mp (orRefuse_eq_ok.mp hfound)
    have hnone : sessionId = none := by simpa using hallowed.1
    refine .inr (.inr ⟨session, by simpa using hnonempty, .inr ⟨rfl, ?_, hparam⟩, hconfirmed⟩)
    rw [privateMessage, hnone]
    rfl
  · obtain ⟨found, hfound, h⟩ := Except.bind_eq_ok.mp h
    cases h
    obtain ⟨hsession, hne⟩ := sessionId_privateMessage method params (orRefuse_eq_ok.mp hfound)
    exact .inr (.inr ⟨session, hne, .inl hsession, hconfirmed⟩)

theorem staysOnTarget_nil : StaysOnTarget targetId [] := by
  intro before exchange after h
  exact absurd h.symm (by simp)

theorem StaysOnTarget.cons {first : Exchange} {wire : List Exchange}
    (hfirst : OnTarget targetId [] first.message)
    (hrest : ∀ before exchange after, wire = before ++ exchange :: after →
      OnTarget targetId (first :: before) exchange.message) :
    StaysOnTarget targetId (first :: wire) := by
  intro before exchange after h
  cases before with
  | nil =>
    obtain ⟨rfl, _⟩ := List.cons.inj h
    exact hfirst
  | cons other before =>
    obtain ⟨rfl, hwire⟩ := List.cons.inj h
    exact hrest before exchange after hwire

theorem staysOnTarget_singleton {exchange : Exchange}
    (h : OnTarget targetId [] exchange.message) : StaysOnTarget targetId [exchange] :=
  .cons h fun before _ _ hwire => by simp at hwire

/-- A run is on the target, and its command is sent or refused with nothing but probes sent. -/
structure PrivateOutcome (targetId : String) (command : PrivateMessage) (run : PrivateRun) :
    Prop where
  onTarget : StaysOnTarget targetId run.1
  refused : (∃ exchange ∈ run.1, exchange.message = command) ∨
    (∃ reason, run.2 = .error reason) ∧ ∀ exchange ∈ run.1, IsProbe exchange.message

theorem sendScoped_outcome (h : probeSession targetId method params sessionId = .ok none)
    (reply : CommandReply) :
    PrivateOutcome targetId (privateMessage method params sessionId)
      (sendScoped targetId method params sessionId reply) := by
  rcases sendScoped_wire targetId method params sessionId reply with
    ⟨reason, hrun⟩ | ⟨answer, hwire⟩
  · rw [hrun]
    exact ⟨staysOnTarget_nil, .inr ⟨⟨reason, rfl⟩, by simp⟩⟩
  · constructor
    · rw [hwire]
      exact staysOnTarget_singleton (onTarget_of_unprobed h)
    · exact .inl ⟨_, hwire ▸ List.mem_singleton_self _, rfl⟩

theorem sendProbed_outcome
    (h : probeSession targetId method params sessionId = .ok (some session))
    (first second : CommandReply) :
    PrivateOutcome targetId (privateMessage method params sessionId)
      (sendProbed targetId method params sessionId session first second) := by
  cases first with
  | unsent => exact ⟨staysOnTarget_nil, .inr ⟨⟨_, rfl⟩, by simp [sendProbed, sendCommandInner]⟩⟩
  | failed =>
    refine ⟨staysOnTarget_singleton (.inl rfl), .inr ⟨⟨_, rfl⟩, ?_⟩⟩
    intro exchange hm
    rw [List.mem_singleton.mp hm]
    rfl
  | answered info =>
    simp only [sendProbed, sendCommandInner]
    split
    · rename_i hnames
      have hconfirmed : ∀ before, Confirmed targetId
          (⟨probeMessage session, some info⟩ :: before) session :=
        fun before => ⟨info, List.mem_cons_self, hnames⟩
      rcases sendScoped_wire targetId method params sessionId second with
        ⟨reason, hrun⟩ | ⟨answer, hwire⟩
      · rw [hrun, List.append_nil]
        refine ⟨staysOnTarget_singleton (.inl rfl), .inr ⟨⟨reason, rfl⟩, ?_⟩⟩
        intro exchange hm
        rw [List.mem_singleton.mp hm]
        rfl
      · rw [hwire]
        refine ⟨.cons (.inl rfl) ?_, .inl ⟨_, List.mem_append_right _ List.mem_cons_self, rfl⟩⟩
        intro before exchange after hrest
        obtain ⟨rfl, rfl⟩ : before = [] ∧ exchange = _ := by
          cases before with
          | nil => exact ⟨rfl, (List.cons.inj hrest).1.symm⟩
          | cons other before => simp at hrest
        exact onTarget_of_probed h (hconfirmed [])
    · refine ⟨staysOnTarget_singleton (.inl rfl), .inr ⟨⟨_, rfl⟩, ?_⟩⟩
      intro exchange hm
      rw [List.mem_singleton.mp hm]
      rfl

end Proofs

theorem privateScope_targetId {permit : PrivatePermit}
    (h : privateScope authorized permit method timeout = .ok targetId) :
    permit.targetId = some targetId := by
  simp only [privateScope, Except.bind_eq_ok, orRefuse_eq_ok, Except.ok.injEq] at h
  obtain ⟨_, _, _, _, found, hfound, _, _, _, _, rfl⟩ := h
  exact hfound

theorem sendPrivateCommand_cases (authorized : Option Bool) (permit : PrivatePermit)
    (method : String) (params : Option JsonValue) (sessionId : Option String) (timeout : Nat)
    (first second : CommandReply) :
    (∃ reason, sendPrivateCommand authorized permit method params sessionId timeout first second =
      ([], .error reason)) ∨
      ∃ targetId, permit.targetId = some targetId ∧
        PrivateOutcome targetId (privateMessage method params sessionId)
          (sendPrivateCommand authorized permit method params sessionId timeout first second) := by
  unfold sendPrivateCommand
  cases hscope : privateScope authorized permit method timeout with
  | error reason => exact .inl ⟨reason, rfl⟩
  | ok targetId =>
    simp only
    cases hprobe : probeSession targetId method params sessionId with
    | error reason => exact .inl ⟨reason, rfl⟩
    | ok probed =>
      refine .inr ⟨targetId, privateScope_targetId hscope, ?_⟩
      cases probed with
      | none => exact sendScoped_outcome hprobe first
      | some session => exact sendProbed_outcome hprobe first second

/-- Whatever the browser answers, every message of a private command is a probe, attaches to the
target of the permit, or goes to a session that a probe before it has found on the target, or
detaches from one; where the command itself is not sent it is refused, with nothing but probes
sent. -/
theorem sendPrivateCommand_onTarget (authorized : Option Bool) (permit : PrivatePermit)
    (method : String) (params : Option JsonValue) (sessionId : Option String) (timeout : Nat)
    (first second : CommandReply) :
    let run := sendPrivateCommand authorized permit method params sessionId timeout first second
    (∀ before exchange after, run.1 = before ++ exchange :: after →
      ∃ targetId, permit.targetId = some targetId ∧
        OnTarget targetId before exchange.message) ∧
      ((∃ exchange ∈ run.1, exchange.message = privateMessage method params sessionId) ∨
        (∃ reason, run.2 = .error reason) ∧ ∀ exchange ∈ run.1, IsProbe exchange.message) := by
  intro run
  rcases sendPrivateCommand_cases authorized permit method params sessionId timeout first second
    with ⟨reason, hrun⟩ | ⟨targetId, htarget, houtcome⟩
  · rw [show run = ([], .error reason) from hrun]
    refine ⟨fun before exchange after hwire => ?_, .inr ⟨⟨reason, rfl⟩, by simp⟩⟩
    exact absurd hwire.symm (by simp)
  · exact ⟨fun before exchange after hwire =>
      ⟨targetId, htarget, houtcome.onTarget before exchange after hwire⟩, houtcome.refused⟩

def samplePermit : PrivatePermit :=
  { file := some 0
    store := []
    epoch := "epoch"
    completion := none
    scope := some { targetId := "page-1", identityDigest := "digest", journey := [], stage := 0 } }

def pageInfo : JsonValue :=
  .object [("targetInfo", .object [("targetId", .string "page-1"), ("type", .string "page")])]

/-- A detach that was let through is sent to no session at all. -/
theorem detach_sent_unaddressed :
    let run := sendPrivateCommand (some true) samplePermit "Target.detachFromTarget"
      (some (.object [("sessionId", .string "s-1")])) none 1000 (.answered pageInfo)
      (.answered (.object []))
    ¬ ∀ exchange ∈ run.1, IsProbe exchange.message ∨ AttachesTo "page-1" exchange.message ∨
      ∃ session, exchange.message.sessionId = some session := by
  intro run h
  have hrun : run.1 = [⟨probeMessage "s-1", some pageInfo⟩,
      ⟨privateMessage "Target.detachFromTarget" (some (.object [("sessionId", .string "s-1")]))
        none, some (.object [])⟩] := by decide
  rw [hrun] at h
  rcases h _ (List.mem_cons_of_mem _ List.mem_cons_self) with hprobe | ⟨hattach, _⟩ | ⟨_, hsession⟩
  · exact absurd (show "Target.detachFromTarget" = "Target.getTargetInfo" from hprobe) (by decide)
  · exact absurd (show "Target.detachFromTarget" = "Target.attachToTarget" from hattach) (by decide)
  · cases hsession

end AgentBrowser
