import AgentBrowser.PrivateJourney
import AgentBrowser.Returns

namespace AgentBrowser.Private
open Durable JsonText
set_option autoImplicit true

def handoffFailed : String := "private_handoff_rejected"

def handoffMagic : Bytes := bytesOf "ABPH1\x00"

def maxBody : Nat := 262144

/-- Any error of a step is the one error of a handoff. -/
def rejected (x : Except ε α) : Except String α := x.mapError fun _ => handoffFailed

/-- The approval that a handoff is compared with. It never comes from the peer. -/
structure PrivateHandoffAuthority where
  consentSha256 : String
  accountScope : String
  initialHandle : JsonValue
  destinations : List (String × String)
  authenticationKey : Bytes
  expiresAt : Int
  deriving DecidableEq

structure PrivateStagedHandoff where
  references : List String
  expiresAt : Int
  deriving DecidableEq, Repr

def PrivateHandoffAuthority.validateInitial (E : PrivateEnv)
    (authority : PrivateHandoffAuthority) : Except String Unit := do
  let field name := orRefuse ((authority.initialHandle.get name).bind (·.asStr)) handoffFailed
  let (origin, url) ← orRefuse authority.destinations.head? handoffFailed
  let profileId ← field "profileId"
  let browserId ← field "browserId"
  let sessionName ← field "sessionName"
  let targetId ← field "targetId"
  let _ ← rejected (validatePrivateTarget E authority.initialHandle authority.initialHandle
    { profileId, browserId, sessionName, targetId, url, ready := true } origin url)

def PrivateHandoffAuthority.new (E : PrivateEnv) (now : Int)
    (authority : PrivateHandoffAuthority) : Except String PrivateHandoffAuthority := do
  refuseIf (!isLowerHexText authority.consentSha256 64 ||
    (stripPrefix "login.gov:".toList authority.accountScope.toList).isNone ||
    authority.destinations.length ≠ 4 || authority.expiresAt ≤ now) handoffFailed
  authority.validateInitial E
  .ok authority

/-- What a connected peer sends, and when the clock is read: `now k` is its reading number `k`.
`timedOut` tells that the time for the whole handoff was over before its result. -/
structure Ingress where
  sameUser : Bool
  stream : Bytes
  now : Nat → Int
  timedOut : Bool

/-- `u32::from_be_bytes`. -/
def u32FromBytes (bytes : Bytes) : Nat := bytes.foldl (fun n b => n * 256 + b.toNat) 0

section Acceptance
variable (E : PrivateEnv) (authority : PrivateHandoffAuthority)

/-- Consent, account and destination of one operation. -/
def checkApproved (entry : PrivateOperation × String × String) : Except String Unit :=
  refuseIf (entry.1.consentSha256 ≠ authority.consentSha256 ||
    entry.1.accountScope ≠ authority.accountScope || entry.1.expectedOrigin ≠ entry.2.1 ||
    entry.1.expectedUrl ≠ entry.2.2) handoffFailed

/-- The first operation against the handle that was approved. -/
def checkInitial (first : PrivateOperation) : Except String Unit := do
  let field name := orRefuse ((authority.initialHandle.get name).bind (·.asStr)) handoffFailed
  let profileId ← field "profileId"
  let browserId ← field "browserId"
  let sessionName ← field "sessionName"
  let targetId ← field "targetId"
  let _ ← rejected (validatePrivateTarget E first.serviceTabHandle authority.initialHandle
    { profileId, browserId, sessionName, targetId, url := first.expectedUrl, ready := true }
    first.expectedOrigin first.expectedUrl)

/-- The payloads of a body whose four operations are all valid and approved. The typed reading
comes first, since the reading of plain values forgets fields that are given twice. -/
def acceptBody (body : Bytes) : Except String (List Bytes) := do
  let raw ← orRefuse ((readRaw body).bind (·.asArray)) handoffFailed
  let _ ← orRefuse (raw.mapM decodeOperation) handoffFailed
  let values ← orRefuse ((readValue body).bind (·.asArray)) handoffFailed
  refuseIf (values.length ≠ 4) handoffFailed
  let payloads := values.map fun value => bytesOf (String.ofList (compact value))
  let operations ← rejected (payloads.mapM (PrivateOperation.parse E))
  rejected (validateSequence E operations)
  (operations.zip authority.destinations).forM (checkApproved authority)
  let first ← orRefuse operations.head? handoffFailed
  checkInitial E authority first
  .ok payloads

/-- The body of a frame: a header with its length, the body, its MAC, and the end of the stream
if that is asked for. -/
def receiveBody (C : Crypto) (requireEof : Bool) (stream : Bytes) : Except String Bytes := do
  let header := stream.take 10
  refuseIf (header.length < 10 || header.take 6 ≠ handoffMagic) handoffFailed
  let length := u32FromBytes (header.drop 6)
  refuseIf (length = 0 || length > maxBody) handoffFailed
  let body := (stream.drop 10).take length
  let tag := (stream.drop (10 + length)).take 32
  let trailing := stream.drop (10 + length + 32)
  refuseIf (body.length < length || tag.length < 32 || (requireEof && !trailing.isEmpty))
    handoffFailed
  refuseIf (C.hmac authority.authenticationKey (header ++ body) ≠ tag) handoffFailed
  .ok body

end Acceptance

section Staging
variable (C : Crypto) (E : PrivateEnv) (h : Handle) (authority : PrivateHandoffAuthority)

/-- Stages the payloads in order, each before the approval expires. -/
def stageAll (now : Nat → Int) (reading : Nat) : List Bytes → Prog Op Op.Ret String (List String)
  | [] => pure []
  | payload :: payloads => do
    .ensure (now reading < authority.expiresAt) handoffFailed
    let staged ← (stage C h payload).attempt
    let reference ← .ofExcept (rejected staged)
    let references ← stageAll now (reading + 1) payloads
    pure (reference :: references)

def receiveFrame (requireEof : Bool) (ingress : Ingress) :
    Prog Op Op.Ret String PrivateStagedHandoff := do
  .ensure (ingress.sameUser && ingress.now 0 < authority.expiresAt) handoffFailed
  let body ← .ofExcept (receiveBody authority C requireEof ingress.stream)
  let payloads ← .ofExcept (acceptBody E authority body)
  let references ← stageAll C h authority ingress.now 1 payloads
  .ensure (ingress.now 5 < authority.expiresAt && !ingress.timedOut) handoffFailed
  pure { references, expiresAt := authority.expiresAt }

end Staging

section Approval
variable {E : PrivateEnv} {authority : PrivateHandoffAuthority}

theorem mapM_eq_ok_iff {f : α → Except ε β} {xs : List α} {ys : List β} :
    xs.mapM f = .ok ys ↔ List.Forall₂ (fun x y => f x = .ok y) xs ys := by
  induction xs generalizing ys with
  | nil =>
    rw [List.mapM_nil, List.forall₂_nil_left_iff]
    exact ⟨fun h => (Except.ok.inj h).symm, fun h => h ▸ rfl⟩
  | cons x xs ih =>
    rw [List.mapM_cons, Except.bind_eq_ok, List.forall₂_cons_left_iff]
    simp only [Except.bind_eq_ok, ih]
    constructor
    · rintro ⟨y, hx, rest, hxs, he⟩
      exact ⟨y, rest, hx, hxs, (Except.ok.inj he).symm⟩
    · rintro ⟨y, rest, hx, hxs, rfl⟩
      exact ⟨y, hx, rest, hxs, rfl⟩

@[simp]
theorem rejected_eq_ok {x : Except ε α} : rejected x = .ok a ↔ x = .ok a := by
  cases x <;> simp [rejected, Except.mapError]

/-- The payloads hold four operations, each valid, in the one order of a sequence, with the
consent, the account, the destination and the target that were approved. -/
structure Approved (E : PrivateEnv) (authority : PrivateHandoffAuthority) (payloads : List Bytes)
    (operations : List PrivateOperation) : Prop where
  parsed : List.Forall₂ (fun payload operation => PrivateOperation.parse E payload = .ok operation)
    payloads operations
  sequence : validateSequence E operations = .ok ()
  consent : ∀ operation ∈ operations, operation.consentSha256 = authority.consentSha256
  account : ∀ operation ∈ operations, operation.accountScope = authority.accountScope
  destinations : (operations.map fun operation =>
    (operation.expectedOrigin, operation.expectedUrl)) = authority.destinations
  target : ∀ operation ∈ operations,
    SameHandle operation.serviceTabHandle authority.initialHandle

theorem checkApproved_eq_ok (h : checkApproved authority (operation, destination) = .ok u) :
    operation.consentSha256 = authority.consentSha256 ∧
      operation.accountScope = authority.accountScope ∧
      (operation.expectedOrigin, operation.expectedUrl) = destination := by
  simpa [checkApproved, Prod.ext_iff, and_assoc] using h

theorem checkInitial_eq_ok (h : checkInitial E authority first = .ok u) :
    SameHandle first.serviceTabHandle authority.initialHandle := by
  simp only [checkInitial, Except.bind_eq_ok, rejected_eq_ok] at h
  obtain ⟨_, -, _, -, _, -, _, -, target, htarget, -⟩ := h
  exact (validatePrivateTarget_eq_ok.mp htarget).1.same

/-- What is accepted was written from the values of the body, and is approved. -/
theorem acceptBody_eq_ok (hauthority : authority.destinations.length = 4)
    (h : acceptBody E authority body = .ok payloads) :
    ∃ values operations, (readValue body).bind (·.asArray) = some values ∧
      payloads = values.map (fun value => bytesOf (String.ofList (compact value))) ∧
      Approved E authority payloads operations := by
  simp only [acceptBody, Except.bind_eq_ok, orRefuse_eq_ok, refuseIf_eq_ok, rejected_eq_ok,
    forM_eq_ok] at h
  obtain ⟨_, -, _, -, values, hvalues, _, hcount, operations, hparsed, _, hsequence, _, happroved,
    first, hfirst, _, hinitial, ⟨⟩⟩ := h
  refine ⟨values, operations, hvalues, rfl, ?_⟩
  have hsame := checkInitial_eq_ok hinitial
  obtain ⟨f, second, third, fourth, rfl, hstages⟩ := validateSequence_eq_ok hsequence
  cases hfirst
  obtain ⟨_, _, _, _, hd⟩ := List.length_eq_four.mp hauthority
  rw [hd] at happroved
  simp only [List.zip_cons_cons, List.zip_nil_right, List.forall_mem_cons] at happroved
  obtain ⟨h₁, h₂, h₃, h₄, -⟩ := happroved
  obtain ⟨hc₁, ha₁, rfl⟩ := checkApproved_eq_ok h₁
  obtain ⟨hc₂, ha₂, rfl⟩ := checkApproved_eq_ok h₂
  obtain ⟨hc₃, ha₃, rfl⟩ := checkApproved_eq_ok h₃
  obtain ⟨hc₄, ha₄, rfl⟩ := checkApproved_eq_ok h₄
  exact {
    parsed := mapM_eq_ok_iff.mp hparsed
    sequence := hsequence
    consent := by simp [hc₁, hc₂, hc₃, hc₄]
    account := by simp [ha₁, ha₂, ha₃, ha₄]
    destinations := by rw [hd]; rfl
    target := by
      intro operation hoperation
      obtain ⟨-, -, live, canonical, hstage⟩ := checkStage_eq_ok (hstages operation hoperation)
      exact (hstage.same.trans .of_set).trans hsame }

theorem Approved.length (h : Approved E authority payloads operations)
    (hauthority : authority.destinations.length = 4) : payloads.length = 4 := by
  rw [h.parsed.length_eq, ← hauthority, ← h.destinations, List.length_map]

theorem PrivateHandoffAuthority.new_eq_ok
    (h : PrivateHandoffAuthority.new E now authority = .ok authority') :
    authority' = authority ∧ authority.destinations.length = 4 := by
  simp only [new, Except.bind_eq_ok, refuseIf_eq_ok, Bool.or_eq_false_iff,
    decide_eq_false_iff_not, ne_eq, not_not] at h
  obtain ⟨_, ⟨⟨-, hlength⟩, -⟩, _, -, ⟨⟩⟩ := h
  exact ⟨rfl, hlength⟩

end Approval

end AgentBrowser.Private
