import AgentBrowser.PrivateHandoff
import AgentBrowser.PrivateOperation
import AgentBrowser.OperationLifecycle

namespace Durable
set_option autoImplicit true

/-- No label starts another one. -/
def PrefixFree (label : ι → List α) : Prop := ∀ i j, label i <+: label j → i = j

/-- What stands behind labels of which none starts another determines both. -/
theorem PrefixFree.append_inj {label : ι → List α} (hfree : PrefixFree label)
    (h : label i ++ r = label j ++ s) : i = j ∧ r = s := by
  have hfirst : label i <+: label j ++ s := h ▸ List.prefix_append _ _
  have hsecond : label j <+: label j ++ s := List.prefix_append _ _
  obtain rfl : i = j := by
    rcases List.prefix_or_prefix_of_prefix hfirst hsecond with hij | hji
    · exact hfree i j hij
    · exact (hfree j i hji).symm
  exact ⟨rfl, List.append_cancel_left h⟩

end Durable

namespace AgentBrowser
open Durable
set_option autoImplicit true

/-- A byte slice. Its length is a 64-bit number. -/
@[ext] structure Slice where
  bytes : Bytes
  length_lt : bytes.length < 2 ^ 64
  deriving DecidableEq

@[ext] structure Sized (n : Nat) where
  bytes : Bytes
  length_eq : bytes.length = n
  deriving DecidableEq

@[ext] structure Bounded (n : Nat) where
  bytes : Bytes
  length_le : bytes.length ≤ n
  deriving DecidableEq

/-- A frame that may be accepted: its header carries the length of its body. -/
@[ext] structure HandoffFrame where
  header : Sized 10
  body : Bounded Private.maxBody
  magic : header.bytes.take 6 = Private.handoffMagic
  length_eq : Private.u32FromBytes (header.bytes.drop 6) = body.bytes.length
  deriving DecidableEq

/-- What identifies an approved plan, each field checked for its length when it is read. -/
@[ext] structure PlanIdentity where
  planId : Sized 32
  manifestSha256 : Sized 64
  recipeSha256 : Sized 64
  deriving DecidableEq

def deliveryMagic : Bytes := bytesOf "ABPD1\x00"

def maxDelivery : Nat := 32768

def maxRequest : Nat := 16384

/-- `u32::to_be_bytes`. -/
def u32Bytes (n : Nat) : Bytes := [24, 16, 8, 0].map fun shift => UInt8.ofNat (n / 2 ^ shift)

def deliveryFrame (body : Bytes) : Bytes := deliveryMagic ++ u32Bytes body.length ++ body

def controllerResponse (accepted : Bool) : Bytes :=
  if accepted then bytesOf "\x7b\"success\":true,\"renewalEnabled\":false\x7d"
  else bytesOf
    "\x7b\"success\":false,\"renewalEnabled\":false,\"error\":\"private_controller_rejected\"\x7d"

/-- What the private protocol puts in front of what it authenticates. -/
inductive Purpose where
  | handoff | server | complete | ready | result | ack | request | response
  deriving DecidableEq

def Purpose.label : Purpose → Bytes
  | .handoff => Private.handoffMagic
  | .server => bytesOf "ABPX1-server\x00"
  | .complete => bytesOf "ABPX1-complete\x00"
  | .ready => bytesOf "ABPD1-ready\x00"
  | .result => bytesOf "ABPD1-result\x00"
  | .ack => bytesOf "ABPD1-ack\x00"
  | .request => bytesOf "ABPC1-request\x00"
  | .response => bytesOf "ABPC1-response\x00"

/-- A message of the protocol between a client and the private processes. -/
inductive ProtocolMessage where
  | handoff (frame : HandoffFrame)
  | server (nonce : Sized 32) (plan : PlanIdentity)
  | complete (nonce : Sized 32) (plan : PlanIdentity)
  | ready (challenge planId : Sized 32) (manifestSha256 : Sized 64)
  | result (challenge : Sized 32) (body : Bounded maxDelivery)
  | ack (challenge frameDigest : Sized 32)
  | request (challenge : Sized 32) (body : Bounded maxRequest)
  | response (challenge : Sized 32) (accepted : Bool)
  deriving DecidableEq

namespace ProtocolMessage

def purpose : ProtocolMessage → Purpose
  | handoff _ => .handoff
  | server _ _ => .server
  | complete _ _ => .complete
  | ready _ _ _ => .ready
  | result _ _ => .result
  | ack _ _ => .ack
  | request _ _ => .request
  | response _ _ => .response

/-- What follows the label. The magic of a handoff is its label. -/
def content : ProtocolMessage → Bytes
  | handoff frame => frame.header.bytes.drop 6 ++ frame.body.bytes
  | server nonce plan | complete nonce plan =>
    nonce.bytes ++ plan.planId.bytes ++ plan.manifestSha256.bytes ++ plan.recipeSha256.bytes
  | ready challenge planId manifestSha256 =>
    challenge.bytes ++ planId.bytes ++ manifestSha256.bytes
  | result challenge body => challenge.bytes ++ deliveryFrame body.bytes
  | ack challenge frameDigest => challenge.bytes ++ frameDigest.bytes ++ [1]
  | request challenge body => challenge.bytes ++ body.bytes
  | response challenge accepted => challenge.bytes ++ controllerResponse accepted

def bytes (message : ProtocolMessage) : Bytes := message.purpose.label ++ message.content

end ProtocolMessage

/-- All that is authenticated: reservations of the private store, and protocol messages. -/
inductive Authenticated where
  | reservation (domain : Slice) (parts : List Slice)
  | protocol (message : ProtocolMessage)
  deriving DecidableEq

namespace Authenticated

def bytes : Authenticated → Bytes
  | reservation domain parts => fingerprintInput domain.bytes (parts.map (·.bytes))
  | protocol message => message.bytes

def tag (C : Crypto) (key : Bytes) (authenticated : Authenticated) : Bytes :=
  C.hmac key authenticated.bytes

end Authenticated

/-- Under this key the two messages do not collide. -/
def NoMacCollision (C : Crypto) (key a b : Bytes) : Prop := C.hmac key a = C.hmac key b → a = b

section Lengths

theorem u64Bytes_length (n : Nat) : (u64Bytes n).length = 8 := rfl

theorem u64Bytes_inj {m n : Nat} (hm : m < 2 ^ 64) (hn : n < 2 ^ 64)
    (h : u64Bytes m = u64Bytes n) : m = n := by
  simp only [u64Bytes, List.map_cons, List.map_nil, List.cons.injEq, and_true] at h
  have hbyte : ∀ {a b : Nat}, UInt8.ofNat a = UInt8.ofNat b → a % 2 ^ 8 = b % 2 ^ 8 := by
    intro a b heq
    simpa using congrArg UInt8.toNat heq
  -- With what lies above it, a byte settles the number from its place on.
  have hfrom : ∀ {shift : Nat}, m / 2 ^ (shift + 8) = n / 2 ^ (shift + 8) →
      UInt8.ofNat (m / 2 ^ shift) = UInt8.ofNat (n / 2 ^ shift) →
        m / 2 ^ shift = n / 2 ^ shift := by
    intro shift habove heq
    rw [Nat.pow_add, ← Nat.div_div_eq_div_mul, ← Nat.div_div_eq_div_mul] at habove
    rw [← Nat.div_add_mod (m / 2 ^ shift) (2 ^ 8), habove, hbyte heq, Nat.div_add_mod]
  obtain ⟨h7, h6, h5, h4, h3, h2, h1, h0⟩ := h
  have htop : m / 2 ^ (56 + 8) = n / 2 ^ (56 + 8) := by
    rw [Nat.div_eq_of_lt hm, Nat.div_eq_of_lt hn]
  have hall := hfrom (hfrom (hfrom (hfrom (hfrom (hfrom (hfrom (hfrom htop h7) h6) h5) h4) h3) h2)
    h1) h0
  rwa [Nat.pow_zero, Nat.div_one, Nat.div_one] at hall

theorem lengthPrefixed_append_inj {a b : Slice}
    (h : lengthPrefixed a.bytes ++ r = lengthPrefixed b.bytes ++ s) : a = b ∧ r = s := by
  rw [lengthPrefixed, lengthPrefixed, List.append_assoc, List.append_assoc] at h
  obtain ⟨hlength, hrest⟩ := List.append_inj h rfl
  have hlength := u64Bytes_inj a.length_lt b.length_lt hlength
  obtain ⟨hbytes, hrest⟩ := List.append_inj hrest hlength
  exact ⟨Slice.ext hbytes, hrest⟩

/-- The encoding of a list of slices is read from its front, slice by slice. -/
theorem lengthPrefixed_list_inj {xs ys : List Slice}
    (h : (xs.map (·.bytes)).flatMap lengthPrefixed = (ys.map (·.bytes)).flatMap lengthPrefixed) :
    xs = ys := by
  induction xs generalizing ys with
  | nil =>
    cases ys with
    | nil => rfl
    | cons y ys =>
      have hlength := congrArg List.length h
      simp only [List.map_nil, List.map_cons, List.flatMap_nil, List.flatMap_cons, lengthPrefixed,
        List.length_append, u64Bytes_length, List.length_nil] at hlength
      omega
  | cons x xs ih =>
    cases ys with
    | nil =>
      have hlength := congrArg List.length h
      simp only [List.map_nil, List.map_cons, List.flatMap_nil, List.flatMap_cons, lengthPrefixed,
        List.length_append, u64Bytes_length, List.length_nil] at hlength
      omega
    | cons y ys =>
      simp only [List.map_cons, List.flatMap_cons] at h
      obtain ⟨rfl, hrest⟩ := lengthPrefixed_append_inj h
      rw [ih hrest]

theorem fingerprintInput_inj {domain domain' : Slice} {parts parts' : List Slice}
    (h : fingerprintInput domain.bytes (parts.map (·.bytes)) =
      fingerprintInput domain'.bytes (parts'.map (·.bytes))) :
    domain = domain' ∧ parts = parts' := by
  obtain ⟨hdomain, hparts⟩ := lengthPrefixed_append_inj h
  exact ⟨hdomain, lengthPrefixed_list_inj hparts⟩

/-- A reservation that starts with a letter has a domain longer than any protocol message. -/
theorem fingerprintInput_long {domain : Slice}
    (h : (fingerprintInput domain.bytes parts).head? = some 65) :
    2 ^ 62 ≤ (fingerprintInput domain.bytes parts).length := by
  have hlt := domain.length_lt
  have hhead : UInt8.ofNat (domain.bytes.length / 2 ^ 56) = 65 := Option.some.inj h
  have hbyte : domain.bytes.length / 2 ^ 56 % 256 = 65 := by
    simpa using congrArg UInt8.toNat hhead
  simp only [fingerprintInput, lengthPrefixed, List.length_append]
  omega

end Lengths

theorem label_prefixFree : PrefixFree Purpose.label := by
  intro i j
  cases i <;> cases j <;> decide

section Messages

theorem Sized.append_inj {n : Nat} {a b : Sized n} (h : a.bytes ++ r = b.bytes ++ s) :
    a = b ∧ r = s := by
  obtain ⟨hbytes, hrest⟩ := List.append_inj h (a.length_eq.trans b.length_eq.symm)
  exact ⟨Sized.ext hbytes, hrest⟩

theorem deliveryFrame_inj (h : deliveryFrame a = deliveryFrame b) : a = b := by
  rw [deliveryFrame, deliveryFrame, List.append_assoc, List.append_assoc] at h
  exact (List.append_inj (List.append_cancel_left h) rfl).2

theorem controllerResponse_inj (h : controllerResponse a = controllerResponse b) : a = b := by
  revert h
  cases a <;> cases b <;> decide

theorem PlanIdentity.append_inj {plan plan' : PlanIdentity}
    (h : plan.planId.bytes ++ (plan.manifestSha256.bytes ++ plan.recipeSha256.bytes) =
      plan'.planId.bytes ++ (plan'.manifestSha256.bytes ++ plan'.recipeSha256.bytes)) :
    plan = plan' := by
  obtain ⟨hplan, hrest⟩ := Sized.append_inj h
  obtain ⟨hmanifest, hrecipe⟩ := Sized.append_inj hrest
  exact PlanIdentity.ext hplan hmanifest (Sized.ext hrecipe)

theorem HandoffFrame.content_inj {frame frame' : HandoffFrame}
    (h : frame.header.bytes.drop 6 ++ frame.body.bytes =
      frame'.header.bytes.drop 6 ++ frame'.body.bytes) : frame = frame' := by
  have hlength : (frame.header.bytes.drop 6).length = (frame'.header.bytes.drop 6).length := by
    rw [List.length_drop, List.length_drop, frame.header.length_eq, frame'.header.length_eq]
  obtain ⟨hheader, hbody⟩ := List.append_inj h hlength
  have hmagic := frame.magic.trans frame'.magic.symm
  refine HandoffFrame.ext (Sized.ext ?_) (Bounded.ext hbody)
  rw [← List.take_append_drop 6 frame.header.bytes, hmagic, hheader, List.take_append_drop]

theorem ProtocolMessage.content_inj {a b : ProtocolMessage} (hpurpose : a.purpose = b.purpose)
    (h : a.content = b.content) : a = b := by
  cases a <;> cases b <;> cases hpurpose <;> simp only [content, List.append_assoc] at h
  · rw [HandoffFrame.content_inj h]
  · obtain ⟨rfl, hplan⟩ := Sized.append_inj h
    rw [PlanIdentity.append_inj hplan]
  · obtain ⟨rfl, hplan⟩ := Sized.append_inj h
    rw [PlanIdentity.append_inj hplan]
  · obtain ⟨rfl, hrest⟩ := Sized.append_inj h
    obtain ⟨rfl, hmanifest⟩ := Sized.append_inj hrest
    rw [Sized.ext hmanifest]
  · obtain ⟨rfl, hframe⟩ := Sized.append_inj h
    rw [Bounded.ext (deliveryFrame_inj hframe)]
  · obtain ⟨rfl, hrest⟩ := Sized.append_inj h
    rw [(Sized.append_inj hrest).1]
  · obtain ⟨rfl, hbody⟩ := Sized.append_inj h
    rw [Bounded.ext hbody]
  · obtain ⟨rfl, hresponse⟩ := Sized.append_inj h
    rw [controllerResponse_inj hresponse]

theorem ProtocolMessage.bytes_inj {a b : ProtocolMessage} (h : a.bytes = b.bytes) : a = b := by
  obtain ⟨hpurpose, hcontent⟩ := label_prefixFree.append_inj h
  exact content_inj hpurpose hcontent

theorem ProtocolMessage.bytes_head (message : ProtocolMessage) :
    message.bytes.head? = some 65 := by
  have hlabel : ∀ purpose : Purpose, ∃ rest, purpose.label = 65 :: rest := by
    intro purpose
    cases purpose <;> exact ⟨_, rfl⟩
  obtain ⟨rest, hrest⟩ := hlabel message.purpose
  rw [bytes, hrest]
  rfl

theorem ProtocolMessage.content_length (message : ProtocolMessage) :
    message.content.length ≤ 300000 := by
  have hresponse : ∀ accepted, (controllerResponse accepted).length ≤ 1000 := by
    intro accepted
    cases accepted <;> decide
  cases message with
  | handoff frame =>
    have hbody : frame.body.bytes.length ≤ 262144 := frame.body.length_le
    simp only [content, List.length_append, List.length_drop, frame.header.length_eq]
    omega
  | server nonce plan | complete nonce plan =>
    simp only [content, List.length_append, Sized.length_eq]
    omega
  | ready challenge planId manifestSha256 =>
    simp only [content, List.length_append, Sized.length_eq]
    omega
  | result challenge body =>
    have hbody : body.bytes.length ≤ 32768 := body.length_le
    have hmagic : deliveryMagic.length = 6 := by decide
    have hprefix : (u32Bytes body.bytes.length).length = 4 := rfl
    simp only [content, deliveryFrame, List.length_append, Sized.length_eq, hmagic, hprefix]
    omega
  | ack challenge frameDigest =>
    simp only [content, List.length_append, Sized.length_eq, List.length_singleton]
    omega
  | request challenge body =>
    have hbody : body.bytes.length ≤ 16384 := body.length_le
    simp only [content, List.length_append, Sized.length_eq]
    omega
  | response challenge accepted =>
    have haccepted := hresponse accepted
    simp only [content, List.length_append, Sized.length_eq]
    omega

theorem ProtocolMessage.bytes_short (message : ProtocolMessage) :
    message.bytes.length < 2 ^ 62 := by
  have hlabel : ∀ purpose : Purpose, purpose.label.length ≤ 20 := by
    intro purpose
    cases purpose <;> decide
  have hpurpose := hlabel message.purpose
  have hcontent := message.content_length
  rw [bytes, List.length_append]
  omega

theorem Authenticated.bytes_inj {a b : Authenticated} (h : a.bytes = b.bytes) : a = b := by
  have hapart : ∀ (domain : Slice) (parts : List Slice) (message : ProtocolMessage),
      (reservation domain parts).bytes ≠ (protocol message).bytes := by
    intro domain parts message heq
    have hhead : (reservation domain parts).bytes.head? = some 65 := heq ▸ message.bytes_head
    have hlong := fingerprintInput_long hhead
    have hshort := message.bytes_short
    have hlength := congrArg List.length heq
    simp only [bytes] at hlength
    omega
  cases a with
  | reservation domain parts =>
    cases b with
    | reservation domain' parts' =>
      obtain ⟨rfl, rfl⟩ := fingerprintInput_inj h
      rfl
    | protocol message => exact absurd h (hapart domain parts message)
  | protocol message =>
    cases b with
    | reservation domain parts => exact absurd h.symm (hapart domain parts message)
    | protocol message' => rw [ProtocolMessage.bytes_inj h]

end Messages

section Hex

theorem hexDigit_inj : ∀ m < 16, ∀ n < 16, hexDigit m = hexDigit n → m = n := by decide

theorem hexEncode_inj {a b : Bytes} (h : hexEncode a = hexEncode b) : a = b := by
  rw [hexEncode, hexEncode, String.ofList_inj] at h
  induction a generalizing b with
  | nil =>
    cases b with
    | nil => rfl
    | cons y b => cases h
  | cons x a ih =>
    cases b with
    | nil => cases h
    | cons y b =>
      simp only [List.flatMap_cons, List.cons_append, List.nil_append, List.cons.injEq] at h
      obtain ⟨hhigh, hlow, hrest⟩ := h
      have hx := x.toNat_lt
      have hy := y.toNat_lt
      have hhigh := hexDigit_inj _ (by omega) _ (by omega) hhigh
      have hlow := hexDigit_inj _ (by omega) _ (by omega) hlow
      have hbyte : x = y := UInt8.toNat_inj.mp (by omega)
      rw [hbyte, ih hrest]

end Hex

/-- The key under which the reservations of a store are authenticated. -/
def reservationKey (C : Crypto) (key : Bytes) : Bytes :=
  C.hmac key (bytesOf "agent-browser-backup-reservation-key-v1")

theorem reservationFingerprint_eq (C : Crypto) (key : Bytes) (domain : Slice)
    (parts : List Slice) : reservationFingerprint C key domain.bytes (parts.map (·.bytes)) =
      hexEncode ((Authenticated.reservation domain parts).tag C (reservationKey C key)) := rfl

/-- A body that is accepted came in a frame that was authenticated as one. -/
theorem receiveBody_frame {authority : Private.PrivateHandoffAuthority}
    (h : Private.receiveBody authority C requireEof stream = .ok body) :
    ∃ frame : HandoffFrame, frame.body.bytes = body ∧
      (stream.drop (10 + body.length)).take 32 =
        (Authenticated.protocol (.handoff frame)).tag C authority.authenticationKey := by
  simp only [Private.receiveBody, Except.bind_eq_ok, refuseIf_eq_ok, Bool.or_eq_false_iff,
    decide_eq_false_iff_not, Except.ok.injEq, not_lt, not_not] at h
  obtain ⟨_, ⟨hheader, hmagic⟩, _, ⟨_, hmax⟩, _, ⟨⟨hbody, _⟩, _⟩, _, hmac, rfl⟩ := h
  have hlength := Nat.le_antisymm (List.length_take_le _ _) hbody
  let frame : HandoffFrame :=
    { header := ⟨stream.take 10, Nat.le_antisymm (List.length_take_le _ _) hheader⟩
      body := ⟨_, hlength.le.trans hmax⟩
      magic := hmagic
      length_eq := hlength.symm }
  refine ⟨frame, rfl, ?_⟩
  have hbytes : (Authenticated.protocol (.handoff frame)).bytes =
      stream.take 10 ++ frame.body.bytes := by
    show Private.handoffMagic ++ ((stream.take 10).drop 6 ++ frame.body.bytes) = _
    rw [← hmagic, ← List.append_assoc, List.take_append_drop]
  rw [Authenticated.tag, hbytes, hlength]
  exact hmac.symm

/-- No two things that are authenticated have one byte string, and so they have one tag under one
key, or two reservations one fingerprint, only where the code for authentication collides. -/
theorem authenticated_apart :
    (∀ a b : Authenticated, a.bytes = b.bytes → a = b) ∧
      (∀ (C : Crypto) (key : Bytes) (a b : Authenticated),
        NoMacCollision C key a.bytes b.bytes → a.tag C key = b.tag C key → a = b) ∧
      ∀ (C : Crypto) (key : Bytes) (domain domain' : Slice) (parts parts' : List Slice),
        NoMacCollision C (reservationKey C key) (Authenticated.reservation domain parts).bytes
          (Authenticated.reservation domain' parts').bytes →
        reservationFingerprint C key domain.bytes (parts.map (·.bytes)) =
          reservationFingerprint C key domain'.bytes (parts'.map (·.bytes)) →
        domain = domain' ∧ parts = parts' := by
  refine ⟨fun a b h => Authenticated.bytes_inj h,
    fun C key a b hcollision htag => Authenticated.bytes_inj (hcollision htag), ?_⟩
  intro C key domain domain' parts parts' hcollision h
  rw [reservationFingerprint_eq, reservationFingerprint_eq] at h
  exact fingerprintInput_inj (hcollision (hexEncode_inj h))

def referenceReservation (reference : String) (h : (bytesOf reference).length < 2 ^ 64) :
    Authenticated :=
  .reservation ⟨bytesOf "staged-reference", by decide⟩ [⟨bytesOf reference, h⟩]

theorem authenticated_apart_sample :
    (referenceReservation sampleReference (by decide)).tag storeCrypto derivedKey ≠
      (referenceReservation restagedReference (by decide)).tag storeCrypto derivedKey := by
  have hno : NoMacCollision storeCrypto derivedKey
      (referenceReservation sampleReference (by decide)).bytes
      (referenceReservation restagedReference (by decide)).bytes := by
    unfold NoMacCollision
    decide
  exact fun htag => absurd (authenticated_apart.2.1 storeCrypto derivedKey _ _ hno htag)
    (by decide)

end AgentBrowser
