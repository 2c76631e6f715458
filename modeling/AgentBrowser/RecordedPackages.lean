import AgentBrowser.PrivacyGate
import Mathlib.Data.Countable.Basic
import Mathlib.Logic.Equiv.List

namespace AgentBrowser
open Durable
set_option autoImplicit true

/-- One call of AES-256-GCM with its real answer. -/
structure Seal where
  key : Bytes
  nonce : Bytes
  aad : Bytes
  message : Bytes
  ciphertext : Bytes
  deriving DecidableEq

def zeroTag : Bytes := List.replicate 16 0

/-- Packages that answer the recorded calls as the real ones did, and any other call plainly. -/
def Crypto.recorded (seals : List Seal) (digests : List (Bytes × String))
    (macs : List ((Bytes × Bytes) × Bytes)) : Crypto where
  aesEncrypt key nonce aad message :=
    match seals.find? fun s => s.nonce = nonce ∧ s.key = key ∧ s.aad = aad ∧ s.message = message with
    | some s => some s.ciphertext
    | none => some (message ++ zeroTag)
  aesDecrypt key nonce aad ciphertext :=
    match seals.find? fun s =>
      s.nonce = nonce ∧ s.key = key ∧ s.aad = aad ∧ s.ciphertext = ciphertext with
    | some s => some s.message
    | none =>
      if zeroTag <:+ ciphertext then some (ciphertext.take (ciphertext.length - 16)) else none
  sha256 bytes := (digests.lookup bytes).getD ""
  hmac key message := (macs.lookup (key, message)).getD []

/-- Every seal has its tag and a nonce of its own. -/
structure Genuine (seals : List Seal) : Prop where
  length : ∀ s ∈ seals, s.ciphertext.length = s.message.length + 16
  tag : ∀ s ∈ seals, ¬ zeroTag <:+ s.ciphertext
  nonces : ∀ a ∈ seals, ∀ b ∈ seals, a.nonce = b.nonce → a = b

theorem Crypto.recorded_lawful (h : Genuine seals) :
    (Crypto.recorded seals digests macs).Lawful where
  decrypt_encrypt := by
    intro key nonce aad message ciphertext he
    simp only [Crypto.recorded] at he ⊢
    cases hf : seals.find? fun s =>
        s.nonce = nonce ∧ s.key = key ∧ s.aad = aad ∧ s.message = message with
    | some s =>
      rw [hf] at he
      cases he
      have hs := List.find?_some hf
      have hmem := List.mem_of_find?_eq_some hf
      simp only [decide_eq_true_eq] at hs
      cases hg : seals.find? fun s' =>
          s'.nonce = nonce ∧ s'.key = key ∧ s'.aad = aad ∧ s'.ciphertext = s.ciphertext with
      | none =>
        have hn := List.find?_eq_none.mp hg s hmem
        simp [hs] at hn
      | some s' =>
        have hs' := List.find?_some hg
        simp only [decide_eq_true_eq] at hs'
        have hsame := h.nonces s' (List.mem_of_find?_eq_some hg) s hmem (hs'.1.trans hs.1.symm)
        rw [hsame]
        exact congrArg some hs.2.2.2
    | none =>
      rw [hf] at he
      cases he
      have hg : (seals.find? fun s => decide (s.nonce = nonce ∧ s.key = key ∧ s.aad = aad ∧
          s.ciphertext = message ++ zeroTag)) = none := by
        apply List.find?_eq_none.mpr
        intro s hs hx
        simp only [decide_eq_true_eq] at hx
        apply h.tag s hs
        rw [hx.2.2.2]
        exact List.suffix_append _ _
      rw [hg]
      simp [zeroTag]
  length_encrypt := by
    intro key nonce aad message ciphertext he
    simp only [Crypto.recorded] at he
    split at he
    · rename_i s hf
      cases he
      have hs := List.find?_some hf
      simp only [decide_eq_true_eq] at hs
      rw [← hs.2.2.2]
      exact h.length s (List.mem_of_find?_eq_some hf)
    · cases he
      simp [zeroTag]

instance charCountable : Countable Char :=
  Function.Injective.countable (f := Char.toNat) fun a b h => by
  apply Char.ext
  apply UInt32.toNat.inj
  exact h

instance stringCountable : Countable String := Function.Injective.countable (f := String.toList)
  fun _ _ h => String.toList_inj.mp h

instance : Countable PrivateScope := Function.Injective.countable
  (f := fun s => (s.targetId, s.identityDigest, s.journey, s.stage)) fun a b h => by
    cases a
    cases b
    simpa using h

instance : Countable GateState := Function.Injective.countable
  (f := fun s => (s.epoch, s.clean, s.device, s.inode, s.anchorSha256, s.scope)) fun a b h => by
    cases a
    cases b
    simpa using h

/-- A number for every record. -/
noncomputable def GateState.number : GateState → Nat :=
  (Countable.exists_injective_nat GateState).choose

theorem GateState.number_injective : Function.Injective GateState.number :=
  (Countable.exists_injective_nat GateState).choose_spec

noncomputable def GateState.spare (st : GateState) : Bytes := 0 :: List.replicate st.number 0

theorem GateState.spare_injective {a b : GateState} (h : a.spare = b.spare) : a = b := by
  apply GateState.number_injective
  have hl := congrArg List.length h
  simpa [GateState.spare] using hl

open Classical in
/-- A codec that writes the recorded records as `serde_json` does. -/
noncomputable def GateCodec.recorded (records : List (GateState × Bytes)) : GateCodec where
  encode st :=
    match records.find? fun r => r.1 = st with
    | some r => r.2
    | none => st.spare
  decode bytes :=
    match records.find? fun r => r.2 = bytes with
    | some r => some r.1
    | none => if h : ∃ st : GateState, st.spare = bytes then some h.choose else none

theorem GateCodec.recorded_lawful {records : List (GateState × Bytes)}
    (hj : ∀ r ∈ records, r.2.head? ≠ some 0)
    (hr : ∀ a ∈ records, ∀ b ∈ records, a.2 = b.2 → a = b) :
    (GateCodec.recorded records).Lawful where
  decode_encode := by
    intro st
    simp only [GateCodec.recorded]
    cases hf : records.find? fun r => r.1 = st with
    | some r =>
      have hst := List.find?_some hf
      have hmem := List.mem_of_find?_eq_some hf
      simp only [decide_eq_true_eq] at hst
      cases hg : records.find? fun r' => r'.2 = r.2 with
      | none =>
        have hn := List.find?_eq_none.mp hg r hmem
        simp at hn
      | some r' =>
        have hb := List.find?_some hg
        simp only [decide_eq_true_eq] at hb
        rw [hr r' (List.mem_of_find?_eq_some hg) r hmem hb]
        exact congrArg some hst
    | none =>
      have hg : (records.find? fun r => decide (r.2 = st.spare)) = none := by
        apply List.find?_eq_none.mpr
        intro r hmem hb
        simp only [decide_eq_true_eq] at hb
        apply hj r hmem
        rw [hb]
        rfl
      have hex : ∃ st' : GateState, st'.spare = st.spare := ⟨st, rfl⟩
      simp only [hg, hex, ↓reduceDIte]
      exact congrArg some (GateState.spare_injective hex.choose_spec)

/-- The bytes of numbers below `256 ^ n`, each with its most significant byte first. -/
def bigEndian (n : Nat) (words : List Nat) : Bytes := words.flatMap fun w => go n w []
where
  go : Nat → Nat → Bytes → Bytes
    | 0, _, acc => acc
    | k + 1, w, acc => go k (w / 256) (UInt8.ofNat (w % 256) :: acc)

def sampleKey : Bytes := List.replicate 32 7

def sampleEpoch : String :=
  "e1e1e1e1e1e1e1e1e1e1e1e1e1e1e1e1e1e1e1e1e1e1e1e1e1e1e1e1e1e1e1e1"

def sampleDigest (c : Char) : String := String.ofList (List.replicate 64 c)

/-- The records of an epoch with a journey of two stages. -/
def sampleRecord (stage : Nat) (clean : Bool) : GateState where
  epoch := sampleEpoch
  clean := clean
  device := 1
  inode := 2
  anchorSha256 := "5cb21a5ee9ad8490fb9ce9ec411dc4b1da0178722b651a42d8e92bc9b576aeaa"
  scope := some {
    targetId := "T1"
    identityDigest := if stage = 0 then sampleDigest 'c' else sampleDigest 'd'
    journey := [sampleDigest 'c', sampleDigest 'd']
    stage := stage }

/-- The text that `serde_json` writes for such a record. -/
def sampleText (st : GateState) : String :=
  let scope := st.scope.getD ⟨"", "", [], 0⟩
  "\x7b\"epoch\":\"" ++ st.epoch ++ "\",\"clean\":" ++ (if st.clean then "true" else "false") ++
    ",\"device\":" ++ toString st.device ++ ",\"inode\":" ++ toString st.inode ++
    ",\"anchor_sha256\":\"" ++ st.anchorSha256 ++ "\",\"scope\":\x7b\"target_id\":\"" ++
    scope.targetId ++ "\",\"identity_digest\":\"" ++ scope.identityDigest ++
    "\",\"journey\":[\"" ++ "\",\"".intercalate scope.journey ++ "\"],\"stage\":" ++
    toString scope.stage ++ "\x7d\x7d"

def sampleBegunSeal : Seal where
  key := sampleKey
  nonce := List.replicate 12 1
  aad := associatedData stateRef .gateState
  message := bytesOf (sampleText (sampleRecord 0 false))
  ciphertext := bigEndian 43 [
    0x0dc3ecc7ffdc842cebf6b91015061500cdca71c57da65e223d0026530385538aa7836d81f922e0b13b432d,
    0x3aa44f8ba8eb2a8c33388f9a6ec773c239b313e0a4ccd63b016bfd531c06693b4c89476dfd32e1410d65ab,
    0x775e491d3b95ddeeb66d68fe25a681e575a35b6b178b5a886fcc7b1ba05bbc1852e0c8c2b111af4ba3ba69,
    0x6fcf7ce675b2a007f0e03654743ac268e755322caf3bc511e51042c21c767ebc2b06098d162626e8aadf07,
    0x5aa308dc4a6b225331bc812eadd7f1fe668753962ed5724bafb42b70fd07851bf2fd8ff4a9e74321676e5b,
    0x157abfd6463be352256cca125658cdc590ad5b3bfa71b686e794055c2fc94b67b60b5722da4aa99fba7a68,
    0x03b3ed4b43716403cf56e3fc3bbe2f135edf974091411d1a823bd6ff4da7c7d4235db0afd0f0c886f0002f,
    0x0a1eab82ddb574412b6dc01ee00a0fdca5006a213e44c69a27fb171adbad120753ea37b51ec50d83854861,
    0x944a0c33252157946c3b4507067a5784b2d1149584301b146986da7da8a72afe36010b585997bfb62508cc,
    0xde021b5c4714179b50dccaf5e8696ff2ee6e5b0644590d4440cf3aba7dad9c76434cf344d127e47ba5871e,
    0x96175c4d857027446b20a6c4905c0707a35e094e374615483dacd316775e7e1121792ea7aa17d73bf565de] ++
    bigEndian 5 [0x3b996fcdd6]

def sampleAdvancedSeal : Seal where
  key := sampleKey
  nonce := List.replicate 12 2
  aad := associatedData stateRef .gateState
  message := bytesOf (sampleText (sampleRecord 1 false))
  ciphertext := bigEndian 43 [
    0x61968c773488dd052072e38687b3a94baf220dcb15874f85a33b96787fa0de42e7e7f3b056c959a2a68794,
    0xd7f1dee518d7436c36edc60c876ef159eefd5be17856dcf3cfe57d63ac9f2c2bd588dfe042169760a2372a,
    0x13add5ac16d866450cae0d9e548701fd66abf7484db62d271ad607598eb63749165257b0ab55aa06a5f6d6,
    0xa80a5c180b7ce627050c071c2b2e9f44e4debed2adc7b76910e6676997e1a2dce52a7609ff42fc8f6cc369,
    0x71aef7950a9802b73c256809ac0943b040763003e453a41b82c18f97976302eb1f221989c76cfcd6413ddb,
    0x442b958dcb47fb1b25736c2c5af74103e7c6b0bf3ee341c2187909bc5b2cdccdc42c769fbce4092973ecc6,
    0xb9a7361621d0b4782314c0a9a62a006f3d492c5983c7d4546c703d395d3c59c99d1019024b48d6fae96cfd,
    0xd575143976e4eeb22bd90d7e97eb0bc0510eca02f31b224a6f4abc10fc6855d0117495eac6f65e588cab50,
    0x35e0ff29f0fc0efe9ade236cc642b1d2aef564a4d884fdcbd701961dbfc9035c53b73ce7ef92a6bf93aab2,
    0x9e84a513be78150972fbb531492f12e249af56e1f0c5e8637716f2044b88d004bd5602cf8b75b792d5fecc,
    0x5c1d5e1c2bb1c93afb8b995ebf83e8fc73374daf572ed69440486cf5d7a9e5a31617e9e5346e7d2655979a] ++
    bigEndian 5 [0x409fb47008]

def sampleFinishedSeal : Seal where
  key := sampleKey
  nonce := List.replicate 12 3
  aad := associatedData stateRef .gateState
  message := bytesOf (sampleText (sampleRecord 1 true))
  ciphertext := bigEndian 43 [
    0x5edcc673354b36604062266d8e669a3d880d85ded1a4f1414aefe28086d42589d4961813fecac071abb92e,
    0x34e8ff8274421576f5ecb3584649194b925b1ded5992d25e49ca9711202cd795abf6f4a8569cc4eb4f7e11,
    0x3b48c073b0b205694267e7f8018b8e0a4e2418a8043358cf3fc5f4f601000dcbb461c8a9d2ae4f763cd5d8,
    0xd7dff740228442bc6077df5733ab08b152f4aaeaf6db353dc01d96ed26f4fb0601a73a625bb1423dff9181,
    0x0da9c94e49d997f81bb04eb488e09fe5bf66814d1b3eee87344c7c37aa622323f09d5efa3e1538b3adc908,
    0x69cb04d37d4809f186d432b5c77bfe8aa3bd8d4385780baf78b43bd3c617ffb192aa73aebc453b60c7ff68,
    0x0048f0715813f8285df87caefed3efd203edfa4375d65ad8d16f7bb81064f9be9e4b30181ef233c831e29e,
    0x026971b940777ea8130bfa6c06f7944d7585f3a5ef0138406bdae0b4f59993ea72eeb01262e033cf99742f,
    0x4fbd966923e8e345946583738acdc75e2d2887d5de7bb1edc41af69712a51d8a7788e6ef49b6c4151a4523,
    0xa89abb430c6c3b841f3171b47c2dca1fba00e77657456eb5a2f12077ac533e8fe917777eddf71d5db502c0,
    0x7f709bbd2753b111a9e285d1e3c8b789799f3abd6195fb6470bc28ef1954f8074444aa0889d885da43628e] ++
    bigEndian 4 [0x779480c9]

def sampleSeals : List Seal := [sampleBegunSeal, sampleAdvancedSeal, sampleFinishedSeal]

def sampleRecords : List (GateState × Bytes) :=
  [(0, false), (1, false), (1, true)].map fun x =>
    (sampleRecord x.1 x.2, bytesOf (sampleText (sampleRecord x.1 x.2)))

/-- The packages as they answer in a run of that epoch. -/
noncomputable def sampleEnv : GateEnv where
  crypto := .recorded sampleSeals
    [(bytesOf "private-v1", "5cb21a5ee9ad8490fb9ce9ec411dc4b1da0178722b651a42d8e92bc9b576aeaa")] []
  codec := .recorded sampleRecords

theorem sampleSeals_genuine : Genuine sampleSeals := by
  constructor
  · decide +kernel
  · decide +kernel
  · decide +kernel

theorem sampleRecords_lawful : (GateCodec.recorded sampleRecords).Lawful := by
  apply GateCodec.recorded_lawful
  · decide
  · decide +kernel

theorem sampleEnv_lawful : sampleEnv.Lawful :=
  ⟨Crypto.recorded_lawful sampleSeals_genuine, sampleRecords_lawful⟩

noncomputable def samplePool : (gateMachine sampleEnv).Pool :=
  .initial _ (freshWorld sampleKey 1 2)

/-- A command of task `t`: its start, the answers it gets, its end. -/
def sampleCommand (t : Tid) (c : GateCmd) (answers : List Choice) :
    List (gateMachine sampleEnv).Event :=
  .start t c :: answers.map (Machine.Event.step (M := gateMachine sampleEnv) t) ++ [.finish t]

/-- What a logged command was and what it came to. -/
def outcomeOf {E : GateEnv} (e : (gateMachine E).Entry) : GateCmd × GateRes := (e.cmd, e.res)

def oks (n : Nat) : List Choice := List.replicate n .ok

/-- Seal with the `n`th nonce, create the temporary file and move it, up to the last sync. -/
def sampleWrite (n : UInt8) (c : Char) : List Choice :=
  [Choice.nonce (List.replicate 12 n), .drawn (sampleDigest c)] ++ oks 6

def sampleBegin : List (gateMachine sampleEnv).Event :=
  sampleCommand (0, 0) (.beginPrivateJourney sampleKey "T1" [sampleDigest 'c', sampleDigest 'd'])
    (oks 12 ++ [Choice.drawn sampleEpoch] ++ oks 2 ++ sampleWrite 1 'a' ++ oks 6)

/-- An advance whose last sync is answered by `last`. -/
def sampleAdvance (last : List Choice) : List (gateMachine sampleEnv).Event :=
  sampleCommand (0, 0) (.advanceTarget 0 "T1" (sampleDigest 'd'))
    (oks 13 ++ sampleWrite 2 'b' ++ last)

def sampleFinish : List (gateMachine sampleEnv).Event :=
  sampleCommand (0, 0) (.finishPrivate sampleKey) (oks 14 ++ sampleWrite 3 'f' ++ oks 2)

end AgentBrowser
