import AgentBrowser.CompactJson
import AgentBrowser.GateSteps
import AgentBrowser.StandardText
import Mathlib.Tactic.Linarith

namespace AgentBrowser
open Durable JsonText
set_option autoImplicit true

section Sizes

/-- How many bytes a text takes. -/
def textSize (text : List Char) : Nat := (text.map Char.utf8Size).sum

@[simp]
theorem textSize_nil : textSize [] = 0 := rfl

@[simp]
theorem textSize_cons (c : Char) (text : List Char) :
    textSize (c :: text) = c.utf8Size + textSize text := by
  simp only [textSize, List.map_cons, List.sum_cons]

@[simp]
theorem textSize_append (a b : List Char) : textSize (a ++ b) = textSize a + textSize b := by
  simp only [textSize, List.map_append, List.sum_append]

theorem bytesOf_ofList (text : List Char) :
    bytesOf (String.ofList text) = text.flatMap String.utf8EncodeChar := by
  simp [bytesOf, String.toByteArray_ofList, List.utf8Encode]

theorem bytesOf_ofList_length (text : List Char) :
    (bytesOf (String.ofList text)).length = textSize text := by
  rw [bytesOf_ofList, List.length_flatMap]
  simp only [String.length_utf8EncodeChar, textSize]

/-- A byte that stands for itself inside a JSON string. -/
def isPlainByte (b : UInt8) : Bool := 32 ≤ b && b < 128 && b != 34 && b != 92

theorem isPlainByte_toNat {n : Nat} (hn : n < 256) (h : isPlainByte (UInt8.ofNat n) = true) :
    32 ≤ n ∧ n < 128 ∧ n ≠ 34 ∧ n ≠ 92 := by
  simp only [isPlainByte, Bool.and_eq_true, decide_eq_true_eq, bne_iff_ne, ne_eq,
    UInt8.le_iff_toNat_le, UInt8.lt_iff_toNat_lt, ← UInt8.toNat_inj] at h
  simp only [UInt8.toNat_ofNat', Nat.mod_eq_of_lt hn, UInt8.toNat_ofNat] at h
  omega

theorem escape_plain {c : Char} (hlow : 32 ≤ c.toNat) (hquote : c.toNat ≠ 34)
    (hslash : c.toNat ≠ 92) : escape c = [c] := by
  have hne {d : Char} (hd : d.toNat < 32 ∨ d.toNat = 34 ∨ d.toNat = 92) : c ≠ d := by
    rintro rfl
    omega
  rw [escape, if_neg (hne (.inr (.inl rfl))), if_neg (hne (.inr (.inr rfl))),
    if_neg (hne (.inl (by decide))), if_neg (hne (.inl (by decide))),
    if_neg (hne (.inl (by decide))), if_neg (by omega), if_neg (by omega), if_neg (by omega)]

theorem plain_char {c : Char} (h : (String.utf8EncodeChar c).all isPlainByte = true) :
    c.utf8Size = 1 ∧ escape c = [c] := by
  have hsize := String.length_utf8EncodeChar c
  rw [String.utf8EncodeChar] at h hsize
  split at h
  · rename_i hascii
    rw [if_pos hascii] at hsize
    simp only [List.all_cons, List.all_nil, Bool.and_true] at h
    obtain ⟨hlow, hhigh, hquote, hslash⟩ := isPlainByte_toNat (by omega) h
    exact ⟨hsize.symm, escape_plain hlow hquote hslash⟩
  -- The first byte of any other character is 192 or more.
  · exfalso
    split at h
    · simp only [List.all_cons, Bool.and_eq_true] at h
      have hbyte := isPlainByte_toNat (by omega) h.1
      omega
    · split at h
      · simp only [List.all_cons, Bool.and_eq_true] at h
        have hbyte := isPlainByte_toNat (by omega) h.1
        omega
      · simp only [List.all_cons, Bool.and_eq_true] at h
        have hbyte := isPlainByte_toNat (by omega) h.1
        omega

/-- A text of plain bytes is printed as it is, between quotes. -/
theorem quoted_plain (h : (bytesOf text).all isPlainByte = true) :
    textSize (quoted text) = (bytesOf text).length + 2 := by
  have hbody (l : List Char) (hl : (l.flatMap String.utf8EncodeChar).all isPlainByte = true) :
      textSize (l.flatMap escape) = (l.flatMap String.utf8EncodeChar).length := by
    induction l with
    | nil => rfl
    | cons c l ih =>
      rw [List.flatMap_cons, List.all_append, Bool.and_eq_true] at hl
      obtain ⟨hsize, hescape⟩ := plain_char hl.1
      rw [List.flatMap_cons, List.flatMap_cons, textSize_append, List.length_append, ih hl.2,
        hescape, String.length_utf8EncodeChar, hsize]
      simp [hsize]
  rw [← String.ofList_toList (s := text), bytesOf_ofList] at h ⊢
  have hquote : '"'.utf8Size = 1 := rfl
  simp only [quoted, textSize_cons, textSize_append, textSize_nil, String.toList_ofList, hbody _ h,
    hquote]
  omega

theorem textSize_ascii (h : ∀ c ∈ text, c.isDigit = true) : textSize text = text.length := by
  induction text with
  | nil => rfl
  | cons c text ih =>
    obtain ⟨hc, hrest⟩ := List.forall_mem_cons.mp h
    have hsize : c.utf8Size = 1 := by
      simp only [Char.isDigit, Bool.and_eq_true, decide_eq_true_eq] at hc
      exact Char.utf8Size_eq_one_iff.mpr (UInt32.le_trans hc.2 (by decide))
    rw [textSize_cons, ih hrest, hsize, List.length_cons, Nat.add_comm]

theorem numeral_size (h : n < 10 ^ k) (hk : 0 < k) : textSize (numeral (n : Nat)) ≤ k := by
  have hdigits : ∀ c ∈ Nat.toDigits 10 n, c.isDigit = true := fun c hc =>
    Nat.isDigit_of_mem_toDigits (by decide) (by decide) hc
  change textSize (Nat.toDigits 10 n) ≤ k
  rw [textSize_ascii hdigits]
  exact (Nat.length_toDigits_le_iff (by decide) hk).mpr h

end Sizes

section Codec

def scopeJson (scope : PrivateScope) : JsonValue :=
  .object [("target_id", .string scope.targetId), ("identity_digest", .string scope.identityDigest),
    ("journey", .ofStrs scope.journey), ("stage", .number scope.stage)]

def stateJson (state : GateState) : JsonValue :=
  .object [("epoch", .string state.epoch), ("clean", .bool state.clean),
    ("device", .number state.device), ("inode", .number state.inode),
    ("anchor_sha256", .string state.anchorSha256), ("scope", state.scope.elim .null scopeJson)]

def decodeStrs : JsonValue → Option (List String)
  | .array values => values.mapM JsonValue.asStr
  | _ => none

def decodeScope (value : JsonValue) : Option PrivateScope :=
  match structValues [("target_id", false), ("identity_digest", false), ("journey", true),
      ("stage", true)] value with
  | some [some (.string targetId), some (.string identityDigest), journey, stage] => do
    let journey ← journey.elim (some []) decodeStrs
    let stage ← stage.elim (some 0) JsonValue.asNat
    some { targetId, identityDigest, journey, stage }
  | _ => none

/-- A scope that is missing or `null` is none. -/
def decodeOptionalScope : Option JsonValue → Option (Option PrivateScope)
  | none | some .null => some none
  | some value => (decodeScope value).map some

def decodeState (value : JsonValue) : Option GateState :=
  match structValues [("epoch", false), ("clean", false), ("device", false), ("inode", false),
      ("anchor_sha256", false), ("scope", true)] value with
  | some [some (.string epoch), some (.bool clean), some device, some inode,
      some (.string anchorSha256), scope] => do
    let device ← device.asNat
    let inode ← inode.asNat
    let scope ← decodeOptionalScope scope
    some { epoch, clean, device, inode, anchorSha256, scope }
  | _ => none

/-- `serde_json::to_vec` and `from_slice` of the record. The numbers of a directory are not
limited to 64 bits here. -/
def gateJson : GateCodec where
  encode state := bytesOf (String.ofList (compact (stateJson state)))
  decode bytes := do
    let text ← fromUtf8 bytes
    let value ← parse (fun fields => fields) text.toList
    decodeState value

theorem decodeStrs_ofStrs (values : List String) : decodeStrs (.ofStrs values) = some values := by
  rw [JsonValue.ofStrs, decodeStrs]
  induction values with
  | nil => rfl
  | cons value values ih =>
    rw [List.map_cons, List.mapM_cons, ih]
    rfl

theorem decodeScope_scopeJson (scope : PrivateScope) :
    decodeScope (scopeJson scope) = some scope := by
  simp [decodeScope, scopeJson, structValues, decodeStrs_ofStrs, JsonValue.asNat]

theorem decodeState_stateJson (state : GateState) :
    decodeState (stateJson state) = some state := by
  have hscope : decodeOptionalScope (some (state.scope.elim .null scopeJson)) =
      some state.scope := by
    cases state.scope with
    | none => rfl
    | some scope =>
      change (decodeScope (scopeJson scope)).map some = _
      rw [decodeScope_scopeJson]
      rfl
  simp [decodeState, stateJson, structValues, JsonValue.asNat, hscope]

theorem gateJson_lawful : gateJson.Lawful where
  decode_encode := by
    intro state
    simp only [gateJson, fromUtf8_bytesOf, Option.bind_eq_bind, Option.bind_some,
      String.toList_ofList, parse_compact (Kept.plain _), decodeState_stateJson]

end Codec

section Limit

/-- What the store can write: a valid scope, digests of 64 digits and numbers of 64 bits. -/
structure GateState.Sized (state : GateState) : Prop where
  scope : state.scope.all PrivateScope.valid = true
  epoch : isReference state.epoch = true
  anchor : isReference state.anchorSha256 = true
  device : state.device < 2 ^ 64
  inode : state.inode < 2 ^ 64

theorem hexDigit_plain (h : isAsciiHexDigit b = true) : isPlainByte b = true := by
  simp only [isAsciiHexDigit, isLowerHex, isAsciiDigit, isPlainByte, Bool.or_eq_true,
    Bool.and_eq_true, decide_eq_true_eq, bne_iff_ne, ne_eq, UInt8.le_iff_toNat_le,
    UInt8.lt_iff_toNat_lt, ← UInt8.toNat_inj, UInt8.toNat_ofNat] at h ⊢
  omega

theorem digest_size (h : isDigest text = true) : textSize (quoted text) = 66 := by
  simp only [isDigest, Bool.and_eq_true, beq_iff_eq] at h
  have hplain : (bytesOf text).all isPlainByte = true :=
    List.all_eq_true.mpr fun b hb => hexDigit_plain (List.all_eq_true.mp h.2 b hb)
  rw [quoted_plain hplain, h.1]

theorem reference_digest (h : isReference text = true) : isDigest text = true := by
  simp only [isReference, isDigest, Bool.and_eq_true] at h ⊢
  refine ⟨h.1, List.all_eq_true.mpr fun b hb => ?_⟩
  rw [isAsciiHexDigit, List.all_eq_true.mp h.2 b hb, Bool.true_or]

theorem PrivateScope.valid_fields {scope : PrivateScope} (h : scope.valid = true) :
    scope.journey.length ≤ 16 ∧ (∀ digest ∈ scope.journey, isDigest digest = true) ∧
      scope.stage ≤ 16 ∧ isDigest scope.identityDigest = true ∧
      (bytesOf scope.targetId).length ≤ 128 ∧
      (bytesOf scope.targetId).all isPlainByte = true := by
  simp only [valid, Bool.and_eq_true, Bool.not_eq_true', Bool.or_eq_false_iff,
    decide_eq_false_iff_not, Nat.not_lt, Bool.not_eq_false'] at h
  obtain ⟨⟨⟨hlength, hempty⟩, hjourney⟩, ⟨⟨-, htarget⟩, hbytes⟩, hdigest⟩ := h
  have hplain : (bytesOf scope.targetId).all isPlainByte = true := by
    refine List.all_eq_true.mpr fun b hb => ?_
    have hsafe := List.all_eq_true.mp hbytes b hb
    simp only [isAsciiAlphanumeric, isAsciiDigit, isPlainByte, Bool.or_eq_true,
      Bool.and_eq_true, decide_eq_true_eq, beq_iff_eq, bne_iff_ne, ne_eq, UInt8.le_iff_toNat_le,
      UInt8.lt_iff_toNat_lt, ← UInt8.toNat_inj, UInt8.toNat_ofNat] at hsafe ⊢
    omega
  cases hcases : scope.journey.isEmpty with
  | true =>
    simp only [hcases, Bool.true_and, bne_eq_false_iff_eq] at hempty
    refine ⟨hlength, ?_, by omega, hdigest, htarget, hplain⟩
    rw [List.isEmpty_iff.mp hcases]
    exact fun digest hd => absurd hd List.not_mem_nil
  | false =>
    simp only [hcases, Bool.not_false, Bool.true_and, Bool.or_eq_false_iff, bne_eq_false_iff_eq]
      at hjourney
    obtain ⟨hstage, hdigests⟩ := hjourney
    obtain ⟨hlt, -⟩ := List.getElem?_eq_some_iff.mp hstage
    refine ⟨hlength, fun digest hd => ?_, by omega, hdigest, htarget, hplain⟩
    have hnot := List.any_eq_false.mp hdigests digest hd
    simpa using hnot

theorem journey_size (h : ∀ digest ∈ digests, isDigest digest = true) :
    textSize (compact (.ofStrs digests)) ≤ 67 * digests.length + 2 := by
  have hitems (digests : List String) (h : ∀ digest ∈ digests, isDigest digest = true) :
      textSize (compactItems (digests.map .string)) = 67 * digests.length + 1 := by
    induction digests with
    | nil => rfl
    | cons digest digests ih =>
      obtain ⟨hdigest, hrest⟩ := List.forall_mem_cons.mp h
      have hcomma : ','.utf8Size = 1 := rfl
      simp only [List.map_cons, compactItems, compact, textSize_cons, textSize_append,
        digest_size hdigest, ih hrest, hcomma, List.length_cons]
      omega
  cases digests with
  | nil => exact Nat.le_refl _
  | cons digest digests =>
    obtain ⟨hdigest, hrest⟩ := List.forall_mem_cons.mp h
    have hopen : '['.utf8Size = 1 := rfl
    simp only [JsonValue.ofStrs, List.map_cons, compact, textSize_cons, textSize_append,
      digest_size hdigest, hitems digests hrest, hopen, List.length_cons]
    omega

theorem scope_size {scope : PrivateScope} (h : scope.valid = true) :
    textSize (compact (scopeJson scope)) ≤ 1340 := by
  obtain ⟨hlength, hdigests, hstage, hdigest, htarget, hplain⟩ := scope.valid_fields h
  have hjourney := journey_size hdigests
  have hstage := numeral_size (show scope.stage < 10 ^ 2 by omega) (by decide)
  have hnames : textSize (quoted "target_id") = 11 ∧ textSize (quoted "identity_digest") = 17 ∧
      textSize (quoted "journey") = 9 ∧ textSize (quoted "stage") = 7 := by decide
  have hmarks : '\x7b'.utf8Size = 1 ∧ '\x7d'.utf8Size = 1 ∧ ':'.utf8Size = 1 ∧
      ','.utf8Size = 1 := by decide
  simp only [scopeJson, compact, compactFields, textSize_cons, textSize_append, textSize_nil,
    quoted_plain hplain, digest_size hdigest, hnames, hmarks]
  linarith

/-- The record that is written takes 1600 bytes at most. -/
theorem GateState.Sized.encode_length {state : GateState} (h : state.Sized) :
    (gateJson.encode state).length ≤ 1600 := by
  have hscope : textSize (compact (state.scope.elim .null scopeJson)) ≤ 1340 := by
    have hvalid := h.scope
    cases hs : state.scope with
    | none => decide
    | some scope =>
      rw [hs, Option.all_some] at hvalid
      exact scope_size hvalid
  have hclean : textSize (compact (.bool state.clean)) ≤ 5 := by
    cases state.clean <;> decide
  have hdevice := numeral_size (Nat.lt_trans h.device (show 2 ^ 64 < 10 ^ 20 by decide))
    (by decide)
  have hinode := numeral_size (Nat.lt_trans h.inode (show 2 ^ 64 < 10 ^ 20 by decide))
    (by decide)
  have hepoch := digest_size (reference_digest h.epoch)
  have hanchor := digest_size (reference_digest h.anchor)
  have hnames : textSize (quoted "epoch") = 7 ∧ textSize (quoted "clean") = 7 ∧
      textSize (quoted "device") = 8 ∧ textSize (quoted "inode") = 7 ∧
      textSize (quoted "anchor_sha256") = 15 ∧ textSize (quoted "scope") = 7 := by
    decide
  have hmarks : '\x7b'.utf8Size = 1 ∧ '\x7d'.utf8Size = 1 ∧ ':'.utf8Size = 1 ∧
      ','.utf8Size = 1 := by decide
  rw [gateJson, bytesOf_ofList_length, stateJson]
  simp only [compact, compactFields, textSize_cons, textSize_append, textSize_nil, hepoch,
    hanchor, hnames, hmarks]
  linarith

theorem sealEnvelope_length {C : Crypto} (hC : C.Lawful) (hn : nonce.length = 12)
    (h : sealEnvelope C key reference role nonce bytes = some envelope) :
    envelope.length = bytes.length + overhead := by
  simp only [sealEnvelope, Option.map_eq_some_iff] at h
  obtain ⟨c, hc, rfl⟩ := h
  have htag := hC.length_encrypt hc
  simp only [List.length_append, magic_length, hn, htag, overhead]
  omega

end Limit

end AgentBrowser
