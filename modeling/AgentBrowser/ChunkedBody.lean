import AgentBrowser.AsciiLetters
import AgentBrowser.Panics
import AgentBrowser.WireText

namespace AgentBrowser
open Crlf Panics
set_option autoImplicit true

section Decoding

/-- The number that hexadecimal digits of either case spell. -/
def hexNumber (digits : List Char) : Option Nat :=
  digits.foldlM (fun n c => (JsonText.hexValue c).map (16 * n + ·)) 0

/-- `usize::from_str_radix` with radix 16. A plus sign may stand before the digits. -/
def parseHexUsize (text : List Char) : Option Nat :=
  let digits := if text.head? = some '+' then text.tail else text
  if digits = [] then none else (hexNumber digits).filter (· < 2 ^ 64)

/-- The size that a size line names before its extensions. -/
def chunkSize (sizeLine : String) : Option Nat :=
  parseHexUsize (trim (String.ofList ((sizeLine.toList.splitOn ';').headD []))).toList

variable (build : Build)

/-- The data of a chunk of this size with what is after it. Nothing comes after size zero. -/
def readChunk (afterSize : Bytes) (size : Nat) : Result String (Option (Bytes × Bytes)) := do
  if size = 0 then .ok none
  else
    let needed ← add build 64 size 2
    .ensure (needed ≤ afterSize.length) "Truncated chunked DevTools response"
    let data ← sliceTo afterSize size
    let rest ← sliceFrom afterSize size
    .ensure (crlf.isPrefixOf rest) "Malformed chunk terminator in DevTools response"
    let rest ← sliceFrom rest 2
    .ok (some (data, rest))

/-- One turn of the loop. -/
def decodeChunk (rest : Bytes) : Result String (Option (Bytes × Bytes)) := do
  let sizeLineEnd ← .okOr ((takeLine rest).map (·.1.length)) "Malformed chunked DevTools response"
  let header ← sliceTo rest sizeLineEnd
  let sizeLine ← .okOr (fromUtf8 header) "Invalid chunk header encoding in DevTools response"
  let start ← add build 64 sizeLineEnd 2
  let afterSize ← sliceFrom rest start
  let size ← .okOr (chunkSize sizeLine) "Invalid chunk size in DevTools response"
  readChunk build afterSize size

variable {build}

theorem readChunk_shrinks (h : readChunk build afterSize size = .ok (some (data, rest))) :
    rest.length < afterSize.length := by
  unfold readChunk at h
  split at h
  · cases h
  · rename_i hsize
    obtain ⟨_, _, h⟩ := Result.bind_eq_ok.mp h
    obtain ⟨_, _, h⟩ := Result.bind_eq_ok.mp h
    obtain ⟨_, _, h⟩ := Result.bind_eq_ok.mp h
    obtain ⟨after, hafter, h⟩ := Result.bind_eq_ok.mp h
    obtain ⟨_, _, h⟩ := Result.bind_eq_ok.mp h
    obtain ⟨last, hlast, h⟩ := Result.bind_eq_ok.mp h
    obtain ⟨hstart, rfl⟩ := sliceFrom_eq_ok.mp hafter
    obtain ⟨hlength, rfl⟩ := sliceFrom_eq_ok.mp hlast
    cases h
    rw [List.length_drop, List.length_drop] at *
    omega

theorem decodeChunk_shrinks (h : decodeChunk build body = .ok (some (data, rest))) :
    rest.length < body.length := by
  obtain ⟨_, _, h⟩ := Result.bind_eq_ok.mp h
  obtain ⟨_, _, h⟩ := Result.bind_eq_ok.mp h
  obtain ⟨_, _, h⟩ := Result.bind_eq_ok.mp h
  obtain ⟨_, _, h⟩ := Result.bind_eq_ok.mp h
  obtain ⟨after, hafter, h⟩ := Result.bind_eq_ok.mp h
  obtain ⟨_, _, h⟩ := Result.bind_eq_ok.mp h
  obtain ⟨_, rfl⟩ := sliceFrom_eq_ok.mp hafter
  have hshrinks := readChunk_shrinks h
  rw [List.length_drop] at hshrinks
  omega

variable (build)

/-- The loop, with what is decoded so far. -/
def decodeChunks (decoded rest : Bytes) : Result String Bytes :=
  match h : decodeChunk build rest with
  | .ok none => .ok decoded
  | .ok (some (data, after)) =>
    have : after.length < rest.length := decodeChunk_shrinks h
    decodeChunks (decoded ++ data) after
  | .err e => .err e
  | .panic => .panic
termination_by rest.length

def decodeChunkedBody (body : Bytes) : Result String Bytes := decodeChunks build [] body

variable {build}

theorem decodeChunks_eq (decoded rest : Bytes) : decodeChunks build decoded rest =
    match decodeChunk build rest with
    | .ok none => .ok decoded
    | .ok (some (data, after)) => decodeChunks build (decoded ++ data) after
    | .err e => .err e
    | .panic => .panic := by
  rw [decodeChunks]
  split <;> rename_i h <;> simp only [h]

/-- The line names the number, and there is no line end in it. -/
structure SizeLine (line : Bytes) (size : Nat) : Prop where
  plain : ¬ crlf <:+: line
  named : ∃ text, fromUtf8 line = some text ∧ chunkSize text = some size

/-- A chunk as it is sent. -/
structure Chunk where
  line : Bytes
  data : Bytes
  nonempty : data ≠ []
  sized : SizeLine line data.length

def Chunk.wire (chunk : Chunk) : Bytes := chunk.line ++ crlf ++ chunk.data ++ crlf

end Decoding

section Turns
variable {build : Build}

theorem readChunk_fits (hsize : size ≠ 0) (hfits : size + 2 < 2 ^ 64) :
    readChunk build afterSize size =
      if size + 2 ≤ afterSize.length then
        if crlf.isPrefixOf (afterSize.drop size) then
          .ok (some (afterSize.take size, afterSize.drop (size + 2)))
        else .err "Malformed chunk terminator in DevTools response"
      else .err "Truncated chunked DevTools response" := by
  rw [readChunk, if_neg hsize, add, word_of_lt hfits, Result.ok_bind]
  by_cases hlength : size + 2 ≤ afterSize.length
  · rw [if_pos hlength, decide_eq_true hlength, sliceTo, if_pos (by omega), sliceFrom,
      if_pos (by omega)]
    by_cases hend : crlf.isPrefixOf (afterSize.drop size)
    · have hrest : 2 ≤ (afterSize.drop size).length := by
        rw [List.length_drop]
        omega
      rw [if_pos hend, Result.ensure, if_pos rfl, Result.ok_bind, Result.ok_bind, Result.ok_bind,
        Result.ensure, if_pos hend, Result.ok_bind, sliceFrom, if_pos hrest, List.drop_drop]
      rfl
    · rw [if_neg hend, Result.ensure, if_pos rfl, Result.ok_bind, Result.ok_bind, Result.ok_bind,
        Result.ensure, if_neg hend]
      rfl
  · rw [if_neg hlength, decide_eq_false hlength]
    rfl

theorem readChunk_data (hdata : data ≠ []) (hfits : data.length + 2 < 2 ^ 64) :
    readChunk build (data ++ crlf ++ rest) data.length = .ok (some (data, rest)) := by
  have hsize : data.length ≠ 0 := fun h => hdata (List.length_eq_zero_iff.mp h)
  have hlength : data.length + 2 ≤ (data ++ crlf ++ rest).length := by simp [crlf]
  have hdrop : (data ++ crlf ++ rest).drop (data.length + 2) = rest := by
    rw [← List.drop_drop, List.append_assoc, List.drop_left]
    rfl
  have hend : crlf.isPrefixOf ((data ++ crlf ++ rest).drop data.length) := by
    rw [List.append_assoc, List.drop_left]
    exact List.isPrefixOf_iff_prefix.mpr ⟨rest, rfl⟩
  rw [readChunk_fits hsize hfits, if_pos hlength, if_pos hend, hdrop, List.append_assoc,
    List.take_left]

theorem readChunk_truncated (hsize : size ≠ 0) (hfits : size + 2 < 2 ^ 64)
    (h : afterSize.length < size + 2) :
    readChunk build afterSize size = .err "Truncated chunked DevTools response" := by
  rw [readChunk_fits hsize hfits, if_neg (by omega)]

/-- What is read as a chunk is framed as one. -/
theorem readChunk_eq_some (hfits : size + 2 < 2 ^ 64)
    (h : readChunk build afterSize size = .ok (some (data, rest))) :
    afterSize = data ++ crlf ++ rest ∧ data.length = size ∧ data ≠ [] := by
  have hsize : size ≠ 0 := by
    rintro rfl
    cases h
  rw [readChunk_fits hsize hfits] at h
  split at h
  · rename_i hlength
    split at h
    · rename_i hend
      obtain ⟨last, hlast⟩ := List.isPrefixOf_iff_prefix.mp hend
      cases h
      have htake : (afterSize.take size).length = size := by
        rw [List.length_take]
        omega
      refine ⟨?_, htake, fun h => hsize (by rw [← htake, h]; rfl)⟩
      have hrest : afterSize.drop (size + 2) = last := by
        rw [← List.drop_drop, ← hlast]
        rfl
      rw [hrest, List.append_assoc, hlast, List.take_append_drop]
    · cases h
  · cases h

theorem readChunk_returns (hfits : size + 2 < 2 ^ 64) :
    (readChunk build afterSize size).Returns := by
  by_cases hsize : size = 0
  · rw [hsize]
    exact nofun
  · rw [readChunk_fits hsize hfits]
    split
    · split <;> exact nofun
    · exact nofun

theorem readChunk_overflow (h : 2 ^ 64 ≤ size + 2) :
    readChunk .checked afterSize size = .panic := by
  rw [readChunk, if_neg (by omega), add, word_checked h]
  rfl

theorem decodeChunk_unended (h : ¬ crlf <:+: rest) :
    decodeChunk build rest = .err "Malformed chunked DevTools response" := by
  rw [decodeChunk, takeLine_eq_none.mpr h]
  rfl

theorem decodeChunk_line (hplain : ¬ crlf <:+: line)
    (hlength : (line ++ crlf ++ after).length < 2 ^ 63) :
    decodeChunk build (line ++ crlf ++ after) =
      Result.okOr (fromUtf8 line) "Invalid chunk header encoding in DevTools response" >>=
        fun sizeLine =>
          Result.okOr (chunkSize sizeLine) "Invalid chunk size in DevTools response" >>=
            readChunk build after := by
  have hstart : line.length + 2 = (line ++ crlf).length := by simp [crlf]
  have hfits : line.length + 2 < 2 ^ 64 := by
    rw [List.length_append] at hlength
    omega
  rw [decodeChunk, takeLine_append hplain, Option.map_some, Result.okOr, Result.ok_bind,
    List.append_assoc, sliceTo_append, Result.ok_bind, add, word_of_lt hfits, hstart,
    ← List.append_assoc]
  simp only [Result.ok_bind, sliceFrom_append]

theorem decodeChunk_sized (h : SizeLine line size)
    (hlength : (line ++ crlf ++ after).length < 2 ^ 63) :
    decodeChunk build (line ++ crlf ++ after) = readChunk build after size := by
  obtain ⟨text, htext, hsize⟩ := h.named
  rw [decodeChunk_line h.plain hlength, htext, Result.okOr, Result.ok_bind, hsize]
  rfl

end Turns

/-- The chunks end in a size that cannot be raised by the two bytes of the line end. -/
def Overflows (body : Bytes) : Prop :=
  ∃ (chunks : List Chunk) (line rest : Bytes) (size : Nat),
    body = chunks.flatMap Chunk.wire ++ (line ++ crlf ++ rest) ∧ SizeLine line size ∧
      2 ^ 64 ≤ size + 2

section Bodies
variable {build : Build}

theorem Chunk.wire_append (chunk : Chunk) (rest : Bytes) :
    chunk.wire ++ rest = chunk.line ++ crlf ++ (chunk.data ++ crlf ++ rest) := by
  simp only [Chunk.wire, List.append_assoc]

theorem decodeChunk_wire (chunk : Chunk) (hlength : (chunk.wire ++ rest).length < 2 ^ 63) :
    decodeChunk build (chunk.wire ++ rest) = .ok (some (chunk.data, rest)) := by
  have hfits : chunk.data.length + 2 < 2 ^ 64 := by
    simp only [Chunk.wire, crlf, List.length_append, List.length_cons, List.length_nil] at hlength
    omega
  rw [chunk.wire_append] at hlength ⊢
  rw [decodeChunk_sized chunk.sized hlength, readChunk_data chunk.nonempty hfits]

theorem decodeChunks_wires (chunks : List Chunk) (decoded : Bytes)
    (hlength : (chunks.flatMap Chunk.wire ++ rest).length < 2 ^ 63) :
    decodeChunks build decoded (chunks.flatMap Chunk.wire ++ rest) =
      decodeChunks build (decoded ++ chunks.flatMap Chunk.data) rest := by
  induction chunks generalizing decoded with
  | nil => rw [List.flatMap_nil, List.flatMap_nil, List.append_nil, List.nil_append]
  | cons chunk chunks ih =>
    rw [List.flatMap_cons, List.append_assoc] at hlength ⊢
    have hrest : (chunks.flatMap Chunk.wire ++ rest).length < 2 ^ 63 := by
      rw [List.length_append] at hlength
      omega
    rw [decodeChunks_eq, decodeChunk_wire chunk hlength, List.flatMap_cons, ← List.append_assoc]
    exact ih _ hrest

/-- A turn that does not overflow ends with an error, at the end of the body, or with a chunk. -/
theorem decodeChunk_cases (hlength : rest.length < 2 ^ 63) :
    (∃ line after size, rest = line ++ crlf ++ after ∧ SizeLine line size ∧ 2 ^ 64 ≤ size + 2) ∨
      (∃ e, decodeChunk build rest = .err e) ∨ decodeChunk build rest = .ok none ∨
      ∃ (chunk : Chunk) (after : Bytes), rest = chunk.wire ++ after ∧
        decodeChunk build rest = .ok (some (chunk.data, after)) := by
  cases hline : takeLine rest with
  | none => exact .inr (.inl ⟨_, decodeChunk_unended (takeLine_eq_none.mp hline)⟩)
  | some pair =>
    obtain ⟨line, after⟩ := pair
    obtain ⟨rfl, hplain⟩ := takeLine_eq_some.mp hline
    cases htext : fromUtf8 line with
    | none =>
      refine .inr (.inl ⟨"Invalid chunk header encoding in DevTools response", ?_⟩)
      rw [decodeChunk_line hplain hlength, htext]
      rfl
    | some text =>
      cases hsize : chunkSize text with
      | none =>
        refine .inr (.inl ⟨"Invalid chunk size in DevTools response", ?_⟩)
        rw [decodeChunk_line hplain hlength, htext, Result.okOr, Result.ok_bind, hsize]
        rfl
      | some size =>
        have hsized : SizeLine line size := ⟨hplain, text, htext, hsize⟩
        rcases Nat.lt_or_ge (size + 2) (2 ^ 64) with hfits | hover
        · have hread : decodeChunk build _ = _ := decodeChunk_sized hsized hlength
          cases houtcome : readChunk build after size with
          | err e => exact .inr (.inl ⟨e, hread.trans houtcome⟩)
          | panic => exact absurd houtcome (readChunk_returns hfits)
          | ok found =>
            cases found with
            | none => exact .inr (.inr (.inl (hread.trans houtcome)))
            | some pair =>
              obtain ⟨data, last⟩ := pair
              obtain ⟨rfl, rfl, hdata⟩ := readChunk_eq_some hfits houtcome
              refine .inr (.inr (.inr ⟨⟨line, data, hdata, hsized⟩, last, ?_,
                hread.trans houtcome⟩))
              rw [Chunk.wire_append]
        · exact .inl ⟨line, after, size, rfl, hsized, hover⟩

theorem decodeChunks_panics (hlength : rest.length < 2 ^ 63)
    (h : decodeChunks build decoded rest = .panic) : Overflows rest := by
  induction hbound : rest.length using Nat.strong_induction_on generalizing decoded rest with
  | _ bound ih =>
    rw [decodeChunks_eq] at h
    rcases @decodeChunk_cases build rest hlength with
      ⟨line, after, size, hrest, hsized, hover⟩ | ⟨e, herr⟩ | hdone | ⟨chunk, after, hrest, hmore⟩
    · exact ⟨[], line, after, size, hrest, hsized, hover⟩
    · rw [herr] at h
      cases h
    · rw [hdone] at h
      cases h
    · have hshrinks := decodeChunk_shrinks hmore
      rw [hmore] at h
      obtain ⟨chunks, line, last, size, hafter, hover⟩ :=
        ih _ (hbound ▸ hshrinks) (by omega) h rfl
      refine ⟨chunk :: chunks, line, last, size, ?_, hover⟩
      rw [hrest, hafter, List.flatMap_cons]
      simp only [List.append_assoc]

theorem decodeChunkedBody_returns_iff (hlength : body.length < 2 ^ 63) :
    (∀ build, (decodeChunkedBody build body).Returns) ↔ ¬ Overflows body := by
  constructor
  · rintro h ⟨chunks, line, rest, size, rfl, hsized, hover⟩
    refine h .checked ?_
    have hrest : (line ++ crlf ++ rest).length < 2 ^ 63 := by
      rw [List.length_append] at hlength
      omega
    rw [decodeChunkedBody, decodeChunks_wires chunks [] hlength, decodeChunks_eq,
      decodeChunk_sized hsized hrest, readChunk_overflow hover]
  · exact fun h build hpanic => h (decodeChunks_panics hlength hpanic)

theorem decodeChunkedBody_wires (chunks : List Chunk) (hfinal : SizeLine final 0)
    (hlength : (chunks.flatMap Chunk.wire ++ (final ++ crlf ++ rest)).length < 2 ^ 63) :
    decodeChunkedBody build (chunks.flatMap Chunk.wire ++ (final ++ crlf ++ rest)) =
      .ok (chunks.flatMap Chunk.data) := by
  have hrest : (final ++ crlf ++ rest).length < 2 ^ 63 := by
    rw [List.length_append] at hlength
    omega
  rw [decodeChunkedBody, decodeChunks_wires chunks [] hlength, decodeChunks_eq,
    decodeChunk_sized hfinal hrest, List.nil_append]
  rfl

/-- A cut chunk is refused, unless the cut is after it. -/
theorem decodeChunk_cut (chunk : Chunk) (hcut : cut <+: chunk.wire ++ rest)
    (hlength : (chunk.wire ++ rest).length < 2 ^ 63) :
    (∃ e, decodeChunk build cut = .err e) ∨ ∃ after, cut = chunk.wire ++ after ∧ after <+: rest := by
  have hshort := hcut.length_le
  rw [chunk.wire_append] at hcut hlength hshort
  cases hline : takeLine cut with
  | none => exact .inl ⟨_, decodeChunk_unended (takeLine_eq_none.mp hline)⟩
  | some pair =>
    obtain ⟨line, after⟩ := pair
    obtain ⟨rfl, hplain⟩ := takeLine_eq_some.mp hline
    obtain ⟨more, hmore⟩ := hcut
    rw [List.append_assoc _ after more] at hmore
    have hwhole : takeLine (line ++ crlf ++ (after ++ more)) = _ := takeLine_append hplain
    rw [hmore, takeLine_append chunk.sized.plain] at hwhole
    obtain ⟨rfl, hafter⟩ := Prod.mk.inj (Option.some.inj hwhole)
    by_cases hcomplete : after.length < chunk.data.length + 2
    · refine .inl ⟨"Truncated chunked DevTools response", ?_⟩
      rw [decodeChunk_sized chunk.sized (by omega)]
      refine readChunk_truncated (fun h => chunk.nonempty (List.length_eq_zero_iff.mp h)) ?_
        hcomplete
      simp only [List.length_append] at hlength
      omega
    · have hframed : chunk.data ++ crlf <+: after := by
        refine List.prefix_of_prefix_length_le ⟨rest, hafter⟩ ⟨more, rfl⟩ ?_
        simp only [List.length_append, crlf, List.length_cons, List.length_nil]
        omega
      obtain ⟨last, rfl⟩ := hframed
      refine .inr ⟨last, (chunk.wire_append last).symm, more, ?_⟩
      exact (List.append_cancel_left (hafter.trans (List.append_assoc _ _ _))).symm

/-- What stops before the end of the final size line is refused. -/
theorem decodeChunks_cut (chunks : List Chunk) (hfinal : ¬ crlf <:+: final) (decoded : Bytes)
    (hcut : cut <+: chunks.flatMap Chunk.wire ++ (final ++ [13]))
    (hlength : (chunks.flatMap Chunk.wire ++ (final ++ [13])).length < 2 ^ 63) :
    ∃ e, decodeChunks build decoded cut = .err e := by
  induction chunks generalizing decoded cut with
  | nil =>
    have hplain : ¬ crlf <:+: cut := fun h => crlf_infix_snoc hfinal (h.trans hcut.isInfix)
    exact ⟨_, by rw [decodeChunks_eq, decodeChunk_unended hplain]⟩
  | cons chunk chunks ih =>
    rw [List.flatMap_cons, List.append_assoc] at hcut hlength
    rcases @decodeChunk_cut build _ _ chunk hcut hlength with ⟨e, herr⟩ | ⟨after, rfl, hafter⟩
    · exact ⟨e, by rw [decodeChunks_eq, herr]⟩
    · have hshort : (chunk.wire ++ after).length < 2 ^ 63 := hcut.length_le.trans_lt hlength
      rw [decodeChunks_eq, decodeChunk_wire chunk hshort]
      refine ih _ hafter ?_
      rw [List.length_append] at hlength
      omega

end Bodies

section Spelling

theorem upper_cases {c : Char} (h : c.isUpper = true) : ∃ k < 26, c = Char.ofNat (65 + k) := by
  rw [AsciiLetters.isUpper_iff] at h
  refine ⟨c.toNat - 65, by omega, ?_⟩
  rw [Nat.add_sub_cancel' (by omega), Char.ofNat_toNat]

theorem hexValue_toLower (c : Char) : JsonText.hexValue c.toLower = JsonText.hexValue c := by
  cases hupper : c.isUpper with
  | true =>
    obtain ⟨k, hk, rfl⟩ := upper_cases hupper
    have hall : ∀ k : Fin 26, JsonText.hexValue (Char.ofNat (65 + k)).toLower =
        JsonText.hexValue (Char.ofNat (65 + k)) := by decide
    exact hall ⟨k, hk⟩
  | false =>
    rw [AsciiLetters.toLower_eq_self hupper]

/-- The characters that spell hexadecimal numbers. -/
theorem hexValue_range (h : JsonText.hexValue c = some d) :
    48 ≤ c.toNat ∧ c.toNat ≤ 57 ∨ 65 ≤ c.toNat ∧ c.toNat ≤ 70 ∨
      97 ≤ c.toNat ∧ c.toNat ≤ 102 := by
  unfold JsonText.hexValue at h
  split at h
  · rename_i hdigit
    simp only [Char.isDigit, Bool.and_eq_true, decide_eq_true_eq, UInt32.le_iff_toNat_le] at hdigit
    exact .inl hdigit
  · split at h
    · rename_i hlower
      exact .inr (.inr hlower)
    · split at h
      · rename_i hupper
        exact .inr (.inl hupper)
      · cases h

theorem hexNumber_concat (digits : List Char) (c : Char) : hexNumber (digits ++ [c]) =
    (hexNumber digits).bind fun n => (JsonText.hexValue c).map (16 * n + ·) := by
  rw [hexNumber, List.foldlM_append]
  cases h : digits.foldlM (fun n c => (JsonText.hexValue c).map (16 * n + ·)) 0 with
  | none => simp [hexNumber, h]
  | some n => simp [hexNumber, h]

theorem hexNumber_toLower (digits : List Char) :
    hexNumber (digits.map Char.toLower) = hexNumber digits := by
  rw [hexNumber, List.foldlM_map]
  simp only [hexValue_toLower]
  rfl

theorem hexNumber_zeros (zeros : Nat) : hexNumber (List.replicate zeros '0') = some 0 := by
  induction zeros with
  | zero => rfl
  | succ zeros ih =>
    rw [List.replicate_succ', hexNumber_concat, ih]
    rfl

theorem hexNumber_toDigits (zeros n : Nat) :
    hexNumber (List.replicate zeros '0' ++ Nat.toDigits 16 n) = some n := by
  induction n using Nat.strong_induction_on with
  | _ n ih =>
    rcases Nat.lt_or_ge n 16 with hsmall | hlarge
    · rw [Nat.toDigits_of_lt_base hsmall, hexNumber_concat, hexNumber_zeros, Option.bind_some,
        JsonText.hexValue_digitChar hsmall]
      simp
    · rw [Nat.toDigits_of_base_le (by decide) hlarge, ← List.append_assoc, hexNumber_concat,
        ih _ (Nat.div_lt_self (by omega) (by decide)), Option.bind_some,
        JsonText.hexValue_digitChar (Nat.mod_lt n (by decide)), Option.map_some, Nat.div_add_mod]

theorem hexValue_of_hexNumber (h : hexNumber digits = some n) :
    ∀ c ∈ digits, ∃ d, JsonText.hexValue c = some d := by
  induction digits using List.reverseRecOn generalizing n with
  | nil => exact fun _ hc => absurd hc List.not_mem_nil
  | append_singleton digits last ih =>
    rw [hexNumber_concat] at h
    obtain ⟨m, hm, h⟩ := Option.bind_eq_some_iff.mp h
    obtain ⟨d, hd, _⟩ := Option.map_eq_some_iff.mp h
    intro c hc
    rcases List.mem_append.mp hc with hc | hc
    · exact ih hm c hc
    · obtain rfl := List.mem_singleton.mp hc
      exact ⟨d, hd⟩

/-- A text that spells the number in hexadecimal digits of either case. -/
def SpellsHex (digits : List Char) (n : Nat) : Prop :=
  ∃ zeros, digits.map Char.toLower = List.replicate zeros '0' ++ Nat.toDigits 16 n

theorem SpellsHex.number (h : SpellsHex digits n) : hexNumber digits = some n := by
  obtain ⟨zeros, hzeros⟩ := h
  rw [← hexNumber_toLower, hzeros, hexNumber_toDigits]

theorem SpellsHex.code (h : SpellsHex digits n) (hc : c ∈ digits) :
    48 ≤ c.toNat ∧ c.toNat ≤ 57 ∨ 65 ≤ c.toNat ∧ c.toNat ≤ 70 ∨
      97 ≤ c.toNat ∧ c.toNat ≤ 102 := by
  obtain ⟨d, hd⟩ := hexValue_of_hexNumber h.number c hc
  exact hexValue_range hd

theorem SpellsHex.not_mem (h : SpellsHex digits n)
    (hc : ¬ (48 ≤ c.toNat ∧ c.toNat ≤ 57 ∨ 65 ≤ c.toNat ∧ c.toNat ≤ 70 ∨
      97 ≤ c.toNat ∧ c.toNat ≤ 102)) : c ∉ digits := fun hmem => hc (h.code hmem)

theorem parseHexUsize_spelled (h : SpellsHex digits n) (hn : n < 2 ^ 64) :
    parseHexUsize digits = some n := by
  have hplus : digits.head? ≠ some '+' := fun hhead =>
    h.not_mem (by decide) (List.mem_of_head? hhead)
  have hdigits : digits ≠ [] := by
    rintro rfl
    obtain ⟨zeros, hzeros⟩ := h
    exact Nat.toDigits_ne_nil (List.append_eq_nil_iff.mp hzeros.symm).2
  rw [parseHexUsize, if_neg hplus, if_neg hdigits, h.number, Option.filter_some, if_pos]
  exact decide_eq_true hn

theorem chunkSize_spelled (h : SpellsHex digits n) (hn : n < 2 ^ 64)
    (hextension : extension.toList = [] ∨ extension.toList.head? = some ';') :
    chunkSize (String.ofList digits ++ extension) = some n := by
  have hmark : ';' ∉ digits := h.not_mem (by decide)
  have hhead : ((String.ofList digits ++ extension).toList.splitOn ';').headD [] = digits := by
    rw [String.toList_append, String.toList_ofList]
    rcases hextension with hnone | hsome
    · rw [hnone, List.append_nil, List.splitOn_eq_singleton hmark]
      rfl
    · obtain ⟨rest, hrest⟩ := List.head?_eq_some_iff.mp hsome
      rw [hrest, List.splitOn_append_cons_self_of_not_mem hmark]
      rfl
  have hblank : ∀ c ∈ (String.ofList digits).toList, isWhiteSpace c = false := by
    intro c hc
    have hcode := h.code (String.toList_ofList ▸ hc)
    simp only [isWhiteSpace, Bool.or_eq_false_iff, Bool.and_eq_false_iff, decide_eq_false_iff_not]
    omega
  rw [chunkSize, hhead, trim_eq_self hblank, String.toList_ofList, parseHexUsize_spelled h hn]

/-- A size line as it is sent: digits of either case, and the extensions, if there are any. -/
theorem sizeLine_spelled (h : SpellsHex digits n) (hn : n < 2 ^ 64)
    (hextension : extension.toList = [] ∨ extension.toList.head? = some ';')
    (hplain : ¬ ['\r', '\n'] <:+: extension.toList) :
    SizeLine (bytesOf (String.ofList digits ++ extension)) n := by
  refine ⟨fun hinfix => ?_, _, fromUtf8_bytesOf _, chunkSize_spelled h hn hextension⟩
  rw [bytesOf_append] at hinfix
  have hdigits : 13 ∉ bytesOf (String.ofList digits) := fun hmem => by
    have hcr := cr_mem_of_mem_bytesOf hmem
    rw [String.toList_ofList] at hcr
    exact h.not_mem (by decide) hcr
  exact hplain (crlf_infix_bytesOf.mp (crlf_infix_of_append hdigits hinfix))

end Spelling

section Encoding

/-- A size line as it is sent. -/
structure SizeHeader (size : Nat) where
  digits : List Char
  extension : String := ""
  spelled : SpellsHex digits size
  marked : extension.toList = [] ∨ extension.toList.head? = some ';'
  plain : ¬ ['\r', '\n'] <:+: extension.toList

def SizeHeader.line (header : SizeHeader size) : Bytes :=
  bytesOf (String.ofList header.digits ++ header.extension)

/-- A chunk to be sent. Memory holds no more than `isize::MAX` bytes. -/
structure SentChunk where
  data : Bytes
  nonempty : data ≠ []
  fits : data.length < 2 ^ 63
  header : SizeHeader data.length

def SentChunk.framed (chunk : SentChunk) : Chunk where
  line := chunk.header.line
  data := chunk.data
  nonempty := chunk.nonempty
  sized := sizeLine_spelled chunk.header.spelled (chunk.fits.trans (by decide))
    chunk.header.marked chunk.header.plain

def chunksWire (chunks : List SentChunk) : Bytes := chunks.flatMap fun chunk => chunk.framed.wire

end Encoding

/-- A body is decoded without a stop unless its chunks end in a size that cannot be raised by two.
What was sent in chunks is decoded, and a part of it that ends before the last size line is
refused. -/
theorem chunked_body_decoding (body : Bytes) :
    (body.length < 2 ^ 63 →
      ((∀ build, (decodeChunkedBody build body).Returns) ↔ ¬ Overflows body)) ∧
    ∀ (build : Build) (chunks : List SentChunk) (final : SizeHeader 0) (trailer : Bytes),
      (chunksWire chunks ++ (final.line ++ crlf ++ trailer)).length < 2 ^ 63 →
      decodeChunkedBody build (chunksWire chunks ++ (final.line ++ crlf ++ trailer)) =
        .ok (chunks.flatMap SentChunk.data) ∧
      ∀ cut, cut <+: chunksWire chunks ++ (final.line ++ [13]) →
        ∃ e, decodeChunkedBody build cut = .err e := by
  refine ⟨decodeChunkedBody_returns_iff, fun build chunks final trailer hlength => ?_⟩
  have hfinal : SizeLine final.line 0 :=
    sizeLine_spelled final.spelled (by decide) final.marked final.plain
  have hwire : chunksWire chunks = (chunks.map SentChunk.framed).flatMap Chunk.wire := by
    rw [chunksWire, List.flatMap_map]
  have hdata : chunks.flatMap SentChunk.data =
      (chunks.map SentChunk.framed).flatMap Chunk.data := by
    rw [List.flatMap_map]
    rfl
  rw [hwire] at hlength ⊢
  refine ⟨hdata ▸ decodeChunkedBody_wires _ hfinal hlength, fun cut hcut => ?_⟩
  refine decodeChunks_cut _ hfinal.plain [] hcut ?_
  simp only [List.length_append, crlf, List.length_cons, List.length_nil] at hlength ⊢
  omega

/-- A page whose title is cut inside of a character. -/
def splitTitle : List SentChunk :=
  [⟨[0x22, 0x63, 0x61, 0x66, 0x22, 0x2c, 0x0d, 0x0a, 0x30, 0xc3], by decide, by decide,
      ⟨['A'], ";part=1", ⟨0, by decide⟩, by decide, by decide⟩⟩,
    ⟨[0xa9], by decide, by decide, ⟨['0', '1'], "", ⟨1, by decide⟩, by decide, by decide⟩⟩]

def lastHeader : SizeHeader 0 := ⟨['0'], "", ⟨0, by decide⟩, by decide, by decide⟩

theorem chunked_body_decoding_split :
    decodeChunkedBody .wrapping (chunksWire splitTitle ++ (lastHeader.line ++ crlf ++ crlf)) =
      .ok [0x22, 0x63, 0x61, 0x66, 0x22, 0x2c, 0x0d, 0x0a, 0x30, 0xc3, 0xa9] ∧
    ∃ e, decodeChunkedBody .wrapping ((chunksWire splitTitle).take 12) = .err e := by
  obtain ⟨_, hsent⟩ := chunked_body_decoding []
  obtain ⟨hdecoded, hcut⟩ := hsent .wrapping splitTitle lastHeader crlf (by decide)
  refine ⟨hdecoded, hcut _ ?_⟩
  exact (List.take_prefix _ _).trans (List.prefix_append _ _)

def maxSizeBody : Bytes := List.replicate 16 102 ++ crlf ++ [120]

/-- The largest size stops the decoding, whether the overflow is checked or not. -/
theorem chunked_body_stops : ¬ ∃ build, (decodeChunkedBody build maxSizeBody).Returns := by
  rintro ⟨build, hreturns⟩
  have hline : bytesOf (String.ofList (List.replicate 16 'f') ++ "") = List.replicate 16 102 := by
    decide
  have hsized : SizeLine (List.replicate 16 102) (2 ^ 64 - 1) :=
    hline ▸ sizeLine_spelled ⟨0, by decide⟩ (by decide) (by decide) (by decide)
  refine hreturns ?_
  rw [decodeChunkedBody, maxSizeBody, decodeChunks_eq, decodeChunk_sized hsized (by decide)]
  cases build <;> rfl

end AgentBrowser
