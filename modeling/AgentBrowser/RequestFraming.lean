import AgentBrowser.RequestHead

namespace AgentBrowser
open Panics
set_option autoImplicit true

section Head
variable {field : List Char}

/-- The lines before the one that is read have to be unbroken, and that one is. -/
theorem firstField_eq (hfield : FieldName field) (lines : List (List Char)) :
    firstField field lines =
      if (lines.takeWhile fun line => (spacedValue field line).isNone).all
          (unbroken (field.length + 2)) then
        .ok ((lines.findSome? (spacedValue field)).map fun value => trim (.ofList value))
      else .panic := by
  induction lines with
  | nil => rfl
  | cons line later ih =>
    rw [firstField, fieldLine_eq hfield, List.findSome?_cons]
    cases hvalue : spacedValue field line with
    | some value =>
      have hwhole : unbroken (field.length + 2) line = true := by
        obtain ⟨_, hsplit, _⟩ := spacedValue_splits hfield hvalue
        simp [unbroken, hsplit]
      rw [List.takeWhile_cons_of_neg (by simp [hvalue]), hwhole]
      rfl
    | none =>
      rw [List.takeWhile_cons_of_pos (by simp [hvalue]), List.all_cons]
      cases hwhole : unbroken (field.length + 2) line with
      | false => rfl
      | true =>
        rw [if_pos rfl, Bool.true_and, ← ih]
        rfl

/-- What is read of a field is its value exactly if the field is legible. -/
theorem firstField_legible (hfield : FieldName field) (read : String → Option α)
    (lines : List (List Char)) :
    (firstField field lines >>= fun value => .ok (value.bind read)) =
        .ok ((fieldValue field lines).bind read) ↔
      Legible read field lines := by
  rw [firstField_eq hfield]
  constructor
  · intro h
    split at h
    · rename_i hall
      refine ⟨fun line hline => List.all_eq_true.mp hall line hline, ?_⟩
      rw [Result.ok_bind, Result.ok.injEq, Option.bind_map] at h
      exact h
    · cases h
  · rintro ⟨hunbroken, hvalue⟩
    rw [if_pos (List.all_eq_true.mpr hunbroken), Result.ok_bind, Option.bind_map]
    exact congrArg _ hvalue

theorem dropWhile_space {space text : List Char} (h : space.all isWhiteSpace = true) :
    (space ++ text).dropWhile isWhiteSpace = text.dropWhile isWhiteSpace := by
  rw [List.dropWhile_append_of_pos (List.all_eq_true.mp h)]

theorem trim_space {space text : List Char} (h : space.all isWhiteSpace = true) :
    trim (.ofList (space ++ text)) = trim (.ofList text) := by
  simp only [trim, String.toList_ofList, dropWhile_space h]

/-- The value of a field is that of its respelled lines. -/
theorem fieldValue_respelled (hfield : FieldName field) {lines lines' : List (List Char)}
    (h : List.Forall₂ (Respelled field) lines lines') :
    fieldValue field lines = fieldValue field lines' := by
  induction h with
  | nil => rfl
  | cons hline _ ih =>
    cases hline with
    | same =>
      rename_i line _ _ _
      simp only [fieldValue, List.findSome?_cons] at ih ⊢
      cases namedValue field line with
      | none => exact ih
      | some value => rfl
    | named hname hname' hspace hspace' =>
      simp only [fieldValue, List.findSome?_cons,
        (namedValue_eq_some hfield).mpr ⟨_, rfl, hname⟩,
        (namedValue_eq_some hfield).mpr ⟨_, rfl, hname'⟩, Option.map_some, trim_space hspace,
        trim_space hspace']

theorem originField_name : FieldName originField :=
  ⟨fun c hc => of_decide_eq_true (List.all_eq_true.mp (by decide :
    originField.all (fun c => decide (c.toNat < 128)) = true) c hc), by decide⟩

theorem contentLengthField_name : FieldName contentLengthField :=
  ⟨fun c hc => of_decide_eq_true (List.all_eq_true.mp (by decide :
    contentLengthField.all (fun c => decide (c.toNat < 128)) = true) c hc), by decide⟩

theorem parseOrigin_legible (peeked : Bytes) :
    parseOrigin peeked = .ok (fieldValue originField (headerLines peeked)) ↔
      Legible some originField (headerLines peeked) := by
  rw [← firstField_legible originField_name]
  have hsome : ∀ value : Option String, value.bind some = value := fun value => by
    cases value <;> rfl
  simp only [hsome]
  rw [parseOrigin]
  cases firstField originField (headerLines peeked) <;> rfl

theorem parseContentLength_legible (head : Bytes) :
    parseContentLengthBytes head = .ok ((fieldValue contentLengthField (headerLines head)).bind
        fun value => parseUnsigned 64 value.toList) ↔
      Legible (fun value => parseUnsigned 64 value.toList) contentLengthField
        (headerLines head) :=
  firstField_legible contentLengthField_name _ _

end Head

section Bodies

theorem bytesOf_of_fromUtf8 {bytes : Bytes} (h : fromUtf8 bytes = some text) :
    bytesOf text = bytes := by
  rw [fromUtf8, String.fromUTF8?] at h
  split at h
  · cases h
    simp [bytesOf, String.fromUTF8]
  · cases h

/-- What the reader takes for the body, of a length that it has read right. -/
theorem readFullBody_eq (hlength : ∀ bodyOffset, findHeaderEnd peeked = some bodyOffset →
    parseContentLengthBytes (peeked.take bodyOffset) =
      .ok ((fieldValue contentLengthField (headerLines (peeked.take bodyOffset))).bind fun value =>
        parseUnsigned 64 value.toList)) (later : Bytes) :
    readFullBody peeked later = .ok ((announcedLength peeked).bind
      fun (bodyOffset, contentLength) =>
        let sent := peeked.drop bodyOffset ++ later
        if contentLength ≤ sent.length then fromUtf8 (sent.take contentLength)
        else fromUtf8 (peeked.drop bodyOffset)) := by
  cases hend : findHeaderEnd peeked with
  | none => simp [readFullBody, announcedLength, hend]
  | some bodyOffset =>
    have hread := hlength bodyOffset hend
    simp only [readFullBody, announcedLength, hend, hread, Result.ok_bind, Option.bind_eq_bind,
      Option.bind_some]
    cases hvalue : fieldValue contentLengthField (headerLines (peeked.take bodyOffset)) with
    | none => rfl
    | some value =>
      simp only [Option.bind_some]
      cases hnumber : parseUnsigned 64 value.toList with
      | none => rfl
      | some contentLength =>
        simp only [Option.bind_some]
        by_cases hzero : contentLength = 0
        · subst hzero
          have hempty : fromUtf8 [] = some "" := fromUtf8_bytesOf ""
          simp [hempty]
        · rw [if_neg hzero]
          by_cases hlarge : maxBodySize < contentLength
          · rw [if_pos hlarge]
            simp [guard, Nat.not_le.mpr hlarge]
          · rw [if_neg hlarge]
            simp only [guard, Nat.not_lt.mp hlarge, if_true, Option.pure_def, Option.bind_some,
              List.length_take]
            by_cases hall : contentLength ≤ (peeked.drop bodyOffset).length
            · rw [Nat.min_eq_left hall, Nat.sub_self, if_neg (Nat.lt_irrefl 0), if_pos,
                List.take_append_of_le_length hall]
              rw [List.length_append]
              omega
            · have hshort : (peeked.drop bodyOffset).length < contentLength := Nat.not_le.mp hall
              rw [Nat.min_eq_right hshort.le, if_pos (Nat.sub_pos_of_lt hshort),
                List.take_of_length_le hshort.le]
              by_cases hclosed : later.length < contentLength - (peeked.drop bodyOffset).length
              · rw [if_pos hclosed, if_neg]
                rw [List.length_append]
                omega
              · rw [if_neg hclosed, if_pos, List.take_append, List.take_of_length_le hshort.le]
                rw [List.length_append]
                omega

/-- The routes get the announced body exactly if it is there. -/
theorem postBody_sound (hread : readFullBody peeked later = .ok ((announcedLength peeked).bind
      fun (bodyOffset, contentLength) =>
        let sent := peeked.drop bodyOffset ++ later
        if contentLength ≤ sent.length then fromUtf8 (sent.take contentLength)
        else fromUtf8 (peeked.drop bodyOffset))) :
    (∀ body, postBody path peeked later = .ok (.act body) → Announced peeked later body) ↔
      BodyThere path peeked later := by
  simp only [postBody, hread, Result.ok_bind, BodyThere, Announced]
  cases hlength : announcedLength peeked with
  | none =>
    cases hneeds : needsBody path with
    | true => simp
    | false => simp
  | some parts =>
    obtain ⟨bodyOffset, contentLength⟩ := parts
    simp only [Option.bind_some, Option.some.injEq, Prod.mk.injEq, existsAndEq, true_and]
    generalize hsent : peeked.drop bodyOffset ++ later = sent
    by_cases hall : contentLength ≤ sent.length
    · simp only [if_pos hall]
      cases htext : fromUtf8 (sent.take contentLength) with
      | some text =>
        simp [bytesOf_of_fromUtf8 htext, hall]
      | none =>
        cases hneeds : needsBody path with
        | true => simp
        | false =>
          simp only [Option.isNone_none, Bool.and_false, Bool.false_eq_true, if_false,
            Option.getD_none, Result.ok.injEq, PostStep.act.injEq, forall_eq', Option.isSome_none,
            or_self, iff_false]
          rintro ⟨_, hbytes⟩
          rw [← hbytes, fromUtf8_bytesOf] at htext
          cases htext
    · simp only [if_neg hall]
      cases htext : fromUtf8 (peeked.drop bodyOffset) with
      | some text => simp [hall]
      | none =>
        cases hneeds : needsBody path with
        | true => simp
        | false => simp [hall]

end Bodies

/-- A header value does not depend on the case of the name or the white space after the colon,
and a `POST` is framed by such values exactly if both fields are legible, so that no character is
in the way of a slice and a space stands after the colon, and the announced body is there. -/
theorem request_framing (path : String) (peeked later : Bytes) :
    (∀ field, FieldName field → ∀ lines lines',
      List.Forall₂ (Respelled field) lines lines' →
        fieldValue field lines = fieldValue field lines') ∧
    (Framed path peeked later ↔
      Legible some originField (headerLines peeked) ∧
      (∀ bodyOffset, findHeaderEnd peeked = some bodyOffset →
        Legible (fun value => parseUnsigned 64 value.toList) contentLengthField
          (headerLines (peeked.take bodyOffset))) ∧
      BodyThere path peeked later) := by
  refine ⟨fun field hfield _ _ h => fieldValue_respelled hfield h, ?_⟩
  constructor
  · rintro ⟨horigin, hlength, _, hbody⟩
    have hread := readFullBody_eq hlength later
    exact ⟨(parseOrigin_legible _).mp horigin,
      fun bodyOffset hend => (parseContentLength_legible _).mp (hlength bodyOffset hend),
      (postBody_sound hread).mp hbody⟩
  · rintro ⟨horigin, hlength, hbody⟩
    have hvalues := fun bodyOffset hend =>
      (parseContentLength_legible _).mpr (hlength bodyOffset hend)
    have hread := readFullBody_eq hvalues later
    refine ⟨(parseOrigin_legible _).mpr horigin, hvalues, ?_, (postBody_sound hread).mpr hbody⟩
    simp only [postBody, hread, Result.ok_bind]
    split
    · exact fun h => by cases h
    · exact fun h => by cases h

/-- The connection is closed after two of nine bytes, and the route gets these two. -/
theorem short_body_is_acted_on : ¬ ∀ path peeked later, Framed path peeked later := by
  intro h
  have hbody := (h "/api/command"
    (bytesOf "POST /api/command HTTP/1.1\r\nContent-Length: 9\r\n\r\n\x7b\x7d") []).body "\x7b\x7d"
      (by decide)
  obtain ⟨bodyOffset, contentLength, hlength, hthere, _⟩ := hbody
  have hannounced : announcedLength
      (bytesOf "POST /api/command HTTP/1.1\r\nContent-Length: 9\r\n\r\n\x7b\x7d") = some (49, 9) := by
    decide
  rw [hannounced] at hlength
  cases hlength
  revert hthere
  decide

end AgentBrowser
