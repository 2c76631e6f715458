import AgentBrowser.ConfirmationSteps

namespace AgentBrowser
open Durable
set_option autoImplicit true

theorem mem_insertId {x a : String} : ∀ {l : List String}, x ∈ insertId a l ↔ x = a ∨ x ∈ l := by
  intro l
  induction l with
  | nil => simp [insertId]
  | cons b l ih =>
    simp only [insertId]
    split
    · simp
    · split
      · rename_i he
        subst he
        simp
      · simp only [List.mem_cons, ih]
        tauto

theorem mem_foldl_insertId {x : String} (ids l : List String) :
    x ∈ ids.foldl (fun l a => insertId a l) l ↔ x ∈ ids ∨ x ∈ l := by
  induction ids generalizing l with
  | nil => simp
  | cons a ids ih =>
    simp only [List.foldl_cons, ih, mem_insertId, List.mem_cons]
    tauto

theorem mem_insertNewIds {ids known known' : List String}
    (h : insertNewIds message ids known = .ok known') (x : String) :
    x ∈ known' ↔ x ∈ ids ∨ x ∈ known := by
  induction ids generalizing known with
  | nil =>
    cases h
    simp
  | cons a ids ih =>
    simp only [insertNewIds, Except.bind_eq_ok] at h
    obtain ⟨_, _, h⟩ := h
    rw [ih h, mem_insertId, List.mem_cons]
    tauto

/-- What was loaded covers every retired id. -/
structure LoadedFrom (s : AuthorityStore) (session : String)
    (loaded : LoadedConfirmationTombstones) : Prop where
  ids : ∀ id, Retired s session id → id ∈ loaded.confirmationIds
  base : ∀ id, Retired s session id → RetiredIn s session loaded.base id
  count : ∀ manifest, s.lookup (confirmationTombstonesPath session) = some (.manifest manifest) →
    manifest.segmentCount ≤ loaded.base.segmentCount

section Tombstones
variable {E : AuthorityEnv} {session : String} {s : AuthorityStore}
  {G : AuthorityStore → AuthorityStore → Prop}

theorem readDoc_then {kind : Doc → Option α} {con : α → Doc} {path : Path}
    {T : Except Failure β → AuthorityStore → Prop} {f : α → AuthorityProg β}
    (hk : ∀ doc a, kind doc = some a → doc = con a)
    (he : ∀ e : Failure, e.OfStore → T (.error e) s)
    (h : ∀ a, s.lookup path = some (con a) → Does G T (f a) s) :
    Does G T (readDoc kind path label invalid >>= f) s := by
  have hread : Does G (Outcome (fun a t => t = s ∧ s.lookup path = some (con a))
      fun e t => t = s ∧ e.OfStore) (readDoc kind path label invalid) s := by
    apply readFile_then
    · exact ⟨rfl, trivial⟩
    intro doc hdoc
    cases hd : kind doc with
    | none => exact .fail ⟨rfl, trivial⟩
    | some a => exact .pure ⟨rfl, hk doc a hd ▸ hdoc⟩
  apply hread.bind
  · intro a t ht
    exact ht.1 ▸ h a ht.2
  · intro e t ht
    exact ht.1 ▸ he e ht.2

theorem segment_of_segment? {doc : Doc} {segment : ConfirmationTombstoneSegment}
    (h : doc.segment? = some segment) : doc = .segment segment := by
  cases doc <;> simp only [Doc.segment?, reduceCtorEq, Option.some.injEq] at h
  rw [h]

/-- The loop over the segments collects the ids of each. -/
theorem loadSegments_does (left index : Nat) (previous : Option String) (known : List String) :
    Does G (Outcome
        (fun loaded t => t = s ∧ (∀ id ∈ known, id ∈ loaded.2) ∧
          ∀ i : UInt64, index ≤ i.toNat → i.toNat < index + left → ∀ segment,
            s.lookup (confirmationTombstoneSegmentPath session i) = some (.segment segment) →
            ∀ id ∈ segment.confirmationIds, id ∈ loaded.2)
        fun _ t => t = s)
      (loadSegments E session capacity left index previous known) s := by
  induction left generalizing index previous known with
  | zero => exact .pure ⟨rfl, fun _ h => h, fun i hlo hhi => absurd hlo (by omega)⟩
  | succ left ih =>
    apply readDoc_then fun _ _ => segment_of_segment?
    · exact fun _ _ => rfl
    intro segment hsegment
    apply Prog.Alone.ensure_then
    · exact fun _ => rfl
    intro _
    apply orConflict_then
    · exact fun _ _ => rfl
    intro known' hknown
    apply (ih (index + 1) _ known').mono
    intro r t hr
    cases r with
    | error e => exact hr
    | ok loaded =>
      obtain ⟨ht, hkept, hrest⟩ := hr
      refine ⟨ht, ?_, ?_⟩
      · intro id hid
        exact hkept id ((mem_insertNewIds hknown id).mpr (.inr hid))
      · intro i hlo hhi segment' hl id hid
        by_cases hi : i.toNat = index
        · rw [← hi, UInt64.ofNat_toNat, hl] at hsegment
          cases hsegment
          exact hkept id ((mem_insertNewIds hknown id).mpr (.inl hid))
        · exact hrest i (by omega) (by omega) segment' hl id hid

theorem loadManifest_does
    (hm : s.lookup (confirmationTombstonesPath session) = some (.manifest manifest)) :
    Does G (Outcome (fun loaded t => t = s ∧ LoadedFrom s session loaded) fun _ t => t = s)
      (loadManifest E session manifest) s := by
  apply Prog.Alone.ensure_then
  · exact fun _ => rfl
  intro _
  apply Prog.Alone.bind (loadSegments_does _ _ _ _)
  swap
  · exact fun _ _ ht => ht
  intro segments t ht
  obtain ⟨rfl, _, hsegments⟩ := ht
  apply Prog.Alone.ensure_then
  · exact fun _ => rfl
  intro _
  apply orConflict_then
  · exact fun _ _ => rfl
  intro known hknown
  apply Prog.Alone.ensure_then
  · exact fun _ => rfl
  intro _
  refine .pure ⟨rfl, ?_, ?_, ?_⟩
  · intro id hid
    rw [mem_insertNewIds hknown]
    rcases hid with ⟨manifest', hl, hid⟩ | ⟨legacy, hl, _⟩
    · rw [hm] at hl
      cases hl
      apply hid.imp_right
      intro hid
      obtain ⟨i, hlt, segment, hseg, hid⟩ := hid
      exact hsegments i (Nat.zero_le _) (by simpa using UInt64.lt_iff_toNat_lt.mp hlt) segment hseg
        id hid
    · rw [hm] at hl
      cases hl
  · intro id hid
    rcases hid with ⟨manifest', hl, hid⟩ | ⟨legacy, hl, _⟩
    · rw [hm] at hl
      cases hl
      exact hid
    · rw [hm] at hl
      cases hl
  · intro manifest' hl
    rw [hm] at hl
    cases hl
    exact UInt64.le_refl _

theorem loadConfirmationTombstones_does :
    Does G (Outcome (fun loaded t => t = s ∧ LoadedFrom s session loaded) fun _ t => t = s)
      (loadConfirmationTombstones E session) s := by
  apply pathExists_then
  cases hl : s.lookup (confirmationTombstonesPath session) with
  | none =>
    have hnone (id : String) : ¬ Retired s session id := by
      intro hid
      rcases hid with ⟨manifest, hm, _⟩ | ⟨legacy, hm, _⟩ <;>
      · rw [hl] at hm
        cases hm
    refine .pure ⟨rfl, fun id hid => absurd hid (hnone id), fun id hid => absurd hid (hnone id),
      ?_⟩
    intro manifest hm
    rw [hl] at hm
    cases hm
  | some doc =>
    apply readFile_then
    · exact rfl
    intro doc' hl'
    rw [hl] at hl'
    cases hl'
    cases doc with
    | legacyTombstones legacy =>
      refine .pure ⟨rfl, ?_, ?_, ?_⟩
      · intro id hid
        rcases hid with ⟨manifest, hm, _⟩ | ⟨legacy', hm, hid⟩
        · rw [hl] at hm
          cases hm
        · rw [hl] at hm
          cases hm
          exact hid
      · intro id hid
        rcases hid with ⟨manifest, hm, _⟩ | ⟨legacy', hm, hid⟩
        · rw [hl] at hm
          cases hm
        · rw [hl] at hm
          cases hm
          exact .inl hid
      · intro manifest hm
        rw [hl] at hm
        cases hm
    | manifest manifest => exact loadManifest_does hl
    | ledger | issuance | confirmation | segment => exact .fail rfl

theorem loadConfirmationTombstones_then
    {T : Except Failure β → AuthorityStore → Prop}
    {f : LoadedConfirmationTombstones → AuthorityProg β}
    (he : ∀ e, T (.error e) s) (h : ∀ loaded, LoadedFrom s session loaded → Does G T (f loaded) s) :
    Does G T (loadConfirmationTombstones E session >>= f) s := by
  apply Prog.Alone.bind loadConfirmationTombstones_does
  · intro loaded t ht
    exact ht.1 ▸ h loaded ht.2
  · intro e t ht
    exact ht ▸ he e

/-- What writing the tombstones leaves alone. -/
structure TombstonesOnly (s t : AuthorityStore) (session : String) : Prop where
  pending : t.lookup (pendingConfirmationPath session) = s.lookup (pendingConfirmationPath session)
  receipts : ∀ name, t.lookup (confirmationReceiptsDir session ++ [name]) =
    s.lookup (confirmationReceiptsDir session ++ [name])

/-- Full segments are written beyond those in use, and no id of the manifest is lost. -/
theorem flushSegments_does (fuel : Nat) (manifest : ConfirmationTombstoneManifest)
    (hc : ∀ old, s.lookup (confirmationTombstonesPath session) = some (.manifest old) →
      old.segmentCount ≤ manifest.segmentCount) :
    Does (ConfirmationStep session) (Outcome
        (fun flushed t => TombstonesOnly s t session ∧
          t.lookup (confirmationTombstonesPath session) =
            s.lookup (confirmationTombstonesPath session) ∧
          (∀ i, i < manifest.segmentCount →
            t.lookup (confirmationTombstoneSegmentPath session i) =
              s.lookup (confirmationTombstoneSegmentPath session i)) ∧
          ∀ id, RetiredIn s session manifest id → RetiredIn t session flushed id)
        fun _ _ => True)
      (flushSegments E session fuel manifest) s := by
  induction fuel generalizing manifest s with
  | zero => exact .pure ⟨⟨rfl, fun _ => rfl⟩, rfl, fun _ _ => rfl, fun _ h => h⟩
  | succ fuel ih =>
    simp only [flushSegments]
    split
    · apply utcNow_then
      intro now _ _
      apply writePrivateJson_then
      · exact .segment manifest.segmentCount _ hc
      · trivial
      apply Prog.Alone.okOr_then
      · exact fun _ => trivial
      intro count hcount
      have hnat := checkedAdd_eq_some.mp hcount
      have hnext : manifest.segmentCount < count := by
        rw [UInt64.lt_iff_toNat_lt, hnat]
        exact Nat.lt_succ_self _
      apply (ih _ ?_).mono
      · intro r t hr
        cases r with
        | error e => trivial
        | ok flushed =>
          obtain ⟨honly, htombs, hsegs, hids⟩ := hr
          refine ⟨⟨?_, ?_⟩, ?_, ?_, ?_⟩
          · exact honly.pending.trans (AuthorityStore.lookup_write_ne _ _ pending_ne_segment)
          · exact fun name => (honly.receipts name).trans
              (AuthorityStore.lookup_write_ne _ _ segment_ne_receipt.symm)
          · exact htombs.trans (AuthorityStore.lookup_write_ne _ _ tombstones_ne_segment)
          · intro i hi
            rw [hsegs i (UInt64.lt_trans hi hnext)]
            exact AuthorityStore.lookup_write_ne _ _ (segmentPath_ne (UInt64.ne_of_lt hi))
          · intro id hid
            apply hids
            rcases hid with hid | ⟨i, hi, segment, hseg, hid⟩
            · rw [← List.take_append_drop manifest.segmentCapacity manifest.activeConfirmationIds,
                List.mem_append] at hid
              rcases hid with hid | hid
              · exact .inr ⟨manifest.segmentCount, hnext, _, AuthorityStore.lookup_write _ _ _, hid⟩
              · exact .inl hid
            · refine .inr ⟨i, UInt64.lt_trans hi hnext, segment, ?_, hid⟩
              rw [← hseg]
              exact AuthorityStore.lookup_write_ne _ _ (segmentPath_ne (UInt64.ne_of_lt hi))
      · intro old hold
        rw [AuthorityStore.lookup_write_ne _ _ tombstones_ne_segment] at hold
        exact UInt64.le_of_lt (UInt64.lt_of_le_of_lt (hc old hold) hnext)
    · exact .pure ⟨⟨rfl, fun _ => rfl⟩, rfl, fun _ _ => rfl, fun _ h => h⟩

/-- The tombstones come to list the new ids with those already retired. -/
theorem persistConfirmationTombstones_does (hl : LoadedFrom s session loaded) :
    Does (ConfirmationStep session) (Outcome
        (fun _ t => TombstonesOnly s t session ∧
          ∀ id, Retired s session id ∨ id ∈ newIds → Retired t session id)
        fun _ _ => True)
      (persistConfirmationTombstones E session loaded newIds) s := by
  apply orConflict_then
  · exact fun _ _ => trivial
  intro known _
  dsimp only
  apply Prog.Alone.bind (flushSegments_does _ { loaded.base with
    activeConfirmationIds := newIds.foldl (fun ids id => insertId id ids)
      loaded.base.activeConfirmationIds } hl.count)
  swap
  · exact fun _ _ _ => trivial
  intro flushed t ht
  obtain ⟨honly, htombs, hsegs, hids⟩ := ht
  apply Prog.Alone.ensure_then
  · exact fun _ => trivial
  intro _
  apply utcNow_then
  intro now _ _
  have hnew : ∀ id, Retired s session id ∨ id ∈ newIds → RetiredIn t session flushed id := by
    intro id hid
    apply hids
    rcases hid with hid | hid
    · rcases hl.base id hid with hb | hb
      · exact .inl ((mem_foldl_insertId _ _).mpr (.inr hb))
      · exact .inr hb
    · exact .inl ((mem_foldl_insertId _ _).mpr (.inl hid))
  have hold : ∀ id, Retired t session id → Retired s session id := by
    intro id hid
    rcases hid with ⟨old, hm, hid⟩ | ⟨legacy, hm, hid⟩
    · rw [htombs] at hm
      refine .inl ⟨old, hm, ?_⟩
      rcases hid with hid | ⟨i, hi, segment, hseg, hid⟩
      · exact .inl hid
      · rw [hsegs i (UInt64.lt_of_lt_of_le hi (hl.count old hm))] at hseg
        exact .inr ⟨i, hi, segment, hseg, hid⟩
    · exact .inr ⟨legacy, htombs ▸ hm, hid⟩
  apply writePrivateJson_then
  · exact .manifest _ fun id hid => hnew id (.inl (hold id hid))
  · trivial
  apply loadConfirmationTombstones_does.mono
  intro r u hr
  cases r with
  | error e => trivial
  | ok final =>
    obtain ⟨rfl, _⟩ := hr
    refine ⟨⟨?_, ?_⟩, ?_⟩
    · rw [AuthorityStore.lookup_write_ne _ _ pending_ne_tombstones]
      exact honly.pending
    · intro name
      rw [AuthorityStore.lookup_write_ne _ _ tombstones_ne_receipt.symm]
      exact honly.receipts name
    · intro id hid
      refine .inl ⟨_, AuthorityStore.lookup_write _ _ _, (hnew id hid).frame ?_⟩
      exact fun _ => AuthorityStore.lookup_write_ne _ _ tombstones_ne_segment.symm

end Tombstones

section Confirmations
variable {E : AuthorityEnv} {session id : String} {s : AuthorityStore}

theorem validateConfirmationRecord_session
    (h : validateConfirmationRecord E record session = .ok ()) : record.sessionId = session := by
  by_contra hne
  have hbad : decide (record.sessionId ≠ session) = true := decide_eq_true hne
  rw [validateConfirmationRecord, refuseIf_eq_ok, hbad] at h
  simp only [Bool.or_true, Bool.true_or, Bool.true_eq_false] at h

theorem readConfirmationRecord_then {G : AuthorityStore → AuthorityStore → Prop}
    {T : Except Failure β → AuthorityStore → Prop} {path : Path}
    {f : Option TaskAuthorityConfirmationRecord → AuthorityProg β} (he : ∀ e, T (.error e) s)
    (h : ∀ found, s.lookup path = found.map .confirmation →
      (∀ record, found = some record → record.sessionId = session) → Does G T (f found) s) :
    Does G T (readConfirmationRecord E path session >>= f) s := by
  have hread : Does G (Outcome
      (fun found t => t = s ∧ s.lookup path = found.map .confirmation ∧
        ∀ record, found = some record → record.sessionId = session)
      fun _ t => t = s) (readConfirmationRecord E path session) s := by
    apply readOptionalDoc_then
    · intro doc record hd
      cases doc <;> simp only [Doc.confirmation?, reduceCtorEq, Option.some.injEq] at hd
      rw [hd]
    · exact fun _ _ => rfl
    intro found hfound
    cases found with
    | none => exact .pure ⟨rfl, hfound, fun _ h => nomatch h⟩
    | some record =>
      apply orConflict_then
      · exact fun _ _ => rfl
      intro _ hv
      refine .pure ⟨rfl, hfound, ?_⟩
      intro _ hr
      cases hr
      exact validateConfirmationRecord_session hv
  apply hread.bind
  · intro found t ht
    exact ht.1 ▸ h found ht.2.1 ht.2.2
  · intro e t ht
    exact ht ▸ he e

/-- No id is retired that was not. -/
def NoneRetired (s t : AuthorityStore) (session : String) : Prop :=
  ∀ id, Retired t session id → Retired s session id

theorem archiveConfirmation_does (hr : record.sessionId = session) :
    Does (ConfirmationStep session) (Outcome
        (fun _ t => HasReceipt t session record.confirmationId ∧ NoneRetired s t session)
        fun _ _ => True)
      (archiveConfirmation E record) s := by
  subst hr
  apply readConfirmationRecord_then
  · exact fun _ => trivial
  intro found hfound _
  cases found with
  | some existing =>
    apply Prog.Alone.ensure
    · exact fun _ => trivial
    intro he
    cases of_decide_eq_true he
    exact ⟨⟨record, hfound, rfl⟩, fun _ h => h⟩
  | none =>
    apply writePrivateJson_does
    · exact .archive record hfound
    · trivial
    refine ⟨⟨record, AuthorityStore.lookup_write _ _ _, rfl⟩, ?_⟩
    intro id h
    apply h.frame
    · exact (AuthorityStore.lookup_write_ne _ _ tombstones_ne_receipt).symm
    · exact fun _ => (AuthorityStore.lookup_write_ne _ _ segment_ne_receipt).symm

theorem removePendingConfirmation_does :
    Does (ConfirmationStep session) (Outcome
        (fun _ t => (∀ id, HasReceipt s session id → HasReceipt t session id) ∧
          NoneRetired s t session)
        fun _ _ => True)
      (removePendingConfirmation session) s := by
  apply pathExists_then
  split
  · apply removeFile_does
    · exact .consume
    · trivial
    refine ⟨?_, ?_⟩
    · intro id h
      exact h.frame (AuthorityStore.lookup_remove_ne _ (receiptPath _ _ ▸
        pending_ne_receipt.symm))
    · intro id h
      apply h.frame
      · exact (AuthorityStore.lookup_remove_ne _ pending_ne_tombstones.symm).symm
      · exact fun _ => (AuthorityStore.lookup_remove_ne _ pending_ne_segment.symm).symm
  · exact .pure ⟨fun _ h => h, fun _ h => h⟩

theorem expirePendingConfirmation_does (hr : record.sessionId = session) :
    Does (ConfirmationStep session) (Outcome (fun _ t => NoneRetired s t session) fun _ _ => True)
      (expirePendingConfirmation E record) s := by
  subst hr
  apply Prog.Alone.bind (archiveConfirmation_does rfl)
  · intro _ t ht
    apply removePendingConfirmation_does.mono
    intro r u hu
    cases r with
    | error e => trivial
    | ok _ => exact fun id h => ht.2 id (hu.2 id h)
  · exact fun _ _ _ => trivial

theorem clearPendingConfirmation_does :
    Does (ConfirmationStep session) (Outcome (fun _ t => NoneRetired s t session) fun _ _ => True)
      (clearPendingConfirmation E session) s := by
  apply readConfirmationRecord_then
  · exact fun _ => trivial
  intro found _ hown
  cases found with
  | none => exact .pure fun _ h => h
  | some existing =>
    apply Prog.Alone.okOr_then
    · exact fun _ => trivial
    intro expiresAt _
    apply utcNow_then
    intro now _ _
    apply Prog.Alone.ensure_then
    · exact fun _ => trivial
    intro _
    exact expirePendingConfirmation_does (hown existing rfl)

theorem hasTerminalReceipt_does {G : AuthorityStore → AuthorityStore → Prop} :
    Does G (Outcome (fun used t => t = s ∧ (used = false → ¬ Retired s session id)) fun _ _ => True)
      (hasTerminalReceipt E session id) s := by
  apply pathExists_then
  split
  · exact .pure ⟨rfl, nofun⟩
  · apply loadConfirmationTombstones_then
    · exact fun _ => trivial
    intro loaded hl
    refine .pure ⟨rfl, ?_⟩
    intro hnot hr
    exact of_decide_eq_false hnot (hl.ids _ hr)

/-- Only an id that is not retired is staged. -/
theorem stageTaskAuthorityConfirmation_does :
    Does (ConfirmationStep session) (fun _ _ => True)
      (stageTaskAuthorityConfirmation E session input) s := by
  apply Prog.Alone.ensure_then
  · exact fun _ => trivial
  intro _
  apply Prog.Alone.bind hasTerminalReceipt_does
  swap
  · exact fun _ _ _ => trivial
  intro used t ht
  obtain ⟨rfl, hlive⟩ := ht
  apply Prog.Alone.ensure_then
  · exact fun _ => trivial
  intro hused
  apply Prog.Alone.bind clearPendingConfirmation_does
  swap
  · exact fun _ _ _ => trivial
  intro _ u hu
  apply utcNow_then
  intro requestedAt _ _
  apply Prog.Alone.ensure_then
  · exact fun _ => trivial
  intro _
  apply Prog.Alone.ensure_then
  · exact fun _ => trivial
  intro _
  apply orInvalid_then
  · exact fun _ _ => trivial
  intro requestedBy _
  apply orInvalid_then
  · exact fun _ _ => trivial
  intro _ _
  apply writePrivateJson_then
  · exact .stage _ fun h => hlive (by simpa using hused) (hu _ h)
  · trivial
  exact .pure trivial

theorem loadTaskAuthorityPendingConfirmation_does :
    Does (ConfirmationStep session) (Outcome
        (fun found t => ∀ record, found = some record → t = s ∧ record.sessionId = session ∧
          s.lookup (pendingConfirmationPath session) = some (.confirmation record) ∧
          s.lookup (terminalConfirmationPath session record.confirmationId) = none)
        fun _ _ => True)
      (loadTaskAuthorityPendingConfirmation E session) s := by
  apply readConfirmationRecord_then
  · exact fun _ => trivial
  intro found hfound hown
  cases found with
  | none => exact .pure fun _ h => nomatch h
  | some record =>
    apply pathExists_then
    split
    · apply Prog.Alone.bind removePendingConfirmation_does
      · exact fun _ _ _ => .pure fun _ h => nomatch h
      · exact fun _ _ _ => trivial
    · rename_i hnone
      apply Prog.Alone.pure
      intro record' hr
      cases hr
      exact ⟨rfl, hown record rfl, hfound, by simpa using hnone⟩

theorem activeTaskAuthorityPendingConfirmation_does :
    Does (ConfirmationStep session) (fun _ _ => True)
      (activeTaskAuthorityPendingConfirmation E session) s := by
  apply Prog.Alone.bind loadTaskAuthorityPendingConfirmation_does
  swap
  · exact fun _ _ _ => trivial
  intro found t ht
  cases found with
  | none => exact .pure trivial
  | some record =>
    obtain ⟨rfl, hown, _, _⟩ := ht record rfl
    apply Prog.Alone.okOr_then
    · exact fun _ => trivial
    intro expiresAt _
    apply utcNow_then
    intro now _ _
    split
    · apply Prog.Alone.bind (expirePendingConfirmation_does hown)
      · exact fun _ _ _ => .pure trivial
      · exact fun _ _ _ => trivial
    · exact .pure trivial

/-- Only what is pending and has no receipt is decided, and then it has one. -/
theorem decideTaskAuthorityConfirmation_does :
    Does (ConfirmationStep session) (Outcome
        (fun decided t => HasReceipt t session decided.confirmationId ∧
          ∃ record, s.lookup (pendingConfirmationPath session) = some (.confirmation record) ∧
            record.confirmationId = decided.confirmationId ∧
            s.lookup (terminalConfirmationPath session decided.confirmationId) = none)
        fun _ _ => True)
      (decideTaskAuthorityConfirmation E session input) s := by
  apply Prog.Alone.ensure_then
  · exact fun _ => trivial
  intro _
  apply Prog.Alone.bind loadTaskAuthorityPendingConfirmation_does
  swap
  · exact fun _ _ _ => trivial
  intro found t ht
  apply Prog.Alone.okOr_then
  · exact fun _ => trivial
  intro record hfound
  obtain ⟨rfl, hown, hpending, hunused⟩ := ht record hfound
  apply Prog.Alone.okOr_then
  · exact fun _ => trivial
  intro expiresAt _
  apply utcNow_then
  intro now _ _
  split
  · apply Prog.Alone.bind (archiveConfirmation_does (by exact hown))
    swap
    · exact fun _ _ _ => trivial
    intro _ u _
    apply Prog.Alone.bind removePendingConfirmation_does
    · exact fun _ _ _ => .fail trivial
    · exact fun _ _ _ => trivial
  · apply utcNow_then
    intro decidedAt _ _
    dsimp only
    apply Prog.Alone.bind (archiveConfirmation_does (by exact hown))
    swap
    · exact fun _ _ _ => trivial
    intro _ u hu
    apply Prog.Alone.bind removePendingConfirmation_does
    swap
    · exact fun _ _ _ => trivial
    intro _ v hv
    exact .pure ⟨hv.1 _ hu.1, record, hpending, rfl, hunused⟩

theorem finalizeTaskAuthorityConfirmation_does (hr : record.sessionId = session) :
    Does (ConfirmationStep session) (fun _ _ => True)
      (finalizeTaskAuthorityConfirmation E record result) s := by
  subst hr
  apply readConfirmationRecord_then
  · exact fun _ => trivial
  intro found hfound _
  apply Prog.Alone.okOr_then
  · exact fun _ => trivial
  intro existing hex
  apply Prog.Alone.ensure_then
  · exact fun _ => trivial
  intro he
  cases of_decide_eq_true he
  apply utcNow_then
  intro now _ _
  apply writePrivateJson_does
  · rw [hex] at hfound
    exact .finish record _ rfl hfound
  · trivial
  · trivial

/-- A receipt that a cleanup found in its file. -/
def FoundIn (s : AuthorityStore) (session : String) (receipt : SafeReceipt) : Prop :=
  (∃ name, receipt.path = confirmationReceiptsDir session ++ [name]) ∧
    s.lookup receipt.path = some (.confirmation receipt.record)

theorem inspectReceipts_does {G : AuthorityStore → AuthorityStore → Prop} (names : List Bytes)
    (safe : List SafeReceipt) (indeterminate : Nat)
    (hsafe : ∀ receipt ∈ safe, FoundIn s session receipt ∧
      confirmationReceiptAgeAnchor E receipt.record = .ok receipt.anchor) :
    Does G (Outcome
        (fun r t => t = s ∧ ∀ receipt ∈ r.1, FoundIn s session receipt ∧
          confirmationReceiptAgeAnchor E receipt.record = .ok receipt.anchor)
        fun _ t => t = s)
      (inspectReceipts E session names safe indeterminate) s := by
  induction names generalizing safe indeterminate with
  | nil => exact .pure ⟨rfl, hsafe⟩
  | cons name rest ih =>
    simp only [inspectReceipts]
    split
    · apply readConfirmationRecord_then
      · exact fun _ => rfl
      intro found hfound _
      cases found with
      | none => exact ih _ _ hsafe
      | some record =>
        dsimp only
        split
        · exact ih _ _ hsafe
        · split
          · apply orConflict_then
            · exact fun _ _ => rfl
            intro anchor hanchor
            apply ih
            intro receipt hmem
            rcases List.mem_append.mp hmem with hmem | hmem
            · exact hsafe receipt hmem
            · cases List.mem_singleton.mp hmem
              exact ⟨⟨⟨name, rfl⟩, hfound⟩, hanchor⟩
          · exact ih _ _ hsafe
    · exact ih _ _ hsafe

/-- Only receipts of retired ids are removed. -/
theorem removeReceipts_does (paths : List Path)
    (h : ∀ path ∈ paths, (∃ name, path = confirmationReceiptsDir session ++ [name]) ∧
      ∀ doc, s.lookup path = some doc →
        ∃ record, doc = .confirmation record ∧ Retired s session record.confirmationId) :
    Does (ConfirmationStep session) (fun _ _ => True) (removeReceipts paths) s := by
  induction paths generalizing s with
  | nil => exact .pure trivial
  | cons path rest ih =>
    have hrest : ∀ path ∈ rest, _ := fun other hother => h other (List.mem_cons_of_mem _ hother)
    obtain ⟨⟨name, hname⟩, hpath⟩ := h path List.mem_cons_self
    subst hname
    apply pathExists_then
    split
    · rename_i hsome
      obtain ⟨doc, hdoc⟩ := Option.isSome_iff_exists.mp hsome
      obtain ⟨record, hd, hretired⟩ := hpath doc hdoc
      subst hd
      apply removeFile_then
      · exact fun _ => .retire name record hdoc hretired
      · trivial
      intro _
      apply ih
      intro other hother
      obtain ⟨hdir, hstored⟩ := hrest other hother
      refine ⟨hdir, ?_⟩
      intro doc hl
      have hne : other ≠ confirmationReceiptsDir session ++ [name] := by
        intro he
        rw [he, AuthorityStore.lookup_remove] at hl
        cases hl
      rw [AuthorityStore.lookup_remove_ne _ hne] at hl
      obtain ⟨record', hd, hr⟩ := hstored doc hl
      refine ⟨record', hd, hr.frame ?_ ?_⟩
      · exact AuthorityStore.lookup_remove_ne _ tombstones_ne_receipt
      · exact fun _ => AuthorityStore.lookup_remove_ne _ segment_ne_receipt
    · exact ih hrest

theorem mem_cleanupCandidates (h : receipt ∈ cleanupCandidates safe retainCount cutoff) :
    receipt ∈ safe :=
  List.mem_mergeSort.mp (List.mem_of_mem_take (List.mem_filter.mp h).1)

/-- Every id is retired before its receipt goes. -/
theorem retireReceipts_does (hl : LoadedFrom s session loaded)
    (hc : ∀ receipt ∈ candidates, FoundIn s session receipt) :
    Does (ConfirmationStep session) (fun _ _ => True)
      (retireReceipts E session loaded candidates) s := by
  apply Prog.Alone.bind (persistConfirmationTombstones_does hl)
  swap
  · exact fun _ _ _ => trivial
  intro final t ht
  obtain ⟨honly, hretired⟩ := ht
  apply Prog.Alone.bind (removeReceipts_does _ ?_)
  · exact fun _ _ _ => .pure trivial
  · exact fun _ _ _ => trivial
  intro path hpath
  obtain ⟨receipt, hmem, rfl⟩ := List.mem_map.mp hpath
  obtain ⟨⟨name, hname⟩, hstored⟩ := hc receipt hmem
  refine ⟨⟨name, hname⟩, ?_⟩
  intro doc hdoc
  rw [hname, honly.receipts name, ← hname, hstored] at hdoc
  cases hdoc
  exact ⟨receipt.record, rfl, hretired _ (.inr (List.mem_map_of_mem hmem))⟩

theorem cleanupTaskAuthorityConfirmations_does :
    Does (ConfirmationStep session) (fun _ _ => True)
      (cleanupTaskAuthorityConfirmations E session input) s := by
  apply Prog.Alone.ensure_then
  · exact fun _ => trivial
  intro _
  apply utcNow_then
  intro now _ _
  apply Prog.Alone.ensure_then
  · exact fun _ => trivial
  intro _
  apply Prog.Alone.ensure_then
  · exact fun _ => trivial
  intro _
  apply readDir_then
  · trivial
  intro names _
  apply Prog.Alone.bind (inspectReceipts_does names [] 0 (List.forall_mem_nil _))
  swap
  · exact fun _ _ _ => trivial
  intro inspected t ht
  obtain ⟨rfl, hfound⟩ := ht
  apply loadConfirmationTombstones_then
  · exact fun _ => trivial
  intro loaded hl
  apply Prog.Alone.ensure_then
  · exact fun _ => trivial
  intro _
  dsimp only
  split
  · apply Prog.Alone.bind
      (retireReceipts_does hl fun receipt hmem => (hfound receipt (mem_cleanupCandidates hmem)).1)
    · intro final u _
      apply pathExists_then
      exact .pure trivial
    · exact fun _ _ _ => trivial
  · apply pathExists_then
    exact .pure trivial

end Confirmations

end AgentBrowser
