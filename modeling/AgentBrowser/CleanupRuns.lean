import AgentBrowser.ReceiptCleanup

namespace AgentBrowser
open Durable
set_option autoImplicit true

section Selection
variable (W : Surroundings) (E : AuthorityEnv) (session : String)
  (input : CleanupTaskAuthorityConfirmations) (h : AuthorityHost)

/-- The time before which a receipt is old enough. -/
def cleanupCutoff : Int := W.clock h.ticks - input.minAgeSeconds.toNat * nanosPerSecond

/-- All the receipts that a cleanup starting at `h` may remove, oldest first. -/
def eligibleReceipts : List SafeReceipt :=
  ((W.order (h.ticks + 1) (h.store.names (confirmationReceiptsDir session))).filterMap
    (receiptAt E session h.store)).mergeSort SafeReceipt.le

/-- The receipts that a cleanup starting at `h` would remove. -/
def selectedReceipts : List SafeReceipt :=
  cleanupCandidates
    ((W.order (h.ticks + 1) (h.store.names (confirmationReceiptsDir session))).filterMap
      (receiptAt E session h.store))
    input.retainCount.toNat (cleanupCutoff W input h)

def selectedIds : List String :=
  (selectedReceipts W E session input h).map (·.record.confirmationId)

def selectedPaths : List Path := (selectedReceipts W E session input h).map (·.path)

/-- What a cleanup starting at `h` shows for review. -/
def cleanupReview (tombstones : LoadedConfirmationTombstones) : ConfirmationCleanupReview where
  sessionId := session
  retainCount := input.retainCount
  minAgeSeconds := input.minAgeSeconds
  requestedBy := input.requestedBy
  tombstoneLedger := confirmationTombstoneEvidence E tombstones
  candidates := (selectedReceipts W E session input h).map (SafeReceipt.evidence E)

/-- Whether a cleanup starting at `h` changes files. -/
def cleanupActs (tombstones : LoadedConfirmationTombstones) : Bool :=
  input.apply && (!(selectedReceipts W E session input h).isEmpty || tombstones.legacy)

end Selection

/-- Ids that can be added to what is loaded. -/
structure Retirable (loaded : LoadedConfirmationTombstones) (ids : List String) : Prop where
  named : loaded.legacy = true → ∀ id ∈ loaded.confirmationIds, isBlank id = false
  new : NewIds ids loaded.confirmationIds
  few : (insertIds ids loaded.confirmationIds).length < UInt64.size

/-- Everything that a cleanup starting at `h` needs to succeed. -/
structure CleanupReady (W : Surroundings) (E : AuthorityEnv) (session : String)
    (input : CleanupTaskAuthorityConfirmations) (h : AuthorityHost)
    (loaded : LoadedConfirmationTombstones) : Prop where
  principal : (!isBlank input.requestedBy.id && (input.requestedBy.kind = "operator" ||
    input.requestedBy.kind = "service")) = true
  age : input.minAgeSeconds.toNat < 2 ^ 63
  cutoff : chronoMin ≤ cleanupCutoff W input h
  readable : ∀ name ∈ h.store.names (confirmationReceiptsDir session),
    ReadableReceipt E session h.store name
  load : LoadedAs E h.store session loaded
  review : input.apply = true →
    input.reviewSha256 = some (E.reviewSha256 (cleanupReview W E session input h loaded))
  retirable : cleanupActs W E session input h loaded = true →
    Retirable loaded (selectedIds W E session input h)

section Runs
variable {W : Surroundings} {E : AuthorityEnv} {session : String}
  {input : CleanupTaskAuthorityConfirmations} {h : AuthorityHost}
  {loaded : LoadedConfirmationTombstones}

theorem receiptAt_eq_some {s : AuthorityStore} (hr : receiptAt E session s name = some receipt) :
    receipt.path = confirmationReceiptsDir session ++ [name] ∧
      s.lookup receipt.path = some (.confirmation receipt.record) ∧
      safeReceipt? E receipt.path receipt.record = some receipt := by
  simp only [receiptAt, Option.ite_none_right_eq_some, Option.bind_eq_some_iff,
    confirmation?_eq_some] at hr
  obtain ⟨_, record, ⟨doc, hdoc, rfl⟩, hsafe⟩ := hr
  have hfields : receipt.path = confirmationReceiptsDir session ++ [name] ∧
      receipt.record = record := by
    simp only [safeReceipt?] at hsafe
    split at hsafe
    · cases hsafe
    split at hsafe
    · obtain ⟨_, _, rfl⟩ := Option.map_eq_some_iff.mp hsafe
      exact ⟨rfl, rfl⟩
    · cases hsafe
  rw [hfields.1, hfields.2]
  exact ⟨rfl, hdoc, hsafe⟩

theorem mem_selectedReceipts (hm : receipt ∈ selectedReceipts W E session input h) :
    (∃ name, receipt.path = confirmationReceiptsDir session ++ [name]) ∧
      h.store.lookup receipt.path = some (.confirmation receipt.record) ∧
      safeReceipt? E receipt.path receipt.record = some receipt := by
  obtain ⟨name, _, hname⟩ := List.mem_filterMap.mp (mem_cleanupCandidates hm)
  obtain ⟨hpath, hrest⟩ := receiptAt_eq_some hname
  exact ⟨⟨name, hpath⟩, hrest⟩

theorem eligibleReceipts_nodup : (eligibleReceipts W E session h).Nodup := by
  have hnames : (W.order (h.ticks + 1) (h.store.names (confirmationReceiptsDir session))).Nodup :=
    (W.order_perm _ _).nodup_iff.mpr names_nodup
  apply (List.mergeSort_perm _ SafeReceipt.le).nodup_iff.mpr
  apply hnames.filterMap
  intro name name' receipt hr hr'
  have hpaths := (receiptAt_eq_some hr).1.symm.trans (receiptAt_eq_some hr').1
  exact List.singleton_injective (List.append_cancel_left hpaths)

theorem selectedReceipts_eq : selectedReceipts W E session input h =
    ((eligibleReceipts W E session h).take
      ((eligibleReceipts W E session h).length - input.retainCount.toNat)).filter
        (·.anchor ≤ cleanupCutoff W input h) := by
  rw [selectedReceipts, cleanupCandidates, eligibleReceipts, List.length_mergeSort]

theorem selectedReceipts_nodup : (selectedReceipts W E session input h).Nodup := by
  rw [selectedReceipts_eq]
  exact (eligibleReceipts_nodup.sublist (List.take_sublist _ _)).filter _

theorem selected_eq (hm : receipt ∈ selectedReceipts W E session input h)
    (hm' : receipt' ∈ selectedReceipts W E session input h')
    (hpath : receipt.path = receipt'.path)
    (hsame : h.store.lookup receipt.path = h'.store.lookup receipt.path) : receipt = receipt' := by
  obtain ⟨_, hl, hs⟩ := mem_selectedReceipts hm
  obtain ⟨_, hl', hs'⟩ := mem_selectedReceipts hm'
  rw [hsame, hpath, hl', Option.some.injEq, Doc.confirmation.injEq] at hl
  rw [hpath, ← hl, hs', Option.some.injEq] at hs
  exact hs.symm

theorem Persisted.retiring {s t : AuthorityStore} (hp : Persisted E s session known final t) :
    Retiring E s session known final paths t where
  load := hp.load
  ids := hp.ids
  migrated := hp.load.migrated hp.manifest
  files := fun path hne hother => .inl (hp.files path hne hother)

theorem retireReceipts_safe {g : AuthorityHost} (hg : g.store = h.store)
    (hload : LoadedAs E h.store session loaded)
    (hset : loaded.confirmationIds.Pairwise (· < ·))
    (hr : Retirable loaded (selectedIds W E session input h)) :
    (retireReceipts E session loaded (selectedReceipts W E session input h)).Safe W.answer
      (fun t => CleanupStop E h.store session loaded
        (insertIds (selectedIds W E session input h) loaded.confirmationIds)
        (selectedPaths W E session input h) t.store)
      (fun r t => ∃ final, r = .ok final ∧ Retiring E h.store session
        (insertIds (selectedIds W E session input h) loaded.confirmationIds) final
        (selectedPaths W E session input h) t.store ∧
        ∀ path ∈ selectedPaths W E session input h, t.store.lookup path = none) g := by
  rw [← hg] at hload ⊢
  have hpersist := (persistConfirmationTombstones_safe (W := W) hload hset hr.named hr.new rfl
    hr.few).weaken fun t ht => show CleanupStop E g.store session loaded
      (insertIds (selectedIds W E session input h) loaded.confirmationIds)
      (selectedPaths W E session input h) t.store from by
    cases ht with
    | before load files => exact .before load files
    | after final done => exact .after final done.retiring
  apply hpersist.bind
  · rintro final t ⟨_, ⟨⟩, hdone⟩
    apply (removeReceipts_safe (fun u hu => .after final hu) ?_ hdone.retiring).bind
    · rintro _ u ⟨_, hu, hgone, _⟩
      exact ⟨final, rfl, hu, hgone⟩
    · rintro _ _ ⟨⟨⟩, _⟩
    · intro path hpath
      refine ⟨hpath, ?_⟩
      obtain ⟨receipt, hm, rfl⟩ := List.mem_map.mp hpath
      exact (mem_selectedReceipts hm).1
  · rintro _ _ ⟨_, ⟨⟩, _⟩

/-- The files where a cleanup that succeeds ends. -/
structure CleanupEnd (W : Surroundings) (E : AuthorityEnv) (session : String)
    (input : CleanupTaskAuthorityConfirmations) (h : AuthorityHost)
    (loaded : LoadedConfirmationTombstones) (done : ConfirmationCleanup) (u : AuthorityHost) :
    Prop where
  review : done.reviewSha256 = E.reviewSha256 (cleanupReview W E session input h loaded)
  rests : cleanupActs W E session input h loaded = false → u = h.tick.tick
  acts : cleanupActs W E session input h loaded = true →
    ∃ final, Retiring E h.store session
        (insertIds (selectedIds W E session input h) loaded.confirmationIds) final
        (selectedPaths W E session input h) u.store ∧
      ∀ path ∈ selectedPaths W E session input h, u.store.lookup path = none

/-- A cleanup that has what it needs succeeds, and wherever it stops the old tombstones or the
new ones are loaded, and no receipt went before. -/
theorem cleanup_safe (hr : CleanupReady W E session input h loaded)
    (hset : loaded.confirmationIds.Pairwise (· < ·)) :
    (cleanupTaskAuthorityConfirmations E session input).Safe W.answer
      (fun t => CleanupStop E h.store session loaded
        (insertIds (selectedIds W E session input h) loaded.confirmationIds)
        (selectedPaths W E session input h) t.store)
      (fun r u => ∃ done, r = .ok done ∧ CleanupEnd W E session input h loaded done u) h := by
  have hstop (t : AuthorityHost) (ht : t.store = h.store) :
      CleanupStop E h.store session loaded
        (insertIds (selectedIds W E session input h) loaded.confirmationIds)
        (selectedPaths W E session input h) t.store :=
    .before (ht ▸ hr.load) fun path _ => by rw [ht]
  apply Surroundings.safe_ensure hr.principal
  apply Surroundings.safe_utcNow (hstop _ rfl)
  apply Surroundings.safe_ensure (decide_eq_true hr.age)
  apply Surroundings.safe_ensure (decide_eq_true hr.cutoff)
  apply Surroundings.safe_readDir (hstop _ rfl)
  have hlooks : ∃ k, (inspectReceipts E session (W.order (h.ticks + 1)
      (h.store.names (confirmationReceiptsDir session))) [] 0).Looks W.answer
      (.ok ((W.order (h.ticks + 1) (h.store.names (confirmationReceiptsDir session))).filterMap
        (receiptAt E session h.store), k)) h.tick.tick :=
    looks_inspectReceipts.mpr ⟨fun name hn => hr.readable name
      ((W.order_perm _ _).mem_iff.mp hn), rfl⟩
  obtain ⟨k, hk⟩ := hlooks
  refine hk.then (hstop h.tick.tick rfl) ?_
  have hload : (loadConfirmationTombstones E session).Looks W.answer (.ok loaded) h.tick.tick :=
    loadConfirmationTombstones_looks.mpr hr.load
  refine hload.then (hstop h.tick.tick rfl) ?_
  apply Surroundings.safe_ensure
  · cases ha : input.apply with
    | false => rfl
    | true => exact decide_eq_true (hr.review ha)
  dsimp only
  split
  · rename_i hacts
    have hsame : h.tick.tick.store = h.store := rfl
    apply (retireReceipts_safe hsame hr.load hset (hr.retirable hacts)).bind
    · rintro final t ⟨_, ⟨⟩, hdone, hgone⟩
      refine (Surroundings.looks_pathExists.mpr rfl).then (.after final hdone) ?_
      refine ⟨_, rfl, rfl, fun hrests => ?_, fun _ => ⟨final, hdone, hgone⟩⟩
      rw [show cleanupActs W E session input h loaded = true from hacts] at hrests
      cases hrests
    · rintro _ _ ⟨_, ⟨⟩, _⟩
  · rename_i hacts
    refine (Prog.looks_pure_eq_ok.mpr rfl).then (hstop h.tick.tick rfl) ?_
    refine (Surroundings.looks_pathExists.mpr rfl).then (hstop h.tick.tick rfl) ?_
    refine ⟨_, rfl, rfl, fun _ => rfl, fun hwrites => absurd hwrites hacts⟩

theorem inspects_loadSegments :
    (loadSegments E session capacity left index previous known).Inspects W.answer := by
  induction left generalizing index previous known with
  | zero => trivial
  | succ left ih =>
    apply Surroundings.inspects_readDoc.bind
    intro segment
    apply Prog.inspects_ensure.bind
    intro _
    apply (Surroundings.inspects_orConflict _).bind
    exact fun _ => ih

theorem inspects_load : (loadConfirmationTombstones E session).Inspects W.answer := by
  apply Surroundings.inspects_pathExists.bind
  intro found
  cases found with
  | false => trivial
  | true =>
    apply Surroundings.inspects_readFile.bind
    intro doc
    cases doc with
    | manifest manifest =>
      apply Prog.inspects_ensure.bind
      intro _
      apply inspects_loadSegments.bind
      intro segments
      apply Prog.inspects_ensure.bind
      intro _
      apply (Surroundings.inspects_orConflict _).bind
      intro known
      apply Prog.inspects_ensure.bind
      exact fun _ => trivial
    | legacyTombstones legacy => trivial
    | ledger | issuance | confirmation | segment => trivial

theorem inspects_readConfirmationRecord :
    (readConfirmationRecord E path session).Inspects W.answer := by
  apply Surroundings.inspects_readOptionalDoc.bind
  intro found
  cases found with
  | none => trivial
  | some record => exact (Surroundings.inspects_orConflict _).bind fun _ => trivial

theorem inspects_inspectReceipts :
    (inspectReceipts E session names safe indeterminate).Inspects W.answer := by
  induction names generalizing safe indeterminate with
  | nil => trivial
  | cons name names ih =>
    rw [inspectReceipts]
    split
    swap
    · exact ih
    apply inspects_readConfirmationRecord.bind
    intro found
    cases found with
    | none => exact ih
    | some record =>
      dsimp only
      split
      · exact ih
      split
      · exact (Surroundings.inspects_orConflict _).bind fun _ => ih
      · exact ih

/-- A writer that succeeds was given ids that it takes, and no blank ones to begin with. -/
theorem retirable_of_finish (hload : LoadedAs E h.store session loaded)
    (hfin : (persistConfirmationTombstones E session loaded ids).finish W.answer h =
      (.ok final, t)) : Retirable loaded ids := by
  have hkept : ∀ id, Retired h.store session id → Retired t.store session id := by
    obtain ⟨choices, hrun⟩ :=
      W.finish_possible (persistConfirmationTombstones E session loaded ids) h
    have hdoes : Does (ConfirmationStep session) _
        (persistConfirmationTombstones E session loaded ids) h.store :=
      persistConfirmationTombstones_does hload.loadedFrom
    have hends := (hdoes.run choices).2
    rw [hrun, hfin] at hends
    exact fun id hid => (hends _ rfl).2 id (.inl hid)
  obtain ⟨known, g, hchecked, hfin⟩ := Prog.finish_bind_eq_ok.mp hfin
  obtain ⟨hknown, rfl⟩ := Surroundings.finish_orConflict.mp hchecked
  obtain ⟨hnew, rfl⟩ := insertNewIds_eq_ok.mp hknown
  dsimp only at hfin
  obtain ⟨flushed, g, _, hfin⟩ := Prog.finish_bind_eq_ok.mp hfin
  obtain ⟨_, _, hcounted, hfin⟩ := Prog.finish_bind_eq_ok.mp hfin
  obtain ⟨hmax, rfl⟩ := Prog.finish_ensure_eq_ok.mp hcounted
  obtain ⟨_, _, hnow, hfin⟩ := Prog.finish_bind_eq_ok.mp hfin
  obtain ⟨rfl, rfl⟩ := Surroundings.finish_utcNow.mp hnow
  obtain ⟨_, _, hwrite, hfin⟩ := Prog.finish_bind_eq_ok.mp hfin
  cases Surroundings.finish_write.mp hwrite
  obtain ⟨rfl, hlooks⟩ := inspects_load.looks hfin
  have hfinal := loadConfirmationTombstones_looks.mp hlooks
  refine ⟨fun _ id hid => ?_, hnew, of_decide_eq_true hmax⟩
  apply hfinal.named (AuthorityStore.lookup_write _ _ _)
  exact (hfinal.mem_iff_retired id).mpr (hkept id ((hload.mem_iff_retired id).mp hid))

/-- A cleanup that succeeds had what it needs. -/
theorem cleanup_ready
    (hfin : (cleanupTaskAuthorityConfirmations E session input).finish W.answer h =
      (.ok done, t)) : ∃ loaded, CleanupReady W E session input h loaded := by
  obtain ⟨_, _, h₁, hfin⟩ := Prog.finish_bind_eq_ok.mp hfin
  obtain ⟨hprincipal, rfl⟩ := Prog.finish_ensure_eq_ok.mp h₁
  obtain ⟨_, _, h₂, hfin⟩ := Prog.finish_bind_eq_ok.mp hfin
  obtain ⟨rfl, rfl⟩ := Surroundings.finish_utcNow.mp h₂
  obtain ⟨_, _, h₃, hfin⟩ := Prog.finish_bind_eq_ok.mp hfin
  obtain ⟨hage, rfl⟩ := Prog.finish_ensure_eq_ok.mp h₃
  obtain ⟨_, _, h₄, hfin⟩ := Prog.finish_bind_eq_ok.mp hfin
  obtain ⟨hcutoff, rfl⟩ := Prog.finish_ensure_eq_ok.mp h₄
  obtain ⟨_, _, h₅, hfin⟩ := Prog.finish_bind_eq_ok.mp hfin
  obtain ⟨rfl, rfl⟩ := Surroundings.finish_readDir.mp h₅
  obtain ⟨⟨safe, k⟩, _, h₆, hfin⟩ := Prog.finish_bind_eq_ok.mp hfin
  obtain ⟨rfl, hinspect⟩ := inspects_inspectReceipts.looks h₆
  obtain ⟨hreadable, rfl⟩ := looks_inspectReceipts.mp ⟨k, hinspect⟩
  obtain ⟨loaded, _, h₇, hfin⟩ := Prog.finish_bind_eq_ok.mp hfin
  obtain ⟨rfl, hlooks⟩ := inspects_load.looks h₇
  obtain ⟨_, _, h₈, hfin⟩ := Prog.finish_bind_eq_ok.mp hfin
  obtain ⟨hreview, rfl⟩ := Prog.finish_ensure_eq_ok.mp h₈
  have hload : LoadedAs E h.tick.tick.store session loaded :=
    loadConfirmationTombstones_looks.mp hlooks
  refine ⟨loaded, hprincipal, of_decide_eq_true hage, of_decide_eq_true hcutoff, ?_, hload, ?_, ?_⟩
  · exact fun name hn => hreadable name ((W.order_perm _ _).mem_iff.mpr hn)
  · intro ha
    simp only [ha] at hreview
    exact of_decide_eq_true hreview
  · intro hacts
    dsimp only at hfin
    split at hfin
    · obtain ⟨final, _, h₉, _⟩ := Prog.finish_bind_eq_ok.mp hfin
      obtain ⟨_, _, hpersist, _⟩ := Prog.finish_bind_eq_ok.mp h₉
      exact retirable_of_finish hload hpersist
    · rename_i hrests
      exact absurd hacts hrests

end Runs

end AgentBrowser
