import AgentBrowser.PrivateOperation

namespace AgentBrowser
open Durable
set_option autoImplicit true

/-- The file that must exist before this one is created. -/
def FileName.needs : FileName → Option FileName
  | .entry reference .admitted => some (.entry reference .payload)
  | .entry reference .result => some (.entry reference .admitted)
  | .entry reference .deliveryAdmitted => some (.entry reference .result)
  | .entry reference .delivery => some (.entry reference .deliveryAdmitted)
  | _ => none

/-- The files created in a stretch of the journal. -/
def createdIn (journal : List (Tid × Change)) : List FileName :=
  journal.filterMap fun x =>
    match x.2 with
    | .created name => some name
    | _ => none

/-- The journals an operation store can have, newest first: files are created once, each after
the one it needs, and then only written. -/
inductive OpHistory : List (Tid × Change) → Prop where
  | nil : OpHistory []
  | created : OpHistory past → name ∉ createdIn past → name ≠ .key →
      (∀ n, name.needs = some n → n ∈ createdIn past) → OpHistory ((t, .created name) :: past)
  | wrote : OpHistory past → name ∈ createdIn past → OpHistory ((t, .wrote name bytes) :: past)

/-- The files that a call creates when it succeeds. The reference of a staged payload is not
known before. -/
def OpCmd.creates (C : Crypto) : OpCmd → List FileName
  | .admitOperation _ reference => [.entry reference .admitted]
  | .storeResult _ reference _ => [.entry reference .result]
  | .admitDelivery _ reference => [.entry reference .deliveryAdmitted]
  | .completeDelivery _ reference => [.entry reference .delivery]
  | .reserveBackupCode h r =>
    match r.normalized with
    | some normalized => (r.reservations C h.key normalized).map (·.1)
    | none => []
  | .reserveJourney h consent _ => [.entry (journeyKey C h.key consent) .journeyConsent]
  | .bindReconciliation h epoch _ => [.entry (reconciliationKey C h.key epoch) .reconciliation]
  | _ => []

/-- The files that a call may create. -/
def OpCmd.mayCreate (C : Crypto) (c : OpCmd) (name : FileName) : Prop :=
  name ∈ c.creates C ∨ ∃ h payload reference, c = .stage h payload ∧ name = .entry reference .payload

structure OpInv (key : Bytes) (w : World) : Prop extends LockInv w where
  stored : w.dir.lookup .key = some key
  files : ∀ name, name ∈ w.dir ↔ name = .key ∨ name ∈ createdIn w.journal
  history : OpHistory w.journal

/-- Nobody changes anything under a task's exclusive lock, and the journal only grows. -/
structure OpRely (t : Tid) (s s' : World) : Prop where
  owned : s'.owned t = s.owned t
  frozen : ∀ l ∈ s.owned t, l.exclusive = true → s'.dir = s.dir ∧ s'.journal = s.journal
  grows : s.journal <:+ s'.journal

/-- What an operation of task `t` can do while it runs command `c`. -/
structure OpGuar (C : Crypto) (t : Tid) (c : OpCmd) (s s' : World) : Prop where
  others : s'.others t = s.others t
  quiet : s.owned t = [] → s'.dir = s.dir ∧ s'.journal = s.journal
  grows : s.journal <:+ s'.journal
  made : ∀ name ∈ createdIn s'.journal, name ∉ createdIn s.journal →
    c.mayCreate C name ∧ ∀ n, name.needs = some n → n ∈ createdIn s.journal

section History

theorem createdIn_created : createdIn ((t, .created name) :: past) = name :: createdIn past := rfl

theorem createdIn_wrote : createdIn ((t, .wrote name bytes) :: past) = createdIn past := rfl

theorem mem_createdIn : name ∈ createdIn j ↔ ∃ t, (t, Change.created name) ∈ j := by
  simp only [createdIn, List.mem_filterMap]
  constructor
  · rintro ⟨⟨t, ch⟩, hm, hc⟩
    cases ch with
    | created n =>
      cases hc
      exact ⟨t, hm⟩
    | wrote | renamed | removed => cases hc
  · rintro ⟨t, hm⟩
    exact ⟨(t, .created name), hm, rfl⟩

theorem createdIn_mono (h : i <:+ j) (hn : name ∈ createdIn i) : name ∈ createdIn j := by
  obtain ⟨t, ht⟩ := mem_createdIn.mp hn
  exact mem_createdIn.mpr ⟨t, h.subset ht⟩

theorem OpHistory.creator (h : OpHistory j) (ht : (t, .created name) ∈ j)
    (hu : (u, .created name) ∈ j) : t = u := by
  induction h with
  | nil => cases ht
  | created _ hn _ _ ih =>
    rcases List.mem_cons.mp ht with ht | ht
    · cases ht
      rcases List.mem_cons.mp hu with hu | hu
      · cases hu
        rfl
      · exact absurd (mem_createdIn.mpr ⟨u, hu⟩) hn
    · have hold := mem_createdIn.mpr ⟨t, ht⟩
      rcases List.mem_cons.mp hu with hu | hu
      · cases hu
        exact absurd hold hn
      · exact ih ht hu
  | wrote _ _ ih =>
    rcases List.mem_cons.mp ht with ht | ht
    · cases ht
    · rcases List.mem_cons.mp hu with hu | hu
      · cases hu
      · exact ih ht hu

theorem OpHistory.key_not_created (h : OpHistory j) : FileName.key ∉ createdIn j := by
  induction h with
  | nil => exact List.not_mem_nil
  | created _ _ hk _ ih =>
    intro hm
    rcases List.mem_cons.mp (createdIn_created ▸ hm) with he | hm
    · exact hk he.symm
    · exact ih hm
  | wrote _ _ ih => exact ih

end History

section Contract
variable {C : Crypto} {key : Bytes} {t : Tid} {c : OpCmd}

theorem OpRely.refl (t : Tid) (s : World) : OpRely t s s :=
  ⟨rfl, fun _ _ _ => ⟨rfl, rfl⟩, List.suffix_rfl⟩

theorem OpRely.trans (h : OpRely t s u) (h' : OpRely t u v) : OpRely t s v where
  owned := h'.owned.trans h.owned
  frozen l hl hx := by
    have ha := h.frozen l hl hx
    have hb := h'.frozen l (h.owned ▸ hl) hx
    exact ⟨hb.1.trans ha.1, hb.2.trans ha.2⟩
  grows := h.grows.trans h'.grows

theorem OpGuar.rely (hu : u ≠ t) (hi : OpInv key s) (h : OpGuar C t c s s') : OpRely u s s' where
  owned := World.owned_of_others h.others hu
  frozen l hl hx := by
    apply h.quiet
    obtain ⟨hm, ho⟩ := World.mem_owned.mp hl
    rw [World.owned, hi.alone l hm hx]
    simp [ho, hu]
  grows := h.grows

/-- A change of locks or of random history only. -/
theorem OpGuar.of_files (ho : s'.others t = s.others t) (hd : s'.dir = s.dir)
    (hj : s'.journal = s.journal) : OpGuar C t c s s' where
  others := ho
  quiet _ := ⟨hd, hj⟩
  grows := hj ▸ List.suffix_rfl
  made name hn hs := by
    rw [hj] at hn
    exact absurd hn hs

theorem OpGuar.refl (C : Crypto) (t : Tid) (c : OpCmd) (s : World) : OpGuar C t c s s :=
  .of_files rfl rfl rfl

theorem OpInv.of_locks (hi : OpInv key w) (hl : LockInv w') (hd : w'.dir = w.dir)
    (hj : w'.journal = w.journal) : OpInv key w' := by
  refine ⟨hl, ?_, ?_, ?_⟩
  · rw [hd]
    exact hi.stored
  · rw [hd, hj]
    exact hi.files
  · rw [hj]
    exact hi.history

/-- The setting in which task `t` runs command `c`. -/
def opSetting (C : Crypto) (key : Bytes) (t : Tid) (c : OpCmd) :
    Setting Op Op.Ret Choice World where
  exec := storeExec t
  Inv := OpInv key
  Rely := OpRely t
  Guar := OpGuar C t c
  refl := OpRely.refl t

instance : IsStore (opSetting C key t c) t where
  exec := rfl
  guar_refl := OpGuar.refl C t c
  owned := OpRely.owned
  frozen hr hl hx := OpRely.frozen hr _ hl hx

/-- The holder of the exclusive lock creates a file whose time has come. -/
theorem OpInv.create (hi : OpInv key w) (ho : w.owned t ≠ []) (hl : w.dir.lookup name = none)
    (hn : ∀ n, name.needs = some n → n ∈ w.dir) (hm : c.mayCreate C name) :
    OpInv key (w.change t (.created name) (w.dir.insert name [])) ∧
      OpGuar C t c w (w.change t (.created name) (w.dir.insert name [])) := by
  have habsent : name ∉ w.dir := AList.lookup_eq_none.mp hl
  have hkey : name ≠ .key := by
    rintro rfl
    rw [hi.stored] at hl
    cases hl
  have hnew : name ∉ createdIn w.journal := fun h => habsent ((hi.files name).mpr (.inr h))
  have hneeds (n : FileName) (h : name.needs = some n) : n ∈ createdIn w.journal := by
    rcases (hi.files n).mp (hn n h) with rfl | hc
    · cases name with
      | entry r role => cases role <;> simp [FileName.needs] at h
      | key | privacyLock | uncertainLock => simp [FileName.needs] at h
    · exact hc
  constructor
  · refine ⟨⟨hi.alone, hi.ids⟩, ?_, ?_, ?_⟩
    · exact (AList.lookup_insert_ne hkey.symm).trans hi.stored
    · intro n
      simp only [World.change, AList.mem_insert, createdIn_created, List.mem_cons, hi.files n]
      tauto
    · exact .created hi.history hnew hkey hneeds
  · refine ⟨rfl, fun h => absurd h ho, List.suffix_cons _ _, ?_⟩
    intro n hc hs
    rcases List.mem_cons.mp (createdIn_created ▸ hc) with rfl | hc
    · exact ⟨hm, hneeds⟩
    · exact absurd hc hs

theorem OpInv.write (hi : OpInv key w) (ho : w.owned t ≠ []) (hc : name ∈ createdIn w.journal) :
    OpInv key (w.write t name b) ∧ OpGuar C t c w (w.write t name b) ∧
      (w.write t name b).owned t = w.owned t ∧ w.journal <:+ (w.write t name b).journal := by
  have hin : name ∈ w.dir := (hi.files name).mpr (.inr hc)
  have hkey : name ≠ .key := by
    rintro rfl
    exact hi.history.key_not_created hc
  rw [World.write_eq (AList.lookup_isSome.mpr hin)]
  refine ⟨⟨⟨hi.alone, hi.ids⟩, ?_, ?_, ?_⟩, ?_, rfl, List.suffix_cons _ _⟩
  · exact (AList.lookup_insert_ne hkey.symm).trans hi.stored
  · intro n
    simp only [World.change, AList.mem_insert, createdIn_wrote, ← hi.files n]
    constructor
    · rintro (rfl | h)
      · exact hin
      · exact h
    · exact .inr
  · exact .wrote hi.history hc
  · refine ⟨rfl, fun h => absurd h ho, List.suffix_cons _ _, ?_⟩
    intro n hn hs
    exact absurd (createdIn_wrote ▸ hn) hs

end Contract

end AgentBrowser
