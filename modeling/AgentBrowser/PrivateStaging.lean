import AgentBrowser.GateReadback
import AgentBrowser.PrivateOperation

namespace AgentBrowser.Private
open Durable
set_option autoImplicit true

/-- Any surroundings of a task of a store: nobody writes the files that the task wrote. -/
def taskSetting (t : Tid) : Setting Op Op.Ret Choice World where
  exec := storeExec t
  Inv _ := True
  Rely s s' := s'.owned t = s.owned t ∧
    (∀ l ∈ s.owned t, l.exclusive = true → s'.dir = s.dir ∧ s'.journal = s.journal) ∧
    s'.own t = s.own t ∧ s.drawn ⊆ s'.drawn ∧
    ∀ name bytes, (t, Change.wrote name bytes) ∈ s.own t → s'.dir.lookup name = s.dir.lookup name
  Guar _ _ := True
  refl _ := ⟨rfl, fun _ _ _ => ⟨rfl, rfl⟩, rfl, fun _ h => h, fun _ _ _ => rfl⟩

instance : IsStore (taskSetting t) t where
  exec := rfl
  guar_refl _ := trivial
  owned hr := hr.1
  frozen hr hl hx := hr.2.1 _ hl hx

/-- The task staged these payloads under their references, and they are on disk. -/
def Staged (C : Crypto) (key : Bytes) (t : Tid) (pairs : List (String × Bytes)) (w : World) :
    Prop :=
  ∀ pair ∈ pairs, pair.1 ∈ w.drawn ∧ ∃ envelope,
    (t, Change.wrote (.entry pair.1 .payload) envelope) ∈ w.own t ∧
    w.dir.lookup (.entry pair.1 .payload) = some envelope ∧
    openEnvelope C key pair.1 .payload envelope = some pair.2

section Stages
variable {C : Crypto} {t : Tid} {h : Handle} {pairs : List (String × Bytes)}

theorem Staged.stable : (taskSetting t).Stable (Staged C key t pairs) := by
  intro s s' hs hr _ pair hpair
  obtain ⟨hdrawn, envelope, hwrote, hfile, hopen⟩ := hs pair hpair
  exact ⟨hr.2.2.2.1 hdrawn, envelope, hr.2.2.1 ▸ hwrote, (hr.2.2.2.2 _ _ hwrote).trans hfile, hopen⟩

theorem Staged.change (hs : Staged C key t pairs w)
    (hname : ∀ pair ∈ pairs, FileName.entry pair.1 .payload ≠ name) :
    Staged C key t pairs (w.change t ch (w.dir.insert name bytes)) := by
  intro pair hpair
  obtain ⟨hdrawn, envelope, hwrote, hfile, hopen⟩ := hs pair hpair
  refine ⟨hdrawn, envelope, ?_, ?_, hopen⟩
  · simp only [World.own, World.change, List.filter_cons, decide_true, ↓reduceIte]
    exact List.mem_cons_of_mem _ hwrote
  · rw [World.change, AList.lookup_insert_ne (hname pair hpair), hfile]

theorem owned_unlock (w : World) :
    (w.unlock t lease).owned t = (w.owned t).filter (·.id ≠ lease) := by
  simp only [World.owned, World.unlock, List.filter_filter]
  apply List.filter_congr
  intro a _
  by_cases ha : a.owner = t <;> simp [ha]

/-- The lock that a handle's call takes. -/
abbrev handleLock (t : Tid) (h : Handle) (lease : Nat) : Lock := ⟨lease, t, true, some h.id⟩

/-- A call under the lock of a handle, by what it establishes of what the lock protects. -/
theorem checkedLock_returns {P : World → Prop} {Q : α → World → Prop} {body : StoreProg α}
    (hp : (taskSetting t).Stable P) (hq : ∀ a, (taskSetting t).Stable (Q a))
    (hpl : ∀ w ls n, P w → P { w with locks := ls, nextLease := n })
    (hql : ∀ a w ls n, Q a w → Q a { w with locks := ls, nextLease := n })
    (hbody : ∀ lease, (taskSetting t).Returns
      (fun w => w.owned t = [handleLock t h lease] ∧ P w) body
      fun a w => w.owned t = [handleLock t h lease] ∧ Q a w) :
    (taskSetting t).Returns (fun w => w.owned t = [] ∧ P w) (checkedLock h body)
      fun a w => w.owned t = [] ∧ Q a w := by
  have hstart : (taskSetting t).Stable fun w => w.owned t = [] ∧ P w := owned_stable.and hp
  apply Setting.Returns.then (validDirectory_reads hstart)
  intro _ _
  apply Setting.Returns.step (R := fun lease w => w.owned t = [handleLock t h lease] ∧ P w) hstart
  · intro s hi hs ch r s' he
    refine ⟨trivial, trivial, fun lease hr => ?_⟩
    subst hr
    cases ch <;> simp only [taskSetting, storeExec, reduceCtorEq, Option.ite_none_left_eq_some,
      Option.some.injEq, World.flock] at he
    · obtain ⟨-, he⟩ := he
      split at he
      · cases he
        refine ⟨?_, hpl _ _ _ hs.2⟩
        have howned : s.locks.filter (·.owner = t) = [] := hs.1
        change (⟨s.nextLease, t, true, some h.id⟩ :: s.locks).filter (·.owner = t) = _
        rw [List.filter_cons_of_pos (by simp), howned]
      · cases he
    · cases he
  · intro lease
    have hheld : (taskSetting t).Stable fun w => w.owned t = [handleLock t h lease] ∧ P w :=
      owned_stable.and hp
    apply Setting.Returns.andThen _ _ fun a => owned_stable.and (hq a)
    · exact fun a w => w.owned t = [handleLock t h lease] ∧ Q a w
    · apply Setting.Returns.then (gateKey_any hheld)
      exact fun _ _ => hbody lease
    · intro s _ ch r s' he
      refine ⟨trivial, trivial, ?_⟩
      cases ch <;> simp only [taskSetting, storeExec, reduceCtorEq, Option.some.injEq] at he
      cases he
      rintro a ⟨howned, ha⟩
      refine ⟨?_, hql a _ _ _ ha⟩
      rw [owned_unlock, howned]
      simp

theorem encrypt_opens (hC : C.Lawful) {P : World → Prop} (hp : (taskSetting t).Stable P) :
    (taskSetting t).Reads P (encrypt C key reference role bytes) fun envelope =>
      openEnvelope C key reference role envelope = some bytes := by
  apply Setting.Reads.bind (Setting.Reads.ensure hp)
  intro _ _
  apply Setting.Reads.bind (randomNonce_reads hp)
  intro nonce hn s hi hs
  apply (Setting.Reads.okOr hp s hi hs).mono
  intro r w _ hw
  exact ⟨hw.1, fun envelope hr => openEnvelope_seal hC hn (hw.2 envelope hr)⟩

/-- Drawing a reference that was never drawn. -/
theorem drawReference {l : Lock} :
    (taskSetting t).Returns (fun w => w.owned t = [l] ∧ Staged C key t pairs w) randomReference
      fun reference w => w.owned t = [l] ∧ Staged C key t pairs w ∧ reference ∈ w.drawn ∧
        ∀ pair ∈ pairs, pair.1 ≠ reference := by
  have hp : (taskSetting t).Stable fun w => w.owned t = [l] ∧ Staged C key t pairs w :=
    owned_stable.and Staged.stable
  apply Setting.Triple.call hp
  · intro s _ hs ch r s' he
    refine ⟨trivial, trivial, ?_⟩
    cases ch <;> simp only [taskSetting, storeExec, reduceCtorEq, Option.some.injEq,
      Option.ite_none_right_eq_some, Bool.and_eq_true, decide_eq_true_eq, Prod.mk.injEq] at he
    · obtain ⟨rfl, rfl⟩ := he
      trivial
    · obtain ⟨⟨-, hfresh⟩, rfl, rfl⟩ := he
      refine ⟨hs.1, fun pair hpair => ?_, List.mem_cons_self, ?_⟩
      · obtain ⟨hdrawn, hrest⟩ := hs.2 pair hpair
        exact ⟨List.mem_cons_of_mem _ hdrawn, hrest⟩
      · rintro pair hpair rfl
        exact hfresh (hs.2 pair hpair).1
  · intro r
    cases r with
    | ok reference =>
      exact owned_stable.and (Staged.stable.and
        (Stable.and (fun _ _ hd hr _ => hr.2.2.2.1 hd) (.const _)))
    | error e => exact .const _

theorem createPayload (hfresh : ∀ pair ∈ pairs, pair.1 ≠ reference)
    (hopen : openEnvelope C key reference .payload envelope = some payload) {l : Lock}
    (hx : l.exclusive = true) :
    (taskSetting t).Returns
      (fun w => w.owned t = [l] ∧ Staged C key t pairs w ∧ reference ∈ w.drawn)
      (create (.entry reference .payload) envelope)
      fun _ w => w.owned t = [l] ∧ Staged C key t ((reference, payload) :: pairs) w := by
  have hdrawn : (taskSetting t).Stable fun w => reference ∈ w.drawn :=
    fun _ _ hd hr _ => hr.2.2.2.1 hd
  have hne : ∀ pair ∈ pairs, FileName.entry pair.1 .payload ≠ .entry reference .payload := by
    intro pair hpair he
    exact hfresh pair hpair (FileName.entry.inj he).1
  have hfile : (taskSetting t).Stable fun w => Sole t l (fun d _ =>
      (d.lookup (.entry reference .payload)).isSome) w := Sole.stable
  have hcreate := @create_triple t (taskSetting t) _ (.entry reference .payload) envelope
    (fun w => w.owned t = [l] ∧ Staged C key t pairs w ∧ reference ∈ w.drawn)
    (fun w => Sole t l (fun d _ => (d.lookup (.entry reference .payload)).isSome) w ∧
      Staged C key t pairs w ∧ reference ∈ w.drawn)
    (fun w => w.owned t = [l] ∧ Staged C key t ((reference, payload) :: pairs) w)
    (owned_stable.and (Staged.stable.and hdrawn)) (hfile.and (Staged.stable.and hdrawn))
    (owned_stable.and Staged.stable) ?_ ?_
  · exact hcreate.weaken (fun _ _ h => h) (fun _ _ _ h => h) fun _ _ _ _ => trivial
  · rintro w _ ⟨ho, hs, hd⟩ _
    refine ⟨trivial, trivial, ⟨ho, hx, ?_⟩, hs.change hne, hd⟩
    simp only [World.change, AList.lookup_insert, Option.isSome_some]
  · rintro w b _ ⟨⟨ho, hx, hlook⟩, hs, hd⟩
    rw [World.write_eq hlook]
    have hkept : Staged C key t pairs (w.change t (.wrote (.entry reference .payload) b)
      (w.dir.insert (.entry reference .payload) b)) := hs.change hne
    refine ⟨trivial, trivial, ⟨⟨ho, hx, ?_⟩, hkept, hd⟩, ?_⟩
    · simp only [World.change, AList.lookup_insert, Option.isSome_some]
    · rintro rfl
      refine ⟨ho, List.forall_mem_cons.mpr ⟨⟨hd, b, ?_, ?_, hopen⟩, hkept⟩⟩
      · simp [World.own, World.change]
      · simp only [World.change, AList.lookup_insert]

/-- A payload that is staged is on disk under its reference. -/
theorem stage_returns (hC : C.Lawful) :
    (taskSetting t).Returns (fun w => w.owned t = [] ∧ Staged C h.key t pairs w)
      (stage C h payload)
      fun reference w => w.owned t = [] ∧ Staged C h.key t ((reference, payload) :: pairs) w := by
  apply checkedLock_returns Staged.stable (fun _ => Staged.stable) (fun _ _ _ hs => hs)
    (fun _ _ _ _ hs => hs)
  intro lease
  have hp : (taskSetting t).Stable
      fun w => w.owned t = [handleLock t h lease] ∧ Staged C h.key t pairs w :=
    owned_stable.and Staged.stable
  apply Setting.Returns.then (fileCount_reads (V := fun _ => True) hp fun _ _ _ => trivial)
  intro count _
  apply Setting.Returns.ensure hp
  intro _
  apply Setting.Returns.seq drawReference
  intro reference
  apply Setting.Triple.conseq _ (fun w _ hw => (⟨hw.2.2.2, hw.1, hw.2.1, hw.2.2.1⟩ :
    (∀ pair ∈ pairs, pair.1 ≠ reference) ∧ w.owned t = [handleLock t h lease] ∧
      Staged C h.key t pairs w ∧ reference ∈ w.drawn)) (fun _ _ _ hr => hr)
  apply Setting.Triple.and_left
  intro hfresh
  have hq : (taskSetting t).Stable fun w => w.owned t = [handleLock t h lease] ∧
      Staged C h.key t pairs w ∧ reference ∈ w.drawn :=
    owned_stable.and (Staged.stable.and fun _ _ hd hr _ => hr.2.2.2.1 hd)
  apply Setting.Returns.then (encrypt_opens hC hq)
  intro envelope hopen
  apply Setting.Returns.seq (createPayload hfresh hopen rfl)
  exact fun _ => .pure (owned_stable.and Staged.stable) fun _ _ hw => hw

/-- Loading a staged reference gives its payload. -/
theorem load_returns (hpair : (reference, payload) ∈ pairs) :
    (taskSetting t).Returns (fun w => w.owned t = [] ∧ Staged C h.key t pairs w)
      (load C h reference)
      fun bytes w => w.owned t = [] ∧ Staged C h.key t pairs w ∧ bytes = payload := by
  apply checkedLock_returns Staged.stable (fun _ => Staged.stable.and (.const _))
    (fun _ _ _ hs => hs) (fun _ _ _ _ hs => hs)
  intro lease s hi hs
  obtain ⟨-, envelope, hwrote, hfile, hopen⟩ := hs.2 (reference, payload) hpair
  have hstable : (taskSetting t).Stable fun w =>
      w.owned t = [handleLock t h lease] ∧ Staged C h.key t pairs w ∧
      (t, Change.wrote (.entry reference .payload) envelope) ∈ w.own t ∧
      w.dir.lookup (.entry reference .payload) = some envelope := by
    rintro a b ⟨ho, hst, hw, hf⟩ hr hb
    exact ⟨hr.1.trans ho, Staged.stable a b hst hr hb, hr.2.2.1 ▸ hw,
      (hr.2.2.2.2 _ _ hw).trans hf⟩
  have hreads := decrypt_reads (k := h.key) hstable C reference .payload (fun _ _ hw => hw.2.2.2) s hi
    ⟨hs.1, hs.2, hwrote, hfile⟩
  apply hreads.mono
  rintro r w _ ⟨hw, hv⟩
  cases r with
  | error e => trivial
  | ok bytes =>
    obtain ⟨-, found, hfound, hbytes⟩ := hv bytes rfl
    cases hfound
    rw [hopen] at hbytes
    exact ⟨hw.1, hw.2.1, (Option.some.inj hbytes).symm⟩

end Stages

end AgentBrowser.Private
