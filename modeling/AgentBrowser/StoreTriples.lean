import AgentBrowser.SecretStore

namespace AgentBrowser
open Durable
set_option autoImplicit true

attribute [local simp] storeExec

namespace World

def owned (w : World) (t : Tid) : List Lock := w.locks.filter (·.owner = t)

def others (w : World) (t : Tid) : List Lock := w.locks.filter (·.owner ≠ t)

/-- The changes a task made itself, newest first. -/
def own (w : World) (t : Tid) : List (Tid × Change) := w.journal.filter (·.1 = t)

theorem mem_owned {w : World} : l ∈ w.owned t ↔ l ∈ w.locks ∧ l.owner = t := by
  simp only [World.owned, List.mem_filter, decide_eq_true_eq]

theorem owned_of_others {w w' : World} (h : w'.others t = w.others t) (hu : u ≠ t) :
    w'.owned u = w.owned u := by
  have he (v : World) : v.owned u = (v.others t).filter (·.owner = u) := by
    simp only [World.owned, World.others, List.filter_filter]
    apply List.filter_congr
    intro l _
    by_cases hl : l.owner = u
    · simp [hl, hu]
    · simp [hl]
  rw [he, he, h]

theorem own_change {w : World} (hu : u ≠ t) : (w.change t ch d).own u = w.own u := by
  simp only [World.own, World.change]
  rw [List.filter_cons]
  simp [hu.symm]

theorem owned_halt {w : World} {t : Tid} (h : t.1 ≠ pid) : (w.halt pid).owned t = w.owned t := by
  simp only [World.owned, World.halt, List.filter_filter]
  apply List.filter_congr
  intro l _
  by_cases hl : l.owner = t
  · simp [hl, h]
  · simp [hl]

theorem owned_halted {w : World} {t : Tid} : (w.halt t.1).owned t = [] := by
  apply List.filter_eq_nil_iff.mpr
  intro l hl
  have ho := (List.mem_filter.mp hl).2
  simp only [decide_not, Bool.not_eq_true', decide_eq_false_iff_not] at ho
  simp only [decide_eq_true_eq]
  intro h
  exact ho (congrArg Prod.fst h)

theorem write_eq {w : World} (h : (w.dir.lookup name).isSome) :
    w.write t name b = w.change t (.wrote name b) (w.dir.insert name b) := by
  simp only [World.write]
  cases hl : w.dir.lookup name with
  | none => rw [hl] at h; cases h
  | some _ => rfl

end World

/-- Locks are shared or alone, and each has a number of its own. -/
structure LockInv (w : World) : Prop where
  alone : ∀ l ∈ w.locks, l.exclusive = true → w.locks = [l]
  ids : ∀ l ∈ w.locks, l.id < w.nextLease

theorem LockInv.flock (hi : LockInv w) (h : w.flock t exclusive via = (.ok l, w')) :
    LockInv w' ∧ w'.others t = w.others t ∧ l = w.nextLease ∧
      w'.owned t = ⟨l, t, exclusive, via⟩ :: w.owned t ∧ (exclusive = true → w.locks = []) ∧
      w'.dir = w.dir ∧ w'.journal = w.journal ∧ w'.drawn = w.drawn := by
  simp only [World.flock] at h
  split at h
  · rename_i hg
    simp only [Prod.mk.injEq, Except.ok.injEq] at h
    obtain ⟨rfl, rfl⟩ := h
    have hempty : exclusive = true → w.locks = [] := by
      intro hx
      rw [hx] at hg
      simpa [World.canLock] using hg
    refine ⟨⟨?_, ?_⟩, by simp [World.others], rfl, by simp [World.owned], hempty, rfl, rfl, rfl⟩
    · intro a ha hx
      cases exclusive with
      | true =>
        simp only [hempty rfl, List.mem_singleton] at ha ⊢
        rw [ha]
      | false =>
        simp only [World.canLock, Bool.false_eq_true, ↓reduceIte, List.all_eq_true,
          Bool.not_eq_true'] at hg
        rcases List.mem_cons.mp ha with rfl | hm
        · cases hx
        · exact absurd hx (by simp [hg a hm])
    · intro a ha
      rcases List.mem_cons.mp ha with rfl | ha
      · exact Nat.lt_succ_self _
      · exact Nat.lt_succ_of_lt (hi.ids a ha)
  · cases h

theorem LockInv.unlock (hi : LockInv w) :
    LockInv (w.unlock t l) ∧ (w.unlock t l).others t = w.others t ∧
      (w.unlock t l).owned t = (w.owned t).filter (·.id ≠ l) := by
  refine ⟨⟨?_, ?_⟩, ?_, ?_⟩
  · intro a ha hx
    have hm := (List.mem_filter.mp ha).1
    simp only [World.unlock, hi.alone a hm hx] at ha ⊢
    exact List.filter_eq_self.mpr fun b hb => by
      rw [List.mem_singleton.mp hb]
      exact (List.mem_filter.mp ha).2
  · exact fun a ha => hi.ids a (List.mem_filter.mp ha).1
  · simp only [World.others, World.unlock, List.filter_filter]
    apply List.filter_congr
    intro a _
    by_cases ha : a.owner = t <;> simp [ha]
  · simp only [World.owned, World.unlock, List.filter_filter]
    apply List.filter_congr
    intro a _
    by_cases ha : a.owner = t <;> simp [ha]

theorem LockInv.halt (hi : LockInv w) (pid : Nat) : LockInv (w.halt pid) := by
  refine ⟨?_, fun a ha => hi.ids a (List.mem_filter.mp ha).1⟩
  intro a ha hx
  have hm := (List.mem_filter.mp ha).1
  simp only [World.halt, hi.alone a hm hx] at ha ⊢
  exact List.filter_eq_self.mpr fun b hb => by
    rw [List.mem_singleton.mp hb]
    exact (List.mem_filter.mp ha).2

/-- A setting in which task `t` calls the store's system, and in which nobody changes anything
under a lock that it holds alone. -/
class IsStore (S : Setting Op Op.Ret Choice World) (t : outParam Tid) : Prop where
  exec : S.exec = storeExec t
  guar_refl : ∀ s, S.Guar s s
  owned : ∀ {s s'}, S.Rely s s' → s'.owned t = s.owned t
  frozen : ∀ {s s' l}, S.Rely s s' → l ∈ s.owned t → l.exclusive = true →
    s'.dir = s.dir ∧ s'.journal = s.journal

/-- The exclusive holder knows the directory and the journal. -/
def Sole (t : Tid) (l : Lock)
    (F : (AList fun _ : FileName => Bytes) → List (Tid × Change) → Prop) (w : World) : Prop :=
  w.owned t = [l] ∧ l.exclusive = true ∧ F w.dir w.journal

theorem sole_intro {S : Setting Op Op.Ret Choice World} {p : StoreProg α}
    {T : Except StoreError α → World → Prop} (hl : l.exclusive = true)
    (h : ∀ d j, S.Triple (Sole t l fun d' j' => d' = d ∧ j' = j) p T) :
    S.Triple (fun w => w.owned t = [l]) p T :=
  fun s hi hs => h s.dir s.journal s hi ⟨hs, hl, rfl, rfl⟩

section Store
variable {S : Setting Op Op.Ret Choice World} [store : IsStore S t]

theorem owned_stable : S.Stable fun w => w.owned t = ls :=
  fun _ _ h hr _ => (IsStore.owned hr).trans h

theorem Sole.stable : S.Stable (Sole t l F) := by
  intro s s' h hr _
  obtain ⟨ho, he, hF⟩ := h
  have hf := IsStore.frozen hr (by rw [ho]; exact List.mem_cons_self) he
  exact ⟨(IsStore.owned hr).trans ho, he, by rw [hf.1, hf.2]; exact hF⟩

section Reading
variable {P : World → Prop} (hp : S.Stable P)
include store hp

theorem reads_of_exec {k : Op.Ret o → Except StoreError α} {V : α → Prop}
    (h : ∀ s c r s', S.Inv s → P s → storeExec t o c s = some (r, s') →
      s' = s ∧ ∀ a, k r = .ok a → V a) :
    S.Reads P (.call o (fun r => .ofExcept (k r))) V :=
  .call hp IsStore.guar_refl fun s c r s' hi hs he => h s c r s' hi hs (IsStore.exec (S := S) ▸ he)

theorem validDirectory_reads : S.Reads P validDirectory fun _ => True :=
  reads_of_exec hp fun s ch r s' _ _ he => by
    cases ch <;> simp [storeExec] at he <;> simp [he]

theorem directoryMetadata_reads : S.Reads P directoryMetadata fun _ => True :=
  reads_of_exec hp fun s ch r s' _ _ he => by
    cases ch <;> simp [storeExec] at he <;> simp [he]

theorem syncFile_reads : S.Reads P (syncFile name) fun _ => True :=
  reads_of_exec hp fun s ch r s' _ _ he => by
    cases ch <;> simp [storeExec] at he <;> simp [he]

theorem syncDirectory_reads : S.Reads P syncDirectory fun _ => True :=
  reads_of_exec hp fun s ch r s' _ _ he => by
    cases ch <;> simp [storeExec] at he <;> simp [he]

theorem randomNonce_reads : S.Reads P randomNonce fun n => n.length = 12 :=
  reads_of_exec hp fun s ch r s' _ _ he => by
    cases ch <;> simp [storeExec] at he <;> grind

theorem fileCount_reads {V : Nat → Prop} (hv : ∀ w, S.Inv w → P w → V w.dir.keys.length) :
    S.Reads P fileCount V :=
  reads_of_exec hp fun s ch r s' hi hs he => by
    have hl := hv s hi hs
    cases ch <;> simp [storeExec, World.fileCount] at he <;> grind

theorem readOptional_reads (hx : ∀ w, S.Inv w → P w → w.dir.lookup name = x) :
    S.Reads P (readOptional name limit) fun v => v = x :=
  reads_of_exec hp fun s ch r s' hi hs he => by
    have hl := hx s hi hs
    cases ch <;> simp [storeExec, World.read] at he <;> grind

theorem readOptional_any : S.Reads P (readOptional name limit) fun _ => True :=
  reads_of_exec hp fun s ch r s' _ _ he => by
    cases ch <;> simp [storeExec] at he <;> grind

theorem gateKey_reads (hk : ∀ w, S.Inv w → P w → w.dir.lookup .key = some key) :
    S.Reads P (gateKey k) fun _ => k = key := by
  apply Setting.Reads.bind (readOptional_reads hp hk)
  intro file hf
  apply Setting.Reads.bind (Setting.Reads.okOr hp)
  intro current hc s hi hs
  apply (Setting.Reads.ensure hp s hi hs).mono
  intro r w _ hw
  apply And.intro hw.1
  intro a ha
  have he := hw.2 a ha
  rw [beq_iff_eq] at he
  exact he.symm.trans (Option.some.inj (hc.symm.trans hf))

theorem decrypt_reads (C : Crypto) (reference : String) (role : Role)
    (hx : ∀ w, S.Inv w → P w → w.dir.lookup (.entry reference role) = x) :
    S.Reads P (decrypt C k reference role) fun bytes =>
      isReference reference = true ∧
        ∃ envelope, x = some envelope ∧ openEnvelope C k reference role envelope = some bytes := by
  apply Setting.Reads.bind (Setting.Reads.ensure hp)
  intro _ hr
  apply Setting.Reads.bind (readOptional_reads hp hx)
  intro file hf
  apply Setting.Reads.bind (Setting.Reads.okOr hp)
  intro envelope he s hi hs
  apply (Setting.Reads.okOr hp s hi hs).mono
  intro r w _ hw
  exact ⟨hw.1, fun a ha => ⟨hr, envelope, hf.symm.trans he, hw.2 a ha⟩⟩

end Reading

/-- Creating a file, by what its two changes of the directory establish. -/
theorem create_triple {P P₁ P₂ : World → Prop} (hp : S.Stable P) (h₁ : S.Stable P₁)
    (h₂ : S.Stable P₂)
    (ho : ∀ w, S.Inv w → P w → w.dir.lookup name = none →
      S.Inv (w.change t (.created name) (w.dir.insert name [])) ∧
      S.Guar w (w.change t (.created name) (w.dir.insert name [])) ∧
      P₁ (w.change t (.created name) (w.dir.insert name [])))
    (hw : ∀ w b, S.Inv w → P₁ w → S.Inv (w.write t name b) ∧
      S.Guar w (w.write t name b) ∧ P₁ (w.write t name b) ∧
      (b = bytes → P₂ (w.write t name b))) :
    S.Triple P (create name bytes)
      (Outcome (fun _ => P₂) fun _ w => P w ∨ P₁ w ∨ P₂ w) := by
  have hor : S.Stable fun w => P w ∨ P₁ w ∨ P₂ w := hp.or (h₁.or h₂)
  have hex : S.exec = storeExec t := IsStore.exec
  have hrefl : ∀ s, S.Guar s s := IsStore.guar_refl
  apply Setting.Reads.then (fileCount_reads (V := fun _ => True) hp fun _ _ _ => trivial)
  · intro n _
    apply Setting.Triple.ensure hp
    · intro _
      apply Setting.Triple.step (Q := fun _ w => P₁ w) hp _ _ (fun _ => hor)
      · intro s hi hs ch r s' he
        rw [hex] at he
        cases ch <;> simp only [storeExec, reduceCtorEq, Option.some.injEq] at he
        · cases hl : s.dir.lookup name with
          | some b =>
            simp only [World.openExclusive, hl, Prod.mk.injEq] at he
            obtain ⟨rfl, rfl⟩ := he
            exact ⟨hi, hrefl s, nofun, fun _ _ => .inl hs⟩
          | none =>
            simp only [World.openExclusive, hl, Prod.mk.injEq] at he
            obtain ⟨rfl, rfl⟩ := he
            obtain ⟨hi', hg, hq⟩ := ho s hi hs hl
            exact ⟨hi', hg, fun _ _ => hq, nofun⟩
        · simp only [Prod.mk.injEq] at he
          obtain ⟨rfl, rfl⟩ := he
          exact ⟨hi, hrefl s, nofun, fun _ _ => .inl hs⟩
      · intro _
        apply Setting.Triple.step (Q := fun _ w => P₂ w) h₁ _ _ (fun _ => hor)
        · intro s hi hs ch r s' he
          rw [hex] at he
          cases ch <;> simp only [storeExec, reduceCtorEq, Option.some.injEq,
            Prod.mk.injEq] at he
          · obtain ⟨rfl, rfl⟩ := he
            obtain ⟨hi', hg, _, hq⟩ := hw s bytes hi hs
            exact ⟨hi', hg, fun _ _ => hq rfl, nofun⟩
          · obtain ⟨rfl, rfl⟩ := he
            exact ⟨hi, hrefl s, nofun, fun _ _ => .inr (.inl hs)⟩
          · obtain ⟨rfl, rfl⟩ := he
            obtain ⟨hi', hg, hq, _⟩ := hw s _ hi hs
            exact ⟨hi', hg, nofun, fun _ _ => .inr (.inl hq)⟩
        · intro _
          apply Setting.Reads.then (syncFile_reads h₂)
          · intro _ _
            apply (syncDirectory_reads h₂).outcome.weaken (fun _ _ h => h)
            · exact fun _ _ _ h => h.1
            · exact fun _ _ _ h => .inr (.inr h)
          · exact fun e w _ hw => .inr (.inr hw)
    · exact fun _ w _ hw => .inl hw
  · exact fun e w _ hw => .inl hw

end Store

end AgentBrowser
