import AgentBrowser.BoundExecution
import AgentBrowser.OperationLifecycle

namespace AgentBrowser.Private
open Durable JsonText
set_option autoImplicit true

def Deed.dir : Deed → StoreDir
  | .journeyStarted dir _ | .operationExecuted dir _ => dir

/-- The file whose creation a deed uses up. -/
def Deed.marker (C : Crypto) (keys : StoreDir → Bytes) : Deed → FileName
  | .journeyStarted dir consent => .entry (journeyKey C (keys dir) consent) .journeyConsent
  | .operationExecuted _ reference => .entry reference .admitted

/-- The deeds of task `t`, newest first. -/
def PlanWorld.own (w : PlanWorld) (t : Tid) : List Deed :=
  (w.deeds.filter (·.1 = t)).map (·.2)

/-- Deeds that use up different files. -/
def Apart (C : Crypto) (keys : StoreDir → Bytes) (a b : Deed) : Prop :=
  ¬ (a.dir = b.dir ∧ a.marker C keys = b.marker C keys)

/-- The deeds of a root, newest first: a task executes operations after it started a journey. -/
inductive DeedHistory : List (Tid × Deed) → Prop where
  | nil : DeedHistory []
  | started : DeedHistory past → DeedHistory ((t, .journeyStarted dir consent) :: past)
  | executed : DeedHistory past → (t, .journeyStarted dir consent) ∈ past →
      DeedHistory ((t, .operationExecuted dir reference) :: past)

/-- Every deed used up a file that its task had created, and no two the same one. Deeds that were
not done in `base` used up files that were not there. -/
structure PlanInv (C : Crypto) (keys : StoreDir → Bytes) (base w : PlanWorld) : Prop where
  stores : ∀ dir, OpInv (keys dir) (w.store dir)
  marked : ∀ x ∈ w.deeds, (x.1, .created (x.2.marker C keys)) ∈ (w.store x.2.dir).journal
  once : w.deeds.Pairwise fun x y => Apart C keys x.2 y.2
  history : DeedHistory w.deeds
  grown : ∀ dir, (base.store dir).journal <:+ (w.store dir).journal
  kept : base.deeds <:+ w.deeds
  fresh : ∀ x ∈ w.deeds, x ∈ base.deeds ∨
    x.2.marker C keys ∉ createdIn (base.store x.2.dir).journal

/-- What task `t` counts on in each directory, and of its own deeds. -/
structure PlanRely (t : Tid) (w w' : PlanWorld) : Prop where
  stores : ∀ dir, OpRely t (w.store dir) (w'.store dir)
  own : w'.own t = w.own t

/-- What an operation of task `t` can do. -/
structure PlanGuar (C : Crypto) (t : Tid) (w w' : PlanWorld) : Prop where
  stores : ∀ dir, w'.store dir = w.store dir ∨ ∃ c, OpGuar C t c (w.store dir) (w'.store dir)
  others : ∀ u, u ≠ t → w'.own u = w.own u

/-- Task `t` has no lock in any directory. -/
def Free (t : Tid) (w : PlanWorld) : Prop := ∀ dir, (w.store dir).owned t = []

/-- Between two calls of task `t`: `since` are earlier journals, `own` its deeds. -/
structure Ready (t : Tid) (since : StoreDir → List (Tid × Change)) (own : List Deed)
    (w : PlanWorld) : Prop where
  free : Free t w
  past : ∀ dir, since dir <:+ (w.store dir).journal
  own : w.own t = own

section Contract
variable {C : Crypto} {keys : StoreDir → Bytes} {t : Tid} {base w w' : PlanWorld}
  {since : StoreDir → List (Tid × Change)}

theorem PlanRely.refl (t : Tid) (w : PlanWorld) : PlanRely t w w :=
  ⟨fun _ => OpRely.refl t _, rfl⟩

theorem PlanRely.trans (h : PlanRely t w v) (h' : PlanRely t v u) : PlanRely t w u :=
  ⟨fun dir => (h.stores dir).trans (h'.stores dir), h'.own.trans h.own⟩

theorem PlanGuar.rely (hu : u ≠ t) (hi : PlanInv C keys base w) (h : PlanGuar C t w w') :
    PlanRely u w w' where
  stores dir := by
    rcases h.stores dir with he | ⟨c, hg⟩
    · rw [he]
      exact OpRely.refl u _
    · exact hg.rely hu (hi.stores dir)
  own := h.others u hu

theorem PlanGuar.refl (C : Crypto) (t : Tid) (w : PlanWorld) : PlanGuar C t w w :=
  ⟨fun _ => .inl rfl, fun _ _ => rfl⟩

/-- The setting of task `t`. -/
def planSetting (C : Crypto) (keys : StoreDir → Bytes) (base : PlanWorld) (t : Tid) :
    Setting PlanOp PlanOp.Ret PlanChoice PlanWorld where
  exec := planExec t
  Inv := PlanInv C keys base
  Rely := PlanRely t
  Guar := PlanGuar C t
  refl := PlanRely.refl t

theorem mem_own {deed : Deed} : deed ∈ w.own t ↔ (t, deed) ∈ w.deeds := by
  simp only [PlanWorld.own, List.mem_map, List.mem_filter, decide_eq_true_eq]
  constructor
  · rintro ⟨⟨u, d⟩, ⟨hm, rfl⟩, rfl⟩
    exact hm
  · exact fun hm => ⟨(t, deed), ⟨hm, rfl⟩, rfl⟩

theorem own_did (w : PlanWorld) (t : Tid) (deed : Deed) :
    (w.did t deed).own t = deed :: w.own t := by
  simp [PlanWorld.own, PlanWorld.did]

theorem own_did_ne (w : PlanWorld) (deed : Deed) (h : u ≠ t) : (w.did t deed).own u = w.own u := by
  simp [PlanWorld.own, PlanWorld.did, h.symm]

/-- One step of a store that keeps what is promised in its directory. -/
theorem PlanInv.setStore (hi : PlanInv C keys base w) (hv : OpInv (keys dir) v)
    (hj : (w.store dir).journal <:+ v.journal) : PlanInv C keys base (w.setStore dir v) where
  stores d := by
    by_cases hd : d = dir
    · subst hd
      simpa only [PlanWorld.setStore, Function.update_self] using hv
    · simpa only [PlanWorld.setStore, Function.update_of_ne hd] using hi.stores d
  marked x hx := by
    have hold := hi.marked x hx
    by_cases hd : x.2.dir = dir
    · simp only [PlanWorld.setStore, hd, Function.update_self]
      exact hj.subset (hd ▸ hold)
    · simpa only [PlanWorld.setStore, Function.update_of_ne hd] using hold
  once := hi.once
  history := hi.history
  grown d := by
    by_cases hd : d = dir
    · subst hd
      simpa only [PlanWorld.setStore, Function.update_self] using (hi.grown d).trans hj
    · simpa only [PlanWorld.setStore, Function.update_of_ne hd] using hi.grown d
  kept := hi.kept
  fresh := hi.fresh

theorem PlanGuar.setStore (hg : OpGuar C t c (w.store dir) v) :
    PlanGuar C t w (w.setStore dir v) where
  stores d := by
    by_cases hd : d = dir
    · subst hd
      simp only [PlanWorld.setStore, Function.update_self]
      exact .inr ⟨c, hg⟩
    · exact .inl (Function.update_of_ne hd ..)
  others _ _ := rfl

/-- A deed whose file its task has just created, and no deed before. -/
theorem PlanInv.did {deed : Deed} (hi : PlanInv C keys base w)
    (hold : ∀ d ∈ w.own t, d.marker C keys ∈ createdIn (since d.dir))
    (hbase : (base.store deed.dir).journal <:+ since deed.dir)
    (hmade : Made t (since deed.dir) (w.store deed.dir).journal (deed.marker C keys))
    (hh : DeedHistory ((t, deed) :: w.deeds)) :
    PlanInv C keys base (w.did t deed) ∧ PlanGuar C t w (w.did t deed) := by
  refine ⟨⟨hi.stores, ?_, ?_, hh, hi.grown, hi.kept.trans (List.suffix_cons _ _), ?_⟩,
    fun _ => .inl rfl, fun u hu => own_did_ne w deed hu⟩
  · exact List.forall_mem_cons.mpr ⟨hmade.2, hi.marked⟩
  · refine List.pairwise_cons.mpr ⟨?_, hi.once⟩
    rintro ⟨u, d⟩ hd ⟨hdir, hmarker⟩
    have hcreated := hi.marked _ hd
    simp only at hdir hmarker hcreated
    rw [← hdir, ← hmarker] at hcreated
    -- one creator for the file of both deeds, so both are of task `t`
    have hu : t = u := (hi.stores deed.dir).history.creator hmade.2 hcreated
    subst hu
    apply hmade.1
    rw [hdir, hmarker]
    exact hold d (mem_own.mpr hd)
  · exact List.forall_mem_cons.mpr
      ⟨.inr fun hc => hmade.1 (createdIn_mono hbase hc), hi.fresh⟩

end Contract

section Calls
variable {C : Crypto} {E : PrivateEnv} {keys : StoreDir → Bytes} {base : PlanWorld} {t : Tid}
  {since : StoreDir → List (Tid × Change)} {own : List Deed}

theorem Free.stable : (planSetting C keys base t).Stable (Free t) :=
  fun _ _ hf hr _ dir => ((PlanRely.stores hr dir).owned).trans (hf dir)

theorem Ready.stable : (planSetting C keys base t).Stable (Ready t since own) :=
  fun _ _ h hr hi => ⟨Free.stable _ _ h.free hr hi,
    fun dir => (h.past dir).trans (PlanRely.stores hr dir).grows, (PlanRely.own hr).trans h.own⟩

/-- A program that starts and ends without locks and leaves the deeds as they are. -/
abbrev Keeps (C : Crypto) (keys : StoreDir → Bytes) (base : PlanWorld) (t : Tid)
    (since : StoreDir → List (Tid × Change)) (own : List Deed) (p : PlanProg α)
    (Q : α → PlanWorld → Prop) : Prop :=
  (planSetting C keys base t).Triple (Ready t since own) p
    (Outcome (fun a w => Ready t since own w ∧ Q a w) fun _ => Free t)

/-- What a call of one store leaves of the others. -/
def Beside (t : Tid) (since : StoreDir → List (Tid × Change)) (own : List Deed) (dir : StoreDir)
    (w : PlanWorld) : Prop :=
  (∀ d, d ≠ dir → (w.store d).owned t = []) ∧ (∀ d, since d <:+ (w.store d).journal) ∧
    w.own t = own

theorem storeHosts (c : OpCmd) (dir : StoreDir) :
    Setting.Hosts (planSetting C keys base t) (opSetting C (keys dir) t c) dir
      (PlanWorld.store · dir) (Beside t since own dir) where
  inv _ hi := hi.stores dir
  rely _ _ hr := PlanRely.stores hr dir
  frame _ _ h hr _ := ⟨fun d hd => ((PlanRely.stores hr d).owned).trans (h.1 d hd),
    fun d => (h.2.1 d).trans (PlanRely.stores hr d).grows, (PlanRely.own hr).trans h.2.2⟩
  step w o ch r w' hi hx he := by
    cases ch <;> simp only [planSetting, planExec, reduceCtorEq, Option.map_eq_some_iff] at he
    rename_i c₀
    obtain ⟨⟨r', v⟩, hc, he⟩ := he
    cases he
    have hview : (w.setStore dir v).store dir = v := Function.update_self ..
    refine ⟨c₀, hview.symm ▸ hc, ?_⟩
    rw [hview]
    intro hv hg
    have hgrows : (w.store dir).journal <:+ v.journal := OpGuar.grows hg
    refine ⟨hi.setStore hv hgrows, .setStore hg, ?_, ?_, hx.2.2⟩
    · intro d hd
      simpa only [PlanWorld.setStore, Function.update_of_ne hd] using hx.1 d hd
    · intro d
      by_cases hd : d = dir
      · subst hd
        rw [hview]
        exact (hx.2.1 d).trans hgrows
      · simpa only [PlanWorld.setStore, Function.update_of_ne hd] using hx.2.1 d

/-- What a store call does, it does within its directory. -/
theorem within_keeps {p : StoreProg α} {Q : α → List (Tid × Change) → Prop} {s : StoreHandle}
    (h : Runs C (keys s.dir) t c (since s.dir) p Q) :
    (planSetting C keys base t).Triple (Ready t since own)
      (Prog.within s.dir p.attempt : PlanProg (Except StoreError α))
      (Outcome (fun r w => Ready t since own w ∧ ∀ a, r = .ok a → Q a (w.store s.dir).journal)
        fun _ => Free t) := by
  have hattempt : (opSetting C (keys s.dir) t c).Triple
      (fun w => w.owned t = [] ∧ since s.dir <:+ w.journal)
      (p.attempt : Prog Op Op.Ret String (Except StoreError α))
      (Outcome (Ends t [] Q) fun _ _ => False) := by
    intro w hi hw
    exact (h w hi hw).attempt
  have hosts : Setting.Hosts (planSetting C keys base t) (opSetting C (keys s.dir) t c) s.dir
      (PlanWorld.store · s.dir) (Beside t since own s.dir) := storeHosts c s.dir
  apply (Setting.Triple.within hosts hattempt).conseq
  · exact fun w _ hw => ⟨⟨hw.free _, hw.past _⟩, fun d _ => hw.free d, hw.past, hw.own⟩
  · intro r w _ hw
    cases r with
    | error e => exact hw.1.elim
    | ok r =>
      have hown : (w.store s.dir).owned t = [] := by
        cases r with
        | ok a => exact hw.1.1
        | error e => exact hw.1
      have hfree : Free t w := by
        intro d
        by_cases hd : d = s.dir
        · rw [hd]
          exact hown
        · exact hw.2.1 d hd
      refine ⟨⟨hfree, hw.2.2.1, hw.2.2.2⟩, ?_⟩
      rintro a rfl
      exact hw.1.2

theorem lasting_stable {F : List (Tid × Change) → Prop} (h : Lasting F) (dir : StoreDir) :
    (planSetting C keys base t).Stable fun w => F (w.store dir).journal :=
  fun _ _ hw hr _ => h _ _ (PlanRely.stores hr dir).grows hw

theorem call_keeps {p : Handle → StoreProg α} {Q : α → List (Tid × Change) → Prop}
    {s : StoreHandle} (hQ : ∀ a, Lasting (Q a))
    (h : Runs C (keys s.dir) t c (since s.dir) (p s.handle) Q) :
    Keeps C keys base t since own (s.call error p) fun a w => Q a (w.store s.dir).journal := by
  apply Setting.Triple.seq (within_keeps h)
  · intro r
    cases r with
    | error e =>
      have hfail : (planSetting C keys base t).Triple (Free t) (.fail (error e) : PlanProg α)
          (Outcome (fun a w => Ready t since own w ∧ Q a (w.store s.dir).journal)
            fun _ => Free t) := Setting.Triple.fail Free.stable fun _ _ hw => hw
      exact hfail.conseq (fun _ _ hw => hw.1.free) fun _ _ _ hw => hw
    | ok a =>
      have hpure : (planSetting C keys base t).Triple
          (fun w => Ready t since own w ∧ Q a (w.store s.dir).journal) (.pure a : PlanProg α)
          (Outcome (fun a w => Ready t since own w ∧ Q a (w.store s.dir).journal)
            fun _ => Free t) :=
        Setting.Triple.pure (Ready.stable.and (lasting_stable (hQ a) _)) fun _ _ hw => hw
      exact hpure.conseq (fun _ _ hw => ⟨hw.1, hw.2 a rfl⟩) fun _ _ _ hw => hw
  · exact fun _ _ _ hw => hw

/-- A call whose result nothing depends on. -/
theorem call_any {p : Handle → StoreProg α} {Q : α → List (Tid × Change) → Prop}
    {s : StoreHandle} (hQ : ∀ a, Lasting (Q a))
    (h : Runs C (keys s.dir) t c (since s.dir) (p s.handle) Q) :
    Keeps C keys base t since own (s.call error p) fun _ _ => True :=
  (call_keeps hQ h).weaken (fun _ _ hw => hw) (fun _ _ _ hw => ⟨hw.1, trivial⟩) fun _ _ _ hw => hw

/-- What follows a program that keeps everything as it was. -/
theorem Keeps.next {p : PlanProg α} {f : α → PlanProg β} {T : β → PlanWorld → Prop}
    (h : Keeps C keys base t since own p fun _ _ => True)
    (hf : ∀ a, (planSetting C keys base t).Triple (Ready t since own) (f a)
      (Outcome T fun _ => Free t)) :
    (planSetting C keys base t).Triple (Ready t since own) (p >>= f) (Outcome T fun _ => Free t) :=
  Setting.Triple.seq h (fun a => (hf a).conseq (fun _ _ hw => hw.1) fun _ _ _ hw => hw)
    fun _ _ _ hw => hw

theorem pure_keeps (a : α) : Keeps C keys base t since own (pure a : PlanProg α) fun _ _ => True :=
  Setting.Triple.pure Ready.stable fun _ _ hw => ⟨hw, trivial⟩

theorem ofExcept_keeps (x : Except String α) :
    Keeps C keys base t since own (.ofExcept x : PlanProg α) fun _ _ => True := by
  cases x with
  | ok a => exact pure_keeps a
  | error e => exact Setting.Triple.fail Ready.stable fun _ _ hw => hw.free

theorem ensure_keeps (c : Bool) :
    Keeps C keys base t since own (.ensure c e : PlanProg Unit) fun _ _ => True := by
  cases c with
  | true => exact pure_keeps ()
  | false => exact Setting.Triple.fail Ready.stable fun _ _ hw => hw.free

theorem now_keeps :
    Keeps C keys base t since own (.perform PlanAct.now : PlanProg Int) fun _ _ => True := by
  apply Setting.Triple.perform Ready.stable fun _ => Ready.stable.and (.const _)
  intro w ch r w' hi hw he
  cases ch <;> simp only [planSetting, planExec, reduceCtorEq, Option.some.injEq,
    Prod.mk.injEq] at he
  obtain ⟨-, rfl⟩ := he
  exact ⟨hi, PlanGuar.refl C t w, hw, trivial⟩

theorem live_keeps (step : LiveStep) :
    Keeps C keys base t since own (live step) fun _ _ => True := by
  apply Keeps.next _ fun answer => ofExcept_keeps answer
  apply Setting.Triple.perform Ready.stable fun _ => Ready.stable.and (.const _)
  intro w ch r w' hi hw he
  cases ch <;> simp only [planSetting, planExec, reduceCtorEq, Option.some.injEq,
    Prod.mk.injEq] at he
  obtain ⟨-, rfl⟩ := he
  exact ⟨hi, PlanGuar.refl C t w, hw, trivial⟩

theorem lasting_true : Lasting fun _ => True := fun _ _ _ h => h

theorem load_keeps (store : StoreHandle) (reference : String) :
    Keeps C keys base t since own (store.call error (load C · reference)) fun _ _ => True :=
  call_any (c := .load store.handle reference) (fun _ => lasting_true) (decrypt_triple .payload)

theorem bookmark_keeps (store : StoreHandle) (epoch : String) :
    Keeps C keys base t since own (store.call error (reconciliationReference C · epoch))
      fun _ _ => True :=
  call_any (c := .reconciliationReference store.handle epoch) (fun _ => lasting_true)
    reconciliationReference_triple

theorem loadOperations_keeps (store : StoreHandle) (references : List String) :
    Keeps C keys base t since own (loadOperations C E store error references) fun _ _ => True := by
  induction references with
  | nil => exact pure_keeps []
  | cons reference references ih =>
    apply (load_keeps store reference).next
    intro payload
    apply (ofExcept_keeps _).next
    intro operation
    apply ih.next
    exact fun operations => pure_keeps _

theorem directory_keeps (s : StoreHandle) :
    Keeps C keys base t since own (s.call error fun _ => directoryMetadata) fun _ _ => True := by
  apply call_any (c := .load s.handle "") (Q := fun _ _ => True) fun _ => lasting_true
  apply (directoryMetadata_reads (owned_stable.and Lasting.suffix.stable)).outcome.weaken
    (fun _ _ hw => hw)
  · exact fun _ _ _ hw => ⟨hw.1.1, trivial⟩
  · exact fun _ _ _ hw => hw.1

theorem Keeps.attempt {p : PlanProg α} (h : Keeps C keys base t since own p fun _ _ => True)
    {f : Except String α → PlanProg β} {T : β → PlanWorld → Prop}
    (hok : ∀ a, (planSetting C keys base t).Triple (Ready t since own) (f (.ok a))
      (Outcome T fun _ => Free t))
    (he : ∀ e, (planSetting C keys base t).Triple (Free t) (f (.error e))
      (Outcome T fun _ => Free t)) :
    (planSetting C keys base t).Triple (Ready t since own) (p.attempt >>= f)
      (Outcome T fun _ => Free t) :=
  Setting.Triple.attempt h (fun a => (hok a).conseq (fun _ _ hw => hw.1) fun _ _ _ hw => hw) he

theorem bindingOperations_keeps (operations : StoreHandle) (staged : PrivateStagedHandoff) :
    Keeps C keys base t since own (bindingOperations C E operations staged) fun _ _ => True := by
  apply (loadOperations_keeps operations staged.references).attempt
  · exact fun a => pure_keeps a
  · exact fun _ => Setting.Triple.fail Free.stable fun _ _ hw => hw

theorem check_keeps (b : BoundExecution) (operations : StoreHandle)
    (staged : PrivateStagedHandoff) (endpoint session : String) :
    Keeps C keys base t since own (b.check C E operations staged endpoint session)
      fun _ _ => True := by
  unfold BoundExecution.check
  apply Keeps.next (p := sameDirectory b.store operations)
  · apply (directory_keeps b.store).next
    intro left
    apply (directory_keeps operations).next
    exact fun right => pure_keeps _
  intro same
  apply (ensure_keeps _).next
  intro _
  apply now_keeps.next
  intro now
  apply (ensure_keeps _).next
  intro _
  apply (bookmark_keeps b.store _).next
  intro reference
  apply (ensure_keeps _).next
  intro _
  apply (load_keeps b.store b.reference).next
  intro payload
  apply (ofExcept_keeps _).next
  intro binding
  apply now_keeps.next
  intro now
  apply (ofExcept_keeps _).next
  intro expires
  apply (ensure_keeps _).next
  intro _
  apply (bindingOperations_keeps operations staged).next
  intro found
  apply (ensure_keeps _).next
  intro _
  apply now_keeps.next
  intro now
  apply (ensure_keeps _).next
  intro _
  apply now_keeps.next
  exact fun now => ensure_keeps _

theorem validate_keeps (b : BoundExecution) (operations : StoreHandle)
    (staged : PrivateStagedHandoff) (endpoint session : String) :
    Keeps C keys base t since own (b.validate C E operations staged endpoint session)
      fun _ _ => True := by
  have hstatus : Keeps C keys base t since own
      (b.store.call (fun _ => boundRejected) (status C · b.reference)) fun _ _ => True := by
    apply call_any (c := .status b.store.handle b.reference) _ status_triple
    rintro x i j hij ⟨m, hm, hmi, hx⟩
    exact ⟨m, hm, hmi.trans hij, hx⟩
  apply hstatus.next
  intro found
  apply (ensure_keeps _).next
  exact fun _ => check_keeps b operations staged endpoint session

/-- What the journals say for good stays true while a program runs. -/
theorem Keeps.lasting {p : PlanProg α} {F : List (Tid × Change) → Prop}
    (h : Keeps C keys base t since own p fun _ _ => True) (hF : Lasting F) (dir : StoreDir) :
    (planSetting C keys base t).Triple (fun w => Ready t since own w ∧ F (w.store dir).journal) p
      (Outcome (fun _ w => Ready t since own w ∧ F (w.store dir).journal) fun _ => Free t) := by
  apply (h.frame (Y := fun w => F (w.store dir).journal) _ _).weaken (fun _ _ hw => hw)
  · exact fun _ _ _ hw => ⟨hw.1.1, hw.2⟩
  · exact fun _ _ _ hw => hw.1
  · exact fun hw hr => hF _ _ (PlanRely.stores hr dir).grows hw
  · intro w w' hw hg
    rcases PlanGuar.stores hg dir with he | ⟨c, hc⟩
    · rw [he]
      exact hw
    · exact hF _ _ (OpGuar.grows hc) hw

theorem admit_keeps (store : StoreHandle) (reference : String) :
    Keeps C keys base t since own (store.call error (admitOperation C · reference)) fun _ w =>
      Creates t (keys store.dir) store.handle (since store.dir) (.entry reference .admitted) ()
        (w.store store.dir).journal :=
  call_keeps Creates.lasting admit_triple

/-- A claim that is granted has created its receipt. -/
theorem claim_keeps (bindings : StoreHandle) (planId digest : String) (operations : StoreHandle)
    (staged : PrivateStagedHandoff) (endpoint session : String) :
    Keeps C keys base t since own
      (claim C E bindings planId digest operations staged endpoint session) fun b w =>
        (b.store = bindings ∧ b.planId = planId ∧ b.digest = digest) ∧
        Made t (since bindings.dir) (w.store bindings.dir).journal
          (.entry b.reference .admitted) := by
  apply (ensure_keeps _).next
  intro _
  apply (bookmark_keeps bindings _).next
  intro reference
  apply (check_keeps _ operations staged endpoint session).next
  intro _
  apply Setting.Triple.seq (admit_keeps bindings reference)
  · intro _
    apply Setting.Triple.seq ((validate_keeps ⟨bindings, reference, planId, digest⟩ operations
      staged endpoint session).lasting (Creates.lasting ()) bindings.dir)
    · intro _
      exact Setting.Triple.pure (Ready.stable.and (lasting_stable (Creates.lasting ()) _))
        fun _ _ hw => ⟨hw.1, ⟨rfl, rfl, rfl⟩, hw.2.2⟩
    · exact fun _ _ _ hw => hw
  · exact fun _ _ _ hw => hw

end Calls

section Journey
variable {C : Crypto} {E : PrivateEnv} {keys : StoreDir → Bytes} {base : PlanWorld} {t : Tid}
  {since : StoreDir → List (Tid × Change)} {own : List Deed} {store : StoreHandle}

theorem Ready.mono (h : Ready t now own w) (hnow : ∀ dir, since dir <:+ now dir) :
    Ready t since own w :=
  ⟨h.free, fun dir => (hnow dir).trans (h.past dir), h.own⟩

/-- From this moment on: the files of all deeds are there. -/
theorem from_now {p : PlanProg α} {T : Except String α → PlanWorld → Prop}
    (h : ∀ now, (∀ dir, since dir <:+ now dir) →
      (∀ dir, (base.store dir).journal <:+ now dir) →
      (∀ deed ∈ own, deed.marker C keys ∈ createdIn (now deed.dir)) →
      (planSetting C keys base t).Triple (Ready t now own) p T) :
    (planSetting C keys base t).Triple (Ready t since own) p T := by
  intro w hi hw
  apply h (fun dir => (w.store dir).journal) hw.past (PlanInv.grown hi) _ w hi
  · exact ⟨hw.free, fun _ => List.suffix_rfl, hw.own⟩
  · intro deed hd
    rw [← hw.own] at hd
    exact mem_createdIn.mpr ⟨t, (PlanInv.marked hi _ (mem_own.mp hd))⟩

/-- A deed after the call that created its file. -/
theorem deed_triple {a : PlanAct} (deed : Deed)
    (hbase : ∀ dir, (base.store dir).journal <:+ since dir)
    (hold : ∀ d ∈ own, d.marker C keys ∈ createdIn (since d.dir))
    (hopen : ∀ past, DeedHistory past → (∀ d ∈ own, (t, d) ∈ past) →
      DeedHistory ((t, deed) :: past))
    (hact : ∀ c r w w', planExec t (.act a) c w = some (r, w') → w' = w.did t deed) :
    (planSetting C keys base t).Triple
      (fun w => Ready t since own w ∧
        Made t (since deed.dir) (w.store deed.dir).journal (deed.marker C keys))
      (.perform a : PlanProg _)
      (Outcome (fun _ => Ready t since (deed :: own)) fun _ => Free t) := by
  apply Setting.Triple.perform (Ready.stable.and (lasting_stable Lasting.made deed.dir))
    fun _ => Ready.stable
  intro w c r w' hi hw he
  obtain ⟨hready, hmade⟩ := hw
  rw [hact c r w w' he]
  have hown (d : Deed) (hd : d ∈ own) : (t, d) ∈ w.deeds := mem_own.mp (hready.own ▸ hd)
  obtain ⟨hi', hg⟩ := PlanInv.did hi (fun d hd => hold d (hready.own ▸ hd)) (hbase _) hmade
    (hopen _ (PlanInv.history hi) hown)
  refine ⟨hi', hg, hready.free, hready.past, ?_⟩
  rw [own_did, hready.own]

theorem executed_triple (hbase : ∀ dir, (base.store dir).journal <:+ since dir)
    (hold : ∀ d ∈ own, d.marker C keys ∈ createdIn (since d.dir))
    (hstarted : Deed.journeyStarted store.dir consent ∈ own) :
    (planSetting C keys base t).Triple
      (fun w => Ready t since own w ∧ Creates t (keys store.dir) store.handle (since store.dir)
        (.entry reference .admitted) () (w.store store.dir).journal)
      (.perform (PlanAct.executeDom store.dir reference) : PlanProg _)
      (Outcome (fun _ => Ready t since (.operationExecuted store.dir reference :: own))
        fun _ => Free t) := by
  have hdeed := deed_triple (C := C) (t := t) (a := .executeDom store.dir reference)
    (.operationExecuted store.dir reference) hbase hold
    (fun _ hh hown => .executed hh (hown _ hstarted)) (by
      intro ch r w w' he
      cases ch <;> simp only [planExec, reduceCtorEq, Option.some.injEq, Prod.mk.injEq] at he
      exact he.2.symm)
  exact hdeed.conseq (fun _ _ hw => ⟨hw.1, hw.2.2⟩) fun _ _ _ hw => hw

theorem started_triple {consent : String}
    (hbase : ∀ dir, (base.store dir).journal <:+ since dir)
    (hold : ∀ d ∈ own, d.marker C keys ∈ createdIn (since d.dir)) :
    (planSetting C keys base t).Triple
      (fun w => Ready t since own w ∧ Creates t (keys store.dir) store.handle (since store.dir)
        (.entry (journeyKey C store.handle.key consent) .journeyConsent) ()
        (w.store store.dir).journal)
      (.perform (PlanAct.started store.dir consent) : PlanProg _)
      (Outcome (fun _ => Ready t since (.journeyStarted store.dir consent :: own))
        fun _ => Free t) := by
  have hdeed := deed_triple (C := C) (t := t) (a := .started store.dir consent)
    (.journeyStarted store.dir consent) hbase hold (fun _ hh _ => .started hh) (by
      intro ch r w w' he
      cases ch <;> simp only [planExec, reduceCtorEq, Option.some.injEq, Prod.mk.injEq] at he
      exact he.2.symm)
  apply hdeed.conseq _ fun _ _ _ hw => hw
  rintro w _ ⟨hready, hk, hmade⟩
  rw [hk] at hmade
  exact ⟨hready, hmade⟩

theorem stage_keeps (payload : Bytes) :
    Keeps C keys base t since own (store.call error (stage C · payload)) fun _ _ => True :=
  call_any (fun _ => .made) stage_triple

theorem storeResult_keeps (reference : String) (bytes : Bytes) :
    Keeps C keys base t since own (store.call error (storeResult C · reference bytes))
      fun _ _ => True :=
  call_any Creates.lasting storeResult_triple

theorem admit_any (reference : String) :
    Keeps C keys base t since own (store.call error (admitOperation C · reference))
      fun _ _ => True :=
  call_any Creates.lasting admit_triple

theorem acquireAttachment_keeps :
    Keeps C keys base t since own (acquireAttachment C store) fun _ _ => True := by
  apply (live_keeps _).next
  intro admission
  apply (stage_keeps admission).next
  intro reference
  apply (admit_any reference).next
  intro _
  apply (live_keeps _).next
  intro identity
  apply (storeResult_keeps reference identity).next
  intro _
  apply (live_keeps _).next
  intro detach
  apply (stage_keeps detach).next
  exact fun _ => pure_keeps ()

theorem reserveStep_keeps (reference : String) (operation : PrivateOperation) :
    Keeps C keys base t since own (reserveStep C store reference operation) fun _ _ => True := by
  unfold reserveStep
  split
  · apply call_any _ reserveBackupCode_triple
    rintro _ i j hij ⟨hk, m, hm, hq⟩
    exact ⟨hk, m, hm, fun n hn => (hq n hn).mono hij⟩
  · exact pure_keeps ()

/-- An operation that is sent was admitted by the same task just before. -/
theorem executePrivateOperation_triple (reference : String)
    (hstarted : Deed.journeyStarted store.dir consent ∈ own) :
    (planSetting C keys base t).Triple (Ready t since own)
      (executePrivateOperation C E store reference)
      (Outcome (fun _ => Ready t since (.operationExecuted store.dir reference :: own))
        fun _ => Free t) := by
  apply (load_keeps store reference).next
  intro payload
  apply (ofExcept_keeps _).next
  intro operation
  apply (live_keeps _).next
  intro _
  apply (live_keeps _).next
  intro _
  apply (reserveStep_keeps reference operation).next
  intro _
  apply from_now
  intro now hnow hbase hold
  apply Setting.Triple.seq (admit_keeps store reference)
  · intro _
    apply Setting.Triple.seq (executed_triple hbase hold hstarted)
    · intro answer
      apply (ofExcept_keeps answer).next
      intro bytes
      apply (storeResult_keeps reference bytes).next
      intro _
      split
      · exact (pure_keeps _).weaken (fun _ _ hw => hw) (fun _ _ _ hw => hw.1.mono hnow)
          fun _ _ _ hw => hw
      · exact (pure_keeps _).weaken (fun _ _ hw => hw) (fun _ _ _ hw => hw.1.mono hnow)
          fun _ _ _ hw => hw
    · exact fun _ _ _ hw => hw
  · exact fun _ _ _ hw => hw

theorem advanceStage_keeps (index : Nat) :
    Keeps C keys base t since own (advanceStage index) fun _ _ => True := by
  unfold advanceStage
  split
  · apply (live_keeps _).next
    exact fun _ => pure_keeps ()
  · exact pure_keeps ()

theorem executeStages_triple (references : List String)
    (hstarted : Deed.journeyStarted store.dir consent ∈ own) :
    (planSetting C keys base t).Triple (Ready t since own)
      (executeStages C E store index references)
      (Outcome (fun _ => Free t) fun _ => Free t) := by
  induction references generalizing own index with
  | nil => exact Setting.Triple.pure Ready.stable fun _ _ hw => hw.free
  | cons reference references ih =>
    apply (advanceStage_keeps index).next
    intro _
    apply Setting.Triple.seq (executePrivateOperation_triple reference hstarted)
    · intro outcome
      apply (ensure_keeps _).next
      exact fun _ => ih (List.mem_cons_of_mem _ hstarted)
    · exact fun _ _ _ hw => hw

/-- A journey that starts has reserved its consent just before. -/
theorem executePrivateJourney_triple (references : List String) :
    (planSetting C keys base t).Triple (Ready t since own)
      (executePrivateJourney C E store references)
      (Outcome (fun _ => Free t) fun _ => Free t) := by
  apply Keeps.next (p := loadSequence C E store references)
  · apply (ensure_keeps _).next
    intro _
    apply (loadOperations_keeps store references).next
    intro operations
    apply (ofExcept_keeps _).next
    exact fun _ => pure_keeps operations
  intro operations
  apply Setting.Triple.okOr Ready.stable _ fun _ _ _ hw => hw.free
  intro first _
  apply (live_keeps _).next
  intro _
  apply (live_keeps _).next
  intro _
  apply from_now
  intro now hnow hbase hold
  apply Setting.Triple.seq (call_keeps Creates.lasting reserveJourney_triple)
  · intro _
    apply Setting.Triple.seq (started_triple hbase hold) _ fun _ _ _ hw => hw
    intro _
    apply (live_keeps _).next
    intro _
    apply acquireAttachment_keeps.next
    intro _
    apply Setting.Triple.seq (executeStages_triple references List.mem_cons_self)
    · intro _
      cases references[3]? with
      | some r => exact Setting.Triple.pure Free.stable fun _ _ hw => hw
      | none => exact Setting.Triple.fail Free.stable fun _ _ hw => hw
    · exact fun _ _ _ hw => hw
  · exact fun _ _ _ hw => hw

end Journey

section Runs
variable {C : Crypto} {E : PrivateEnv} {keys : StoreDir → Bytes} {base : PlanWorld} {t : Tid}

/-- A claim that is returned was granted for what was asked, and its receipt is there. -/
def Granted (t : Tid) (c : PlanCmd) (since : PlanWorld) (b : BoundExecution) (w : PlanWorld) :
    Prop :=
  (∃ operations staged endpoint session,
    c = .claim b.store b.planId b.digest operations staged endpoint session) ∧
  Made t (since.store b.store.dir).journal (w.store b.store.dir).journal
    (.entry b.reference .admitted)

theorem planReport_triple {p : PlanProg α} {P : PlanWorld → Prop} {Q : α → PlanWorld → Prop}
    {f : α → PlanRes} {T : PlanRes → PlanWorld → Prop}
    (h : (planSetting C keys base t).Triple P p (Outcome Q fun _ => Free t))
    (hok : ∀ a, (planSetting C keys base t).Stable (Q a))
    (hq : ∀ a w, Q a w → Free t w ∧ T (f a) w)
    (he : ∀ e w, T (.failed e) w) :
    (planSetting C keys base t).Triple P (planReport p f)
      (Outcome (fun x w => Free t w ∧ T x.2 w) fun _ _ => False) := by
  apply Setting.Triple.attempt h
  · exact fun a => Setting.Triple.pure (hok a) fun w _ hw => hq a w hw
  · exact fun e => Setting.Triple.pure Free.stable fun w _ hw => ⟨hw, he e w⟩

theorem opBody_triple (c : OpCmd) (key : Bytes) :
    (opSetting C key t c).Triple (fun w => w.owned t = []) (opBody C c)
      fun r w => ∀ x, r = .ok x → w.owned t = [] := by
  intro w hi hw
  apply (opBody_wp c hi hw).mono
  exact fun _ _ _ hr x hx => (hr x hx).1

/-- Any other use of a store leaves the deeds alone. -/
theorem opCall_triple (dir : StoreDir) (c : OpCmd) :
    (planSetting C keys base t).Triple (Ready t since own)
      (planBody C E (.call dir c))
      (Outcome (fun x w => Free t w ∧ ∃ r, x.2 = .call r) fun _ _ => False) := by
  have hosts : Setting.Hosts (planSetting C keys base t) (opSetting C (keys dir) t c) dir
      (PlanWorld.store · dir) (Beside t since own dir) := storeHosts c dir
  apply Setting.Triple.bind (Q := fun r w => (∃ x, r = .ok x) ∧ Free t w)
  · apply (Setting.Triple.within hosts (opBody_triple c (keys dir))).conseq
    · exact fun w _ hw => ⟨hw.free dir, fun d _ => hw.free d, hw.past, hw.own⟩
    · intro r w _ hw
      cases r with
      | error e => exact nomatch e
      | ok x =>
        refine ⟨⟨x, rfl⟩, ?_⟩
        intro d
        by_cases hd : d = dir
        · rw [hd]
          exact hw.1 x rfl
        · exact hw.2.1 d hd
  · intro x
    exact Setting.Triple.pure ((Durable.Stable.const _).and Free.stable)
      fun _ _ hw => ⟨hw.2, _, rfl⟩
  · exact fun e _ _ _ => nomatch e

/-- Every command starts and ends without locks, and returns a claim only if it was granted. -/
theorem planBody_triple (c : PlanCmd) (since : PlanWorld) :
    (planSetting C keys base t).Triple
      (Ready t (fun dir => (since.store dir).journal) (since.own t)) (planBody C E c)
      (Outcome (fun x w => Free t w ∧ ∀ b, x.2 = .claimed b → Granted t c since b w)
        fun _ _ => False) := by
  cases c with
  | call dir c =>
    apply (opCall_triple dir c).weaken (fun _ _ hw => hw)
    · rintro x w _ ⟨hf, r, hr⟩
      refine ⟨hf, ?_⟩
      rw [hr]
      nofun
    · exact fun _ _ _ hw => hw
  | claim bindings planId digest operations staged endpoint session =>
    apply planReport_triple (T := fun x w => ∀ b, x = .claimed b → Granted t _ since b w)
      (claim_keeps bindings planId digest operations staged endpoint session)
    · exact fun b => Ready.stable.and ((Durable.Stable.const _).and
        (lasting_stable Lasting.made bindings.dir))
    · rintro b w ⟨hready, ⟨rfl, rfl, rfl⟩, hmade⟩
      refine ⟨hready.free, ?_⟩
      rintro _ ⟨⟩
      exact ⟨⟨operations, staged, endpoint, session, rfl⟩, hmade⟩
    · exact fun _ _ => nofun
  | validate b operations staged endpoint session =>
    apply planReport_triple (T := fun x w => ∀ b, x = .claimed b → Granted t _ since b w)
      (validate_keeps b operations staged endpoint session)
    · exact fun _ => Ready.stable.and (.const _)
    · exact fun _ _ hw => ⟨hw.1.free, nofun⟩
    · exact fun _ _ => nofun
  | executePrivateJourney store references =>
    apply planReport_triple (T := fun x w => ∀ b, x = .claimed b → Granted t _ since b w)
      (executePrivateJourney_triple references)
    · exact fun _ => Free.stable
    · exact fun _ _ hw => ⟨hw, nofun⟩
    · exact fun _ _ => nofun

/-- The contract of every task that uses the stores. -/
def planContract (C : Crypto) (E : PrivateEnv) (keys : StoreDir → Bytes) (base : PlanWorld) :
    (planMachine C E).Contract where
  Inv := PlanInv C keys base
  Rely := PlanRely
  Guar t _ := PlanGuar C t
  Held t _ w := Free t w
  Post t c since _ r w :=
    PlanInv C keys base since ∧ PlanInv C keys base w ∧ ∀ b, r = .claimed b → Granted t c since b w
  rely_refl := PlanRely.refl
  rely_trans := PlanRely.trans
  guar_rely hu hi hg := hg.rely hu hi
  held_stable hf hr dir := (hr.stores dir).owned.trans (hf dir)
  halt_rest _ _ := World.owned_halted
  halt_inv hi := ⟨fun dir => (hi.stores dir).of_locks ((hi.stores dir).toLockInv.halt _) rfl rfl,
    hi.marked, hi.once, hi.history, hi.grown, hi.kept, hi.fresh⟩
  halt_rely ht _ := ⟨fun _ => ⟨World.owned_halt ht, fun _ _ _ => ⟨rfl, rfl⟩, List.suffix_rfl⟩, rfl⟩
  body_wp {t c l s} hi hf := by
    have hready : Ready t (fun dir => (s.store dir).journal) (s.own t) s :=
      ⟨hf, fun _ => List.suffix_rfl, rfl⟩
    apply ((planBody_triple (C := C) (E := E) c s) s hi hready).mono
    rintro r w hi' hr x rfl
    exact ⟨hr.1, hi, hi', hr.2⟩

/-- New stores with the keys of this root. -/
def freshPlan (keys : StoreDir → Bytes) (device inode : StoreDir → Nat) : PlanWorld where
  store dir := freshWorld (keys dir) (device dir) (inode dir)
  deeds := []

theorem freshPlan_inv :
    PlanInv C keys (freshPlan keys device inode) (freshPlan keys device inode) where
  stores _ := freshStore_inv
  marked := nofun
  once := .nil
  history := .nil
  grown _ := List.suffix_rfl
  kept := List.suffix_rfl
  fresh := nofun

/-- What is left when every process has stopped. -/
def PlanWorld.stopped (w : PlanWorld) : PlanWorld :=
  { w with store := fun dir => { w.store dir with locks := [] } }

theorem PlanInv.stopped (hi : PlanInv C keys base w) : PlanInv C keys w.stopped w.stopped where
  stores dir := (hi.stores dir).of_locks ⟨nofun, nofun⟩ rfl rfl
  marked := hi.marked
  once := hi.once
  history := hi.history
  grown _ := List.suffix_rfl
  kept := List.suffix_rfl
  fresh _ hx := .inl hx

variable {s : (planMachine C E).Pool} (hbase : PlanInv C keys base base)
  (hfree : ∀ t, Free t base) (h : Machine.Reachable (planMachine C E) base s)
include hbase hfree h

theorem plan_holds : (planContract C E keys base).Holds s :=
  h.holds hbase fun t => hfree t

theorem plan_ordered :
    Machine.Ordered (M := planMachine C E)
      (fun v w => ∀ dir, (PlanWorld.store v dir).journal <:+ (PlanWorld.store w dir).journal) s :=
  h.ordered (K := planContract C E keys base) hbase (fun t => hfree t)
    (fun _ _ => List.suffix_rfl) (fun ha hb dir => (ha dir).trans (hb dir))
    (fun hg dir => by
      rcases PlanGuar.stores hg dir with he | ⟨c, hc⟩
      · rw [he]
      · exact OpGuar.grows hc)
    fun _ _ _ => List.suffix_rfl

/-- No two claims that are returned are of one binding. -/
theorem claims_apart :
    s.log.Pairwise fun new old => ∀ b b', new.res = .claimed b → old.res = .claimed b' →
      ¬ (b.store.dir = b'.store.dir ∧ b.reference = b'.reference) := by
  have hk := plan_holds hbase hfree h
  have ho := plan_ordered hbase hfree h
  apply ho.pairs.imp_of_mem
  rintro new old hnew hold hle b b' hb hb' ⟨hdir, href⟩
  obtain ⟨-, hmade⟩ := (hk.posts new hnew).2.2 b hb
  obtain ⟨-, hmade'⟩ := (hk.posts old hold).2.2 b' hb'
  rw [hdir, href] at hmade
  have hsame : new.tid = old.tid := by
    apply (hk.inv.stores b'.store.dir).history.creator
    · exact ((ho.past new hnew).2 b'.store.dir).subset hmade.2
    · exact ((ho.past old hold).2 b'.store.dir).subset hmade'.2
  apply hmade.1
  exact createdIn_mono (hle.2 hsame b'.store.dir) (mem_createdIn.mpr ⟨_, hmade'.2⟩)

omit hbase hfree h in
theorem PlanInv.mem_dir (hi : PlanInv C keys base w) (dir : StoreDir) (reference : String)
    (role : Role) : FileName.entry reference role ∈ (w.store dir).dir ↔
      FileName.entry reference role ∈ createdIn (w.store dir).journal := by
  simp [(hi.stores dir).files]

omit hbase hfree h in
theorem Deed.marker_entry (C : Crypto) (keys : StoreDir → Bytes) (deed : Deed) :
    ∃ reference role, deed.marker C keys = .entry reference role := by
  cases deed with
  | journeyStarted dir consent => exact ⟨_, _, rfl⟩
  | operationExecuted dir reference => exact ⟨_, _, rfl⟩

omit hbase hfree h in
theorem PlanInv.mem_marker (hi : PlanInv C keys base w) (deed : Deed) :
    deed.marker C keys ∈ (w.store deed.dir).dir ↔
      deed.marker C keys ∈ createdIn (w.store deed.dir).journal := by
  obtain ⟨reference, role, he⟩ := deed.marker_entry C keys
  rw [he]
  exact hi.mem_dir deed.dir reference role

omit hbase hfree h in
theorem planExec_deeds (he : planExec t o c w = some (r, w')) : w.deeds <:+ w'.deeds := by
  cases o with
  | part dir o =>
    cases c <;> simp only [planExec, reduceCtorEq, Option.map_eq_some_iff] at he
    obtain ⟨_, _, he⟩ := he
    cases he
    exact List.suffix_rfl
  | act a =>
    cases a <;> cases c <;> simp only [planExec, reduceCtorEq, Option.some.injEq,
      Prod.mk.injEq] at he <;> obtain ⟨-, rfl⟩ := he
    · exact List.suffix_rfl
    · exact List.suffix_rfl
    · exact List.suffix_cons _ _
    · exact List.suffix_cons _ _

omit hbase hfree h in
theorem plan_stays (hk : (planContract C E keys base).Holds s) (hs : s.next e = some s') :
    (∀ dir, (s.world.store dir).journal <:+ (s'.world.store dir).journal) ∧
      s.world.deeds <:+ s'.world.deeds := by
  cases e with
  | start t c =>
    cases hb : s.agent t with
    | busy c since p => simp only [Machine.Pool.next, hb, reduceCtorEq] at hs
    | idle l =>
      simp only [Machine.Pool.next, hb, Option.some.injEq] at hs
      subst hs
      exact ⟨fun _ => List.suffix_rfl, List.suffix_rfl⟩
  | step t ch =>
    cases hb : s.agent t with
    | idle l => simp only [Machine.Pool.next, hb, reduceCtorEq] at hs
    | busy c since p =>
      obtain ⟨_, hg, _⟩ := hk.step_guar hb hs
      constructor
      · intro dir
        rcases PlanGuar.stores hg dir with he | ⟨c, hc⟩
        · rw [he]
        · exact OpGuar.grows hc
      · cases p with
        | pure x => simp only [Machine.Pool.next, hb, reduceCtorEq] at hs
        | fail e => exact e.elim
        | call o k =>
          simp only [Machine.Pool.next, hb, Option.map_eq_some_iff] at hs
          obtain ⟨⟨r, v⟩, he, rfl⟩ := hs
          exact planExec_deeds he
  | finish t =>
    obtain ⟨c, since, l, r, _, hw, _⟩ := hk.finish_post hs
    rw [hw]
    exact ⟨fun _ => List.suffix_rfl, List.suffix_rfl⟩
  | stop pid =>
    simp only [Machine.Pool.next, Option.some.injEq] at hs
    subst hs
    exact ⟨fun _ => List.suffix_rfl, List.suffix_rfl⟩

omit hbase hfree h in
/-- Of fresh stores, over any interleaving and any process stops, up to a stop of everything, and
of what is left from there on: no two claims that are returned are of one binding; no journey is
started and no operation executed twice, and an operation only in a journey that its task
started; a claim is returned when its receipt is there, and it was not there when the claim
began; files and deeds stay; and whatever had its file when everything stopped is neither
claimed, started nor executed afterwards. -/
theorem private_plan_single_use (device inode : StoreDir → Nat) {s₀ s : (planMachine C E).Pool}
    (h₀ : Machine.Reachable (planMachine C E) (freshPlan keys device inode) s₀)
    (h : Machine.Reachable (planMachine C E) (PlanWorld.stopped s₀.world) s) :
    ((s.log ++ s₀.log).Pairwise fun new old => ∀ b b', new.res = .claimed b →
      old.res = .claimed b' → ¬ (b.store.dir = b'.store.dir ∧ b.reference = b'.reference)) ∧
    (∀ deed, (s.world.deeds.filter (·.2 = deed)).length ≤ 1) ∧
    DeedHistory s.world.deeds ∧
    (∀ x ∈ s.world.deeds, x.2.marker C keys ∈ (s.world.store x.2.dir).dir) ∧
    (∀ e ∈ s.log, ∀ b, e.res = .claimed b →
      FileName.entry b.reference .admitted ∉ (e.before.store b.store.dir).dir ∧
      FileName.entry b.reference .admitted ∈ (e.after.store b.store.dir).dir) ∧
    (∀ e s', s.next e = some s' →
      (∀ dir, ∀ name ∈ (s.world.store dir).dir, name ∈ (s'.world.store dir).dir) ∧
      s.world.deeds <:+ s'.world.deeds) ∧
    (∀ e ∈ s.log, ∀ b, e.res = .claimed b →
      FileName.entry b.reference .admitted ∉ (s₀.world.store b.store.dir).dir) ∧
    ∀ x ∈ s.world.deeds, x ∈ s₀.world.deeds ∨
      x.2.marker C keys ∉ (s₀.world.store x.2.dir).dir := by
  have hfresh : ∀ t, Free t (freshPlan keys device inode) := fun _ _ => rfl
  have hstopped : ∀ t, Free t (PlanWorld.stopped s₀.world) := fun _ _ => rfl
  have hk₀ := plan_holds freshPlan_inv hfresh h₀
  have ho₀ := plan_ordered freshPlan_inv hfresh h₀
  have hbase := hk₀.inv.stopped
  have hk := plan_holds hbase hstopped h
  have hnew (e : (planMachine C E).Entry) (he : e ∈ s.log) (b : BoundExecution)
      (hb : e.res = .claimed b) : FileName.entry b.reference .admitted ∉
        createdIn (s₀.world.store b.store.dir).journal := by
    obtain ⟨hbefore, _, hgrant⟩ := hk.posts e he
    exact fun hc => (hgrant b hb).2.1 (createdIn_mono (hbefore.grown b.store.dir) hc)
  refine ⟨?_, ?_, hk.inv.history, ?_, ?_, ?_, ?_, ?_⟩
  · refine List.pairwise_append.mpr ⟨claims_apart hbase hstopped h,
      claims_apart freshPlan_inv hfresh h₀, ?_⟩
    rintro new hnewlog old hold b b' hb hb' ⟨hdir, href⟩
    obtain ⟨-, -, hgrant⟩ := hk₀.posts old hold
    apply hnew new hnewlog b hb
    rw [hdir, href]
    exact mem_createdIn.mpr ⟨_, ((ho₀.past old hold).2 b'.store.dir).subset (hgrant b' hb').2.2⟩
  · intro deed
    apply filter_length_le_one
    apply hk.inv.once.imp
    rintro x y hne ⟨hx, hy⟩
    simp only [decide_eq_true_eq] at hx hy
    rw [hx, hy] at hne
    exact hne ⟨rfl, rfl⟩
  · exact fun x hx => (hk.inv.mem_marker x.2).mpr (mem_createdIn.mpr ⟨x.1, hk.inv.marked x hx⟩)
  · intro e he b hb
    obtain ⟨hbefore, hafter, hgrant⟩ := hk.posts e he
    obtain ⟨-, hmade⟩ := hgrant b hb
    rw [hbefore.mem_dir, hafter.mem_dir]
    exact ⟨hmade.1, mem_createdIn.mpr ⟨_, hmade.2⟩⟩
  · intro e s' hs
    obtain ⟨hgrows, hdeeds⟩ := plan_stays hk hs
    refine ⟨?_, hdeeds⟩
    intro dir name hn
    apply (((hk.next hs).inv.stores dir).files name).mpr
    exact (((hk.inv.stores dir).files name).mp hn).imp_right (createdIn_mono (hgrows dir))
  · intro e he b hb
    rw [hk₀.inv.mem_dir]
    exact hnew e he b hb
  · intro x hx
    rw [hk₀.inv.mem_marker]
    exact hk.inv.fresh x hx

end Runs

section Sample

def samplePlan : String := "0123456789abcdef0123456789abcdef"

def samplePlanKey : String := "3eb1bd439947eb762998e566ccc2e099c791118b2f40579cc4f7da2b5061b7f9"

/-- A binding of the plan, in the list form of a record. -/
def sampleBinding : String :=
  "[\"bind\",\"0123456789abcdef0123456789abcdef\",\"aaaaaaaaaaaaaaaaaaaaaaaaaaaaaaaaaaaaaaa" ++
    "aaaaaaaaaaaaaaaaaaaaaaaaa\",\"p\",\"session:s\",\"s\",\"0123456789ABCDEF0123456789ABCDEF" ++
    "\",\"ws://ab/\",\"2030-01-01T00:00:00Z\"]"

def sampleRenew : String :=
  "[\"agent-browser.private-operation.v1\",\x7b\"profileId\":\"p\",\"browserId\":\"session:" ++
    "s\",\"sessionName\":\"s\",\"targetId\":\"0123456789ABCDEF0123456789ABCDEF\"\x7d,\"https:" ++
    "//sam.gov\",\"https://sam.gov/\",\"aaaaaaaaaaaaaaaaaaaaaaaaaaaaaaaaaaaaaaaaaaaaaaaaaaaaa" ++
    "aaaaaaaaaaa\",\"login.gov:a@b.co\",[\"renew\",\"#a\",\"#b\",\"a@b.co\"]]"

/-- The packages as they answer when a plan is bound, claimed, and claimed again. -/
def planCrypto : Crypto :=
  .recorded
    [storeSeal sampleReference .payload 1 (bytesOf sampleBinding)
      (bigEndian 43 [
        0x2dc3ebdefedbce22f3e4ed13430345079fc32d957af45f763e0172505580038df58a31d1fe70e1e5385064,
        0x29a01f8ff8ef7a88633cdf9e3ec323c669b743e4f4c8863f516fad574c02397801ca4560f932ee025662ab,
        0x7a4c4d507890d9f9be6f6cbd7ef6cca67dac556e13c84296619e3859e140b6197efacfcdb957bb45bbeb7e,
        0x208f7ee626b4f157ffb66a550141b14ac02a6178a46d9210e2161e9869560c9c0f701a960c6667e0e7c653,
        0x09ed1ec20c61775933f3d226e2d2f79c37d208c73cc3600896f9068950e6c9342bccda63ed9664c4d1100d]),
      storeSeal "ed55ec2e027a18b0b5933974a16277be0ff785400a06cc9589e8b7ee1d759b24" .reconciliation 2
      (bytesOf sampleReference)
      (bigEndian 40 [
        0x7bd588663a8ad4467b31e7d683e3ad1bab72099b11d74bd5a76b92287bf0da12e3b7f7e052995df2,
        0xa2d79087f58ee148d3136866e99608d76aa15dbef90be52866149ffc835e0c094e3011e0349f37f4]),
      storeSeal restagedReference .payload 3 (bytesOf sampleRenew)
      (bigEndian 39 [
        0x7edcc2643f462a6f18322c2b98328d229d4e8999d5e1f15d40aee2c3829129d7df890b13b9d7de,
        0x62befa2463e4a2820c430629e6f9a011554e5a41d44d49fa2193c1015adcc307622089d9bda7b5,
        0xe8118ecfba06630c20638d3cb1f549225220e9e044c6de04453f35a9043348d32c96a9a15c5948,
        0xacfe48ebd8a3dd2b7c2fd28881d8f0162fd866c74257a22528e642f103e3bba3e0822e23821898,
        0xf723aae9451db4652e18f30365e68bc30df0d54d1eca81e855f116b7dcb6c8e5bb66810e567dfc,
        0x853a5d7874f1786036f08e58fe2b2b30b6ee924b5c9b479e3e400cf589c13aa0df45fb82a5b99f,
        0x56c62348aa7db13ed6c312faf7daec7ba5bf48312ac4f47a5e4dd4771214f36e15c73ab8ffd9ee,
        0xc145a5bc047090129e96693df05661ddb8d44c3b5e27cba0bb75267412d47e81f7f65bdc231062])]
    []
    [((sampleKey, bytesOf "agent-browser-backup-reservation-key-v1"), derivedKey),
      ((derivedKey, fingerprintInput (bytesOf "reconciliation-bookmark") [bytesOf samplePlanKey]),
        bigEndian 32 [0xed55ec2e027a18b0b5933974a16277be0ff785400a06cc9589e8b7ee1d759b24])]

def planEnv : PrivateEnv where
  parseUrl value :=
    if value = "ws://ab/" then some {
      scheme := "ws", host := some "ab", username := "", password := none, port := none,
      query := none, fragment := none, origin := "ws://ab", text := value }
    else samplePrivateEnv.parseUrl value
  sha256 bytes :=
    if bytes = bytesOf samplePlan then samplePlanKey else samplePrivateEnv.sha256 bytes
  parseTime := samplePrivateEnv.parseTime

def sampleStore (dir : StoreDir) (id : Nat) : StoreHandle := ⟨dir, ⟨id, sampleKey⟩⟩

def sampleStaged : PrivateStagedHandoff := ⟨List.replicate 4 restagedReference, 1893455000000000000⟩

/-- A command of task `t`: its start, the answers it gets, its end. -/
def planCall (t : Tid) (c : PlanCmd) (answers : List PlanChoice) :
    List (planMachine planCrypto planEnv).Event :=
  .start t c :: answers.map (Machine.Event.step (M := planMachine planCrypto planEnv) t) ++
    [.finish t]

/-- Store calls that the system answers as asked. -/
def asked (n : Nat) : List PlanChoice := List.replicate n (.store .ok)

def sampleClaim (id : Nat) : PlanCmd :=
  .claim (sampleStore .bindings id) samplePlan (sampleDigest 'a') (sampleStore .operations id)
    sampleStaged "ws://ab/" "s"

/-- A plan is bound and its operation staged; then the plan is claimed. -/
def sampleGrant : List (planMachine planCrypto planEnv).Event :=
  planCall (0, 0) (.call .bindings (.stage ⟨0, sampleKey⟩ (bytesOf sampleBinding)))
    (asked 4 ++ [PlanChoice.store (.drawn sampleReference), .store (.nonce (List.replicate 12 1))] ++
      asked 6) ++
  planCall (0, 0) (.call .bindings
    (.bindReconciliation ⟨0, sampleKey⟩ samplePlanKey sampleReference))
    (asked 4 ++ [PlanChoice.store (.nonce (List.replicate 12 2))] ++ asked 6) ++
  planCall (0, 0) (.call .operations (.stage ⟨0, sampleKey⟩ (bytesOf sampleRenew)))
    (asked 4 ++ [PlanChoice.store (.drawn restagedReference), .store (.nonce (List.replicate 12 3))] ++
      asked 6) ++
  planCall (0, 0) (sampleClaim 0)
    (asked 7 ++ [PlanChoice.time 0] ++ asked 10 ++ [PlanChoice.time 0] ++ asked 20 ++ [PlanChoice.time 0, .time 0] ++ asked 19 ++
      [PlanChoice.time 0] ++ asked 10 ++ [PlanChoice.time 0] ++ asked 20 ++ [PlanChoice.time 0, .time 0])

/-- Another process claims the plan again. -/
def sampleReclaim : List (planMachine planCrypto planEnv).Event :=
  planCall (1, 0) (sampleClaim 1)
    (asked 7 ++ [PlanChoice.time 0] ++ asked 10 ++ [PlanChoice.time 0] ++ asked 20 ++ [PlanChoice.time 0, .time 0] ++ asked 7)

def sampleRoot : PlanWorld :=
  freshPlan (fun _ => sampleKey) (fun _ => 1) fun
    | .operations => 2
    | .bindings => 3
    | .recovery => 4

def PlanRes.isClaim : PlanRes → Bool
  | .claimed _ => true
  | _ => false

/-- What the logged commands came to. -/
def outcomes (s : (planMachine planCrypto planEnv).Pool) : List PlanRes := s.log.map (·.res)

/-- The run that grants the claim ended so. -/
def granted (s : (planMachine planCrypto planEnv).Pool) : Bool :=
  (outcomes s).map PlanRes.isClaim = [true, false, false, false]

def refused (s : (planMachine planCrypto planEnv).Pool) : Bool :=
  outcomes s = [.failed boundRejected]

def thenRefused (s : (planMachine planCrypto planEnv).Pool) : Bool :=
  granted s && ((Machine.Pool.initial (planMachine planCrypto planEnv)
    (PlanWorld.stopped s.world)).runs sampleReclaim).any refused

def readBinding : Binding where
  planId := samplePlan
  manifestSha256 := sampleDigest 'a'
  profileId := "p"
  browserId := "session:s"
  sessionName := "s"
  targetId := "0123456789ABCDEF0123456789ABCDEF"
  endpoint := "ws://ab/"
  expiresAt := "2030-01-01T00:00:00Z"

def readRenewal : PrivateOperation where
  schema := "agent-browser.private-operation.v1"
  serviceTabHandle := .object [("browserId", .string "session:s"), ("profileId", .string "p"),
    ("sessionName", .string "s"), ("targetId", .string "0123456789ABCDEF0123456789ABCDEF")]
  expectedOrigin := "https://sam.gov"
  expectedUrl := "https://sam.gov/"
  consentSha256 := sampleDigest 'a'
  accountScope := "login.gov:a@b.co"
  operation := .renew "#a" "#b" "a@b.co"

theorem sampleBinding_parse : Binding.parse = fun payload =>
    if payload = bytesOf sampleBinding then .ok readBinding else Binding.parse payload := by
  have hread : Binding.parse (bytesOf sampleBinding) = .ok readBinding := by
    rw [Binding.parse, readRaw_ascii (by decide +kernel)]
    decide +kernel
  funext payload
  split
  · rename_i he
    rw [he, hread]
  · rfl

theorem sampleRenew_parse : PrivateOperation.parse planEnv = fun payload =>
    if payload = bytesOf sampleRenew then .ok readRenewal
    else PrivateOperation.parse planEnv payload := by
  have hascii : (bytesOf sampleRenew).all (· < 128) = true := by decide +kernel
  have hsize : ((bytesOf sampleRenew).isEmpty || (bytesOf sampleRenew).length > maxBytes) =
      false := by decide +kernel
  have hread : readOperation (bytesOf sampleRenew) = some readRenewal := by
    rw [readOperation, readRaw_ascii hascii, readValue_ascii hascii]
    decide +kernel
  have hvalid : readRenewal.validate planEnv = .ok () := by decide +kernel
  funext payload
  split
  · rename_i he
    rw [he, PrivateOperation.parse, hsize, hread]
    simp only [refuseIf, orRefuse, hvalid, bind, Except.bind, Bool.false_eq_true, if_false]
  · rfl

/-- The run of a command, from the program that its task starts. -/
theorem planCall_runs {s : (planMachine planCrypto planEnv).Pool} {t : Tid} {c : PlanCmd}
    {answers : List PlanChoice} :
    s.runs (planCall t c answers) =
      (match s.agent t with
        | .idle _ =>
          some { s with agent := s.set t (.busy c s.world (planBody planCrypto planEnv c)) }
        | .busy .. => none).bind fun (u : (planMachine planCrypto planEnv).Pool) =>
          u.runs (answers.map (Machine.Event.step (M := planMachine planCrypto planEnv) t) ++
            [Machine.Event.finish t]) := by
  simp only [planCall, List.cons_append, Machine.Pool.runs, Machine.Pool.next]
  cases s.agent t with
  | idle l => rfl
  | busy c since p => rfl

/-- A plan is claimed; after everything stopped, its second claim is refused. -/
theorem private_plan_single_use_reclaimed :
    ∃ s₀ s : (planMachine planCrypto planEnv).Pool,
      Machine.Reachable (planMachine planCrypto planEnv) sampleRoot s₀ ∧
      Machine.Reachable (planMachine planCrypto planEnv) (PlanWorld.stopped s₀.world) s ∧
      granted s₀ = true ∧ refused s = true ∧
      ∀ e ∈ s.log, ∀ b, e.res = .claimed b →
        FileName.entry b.reference .admitted ∉ (s₀.world.store b.store.dir).dir := by
  have hrun : ((Machine.Pool.initial (planMachine planCrypto planEnv) sampleRoot).runs
      sampleGrant).any thenRefused = true := by
    have hthen : thenRefused = fun s => granted s &&
      ((Machine.Pool.initial (planMachine planCrypto planEnv) (PlanWorld.stopped s.world)).runs
        sampleReclaim).any refused := rfl
    rw [hthen, sampleGrant, sampleReclaim, Machine.Pool.runs_append]
    -- the claims are written out, so that their two readers can be replaced by what they read
    simp only [planCall_runs (c := sampleClaim _)]
    simp only [sampleClaim, planBody, claim, BoundExecution.check, BoundExecution.validate,
      bindingOperations, sampleStaged, List.replicate, loadOperations]
    rw [sampleBinding_parse, sampleRenew_parse]
    decide +kernel
  obtain ⟨s₀, h₀, hf⟩ := Machine.Reachable.of_runs hrun
  obtain ⟨hgrant, hreclaim⟩ := Bool.and_eq_true_iff.mp hf
  obtain ⟨s, h, hs⟩ := Machine.Reachable.of_runs hreclaim
  have huse := private_plan_single_use (fun _ => 1) _ h₀ h
  exact ⟨s₀, s, h₀, h, hgrant, hs, huse.2.2.2.2.2.2.1⟩

end Sample

end AgentBrowser.Private
